import Compliance.Text.Raw
import Mathlib.Data.List.Lex

/-!
# Texts in the order of their octets

Texts are compared by the codes of their characters, and raw texts by their octets.  Both
come to the same (`octets_lt_of_lt`): in UTF-8 a greater code has the greater octet at the
first place where the octets differ, and the octets of one character are never a beginning
of those of another one.
-/

namespace Compliance.Text

open List

theorem octets_eq_flatMap (text : String) :
    octets text = text.toList.flatMap String.utf8EncodeChar := by
  have hencode : text.toUTF8 = text.toList.utf8Encode := String.utf8Encode_toList.symm
  rw [octets, hencode, List.utf8Encode]
  simp

/-- The octets of a character by its code; the first one tells how many there are. -/
private theorem encode_cases (c : Char) :
    let code := c.val.toNat
    (code < 0x80 ∧ String.utf8EncodeChar c = [.ofNat code]) ∨
    (0x80 ≤ code ∧ code < 0x800 ∧ String.utf8EncodeChar c =
      [.ofNat (code / 64 + 192), .ofNat (code % 64 + 128)]) ∨
    (0x800 ≤ code ∧ code < 0x10000 ∧ String.utf8EncodeChar c =
      [.ofNat (code / 64 / 64 + 224), .ofNat (code / 64 % 64 + 128), .ofNat (code % 64 + 128)]) ∨
    0x10000 ≤ code ∧ code < 0x110000 ∧ String.utf8EncodeChar c =
      [.ofNat (code / 64 / 64 / 64 + 240), .ofNat (code / 64 / 64 % 64 + 128),
        .ofNat (code / 64 % 64 + 128), .ofNat (code % 64 + 128)] := by
  intro code
  have hvalid : code < 0x110000 := by
    have hchar := c.valid
    simp only [UInt32.isValidChar, Nat.isValidChar] at hchar
    omega
  have hencode : String.utf8EncodeChar c =
      if code ≤ 127 then [.ofNat code]
      else if code ≤ 2047 then [.ofNat (code / 64 % 32 + 192), .ofNat (code % 64 + 128)]
      else if code ≤ 65535 then
        [.ofNat (code / 4096 % 16 + 224), .ofNat (code / 64 % 64 + 128), .ofNat (code % 64 + 128)]
      else
        [.ofNat (code / 262144 % 8 + 240), .ofNat (code / 4096 % 64 + 128),
          .ofNat (code / 64 % 64 + 128), .ofNat (code % 64 + 128)] := rfl
  have hsquare : code / 4096 = code / 64 / 64 := by omega
  have hcube : code / 262144 = code / 64 / 64 / 64 := by omega
  rw [hencode, hsquare, hcube]
  split
  · exact .inl ⟨by omega, rfl⟩
  split
  · rw [Nat.mod_eq_of_lt (b := 32) (by omega)]
    exact .inr (.inl ⟨by omega, by omega, rfl⟩)
  split
  · rw [Nat.mod_eq_of_lt (b := 16) (by omega)]
    exact .inr (.inr (.inl ⟨by omega, by omega, rfl⟩))
  · rw [Nat.mod_eq_of_lt (b := 8) (by omega)]
    exact .inr (.inr (.inr ⟨by omega, by omega, rfl⟩))

/-- A character of the ASCII set is one octet. -/
theorem length_octets_of_ascii {text : String} (hascii : ∀ c ∈ text.toList, c.toNat < 0x80) :
    (octets text).length = text.length := by
  have hone : ∀ c ∈ text.toList, (String.utf8EncodeChar c).length = 1 := by
    intro c hc
    have hcode : c.val.toNat < 0x80 := hascii c hc
    rcases encode_cases c with ⟨-, hencode⟩ | ⟨hge, -, -⟩ | ⟨hge, -, -⟩ | ⟨hge, -, -⟩
    · rw [hencode]
      rfl
    all_goals omega
  rw [octets_eq_flatMap, length_flatMap, map_congr_left hone, ← String.length_toList]
  simp

/-- Two characters decide, whatever follows them. -/
private theorem encode_append_lt {c d : Char} (hlt : c < d) (first second : List UInt8) :
    String.utf8EncodeChar c ++ first < String.utf8EncodeChar d ++ second := by
  have hcodes : c.val.toNat < d.val.toNat := hlt
  rcases encode_cases c with ⟨hc, hencode⟩ | ⟨hc, hc', hencode⟩ | ⟨hc, hc', hencode⟩ |
    ⟨hc, hc', hencode⟩
  all_goals
    rcases encode_cases d with ⟨hd, hencode'⟩ | ⟨hd, hd', hencode'⟩ | ⟨hd, hd', hencode'⟩ |
      ⟨hd, hd', hencode'⟩
  all_goals
    rw [hencode, hencode']
    simp only [cons_append, nil_append, cons_lt_cons_iff, UInt8.lt_iff_toNat_lt,
      ← UInt8.toNat_inj, UInt8.toNat_ofNat']
    omega

private theorem flatMap_encode_lt {first second : List Char} (hlt : first < second) :
    first.flatMap String.utf8EncodeChar < second.flatMap String.utf8EncodeChar := by
  induction hlt with
  | @nil d second =>
      obtain ⟨octet, others, hencode⟩ :=
        exists_cons_of_ne_nil (String.utf8EncodeChar_ne_nil (c := d))
      rw [flatMap_cons, hencode]
      exact .nil
  | rel hlt => exact encode_append_lt hlt _ _
  | @cons c first second _ ih => exact Lex.append_left _ ih _

/-- The order of texts is the order of their octets. -/
theorem octets_lt_of_lt {first second : String} (hlt : first < second) :
    octets first < octets second := by
  rw [octets_eq_flatMap, octets_eq_flatMap]
  exact flatMap_encode_lt (String.lt_iff.mp hlt)

end Compliance.Text

/-! ## Raw texts in order -/

namespace Compliance.RawText

variable {first second third : RawText}

theorem le_trans (hfirst : first ≤ second) (hsecond : second ≤ third) : first ≤ third :=
  List.le_trans (α := UInt8) hfirst hsecond

theorem le_total (first second : RawText) : first ≤ second ∨ second ≤ first :=
  List.le_total first.octets second.octets

theorem le_antisymm (hle : first ≤ second) (hge : second ≤ first) : first = second := by
  cases first
  cases second
  exact congrArg RawText.mk (List.le_antisymm hle hge)

theorem lt_asymm (hlt : first < second) : ¬ second < first :=
  List.lt_asymm (α := UInt8) hlt

theorem ne_of_lt (hlt : first < second) : first ≠ second := by
  rintro rfl
  exact lt_asymm hlt hlt

theorem not_lt : ¬ first < second ↔ second ≤ first := Iff.rfl

end Compliance.RawText
