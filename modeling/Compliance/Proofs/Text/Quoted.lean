import Compliance.Text.Pieces
import Compliance.Text.Quoted
import Mathlib.Data.List.Basic

/-!
# Reading quoted texts

Every character is written between the quotes in a form that shows where it ends: as itself,
as a backslash and one letter, or as a backslash and its code point in braces.  No form
begins with a quote, and no form is the beginning of another one (`IsWritten.append_inj`).
So the closing quote is found whatever the text and whatever follows it, and texts that are
quoted alike are the same (`quotedChars_append_inj`).
-/

namespace Compliance.Text

open List

/-! ## Code points -/

/-- The last digit stands for the remainder, and those before it for the quotient. -/
theorem hexDigits_eq_append (number : Nat) :
    hexDigits number =
      (if number < 16 then [] else hexDigits (number / 16)) ++ [(number % 16).digitChar] := by
  unfold hexDigits
  split
  · rename_i hsmall
    rw [Nat.toDigits_of_lt_base hsmall, Nat.mod_eq_of_lt hsmall, nil_append]
  · rename_i hlarge
    exact Nat.toDigits_of_base_le (by decide) (Nat.le_of_not_lt hlarge)

theorem hexDigits_ne_nil (number : Nat) : hexDigits number ≠ [] := Nat.toDigits_ne_nil

/-- The digits of a number are those of no other number. -/
theorem hexDigits_injective {first second : Nat} (hdigits : hexDigits first = hexDigits second) :
    first = second := by
  have hdigit : ∀ a < 16, ∀ b < 16, Nat.digitChar a = Nat.digitChar b → a = b := by decide
  induction first using Nat.strongRecOn generalizing second with
  | ind first ih =>
      rw [hexDigits_eq_append first, hexDigits_eq_append second, append_singleton_inj] at hdigits
      obtain ⟨hquotient, hremainder⟩ := hdigits
      have hremainder := hdigit _ (Nat.mod_lt _ (by decide)) _ (Nat.mod_lt _ (by decide)) hremainder
      split at hquotient <;> split at hquotient
      · omega
      · exact absurd hquotient.symm (hexDigits_ne_nil _)
      · exact absurd hquotient (hexDigits_ne_nil _)
      · have := ih (first / 16) (by omega) hquotient
        omega

/-- The brace that closes a code point is no digit. -/
theorem brace_not_mem_hexDigits (number : Nat) : '\x7d' ∉ hexDigits number := by
  have hdigit : ∀ digit < 16, '\x7d' ≠ Nat.digitChar digit := by decide
  induction number using Nat.strongRecOn with
  | ind number ih =>
      rw [hexDigits_eq_append, mem_append, mem_singleton, not_or]
      refine ⟨?_, hdigit _ (Nat.mod_lt _ (by decide))⟩
      split
      · exact not_mem_nil
      · exact ih (number / 16) (by omega)

/-! ## Single characters -/

/-- The letters that may follow a backslash, with the characters that they stand for. -/
def letters : List (Char × Char) :=
  [('"', '"'), ('\\', '\\'), ('n', '\n'), ('r', '\r'), ('t', '\t'), ('0', '\x00')]

/-- The forms of a character between quotes. -/
inductive IsWritten : Char → List Char → Prop
  | letter {letter c : Char} (hletter : (letter, c) ∈ letters) : IsWritten c ['\\', letter]
  | code (c : Char) :
      IsWritten c (['\\', 'u', '\x7b'] ++ hexDigits c.toNat ++ ['\x7d'])
  | plain {c : Char} (hquote : c ≠ '"') (hbackslash : c ≠ '\\') : IsWritten c [c]

theorem isWritten_escape (c : Char) : IsWritten c (escape c) := by
  unfold escape
  split
  · exact .letter (by decide)
  · exact .letter (by decide)
  · exact .letter (by decide)
  · exact .letter (by decide)
  · exact .letter (by decide)
  · exact .letter (by decide)
  · rename_i hquote hbackslash _ _ _ _
    split
    · exact .code c
    · exact .plain hquote hbackslash

namespace IsWritten

variable {c d : Char} {piece other rest others : List Char}

/-- No form begins with a quote. -/
theorem exists_eq_cons (hpiece : IsWritten c piece) :
    ∃ first later, piece = first :: later ∧ first ≠ '"' := by
  cases hpiece with
  | letter _ => exact ⟨_, _, rfl, by decide⟩
  | code c => exact ⟨_, _, rfl, by decide⟩
  | plain hquote _ => exact ⟨_, _, rfl, hquote⟩

/-- Where a form ends and which character it stands for can be told from what follows it. -/
theorem append_inj (hpiece : IsWritten c piece) (hother : IsWritten d other)
    (heq : piece ++ rest = other ++ others) : c = d ∧ rest = others := by
  have hunique : ∀ first ∈ letters, ∀ second ∈ letters, first.1 = second.1 →
      first.2 = second.2 := by decide
  have hcode : ∀ entry ∈ letters, entry.1 ≠ 'u' := by decide
  cases hpiece with
  | letter hletter =>
      cases hother with
      | letter hletter' =>
          obtain ⟨rfl, rfl⟩ : _ = _ ∧ rest = others := by simpa using heq
          exact ⟨hunique _ hletter _ hletter' rfl, rfl⟩
      | code _ =>
          obtain ⟨rfl, -⟩ : _ = 'u' ∧ _ := by simpa using heq
          exact absurd rfl (hcode _ hletter)
      | plain _ hbackslash => exact absurd (cons.inj heq).1.symm hbackslash
  | code _ =>
      cases hother with
      | letter hletter' =>
          obtain ⟨rfl, -⟩ : 'u' = _ ∧ _ := by simpa using heq
          exact absurd rfl (hcode _ hletter')
      | code _ =>
          have hdigits : hexDigits c.toNat ++ '\x7d' :: rest =
              hexDigits d.toNat ++ '\x7d' :: others := by
            simpa using heq
          -- the first brace ends the digits on both sides
          have hcut := cut?_append_cons (brace_not_mem_hexDigits c.toNat) rest
          rw [hdigits, cut?_append_cons (brace_not_mem_hexDigits d.toNat)] at hcut
          obtain ⟨hcodes, rfl⟩ := Prod.mk.inj (Option.some.inj hcut)
          exact ⟨Char.toNat_inj.mp (hexDigits_injective hcodes.symm), rfl⟩
      | plain _ hbackslash => exact absurd (cons.inj heq).1.symm hbackslash
  | plain _ hbackslash =>
      cases hother with
      | letter _ => exact absurd (cons.inj heq).1 hbackslash
      | code _ => exact absurd (cons.inj heq).1 hbackslash
      | plain _ _ => exact cons.inj heq

end IsWritten

/-! ## Whole texts -/

/-- The first quote that is not part of a form closes the text. -/
theorem flatMap_escape_append_inj {text other rest others : List Char}
    (heq : text.flatMap escape ++ '"' :: rest = other.flatMap escape ++ '"' :: others) :
    text = other ∧ rest = others := by
  induction text generalizing other with
  | nil =>
      cases other with
      | nil => simpa using heq
      | cons d other =>
          obtain ⟨first, later, hd, hfirst⟩ := (isWritten_escape d).exists_eq_cons
          rw [flatMap_cons, hd] at heq
          exact absurd (cons.inj heq).1.symm hfirst
  | cons c text ih =>
      cases other with
      | nil =>
          obtain ⟨first, later, hc, hfirst⟩ := (isWritten_escape c).exists_eq_cons
          rw [flatMap_cons, hc] at heq
          exact absurd (cons.inj heq).1 hfirst
      | cons d other =>
          rw [flatMap_cons, flatMap_cons, append_assoc, append_assoc] at heq
          obtain ⟨rfl, hrest⟩ := (isWritten_escape c).append_inj (isWritten_escape d) heq
          obtain ⟨rfl, rfl⟩ := ih hrest
          exact ⟨rfl, rfl⟩

/-- A quoted text can be told from what follows it, and it is quoted like no other text. -/
theorem quotedChars_append_inj {text other rest others : List Char}
    (heq : quotedChars text ++ rest = quotedChars other ++ others) :
    text = other ∧ rest = others :=
  flatMap_escape_append_inj (by simpa [quotedChars] using heq)

end Compliance.Text
