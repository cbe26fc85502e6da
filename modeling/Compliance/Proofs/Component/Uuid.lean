import Compliance.Component.Uuid
import Mathlib.Algebra.GroupWithZero.Nat

/-!
# Written identifiers are read back

An identifier is written with hyphens, which makes it longer than its thirty-two
digits, and begins with a digit, so that neither a brace nor `urn:uuid:` is taken
off.  What is left is to take the hyphens out again and to read the digits one by
one.
-/

namespace Compliance.Uuid

/-! ## Digits -/

theorem digit?_digitChar : ∀ digit, digit? (digitChar digit) = some digit := by decide

/-- Digits are read back one by one. -/
theorem mapM_digit?_map_digitChar (digits : List (Fin 16)) :
    (digits.map digitChar).mapM digit? = some digits := by
  induction digits with
  | nil => rfl
  | cons digit digits ih => simp [ih, digit?_digitChar]

/-- No digit is written as a character that has a meaning before an identifier. -/
theorem digitChar_ne : ∀ digit, digitChar digit ≠ '\x7b' ∧ digitChar digit ≠ 'u' := by decide

/-! ## Hyphens -/

/-- There is one hyphen between two groups. -/
theorem length_hyphenated (lengths : List Nat) {chars : List Char}
    (hlength : lengths.sum ≤ chars.length) :
    (hyphenated lengths chars).length = lengths.sum + (lengths.length - 1) := by
  induction lengths generalizing chars with
  | nil => rfl
  | cons length others ih =>
      rw [List.sum_cons] at hlength
      cases others with
      | nil => simpa [hyphenated] using Nat.min_eq_left hlength
      | cons next others =>
          have hdrop : (next :: others).sum ≤ (chars.drop length).length := by
            rw [List.length_drop]
            omega
          have hrest := ih hdrop
          simp only [hyphenated, List.length_append, List.length_take, List.length_cons, hrest,
            List.sum_cons] at hlength ⊢
          omega

/-- Hyphens between groups are taken out again. -/
theorem unhyphenated?_hyphenated {lengths : List Nat} (hne : lengths ≠ []) {chars : List Char}
    (hlength : chars.length = lengths.sum) :
    unhyphenated? lengths (hyphenated lengths chars) = some chars := by
  induction lengths generalizing chars with
  | nil => exact absurd rfl hne
  | cons length others ih =>
      rw [List.sum_cons] at hlength
      cases others with
      | nil =>
          have hall : chars.length = length := by simpa using hlength
          simp [hyphenated, unhyphenated?, hall, List.take_of_length_le (Nat.le_of_eq hall)]
      | cons next others =>
          have hdrop : (chars.drop length).length = (next :: others).sum := by
            rw [List.length_drop]
            omega
          have hrest := ih (List.cons_ne_nil next others) hdrop
          have htake : (chars.take length).length = length := by
            rw [List.length_take]
            omega
          rw [hyphenated, unhyphenated?, List.drop_left' htake]
          · simp only [hrest, Option.map_some, List.take_left' htake, List.take_append_drop]
          · exact List.cons_ne_nil next others
          · exact List.cons_ne_nil next others

/-! ## Identifiers -/

/-- Nothing is taken off a text that begins with a digit. -/
theorem bare_digitChar_cons (digit : Fin 16) (chars : List Char) :
    bare (digitChar digit :: chars) = digitChar digit :: chars := by
  obtain ⟨hbrace, hletter⟩ := digitChar_ne digit
  have hurn : Text.after? "urn:uuid:".toList (digitChar digit :: chars) = none := by
    have hfirst : "urn:uuid:".toList = 'u' :: "rn:uuid:".toList := rfl
    rw [hfirst, Text.after?, if_neg hletter.symm]
  unfold bare
  split
  · rename_i heq
    exact absurd (List.cons.inj heq).1 hbrace
  · rw [hurn, Option.getD_none]

/-- An identifier is read back from its text. -/
theorem parse_text (uuid : Uuid) : parse uuid.text = some uuid := by
  obtain ⟨digits, hlength⟩ := uuid
  have hchars : (digits.map digitChar).length = groups.sum := (List.length_map _).trans hlength
  have hlong : (hyphenated groups (digits.map digitChar)).length ≠ 32 := by
    rw [length_hyphenated groups (Nat.le_of_eq hchars.symm)]
    decide
  have hbare : bare (hyphenated groups (digits.map digitChar)) =
      hyphenated groups (digits.map digitChar) := by
    cases digits with
    | nil => simp at hlength
    | cons digit digits => exact bare_digitChar_cons digit _
  rw [parse, text, String.toList_ofList, if_neg hlong, hbare, ofHyphenated?,
    unhyphenated?_hyphenated (by decide) hchars, Option.bind_some, ofDigits?,
    mapM_digit?_map_digitChar]
  simp [hlength]

end Compliance.Uuid
