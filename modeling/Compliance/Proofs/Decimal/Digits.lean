import Compliance.Property
import Compliance.Text.Blank
import Mathlib.Algebra.GroupWithZero.Nat
import Mathlib.Data.Char
import Mathlib.Data.List.Induction
import Mathlib.Data.Nat.Log

/-!
# Decimal digits

Numbers are written with their digits, and with zeros in front where a width is
given.  Reading takes the characters as long as they are digits.  So a number is
read back from its digits whatever follows, as long as that is no digit itself
(`takeWhile_isDigit_append`) or as long as the width is known (`length_padded`).
Numbers that are written with equally many digits are in the order of these digits
(`lt_of_ofDigitChars_lt`).
-/

namespace Compliance

/-! ## Digits of a number -/

theorem isDigit_of_mem_digitsOf {number : Nat} {c : Char} (hmem : c ∈ Decimal.digitsOf number) :
    c.isDigit = true :=
  Nat.isDigit_of_mem_toDigits (by decide) (by decide) hmem

theorem digitsOf_ne_nil (number : Nat) : Decimal.digitsOf number ≠ [] := Nat.toDigits_ne_nil

/-- A digit is no other character. -/
theorem ne_of_isDigit {digit c : Char} (hdigit : digit.isDigit = true) (hc : c.isDigit = false) :
    digit ≠ c := by
  rintro rfl
  rw [hc] at hdigit
  cases hdigit

theorem toNat_of_isDigit {c : Char} (hdigit : c.isDigit = true) : 48 ≤ c.toNat ∧ c.toNat ≤ 57 := by
  simpa [Char.isDigit, UInt32.le_iff_toNat_le] using hdigit

/-- No digit is white space. -/
theorem isBlank_of_isDigit {c : Char} (hdigit : c.isDigit = true) : Text.isBlank c = false := by
  obtain ⟨hlow, hhigh⟩ := toNat_of_isDigit hdigit
  simp only [Text.isBlank, Bool.or_eq_false_iff, Bool.and_eq_false_iff, beq_eq_false_iff_ne,
    decide_eq_false_iff_not]
  omega

/-- A number begins with a digit. -/
theorem exists_digitsOf_eq_cons (number : Nat) :
    ∃ digit digits, Decimal.digitsOf number = digit :: digits ∧ digit.isDigit = true := by
  obtain ⟨digit, digits, hdigits⟩ := List.exists_cons_of_ne_nil (digitsOf_ne_nil number)
  exact ⟨digit, digits, hdigits, isDigit_of_mem_digitsOf (hdigits ▸ List.mem_cons_self)⟩

/-- A number has one digit more than the exponent of the greatest power of ten within it. -/
theorem length_digitsOf (number : Nat) :
    (Decimal.digitsOf number).length = Nat.log 10 number + 1 := by
  have hpos : 0 < (Decimal.digitsOf number).length := Nat.length_toDigits_pos
  have hfits : number < 10 ^ (Decimal.digitsOf number).length :=
    (Nat.length_toDigits_le_iff (by decide) hpos).mp le_rfl
  have hmost : (Decimal.digitsOf number).length ≤ Nat.log 10 number + 1 :=
    (Nat.length_toDigits_le_iff (by decide) (Nat.succ_pos _)).mpr
      (Nat.lt_pow_succ_log_self (by decide) number)
  have hleast : Nat.log 10 number < (Decimal.digitsOf number).length :=
    Nat.log_lt_of_lt_pow' hpos.ne' hfits
  omega

/-- Only the digits of zero begin with a zero. -/
theorem eq_zero_of_head?_digitsOf {number : Nat}
    (hhead : (Decimal.digitsOf number).head? = some '0') : number = 0 := by
  induction number using Nat.strongRecOn with
  | ind number ih =>
      unfold Decimal.digitsOf at hhead ih
      rcases Nat.lt_or_ge number 10 with hsmall | hlarge
      · rw [Nat.toDigits_of_lt_base hsmall] at hhead
        have hdigit : ∀ digit < 10, digit.digitChar = '0' → digit = 0 := by decide
        exact hdigit number hsmall (by simpa using hhead)
      · -- the first digit is that of the number without its last one, which is not zero
        rw [Nat.toDigits_of_base_le (by decide) hlarge, List.head?_append,
          Option.or_of_isSome (List.isSome_head?.mpr Nat.toDigits_ne_nil)] at hhead
        have := ih (number / 10) (by omega) hhead
        omega

theorem digitChar_of_isDigit {c : Char} (hdigit : c.isDigit = true) :
    Nat.digitChar (c.toNat - '0'.toNat) = c := by
  obtain ⟨hleast, hmost⟩ := toNat_of_isDigit hdigit
  have hdigits : ∀ code < 58, '0'.toNat ≤ code →
      Nat.digitChar (code - '0'.toNat) = Char.ofNat code := by
    decide
  rw [hdigits c.toNat (Nat.lt_succ_of_le hmost) hleast, Char.ofNat_toNat]

/-- Digits are those of their number, unless they begin with a zero that is not needed. -/
theorem digitsOf_ofDigitChars {digits : List Char} (hne : digits ≠ [])
    (hdigits : ∀ c ∈ digits, c.isDigit = true) (hhead : digits.head? ≠ some '0') :
    Decimal.digitsOf (Nat.ofDigitChars 10 digits 0) = digits := by
  induction digits using List.reverseRecOn with
  | nil => exact (hne rfl).elim
  | append_singleton digits c ih =>
      have hlast : c.isDigit = true := hdigits c (by simp)
      have hsmall : c.toNat - '0'.toNat < 10 := by
        have hcode := (toNat_of_isDigit hlast).2
        simp only [Char.reduceToNat]
        omega
      have hnumber : Nat.ofDigitChars 10 (digits ++ [c]) 0 =
          10 * Nat.ofDigitChars 10 digits 0 + (c.toNat - '0'.toNat) := by
        rw [Nat.ofDigitChars_append, Nat.ofDigitChars_cons]
        rfl
      by_cases hdigits' : digits = []
      · subst hdigits'
        rw [hnumber, Decimal.digitsOf, Nat.ofDigitChars_nil, Nat.mul_zero, Nat.zero_add,
          Nat.toDigits_of_lt_base hsmall, digitChar_of_isDigit hlast, List.nil_append]
      · have hhead' : digits.head? ≠ some '0' := by
          rwa [List.head?_append, Option.or_of_isSome (List.isSome_head?.mpr hdigits')] at hhead
        have hfront := ih hdigits' (fun d hd => hdigits d (by simp [hd])) hhead'
        have hpos : 0 < Nat.ofDigitChars 10 digits 0 := by
          rw [Nat.pos_iff_ne_zero]
          intro hzero
          rw [hzero] at hfront
          exact hhead' (by rw [← hfront]; rfl)
        have hdiv : (10 * Nat.ofDigitChars 10 digits 0 + (c.toNat - '0'.toNat)) / 10 =
            Nat.ofDigitChars 10 digits 0 := by
          omega
        have hmod : (10 * Nat.ofDigitChars 10 digits 0 + (c.toNat - '0'.toNat)) % 10 =
            c.toNat - '0'.toNat := by
          omega
        rw [hnumber, Decimal.digitsOf, Nat.toDigits_of_base_le (by decide) (by omega), hdiv, hmod,
          digitChar_of_isDigit hlast]
        exact congrArg (· ++ [c]) hfront

/-! ## Numbers of a given width -/

/-- Leading zeros do not change a number. -/
theorem ofDigitChars_padded (width number : Nat) :
    Nat.ofDigitChars 10 (padded width number) 0 = number := by
  unfold padded Decimal.digitsOf
  rw [Nat.ofDigitChars_append, Nat.ofDigitChars_replicate_zero, Nat.mul_zero,
    Nat.ofDigitChars_ten_toDigits]

theorem isDigit_of_mem_padded {width number : Nat} {c : Char} (hmem : c ∈ padded width number) :
    c.isDigit = true := by
  rcases List.mem_append.mp hmem with hzero | hdigit
  · rw [List.eq_of_mem_replicate hzero]
    decide
  · exact isDigit_of_mem_digitsOf hdigit

/-- A number with zeros in front begins with a digit. -/
theorem exists_padded_eq_cons (width number : Nat) :
    ∃ digit digits, padded width number = digit :: digits ∧ digit.isDigit = true := by
  have hne : padded width number ≠ [] := List.append_ne_nil_of_right_ne_nil _ (digitsOf_ne_nil _)
  obtain ⟨digit, digits, hdigits⟩ := List.exists_cons_of_ne_nil hne
  exact ⟨digit, digits, hdigits, isDigit_of_mem_padded (hdigits ▸ List.mem_cons_self)⟩

/-- A number that is small enough has exactly the width that is asked for. -/
theorem length_padded {width number : Nat} (hwidth : 0 < width) (hnumber : number < 10 ^ width) :
    (padded width number).length = width := by
  have hdigits : (Decimal.digitsOf number).length ≤ width :=
    (Nat.length_toDigits_le_iff (by decide) hwidth).mpr hnumber
  simp only [padded, List.length_append, List.length_replicate]
  omega

/-! ## The order of digits -/

/-- The first digit counts as often as the power of ten for the digits after it. -/
theorem ofDigitChars_cons_zero (digit : Char) (digits : List Char) :
    Nat.ofDigitChars 10 (digit :: digits) 0 =
      10 ^ digits.length * (digit.toNat - '0'.toNat) + Nat.ofDigitChars 10 digits 0 := by
  rw [Nat.ofDigitChars_cons, Nat.ofDigitChars_eq_ofDigitChars_zero, Nat.mul_zero, Nat.zero_add]

theorem ofDigitChars_lt_pow {digits : List Char} (hdigits : ∀ c ∈ digits, c.isDigit = true) :
    Nat.ofDigitChars 10 digits 0 < 10 ^ digits.length := by
  induction digits with
  | nil => simp
  | cons digit others ih =>
      have hothers := ih fun c hc => hdigits c (List.mem_cons_of_mem _ hc)
      have hdigit : digit.toNat - '0'.toNat ≤ 9 := by
        have := toNat_of_isDigit (hdigits digit List.mem_cons_self)
        simp only [Char.reduceToNat]
        omega
      calc Nat.ofDigitChars 10 (digit :: others) 0
          < 10 ^ others.length * (digit.toNat - '0'.toNat) + 10 ^ others.length := by
            rw [ofDigitChars_cons_zero]
            omega
        _ = 10 ^ others.length * (digit.toNat - '0'.toNat + 1) := (Nat.mul_succ _ _).symm
        _ ≤ 10 ^ others.length * 10 := Nat.mul_le_mul_left _ (by omega)
        _ = 10 ^ (digit :: others).length := by rw [List.length_cons, pow_succ]

/-- Digits of one length are in the order of their numbers. -/
theorem lt_of_ofDigitChars_lt {first second : List Char}
    (hfirst : ∀ c ∈ first, c.isDigit = true) (hsecond : ∀ c ∈ second, c.isDigit = true)
    (hlength : first.length = second.length)
    (hlt : Nat.ofDigitChars 10 first 0 < Nat.ofDigitChars 10 second 0) : first < second := by
  induction first generalizing second with
  | nil =>
      obtain rfl := List.length_eq_zero_iff.mp hlength.symm
      simp at hlt
  | cons c first ih =>
      obtain ⟨d, second, rfl⟩ := List.exists_cons_of_length_eq_add_one hlength.symm
      have hfirst' : ∀ e ∈ first, e.isDigit = true := fun e he =>
        hfirst e (List.mem_cons_of_mem _ he)
      have hsecond' : ∀ e ∈ second, e.isDigit = true := fun e he =>
        hsecond e (List.mem_cons_of_mem _ he)
      have hlengths : first.length = second.length := by simpa using hlength
      rw [ofDigitChars_cons_zero, ofDigitChars_cons_zero, ← hlengths] at hlt
      rw [List.cons_lt_cons_iff]
      rcases lt_trichotomy c d with hcd | rfl | hdc
      · exact .inl hcd
      · exact .inr ⟨rfl, ih hfirst' hsecond' hlengths (by omega)⟩
      · -- a greater first digit is more than all that follows can make up for
        have hc := toNat_of_isDigit (hfirst c List.mem_cons_self)
        have hd := toNat_of_isDigit (hsecond d List.mem_cons_self)
        have hcodes : d.toNat < c.toNat := hdc
        have hdigits : d.toNat - '0'.toNat + 1 ≤ c.toNat - '0'.toNat := by
          simp only [Char.reduceToNat]
          omega
        have hrest : Nat.ofDigitChars 10 second 0 < 10 ^ first.length :=
          hlengths ▸ ofDigitChars_lt_pow hsecond'
        have hpowers := Nat.mul_le_mul_left (10 ^ first.length) hdigits
        rw [Nat.mul_add, Nat.mul_one] at hpowers
        omega

/-! ## Reading digits -/

/-- Digits are taken up to the first character that is none. -/
theorem takeWhile_isDigit_append {digits rest : List Char}
    (hdigits : ∀ c ∈ digits, c.isDigit = true) (hrest : ∀ c ∈ rest.head?, c.isDigit = false) :
    (digits ++ rest).takeWhile Char.isDigit = digits := by
  rw [List.takeWhile_append_of_pos hdigits]
  cases rest with
  | nil => simp
  | cons c rest => simp [hrest c (by simp)]

theorem dropWhile_isDigit_append {digits rest : List Char}
    (hdigits : ∀ c ∈ digits, c.isDigit = true) (hrest : ∀ c ∈ rest.head?, c.isDigit = false) :
    (digits ++ rest).dropWhile Char.isDigit = rest := by
  rw [List.dropWhile_append_of_pos hdigits]
  cases rest with
  | nil => simp
  | cons c rest => simp [hrest c (by simp)]

end Compliance
