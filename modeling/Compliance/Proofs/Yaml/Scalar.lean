import Compliance.Proofs.Decimal.Digits
import Compliance.Yaml.Value.Scalar

/-!
# Plain decimals

A plain scalar of digits, a point and digits is no null, no truth value and no integer, and
its leading zeros do not matter.  It is a number, the double nearest to the decimal, unless the
decimal is beyond the range of doubles: then it is a string (`PlainDecimal.ofPlain_text`).
-/

namespace Compliance.Yaml.Scalar

open List Compliance.Decimal

/-! ## Digits -/

theorem isDigit_iff {c : Char} : c.isDigit = true ↔ '0' ≤ c ∧ c ≤ '9' := by
  simp [Char.isDigit, Char.le_def]

theorem digit?_of_isDigit {c : Char} (hdigit : c.isDigit = true) :
    digit? 10 c = some (c.toNat - '0'.toNat) := by
  obtain ⟨hleast, hmost⟩ := toNat_of_isDigit hdigit
  have hsmall : c.toNat - '0'.toNat < 10 := by
    simp only [Char.reduceToNat]
    omega
  rw [digit?, hexDigit?, if_pos (isDigit_iff.mp hdigit)]
  exact if_pos hsmall

theorem foldl_digits_none (base : Nat) (text : List Char) :
    text.foldl (fun value c => do return (← value) * base + (← digit? base c)) none = none := by
  induction text with
  | nil => rfl
  | cons c text ih => exact ih

theorem foldl_digits {digits : List Char} (hdigits : ∀ c ∈ digits, c.isDigit = true)
    (value : Nat) :
    digits.foldl (fun value c => do return (← value) * 10 + (← digit? 10 c)) (some value) =
      some (Nat.ofDigitChars 10 digits value) := by
  induction digits generalizing value with
  | nil => rfl
  | cons c digits ih =>
      obtain ⟨hdigit, hothers⟩ := forall_mem_cons.mp hdigits
      have hstep : (do return (← some value) * 10 + (← digit? 10 c)) =
          some (10 * value + (c.toNat - '0'.toNat)) := by
        rw [digit?_of_isDigit hdigit, Nat.mul_comm 10]
        rfl
      rw [foldl_cons, hstep, ih hothers, Nat.ofDigitChars_cons]

/-- Digits are read as the number that they are digits of. -/
theorem magnitude?_of_isDigit {digits : List Char} (hne : digits ≠ [])
    (hdigits : ∀ c ∈ digits, c.isDigit = true) :
    magnitude? 10 digits = some (Nat.ofDigitChars 10 digits 0) := by
  rw [magnitude?, isEmpty_eq_false_iff.mpr hne, if_neg Bool.false_ne_true, foldl_digits hdigits]

/-- After digits a point is no digit. -/
theorem magnitude?_digits_point {digits : List Char} (hdigits : ∀ c ∈ digits, c.isDigit = true)
    (rest : List Char) : magnitude? 10 (digits ++ '.' :: rest) = none := by
  rw [magnitude?, isEmpty_eq_false_iff.mpr (by simp), if_neg Bool.false_ne_true, foldl_append,
    foldl_digits hdigits]
  exact foldl_digits_none 10 rest

/-! ## Decimals -/

/-- A decimal with digits before its point and after it. -/
structure PlainDecimal where
  whole : List Char
  part : List Char
  whole_ne_nil : whole ≠ []
  part_ne_nil : part ≠ []
  isDigit : ∀ c ∈ whole ++ part, c.isDigit = true

namespace PlainDecimal

variable (decimal : PlainDecimal)

/-- The text of a decimal. -/
def text : List Char := decimal.whole ++ '.' :: decimal.part

/-- The number that a decimal has without its point. -/
def significand : Nat := Nat.ofDigitChars 10 (decimal.whole ++ decimal.part) 0

/-- The double that is nearest to a decimal. -/
def double : Double := Double.ofDecimal false decimal.significand (-decimal.part.length)

theorem isDigit_whole : ∀ c ∈ decimal.whole, c.isDigit = true := fun c hc =>
  decimal.isDigit c (mem_append_left _ hc)

theorem isDigit_part : ∀ c ∈ decimal.part, c.isDigit = true := fun c hc =>
  decimal.isDigit c (mem_append_right _ hc)

/-- A decimal begins with a digit. -/
theorem exists_text_eq_cons :
    ∃ digit rest, decimal.text = digit :: rest ∧ digit.isDigit = true := by
  obtain ⟨digit, digits, hwhole⟩ := exists_cons_of_ne_nil decimal.whole_ne_nil
  exact ⟨digit, digits ++ '.' :: decimal.part, by rw [text, hwhole, cons_append],
    decimal.isDigit_whole digit (by simp [hwhole])⟩

theorem isDigit_or_eq_of_mem_text {c : Char} (hmem : c ∈ decimal.text) :
    c.isDigit = true ∨ c = '.' := by
  rcases mem_append.mp hmem with hwhole | hpart
  · exact .inl (decimal.isDigit_whole c hwhole)
  · rcases mem_cons.mp hpart with rfl | hpart
    · exact .inr rfl
    · exact .inl (decimal.isDigit_part c hpart)

/-- A decimal begins with no other character than a digit. -/
theorem after?_text {c : Char} (hc : c.isDigit = false) (start : List Char) :
    Text.after? (c :: start) decimal.text = none := by
  obtain ⟨digit, others, htext, hdigit⟩ := decimal.exists_text_eq_cons
  rw [htext, Text.after?, if_neg fun heq => ne_of_isDigit hdigit hc heq.symm]

/-- Words that begin with something else than a digit are no decimals. -/
theorem not_contains_text (words : List String)
    (hwords : ∀ word ∈ words, word.toList.head?.all Char.isDigit = false) :
    words.contains (String.ofList decimal.text) = false := by
  rw [Bool.eq_false_iff, ne_eq, contains_iff_mem]
  intro hmem
  have hword := hwords _ hmem
  obtain ⟨digit, others, htext, hdigit⟩ := decimal.exists_text_eq_cons
  simp [htext, hdigit] at hword

theorem isNull_text : isNull decimal.text = false := by
  have hempty : decimal.text.isEmpty = false := by
    simp [text]
  rw [isNull, hempty, isNullWord, decimal.not_contains_text _ (by decide), Bool.or_false]

theorem truth?_text : truth? decimal.text = none := by
  rw [truth?, decimal.not_contains_text _ (by decide), decimal.not_contains_text _ (by decide)]
  rfl

theorem isSigned_text : isSigned decimal.text = false := by
  obtain ⟨digit, others, htext, hdigit⟩ := decimal.exists_text_eq_cons
  rw [htext]
  have hplus := ne_of_isDigit hdigit (show Char.isDigit '+' = false by decide)
  have hminus := ne_of_isDigit hdigit (show Char.isDigit '-' = false by decide)
  unfold isSigned
  split <;> simp_all

theorem afterPlus_text : afterPlus decimal.text = decimal.text := by
  rw [afterPlus, decimal.after?_text (by decide), Option.getD_none]

theorem afterSign_text : afterSign decimal.text = decimal.text := by
  rw [afterSign, decimal.isSigned_text, if_neg Bool.false_ne_true]

theorem based?_text : based? decimal.text = none := by
  have hmark : ∀ c, c.isDigit = false → c ≠ '.' → Text.after? ['0', c] decimal.text = none := by
    intro c hdigit hpoint
    cases hafter : Text.after? ['0', c] decimal.text with
    | none => rfl
    | some rest =>
        have hmem : c ∈ decimal.text := by
          simp [Text.after?_eq_some_iff.mp hafter]
        rcases decimal.isDigit_or_eq_of_mem_text hmem with h | h
        · rw [hdigit] at h
          cases h
        · exact (hpoint h).elim
  simp only [based?, bases, findSome?_cons, hmark _ (show Char.isDigit 'x' = false by decide)
    (by decide), hmark _ (show Char.isDigit 'o' = false by decide) (by decide),
    hmark _ (show Char.isDigit 'b' = false by decide) (by decide), Option.map_none, findSome?_nil]

theorem integer?_text : integer? decimal.text = none := by
  have hunsigned : ∀ limit, unsigned? limit decimal.text = none := by
    intro limit
    have hmagnitude : magnitude? 10 decimal.text = none :=
      magnitude?_digits_point decimal.isDigit_whole decimal.part
    simp only [unsigned?, decimal.afterPlus_text, decimal.based?_text, hmagnitude, ite_self,
      Option.filter_none]
  have hnegative : ∀ limit, negative? limit decimal.text = none := by
    intro limit
    obtain ⟨digit, others, htext, hdigit⟩ := decimal.exists_text_eq_cons
    have hminus := ne_of_isDigit hdigit (show Char.isDigit '-' = false by decide)
    rw [htext]
    unfold negative?
    split <;> simp_all
  simp only [integer?, hunsigned, hnegative, Option.isSome_none, Bool.or_self]
  rfl

theorem hasLeadingZero_text : hasLeadingZero decimal.text = false := by
  rw [hasLeadingZero, decimal.afterSign_text]
  split
  · rename_i digit digits htext
    have hpoint : '.' ∈ digit :: digits := by
      have hmem : '.' ∈ decimal.text := by simp [text]
      rw [htext] at hmem
      exact (mem_cons.mp hmem).resolve_left (by decide)
    rw [all_eq_false]
    exact ⟨'.', hpoint, by decide⟩
  · rfl

theorem decimal?_text : decimal? decimal.text =
    match decimal.double with
    | .finite negative mantissa exponent => some (.finite negative mantissa exponent)
    | _ => none := by
  have hpoint : ∀ c ∈ ('.' :: decimal.part).head?, c.isDigit = false := by
    simp
  have hwhole : decimal.text.takeWhile Char.isDigit = decimal.whole :=
    takeWhile_isDigit_append decimal.isDigit_whole hpoint
  have hrest : decimal.text.dropWhile Char.isDigit = '.' :: decimal.part :=
    dropWhile_isDigit_append decimal.isDigit_whole hpoint
  have hpart : decimal.part.takeWhile Char.isDigit = decimal.part := by
    simpa using @takeWhile_isDigit_append decimal.part [] decimal.isDigit_part (by simp)
  have hend : decimal.part.dropWhile Char.isDigit = [] := by
    simpa using @dropWhile_isDigit_append decimal.part [] decimal.isDigit_part (by simp)
  have hsignificand : magnitude? 10 (decimal.whole ++ decimal.part) = some decimal.significand :=
    magnitude?_of_isDigit (append_ne_nil_of_left_ne_nil decimal.whole_ne_nil _) decimal.isDigit
  have hnegative : decide (decimal.text.head? = some '-') = false := by
    obtain ⟨digit, others, htext, hdigit⟩ := decimal.exists_text_eq_cons
    rw [htext]
    simpa using ne_of_isDigit hdigit (show Char.isDigit '-' = false by decide)
  have hdigit : (fun c => decide ('0' ≤ c) && decide (c ≤ '9')) = Char.isDigit := by
    funext c
    rw [Bool.eq_iff_iff, isDigit_iff]
    simp
  rw [decimal?, decimal.afterSign_text]
  simp only [hdigit, hwhole, hrest, hpart, hend, hsignificand, hnegative, exponent?,
    Option.bind_eq_bind, Option.bind_some, Int.zero_sub]
  rfl

theorem number?_text : number? decimal.text =
    match decimal.double with
    | .finite negative mantissa exponent => some (.finite negative mantissa exponent)
    | _ => none := by
  have hplus : decide (decimal.text.head? = some '+') = false := by
    obtain ⟨digit, others, htext, hdigit⟩ := decimal.exists_text_eq_cons
    rw [htext]
    simpa using ne_of_isDigit hdigit (show Char.isDigit '+' = false by decide)
  simp only [number?, hplus, decimal.afterPlus_text, Bool.false_and,
    decimal.not_contains_text [".inf", ".Inf", ".INF"] (by decide),
    decimal.not_contains_text ["-.inf", "-.Inf", "-.INF"] (by decide),
    decimal.not_contains_text [".nan", ".NaN", ".NAN"] (by decide),
    Bool.false_eq_true, if_false, decimal.decimal?_text]

/-- The value of a decimal. -/
def value : Value :=
  match decimal.double with
  | .finite negative mantissa exponent => .number (.finite negative mantissa exponent)
  | _ => .string (String.ofList decimal.text)

/-- A plain decimal is the number that is nearest to it, or a string beyond the range of numbers. -/
theorem ofPlain_text : ofPlain decimal.text = .ok decimal.value := by
  rw [ofPlain, decimal.isNull_text, if_neg Bool.false_ne_true, decimal.truth?_text,
    decimal.integer?_text]
  simp only [decimal.hasLeadingZero_text, Bool.false_eq_true, if_false, decimal.number?_text, value]
  cases decimal.double <;> rfl

end PlainDecimal

end Compliance.Yaml.Scalar
