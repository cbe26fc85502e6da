import Compliance.Proofs.Decimal.Layout
import Compliance.Proofs.Yaml.Scalar

/-!
# Decimals that keep their text

A plain decimal is read as a double, and a double is written as the shortest decimal that is read
as it.  So the text of a decimal comes back if the decimal is itself the shortest one of its
double and is written as decimals are: without zeros that are not needed, and neither too large
nor too small to have its digits in their places (`written_eq_text_iff`).  With at most fifteen
digits every decimal is the shortest one, and only the zeros and the size are left
(`keepsText_iff_of_digits_lt`).

## Strategy

Of the decimals with one value only one has no zero at its end (`scaled`), and the shortest decimal
of a double has none either.  So if the text comes back, the decimal that was written is `scaled`,
since it has the value of the text.
-/

namespace Compliance.Yaml.Scalar.PlainDecimal

open List Compliance.Decimal

variable (decimal : PlainDecimal)

/-! ## What a decimal is written as -/

/-- What a decimal is written as when it has been read. -/
def written : List Char :=
  match decimal.double with
  | .finite negative mantissa exponent => (Double.finite negative mantissa exponent).text
  | _ => decimal.text

theorem scalarText?_value : decimal.value.scalarText? = some (String.ofList decimal.written) := by
  unfold value written
  cases decimal.double <;> rfl

/-- What a decimal is written as has digits, and beside them signs of decimals only. -/
theorem isDigit_or_mem_of_mem_written {c : Char} (hc : c ∈ decimal.written) :
    c.isDigit = true ∨ c ∈ ['.', 'e', '-'] := by
  unfold written at hc
  split at hc
  · rcases mem_append.mp hc with hsign | hc
    · split at hsign
      · obtain rfl := mem_singleton.mp hsign
        simp
      · cases hsign
    · split at hc
      · have hzero : ∀ c ∈ ['0', '.', '0'], c.isDigit = true ∨ c ∈ ['.', 'e', '-'] := by simp
        exact hzero c hc
      · exact isDigit_or_mem_of_mem_layout hc
  · rcases decimal.isDigit_or_eq_of_mem_text hc with hdigit | rfl
    · exact .inl hdigit
    · simp

theorem written_ne_nil : decimal.written ≠ [] := by
  unfold written
  split
  · refine append_ne_nil_of_right_ne_nil _ ?_
    split
    · exact cons_ne_nil _ _
    · exact layout_ne_nil _
  · simp [text]

/-! ## The decimal without zeros at its end -/

/-- The decimal without zeros at its end. -/
def scaled : Scaled :=
  Scaled.stripped ⟨decimal.significand, -decimal.part.length⟩
    (decimal.whole ++ decimal.part).length

/-- The text of a decimal comes back: it is beyond the range of doubles, or else it is positional
and, unless it is zero, the shortest decimal of its double. -/
def KeepsText : Prop :=
  decimal.double = .infinite false ∨
    IsPositional decimal.whole decimal.part ∧
      (decimal.significand = 0 ∨ decimal.scaled.IsShortest)

theorem value_scaled : decimal.scaled.value =
    Scaled.value ⟨decimal.significand, -decimal.part.length⟩ := value_stripped _ _

theorem scaled_mod_ne (hpos : decimal.significand ≠ 0) : decimal.scaled.digits % 10 ≠ 0 :=
  stripped_mod_ne hpos (ofDigitChars_lt_pow decimal.isDigit)

theorem double_scaled : decimal.scaled.double = decimal.double := by
  obtain ⟨mantissa, exponent, hnormal, hrounds, hread⟩ :=
    ofDecimal_eq false decimal.scaled.digits decimal.scaled.scale
  obtain ⟨mantissa', exponent', hnormal', hrounds', hread'⟩ :=
    ofDecimal_eq false decimal.significand (-decimal.part.length)
  have hvalue : Scaled.value ⟨decimal.scaled.digits, decimal.scaled.scale⟩ =
      Scaled.value ⟨decimal.significand, -decimal.part.length⟩ := decimal.value_scaled
  rw [hvalue] at hrounds
  obtain ⟨rfl, rfl⟩ := hrounds.unique hnormal hnormal' hrounds'
  rw [Scaled.double, double, hread, hread']

/-- Without zeros at its end a decimal is written as it was if it is positional. -/
theorem layout_scaled_eq_iff (hpos : decimal.significand ≠ 0) :
    decimal.scaled.layout = decimal.text ↔ IsPositional decimal.whole decimal.part :=
  ⟨isPositional_of_layout_eq (decimal.scaled_mod_ne hpos) decimal.isDigit, fun hpositional =>
    layout_eq_of_isPositional (decimal.scaled_mod_ne hpos) decimal.whole_ne_nil
      decimal.part_ne_nil decimal.isDigit hpositional decimal.value_scaled⟩

/-! ## Zero -/

theorem text_eq_zero_iff :
    decimal.text = ['0', '.', '0'] ↔ decimal.whole = ['0'] ∧ decimal.part = ['0'] := by
  constructor
  · intro htext
    have hcut : decimal.whole ++ '.' :: decimal.part = ['0'] ++ '.' :: ['0'] := htext
    exact cut_at_point (by simp) decimal.isDigit_whole hcut
  · rintro ⟨hwhole, hpart⟩
    rw [text, hwhole, hpart]
    rfl

/-- The digits of zero are zeros, and only one of them on either side of the point is needed. -/
theorem isPositional_iff_of_significand_eq_zero (hzero : decimal.significand = 0) :
    IsPositional decimal.whole decimal.part ↔ decimal.text = ['0', '.', '0'] := by
  have hne := append_ne_nil_of_left_ne_nil decimal.whole_ne_nil decimal.part
  have hhead : (decimal.whole ++ decimal.part).head? = decimal.whole.head? := by
    rw [head?_append, Option.or_of_isSome (isSome_head?.mpr decimal.whole_ne_nil)]
  rw [text_eq_zero_iff]
  constructor
  · intro hpositional
    constructor
    · refine hpositional.leading.resolve_right fun hfirst => ?_
      have hdigits := digitsOf_ofDigitChars hne decimal.isDigit (by rwa [hhead])
      rw [← significand, hzero] at hdigits
      rw [← hhead, ← hdigits] at hfirst
      exact hfirst rfl
    · refine hpositional.trailing.resolve_right fun hlast => ?_
      refine ofDigitChars_mod_ten_ne hne decimal.isDigit ?_ (by rw [← significand, hzero])
      rwa [getLast?_append_of_ne_nil _ decimal.part_ne_nil]
  · rintro ⟨hwhole, hpart⟩
    rw [hwhole, hpart]
    exact ⟨.inl rfl, .inl rfl, by decide, fun _ => .inl rfl⟩

/-! ## Finite doubles -/

section

variable {decimal} {mantissa : ℕ} {exponent : ℤ}

theorem written_of_mantissa_eq_zero (hdouble : decimal.double = .finite false mantissa exponent)
    (hzero : mantissa = 0) : decimal.written = ['0', '.', '0'] := by
  simp [written, hdouble, Double.text, hzero]

theorem written_of_mantissa_ne_zero (hdouble : decimal.double = .finite false mantissa exponent)
    (hpos : mantissa ≠ 0) : decimal.written = (shortest mantissa exponent).layout := by
  simp [written, hdouble, Double.text, hpos]

/-- The first digit of a decimal that is written with its digits in their places is not far behind
the point. -/
theorem ten_zpow_le_value {digits : ℕ} (hdigits : digits ≠ 0) {scale : ℤ}
    (hpoint : -5 < scale + (digitsOf digits).length) :
    (10 : ℚ) ^ (-5 : ℤ) ≤ Scaled.value ⟨digits, scale⟩ := by
  refine le_trans (zpow_le_zpow_right₀ (by norm_num) ?_)
    (value_bounds (Nat.pos_of_ne_zero hdigits) scale).1
  rw [Double.digitCount, if_neg hdigits]
  exact Int.le_sub_one_of_lt hpoint

/-- What is written as a decimal is, with digits around a point, has its value and is not small. -/
theorem isFull_of_layout_eq (hnormal : IsNormal mantissa exponent)
    (hexponent : exponent ≤ greatestExponent)
    (hrounds : RoundsTo mantissa exponent
      (Scaled.value ⟨decimal.significand, -decimal.part.length⟩))
    (hpos : decimal.significand ≠ 0) {other : Scaled} (hlayout : other.layout = decimal.text) :
    IsFull mantissa exponent ∧ other.value = decimal.scaled.value := by
  obtain ⟨hvalue, hpoint, -⟩ := value_of_layout_eq decimal.isDigit hlayout
  have hdigits : other.digits ≠ 0 := by
    intro hzero
    rw [Scaled.value, hzero, Nat.cast_zero, zero_mul, eq_comm, Scaled.value, mul_eq_zero] at hvalue
    exact hvalue.elim (fun h => hpos (Nat.cast_eq_zero.mp h)) (ten_zpow_pos _).ne'
  refine ⟨hnormal.isFull hexponent hrounds ?_, hvalue.trans decimal.value_scaled.symm⟩
  rw [significand, ← hvalue]
  exact ten_zpow_le_value hdigits hpoint

end

/-- A decimal is beyond the range of doubles, or it rounds to a finite one. -/
theorem double_cases : decimal.double = .infinite false ∨
    ∃ mantissa exponent, decimal.double = .finite false mantissa exponent ∧
      IsNormal mantissa exponent ∧ exponent ≤ greatestExponent ∧
      RoundsTo mantissa exponent (Scaled.value ⟨decimal.significand, -decimal.part.length⟩) := by
  obtain ⟨mantissa, exponent, hnormal, hrounds, hread⟩ :=
    ofDecimal_eq false decimal.significand (-decimal.part.length)
  split at hread
  · exact .inl hread
  · rename_i hexponent
    exact .inr ⟨mantissa, exponent, hread, hnormal, not_lt.mp hexponent, hrounds⟩

/-- Exactly those decimals come back as they were that keep their text. -/
theorem written_eq_text_iff : decimal.written = decimal.text ↔ decimal.KeepsText := by
  obtain hinfinite | ⟨mantissa, exponent, hdouble, hnormal, hexponent, hrounds⟩ :=
    decimal.double_cases
  · simp [KeepsText, written, hinfinite]
  have hfinite : decimal.double ≠ .infinite false := by simp [hdouble]
  rw [KeepsText, or_iff_right hfinite]
  by_cases hzero : decimal.significand = 0
  · obtain rfl : mantissa = 0 := by
      rw [double, hzero] at hdouble
      exact (Double.finite.inj hdouble).2.1.symm
    rw [decimal.isPositional_iff_of_significand_eq_zero hzero,
      written_of_mantissa_eq_zero hdouble rfl, eq_comm]
    simp [hzero]
  · have hscaled := decimal.double_scaled.trans hdouble
    rw [or_iff_right hzero, ← decimal.layout_scaled_eq_iff hzero]
    constructor
    · intro hkept
      have hmantissa : mantissa ≠ 0 := by
        intro hnone
        rw [written_of_mantissa_eq_zero hdouble hnone, eq_comm, text_eq_zero_iff] at hkept
        obtain ⟨hwhole, hpart⟩ := hkept
        exact hzero (by rw [significand, hwhole, hpart]; rfl)
      rw [written_of_mantissa_ne_zero hdouble hmantissa] at hkept
      obtain ⟨hfull, hvalue⟩ := isFull_of_layout_eq hnormal hexponent hrounds hzero hkept
      have hshortest := hfull.isShortest_shortest
      have heq : shortest mantissa exponent = decimal.scaled :=
        eq_of_value_eq hshortest.digits_mod_ne (decimal.scaled_mod_ne hzero) hvalue
      rw [heq] at hkept hshortest
      exact ⟨hkept, (hfull.isShortest_iff hscaled).mpr hshortest⟩
    · rintro ⟨hlayout, hshortest⟩
      obtain ⟨hfull, -⟩ := isFull_of_layout_eq hnormal hexponent hrounds hzero hlayout
      rw [hfull.isShortest_iff hscaled, ← hfull.shortest_eq_iff] at hshortest
      rw [written_of_mantissa_ne_zero hdouble hfull.pos.ne', hshortest, hlayout]

/-- With at most fifteen digits, zeros at the end apart, a decimal keeps its text if it is
positional. -/
theorem keepsText_iff_of_digits_lt (hdigits : decimal.scaled.digits < 10 ^ 15)
    (hfinite : decimal.double ≠ .infinite false) :
    decimal.KeepsText ↔ IsPositional decimal.whole decimal.part := by
  rw [KeepsText, or_iff_right hfinite, and_iff_left_iff_imp]
  intro hpositional
  refine or_iff_not_imp_left.mpr fun hzero => ?_
  obtain ⟨mantissa, exponent, hdouble, hnormal, hexponent, hrounds⟩ :=
    decimal.double_cases.resolve_left hfinite
  obtain ⟨hfull, hvalue⟩ := isFull_of_layout_eq hnormal hexponent hrounds hzero
    ((decimal.layout_scaled_eq_iff hzero).mpr hpositional)
  rw [hfull.isShortest_iff (decimal.double_scaled.trans hdouble)]
  rw [← decimal.value_scaled] at hrounds
  exact hfull.isShortest_of_lt (decimal.scaled_mod_ne hzero) hdigits hrounds

end Compliance.Yaml.Scalar.PlainDecimal
