import Compliance.Decimal.Shortest
import Compliance.Proofs.Decimal.Digits
import Mathlib.Algebra.Order.Field.Power
import Mathlib.Data.Int.Log
import Mathlib.Data.Rat.Floor
import Mathlib.Tactic.FieldSimp
import Mathlib.Tactic.Linarith
import Mathlib.Tactic.NormNum
import Mathlib.Tactic.Positivity
import Mathlib.Tactic.Ring

/-!
# Rounding to doubles

The reals that round to a double form an interval around its value: half the gap to the next
double on either side, with the ends exactly if the mantissa is even (`RoundsTo`).  A number is
in the interval of one double only (`RoundsTo.unique`), and a decimal is read as the double in
whose interval it is (`ofDecimal_eq_finite_iff`).

## Strategy

For a ratio the exponent is that of the leading binary digit, so that the quotient is between
`2 ^ 52` and `2 ^ 53` (`exponentFor_eq`), and rounding is off by a half at most
(`roundHalfEven_spec`).
-/

namespace Compliance.Decimal

/-! ## Intervals of doubles -/

/-- The parts of a double whose exponent is as large as it likes. -/
structure IsNormal (mantissa : ℕ) (exponent : ℤ) : Prop where
  small : mantissa < 2 * fullMantissa
  least : leastExponent ≤ exponent
  full : fullMantissa ≤ mantissa ∨ exponent = leastExponent

/-- The lower end of the interval of a double. The gap below the least mantissa with full precision
is half the gap above it. -/
def lowerEnd (mantissa : ℕ) (exponent : ℤ) : ℚ :=
  (mantissa - if mantissa = fullMantissa ∧ leastExponent < exponent then 1 / 4 else 1 / 2) *
    2 ^ exponent

/-- The upper end of the interval of a double. -/
def upperEnd (mantissa : ℕ) (exponent : ℤ) : ℚ := (mantissa + 1 / 2) * 2 ^ exponent

/-- A number is in the interval of a double, to which the ends belong if the mantissa is even. -/
def RoundsTo (mantissa : ℕ) (exponent : ℤ) (number : ℚ) : Prop :=
  if mantissa % 2 = 0 then
    lowerEnd mantissa exponent ≤ number ∧ number ≤ upperEnd mantissa exponent
  else lowerEnd mantissa exponent < number ∧ number < upperEnd mantissa exponent

section

variable {mantissa mantissa' : ℕ} {exponent exponent' : ℤ} {number : ℚ}

theorem fullMantissa_eq : fullMantissa = 4503599627370496 := rfl

theorem cast_fullMantissa : (fullMantissa : ℚ) = 2 ^ 52 := by
  norm_num [fullMantissa_eq]

theorem two_zpow_pos (exponent : ℤ) : (0 : ℚ) < 2 ^ exponent := zpow_pos (by norm_num) exponent

theorem RoundsTo.lowerEnd_le (hrounds : RoundsTo mantissa exponent number) :
    lowerEnd mantissa exponent ≤ number := by
  unfold RoundsTo at hrounds
  split at hrounds
  · exact hrounds.1
  · exact hrounds.1.le

theorem RoundsTo.le_upperEnd (hrounds : RoundsTo mantissa exponent number) :
    number ≤ upperEnd mantissa exponent := by
  unfold RoundsTo at hrounds
  split at hrounds
  · exact hrounds.2
  · exact hrounds.2.le

theorem RoundsTo.lt_upperEnd (hrounds : RoundsTo mantissa exponent number)
    (hodd : mantissa % 2 ≠ 0) : number < upperEnd mantissa exponent := by
  rw [RoundsTo, if_neg hodd] at hrounds
  exact hrounds.2

theorem RoundsTo.lowerEnd_lt (hrounds : RoundsTo mantissa exponent number)
    (hodd : mantissa % 2 ≠ 0) : lowerEnd mantissa exponent < number := by
  rw [RoundsTo, if_neg hodd] at hrounds
  exact hrounds.1

theorem lowerEnd_ge (mantissa : ℕ) (exponent : ℤ) :
    (mantissa - 1 / 2) * 2 ^ exponent ≤ lowerEnd mantissa exponent := by
  have hpos := two_zpow_pos exponent
  unfold lowerEnd
  split <;> gcongr
  norm_num

/-- Below the least mantissa with full precision there is a quarter of a gap in the interval. -/
theorem IsNormal.le_lowerEnd (hnormal : IsNormal mantissa exponent)
    (hleast : leastExponent < exponent) :
    (2 ^ 52 - 1 / 4 : ℚ) * 2 ^ exponent ≤ lowerEnd mantissa exponent := by
  have hfull : fullMantissa ≤ mantissa := hnormal.full.resolve_right hleast.ne'
  unfold lowerEnd
  split
  · rename_i hnarrow
    rw [hnarrow.1, cast_fullMantissa]
  · rename_i hwide
    have hnext : fullMantissa + 1 ≤ mantissa :=
      lt_of_le_of_ne hfull fun heq => hwide ⟨heq.symm, hleast⟩
    have hcast : (2 ^ 52 + 1 : ℚ) ≤ mantissa := by
      rw [← cast_fullMantissa]
      exact_mod_cast hnext
    have hmantissa : (2 ^ 52 - 1 / 4 : ℚ) ≤ mantissa - 1 / 2 := by linarith
    exact mul_le_mul_of_nonneg_right hmantissa (two_zpow_pos exponent).le

/-- A double with a greater exponent has its interval above. -/
theorem RoundsTo.exponent_le (hnormal : IsNormal mantissa exponent)
    (hnormal' : IsNormal mantissa' exponent') (hrounds : RoundsTo mantissa exponent number)
    (hrounds' : RoundsTo mantissa' exponent' number) : exponent' ≤ exponent := by
  by_contra hlt
  rw [not_le] at hlt
  have hpos := two_zpow_pos exponent
  have hleast := hnormal.least
  have hdouble : (2 : ℚ) * 2 ^ exponent ≤ 2 ^ exponent' := by
    calc (2 : ℚ) * 2 ^ exponent = 2 ^ (exponent + 1) := by
          rw [zpow_add_one₀ (by norm_num), mul_comm]
      _ ≤ 2 ^ exponent' := zpow_le_zpow_right₀ (by norm_num) hlt
  -- the lower end of the one above is at least where the largest mantissa would be rounded up
  have hlower : (2 ^ 53 - 1 / 2 : ℚ) * 2 ^ exponent ≤ lowerEnd mantissa' exponent' := by
    calc (2 ^ 53 - 1 / 2 : ℚ) * 2 ^ exponent = (2 ^ 52 - 1 / 4) * (2 * 2 ^ exponent) := by ring
      _ ≤ (2 ^ 52 - 1 / 4) * 2 ^ exponent' :=
          mul_le_mul_of_nonneg_left hdouble (by norm_num)
      _ ≤ lowerEnd mantissa' exponent' := hnormal'.le_lowerEnd (by omega)
  have hbelow := hlower.trans hrounds'.lowerEnd_le
  have hsmall := hnormal.small
  rw [fullMantissa_eq] at hsmall
  have hlast : (mantissa : ℚ) + 1 ≤ 2 ^ 53 := by
    have hcast : mantissa + 1 ≤ 2 ^ 53 := by omega
    exact_mod_cast hcast
  by_cases hodd : mantissa % 2 = 0
  · have heven : (mantissa : ℚ) + 2 ≤ 2 ^ 53 := by
      have hcast : mantissa + 2 ≤ 2 ^ 53 := by omega
      exact_mod_cast hcast
    have habove := hrounds.le_upperEnd
    rw [upperEnd] at habove
    nlinarith
  · have habove := hrounds.lt_upperEnd hodd
    rw [upperEnd] at habove
    nlinarith

/-- No number is in the intervals of two doubles. -/
theorem RoundsTo.unique (hnormal : IsNormal mantissa exponent)
    (hnormal' : IsNormal mantissa' exponent') (hrounds : RoundsTo mantissa exponent number)
    (hrounds' : RoundsTo mantissa' exponent' number) :
    mantissa = mantissa' ∧ exponent = exponent' := by
  obtain rfl : exponent = exponent' :=
    le_antisymm (hrounds'.exponent_le hnormal' hnormal hrounds)
      (hrounds.exponent_le hnormal hnormal' hrounds')
  refine ⟨?_, rfl⟩
  have hpos := two_zpow_pos exponent
  -- of two neighbours one is odd, and its interval has no ends
  have hle : ∀ {first second : ℕ}, RoundsTo first exponent number →
      RoundsTo second exponent number → first ≤ second := by
    intro first second hfirst hsecond
    by_contra hlt
    rw [not_le] at hlt
    have hlow := (lowerEnd_ge first exponent).trans hfirst.lowerEnd_le
    have hhigh := hsecond.le_upperEnd
    rw [upperEnd] at hhigh
    have hcast : (second : ℚ) + 1 ≤ first := by exact_mod_cast hlt
    have hmid : (first : ℚ) - 1 / 2 ≤ second + 1 / 2 :=
      le_of_mul_le_mul_right (hlow.trans hhigh) hpos
    have hnext : first = second + 1 := by
      have : (first : ℚ) = second + 1 := by linarith
      exact_mod_cast this
    by_cases hodd : second % 2 = 0
    · have hstrict := (lowerEnd_ge first exponent).trans_lt (hfirst.lowerEnd_lt (by omega))
      have := lt_of_mul_lt_mul_right (hstrict.trans_le hhigh) hpos.le
      linarith
    · have hstrict := hsecond.lt_upperEnd hodd
      rw [upperEnd] at hstrict
      have := lt_of_mul_lt_mul_right (hlow.trans_lt hstrict) hpos.le
      linarith
  exact le_antisymm (hle hrounds hrounds') (hle hrounds' hrounds)

end

/-! ## Rounding a ratio -/

/-- Rounding is off by a half at most, and by a half only if the result is even. -/
theorem roundHalfEven_spec (numerator : ℕ) {denominator : ℕ} (hpos : 0 < denominator) :
    let rounded := roundHalfEven numerator denominator
    |(rounded : ℚ) - numerator / denominator| ≤ 1 / 2 ∧
      (|(rounded : ℚ) - numerator / denominator| = 1 / 2 → rounded % 2 = 0) := by
  intro rounded
  have hdenominator : (0 : ℚ) < denominator := by exact_mod_cast hpos
  have hsplit : (numerator : ℚ) / denominator =
      (numerator / denominator : ℕ) + (numerator % denominator : ℕ) / (denominator : ℚ) := by
    have hdiv : (numerator : ℚ) =
        denominator * (numerator / denominator : ℕ) + (numerator % denominator : ℕ) := by
      exact_mod_cast (Nat.div_add_mod numerator denominator).symm
    field_simp
    linarith
  have hsmall : (numerator % denominator : ℕ) / (denominator : ℚ) < 1 := by
    rw [div_lt_one hdenominator]
    exact_mod_cast Nat.mod_lt _ hpos
  have hnonneg : 0 ≤ (numerator % denominator : ℕ) / (denominator : ℚ) := by positivity
  have hhalf : 2 * (numerator % denominator) ≤ denominator ↔
      (numerator % denominator : ℕ) / (denominator : ℚ) ≤ 1 / 2 := by
    rw [div_le_iff₀ hdenominator, one_div_mul_eq_div, le_div_iff₀' (by norm_num)]
    exact_mod_cast Iff.rfl
  have htie : 2 * (numerator % denominator) = denominator ↔
      (numerator % denominator : ℕ) / (denominator : ℚ) = 1 / 2 := by
    rw [div_eq_iff hdenominator.ne', one_div_mul_eq_div, eq_div_iff (by norm_num), mul_comm]
    exact_mod_cast Iff.rfl
  rw [hsplit]
  generalize (numerator % denominator : ℕ) / (denominator : ℚ) = rest at *
  have hup : |((numerator / denominator + 1 : ℕ) : ℚ) - ((numerator / denominator : ℕ) + rest)| =
      1 - rest := by
    rw [abs_of_nonneg] <;> push_cast <;> linarith
  have hdown : |((numerator / denominator : ℕ) : ℚ) - ((numerator / denominator : ℕ) + rest)| =
      rest := by
    rw [abs_of_nonpos] <;> linarith
  simp only [rounded, roundHalfEven]
  split_ifs with habove hodd
  · rw [hup]
    rw [← not_le, hhalf, not_le] at habove
    exact ⟨by linarith, fun heq => by linarith⟩
  · obtain ⟨htied, hodd⟩ : 2 * (numerator % denominator) = denominator ∧
        numerator / denominator % 2 = 1 := by simpa using hodd
    rw [hup, htie.mp htied]
    exact ⟨by norm_num, fun _ => by omega⟩
  · rw [hdown]
    refine ⟨hhalf.mp (by omega), fun heq => ?_⟩
    have htied := htie.mpr heq
    simp only [Bool.and_eq_true, decide_eq_true_eq, not_and] at hodd
    have := hodd htied
    omega

theorem scaleDown_spec (numerator : ℕ) {denominator : ℕ} (hpos : 0 < denominator) (exponent : ℤ) :
    0 < (scaleDown numerator denominator exponent).2 ∧
      ((scaleDown numerator denominator exponent).1 : ℚ) /
        (scaleDown numerator denominator exponent).2 = numerator / denominator / 2 ^ exponent := by
  have hdenominator : (0 : ℚ) < denominator := by exact_mod_cast hpos
  unfold scaleDown
  split
  · rename_i hexponent
    obtain ⟨power, rfl⟩ := Int.eq_ofNat_of_zero_le hexponent
    refine ⟨Nat.mul_pos hpos (Nat.pow_pos (by norm_num)), ?_⟩
    simp [div_div]
  · rename_i hexponent
    obtain ⟨power, hpower⟩ : ∃ power : ℕ, exponent = -power := ⟨(-exponent).toNat, by omega⟩
    subst hpower
    refine ⟨hpos, ?_⟩
    simp
    ring

/-- A quotient is not less than the quotient without its rest. -/
theorem le_div_iff_cast_le {bound numerator denominator : ℕ} (hpos : 0 < denominator) :
    bound ≤ numerator / denominator ↔ (bound : ℚ) ≤ numerator / denominator := by
  have hdenominator : (0 : ℚ) < denominator := by exact_mod_cast hpos
  rw [Nat.le_div_iff_mul_le hpos, le_div_iff₀ hdenominator]
  exact_mod_cast Iff.rfl

/-- A number is in the interval of the mantissa that it is nearest to. -/
theorem roundsTo_of_near {rounded : ℕ} {exponent : ℤ} {quotient : ℚ}
    (hnear : |(rounded : ℚ) - quotient| ≤ 1 / 2)
    (htie : |(rounded : ℚ) - quotient| = 1 / 2 → rounded % 2 = 0)
    (hfull : leastExponent < exponent → (2 : ℚ) ^ 52 ≤ quotient) :
    RoundsTo rounded exponent (quotient * 2 ^ exponent) := by
  have hpos := two_zpow_pos exponent
  obtain ⟨hbelow, habove⟩ := abs_le.mp hnear
  rw [RoundsTo, lowerEnd, upperEnd]
  split_ifs with heven hnarrow
  · -- nothing below the least mantissa is rounded up to it
    have hquotient := hfull hnarrow.2
    have hcast : (rounded : ℚ) = 2 ^ 52 := by rw [hnarrow.1, cast_fullMantissa]
    constructor
    · exact mul_le_mul_of_nonneg_right (by linarith) hpos.le
    · exact mul_le_mul_of_nonneg_right (by linarith) hpos.le
  · constructor
    · exact mul_le_mul_of_nonneg_right (by linarith) hpos.le
    · exact mul_le_mul_of_nonneg_right (by linarith) hpos.le
  · rename_i hnarrow
    rw [hnarrow.1, fullMantissa_eq] at heven
    omega
  · -- an odd result is off by less than a half
    have hstrict := abs_lt.mp (lt_of_le_of_ne hnear fun heq => heven (htie heq))
    constructor
    · exact mul_lt_mul_of_pos_right (by linarith) hpos
    · exact mul_lt_mul_of_pos_right (by linarith) hpos

/-- What is rounded up to a mantissa with one digit too many has the next exponent. -/
theorem roundsTo_carry {exponent : ℤ} {quotient : ℚ} (hleast : leastExponent ≤ exponent)
    (hlarge : 2 ^ 53 - 1 / 2 ≤ quotient) (hsmall : quotient < 2 ^ 53) :
    RoundsTo fullMantissa (exponent + 1) (quotient * 2 ^ exponent) := by
  have hpos := two_zpow_pos exponent
  have hlower : lowerEnd fullMantissa (exponent + 1) = (2 ^ 53 - 1 / 2) * 2 ^ exponent := by
    rw [lowerEnd, if_pos ⟨rfl, by omega⟩, cast_fullMantissa, zpow_add_one₀ (by norm_num)]
    ring
  have hupper : upperEnd fullMantissa (exponent + 1) = (2 ^ 53 + 1) * 2 ^ exponent := by
    rw [upperEnd, cast_fullMantissa, zpow_add_one₀ (by norm_num)]
    ring
  rw [RoundsTo, if_pos (by norm_num [fullMantissa_eq]), hlower, hupper]
  constructor
  · exact mul_le_mul_of_nonneg_right hlarge hpos.le
  · exact mul_le_mul_of_nonneg_right (by linarith) hpos.le

/-- The leading binary digit tells how a number compares with powers of two. -/
theorem two_pow_le_div_iff {number : ℚ} (hnumber : 0 < number) (power : ℕ) (exponent : ℤ) :
    (2 : ℚ) ^ power ≤ number / 2 ^ exponent ↔ power + exponent ≤ Int.log 2 number := by
  rw [le_div_iff₀ (two_zpow_pos exponent), ← zpow_natCast, ← zpow_add₀ (by norm_num)]
  exact Int.zpow_le_iff_le_log (by norm_num) hnumber

section

variable {numerator denominator : ℕ} (hnumerator : 0 < numerator) (hdenominator : 0 < denominator)

include hnumerator hdenominator

theorem ratio_pos : (0 : ℚ) < numerator / denominator := by
  have hnumerator : (0 : ℚ) < numerator := by exact_mod_cast hnumerator
  have hdenominator : (0 : ℚ) < denominator := by exact_mod_cast hdenominator
  positivity

/-- The binary digits of numerator and denominator tell the leading binary digit up to one. -/
theorem log_ratio :
    (numerator.log2 : ℤ) - denominator.log2 - 1 ≤ Int.log 2 ((numerator : ℚ) / denominator) ∧
      Int.log 2 ((numerator : ℚ) / denominator) ≤ numerator.log2 - denominator.log2 := by
  have hpos : (0 : ℚ) < denominator := by exact_mod_cast hdenominator
  have hratio := ratio_pos hnumerator hdenominator
  have hbounds : ∀ {number : ℕ}, 0 < number →
      (2 : ℚ) ^ (number.log2 : ℤ) ≤ number ∧ (number : ℚ) < 2 ^ ((number.log2 : ℤ) + 1) := by
    intro number hnumber
    have hlow := Nat.log2_self_le hnumber.ne'
    have hhigh := Nat.lt_log2_self (n := number)
    constructor
    · rw [zpow_natCast]
      exact_mod_cast hlow
    · rw [show (number.log2 : ℤ) + 1 = ((number.log2 + 1 : ℕ) : ℤ) by norm_num, zpow_natCast]
      exact_mod_cast hhigh
  obtain ⟨hlow, hhigh⟩ := hbounds hnumerator
  obtain ⟨hlow', hhigh'⟩ := hbounds hdenominator
  constructor
  · rw [← Int.zpow_le_iff_le_log (by norm_num) hratio, le_div_iff₀ hpos]
    calc ((2 : ℕ) : ℚ) ^ ((numerator.log2 : ℤ) - denominator.log2 - 1) * denominator
        ≤ 2 ^ ((numerator.log2 : ℤ) - denominator.log2 - 1) *
            2 ^ ((denominator.log2 : ℤ) + 1) := by
          push_cast
          gcongr
      _ = 2 ^ (numerator.log2 : ℤ) := by
          rw [← zpow_add₀ (by norm_num)]
          congr 1
          ring
      _ ≤ numerator := hlow
  · rw [← Int.lt_add_one_iff, ← Int.lt_zpow_iff_log_lt (by norm_num) hratio, div_lt_iff₀ hpos]
    calc (numerator : ℚ) < 2 ^ ((numerator.log2 : ℤ) + 1) := hhigh
      _ = 2 ^ ((numerator.log2 : ℤ) - denominator.log2 + 1) * 2 ^ (denominator.log2 : ℤ) := by
          rw [← zpow_add₀ (by norm_num)]
          congr 1
          ring
      _ ≤ ((2 : ℕ) : ℚ) ^ ((numerator.log2 : ℤ) - denominator.log2 + 1) * denominator := by
          push_cast
          gcongr

/-- The exponent is that of the leading binary digit, 52 places down, or the least one. -/
theorem exponentFor_eq : exponentFor numerator denominator =
    max (Int.log 2 ((numerator : ℚ) / denominator) - 52) leastExponent := by
  obtain ⟨hlow, hhigh⟩ := log_ratio hnumerator hdenominator
  obtain ⟨hbottom, hratio⟩ := scaleDown_spec numerator hdenominator
    ((numerator.log2 : ℤ) - denominator.log2 - 52)
  have hdigits := two_pow_le_div_iff (ratio_pos hnumerator hdenominator)
  simp only [exponentFor]
  generalize hguess : (numerator.log2 : ℤ) - denominator.log2 - 52 = guess at *
  generalize scaleDown numerator denominator guess = scaled at *
  have hwide : ¬ 2 * fullMantissa ≤ scaled.1 / scaled.2 := by
    rw [le_div_iff_cast_le hbottom, hratio, show ((2 * fullMantissa : ℕ) : ℚ) = 2 ^ 53 by
      norm_num [fullMantissa_eq], hdigits]
    omega
  have hnarrow : scaled.1 / scaled.2 < fullMantissa ↔
      Int.log 2 ((numerator : ℚ) / denominator) < 52 + guess := by
    rw [← not_le, le_div_iff_cast_le hbottom, hratio, cast_fullMantissa, hdigits, not_le]
    rfl
  rw [if_neg hwide]
  congr 1
  split_ifs with hfit
  · rw [hnarrow] at hfit
    omega
  · rw [hnarrow] at hfit
    omega

/-- A ratio is rounded to the double in whose interval it is, if that is not too large. -/
theorem ofRatio_eq (negative : Bool) : ∃ mantissa exponent, IsNormal mantissa exponent ∧
    RoundsTo mantissa exponent (numerator / denominator) ∧
      Double.ofRatio negative numerator denominator =
        if greatestExponent < exponent then .infinite negative
        else .finite negative mantissa exponent := by
  have hdigits := two_pow_le_div_iff (ratio_pos hnumerator hdenominator)
  have hexponent := exponentFor_eq hnumerator hdenominator
  simp only [Double.ofRatio]
  generalize exponentFor numerator denominator = exponent at *
  obtain ⟨hbottom, hratio⟩ := scaleDown_spec numerator hdenominator exponent
  generalize scaleDown numerator denominator exponent = scaled at *
  obtain ⟨hnear, htie⟩ := roundHalfEven_spec scaled.1 hbottom
  rw [hratio] at hnear htie
  have hnumber : (numerator : ℚ) / denominator =
      numerator / denominator / 2 ^ exponent * 2 ^ exponent :=
    (div_mul_cancel₀ _ (two_zpow_pos exponent).ne').symm
  have hsmall : (numerator : ℚ) / denominator / 2 ^ exponent < 2 ^ 53 := by
    rw [← not_le, hdigits]
    omega
  have hfull : leastExponent < exponent →
      (2 : ℚ) ^ 52 ≤ numerator / denominator / 2 ^ exponent := by
    intro hleast
    rw [hdigits]
    omega
  have hleast : leastExponent ≤ exponent := by omega
  generalize (numerator : ℚ) / denominator / 2 ^ exponent = quotient at *
  generalize roundHalfEven scaled.1 scaled.2 = rounded at *
  obtain ⟨hbelow, habove⟩ := abs_le.mp hnear
  rw [hnumber]
  by_cases hcarry : rounded = 2 * fullMantissa
  · rw [if_pos hcarry]
    refine ⟨fullMantissa, exponent + 1, ⟨by norm_num [fullMantissa_eq], by omega, .inl le_rfl⟩,
      roundsTo_carry hleast ?_ hsmall, rfl⟩
    have hcast : (rounded : ℚ) = 2 ^ 53 := by
      rw [hcarry]
      norm_num [fullMantissa_eq]
    linarith
  · rw [if_neg hcarry]
    refine ⟨rounded, exponent, ⟨?_, hleast, ?_⟩, roundsTo_of_near hnear htie hfull, rfl⟩
    · have hcast : (rounded : ℚ) < ((2 * fullMantissa + 1 : ℕ) : ℚ) := by
        push_cast
        rw [cast_fullMantissa]
        linarith
      have hmost : rounded < 2 * fullMantissa + 1 := by exact_mod_cast hcast
      omega
    · refine hleast.lt_or_eq.imp (fun hlt => ?_) Eq.symm
      have hcast : ((fullMantissa : ℕ) : ℚ) < ((rounded + 1 : ℕ) : ℚ) := by
        push_cast
        rw [cast_fullMantissa]
        linarith [hfull hlt]
      have hleast : fullMantissa < rounded + 1 := by exact_mod_cast hcast
      omega

end

/-! ## Reading a decimal -/

/-- The rational number that a decimal is. -/
def Scaled.value (decimal : Scaled) : ℚ := decimal.digits * 10 ^ decimal.scale

theorem ten_zpow_pos (scale : ℤ) : (0 : ℚ) < 10 ^ scale := zpow_pos (by norm_num) scale

/-- A positive decimal is a ratio. -/
theorem ofRatio_value (negative : Bool) {significand : ℕ} (hpos : 0 < significand) (scale : ℤ) :
    ∃ mantissa exponent, IsNormal mantissa exponent ∧
      RoundsTo mantissa exponent (Scaled.value ⟨significand, scale⟩) ∧
        (if 0 ≤ scale then Double.ofRatio negative (significand * Nat.pow 10 scale.toNat) 1
          else Double.ofRatio negative significand (Nat.pow 10 (-scale).toNat)) =
          if greatestExponent < exponent then .infinite negative
          else .finite negative mantissa exponent := by
  split
  · rename_i hscale
    obtain ⟨power, rfl⟩ := Int.eq_ofNat_of_zero_le hscale
    have hvalue : Scaled.value ⟨significand, (power : ℤ)⟩ =
        ((significand * Nat.pow 10 power : ℕ) : ℚ) / ((1 : ℕ) : ℚ) := by
      simp [Scaled.value]
    rw [hvalue]
    exact ofRatio_eq (Nat.mul_pos hpos (Nat.pow_pos (by norm_num))) one_pos negative
  · rename_i hscale
    obtain ⟨power, hpower⟩ : ∃ power : ℕ, scale = -power := ⟨(-scale).toNat, by omega⟩
    subst hpower
    have hvalue : Scaled.value ⟨significand, -(power : ℤ)⟩ =
        (significand : ℚ) / ((Nat.pow 10 power : ℕ) : ℚ) := by
      simp [Scaled.value, div_eq_mul_inv]
    rw [hvalue, neg_neg, Int.toNat_natCast]
    exact ofRatio_eq hpos (Nat.pow_pos (by norm_num)) negative

/-- The place of the first digit tells the size of a decimal. -/
theorem value_bounds {significand : ℕ} (hpos : 0 < significand) (scale : ℤ) :
    (10 : ℚ) ^ (scale + Double.digitCount significand - 1) ≤ Scaled.value ⟨significand, scale⟩ ∧
      Scaled.value ⟨significand, scale⟩ < 10 ^ (scale + Double.digitCount significand) := by
  have hcount : Double.digitCount significand = Nat.log 10 significand + 1 := by
    rw [Double.digitCount, if_neg hpos.ne']
    exact length_digitsOf significand
  have hten := ten_zpow_pos scale
  have hlow : ((10 ^ Nat.log 10 significand : ℕ) : ℚ) ≤ significand := by
    exact_mod_cast Nat.pow_log_le_self 10 hpos.ne'
  have hhigh : (significand : ℚ) < ((10 ^ (Nat.log 10 significand + 1) : ℕ) : ℚ) := by
    exact_mod_cast Nat.lt_pow_succ_log_self (by norm_num) significand
  push_cast at hlow hhigh
  rw [hcount, Scaled.value]
  constructor
  · rw [show scale + ((Nat.log 10 significand + 1 : ℕ) : ℤ) - 1 =
      ((Nat.log 10 significand : ℕ) : ℤ) + scale by push_cast; ring, zpow_add₀ (by norm_num),
      zpow_natCast]
    exact mul_le_mul_of_nonneg_right hlow hten.le
  · rw [show scale + ((Nat.log 10 significand + 1 : ℕ) : ℤ) =
      ((Nat.log 10 significand + 1 : ℕ) : ℤ) + scale by ring, zpow_add₀ (by norm_num),
      zpow_natCast]
    exact mul_lt_mul_of_pos_right hhigh hten

/-- The range of doubles is within four hundred decimal digits on either side of the point. -/
theorem two_zpow_lt_ten_zpow :
    (2 : ℚ) ^ (1024 : ℤ) < 10 ^ (400 : ℤ) ∧ (10 : ℚ) ^ (-400 : ℤ) < 2 ^ (-1075 : ℤ) := by
  have hpowers : 2 ^ 1024 < 10 ^ 400 ∧ 2 ^ 1075 < 10 ^ 400 := by decide +kernel
  constructor
  · rw [show (1024 : ℤ) = ((1024 : ℕ) : ℤ) by norm_num, zpow_natCast,
      show (400 : ℤ) = ((400 : ℕ) : ℤ) by norm_num, zpow_natCast]
    exact_mod_cast hpowers.1
  · rw [zpow_neg, zpow_neg, show (1075 : ℤ) = ((1075 : ℕ) : ℤ) by norm_num, zpow_natCast,
      show (400 : ℤ) = ((400 : ℕ) : ℤ) by norm_num, zpow_natCast]
    refine inv_strictAnti₀ (by positivity) ?_
    exact_mod_cast hpowers.2

/-- A number of four hundred digits is beyond the range of doubles. -/
theorem RoundsTo.lt_of_le_greatest {mantissa : ℕ} {exponent : ℤ} {number : ℚ}
    (hrounds : RoundsTo mantissa exponent number) (hnormal : IsNormal mantissa exponent)
    (hexponent : exponent ≤ greatestExponent) : number < 10 ^ (400 : ℤ) := by
  have hmantissa : (mantissa : ℚ) + 1 / 2 ≤ 2 ^ (53 : ℤ) := by
    have hsmall := hnormal.small
    rw [fullMantissa_eq] at hsmall
    have hcast : ((mantissa + 1 : ℕ) : ℚ) ≤ ((2 ^ 53 : ℕ) : ℚ) := by
      exact_mod_cast (by omega : mantissa + 1 ≤ 2 ^ 53)
    push_cast at hcast
    have : (2 : ℚ) ^ (53 : ℤ) = 2 ^ 53 := by norm_num
    linarith
  calc number ≤ (mantissa + 1 / 2) * 2 ^ exponent := hrounds.le_upperEnd
    _ ≤ 2 ^ (53 : ℤ) * 2 ^ greatestExponent := by
        have hpower : (2 : ℚ) ^ exponent ≤ 2 ^ greatestExponent :=
          zpow_le_zpow_right₀ (by norm_num) hexponent
        gcongr
    _ = 2 ^ (1024 : ℤ) := by
        rw [greatestExponent, ← zpow_add₀ (by norm_num)]
        rfl
    _ < 10 ^ (400 : ℤ) := two_zpow_lt_ten_zpow.1

/-- What has its first digit at the four hundredth place after the point is as good as zero. -/
theorem roundsTo_zero {number : ℚ} (hnonneg : 0 ≤ number) (hsmall : number ≤ 10 ^ (-400 : ℤ)) :
    RoundsTo 0 leastExponent number := by
  have hpos := two_zpow_pos leastExponent
  have htiny : (10 : ℚ) ^ (-400 : ℤ) ≤ 1 / 2 * 2 ^ leastExponent := by
    calc (10 : ℚ) ^ (-400 : ℤ) ≤ 2 ^ (-1075 : ℤ) := two_zpow_lt_ten_zpow.2.le
      _ = 2 ^ (-1 : ℤ) * 2 ^ leastExponent := by
          rw [leastExponent, ← zpow_add₀ (by norm_num)]
          rfl
      _ = 1 / 2 * 2 ^ leastExponent := by
          rw [zpow_neg_one, one_div]
  have hzero : ¬ (0 = fullMantissa ∧ leastExponent < leastExponent) := fun h => lt_irrefl _ h.2
  rw [RoundsTo, if_pos rfl, lowerEnd, if_neg hzero, upperEnd, Nat.cast_zero]
  constructor
  · linarith
  · linarith

/-- A decimal is rounded to the double in whose interval it is, if that is not too large. -/
theorem ofDecimal_eq (negative : Bool) (significand : ℕ) (scale : ℤ) :
    ∃ mantissa exponent, IsNormal mantissa exponent ∧
      RoundsTo mantissa exponent (Scaled.value ⟨significand, scale⟩) ∧
        Double.ofDecimal negative significand scale =
          if greatestExponent < exponent then .infinite negative
          else .finite negative mantissa exponent := by
  rcases significand.eq_zero_or_pos with rfl | hpos
  · refine ⟨0, leastExponent, ⟨by norm_num [fullMantissa_eq], le_rfl, .inr rfl⟩, ?_, rfl⟩
    rw [Scaled.value, Nat.cast_zero, zero_mul]
    exact roundsTo_zero le_rfl (ten_zpow_pos _).le
  · obtain ⟨hlow, hhigh⟩ := value_bounds hpos scale
    obtain ⟨mantissa, exponent, hnormal, hrounds, hratio⟩ := ofRatio_value negative hpos scale
    simp only [Double.ofDecimal]
    split_ifs with hsmall hlarge hscale
    · have hplace : scale + Double.digitCount significand ≤ -400 := by
        simp only [Bool.or_eq_true, decide_eq_true_eq, hpos.ne', false_or] at hsmall
        omega
      refine ⟨0, leastExponent, ⟨by norm_num [fullMantissa_eq], le_rfl, .inr rfl⟩, ?_, rfl⟩
      exact roundsTo_zero ((ten_zpow_pos _).le.trans hlow)
        (hhigh.le.trans (zpow_le_zpow_right₀ (by norm_num) hplace))
    · -- the double whose interval it is in has too large an exponent
      have hbeyond : greatestExponent < exponent := by
        by_contra hmost
        have hlt := hrounds.lt_of_le_greatest hnormal (not_lt.mp hmost)
        have hge : (10 : ℚ) ^ (400 : ℤ) ≤ 10 ^ (scale + Double.digitCount significand - 1) :=
          zpow_le_zpow_right₀ (by norm_num) (by omega)
        linarith
      exact ⟨mantissa, exponent, hnormal, hrounds, by rw [if_pos hbeyond]⟩
    · rw [if_pos hscale] at hratio
      exact ⟨mantissa, exponent, hnormal, hrounds, hratio⟩
    · rw [if_neg hscale] at hratio
      exact ⟨mantissa, exponent, hnormal, hrounds, hratio⟩

/-- A decimal is read as a double if it is in the interval of this double. -/
theorem ofDecimal_eq_finite_iff {negative : Bool} {significand mantissa : ℕ}
    {scale exponent : ℤ} (hnormal : IsNormal mantissa exponent)
    (hexponent : exponent ≤ greatestExponent) :
    Double.ofDecimal negative significand scale = .finite negative mantissa exponent ↔
      RoundsTo mantissa exponent (Scaled.value ⟨significand, scale⟩) := by
  obtain ⟨mantissa', exponent', hnormal', hrounds', hread⟩ :=
    ofDecimal_eq negative significand scale
  rw [hread]
  constructor
  · intro hfinite
    split at hfinite
    · cases hfinite
    · obtain ⟨-, rfl, rfl⟩ := Double.finite.inj hfinite
      exact hrounds'
  · intro hrounds
    obtain ⟨rfl, rfl⟩ := hrounds.unique hnormal hnormal' hrounds'
    rw [if_neg (not_lt.mpr hexponent)]

end Compliance.Decimal
