import Compliance.Proofs.Decimal.Rounding

/-!
# The shortest decimal of a double

The decimal that a double is written as is the shortest one: it is read as the double, no decimal
on the next coarser grid is, and on its own grid it is the nearest to the double, the even one if
two are equally near.  No other decimal is all that (`IsShortest.unique`), so this says what a
double with full precision is written as (`IsFull.shortest_eq_iff`).  In terms of reading alone,
without intervals, it is said by `Scaled.IsShortest` (`IsFull.isShortest_iff`).  A decimal with at
most fifteen digits and no zero at its end is always the shortest one (`IsFull.isShortest_of_lt`).

## Strategy

* The interval over a common denominator is the interval of the reals that round to the double
  (`Interval.holds_ofParts_iff`), and its value has a lower neighbour on each grid and a rest
  (`Interval.floor_ofParts`).  If a decimal of a grid is in the interval, so is the neighbour on
  its side of the value; hence two candidates are enough (`nearest?_ofParts`).
* The place of the first digit is found from the binary exponent, since the guess is off by a few
  places at most (`place_ofParts`), and with seventeen digits there is a decimal in the interval
  (`IsFull.exists_roundsTo`).  So the search ends, with the first grid that has one
  (`search_ofParts`).
* The search begins with one digit, so a coarser decimal is left out only if it is a power of ten
  above the value.  Then taking away zeros finds it (`IsFull.isShortest_shortest`).
-/

namespace Compliance.Decimal

/-! ## The interval in whole numbers -/

/-- The value of a double. -/
def Double.valueOf (mantissa : ℕ) (exponent : ℤ) : ℚ := mantissa * 2 ^ exponent

/-- A power of ten as a ratio of whole numbers. -/
theorem ten_zpow_eq_ratio (scale : ℤ) :
    (10 : ℚ) ^ scale =
      ((if 0 ≤ scale then Nat.pow 10 scale.toNat else 1 : ℕ) : ℚ) /
        ((if 0 ≤ scale then 1 else Nat.pow 10 (-scale).toNat : ℕ) : ℚ) := by
  split
  · rename_i hscale
    obtain ⟨power, rfl⟩ := Int.eq_ofNat_of_zero_le hscale
    simp
  · obtain ⟨power, hpower⟩ : ∃ power : ℕ, scale = -power := ⟨(-scale).toNat, by omega⟩
    subst hpower
    simp

theorem ten_pow_up_pos (scale : ℤ) :
    0 < (if 0 ≤ scale then Nat.pow 10 scale.toNat else 1) := by
  split
  · exact Nat.pow_pos (by norm_num)
  · exact one_pos

theorem ten_pow_down_pos (scale : ℤ) :
    0 < (if 0 ≤ scale then 1 else Nat.pow 10 (-scale).toNat) := by
  split
  · exact one_pos
  · exact Nat.pow_pos (by norm_num)

namespace Interval

section

variable {mantissa : ℕ} {exponent : ℤ}

theorem ofParts_denominator_pos (mantissa : ℕ) (exponent : ℤ) :
    0 < (ofParts mantissa exponent).denominator := by
  unfold ofParts
  split
  · norm_num
  · exact Nat.mul_pos (by norm_num) (Nat.pow_pos (by norm_num))

/-- The unit of the interval is a quarter of the gap. -/
theorem unit_div_denominator (exponent : ℤ) :
    ((if 0 ≤ exponent then Nat.pow 2 exponent.toNat else 1 : ℕ) : ℚ) /
      ((4 * (if 0 ≤ exponent then 1 else Nat.pow 2 (-exponent).toNat) : ℕ) : ℚ) =
        2 ^ exponent / 4 := by
  split
  · rename_i hexponent
    obtain ⟨power, rfl⟩ := Int.eq_ofNat_of_zero_le hexponent
    simp
  · obtain ⟨power, hpower⟩ : ∃ power : ℕ, exponent = -power := ⟨(-exponent).toNat, by omega⟩
    subst hpower
    simp
    ring

theorem ofParts_value (mantissa : ℕ) (exponent : ℤ) :
    ((ofParts mantissa exponent).value : ℚ) / (ofParts mantissa exponent).denominator =
      Double.valueOf mantissa exponent := by
  have hunit := unit_div_denominator exponent
  simp only [ofParts, Double.valueOf]
  rw [Nat.cast_mul (4 * mantissa), mul_div_assoc, hunit]
  push_cast
  ring

theorem ofParts_upper (mantissa : ℕ) (exponent : ℤ) :
    (((ofParts mantissa exponent).value + (ofParts mantissa exponent).above : ℕ) : ℚ) /
      (ofParts mantissa exponent).denominator = upperEnd mantissa exponent := by
  have hunit := unit_div_denominator exponent
  simp only [ofParts, upperEnd]
  rw [← Nat.add_mul, Nat.cast_mul, mul_div_assoc, hunit]
  push_cast
  ring

theorem ofParts_lower (hpos : 0 < mantissa) (exponent : ℤ) :
    (((ofParts mantissa exponent).value - (ofParts mantissa exponent).below : ℕ) : ℚ) /
      (ofParts mantissa exponent).denominator = lowerEnd mantissa exponent := by
  have hunit := unit_div_denominator exponent
  simp only [ofParts, lowerEnd, Bool.and_eq_true, decide_eq_true_eq]
  generalize (if 0 ≤ exponent then Nat.pow 2 exponent.toNat else 1 : ℕ) = unit at *
  generalize (4 * if 0 ≤ exponent then 1 else Nat.pow 2 (-exponent).toNat : ℕ) = denominator at *
  split_ifs
  · have hcast : 4 * mantissa * unit - unit = (4 * mantissa - 1) * unit := by
      rw [Nat.sub_mul, one_mul]
    rw [hcast, Nat.cast_mul, mul_div_assoc, hunit, Nat.cast_sub (by omega)]
    push_cast
    ring
  · rw [← Nat.sub_mul, Nat.cast_mul, mul_div_assoc, hunit, Nat.cast_sub (by omega)]
    push_cast
    ring

theorem ofParts_closed (mantissa : ℕ) (exponent : ℤ) :
    (ofParts mantissa exponent).closed = true ↔ mantissa % 2 = 0 := by
  simp [ofParts]

/-- A decimal is held by the interval if it rounds to the double. -/
theorem holds_ofParts_iff (hpos : 0 < mantissa) (exponent : ℤ) (digits : ℕ) (scale : ℤ) :
    (ofParts mantissa exponent).holds digits scale = true ↔
      RoundsTo mantissa exponent (Scaled.value ⟨digits, scale⟩) := by
  have hdenominator : (0 : ℚ) < (ofParts mantissa exponent).denominator := by
    exact_mod_cast ofParts_denominator_pos mantissa exponent
  have hdown : (0 : ℚ) < (if 0 ≤ scale then 1 else Nat.pow 10 (-scale).toNat : ℕ) := by
    exact_mod_cast ten_pow_down_pos scale
  have hclosed := ofParts_closed mantissa exponent
  rw [RoundsTo, ← ofParts_lower hpos, ← ofParts_upper, Scaled.value, ten_zpow_eq_ratio]
  simp only [holds]
  generalize (if 0 ≤ scale then Nat.pow 10 scale.toNat else 1 : ℕ) = up at *
  generalize (if 0 ≤ scale then 1 else Nat.pow 10 (-scale).toNat : ℕ) = down at *
  generalize ofParts mantissa exponent = interval at *
  -- a quotient is compared with a quotient by multiplying out
  have hle (bound : ℕ) : (bound : ℚ) / interval.denominator ≤ digits * ((up : ℚ) / down) ↔
      bound * down ≤ digits * up * interval.denominator := by
    rw [← mul_div_assoc, div_le_div_iff₀ hdenominator hdown]
    exact_mod_cast Iff.rfl
  have hge (bound : ℕ) : digits * ((up : ℚ) / down) ≤ (bound : ℚ) / interval.denominator ↔
      digits * up * interval.denominator ≤ bound * down := by
    rw [← mul_div_assoc, div_le_div_iff₀ hdown hdenominator]
    exact_mod_cast Iff.rfl
  simp only [← not_le, hle, hge]
  by_cases heven : mantissa % 2 = 0
  · simp [heven, hclosed.mpr heven]
  · simp [heven, mt hclosed.mp heven]

/-- The value is its lower neighbour on a grid and a rest of less than one step. -/
theorem floor_ofParts (mantissa : ℕ) (exponent scale : ℤ) :
    let (low, rest, step) := (ofParts mantissa exponent).floor scale
    0 < step ∧ rest < step ∧
      Double.valueOf mantissa exponent = (low + (rest : ℚ) / step) * 10 ^ scale := by
  have hstep : 0 < (ofParts mantissa exponent).denominator *
      (if 0 ≤ scale then Nat.pow 10 scale.toNat else 1) :=
    Nat.mul_pos (ofParts_denominator_pos mantissa exponent) (ten_pow_up_pos scale)
  refine ⟨hstep, Nat.mod_lt _ hstep, ?_⟩
  rw [← ofParts_value, ten_zpow_eq_ratio]
  have hdown := ten_pow_down_pos scale
  have hdenominator := ofParts_denominator_pos mantissa exponent
  have hup := ten_pow_up_pos scale
  generalize (if 0 ≤ scale then Nat.pow 10 scale.toNat else 1 : ℕ) = up at *
  generalize (if 0 ≤ scale then 1 else Nat.pow 10 (-scale).toNat : ℕ) = down at *
  generalize ofParts mantissa exponent = interval at *
  have hdiv : ((interval.value * down : ℕ) : ℚ) = (interval.denominator * up : ℕ) *
      (interval.value * down / (interval.denominator * up) : ℕ) +
        (interval.value * down % (interval.denominator * up) : ℕ) := by
    exact_mod_cast (Nat.div_add_mod _ _).symm
  generalize interval.value * down / (interval.denominator * up) = low at *
  generalize interval.value * down % (interval.denominator * up) = rest at *
  have hdenominator' : (interval.denominator : ℚ) ≠ 0 := by exact_mod_cast hdenominator.ne'
  have hup' : (up : ℚ) ≠ 0 := by exact_mod_cast hup.ne'
  have hdown' : (down : ℚ) ≠ 0 := by exact_mod_cast hdown.ne'
  push_cast at hdiv ⊢
  field_simp
  linarith

end

end Interval

/-! ## The nearest decimal of a grid -/

section

variable {mantissa : ℕ} {exponent : ℤ}

/-- The value of a double is inside its interval. -/
theorem valueOf_mem (mantissa : ℕ) (exponent : ℤ) :
    lowerEnd mantissa exponent < Double.valueOf mantissa exponent ∧
      Double.valueOf mantissa exponent < upperEnd mantissa exponent := by
  have hpos := two_zpow_pos exponent
  unfold lowerEnd upperEnd Double.valueOf
  constructor
  · refine mul_lt_mul_of_pos_right ?_ hpos
    split <;> norm_num
  · exact mul_lt_mul_of_pos_right (by norm_num) hpos

/-- What is nearer to the value on the same side rounds to the double as well. -/
theorem RoundsTo.of_between {number between : ℚ} (hrounds : RoundsTo mantissa exponent number)
    (hbetween : (number ≤ between ∧ between ≤ Double.valueOf mantissa exponent) ∨
      (Double.valueOf mantissa exponent ≤ between ∧ between ≤ number)) :
    RoundsTo mantissa exponent between := by
  obtain ⟨hlower, hupper⟩ := valueOf_mem mantissa exponent
  unfold RoundsTo at *
  split_ifs at * <;> rcases hbetween with ⟨hfirst, hsecond⟩ | ⟨hfirst, hsecond⟩ <;>
    constructor <;> linarith [hrounds.1, hrounds.2]

/-- Of the decimals on a grid that round to a double one is nearest to it, the even one if there
are two. -/
structure IsNearest (mantissa : ℕ) (exponent : ℤ) (decimal : Scaled) : Prop where
  rounds : RoundsTo mantissa exponent decimal.value
  nearest : ∀ digits : ℕ, RoundsTo mantissa exponent (Scaled.value ⟨digits, decimal.scale⟩) →
    |decimal.value - Double.valueOf mantissa exponent| ≤
      |Scaled.value ⟨digits, decimal.scale⟩ - Double.valueOf mantissa exponent|
  even : ∀ digits : ℕ, RoundsTo mantissa exponent (Scaled.value ⟨digits, decimal.scale⟩) →
    |decimal.value - Double.valueOf mantissa exponent| =
      |Scaled.value ⟨digits, decimal.scale⟩ - Double.valueOf mantissa exponent| →
    digits = decimal.digits ∨ decimal.digits % 2 = 0

section

variable {low : ℕ} {rest : ℚ} {scale : ℤ}
  (hvalue : Double.valueOf mantissa exponent = (low + rest) * 10 ^ scale)

include hvalue

theorem abs_sub_of_le {digits : ℕ} (hdigits : digits ≤ low) (hrest : 0 ≤ rest) :
    |Scaled.value ⟨digits, scale⟩ - Double.valueOf mantissa exponent| =
      (low - digits + rest) * 10 ^ scale := by
  have hcast : (digits : ℚ) ≤ low := by exact_mod_cast hdigits
  have hneg : (digits : ℚ) * 10 ^ scale - (low + rest) * 10 ^ scale =
      -((low - digits + rest) * 10 ^ scale) := by ring
  rw [hvalue, Scaled.value, hneg, abs_neg, abs_of_nonneg]
  exact mul_nonneg (by linarith) (ten_zpow_pos scale).le

theorem abs_sub_of_lt {digits : ℕ} (hdigits : low < digits) (hrest : rest < 1) :
    |Scaled.value ⟨digits, scale⟩ - Double.valueOf mantissa exponent| =
      (digits - low - rest) * 10 ^ scale := by
  have hcast : (low : ℚ) + 1 ≤ digits := by exact_mod_cast hdigits
  have hpos : (digits : ℚ) * 10 ^ scale - (low + rest) * 10 ^ scale =
      (digits - low - rest) * 10 ^ scale := by ring
  rw [hvalue, Scaled.value, hpos, abs_of_nonneg]
  exact mul_nonneg (by linarith) (ten_zpow_pos scale).le

/-- If a decimal on the grid that is not above the value rounds to it, so does the lower
neighbour. -/
theorem roundsTo_low {digits : ℕ} (hdigits : digits ≤ low) (hrest : 0 ≤ rest)
    (hrounds : RoundsTo mantissa exponent (Scaled.value ⟨digits, scale⟩)) :
    RoundsTo mantissa exponent (Scaled.value ⟨low, scale⟩) := by
  have hcast : (digits : ℚ) ≤ low := by exact_mod_cast hdigits
  have hten := (ten_zpow_pos scale).le
  refine hrounds.of_between (.inl ⟨mul_le_mul_of_nonneg_right hcast hten, ?_⟩)
  rw [hvalue]
  exact mul_le_mul_of_nonneg_right (by simpa using hrest) hten

theorem roundsTo_high {digits : ℕ} (hdigits : low < digits) (hrest : rest < 1)
    (hrounds : RoundsTo mantissa exponent (Scaled.value ⟨digits, scale⟩)) :
    RoundsTo mantissa exponent (Scaled.value ⟨low + 1, scale⟩) := by
  have hcast : ((low + 1 : ℕ) : ℚ) ≤ digits := by exact_mod_cast hdigits
  have hten := (ten_zpow_pos scale).le
  refine hrounds.of_between (.inr ⟨?_, mul_le_mul_of_nonneg_right hcast hten⟩)
  rw [hvalue]
  refine mul_le_mul_of_nonneg_right ?_ hten
  push_cast
  linarith

theorem isNearest_low (hnonneg : 0 ≤ rest) (hone : rest < 1)
    (hlow : RoundsTo mantissa exponent (Scaled.value ⟨low, scale⟩))
    (hhigh : RoundsTo mantissa exponent (Scaled.value ⟨low + 1, scale⟩) →
      rest < 1 / 2 ∨ rest = 1 / 2 ∧ low % 2 = 0) :
    IsNearest mantissa exponent ⟨low, scale⟩ := by
  have hten := ten_zpow_pos scale
  have hself := abs_sub_of_le hvalue le_rfl hnonneg
  refine ⟨hlow, fun digits hdigits => ?_, fun digits hdigits heq => ?_⟩
  · rcases le_or_gt digits low with hle | hlt
    · have hcast : (digits : ℚ) ≤ low := by exact_mod_cast hle
      rw [hself, abs_sub_of_le hvalue hle hnonneg]
      exact mul_le_mul_of_nonneg_right (by linarith) hten.le
    · have hcast : (low : ℚ) + 1 ≤ digits := by exact_mod_cast hlt
      rw [hself, abs_sub_of_lt hvalue hlt hone]
      refine mul_le_mul_of_nonneg_right ?_ hten.le
      rcases hhigh (roundsTo_high hvalue hlt hone hdigits) with h | h <;> linarith
  · rcases le_or_gt digits low with hle | hlt
    · rw [hself, abs_sub_of_le hvalue hle hnonneg] at heq
      have hcast : (low : ℚ) = digits := by linarith [mul_right_cancel₀ hten.ne' heq]
      exact .inl (by exact_mod_cast hcast.symm)
    · have hcast : (low : ℚ) + 1 ≤ digits := by exact_mod_cast hlt
      rw [hself, abs_sub_of_lt hvalue hlt hone] at heq
      have hsum := mul_right_cancel₀ hten.ne' heq
      rcases hhigh (roundsTo_high hvalue hlt hone hdigits) with h | h
      · linarith
      · exact .inr h.2

theorem isNearest_high (hnonneg : 0 ≤ rest) (hone : rest < 1)
    (hhigh : RoundsTo mantissa exponent (Scaled.value ⟨low + 1, scale⟩))
    (hlow : RoundsTo mantissa exponent (Scaled.value ⟨low, scale⟩) →
      1 / 2 < rest ∨ rest = 1 / 2 ∧ (low + 1) % 2 = 0) :
    IsNearest mantissa exponent ⟨low + 1, scale⟩ := by
  have hten := ten_zpow_pos scale
  have hself := abs_sub_of_lt hvalue (Nat.lt_succ_self low) hone
  push_cast at hself
  refine ⟨hhigh, fun digits hdigits => ?_, fun digits hdigits heq => ?_⟩
  · rcases le_or_gt digits low with hle | hlt
    · have hcast : (digits : ℚ) ≤ low := by exact_mod_cast hle
      rw [hself, abs_sub_of_le hvalue hle hnonneg]
      refine mul_le_mul_of_nonneg_right ?_ hten.le
      rcases hlow (roundsTo_low hvalue hle hnonneg hdigits) with h | h <;> linarith
    · have hcast : (low : ℚ) + 1 ≤ digits := by exact_mod_cast hlt
      rw [hself, abs_sub_of_lt hvalue hlt hone]
      exact mul_le_mul_of_nonneg_right (by linarith) hten.le
  · rcases le_or_gt digits low with hle | hlt
    · have hcast : (digits : ℚ) ≤ low := by exact_mod_cast hle
      rw [hself, abs_sub_of_le hvalue hle hnonneg] at heq
      have hsum := mul_right_cancel₀ hten.ne' heq
      rcases hlow (roundsTo_low hvalue hle hnonneg hdigits) with h | h
      · linarith
      · exact .inr h.2
    · rw [hself, abs_sub_of_lt hvalue hlt hone] at heq
      have hcast : (digits : ℚ) = low + 1 := by linarith [mul_right_cancel₀ hten.ne' heq]
      exact .inl (by exact_mod_cast hcast)

end

theorem nearest?_ofParts (hpos : 0 < mantissa) (exponent scale : ℤ) :
    match (Interval.ofParts mantissa exponent).nearest? scale with
    | some digits => IsNearest mantissa exponent ⟨digits, scale⟩
    | none => ∀ digits : ℕ, ¬ RoundsTo mantissa exponent (Scaled.value ⟨digits, scale⟩) := by
  have hfloor := Interval.floor_ofParts mantissa exponent scale
  have hholds := Interval.holds_ofParts_iff hpos exponent
  unfold Interval.nearest?
  generalize (Interval.ofParts mantissa exponent).floor scale = found at hfloor
  obtain ⟨low, rest, step⟩ := found
  obtain ⟨hstep, hsmall, hvalue⟩ := hfloor
  have hstep' : (0 : ℚ) < step := by exact_mod_cast hstep
  have hnonneg : 0 ≤ (rest : ℚ) / step := by positivity
  have hone : (rest : ℚ) / step < 1 := by
    rw [div_lt_one hstep']
    exact_mod_cast hsmall
  have hbelow : 2 * rest < step ↔ (rest : ℚ) / step < 1 / 2 := by
    rw [div_lt_iff₀ hstep', one_div_mul_eq_div, lt_div_iff₀' (by norm_num)]
    exact_mod_cast Iff.rfl
  have htie : 2 * rest = step ↔ (rest : ℚ) / step = 1 / 2 := by
    rw [div_eq_iff hstep'.ne', one_div_mul_eq_div, eq_div_iff (by norm_num), mul_comm]
    exact_mod_cast Iff.rfl
  generalize (rest : ℚ) / step = part at *
  have hlower := hholds low scale
  have hupper := hholds (low + 1) scale
  simp only
  generalize (Interval.ofParts mantissa exponent).holds low scale = holdsLow at *
  generalize (Interval.ofParts mantissa exponent).holds (low + 1) scale = holdsHigh at *
  cases holdsLow <;> cases holdsHigh
  case false.false =>
    intro digits hdigits
    rcases le_or_gt digits low with hle | hlt
    · exact Bool.false_ne_true (hlower.mpr (roundsTo_low hvalue hle hnonneg hdigits))
    · exact Bool.false_ne_true (hupper.mpr (roundsTo_high hvalue hlt hone hdigits))
  case false.true =>
    exact isNearest_high hvalue hnonneg hone (hupper.mp rfl) fun hlow =>
      (Bool.false_ne_true (hlower.mpr hlow)).elim
  case true.false =>
    exact isNearest_low hvalue hnonneg hone (hlower.mp rfl) fun hhigh =>
      (Bool.false_ne_true (hupper.mpr hhigh)).elim
  case true.true =>
    simp only
    split_ifs with hless hequal
    · exact isNearest_low hvalue hnonneg hone (hlower.mp rfl) fun _ => .inl (hbelow.mp hless)
    · obtain ⟨htied, heven⟩ : 2 * rest = step ∧ low % 2 = 0 := by simpa using hequal
      exact isNearest_low hvalue hnonneg hone (hlower.mp rfl) fun _ =>
        .inr ⟨htie.mp htied, heven⟩
    · refine isNearest_high hvalue hnonneg hone (hupper.mp rfl) fun _ => ?_
      rw [hbelow, not_lt] at hless
      rcases hless.lt_or_eq with hlt | heq
      · exact .inl hlt
      · have htied := htie.mpr heq.symm
        have hodd : low % 2 ≠ 0 := fun heven => hequal (by simp [htied, heven])
        exact .inr ⟨heq.symm, by omega⟩

end

/-! ## The place of the first digit -/

/-- The guess for the place of the first digit is not far off for any power of two in the range of
doubles. -/
theorem guess_near : ∀ power < 1100,
    10 ^ (power * 30103 / 100000) ≤ 100 * 2 ^ power ∧
      2 ^ (power + 1) ≤ 10 ^ (power * 30103 / 100000 + 7) ∧
      2 ^ power ≤ 10 ^ ((power * 30103 + 99999) / 100000 + 2) ∧
      2 * 10 ^ ((power * 30103 + 99999) / 100000) ≤ 10 ^ 7 * 2 ^ power := by
  decide +kernel

theorem guess_bounds (place : ℤ) (hlow : -1100 < place) (hhigh : place < 1100) :
    (10 : ℚ) ^ (Int.fdiv (place * 30103) 100000 - 2) ≤ 2 ^ place ∧
      (2 : ℚ) ^ (place + 1) ≤ 10 ^ (Int.fdiv (place * 30103) 100000 + 7) := by
  rw [Int.fdiv_eq_ediv_of_nonneg _ (by norm_num)]
  rcases Int.le_total 0 place with hsign | hsign
  · obtain ⟨power, rfl⟩ := Int.eq_ofNat_of_zero_le hsign
    obtain ⟨hbelow, habove, -, -⟩ := guess_near power (by omega)
    have hguess : ((power : ℤ) * 30103) / 100000 = ((power * 30103 / 100000 : ℕ) : ℤ) := by
      omega
    rw [hguess]
    generalize power * 30103 / 100000 = guess at *
    constructor
    · rw [zpow_sub₀ (by norm_num), zpow_natCast, zpow_natCast, div_le_iff₀ (by norm_num),
        mul_comm, show (10 : ℚ) ^ (2 : ℤ) = 100 by norm_num]
      exact_mod_cast hbelow
    · exact_mod_cast habove
  · obtain ⟨power, hpower⟩ : ∃ power : ℕ, place = -power := ⟨(-place).toNat, by omega⟩
    subst hpower
    obtain ⟨-, -, hbelow, habove⟩ := guess_near power (by omega)
    have hguess : (-(power : ℤ) * 30103) / 100000 =
        -(((power * 30103 + 99999) / 100000 : ℕ) : ℤ) := by
      omega
    rw [hguess]
    generalize (power * 30103 + 99999) / 100000 = guess at *
    constructor
    · rw [show -(guess : ℤ) - 2 = -((guess + 2 : ℕ) : ℤ) by push_cast; ring, zpow_neg, zpow_neg,
        zpow_natCast, zpow_natCast]
      refine inv_anti₀ (by positivity) ?_
      exact_mod_cast hbelow
    · rw [zpow_add₀ (by norm_num), zpow_add₀ (by norm_num), zpow_neg, zpow_neg, zpow_natCast,
        zpow_natCast, zpow_one, inv_mul_eq_div, inv_mul_eq_div, div_le_div_iff₀ (by positivity)
        (by positivity)]
      have hcast : (2 : ℚ) * 10 ^ guess ≤ 10 ^ 7 * 2 ^ power := by exact_mod_cast habove
      simpa using hcast

section

variable {mantissa : ℕ} {exponent : ℤ}

/-- A double has no digit at a place or above if it is less than the power of ten. -/
theorem floor_eq_zero_iff (mantissa : ℕ) (exponent scale : ℤ) :
    ((Interval.ofParts mantissa exponent).floor scale).1 = 0 ↔
      Double.valueOf mantissa exponent < 10 ^ scale := by
  have hfloor := Interval.floor_ofParts mantissa exponent scale
  generalize (Interval.ofParts mantissa exponent).floor scale = found at *
  obtain ⟨low, rest, step⟩ := found
  obtain ⟨hstep, hrest, hvalue⟩ := hfloor
  have hten := ten_zpow_pos scale
  have hstep' : (0 : ℚ) < step := by exact_mod_cast hstep
  have hone : (rest : ℚ) / step < 1 := by
    rw [div_lt_one hstep']
    exact_mod_cast hrest
  have hnonneg : 0 ≤ (rest : ℚ) / step := by positivity
  rw [hvalue, mul_lt_iff_lt_one_left hten]
  constructor
  · rintro rfl
    simpa using hone
  · intro hlt
    by_contra hne
    have hcast : (1 : ℚ) ≤ low := by exact_mod_cast Nat.one_le_iff_ne_zero.mpr hne
    linarith

/-- The place of the first digit is found from a guess that is neither too large nor too small. -/
theorem place_ofParts {place : ℤ}
    (hleast : (10 : ℚ) ^ (place - 1) ≤ Double.valueOf mantissa exponent)
    (hless : Double.valueOf mantissa exponent < 10 ^ place) (fuel : ℕ) {guess : ℤ}
    (hguess : guess ≤ place) (hfuel : place ≤ guess + fuel) :
    (Interval.ofParts mantissa exponent).place fuel guess = place := by
  induction fuel generalizing guess with
  | zero => exact le_antisymm hguess (by rw [Interval.place]; simpa using hfuel)
  | succ fuel ih =>
      rw [Interval.place]
      by_cases hzero : ((Interval.ofParts mantissa exponent).floor guess).1 = 0
      · rw [if_pos hzero]
        have hlt := hleast.trans_lt ((floor_eq_zero_iff _ _ _).mp hzero)
        have := (zpow_lt_zpow_iff_right₀ (by norm_num)).mp hlt
        omega
      · rw [if_neg hzero]
        have hne : guess ≠ place := by
          rintro rfl
          exact hzero ((floor_eq_zero_iff _ _ _).mpr hless)
        refine ih (by omega) ?_
        push_cast at hfuel
        omega

/-! ## The search for the fewest digits -/

/-- The search ends with the first grid on which a decimal rounds to the double. -/
theorem search_ofParts (hpos : 0 < mantissa) (place : ℤ) {last digits : ℕ}
    (hlast : RoundsTo mantissa exponent (Scaled.value ⟨digits, place - last⟩)) (fuel count : ℕ)
    (hcount : count ≤ last) (hfuel : last < count + fuel) :
    ∃ found : ℕ, ∃ first, count ≤ first ∧
      (Interval.ofParts mantissa exponent).search place fuel count = ⟨found, place - first⟩ ∧
      IsNearest mantissa exponent ⟨found, place - first⟩ ∧
      ∀ other : ℕ, count ≤ other → other < first →
        ∀ digits : ℕ, ¬ RoundsTo mantissa exponent (Scaled.value ⟨digits, place - other⟩) := by
  induction fuel generalizing count with
  | zero => omega
  | succ fuel ih =>
      have hnearest := nearest?_ofParts hpos exponent (place - count)
      rw [Interval.search]
      cases hfound : (Interval.ofParts mantissa exponent).nearest? (place - count) with
      | some found =>
          rw [hfound] at hnearest
          exact ⟨found, count, le_rfl, rfl, hnearest, by omega⟩
      | none =>
          rw [hfound] at hnearest
          have hne : count ≠ last := by
            rintro rfl
            exact hnearest digits hlast
          obtain ⟨found, first, hfirst, hsearch, hbest, hothers⟩ :=
            ih (count + 1) (by omega) (by omega)
          refine ⟨found, first, by omega, hsearch, hbest, fun other hleast hless => ?_⟩
          rcases hleast.lt_or_eq with hlt | rfl
          · exact hothers other hlt hless
          · exact hnearest

/-! ## Decimals that are close together -/

theorem roundsTo_of_lt {number : ℚ} (hlower : lowerEnd mantissa exponent < number)
    (hupper : number < upperEnd mantissa exponent) : RoundsTo mantissa exponent number := by
  unfold RoundsTo
  split
  · exact ⟨hlower.le, hupper.le⟩
  · exact ⟨hlower, hupper⟩

/-- The interval of a double is not longer than the gap to the next one. -/
theorem RoundsTo.abs_sub_le {first second : ℚ} (hfirst : RoundsTo mantissa exponent first)
    (hsecond : RoundsTo mantissa exponent second) : |first - second| ≤ 2 ^ exponent := by
  have hlength : upperEnd mantissa exponent - 2 ^ exponent ≤ lowerEnd mantissa exponent := by
    refine le_trans (le_of_eq ?_) (lowerEnd_ge mantissa exponent)
    rw [upperEnd]
    ring
  rw [abs_le]
  constructor
  · linarith [hfirst.lowerEnd_le, hsecond.le_upperEnd]
  · linarith [hfirst.le_upperEnd, hsecond.lowerEnd_le]

/-- Only one decimal of a grid with wider steps than the gap rounds to the double. -/
theorem RoundsTo.digits_eq {first second : ℕ} {scale : ℤ} (hwide : (2 : ℚ) ^ exponent < 10 ^ scale)
    (hfirst : RoundsTo mantissa exponent (Scaled.value ⟨first, scale⟩))
    (hsecond : RoundsTo mantissa exponent (Scaled.value ⟨second, scale⟩)) : first = second := by
  have hten := ten_zpow_pos scale
  have hclose := (hfirst.abs_sub_le hsecond).trans_lt hwide
  rw [Scaled.value, Scaled.value, ← sub_mul, abs_mul, abs_of_pos hten,
    mul_lt_iff_lt_one_left hten] at hclose
  have hint : |(first : ℤ) - second| < 1 := by exact_mod_cast hclose
  have := Int.abs_lt_one_iff.mp hint
  omega

/-! ## The shortest decimal -/

/-- A decimal that rounds to a double is the shortest one: none does that lacks its last digit, and
of those with as many digits after the point none is nearer. -/
structure IsShortest (mantissa : ℕ) (exponent : ℤ) (decimal : Scaled) : Prop where
  nearest : IsNearest mantissa exponent decimal
  coarser : ∀ digits : ℕ, ¬ RoundsTo mantissa exponent (Scaled.value ⟨digits, decimal.scale + 1⟩)

theorem value_mul_pow (digits power : ℕ) (scale : ℤ) :
    Scaled.value ⟨digits * 10 ^ power, scale⟩ = Scaled.value ⟨digits, scale + power⟩ := by
  simp only [Scaled.value]
  rw [zpow_add₀ (by norm_num), zpow_natCast]
  push_cast
  ring

theorem IsShortest.digits_mod_ne {decimal : Scaled}
    (hshortest : IsShortest mantissa exponent decimal) : decimal.digits % 10 ≠ 0 := by
  intro hzero
  refine hshortest.coarser (decimal.digits / 10) ?_
  have hvalue := value_mul_pow (decimal.digits / 10) 1 decimal.scale
  rw [pow_one, Nat.div_mul_cancel (Nat.dvd_of_mod_eq_zero hzero)] at hvalue
  rw [show decimal.scale + 1 = decimal.scale + ((1 : ℕ) : ℤ) by norm_num, ← hvalue]
  exact hshortest.nearest.rounds

theorem IsShortest.scale_le {first second : Scaled} (hfirst : IsShortest mantissa exponent first)
    (hsecond : IsShortest mantissa exponent second) : second.scale ≤ first.scale := by
  by_contra hlt
  obtain ⟨power, hpower⟩ : ∃ power : ℕ, second.scale = first.scale + 1 + power :=
    ⟨(second.scale - first.scale - 1).toNat, by omega⟩
  refine hfirst.coarser (second.digits * 10 ^ power) ?_
  rw [value_mul_pow, ← hpower]
  exact hsecond.nearest.rounds

/-- Of two nearest decimals on a grid neither is the smaller one. -/
theorem IsNearest.digits_le {first second : ℕ} {scale : ℤ}
    (hfirst : IsNearest mantissa exponent ⟨first, scale⟩)
    (hsecond : IsNearest mantissa exponent ⟨second, scale⟩) : second ≤ first := by
  by_contra hlt
  rw [not_le] at hlt
  have hten := ten_zpow_pos scale
  have heq := le_antisymm (hfirst.nearest second hsecond.rounds)
    (hsecond.nearest first hfirst.rounds)
  -- both are even, so that there is one between them, and it is nearer
  have heven := (hfirst.even second hsecond.rounds heq).resolve_left hlt.ne'
  have heven' := (hsecond.even first hfirst.rounds heq.symm).resolve_left hlt.ne
  simp only at heven heven'
  have hnext : (first : ℚ) + 2 ≤ second := by exact_mod_cast (by omega : first + 2 ≤ second)
  have hmiddle : first * 10 ^ scale - Double.valueOf mantissa exponent =
      -(second * 10 ^ scale - Double.valueOf mantissa exponent) := by
    rcases abs_eq_abs.mp heq with hsame | hopposite
    · have hdigits : (first : ℚ) = second :=
        mul_right_cancel₀ hten.ne' (by simpa [Scaled.value] using hsame)
      linarith
    · exact hopposite
  have hbetween : RoundsTo mantissa exponent (Scaled.value ⟨first + 1, scale⟩) := by
    have hleft : (first : ℚ) * 10 ^ scale ≤ (first + 1) * 10 ^ scale :=
      mul_le_mul_of_nonneg_right (by linarith) hten.le
    have hright : ((first : ℚ) + 1) * 10 ^ scale ≤ second * 10 ^ scale :=
      mul_le_mul_of_nonneg_right (by linarith) hten.le
    have hvalue : Scaled.value ⟨first + 1, scale⟩ = ((first : ℚ) + 1) * 10 ^ scale := by
      simp [Scaled.value]
    rw [hvalue]
    rcases le_total (((first : ℚ) + 1) * 10 ^ scale) (Double.valueOf mantissa exponent) with h | h
    · exact hfirst.rounds.of_between (.inl ⟨hleft, h⟩)
    · exact hsecond.rounds.of_between (.inr ⟨h, hright⟩)
  have hnearer := hfirst.nearest (first + 1) hbetween
  simp only [Scaled.value] at hnearer
  push_cast at hnearer
  have hgap : 2 * 10 ^ scale ≤ ((second : ℚ) - first) * 10 ^ scale :=
    mul_le_mul_of_nonneg_right (by linarith) hten.le
  have hleft : (first : ℚ) * 10 ^ scale - Double.valueOf mantissa exponent < 0 := by nlinarith
  have hcenter : ((first : ℚ) + 1) * 10 ^ scale - Double.valueOf mantissa exponent ≤ 0 := by
    nlinarith
  rw [abs_of_neg hleft, abs_of_nonpos hcenter] at hnearer
  linarith

theorem IsShortest.unique {first second : Scaled} (hfirst : IsShortest mantissa exponent first)
    (hsecond : IsShortest mantissa exponent second) : first = second := by
  obtain ⟨digits, scale⟩ := first
  obtain ⟨digits', scale'⟩ := second
  obtain rfl : scale = scale' := le_antisymm (hsecond.scale_le hfirst) (hfirst.scale_le hsecond)
  obtain rfl : digits = digits' :=
    le_antisymm (hsecond.nearest.digits_le hfirst.nearest)
      (hfirst.nearest.digits_le hsecond.nearest)
  rfl

end

/-- A decimal on a grid with wider steps than the gap is the shortest one if its last digit is
needed. -/
theorem isShortest_of_gap_lt {mantissa : ℕ} {exponent : ℤ} {decimal : Scaled}
    (hwide : (2 : ℚ) ^ exponent < 10 ^ decimal.scale) (hlast : decimal.digits % 10 ≠ 0)
    (hrounds : RoundsTo mantissa exponent decimal.value) :
    IsShortest mantissa exponent decimal := by
  obtain ⟨digits, scale⟩ := decimal
  refine ⟨⟨hrounds, fun other hother => ?_, fun other hother _ => ?_⟩, fun other hother => ?_⟩
  · rw [hother.digits_eq hwide hrounds]
  · exact .inl (hother.digits_eq hwide hrounds)
  · have hvalue := value_mul_pow other 1 scale
    simp only at hother hlast
    rw [show scale + 1 = scale + ((1 : ℕ) : ℤ) by norm_num, ← hvalue] at hother
    have heq := hother.digits_eq hwide hrounds
    omega

theorem Scaled.stripped_of_mod_ne {decimal : Scaled} (hlast : decimal.digits % 10 ≠ 0)
    (fuel : ℕ) : decimal.stripped fuel = decimal := by
  cases fuel with
  | zero => rfl
  | succ fuel => simp [Scaled.stripped, hlast]

/-! ## Doubles with full precision -/

/-- The parts of a double with full precision. -/
structure IsFull (mantissa : ℕ) (exponent : ℤ) : Prop where
  small : mantissa < 2 * fullMantissa
  full : fullMantissa ≤ mantissa
  least : leastExponent ≤ exponent
  greatest : exponent ≤ greatestExponent

section

variable {mantissa : ℕ} {exponent : ℤ} (hfull : IsFull mantissa exponent)

include hfull

theorem IsFull.isNormal : IsNormal mantissa exponent :=
  ⟨hfull.small, hfull.least, .inl hfull.full⟩

theorem IsFull.pos : 0 < mantissa := lt_of_lt_of_le (by norm_num [fullMantissa_eq]) hfull.full

/-- The leading binary digit of a mantissa with full precision is its fifty-third. -/
theorem IsFull.valueOf_bounds :
    (2 : ℚ) ^ ((mantissa.log2 : ℤ) + exponent) ≤ Double.valueOf mantissa exponent ∧
      Double.valueOf mantissa exponent < 2 ^ ((mantissa.log2 : ℤ) + exponent + 1) ∧
      mantissa.log2 = 52 := by
  have hlog : mantissa.log2 = 52 := by
    have hsmall := hfull.small
    have hlarge := hfull.full
    rw [fullMantissa_eq] at hsmall hlarge
    exact (Nat.log2_eq_iff hfull.pos.ne').mpr ⟨by omega, by omega⟩
  have hpos := two_zpow_pos exponent
  have hlarge : (2 : ℚ) ^ (52 : ℤ) ≤ mantissa := by
    have hcast : ((fullMantissa : ℕ) : ℚ) ≤ mantissa := by exact_mod_cast hfull.full
    rw [cast_fullMantissa] at hcast
    exact_mod_cast hcast
  have hsmall : (mantissa : ℚ) < 2 ^ (53 : ℤ) := by
    have hcast : (mantissa : ℚ) < ((2 * fullMantissa : ℕ) : ℚ) := by exact_mod_cast hfull.small
    rw [Nat.cast_mul, cast_fullMantissa] at hcast
    have : (2 : ℚ) ^ (53 : ℤ) = ((2 : ℕ) : ℚ) * 2 ^ 52 := by norm_num
    rwa [this]
  rw [hlog, Double.valueOf]
  refine ⟨?_, ?_, rfl⟩
  · rw [zpow_add₀ (by norm_num)]
    exact mul_le_mul_of_nonneg_right hlarge hpos.le
  · rw [show ((52 : ℕ) : ℤ) + exponent + 1 = 53 + exponent by push_cast; ring,
      zpow_add₀ (by norm_num)]
    exact mul_lt_mul_of_pos_right hsmall hpos

/-- The place of the first digit is found. -/
theorem IsFull.exists_place : ∃ place : ℤ,
    (10 : ℚ) ^ (place - 1) ≤ Double.valueOf mantissa exponent ∧
      Double.valueOf mantissa exponent < 10 ^ place ∧
      (Interval.ofParts mantissa exponent).place 8
        (Int.fdiv ((mantissa.log2 + exponent) * 30103) 100000 - 1) = place := by
  obtain ⟨hlow, hhigh, hlog⟩ := hfull.valueOf_bounds
  have hpos : 0 < Double.valueOf mantissa exponent := (two_zpow_pos _).trans_le hlow
  have hleast := Int.zpow_log_le_self (b := 10) (by norm_num) hpos
  have hless := Int.lt_zpow_succ_log_self (b := 10) (by norm_num) (Double.valueOf mantissa exponent)
  push_cast at hleast hless
  generalize Int.log 10 (Double.valueOf mantissa exponent) = log at *
  have hrange := hfull.least
  have hrange' := hfull.greatest
  rw [leastExponent] at hrange
  rw [greatestExponent] at hrange'
  obtain ⟨hguess, hguess'⟩ :=
    guess_bounds ((mantissa.log2 : ℤ) + exponent) (by omega) (by omega)
  generalize Int.fdiv (((mantissa.log2 : ℤ) + exponent) * 30103) 100000 = guess at *
  have hbelow : guess - 2 < log + 1 :=
    (zpow_lt_zpow_iff_right₀ (by norm_num)).mp ((hguess.trans hlow).trans_lt hless)
  have habove : log < guess + 7 :=
    (zpow_lt_zpow_iff_right₀ (by norm_num)).mp ((hleast.trans_lt hhigh).trans_le hguess')
  refine ⟨log + 1, by simpa using hleast, hless, ?_⟩
  exact place_ofParts (by simpa using hleast) hless 8 (by omega) (by push_cast; omega)

/-- A number is in the interval if its distance from the value is small against the value. -/
theorem IsFull.roundsTo_of_abs_sub_le {step number : ℚ}
    (hstep : step * 10 ^ 16 ≤ Double.valueOf mantissa exponent)
    (hnear : |number - Double.valueOf mantissa exponent| ≤ 1 / 2 * step) :
    RoundsTo mantissa exponent number := by
  have hpos := two_zpow_pos exponent
  have hsmall : (mantissa : ℚ) ≤ 2 ^ 53 := by
    have hcast : (mantissa : ℚ) ≤ ((2 * fullMantissa : ℕ) : ℚ) := by exact_mod_cast hfull.small.le
    rw [Nat.cast_mul, cast_fullMantissa] at hcast
    exact hcast.trans (by norm_num)
  obtain ⟨hbelow, habove⟩ := abs_le.mp hnear
  rw [Double.valueOf] at hstep hbelow habove
  refine roundsTo_of_lt ?_ ?_
  · rw [lowerEnd]
    split_ifs with hnarrow
    · have hcast : (mantissa : ℚ) = 2 ^ 52 := by rw [hnarrow.1, cast_fullMantissa]
      rw [hcast] at hstep hbelow ⊢
      generalize (2 : ℚ) ^ exponent = gap at *
      linarith
    · nlinarith
  · rw [upperEnd]
    nlinarith

/-- With seventeen digits there is a decimal that rounds to the double. -/
theorem IsFull.exists_roundsTo {place : ℤ}
    (hleast : (10 : ℚ) ^ (place - 1) ≤ Double.valueOf mantissa exponent) :
    ∃ digits : ℕ, RoundsTo mantissa exponent (Scaled.value ⟨digits, place - (17 : ℕ)⟩) := by
  have hten := ten_zpow_pos (place - (17 : ℕ))
  have hstep : (10 : ℚ) ^ (place - (17 : ℕ)) * 10 ^ 16 ≤ Double.valueOf mantissa exponent := by
    refine le_trans (le_of_eq ?_) hleast
    rw [← zpow_natCast, ← zpow_add₀ (by norm_num)]
    congr 1
    push_cast
    ring
  have hfloor := Interval.floor_ofParts mantissa exponent (place - (17 : ℕ))
  generalize (Interval.ofParts mantissa exponent).floor (place - (17 : ℕ)) = found at hfloor
  obtain ⟨low, rest, step⟩ := found
  obtain ⟨hstep', hrest, hvalue⟩ := hfloor
  have hstep' : (0 : ℚ) < step := by exact_mod_cast hstep'
  have hnonneg : 0 ≤ (rest : ℚ) / step := by positivity
  have hone : (rest : ℚ) / step < 1 := by
    rw [div_lt_one hstep']
    exact_mod_cast hrest
  rcases le_total ((rest : ℚ) / step) (1 / 2) with hhalf | hhalf
  · refine ⟨low, hfull.roundsTo_of_abs_sub_le hstep ?_⟩
    rw [abs_sub_of_le hvalue le_rfl hnonneg, sub_self, zero_add]
    exact mul_le_mul_of_nonneg_right hhalf hten.le
  · refine ⟨low + 1, hfull.roundsTo_of_abs_sub_le hstep ?_⟩
    rw [abs_sub_of_lt hvalue (Nat.lt_succ_self low) hone]
    refine mul_le_mul_of_nonneg_right ?_ hten.le
    push_cast
    linarith

/-- The gap to the next double is less than a unit of the first decimal digit. -/
theorem IsFull.gap_lt {place : ℤ} (hless : Double.valueOf mantissa exponent < 10 ^ place) :
    (2 : ℚ) ^ exponent < 10 ^ (place - 1) := by
  have hpos := two_zpow_pos exponent
  have hlarge : (2 : ℚ) ^ 52 * 2 ^ exponent ≤ Double.valueOf mantissa exponent := by
    have hcast : ((fullMantissa : ℕ) : ℚ) ≤ mantissa := by exact_mod_cast hfull.full
    rw [cast_fullMantissa] at hcast
    exact mul_le_mul_of_nonneg_right hcast hpos.le
  have hten : (10 : ℚ) ^ place = 10 * 10 ^ (place - 1) := by
    rw [← zpow_one_add₀ (by norm_num)]
    congr 1
    ring
  linarith

/-- A coarser decimal than one digit is the power of ten above the value. -/
theorem IsFull.eq_one_of_roundsTo {place : ℤ}
    (hleast : (10 : ℚ) ^ (place - 1) ≤ Double.valueOf mantissa exponent)
    (hless : Double.valueOf mantissa exponent < 10 ^ place) {coarse : ℕ}
    (hcoarse : RoundsTo mantissa exponent (Scaled.value ⟨coarse, place⟩)) : coarse = 1 := by
  have hgap := hfull.gap_lt hless
  have hwide : (2 : ℚ) ^ exponent < 10 ^ place :=
    hgap.trans (zpow_lt_zpow_right₀ (by norm_num) (by omega))
  obtain ⟨hlower, hupper⟩ := valueOf_mem mantissa exponent
  obtain ⟨hbelow, habove⟩ := abs_le.mp (hcoarse.abs_sub_le (roundsTo_of_lt hlower hupper))
  simp only [Scaled.value] at hbelow habove
  generalize (10 : ℚ) ^ place = ten at *
  rcases coarse with _ | _ | coarse
  · push_cast at hbelow
    linarith
  · rfl
  · have hten : 0 ≤ (coarse : ℚ) * ten := mul_nonneg (by positivity) (by linarith)
    push_cast at habove
    linarith

/-- If a coarser decimal than the one digit that is found rounds to the double, taking away the
zeros finds it. -/
theorem IsFull.isShortest_stripped_of_coarser {place : ℤ}
    (hleast : (10 : ℚ) ^ (place - 1) ≤ Double.valueOf mantissa exponent)
    (hless : Double.valueOf mantissa exponent < 10 ^ place) {found coarse : ℕ}
    (hfound : RoundsTo mantissa exponent (Scaled.value ⟨found, place - 1⟩))
    (hcoarse : RoundsTo mantissa exponent (Scaled.value ⟨coarse, place⟩)) :
    IsShortest mantissa exponent (Scaled.stripped ⟨found, place - 1⟩ 20) := by
  have hgap := hfull.gap_lt hless
  have hwide : (2 : ℚ) ^ exponent < 10 ^ place :=
    hgap.trans (zpow_lt_zpow_right₀ (by norm_num) (by omega))
  obtain rfl := hfull.eq_one_of_roundsTo hleast hless hcoarse
  have hten : Scaled.value ⟨1, place⟩ = Scaled.value ⟨1 * 10 ^ 1, place - 1⟩ := by
    rw [value_mul_pow, Nat.cast_one, sub_add_cancel]
  obtain rfl : found = 1 * 10 ^ 1 := hfound.digits_eq hgap (hten ▸ hcoarse)
  have hstripped : Scaled.stripped ⟨1 * 10 ^ 1, place - 1⟩ 20 = ⟨1, place⟩ := by
    rw [Scaled.stripped, if_pos (by norm_num), Scaled.stripped_of_mod_ne (by norm_num)]
    norm_num
  rw [hstripped]
  exact isShortest_of_gap_lt hwide (by norm_num) hcoarse

/-- The decimal that is found for a double is the shortest one. -/
theorem IsFull.isShortest_shortest : IsShortest mantissa exponent (shortest mantissa exponent) := by
  obtain ⟨place, hleast, hless, hplace⟩ := hfull.exists_place
  obtain ⟨digits, hdigits⟩ := hfull.exists_roundsTo hleast
  obtain ⟨found, first, hfirst, hsearch, hnearest, hothers⟩ :=
    search_ofParts hfull.pos place hdigits 17 1 (by norm_num) (by norm_num)
  have hshortest : shortest mantissa exponent = Scaled.stripped ⟨found, place - first⟩ 20 := by
    simp only [shortest]
    rw [hplace, hsearch]
  rw [hshortest]
  by_cases hcoarser : ∃ digits : ℕ,
      RoundsTo mantissa exponent (Scaled.value ⟨digits, place - first + 1⟩)
  · -- the search would have found it earlier unless it began here
    obtain ⟨coarse, hcoarse⟩ := hcoarser
    obtain rfl : first = 1 := by
      by_contra hne
      refine hothers (first - 1) (by omega) (by omega) coarse ?_
      rwa [show place - ((first - 1 : ℕ) : ℤ) = place - first + 1 by omega]
    rw [Nat.cast_one] at hnearest hcoarse ⊢
    rw [sub_add_cancel] at hcoarse
    exact hfull.isShortest_stripped_of_coarser hleast hless hnearest.rounds hcoarse
  · have hfound : IsShortest mantissa exponent ⟨found, place - first⟩ :=
      ⟨hnearest, not_exists.mp hcoarser⟩
    rw [Scaled.stripped_of_mod_ne hfound.digits_mod_ne]
    exact hfound

/-- A decimal is found for a double if it is the shortest one. -/
theorem IsFull.shortest_eq_iff {decimal : Scaled} :
    shortest mantissa exponent = decimal ↔ IsShortest mantissa exponent decimal := by
  constructor
  · rintro rfl
    exact hfull.isShortest_shortest
  · exact hfull.isShortest_shortest.unique

end

/-! ## Decimals and the doubles that they are read as -/

section

variable {mantissa : ℕ} {exponent : ℤ} {number : ℚ}

/-- What is not very small rounds to a double with full precision. -/
theorem IsNormal.isFull (hnormal : IsNormal mantissa exponent)
    (hexponent : exponent ≤ greatestExponent) (hrounds : RoundsTo mantissa exponent number)
    (hnumber : (10 : ℚ) ^ (-5 : ℤ) ≤ number) : IsFull mantissa exponent := by
  refine ⟨hnormal.small, ?_, hnormal.least, hexponent⟩
  by_contra hsmall
  obtain rfl := hnormal.full.resolve_left hsmall
  have hcast : (mantissa : ℚ) + 1 ≤ 2 ^ (52 : ℤ) := by
    have hnat : ((mantissa + 1 : ℕ) : ℚ) ≤ ((fullMantissa : ℕ) : ℚ) := by
      exact_mod_cast (by omega : mantissa + 1 ≤ fullMantissa)
    rw [cast_fullMantissa] at hnat
    push_cast at hnat
    exact hnat.trans (by norm_num)
  have htiny : (2 : ℚ) ^ (52 : ℤ) * 2 ^ leastExponent < 10 ^ (-5 : ℤ) := by
    rw [leastExponent, ← zpow_add₀ (by norm_num)]
    calc (2 : ℚ) ^ ((52 : ℤ) + -1074) < 2 ^ (-20 : ℤ) :=
          zpow_lt_zpow_right₀ (by norm_num) (by norm_num)
      _ < 10 ^ (-5 : ℤ) := by norm_num
  have hupper : number ≤ 2 ^ (52 : ℤ) * 2 ^ leastExponent := by
    refine hrounds.le_upperEnd.trans ?_
    exact mul_le_mul_of_nonneg_right (by linarith) (two_zpow_pos _).le
  linarith

/-- A decimal with at most fifteen digits is the shortest one of its double. -/
theorem IsFull.isShortest_of_lt (hfull : IsFull mantissa exponent) {decimal : Scaled}
    (hlast : decimal.digits % 10 ≠ 0) (hdigits : decimal.digits < 10 ^ 15)
    (hrounds : RoundsTo mantissa exponent decimal.value) :
    IsShortest mantissa exponent decimal := by
  refine isShortest_of_gap_lt ?_ hlast hrounds
  have hten := ten_zpow_pos decimal.scale
  have hpos := two_zpow_pos exponent
  have hlower := (lowerEnd_ge mantissa exponent).trans hrounds.lowerEnd_le
  have hmantissa : (2 : ℚ) ^ 52 ≤ mantissa := by
    have hcast : ((fullMantissa : ℕ) : ℚ) ≤ mantissa := by exact_mod_cast hfull.full
    rwa [cast_fullMantissa] at hcast
  have hsmall : decimal.value ≤ 10 ^ 15 * 10 ^ decimal.scale := by
    have hcast : (decimal.digits : ℚ) ≤ 10 ^ 15 := by exact_mod_cast hdigits.le
    exact mul_le_mul_of_nonneg_right hcast hten.le
  have hlarge : (2 ^ 52 - 1 / 2 : ℚ) * 2 ^ exponent ≤ 10 ^ 15 * 10 ^ decimal.scale :=
    (mul_le_mul_of_nonneg_right (by linarith) hpos.le).trans (hlower.trans hsmall)
  generalize (2 : ℚ) ^ exponent = gap at *
  generalize (10 : ℚ) ^ decimal.scale = step at *
  linarith

end

/-- The double that a decimal is read as. -/
def Scaled.double (decimal : Scaled) : Double :=
  Double.ofDecimal false decimal.digits decimal.scale

/-- The value of a double; what is not finite has none, and zero stands for it. -/
def Double.value : Double → ℚ
  | .finite negative mantissa exponent =>
    (if negative then -1 else 1) * Double.valueOf mantissa exponent
  | _ => 0

/-- A decimal is the shortest one that is read as its double: none is that lacks its last digit, and
of those with as many digits after the point none is nearer to the double, nor as near and even. -/
structure Scaled.IsShortest (decimal : Scaled) : Prop where
  coarser : ∀ digits : ℕ, Scaled.double ⟨digits, decimal.scale + 1⟩ ≠ decimal.double
  nearest : ∀ digits : ℕ, Scaled.double ⟨digits, decimal.scale⟩ = decimal.double →
    |decimal.value - decimal.double.value| ≤
      |Scaled.value ⟨digits, decimal.scale⟩ - decimal.double.value|
  even : ∀ digits : ℕ, Scaled.double ⟨digits, decimal.scale⟩ = decimal.double →
    |decimal.value - decimal.double.value| =
      |Scaled.value ⟨digits, decimal.scale⟩ - decimal.double.value| →
    digits = decimal.digits ∨ decimal.digits % 2 = 0

theorem IsFull.isShortest_iff {mantissa : ℕ} {exponent : ℤ} (hfull : IsFull mantissa exponent)
    {decimal : Scaled} (hdouble : decimal.double = .finite false mantissa exponent) :
    decimal.IsShortest ↔ Decimal.IsShortest mantissa exponent decimal := by
  have hread (digits : ℕ) (scale : ℤ) : Scaled.double ⟨digits, scale⟩ = decimal.double ↔
      RoundsTo mantissa exponent (Scaled.value ⟨digits, scale⟩) := by
    rw [hdouble]
    exact ofDecimal_eq_finite_iff hfull.isNormal hfull.greatest
  have hvalue : decimal.double.value = Double.valueOf mantissa exponent := by
    rw [hdouble]
    exact one_mul _
  have hrounds := (hread decimal.digits decimal.scale).mp rfl
  constructor
  · rintro ⟨hcoarser, hnearest, heven⟩
    simp only [hread, hvalue, ne_eq] at hcoarser hnearest heven
    exact ⟨⟨hrounds, hnearest, heven⟩, hcoarser⟩
  · rintro ⟨⟨-, hnearest, heven⟩, hcoarser⟩
    refine ⟨?_, ?_, ?_⟩ <;> simpa only [hread, hvalue, ne_eq]

end Compliance.Decimal
