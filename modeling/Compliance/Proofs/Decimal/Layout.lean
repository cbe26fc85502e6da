import Compliance.Proofs.Decimal.Shortest
import Compliance.Text.Pieces

/-!
# The layout of decimals

A decimal is written with a point among digits unless it is very large or very small.  Digits with
a point among them have a value, and the decimal that is written like this has the same
(`value_of_layout_eq`).  They are the layout of a decimal without a zero at its end exactly if they
are positional: no zero stands in front of other digits before the point or behind other digits
after it, and the first digit is not far from the point (`isPositional_of_layout_eq`,
`layout_eq_of_isPositional`).

## Strategy

A layout has one of four forms (`layout_cases`), and digits are cut at the point in one way only
(`cut_at_point`), so the digits on either side are compared form by form.
-/

namespace Compliance.Decimal

open List

/-! ## The forms of a decimal -/

/-- A decimal is written in one of four forms: with zeros behind its digits, with the point among
them, with zeros before them, or in scientific form. -/
theorem layout_cases (decimal : Scaled) {digits : List Char}
    (hdigits : digitsOf decimal.digits = digits) {point : ℤ}
    (hpoint : decimal.scale + digits.length = point) :
    (0 ≤ decimal.scale ∧ point ≤ 16 ∧
        decimal.layout = (digits ++ replicate decimal.scale.toNat '0') ++ '.' :: ['0']) ∨
      (decimal.scale < 0 ∧ 0 < point ∧ point ≤ 16 ∧
        decimal.layout = digits.take point.toNat ++ '.' :: digits.drop point.toNat) ∨
      (-5 < point ∧ point ≤ 0 ∧
        decimal.layout = ['0'] ++ '.' :: (replicate (-point).toNat '0' ++ digits)) ∨
      ((16 < point ∨ point ≤ -5) ∧ ∃ first others, digits = first :: others ∧
        decimal.layout = (if others = [] then [first] else first :: '.' :: others) ++
          'e' :: integerText (point - 1)) := by
  obtain ⟨text, hlayout⟩ : ∃ text, decimal.layout = text := ⟨_, rfl⟩
  rw [hlayout]
  simp only [Scaled.layout, hdigits, hpoint] at hlayout
  split_ifs at hlayout with hlarge hmiddle hsmall
  all_goals simp only [Bool.and_eq_true, decide_eq_true_eq] at *
  · exact .inl ⟨hlarge.1, hlarge.2, hlayout.symm⟩
  · exact .inr (.inl ⟨by omega, hmiddle.1, hmiddle.2, hlayout.symm⟩)
  · exact .inr (.inr (.inl ⟨hsmall.1, hsmall.2, by simpa using hlayout.symm⟩))
  · refine .inr (.inr (.inr ⟨by omega, ?_⟩))
    have hne : digits ≠ [] := hdigits ▸ digitsOf_ne_nil decimal.digits
    obtain ⟨first, others, rfl⟩ := exists_cons_of_ne_nil hne
    refine ⟨first, others, rfl, hlayout.symm.trans ?_⟩
    cases others <;> rfl

/-! ## Characters -/

theorem isDigit_or_eq_of_mem_integerText {number : ℤ} {c : Char} (hc : c ∈ integerText number) :
    c.isDigit = true ∨ c = '-' := by
  unfold integerText at hc
  split at hc
  · exact (mem_cons.mp hc).symm.imp_left isDigit_of_mem_digitsOf
  · exact .inl (isDigit_of_mem_digitsOf hc)

theorem isDigit_of_mem_zeros {count : ℕ} {c : Char} (hc : c ∈ replicate count '0') :
    c.isDigit = true := by
  rw [eq_of_mem_replicate hc]
  decide

/-- A decimal is written with digits, a point and in scientific form an `e` and a hyphen. -/
theorem isDigit_or_mem_of_mem_layout {decimal : Scaled} {c : Char} (hc : c ∈ decimal.layout) :
    c.isDigit = true ∨ c ∈ ['.', 'e', '-'] := by
  have hdigits : ∀ d ∈ digitsOf decimal.digits, d.isDigit = true := fun d hd =>
    isDigit_of_mem_digitsOf hd
  obtain ⟨-, -, hlayout⟩ | ⟨-, -, -, hlayout⟩ | ⟨-, -, hlayout⟩ |
    ⟨-, first, others, hcons, hlayout⟩ := layout_cases decimal rfl rfl
  all_goals rw [hlayout] at hc
  · simp only [mem_append, mem_cons, not_mem_nil, or_false] at hc
    rcases hc with (hc | hc) | rfl | rfl
    · exact .inl (hdigits c hc)
    · exact .inl (isDigit_of_mem_zeros hc)
    · simp
    · decide
  · simp only [mem_append, mem_cons] at hc
    rcases hc with hc | rfl | hc
    · exact .inl (hdigits c (mem_of_mem_take hc))
    · simp
    · exact .inl (hdigits c (mem_of_mem_drop hc))
  · simp only [mem_append, mem_cons, not_mem_nil, or_false] at hc
    rcases hc with rfl | rfl | hc | hc
    · decide
    · simp
    · exact .inl (isDigit_of_mem_zeros hc)
    · exact .inl (hdigits c hc)
  · rw [mem_append, mem_cons] at hc
    rw [hcons] at hdigits
    rcases hc with hc | rfl | hc
    · split at hc
      · exact .inl (hdigits c (by simp_all))
      · simp only [mem_cons] at hc
        rcases hc with rfl | rfl | hc
        · exact .inl (hdigits _ mem_cons_self)
        · simp
        · exact .inl (hdigits c (mem_cons_of_mem _ hc))
    · simp
    · rcases isDigit_or_eq_of_mem_integerText hc with h | rfl
      · exact .inl h
      · simp

theorem layout_ne_nil (decimal : Scaled) : decimal.layout ≠ [] := by
  obtain ⟨-, -, hlayout⟩ | ⟨-, -, -, hlayout⟩ | ⟨-, -, hlayout⟩ | ⟨-, first, others, -, hlayout⟩ :=
    layout_cases decimal rfl rfl
  all_goals simp [hlayout]

/-! ## Zeros at the end -/

theorem value_stripped (decimal : Scaled) (fuel : ℕ) :
    (decimal.stripped fuel).value = decimal.value := by
  induction fuel generalizing decimal with
  | zero => rfl
  | succ fuel ih =>
      rw [Scaled.stripped]
      split
      · rename_i hzero
        obtain ⟨-, hzero⟩ : decimal.digits ≠ 0 ∧ decimal.digits % 10 = 0 := by simpa using hzero
        have hvalue := value_mul_pow (decimal.digits / 10) 1 decimal.scale
        rw [pow_one, Nat.div_mul_cancel (Nat.dvd_of_mod_eq_zero hzero)] at hvalue
        rw [ih]
        exact hvalue.symm
      · rfl

/-- All zeros are taken away if there is fuel for each digit. -/
theorem stripped_mod_ne {decimal : Scaled} (hpos : decimal.digits ≠ 0) {fuel : ℕ}
    (hfuel : decimal.digits < 10 ^ fuel) : (decimal.stripped fuel).digits % 10 ≠ 0 := by
  induction fuel generalizing decimal with
  | zero => omega
  | succ fuel ih =>
      rw [Scaled.stripped]
      split
      · rename_i hzero
        obtain ⟨-, hzero⟩ : decimal.digits ≠ 0 ∧ decimal.digits % 10 = 0 := by simpa using hzero
        rw [pow_succ] at hfuel
        refine ih ?_ ?_
        · simp only
          omega
        · simp only
          omega
      · rename_i hlast
        simpa [hpos] using hlast

/-! ## Decimals with equal values -/

theorem digits_eq_of_value_eq {first second : ℕ} {scale : ℤ}
    (hvalue : Scaled.value ⟨first, scale⟩ = Scaled.value ⟨second, scale⟩) : first = second := by
  have hcast := mul_right_cancel₀ (ten_zpow_pos scale).ne' hvalue
  exact_mod_cast hcast

/-- A decimal whose last digit is needed has the greatest scale among those of its value. -/
theorem exists_eq_mul_pow {first second : Scaled} (hfirst : first.digits % 10 ≠ 0)
    (hvalue : first.value = second.value) :
    ∃ power : ℕ, first.scale = second.scale + power ∧
      second.digits = first.digits * 10 ^ power := by
  obtain ⟨digits, scale⟩ := first
  obtain ⟨digits', scale'⟩ := second
  rcases le_or_gt scale' scale with hle | hlt
  · obtain ⟨power, rfl⟩ : ∃ power : ℕ, scale = scale' + power := ⟨(scale - scale').toNat, by omega⟩
    rw [← value_mul_pow] at hvalue
    exact ⟨power, rfl, (digits_eq_of_value_eq hvalue).symm⟩
  · obtain ⟨power, rfl⟩ : ∃ power : ℕ, scale' = scale + (power + 1 : ℕ) :=
      ⟨(scale' - scale - 1).toNat, by omega⟩
    rw [← value_mul_pow] at hvalue
    have hdigits := digits_eq_of_value_eq hvalue
    simp only at hfirst
    rw [hdigits, pow_succ, ← mul_assoc, Nat.mul_mod_left] at hfirst
    exact (hfirst rfl).elim

theorem eq_of_value_eq {first second : Scaled} (hfirst : first.digits % 10 ≠ 0)
    (hsecond : second.digits % 10 ≠ 0) (hvalue : first.value = second.value) : first = second := by
  obtain ⟨power, hscale, hdigits⟩ := exists_eq_mul_pow hfirst hvalue
  obtain ⟨power', hscale', -⟩ := exists_eq_mul_pow hsecond hvalue.symm
  obtain rfl : power = 0 := by omega
  obtain ⟨digits, scale⟩ := first
  obtain ⟨digits', scale'⟩ := second
  simp_all

/-! ## Positional decimals -/

/-- A decimal is positional: it has no zeros that are not needed, and it is neither too large nor
too small to be written with its digits in their places. -/
structure IsPositional (whole part : List Char) : Prop where
  leading : whole = ['0'] ∨ whole.head? ≠ some '0'
  trailing : part = ['0'] ∨ part.getLast? ≠ some '0'
  large : whole.length ≤ 16
  small : whole = ['0'] → part = ['0'] ∨ ¬ replicate 5 '0' <+: part

/-- The last digit of a number is its remainder. -/
theorem getLast?_digitsOf (number : ℕ) :
    (digitsOf number).getLast? = some (Nat.digitChar (number % 10)) := by
  rcases Nat.lt_or_ge number 10 with hsmall | hlarge
  · rw [digitsOf, Nat.toDigits_of_lt_base hsmall, Nat.mod_eq_of_lt hsmall]
    rfl
  · rw [digitsOf, Nat.toDigits_of_base_le (by decide) hlarge, getLast?_concat]

theorem getLast?_digitsOf_ne {number : ℕ} (hlast : number % 10 ≠ 0) :
    (digitsOf number).getLast? ≠ some '0' := by
  have hdigits : ∀ digit < 10, digit ≠ 0 → Nat.digitChar digit ≠ '0' := by decide
  rw [getLast?_digitsOf]
  simpa using hdigits _ (Nat.mod_lt _ (by norm_num)) hlast

theorem head?_digitsOf_ne {number : ℕ} (hpos : number ≠ 0) :
    (digitsOf number).head? ≠ some '0' := fun hhead => hpos (eq_zero_of_head?_digitsOf hhead)

section

variable {digits : List Char} (hne : digits ≠ []) (hhead : digits.head? ≠ some '0')

include hne hhead

theorem isPositional_zeros_behind {zeros : ℕ} (hlarge : digits.length + zeros ≤ 16) :
    IsPositional (digits ++ replicate zeros '0') ['0'] where
  leading := .inr (by rwa [head?_append, Option.or_of_isSome (isSome_head?.mpr hne)])
  trailing := .inl rfl
  large := by simpa using hlarge
  small _ := .inl rfl

omit hne in
theorem isPositional_point_among (hlast : digits.getLast? ≠ some '0') {point : ℕ}
    (hpos : 0 < point) (hless : point < digits.length) (hlarge : point ≤ 16) :
    IsPositional (digits.take point) (digits.drop point) where
  leading := .inr (by rwa [head?_take, if_neg hpos.ne'])
  trailing := .inr (by rwa [getLast?_drop, if_neg (by omega)])
  large := by
    rw [length_take]
    omega
  small hzero := by
    have hzero' := congrArg head? hzero
    rw [head?_take, if_neg hpos.ne'] at hzero'
    exact (hhead hzero').elim

theorem isPositional_zeros_before (hlast : digits.getLast? ≠ some '0') {zeros : ℕ}
    (hsmall : zeros ≤ 4) : IsPositional ['0'] (replicate zeros '0' ++ digits) where
  leading := .inl rfl
  trailing := .inr (by rwa [getLast?_append_of_ne_nil _ hne])
  large := by decide
  small _ := by
    refine .inr fun ⟨rest, hrest⟩ => ?_
    rw [show 5 = zeros + (5 - zeros) by omega, ← replicate_append_replicate, append_assoc] at hrest
    have hdigits := append_cancel_left hrest
    rw [← hdigits, show 5 - zeros = 4 - zeros + 1 by omega, replicate_succ] at hhead
    exact hhead rfl

end

section

variable {decimal : Scaled} {whole part : List Char}

theorem point_not_mem {digits : List Char} (hdigits : ∀ c ∈ digits, c.isDigit = true) :
    '.' ∉ digits := by
  intro hmem
  exact absurd (hdigits _ hmem) (by decide)

/-- Digits are cut at the point in one way only. -/
theorem cut_at_point {whole' part' : List Char} (hwhole : ∀ c ∈ whole, c.isDigit = true)
    (hwhole' : ∀ c ∈ whole', c.isDigit = true)
    (htext : whole' ++ '.' :: part' = whole ++ '.' :: part) : whole' = whole ∧ part' = part := by
  have hcut := Text.cut?_append_cons (point_not_mem hwhole) part
  rw [← htext, Text.cut?_append_cons (point_not_mem hwhole')] at hcut
  exact Prod.mk.inj (Option.some.inj hcut)

/-- A decimal that is written with a point among digits has their value, and its first digit is not
far from the point. -/
theorem value_of_layout_eq (hdigits : ∀ c ∈ whole ++ part, c.isDigit = true)
    (hlayout : decimal.layout = whole ++ '.' :: part) :
    decimal.value = Scaled.value ⟨Nat.ofDigitChars 10 (whole ++ part) 0, -part.length⟩ ∧
      -5 < decimal.scale + (digitsOf decimal.digits).length ∧
      decimal.scale + (digitsOf decimal.digits).length ≤ 16 := by
  obtain ⟨digits, scale⟩ := decimal
  have hlength := length_pos_of_ne_nil (digitsOf_ne_nil digits)
  have hnumber : Nat.ofDigitChars 10 (digitsOf digits) 0 = digits := Nat.ofDigitChars_ten_toDigits
  have hown : ∀ c ∈ digitsOf digits, c.isDigit = true := fun c hc => isDigit_of_mem_digitsOf hc
  have hwhole : ∀ c ∈ whole, c.isDigit = true := fun c hc => hdigits c (mem_append_left _ hc)
  obtain ⟨hscale, hpoint, hform⟩ | ⟨hscale, hpoint, hpoint', hform⟩ | ⟨hpoint, hpoint', hform⟩ |
    ⟨-, first, others, -, hform⟩ := layout_cases ⟨digits, scale⟩ rfl rfl
  all_goals simp only at *
  all_goals rw [hlayout] at hform
  · obtain ⟨zeros, rfl⟩ := Int.eq_ofNat_of_zero_le hscale
    rw [Int.toNat_natCast] at hform
    obtain ⟨rfl, rfl⟩ := cut_at_point (fun c hc => (mem_append.mp hc).elim (hown c)
      isDigit_of_mem_zeros) hwhole hform
    refine ⟨?_, by omega, hpoint⟩
    rw [append_assoc, ← replicate_succ', Nat.ofDigitChars_append, hnumber,
      Nat.ofDigitChars_replicate_zero, Nat.mul_comm, value_mul_pow, length_singleton]
    congr 2
    push_cast
    ring
  · obtain ⟨rfl, rfl⟩ := cut_at_point (fun c hc => hown c (mem_of_mem_take hc)) hwhole hform
    refine ⟨?_, by omega, hpoint'⟩
    rw [take_append_drop, hnumber, length_drop]
    congr 2
    omega
  · obtain ⟨rfl, rfl⟩ := cut_at_point (by simp) hwhole hform
    refine ⟨?_, hpoint, by omega⟩
    rw [Nat.ofDigitChars_append, show Nat.ofDigitChars 10 ['0'] 0 = 0 from rfl,
      Nat.ofDigitChars_append, Nat.ofDigitChars_replicate_zero, Nat.mul_zero, hnumber,
      length_append, length_replicate]
    congr 2
    push_cast
    omega
  · -- there is no letter among the digits
    have hletter : 'e' ∈ whole ++ '.' :: part := by
      rw [hform]
      simp
    have hdigit : 'e' ∈ whole ++ part := by
      simpa using hletter
    exact absurd (hdigits _ hdigit) (by decide)

/-- A decimal without a zero at its end is positional if it is written with a point among digits. -/
theorem isPositional_of_layout_eq (hlast : decimal.digits % 10 ≠ 0)
    (hdigits : ∀ c ∈ whole ++ part, c.isDigit = true)
    (hlayout : decimal.layout = whole ++ '.' :: part) : IsPositional whole part := by
  obtain ⟨digits, scale⟩ := decimal
  obtain ⟨-, hleast, hmost⟩ := value_of_layout_eq hdigits hlayout
  have hfirst := head?_digitsOf_ne fun hzero : digits = 0 => hlast (by simp [hzero])
  have hend := getLast?_digitsOf_ne hlast
  have hne := digitsOf_ne_nil digits
  have hown : ∀ c ∈ digitsOf digits, c.isDigit = true := fun c hc => isDigit_of_mem_digitsOf hc
  have hwhole : ∀ c ∈ whole, c.isDigit = true := fun c hc => hdigits c (mem_append_left _ hc)
  obtain ⟨hscale, -, hform⟩ | ⟨hscale, hpoint, -, hform⟩ | ⟨-, -, hform⟩ | ⟨hcase, -⟩ :=
    layout_cases ⟨digits, scale⟩ rfl rfl
  all_goals simp only at *
  · obtain ⟨zeros, rfl⟩ := Int.eq_ofNat_of_zero_le hscale
    rw [hlayout, Int.toNat_natCast] at hform
    obtain ⟨rfl, rfl⟩ := cut_at_point (fun c hc => (mem_append.mp hc).elim (hown c)
      isDigit_of_mem_zeros) hwhole hform
    exact isPositional_zeros_behind hne hfirst (by omega)
  · rw [hlayout] at hform
    obtain ⟨rfl, rfl⟩ := cut_at_point (fun c hc => hown c (mem_of_mem_take hc)) hwhole hform
    exact isPositional_point_among hfirst hend (by omega) (by omega) (by omega)
  · rw [hlayout] at hform
    obtain ⟨rfl, rfl⟩ := cut_at_point (by simp) hwhole hform
    exact isPositional_zeros_before hne hfirst hend (by omega)
  · omega

end

theorem digitsOf_mul_pow {number : ℕ} (hpos : number ≠ 0) (power : ℕ) :
    digitsOf (number * 10 ^ power) = digitsOf number ++ replicate power '0' := by
  have hhead : (digitsOf number ++ replicate power '0').head? ≠ some '0' := by
    rw [head?_append, Option.or_of_isSome (isSome_head?.mpr (digitsOf_ne_nil number))]
    exact head?_digitsOf_ne hpos
  have hdigits : ∀ c ∈ digitsOf number ++ replicate power '0', c.isDigit = true := fun c hc =>
    (mem_append.mp hc).elim isDigit_of_mem_digitsOf isDigit_of_mem_zeros
  have hnumber := digitsOf_ofDigitChars (append_ne_nil_of_left_ne_nil (digitsOf_ne_nil number) _)
    hdigits hhead
  have hown : Nat.ofDigitChars 10 (digitsOf number) 0 = number := Nat.ofDigitChars_ten_toDigits
  rwa [Nat.ofDigitChars_append, hown, Nat.ofDigitChars_replicate_zero, Nat.mul_comm] at hnumber

/-- Digits with another one than a zero at their end are those of no multiple of ten. -/
theorem ofDigitChars_mod_ten_ne {digits : List Char} (hne : digits ≠ [])
    (hdigits : ∀ c ∈ digits, c.isDigit = true) (hlast : digits.getLast? ≠ some '0') :
    Nat.ofDigitChars 10 digits 0 % 10 ≠ 0 := by
  obtain ⟨front, c, rfl⟩ : ∃ front c, digits = front ++ [c] :=
    ⟨_, _, (dropLast_append_getLast hne).symm⟩
  obtain ⟨hleast, hmost⟩ := toNat_of_isDigit (hdigits c (by simp))
  have hcode : c.toNat ≠ '0'.toNat := fun heq =>
    hlast (by rw [getLast?_concat, Char.toNat_inj.mp heq])
  rw [Nat.ofDigitChars_append, Nat.ofDigitChars_cons, Nat.ofDigitChars_nil]
  simp only [Char.reduceToNat] at hcode ⊢
  omega

/-- Zeros at the start of digits can be counted. -/
theorem exists_eq_zeros_append (digits : List Char) :
    ∃ zeros rest, digits = replicate zeros '0' ++ rest ∧ rest.head? ≠ some '0' := by
  induction digits with
  | nil => exact ⟨0, [], rfl, by simp⟩
  | cons digit digits ih =>
      by_cases hdigit : digit = '0'
      · obtain ⟨zeros, rest, rfl, hrest⟩ := ih
        exact ⟨zeros + 1, rest, by rw [hdigit, replicate_succ, cons_append], hrest⟩
      · exact ⟨0, digit :: digits, rfl, by simpa using hdigit⟩

section

variable {decimal : Scaled} {whole part : List Char}

/-- A whole number is written with a zero after the point. -/
theorem layout_eq_of_whole_number (hlast : decimal.digits % 10 ≠ 0) (hne : whole ≠ [])
    (hdigits : ∀ c ∈ whole, c.isDigit = true)
    (hleading : whole = ['0'] ∨ whole.head? ≠ some '0') (hlarge : whole.length ≤ 16)
    (hvalue : decimal.value = Scaled.value ⟨Nat.ofDigitChars 10 whole 0, 0⟩) :
    decimal.layout = whole ++ '.' :: ['0'] := by
  have hpos : decimal.digits ≠ 0 := fun hzero => hlast (by simp [hzero])
  obtain ⟨zeros, hscale, hnumber⟩ := exists_eq_mul_pow hlast hvalue
  simp only [zero_add] at hscale hnumber
  have hhead : whole.head? ≠ some '0' := by
    refine hleading.resolve_left fun hzero => ?_
    rw [hzero] at hnumber
    exact (Nat.mul_pos (Nat.pos_of_ne_zero hpos) (Nat.pow_pos (by norm_num))).ne hnumber
  have hown : whole = digitsOf decimal.digits ++ replicate zeros '0' := by
    rw [← digitsOf_mul_pow hpos, ← hnumber, digitsOf_ofDigitChars hne hdigits hhead]
  have hcount := congrArg length hown
  rw [length_append, length_replicate] at hcount
  have hlength := length_pos_of_ne_nil hne
  obtain ⟨-, -, hlayout⟩ | ⟨hcase, -⟩ | ⟨-, hcase, -⟩ | ⟨hcase, -⟩ := layout_cases decimal rfl rfl
  · rw [hlayout, hscale, Int.toNat_natCast, ← hown]
  · omega
  · omega
  · omega

/-- A decimal that is not much smaller than one is written with zeros before its digits. -/
theorem layout_eq_of_zeros_before {zeros : ℕ} (hfew : zeros ≤ 4) (hne : part ≠ [])
    (hown : digitsOf decimal.digits = part) (hscale : decimal.scale = -(zeros + part.length)) :
    decimal.layout = ['0'] ++ '.' :: (replicate zeros '0' ++ part) := by
  have hpoint : decimal.scale + part.length = -zeros := by omega
  have hlength := length_pos_of_ne_nil hne
  obtain ⟨hcase, -, -⟩ | ⟨-, hcase, -⟩ | ⟨-, -, hlayout⟩ | ⟨hcase, -⟩ :=
    layout_cases decimal hown hpoint
  · omega
  · omega
  · rw [hlayout, neg_neg, Int.toNat_natCast]
  · omega

theorem layout_eq_of_point_among (hlarge : whole.length ≤ 16) (hwhole : whole ≠ [])
    (hpart : part ≠ []) (hown : digitsOf decimal.digits = whole ++ part)
    (hscale : decimal.scale = -part.length) : decimal.layout = whole ++ '.' :: part := by
  have hlength := length_pos_of_ne_nil hwhole
  have hlength' := length_pos_of_ne_nil hpart
  have hpoint : decimal.scale + (whole ++ part).length = whole.length := by
    rw [hscale, length_append]
    push_cast
    ring
  obtain ⟨hcase, -, -⟩ | ⟨-, -, -, hlayout⟩ | ⟨-, hcase, -⟩ | ⟨hcase, -⟩ :=
    layout_cases decimal hown hpoint
  · omega
  · rw [hlayout, Int.toNat_natCast, take_left, drop_left]
  · omega
  · omega

/-- A positional decimal that is less than one begins with few zeros. -/
theorem IsPositional.exists_zeros (hpositional : IsPositional ['0'] part) (hpart : part ≠ [])
    (hfraction : part ≠ ['0']) :
    ∃ zeros rest, part = replicate zeros '0' ++ rest ∧ zeros ≤ 4 ∧ rest ≠ [] ∧
      rest.head? ≠ some '0' := by
  obtain ⟨zeros, rest, rfl, hhead⟩ := exists_eq_zeros_append part
  refine ⟨zeros, rest, rfl, ?_, ?_, hhead⟩
  · by_contra hmany
    refine (hpositional.small rfl).resolve_left hfraction ⟨replicate (zeros - 5) '0' ++ rest, ?_⟩
    rw [← append_assoc, replicate_append_replicate, show 5 + (zeros - 5) = zeros by omega]
  · rintro rfl
    obtain ⟨count, rfl⟩ := Nat.exists_eq_succ_of_ne_zero (n := zeros) fun h => by simp [h] at hpart
    have hend := hpositional.trailing.resolve_left hfraction
    rw [append_nil, replicate_succ', getLast?_concat] at hend
    exact hend rfl

/-- A positional decimal is the layout of the decimal of its value. -/
theorem layout_eq_of_isPositional (hlast : decimal.digits % 10 ≠ 0) (hwhole : whole ≠ [])
    (hpart : part ≠ []) (hdigits : ∀ c ∈ whole ++ part, c.isDigit = true)
    (hpositional : IsPositional whole part)
    (hvalue : decimal.value = Scaled.value ⟨Nat.ofDigitChars 10 (whole ++ part) 0, -part.length⟩) :
    decimal.layout = whole ++ '.' :: part := by
  have hpart' : ∀ c ∈ part, c.isDigit = true := fun c hc => hdigits c (mem_append_right _ hc)
  by_cases hinteger : part = ['0']
  · subst hinteger
    refine layout_eq_of_whole_number hlast hwhole (fun c hc => hdigits c (mem_append_left _ hc))
      hpositional.leading hpositional.large ?_
    rw [hvalue, Nat.ofDigitChars_append, Nat.ofDigitChars_cons, Nat.ofDigitChars_nil, Nat.mul_comm]
    exact value_mul_pow (Nat.ofDigitChars 10 whole 0) 1 (-1)
  -- the last digit is needed, so the digits are those of the decimal
  obtain ⟨power, hscale, hnumber⟩ := exists_eq_mul_pow hlast hvalue
  simp only at hscale hnumber
  obtain rfl : power = 0 := by
    by_contra hpower
    obtain ⟨power, rfl⟩ := Nat.exists_eq_succ_of_ne_zero hpower
    have hend : (whole ++ part).getLast? ≠ some '0' := by
      rw [getLast?_append_of_ne_nil _ hpart]
      exact hpositional.trailing.resolve_left hinteger
    refine ofDigitChars_mod_ten_ne (append_ne_nil_of_left_ne_nil hwhole _) hdigits hend ?_
    rw [hnumber, pow_succ, ← mul_assoc, Nat.mul_mod_left]
  rw [pow_zero, mul_one] at hnumber
  rw [Nat.cast_zero, add_zero] at hscale
  rcases hpositional.leading with rfl | hhead
  · obtain ⟨zeros, rest, rfl, hfew, hne, hhead⟩ := hpositional.exists_zeros hpart hinteger
    refine layout_eq_of_zeros_before hfew hne ?_ ?_
    · rw [← hnumber, Nat.ofDigitChars_append, show Nat.ofDigitChars 10 ['0'] 0 = 0 from rfl,
        Nat.ofDigitChars_append, Nat.ofDigitChars_replicate_zero, Nat.mul_zero]
      exact digitsOf_ofDigitChars hne (fun c hc => hpart' c (mem_append_right _ hc)) hhead
    · rw [hscale, length_append, length_replicate, Nat.cast_add]
  · refine layout_eq_of_point_among hpositional.large hwhole hpart ?_ hscale
    rw [← hnumber]
    refine digitsOf_ofDigitChars (append_ne_nil_of_left_ne_nil hwhole _) hdigits ?_
    rwa [head?_append, Option.or_of_isSome (isSome_head?.mpr hwhole)]

end

end Compliance.Decimal
