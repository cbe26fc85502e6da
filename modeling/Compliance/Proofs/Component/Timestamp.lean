import Compliance.Component.Timestamp
import Compliance.Proofs.Decimal.Digits

/-!
# Written times are read back

Every part of a time is written with a fixed number of digits, and the year with
four of them if it is one of the years 0 to 9999.  A reader that takes no more
digits than that reads the part, whatever follows, and the reader of a fraction
stops at the `Z`.  The parts together are the time that was written, since it was
written for the zero meridian (`parse_text`).
-/

namespace Compliance.Timestamp

/-! ## Parts of a time -/

theorem valueOf_eq_ofDigitChars (digits : List Char) :
    valueOf digits = Nat.ofDigitChars 10 digits 0 := by
  simp only [valueOf, Nat.ofDigitChars, Nat.mul_comm 10]
  rfl

@[simp] theorem valueOf_padded (width number : Nat) : valueOf (padded width number) = number := by
  rw [valueOf_eq_ofDigitChars, ofDigitChars_padded]

theorem trimStart_padded_append (width number : Nat) (rest : List Char) :
    Text.trimStart (padded width number ++ rest) = padded width number ++ rest := by
  obtain ⟨digit, digits, hdigits, hdigit⟩ := exists_padded_eq_cons width number
  simp [Text.trimStart, hdigits, isBlank_of_isDigit hdigit]

/-- A number is read from as many digits as are looked at, whatever follows. -/
theorem number?_padded_append {width number : Nat} (hwidth : 0 < width)
    (hnumber : number < 10 ^ width) (rest : List Char) :
    number? width (padded width number ++ rest) = some (number, rest) := by
  have hlength := length_padded hwidth hnumber
  have htake : ((padded width number ++ rest).takeWhile isDigit).take width =
      padded width number := by
    have hdigits : ∀ c ∈ padded width number, isDigit c = true :=
      fun c hmem => isDigit_of_mem_padded hmem
    rw [List.takeWhile_append_of_pos hdigits, List.take_left' hlength]
  have hne : padded width number ≠ [] := List.ne_nil_of_length_pos (by omega)
  simp only [number?, trimStart_padded_append, htake]
  simp [hne, hlength]

theorem numberWithin?_padded_append {low high number : Nat} (hlow : low ≤ number)
    (hhigh : number ≤ high) (hbound : high < 100) (rest : List Char) :
    numberWithin? low high (padded 2 number ++ rest) = some (number, rest) := by
  rw [numberWithin?, number?_padded_append (by decide) (by omega)]
  simp [hlow, hhigh]

theorem year?_yearText_append {year : Int} (hfirst : 0 ≤ year) (hlast : year ≤ 9999)
    (rest : List Char) : year? (yearText year ++ rest) = some (year, rest) := by
  obtain ⟨number, rfl⟩ := Int.eq_ofNat_of_zero_le hfirst
  have hnumber : number < 10 ^ 4 := by omega
  have hread := number?_padded_append (by decide) hnumber rest
  obtain ⟨digit, digits, hdigits, hdigit⟩ := exists_padded_eq_cons 4 number
  have hminus : digit ≠ '-' := ne_of_isDigit hdigit rfl
  have hplus : digit ≠ '+' := ne_of_isDigit hdigit rfl
  rw [yearText, if_pos ⟨hfirst, hlast⟩, Int.toNat_natCast, year?, trimStart_padded_append]
  rw [hdigits, List.cons_append] at hread ⊢
  simp [hminus, hplus, hread]

/-- A fraction is read from its digits. -/
theorem fraction?_padded_append {width number : Nat} (hwidth : 0 < width) (hwide : width ≤ 9)
    (hnumber : number < 10 ^ width) :
    fraction? ('.' :: (padded width number ++ ['Z'])) =
      some (number * 10 ^ (9 - width), ['Z']) := by
  have hlength := length_padded hwidth hnumber
  have hdigits : (padded width number ++ ['Z']).takeWhile isDigit = padded width number :=
    takeWhile_isDigit_append (fun c hmem => isDigit_of_mem_padded hmem) (by simp)
  have hne : padded width number ≠ [] := List.ne_nil_of_length_pos (by omega)
  have hkept : (padded width number).take 9 = padded width number :=
    List.take_of_length_le (by omega)
  simp only [fraction?, hdigits, hkept]
  simp [hne, hlength]

/-- A fraction is read back, whether it has none, three, six or nine digits. -/
theorem fraction?_fractionText_append {nanosecond : Nat}
    (hnanosecond : nanosecond < nanosecondsOfSecond) :
    fraction? (fractionText nanosecond ++ ['Z']) = some (nanosecond, ['Z']) := by
  unfold nanosecondsOfSecond at hnanosecond
  have hmillion : Nat.pow 10 6 = 1000000 := rfl
  have hthousand : Nat.pow 10 3 = 1000 := rfl
  rw [fractionText, hmillion, hthousand]
  split
  · rename_i hzero
    rw [hzero]
    rfl
  · split
    · rw [List.cons_append, fraction?_padded_append (by decide) (by decide) (by omega)]
      congr 2
      omega
    · split
      · rw [List.cons_append, fraction?_padded_append (by decide) (by decide) (by omega)]
        congr 2
        omega
      · rw [List.cons_append, fraction?_padded_append (by decide) (by decide) (by omega)]
        simp

theorem afterChar?_cons {c : Char} (hblank : Text.isBlank c = false) (rest : List Char) :
    afterChar? c (c :: rest) = some rest := by
  simp [afterChar?, Text.trimStart, hblank, Text.after?]

/-! ## The whole time -/

/-- A time of the zero meridian is left as it is. -/
theorem shifted_zero {time : Timestamp} (hhour : time.hour < 24) (hminute : time.minute < 60) :
    time.shifted 0 = time := by
  have hofDay : ((time.hour * 60 + time.minute - 0 : Int) % 1440).toNat =
      time.hour * 60 + time.minute := by
    omega
  have hhours : (time.hour * 60 + time.minute) / 60 = time.hour := by omega
  have hminutes : (time.hour * 60 + time.minute) % 60 = time.minute := by omega
  simp only [shifted, hofDay, hhours, hminutes]
  rw [if_neg (by omega), if_neg (by omega)]

/-- A time of the zero meridian is read back from its text. -/
theorem parse_text {time : Timestamp} (hvalid : time.isValid = true) (hfirst : 0 ≤ time.year)
    (hlast : time.year ≤ 9999) : parse time.text = some time := by
  have hparts := hvalid
  simp only [isValid, Bool.and_eq_true, decide_eq_true_eq] at hparts
  obtain ⟨⟨⟨⟨⟨⟨⟨⟨⟨-, -⟩, hmonth⟩, hmonths⟩, hday⟩, hdays⟩, hhour⟩, hminute⟩, hsecond⟩,
    hnanosecond⟩ := hparts
  have hlongest : daysInMonth time.year time.month ≤ 31 := by
    unfold daysInMonth
    split
    · split <;> omega
    all_goals omega
  rw [parse, text, String.toList_ofList, ofChars?, chars]
  simp only [List.append_assoc, List.cons_append]
  -- part by part, each with all that stands after it
  refine Option.bind_eq_some_iff.mpr ⟨_, year?_yearText_append hfirst hlast _, ?_⟩
  refine Option.bind_eq_some_iff.mpr ⟨_, afterChar?_cons rfl _, ?_⟩
  refine Option.bind_eq_some_iff.mpr
    ⟨_, numberWithin?_padded_append hmonth hmonths (by decide) _, ?_⟩
  refine Option.bind_eq_some_iff.mpr ⟨_, afterChar?_cons rfl _, ?_⟩
  refine Option.bind_eq_some_iff.mpr
    ⟨_, numberWithin?_padded_append hday (Nat.le_trans hdays hlongest) (by decide) _, ?_⟩
  refine Option.bind_eq_some_iff.mpr
    ⟨_, numberWithin?_padded_append time.hour.zero_le (Nat.le_of_lt_succ hhour) (by decide) _, ?_⟩
  refine Option.bind_eq_some_iff.mpr ⟨_, afterChar?_cons rfl _, ?_⟩
  refine Option.bind_eq_some_iff.mpr
    ⟨_, numberWithin?_padded_append time.minute.zero_le (Nat.le_of_lt_succ hminute) (by decide) _,
      ?_⟩
  refine Option.bind_eq_some_iff.mpr ⟨_, afterChar?_cons rfl _, ?_⟩
  refine Option.bind_eq_some_iff.mpr
    ⟨_, numberWithin?_padded_append time.second.zero_le hsecond (by decide) _, ?_⟩
  refine Option.bind_eq_some_iff.mpr ⟨_, fraction?_fractionText_append hnanosecond, ?_⟩
  refine Option.bind_eq_some_iff.mpr ⟨(0, []), rfl, ?_⟩
  simp [shifted_zero hhour hminute, hvalid, Text.trimStart]

end Compliance.Timestamp
