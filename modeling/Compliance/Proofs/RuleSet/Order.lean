import Compliance.Proofs.RuleSet
import Compliance.Proofs.Text.Octets

/-!
# Rule sets in the order of their rules

The number of a rule is written with as many digits as the greatest number among the
rules has, so the identifiers of all rules are equally long.  Texts of one length that
begin alike are in the order of what follows, and digits of one length are in the order
of their numbers.  Hence rule sets that are sorted as texts are in the order of the rules
(`octets_ruleSetId_lt`).

A number that is not among the rules takes its own digits if it has more of them than the
rules need.  It still is what the digits say, so no two numbers share an identifier.
-/

namespace Compliance

open List

/-- Digits are the decimal writing of a number with a given count of digits. -/
structure IsDecimal (digits : List Char) (number width : Nat) : Prop where
  isDigit : ∀ c ∈ digits, c.isDigit = true
  value : Nat.ofDigitChars 10 digits 0 = number
  length : digits.length = width

variable {first second index total : Nat}

/-! ## The digits of an identifier -/

/-- A number that is at most as great as another one is written with as many digits as that. -/
theorem isDecimal_padded {largest : Nat} (hle : index ≤ largest) :
    IsDecimal (padded (Decimal.digitsOf largest).length index) index (Nat.log 10 largest + 1) where
  isDigit _ hc := isDigit_of_mem_padded hc
  value := ofDigitChars_padded _ _
  length := by
    have hlarge : largest < 10 ^ (Nat.log 10 largest + 1) :=
      Nat.lt_pow_succ_log_self (by decide) largest
    rw [length_digitsOf, length_padded (Nat.succ_pos _) (hle.trans_lt hlarge)]

theorem toList_ruleSetId (index total : Nat) :
    (ruleSetId index total).toList =
      "rule_set_".toList ++
        padded (Decimal.digitsOf (max (total - 1) index)).length index := by
  rw [ruleSetId, String.toList_append]
  exact congrArg _ String.toList_ofList

/-- An identifier is the word for rule sets and the number in digits. -/
theorem exists_isDecimal_ruleSetId (index total : Nat) :
    ∃ digits, (ruleSetId index total).toList = "rule_set_".toList ++ digits ∧
      IsDecimal digits index (Nat.log 10 (max (total - 1) index) + 1) :=
  ⟨_, toList_ruleSetId index total, isDecimal_padded (le_max_right _ _)⟩

theorem ascii_of_mem_ruleSetId {c : Char} (hc : c ∈ (ruleSetId index total).toList) :
    c.toNat < 0x80 := by
  obtain ⟨digits, hid, hdecimal⟩ := exists_isDecimal_ruleSetId index total
  rw [hid, mem_append] at hc
  rcases hc with hword | hdigit
  · have hall : "rule_set_".toList.all (·.toNat < 0x80) := by decide
    simpa using List.all_eq_true.mp hall c hword
  · have := toNat_of_isDigit (hdecimal.isDigit c hdigit)
    omega

/-- All characters of an identifier are octets. -/
theorem length_octets_ruleSetId :
    (Text.octets (ruleSetId index total)).length = (ruleSetId index total).length :=
  Text.length_octets_of_ascii fun _ hc => ascii_of_mem_ruleSetId hc

/-! ## The identifiers of the rules -/

/-- The digits for a rule are as many as those for the last one. -/
theorem isDecimal_of_lt {digits : List Char} (hindex : index < total)
    (hdecimal : IsDecimal digits index (Nat.log 10 (max (total - 1) index) + 1)) :
    IsDecimal digits index (Nat.log 10 (total - 1) + 1) := by
  rwa [max_eq_left (Nat.le_sub_one_of_lt hindex)] at hdecimal

theorem length_ruleSetId (hindex : index < total) :
    (ruleSetId index total).length = "rule_set_".length + (Nat.log 10 (total - 1) + 1) := by
  obtain ⟨digits, hid, hdecimal⟩ := exists_isDecimal_ruleSetId index total
  rw [← String.length_toList, hid, length_append, (isDecimal_of_lt hindex hdecimal).length,
    String.length_toList]

/-- The rule sets of rules are in the order of the rules. -/
theorem ruleSetId_lt (hlt : first < second) (hsecond : second < total) :
    ruleSetId first total < ruleSetId second total := by
  obtain ⟨digits, hid, hdecimal⟩ := exists_isDecimal_ruleSetId first total
  obtain ⟨others, hid', hdecimal'⟩ := exists_isDecimal_ruleSetId second total
  have hlength : digits.length = others.length :=
    (isDecimal_of_lt (hlt.trans hsecond) hdecimal).length.trans
      (isDecimal_of_lt hsecond hdecimal').length.symm
  have hvalue : Nat.ofDigitChars 10 digits 0 < Nat.ofDigitChars 10 others 0 := by
    rwa [hdecimal.value, hdecimal'.value]
  have hdigits : digits < others :=
    lt_of_ofDigitChars_lt hdecimal.isDigit hdecimal'.isDigit hlength hvalue
  rw [String.lt_iff, hid, hid']
  exact Lex.append_left _ hdigits _

/-! ## Order and identity -/

/-- The identifiers of rules are equally long and in the order of the rules, octet by octet. Any
identifier, also of a number that is not among the rules, is the word for rule sets with the
decimal digits of the number, as many as the greatest number has, so that different numbers have
different identifiers. -/
theorem ruleSetId_orders_and_identifies (total : Nat) :
    (∀ first second, first < second → second < total →
      (ruleSetId first total).length = (ruleSetId second total).length ∧
      (Text.octets (ruleSetId first total)).length =
        (Text.octets (ruleSetId second total)).length ∧
      Text.octets (ruleSetId first total) < Text.octets (ruleSetId second total)) ∧
    (∀ index, ∃ digits, (ruleSetId index total).toList = "rule_set_".toList ++ digits ∧
      IsDecimal digits index (Nat.log 10 (max (total - 1) index) + 1)) ∧
    ∀ first second, ruleSetId first total = ruleSetId second total → first = second := by
  refine ⟨fun first second hlt hsecond => ?_, fun index => exists_isDecimal_ruleSetId index total,
    fun first second heq => eq_of_ruleSetId_eq heq⟩
  have hlength : (ruleSetId first total).length = (ruleSetId second total).length :=
    (length_ruleSetId (hlt.trans hsecond)).trans (length_ruleSetId hsecond).symm
  refine ⟨hlength, ?_, Text.octets_lt_of_lt (ruleSetId_lt hlt hsecond)⟩
  rw [length_octets_ruleSetId, length_octets_ruleSetId, hlength]

/-- Eleven rules are the first that need two digits. -/
theorem ruleSetId_of_eleven :
    9 < 10 ∧ 10 < 11 ∧ ruleSetId 9 11 = "rule_set_09" ∧ ruleSetId 10 11 = "rule_set_10" ∧
      Text.octets (ruleSetId 9 11) < Text.octets (ruleSetId 10 11) :=
  ⟨by decide, by decide, by decide, by decide,
    ((ruleSetId_orders_and_identifies 11).1 9 10 (by decide) (by decide)).2.2⟩

end Compliance
