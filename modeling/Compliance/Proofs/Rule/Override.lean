import Compliance.Rule.Override

/-!
# What the entries of a list of rules say

An entry is an override exactly when one equals sign stands in it.  Everything
that is said about lists of rules elsewhere uses this and the look-up of the last
override of a parameter, never the cutting of the texts itself.

A list is separated into rules and overrides in one pass.  `split_eq` says what the
pass comes to, so that nothing else has to follow it.
-/

namespace Compliance.Override

/-! ## Single entries -/

/-- An entry is an override if exactly one equals sign stands in it. -/
def IsOverride (entry : String) : Prop := entry.toList.count '=' = 1

instance : DecidablePred IsOverride := fun entry =>
  inferInstanceAs (Decidable (entry.toList.count '=' = 1))

/-- An override is the parameter and the value with an equals sign between them. -/
theorem parse_eq_some_iff {entry parameter value : String} :
    parse entry = some (parameter, value) ↔
      entry = parameter ++ "=" ++ value ∧ '=' ∉ parameter.toList ∧ '=' ∉ value.toList := by
  constructor
  · intro hparse
    unfold parse at hparse
    split at hparse
    · simp at hparse
    · rename_i before after hcut
      obtain ⟨hentry, hbefore⟩ := Text.cut?_eq_some hcut
      split at hparse
      · simp at hparse
      · rename_i hafter
        obtain ⟨rfl, rfl⟩ : String.ofList before = parameter ∧ String.ofList after = value := by
          simpa using hparse
        refine ⟨String.toList_inj.mp ?_, by simpa using hbefore, by simpa using hafter⟩
        simpa using hentry
  · rintro ⟨rfl, hparameter, hvalue⟩
    have hcut : Text.cut? '=' (parameter ++ "=" ++ value).toList =
        some (parameter.toList, value.toList) := by
      simpa using Text.cut?_append_cons hparameter value.toList
    unfold parse
    simp only [hcut, hvalue, ↓reduceIte, String.ofList_toList]

/-- What can be taken apart is what has one equals sign. -/
theorem isSome_parse_iff {entry : String} : (parse entry).isSome ↔ IsOverride entry := by
  unfold parse IsOverride
  split
  · rename_i hcut
    have habsent : '=' ∉ entry.toList := Text.cut?_eq_none_iff.mp hcut
    simp [List.count_eq_zero_of_not_mem habsent]
  · rename_i before after hcut
    obtain ⟨hentry, hbefore⟩ := Text.cut?_eq_some hcut
    have hcount : entry.toList.count '=' = after.count '=' + 1 := by
      simp [hentry, List.count_append, List.count_eq_zero_of_not_mem hbefore]
    rw [hcount]
    by_cases hafter : '=' ∈ after
    · have := List.count_pos_iff.mpr hafter
      simp only [hafter, ↓reduceIte, Option.isSome_none, Bool.false_eq_true, false_iff]
      omega
    · simp [hafter, List.count_eq_zero_of_not_mem hafter]

/-- The rules of a list are its entries that are no overrides. -/
theorem ruleIds_eq_filter (entries : List String) :
    ruleIds entries = entries.filter fun entry => ¬ IsOverride entry := by
  unfold ruleIds
  refine List.filter_congr fun entry _ => ?_
  rw [Bool.eq_iff_iff, decide_eq_true_iff, ← isSome_parse_iff]
  simp

/-! ## The last override of a parameter -/

/-- No entry of a list overrides a parameter. -/
def Omits (entries : List String) (parameter : String) : Prop :=
  ∀ entry ∈ entries, ∀ value, parse entry ≠ some (parameter, value)

/-- The last override of a parameter in a list gives it a value. -/
def SetsLast (entries : List String) (parameter value : String) : Prop :=
  ∃ earlier entry later, entries = earlier ++ entry :: later ∧
    parse entry = some (parameter, value) ∧ Omits later parameter

/-- The value that the last override of a parameter in a list gives it. -/
def lastValue? (parameter : String) (entries : List String) : Option String :=
  (entries.filterMap parse).reverse.lookup parameter

/-- The overrides of a list look a parameter up in its last override. -/
@[simp] theorem get?_overrides (parameter : String) (entries : List String) :
    (overrides entries).get? parameter = lastValue? parameter entries :=
  Table.get?_ofList _ _

@[simp] theorem lastValue?_nil (parameter : String) : lastValue? parameter [] = none := rfl

/-- A later override counts before an earlier one. -/
theorem lastValue?_append (parameter : String) (earlier later : List String) :
    lastValue? parameter (earlier ++ later) =
      (lastValue? parameter later).or (lastValue? parameter earlier) := by
  simp [lastValue?, List.lookup_append]

theorem lastValue?_eq_none_iff {parameter : String} {entries : List String} :
    lastValue? parameter entries = none ↔ Omits entries parameter := by
  simp only [lastValue?, Omits, List.lookup_eq_none_iff, List.mem_reverse, List.mem_filterMap,
    bne_iff_ne, ne_eq, Prod.forall]
  constructor
  · intro hall entry hentry value hparse
    exact hall parameter value ⟨entry, hentry, hparse⟩ rfl
  · rintro hall other value ⟨entry, hentry, hparse⟩ rfl
    exact hall entry hentry value hparse

theorem lastValue?_eq_some_iff {parameter value : String} {entries : List String} :
    lastValue? parameter entries = some value ↔ SetsLast entries parameter value := by
  constructor
  · intro hvalue
    induction entries with
    | nil => simp at hvalue
    | cons head rest ih =>
        rw [← List.singleton_append, lastValue?_append, Option.or_eq_some_iff] at hvalue
        -- the first entry only counts if the rest does not override the parameter
        rcases hvalue with hrest | ⟨hnone, hhead⟩
        · obtain ⟨earlier, entry, later, rfl, hparse, hlater⟩ := ih hrest
          exact ⟨head :: earlier, entry, later, rfl, hparse, hlater⟩
        · refine ⟨[], head, rest, rfl, ?_, lastValue?_eq_none_iff.mp hnone⟩
          cases hparse : parse head with
          | none => simp [lastValue?, hparse] at hhead
          | some pair => grind [lastValue?]
  · rintro ⟨earlier, entry, later, rfl, hparse, hlater⟩
    have hnone := lastValue?_eq_none_iff.mpr hlater
    rw [lastValue?_append, ← List.singleton_append, lastValue?_append, hnone]
    simp [lastValue?, hparse]

/-! ## One more override -/

section

variable {entry parameter value : String} {before after : List String}

theorem ruleIds_insert (hparse : parse entry = some (parameter, value)) :
    ruleIds (before ++ entry :: after) = ruleIds (before ++ after) := by
  simp [ruleIds, hparse]

/-- An override that no other one of its parameter follows counts, and all other parameters keep the
overrides that they have. -/
theorem lastValue?_insert (hparse : parse entry = some (parameter, value))
    (hafter : Omits after parameter) (other : String) :
    lastValue? other (before ++ entry :: after) =
      if other = parameter then some value else lastValue? other (before ++ after) := by
  have hentry : lastValue? other [entry] = if other = parameter then some value else none := by
    by_cases hother : other = parameter
    · simp [lastValue?, hparse, hother]
    · simp [lastValue?, hparse, List.lookup_cons, beq_eq_false_iff_ne.mpr hother, hother]
  rw [lastValue?_append, ← List.singleton_append, lastValue?_append, hentry, lastValue?_append]
  by_cases hother : other = parameter
  · have hnone := lastValue?_eq_none_iff.mpr hafter
    simp [hother, hnone]
  · simp [hother]

end

/-! ## One pass over a list -/

theorem take_of_parse_eq_none {entry : String} (hparse : parse entry = none)
    (selection : Selection) :
    selection.take entry = { selection with ruleIds := selection.ruleIds ++ [entry] } := by
  rw [Selection.take, hparse]

theorem take_of_parse_eq_some {entry parameter value : String}
    (hparse : parse entry = some (parameter, value)) (selection : Selection) :
    selection.take entry =
      { selection with overrides := selection.overrides.insert parameter value } := by
  rw [Selection.take, hparse]

/-- What has been taken in before is followed by the rules of the list, and the overrides of the
list count before it. -/
theorem foldl_take (selection : Selection) (entries : List String) :
    entries.foldl Selection.take selection =
      ⟨selection.ruleIds ++ ruleIds entries,
        (entries.filterMap parse).foldl (fun table entry => table.insert entry.1 entry.2)
          selection.overrides⟩ := by
  induction entries generalizing selection with
  | nil => simp [ruleIds]
  | cons entry others ih =>
      rw [List.foldl_cons, ih]
      cases hparse : parse entry with
      | none => simp [take_of_parse_eq_none hparse, ruleIds, hparse]
      | some pair =>
          obtain ⟨parameter, value⟩ := pair
          simp [take_of_parse_eq_some hparse, ruleIds, hparse]

/-- One pass finds the rules of a list and its overrides. -/
theorem split_eq (entries : List String) :
    split entries = ⟨ruleIds entries, overrides entries⟩ := by
  rw [split, foldl_take, List.nil_append, overrides, Table.ofList]

end Compliance.Override
