import Compliance.Implementation
import Compliance.Proofs.Rule.Override

/-!
# One reading of lists of rules

A list of rules is read in three places.  Loading separates its rules from its
overrides in one pass, and both a control of a policy and a requirement pick out
the rules that they select.  If one of them took an entry for a rule that another
one takes for an override, a component would name rules that were never loaded.

Whether an entry is an override is decided by its equals signs alone, and a pass
keeps to this wherever the entry stands (`isOf_split`).
-/

namespace Compliance.Override

/-- What a list of rules is separated into: the entries that cannot be taken apart, and for each
parameter the value that its last override in the list gives it. -/
structure Selection.IsOf (selection : Selection) (entries : List String) : Prop where
  /-- The rules keep their order, and a rule that stands twice in the list is selected twice. -/
  rules : selection.ruleIds = entries.filter fun entry => parse entry = none
  last : ∀ parameter value, selection.overrides.get? parameter = some value ↔
    SetsLast entries parameter value

theorem ruleIds_eq_filter_parse (entries : List String) :
    ruleIds entries = entries.filter fun entry => parse entry = none := by
  unfold ruleIds
  refine List.filter_congr fun entry _ => ?_
  cases parse entry <;> rfl

theorem isOf_split (entries : List String) : (split entries).IsOf entries := by
  rw [split_eq]
  constructor
  · exact ruleIds_eq_filter_parse entries
  · intro parameter value
    show (overrides entries).get? parameter = some value ↔ _
    rw [get?_overrides]
    exact lastValue?_eq_some_iff

example : split ["tmout", "timeout=9", "a=b=c", "timeout=", "tmout"] =
    ⟨["tmout", "a=b=c", "tmout"], (∅ : Table String).insert "timeout" ""⟩ := by
  decide

/-- An entry is an override if it is a parameter and a value with an equals sign between them that
is the only one in it.  Loading, controls and requirements all take exactly the other entries of a
list for its rules, and of several overrides of a parameter the last one counts. -/
theorem lists_are_read_alike :
    (∀ entry parameter value, parse entry = some (parameter, value) ↔
      entry = parameter ++ "=" ++ value ∧ '=' ∉ parameter.toList ∧ '=' ∉ value.toList) ∧
    (∀ entries, (split entries).IsOf entries) ∧
    (∀ control : PolicyControl, control.ruleIds = (split control.rules).ruleIds) ∧
    ∀ requirement : Requirement, requirement.ruleIds = (split requirement.rules).ruleIds := by
  refine ⟨fun _ _ _ => parse_eq_some_iff, isOf_split, ?_, ?_⟩
  · intro control
    rw [split_eq, PolicyControl.ruleIds]
  · intro requirement
    rw [split_eq, Requirement.ruleIds]

end Compliance.Override
