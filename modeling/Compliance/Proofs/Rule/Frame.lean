import Compliance.Proofs.Parameter.Store
import Compliance.Proofs.Rule.Batch

/-!
# One more override in a list

A list of rules is compared with the same list after an override has been put in
somewhere, so that no other override of the parameter follows it.  Everything but
the parameter itself stays as it is (`load_insert`).

## Strategy

* The rules of the two lists are the same, and what fails does not depend on
  overrides, so both lists fail in the same way (`loadBatch_error_of_ruleIds_eq`).
* If they load, the two rules at one place have the same origin.  All that is looked
  up in the overrides is the parameter of the origin, and the lists disagree on one
  parameter only (`Override.lastValue?_insert`).
-/

namespace Compliance

open List

/-- What becomes of a rule when a parameter is overridden: it stays as it is unless it is bound to
the parameter.  Then the parameter has the new default value and remembers the one in the store,
whatever value it had before. -/
inductive Rule.IsReset (store : ParameterStore) (name value : String) : Rule → Rule → Prop
  | unbound {rule : Rule} (hother : ∀ parameter ∈ rule.parameters, parameter.id ≠ name) :
      IsReset store name value rule rule
  | bound {rule : Rule} {parameter stored : Parameter} (hbound : rule.parameters = [parameter])
      (hid : parameter.id = name) (hstored : store.get name = .ok stored) :
      IsReset store name value rule
        { rule with
          parameters := [{ parameter with
            default := value
            source := .override stored.default }] }

namespace RuleRepository

variable {repository : RuleRepository} {id : String} {origin : Origin}

/-! ## One rule -/

/-- Two tables of overrides that disagree on one parameter make rules that differ in it only. -/
theorem HasOrigin.isReset_rule (horigin : repository.HasOrigin id origin)
    (hkeyed : repository.parameters.IsKeyed) {overrides others : Table String}
    {name value : String}
    (hothers : ∀ other, others.get? other =
      if other = name then some value else overrides.get? other) :
    Rule.IsReset repository.parameters name value (origin.rule id overrides)
      (origin.rule id others) := by
  cases hbinding : origin.binding with
  | none =>
      have hnone := Origin.parameter?_of_unbound hbinding
      have hsame : origin.rule id others = origin.rule id overrides := by
        rw [Origin.rule_eq_rule_iff, hnone, hnone]
      rw [hsame]
      apply Rule.IsReset.unbound
      simp [hnone]
  | some bound =>
      obtain ⟨stored, parameter⟩ := bound
      have hget : Table.get? repository.parameters stored = some parameter :=
        horigin.stored stored parameter hbinding
      have hid : parameter.id = stored := hkeyed stored parameter hget
      have hparameter := Origin.parameter?_of_bound hbinding
      by_cases hname : stored = name
      · subst hname
        have hreset : origin.rule id others =
            { origin.rule id overrides with
              parameters := [{ parameter.withOverride? (overrides.get? stored) with
                default := value
                source := .override parameter.default }] } := by
          rw [Origin.rule, Origin.rule, hparameter, hothers stored, if_pos rfl]
          cases overrides.get? stored <;> rfl
        rw [hreset]
        refine .bound ?_ ?_ (ParameterStore.get_eq_ok_iff.mpr hget)
        · simp [hparameter]
        · simp [hid]
      · have hsame : origin.rule id others = origin.rule id overrides := by
          rw [Origin.rule_eq_rule_iff, hparameter, hparameter, hothers stored, if_neg hname]
        rw [hsame]
        apply Rule.IsReset.unbound
        simp [hparameter, hid, hname]

/-! ## Two lists with the same rules -/

variable {entries others : List String}

theorem loadBatch_error_of_ruleIds_eq (hids : Override.ruleIds entries = Override.ruleIds others)
    {failures : List RuleFailure} (hload : repository.loadBatch entries = .error failures) :
    repository.loadBatch others = .error failures := by
  have hfails := (forall₂_of_loadBatch_error hload).2
  rcases loadBatch_cases repository others with ⟨rules, -, hall, -⟩ | ⟨found, herror, -, hfound⟩
  · rw [← hids, ← exists_loadBatch_ok_iff] at hall
    obtain ⟨rules, hok⟩ := hall
    rw [hload] at hok
    cases hok
  · rw [← hids] at hfound
    rw [herror, right_unique_forall₂' repository.rightUnique_fails hfound hfails]

theorem load_eq_error_iff_of_ruleIds_eq (hids : Override.ruleIds entries = Override.ruleIds others)
    {failure : Failure} :
    repository.load entries = .error failure ↔ repository.load others = .error failure := by
  simp only [load_eq_error_iff]
  refine exists_congr fun failures => and_congr_left fun _ => ?_
  exact ⟨loadBatch_error_of_ruleIds_eq hids, loadBatch_error_of_ruleIds_eq hids.symm⟩

theorem exists_load_ok_iff_of_ruleIds_eq
    (hids : Override.ruleIds entries = Override.ruleIds others) :
    (∃ rules, repository.load entries = .ok rules) ↔
      ∃ rules, repository.load others = .ok rules := by
  simp only [load_eq_ok_iff, exists_loadBatch_ok_iff, hids]

private theorem forall₂_of_common {α β γ : Type} {first : α → β → Prop} {second : α → γ → Prop}
    {related : β → γ → Prop} (hrelated : ∀ a b c, first a b → second a c → related b c)
    {common : List α} {lefts : List β} {rights : List γ} (hlefts : Forall₂ first common lefts)
    (hrights : Forall₂ second common rights) : Forall₂ related lefts rights := by
  induction hlefts generalizing rights with
  | nil =>
      cases hrights
      exact .nil
  | cons hleft _ ih =>
      cases hrights with
      | cons hright hrest => exact .cons (hrelated _ _ _ hleft hright) (ih hrest)

/-- The rules at one place of two lists come of one origin. -/
theorem forall₂_of_load_ok {related : Rule → Rule → Prop} {rules others' : List Rule}
    (hids : Override.ruleIds entries = Override.ruleIds others)
    (hrelated : ∀ id origin, repository.HasOrigin id origin →
      related (origin.rule id (Override.overrides entries))
        (origin.rule id (Override.overrides others)))
    (hload : repository.load entries = .ok rules) (hothers : repository.load others = .ok others') :
    Forall₂ related rules others' := by
  have hrules := forall₂_of_loadBatch_ok (load_eq_ok_iff.mp hload)
  have hrules' := forall₂_of_loadBatch_ok (load_eq_ok_iff.mp hothers)
  rw [← hids] at hrules'
  refine forall₂_of_common ?_ hrules hrules'
  intro id rule other hrule hother
  obtain ⟨origin, horigin, rfl⟩ := loadRule_eq_ok_iff.mp hrule
  rw [horigin.loadRule] at hother
  obtain rfl := Except.ok.inj hother
  exact hrelated id origin horigin

/-! ## The list with the override -/

variable {before after : List String} {parameter value : String}

/-- An override that no other one of its parameter follows changes nothing but the parameter.  The
list loads if it did before, and fails with the same failures if it did not.  The rules come out in
the same order, and those that are not bound to the parameter as they did before. -/
theorem load_insert (hkeyed : repository.parameters.IsKeyed) (hparameter : '=' ∉ parameter.toList)
    (hvalue : '=' ∉ value.toList) (hlast : Override.Omits after parameter) :
    ((∃ rules, repository.load (before ++ (parameter ++ "=" ++ value) :: after) = .ok rules) ↔
      ∃ rules, repository.load (before ++ after) = .ok rules) ∧
    (∀ failure, repository.load (before ++ (parameter ++ "=" ++ value) :: after) = .error failure ↔
      repository.load (before ++ after) = .error failure) ∧
    ∀ rules others, repository.load (before ++ after) = .ok rules →
      repository.load (before ++ (parameter ++ "=" ++ value) :: after) = .ok others →
        others.length = rules.length ∧
        Forall₂ (Rule.IsReset repository.parameters parameter value) rules others := by
  have hparse : Override.parse (parameter ++ "=" ++ value) = some (parameter, value) :=
    Override.parse_eq_some_iff.mpr ⟨rfl, hparameter, hvalue⟩
  have hids : Override.ruleIds (before ++ (parameter ++ "=" ++ value) :: after) =
      Override.ruleIds (before ++ after) :=
    Override.ruleIds_insert hparse
  refine ⟨exists_load_ok_iff_of_ruleIds_eq hids, fun _ => load_eq_error_iff_of_ruleIds_eq hids, ?_⟩
  intro rules others hload hothers
  have hreset : Forall₂ (Rule.IsReset repository.parameters parameter value) rules others := by
    refine forall₂_of_load_ok hids.symm (fun id origin horigin => ?_) hload hothers
    apply horigin.isReset_rule hkeyed
    intro other
    rw [Override.get?_overrides, Override.get?_overrides]
    exact Override.lastValue?_insert hparse hlast other
  exact ⟨hreset.length_eq.symm, hreset⟩

/-- The parameter remembers the value in the store, though the list overrides it already. -/
theorem load_insert_of_overridden_timeout :
    ∃ rule parameter, Sample.repository.load ["timeout=300", "tmout", "other=1"] = .ok [rule] ∧
      rule.parameters = [parameter] ∧ parameter.default = "300" ∧
      Sample.repository.load ["timeout=300", "tmout", "timeout=900", "other=1"] =
        .ok [{ rule with
          parameters := [{ parameter with default := "900", source := .override "600" }] }] := by
  have hseen : (Sample.repository.load ["timeout=300", "tmout", "other=1"]).toOption.map
      (List.map fun rule => rule.parameters.map fun parameter =>
        (parameter.id, parameter.default)) = some [[("timeout", "300")]] := by
    decide +kernel
  obtain ⟨rules, hload, hrules⟩ := Except.exists_ok_of_map_toOption_eq_some hseen
  obtain ⟨rule, _, rfl, hrule, hnone⟩ := map_eq_cons_iff.mp hrules
  obtain rfl := map_eq_nil_iff.mp hnone
  obtain ⟨parameter, _, hparameters, hpair, hnone⟩ := map_eq_cons_iff.mp hrule
  obtain rfl := map_eq_nil_iff.mp hnone
  obtain ⟨hid, hdefault⟩ := Prod.mk.inj hpair
  have hkeyed : ParameterStore.IsKeyed Sample.repository.parameters :=
    ParameterStore.isKeyed_foldl_add [Sample.timeout]
  have hlast : Override.Omits ["other=1"] "timeout" := by
    rw [← Override.lastValue?_eq_none_iff]
    decide +kernel
  have hstored :
      ParameterStore.get Sample.repository.parameters "timeout" = .ok Sample.timeout := by
    decide +kernel
  obtain ⟨hloads, -, hrelated⟩ := @load_insert Sample.repository ["timeout=300", "tmout"]
    ["other=1"] "timeout" "900" hkeyed (by decide) (by decide) hlast
  have hentry : "timeout" ++ "=" ++ "900" = "timeout=900" := by decide
  rw [hentry] at hloads hrelated
  obtain ⟨others, hothers⟩ := hloads.mpr ⟨_, hload⟩
  obtain ⟨-, hall⟩ := hrelated _ others hload hothers
  obtain ⟨other, _, hreset, hnil, rfl⟩ := forall₂_cons_left_iff.mp hall
  obtain rfl := forall₂_nil_left_iff.mp hnil
  cases hreset with
  | unbound hother => exact absurd hid (hother parameter (by simp [hparameters]))
  | bound hbound _ hfound =>
      rw [hparameters] at hbound
      obtain rfl := List.singleton_inj.mp hbound
      rw [hstored] at hfound
      obtain rfl := Except.ok.inj hfound
      exact ⟨rule, parameter, hload, hparameters, hdefault, hothers⟩

end RuleRepository

end Compliance
