import Compliance.Proofs.Rule.Batches
import Compliance.Proofs.Rule.Listed

/-!
# Overrides that restate the default value

A rule that comes out of several lists as it did before is not repeated.  But a
parameter remembers whether its default value was overridden, and an override may
give it the value that it has anyway.  Then the rule comes out once more, with
the same values bound to it, and a component gets two rule sets that say the
same.

* There is no other way in which overrides can make two parameters of one without
  the default value telling so (`Parameter.withOverride?_ne_and_default_eq_iff`).
* A rule set says no more about a rule of a repository than its identifier and
  the values bound to it (`HasOrigin.contents_ofRule_eq_iff`).
-/

namespace Compliance

/-! ## One parameter -/

namespace Parameter

variable (parameter : Parameter)

/-- An override that does not change the default value leaves a trace, unless it repeats the
override that the value came from. -/
theorem ne_withOverride_and_default_eq_iff (value : String) :
    parameter ≠ parameter.withOverride value ∧ parameter.default = value ↔
      parameter.source ≠ .override parameter.default ∧ value = parameter.default := by
  have hsame : parameter = parameter.withOverride value ↔
      parameter.default = value ∧ parameter.source = .override parameter.default := by
    obtain ⟨id, description, default, options, source⟩ := parameter
    simp [withOverride]
  rw [ne_eq, hsame]
  constructor
  · rintro ⟨htrace, hvalue⟩
    exact ⟨fun hsource => htrace ⟨hvalue, hsource⟩, hvalue.symm⟩
  · rintro ⟨hsource, hvalue⟩
    exact ⟨fun hboth => hsource hboth.2, hvalue.symm⟩

/-- Two parameters that overrides make of one have the same default value and are different exactly
when one override restates the default value and the other is missing. -/
theorem withOverride?_ne_and_default_eq_iff (first second : Option String) :
    parameter.withOverride? first ≠ parameter.withOverride? second ∧
        (parameter.withOverride? first).default = (parameter.withOverride? second).default ↔
      parameter.source ≠ .override parameter.default ∧
        (first = none ∧ second = some parameter.default ∨
          first = some parameter.default ∧ second = none) := by
  cases first with
  | none =>
      cases second with
      | none => simp
      | some value =>
          simpa [withOverride?, withOverride] using
            parameter.ne_withOverride_and_default_eq_iff value
  | some value =>
      cases second with
      | none =>
          have hone := parameter.ne_withOverride_and_default_eq_iff value
          rw [ne_comm, @eq_comm _ parameter.default value] at hone
          simpa [withOverride?, withOverride] using hone
      | some other =>
          -- equal values are overridden from the same default value
          simp [withOverride?, withOverride]

end Parameter

/-! ## Rules -/

namespace Rule

/-- The parameters of a rule with their default values. -/
def boundValues (rule : Rule) : List (String × String) :=
  rule.parameters.map fun parameter => (parameter.id, parameter.default)

/-- The same rule with the same values bound to it. -/
def SameValues (first second : Rule) : Prop :=
  first.id = second.id ∧ first.boundValues = second.boundValues

theorem SameValues.symm {first second : Rule} (hsame : first.SameValues second) :
    second.SameValues first :=
  ⟨hsame.1.symm, hsame.2.symm⟩

/-- Rules that are listed alike have the same values bound to them. -/
theorem ListedAlike.sameValues {first second : Rule} (halike : first.ListedAlike second) :
    first.SameValues second := by
  obtain ⟨hid, -, hparameters⟩ := halike
  refine ⟨hid, ?_⟩
  rw [boundValues, boundValues, ← List.forall₂_eq_eq_eq, List.forall₂_map_left_iff,
    List.forall₂_map_right_iff]
  exact hparameters.imp fun _ _ ⟨hid, _, hdefault, _⟩ => Prod.ext hid hdefault

end Rule

namespace RuleRepository

variable {repository : RuleRepository} {id : String} {origin : Origin}

/-- Under what overrides a rule comes out differently with the same values bound to it. -/
theorem Origin.rule_ne_and_boundValues_eq_iff (origin : Origin) (id : String)
    (overrides others : Table String) :
    origin.rule id overrides ≠ origin.rule id others ∧
        (origin.rule id overrides).boundValues = (origin.rule id others).boundValues ↔
      ∃ name parameter, origin.binding = some (name, parameter) ∧
        parameter.source ≠ .override parameter.default ∧
        (overrides.get? name = none ∧ others.get? name = some parameter.default ∨
          overrides.get? name = some parameter.default ∧ others.get? name = none) := by
  rw [ne_eq, Origin.rule_eq_rule_iff]
  cases hbinding : origin.binding with
  | none => simp [Origin.parameter?, hbinding]
  | some bound =>
      obtain ⟨name, parameter⟩ := bound
      have hone := parameter.withOverride?_ne_and_default_eq_iff
        (overrides.get? name) (others.get? name)
      simpa [Rule.boundValues, Origin.parameter?, hbinding] using hone

/-- The rule set of a rule tells the values bound to it, and nothing else that overrides change. -/
theorem HasOrigin.contents_ofRule_eq_iff {other : String} {otherOrigin : Origin}
    (horigin : repository.HasOrigin id origin) (hother : repository.HasOrigin other otherOrigin)
    (overrides others : Table String) (ruleSet otherSet : String) :
    Property.contents (Property.ofRule ruleSet (origin.rule id overrides)) =
        Property.contents (Property.ofRule otherSet (otherOrigin.rule other others)) ↔
      (origin.rule id overrides).SameValues (otherOrigin.rule other others) := by
  constructor
  · exact fun hcontents => (Property.contents_ofRule_eq_iff.mp hcontents).sameValues
  · rintro ⟨hid, hvalues⟩
    obtain rfl : id = other := by simpa using hid
    obtain rfl : origin = otherOrigin := horigin.unique hother
    rw [Property.contents_ofRule, Property.contents_ofRule]
    cases hbinding : origin.binding with
    | none => simp [Origin.parameter?, hbinding]
    | some bound =>
        obtain ⟨name, parameter⟩ := bound
        have hdefault : (overrides.get? name).getD parameter.default =
            (others.get? name).getD parameter.default := by
          simpa [Rule.boundValues, Origin.parameter?, hbinding] using hvalues
        simp [Origin.parameter?, hbinding, Property.parameterContents, hdefault]

/-! ## Several lists -/

/-- One list restates the default value of the parameter that one of its rules is bound to, and
another list with that rule does not override the parameter. -/
def RestatesDefault (repository : RuleRepository) (batches : List (List String)) : Prop :=
  ∃ id origin name parameter, repository.HasOrigin id origin ∧
    origin.binding = some (name, parameter) ∧ parameter.source ≠ .override parameter.default ∧
    (∃ entries ∈ batches, id ∈ Override.ruleIds entries ∧
      Override.lastValue? name entries = none) ∧
    ∃ entries ∈ batches, id ∈ Override.ruleIds entries ∧
      Override.lastValue? name entries = some parameter.default

/-- Among the rules of several lists there are two that are different and have the same values bound
to them exactly when a default value is restated. -/
theorem exists_ne_sameValues_iff {batches : List (List String)} {rules : List Rule}
    (hload : repository.loadBatches batches = .ok rules) :
    (∃ first ∈ rules, ∃ second ∈ rules, first ≠ second ∧ first.SameValues second) ↔
      repository.RestatesDefault batches := by
  constructor
  · rintro ⟨first, hfirst, second, hsecond, hne, hid, hvalues⟩
    obtain ⟨entries, hentries, id, hmem, origin, horigin, rfl⟩ :=
      (mem_of_loadBatches_ok hload).mp hfirst
    obtain ⟨others, hothers, other, hmem', otherOrigin, hother, rfl⟩ :=
      (mem_of_loadBatches_ok hload).mp hsecond
    obtain rfl : id = other := by simpa using hid
    obtain rfl : origin = otherOrigin := horigin.unique hother
    obtain ⟨name, parameter, hbinding, hsource, hcases⟩ :=
      (origin.rule_ne_and_boundValues_eq_iff id _ _).mp ⟨hne, hvalues⟩
    rw [Override.get?_overrides, Override.get?_overrides] at hcases
    refine ⟨id, origin, name, parameter, horigin, hbinding, hsource, ?_⟩
    rcases hcases with ⟨hnone, hsome⟩ | ⟨hsome, hnone⟩
    · exact ⟨⟨entries, hentries, hmem, hnone⟩, others, hothers, hmem', hsome⟩
    · exact ⟨⟨others, hothers, hmem', hnone⟩, entries, hentries, hmem, hsome⟩
  · rintro ⟨id, origin, name, parameter, horigin, hbinding, hsource,
      ⟨entries, hentries, hmem, hnone⟩, others, hothers, hmem', hsome⟩
    have hfirst : origin.rule id (Override.overrides entries) ∈ rules :=
      (mem_of_loadBatches_ok hload).mpr ⟨entries, hentries, id, hmem, origin, horigin, rfl⟩
    have hsecond : origin.rule id (Override.overrides others) ∈ rules :=
      (mem_of_loadBatches_ok hload).mpr ⟨others, hothers, id, hmem', origin, horigin, rfl⟩
    rw [← Override.get?_overrides] at hnone hsome
    obtain ⟨hne, hvalues⟩ := (origin.rule_ne_and_boundValues_eq_iff id _ _).mpr
      ⟨name, parameter, hbinding, hsource, .inl ⟨hnone, hsome⟩⟩
    exact ⟨_, hfirst, _, hsecond, hne, by simp, hvalues⟩

/-- The rule set at a place among the properties of rules. -/
def ruleSetAt (rules : List Rule) (index : Nat) : List (String × String) :=
  Property.contents
    (Property.inRuleSet (ruleSetId index rules.length) (Property.ofRules rules))

/-- Two rules that come out have the same values bound to them exactly when their rule sets say the
same. -/
theorem ruleSetAt_eq_iff {batches : List (List String)} {rules : List Rule}
    (hload : repository.loadBatches batches = .ok rules) (first second : Fin rules.length) :
    ruleSetAt rules first = ruleSetAt rules second ↔
      (rules.get first).SameValues (rules.get second) := by
  obtain ⟨entries, -, id, -, origin, horigin, hrule⟩ :=
    (mem_of_loadBatches_ok hload).mp (rules.get_mem first)
  obtain ⟨others, -, other, -, otherOrigin, hother, hotherRule⟩ :=
    (mem_of_loadBatches_ok hload).mp (rules.get_mem second)
  unfold ruleSetAt
  rw [Property.inRuleSet_ofRules first.isLt, Property.inRuleSet_ofRules second.isLt,
    ← List.get_eq_getElem, ← List.get_eq_getElem, hrule, hotherRule]
  exact horigin.contents_ofRule_eq_iff hother _ _ _ _

/-- Several lists that load give a rule twice with the same values bound to it exactly when a
default value is restated, and exactly then two rule sets say the same. -/
theorem repeated_iff_restatesDefault {batches : List (List String)} {rules : List Rule}
    (hload : repository.loadBatches batches = .ok rules) :
    ((∃ first second : Fin rules.length, first < second ∧
        (rules.get first).SameValues (rules.get second)) ↔ repository.RestatesDefault batches) ∧
      ((∃ first second : Fin rules.length, first < second ∧
        ruleSetAt rules first = ruleSetAt rules second) ↔ repository.RestatesDefault batches) := by
  have hplaces : (∃ first second : Fin rules.length, first < second ∧
      (rules.get first).SameValues (rules.get second)) ↔ repository.RestatesDefault batches := by
    rw [← exists_ne_sameValues_iff hload]
    have hinjective := List.nodup_iff_injective_get.mp (nodup_of_loadBatches_ok hload)
    constructor
    · rintro ⟨first, second, hlt, hsame⟩
      exact ⟨_, rules.get_mem first, _, rules.get_mem second,
        fun heq => Fin.ne_of_lt hlt (hinjective heq), hsame⟩
    · rintro ⟨_, hfirst, _, hsecond, hne, hsame⟩
      obtain ⟨first, rfl⟩ := List.get_of_mem hfirst
      obtain ⟨second, rfl⟩ := List.get_of_mem hsecond
      have hindices : first ≠ second := by
        rintro rfl
        exact hne rfl
      rcases Fin.lt_or_lt_of_ne hindices with hlt | hlt
      · exact ⟨first, second, hlt, hsame⟩
      · exact ⟨second, first, hlt, hsame.symm⟩
  refine ⟨hplaces, ?_⟩
  simp only [ruleSetAt_eq_iff hload]
  exact hplaces

/-- Overriding the default value with itself in one of two lists gives both rules and rule sets
twice. -/
theorem repeated_of_restated_timeout :
    ∃ rules, Sample.repository.loadBatches [["tmout"], ["tmout", "timeout=600"]] = .ok rules ∧
      (∃ first second : Fin rules.length, first < second ∧
        (rules.get first).SameValues (rules.get second)) ∧
      ∃ first second : Fin rules.length, first < second ∧
        ruleSetAt rules first = ruleSetAt rules second := by
  have hunset : Override.lastValue? "timeout" ["tmout"] = none := by decide +kernel
  have hset : Override.lastValue? "timeout" ["tmout", "timeout=600"] = some "600" := by
    decide +kernel
  have hfirst : Override.ruleIds ["tmout"] = ["tmout"] := by decide +kernel
  have hsecond : Override.ruleIds ["tmout", "timeout=600"] = ["tmout"] := by decide +kernel
  have hsource : Sample.timeout.source ≠ .override Sample.timeout.default := by
    simp [Sample.timeout, Parameter.new]
  obtain ⟨origin, horigin, hbinding⟩ := Sample.hasOrigin_tmout
  have hrestated : Sample.repository.RestatesDefault [["tmout"], ["tmout", "timeout=600"]] :=
    ⟨"tmout", origin, "timeout", Sample.timeout, horigin, hbinding, hsource,
      ⟨["tmout"], by simp, by simp [hfirst], hunset⟩,
      ⟨["tmout", "timeout=600"], by simp, by simp [hsecond], hset⟩⟩
  have hload : ∃ rules, Sample.repository.loadBatches [["tmout"], ["tmout", "timeout=600"]] =
      .ok rules := by
    refine ⟨_, loadBatches_eq_ok_iff.mpr ⟨?_, rfl⟩⟩
    simp only [load_eq_ok_iff, exists_loadBatch_ok_iff]
    simp [hfirst, hsecond, Sample.loads_tmout]
  obtain ⟨rules, hload⟩ := hload
  obtain ⟨hrules, hruleSets⟩ := repeated_iff_restatesDefault hload
  exact ⟨rules, hload, hrules.mpr hrestated, hruleSets.mpr hrestated⟩

/-- That no rule comes out twice with the same values is false. -/
theorem not_forall_not_sameValues :
    ¬ ∀ (batches : List (List String)) (rules : List Rule),
      Sample.repository.loadBatches batches = .ok rules →
        ∀ first second : Fin rules.length, first < second →
          ¬ (rules.get first).SameValues (rules.get second) := by
  intro hall
  have hvalues : (Sample.repository.loadBatches [["tmout"], ["tmout", "timeout=600"]]).toOption.map
      (List.map fun rule => (rule.id, rule.boundValues)) =
        some [("tmout", [("timeout", "600")]), ("tmout", [("timeout", "600")])] := by
    decide +kernel
  obtain ⟨rules, hload, hpairs⟩ := Except.exists_ok_of_map_toOption_eq_some hvalues
  obtain ⟨first, others, rfl, hfirst, hothers⟩ := List.map_eq_cons_iff.mp hpairs
  obtain ⟨second, rest, rfl, hsecond, -⟩ := List.map_eq_cons_iff.mp hothers
  obtain ⟨hfirstId, hfirstValues⟩ := Prod.ext_iff.mp hfirst
  obtain ⟨hsecondId, hsecondValues⟩ := Prod.ext_iff.mp hsecond
  have hzero : 0 < (first :: second :: rest).length := by simp
  have hone : 1 < (first :: second :: rest).length := by simp
  exact hall _ _ hload ⟨0, hzero⟩ ⟨1, hone⟩ Nat.zero_lt_one
    ⟨hfirstId.trans hsecondId.symm, hfirstValues.trans hsecondValues.symm⟩

end RuleRepository

end Compliance
