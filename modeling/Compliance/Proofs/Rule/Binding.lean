import Compliance.Proofs.Parameter.Store
import Compliance.Proofs.Rule.Batch

/-!
# The parameters of loaded rules

A rule has at most one parameter.  It is the stored one, and the only thing that a list
of rules can do to it is to give it another default value: its description and its
options are those of the definition, and it remembers the default value that the
definition chose.

The value that is remembered is the one in the store, since every rule gets its own copy
of the stored parameter (`exists_parameters_eq`).  No override ever sees the outcome of
another one, however many of them a list has and however many rules share the parameter.
-/

namespace Compliance

/-- A parameter of a rule as its definition says, but for the default value that the last override
in a list of rules gives it. -/
structure Parameter.KeepsDefinition (parameter : Parameter) (store : ParameterStore)
    (entries : List String) : Prop where
  stored : ∃ defined, store.get parameter.id = .ok defined ∧ defined.id = parameter.id ∧
    defined.description = parameter.description ∧ defined.options = parameter.options
  chosen : ∃ option, parameter.options.get? "default" = some option ∧
    (Override.Omits entries parameter.id ∧ parameter.source = .definition ∧
        parameter.default = option ∨
      ∃ value, Override.SetsLast entries parameter.id value ∧
        parameter.source = .override option ∧ parameter.default = value)

theorem Parameter.IsDefined.keepsDefinition {store : ParameterStore} {defined : Parameter}
    {id : String} (hdefined : defined.IsDefined id) (hget : Table.get? store id = some defined)
    (entries : List String) :
    (defined.withOverride? (Override.lastValue? id entries)).KeepsDefinition store entries := by
  obtain ⟨rfl, hchosen, huntouched⟩ := hdefined
  have hstored : store.get defined.id = .ok defined := ParameterStore.get_eq_ok_iff.mpr hget
  refine ⟨⟨defined, by simpa using hstored, by simp, by simp, by simp⟩, ?_⟩
  refine ⟨defined.default, by rwa [options_withOverride?], ?_⟩
  cases hvalue : Override.lastValue? defined.id entries with
  | none => exact .inl ⟨Override.lastValue?_eq_none_iff.mp hvalue, huntouched, rfl⟩
  | some value => exact .inr ⟨value, Override.lastValue?_eq_some_iff.mp hvalue, rfl, rfl⟩

namespace RuleRepository

variable {repository : RuleRepository} {entries : List String} {rules : List Rule} {rule : Rule}

/-- A rule of a list has no parameter, or a stored one with the last override in the list. -/
theorem exists_parameters_eq (hload : repository.load entries = .ok rules) (hrule : rule ∈ rules) :
    rule.parameters = [] ∨ ∃ name defined, Table.get? repository.parameters name = some defined ∧
      rule.parameters = [defined.withOverride? (Override.lastValue? name entries)] := by
  obtain ⟨id, -, origin, horigin, rfl⟩ :=
    (mem_of_loadBatch_ok (load_eq_ok_iff.mp hload)).mp hrule
  rw [Origin.parameters_rule]
  cases hbinding : origin.binding with
  | none =>
      rw [Origin.parameter?_of_unbound hbinding]
      exact .inl rfl
  | some bound =>
      obtain ⟨name, defined⟩ := bound
      refine .inr ⟨name, defined, horigin.stored name defined hbinding, ?_⟩
      rw [Origin.parameter?_of_bound hbinding, Override.get?_overrides]
      rfl

/-- A rule has at most one parameter.  If the store was read from files, the parameter is as its
definition says: only its default value can be another one, and then it is the value of the last
override in the list, and the parameter remembers the value that its definition chose. -/
theorem loaded_parameters_keep_definition {files : FileSystem} {product : Product} {root : Path}
    (hstore : ParameterStore.loadFrom files product root = .ok repository.parameters)
    (hload : repository.load entries = .ok rules) (hrule : rule ∈ rules) :
    rule.parameters.length ≤ 1 ∧
      ∀ parameter ∈ rule.parameters,
        parameter.KeepsDefinition repository.parameters entries := by
  have hdefined : ParameterStore.IsDefined repository.parameters :=
    ParameterStore.isDefined_of_loadFrom hstore
  rcases exists_parameters_eq hload hrule with hnone | ⟨name, defined, hget, hone⟩
  · simp [hnone]
  · rw [hone]
    refine ⟨Nat.le_refl 1, fun parameter hparameter => ?_⟩
    obtain rfl := List.mem_singleton.mp hparameter
    exact (hdefined name defined hget).keepsDefinition hget entries

end RuleRepository

/-! ## A store that is read from files -/

namespace Sample

/-- The rules of the sample, with the definition of their parameter beside them. -/
def contentFiles : FileSystem :=
  { root := .directory (("guide", .directory
      [("timeout.var", .file (some "options:\n  default: 600"))]) :: rules),
    working := [] }

def contentRepository (parameters : ParameterStore) : RuleRepository :=
  { repository with files := contentFiles, parameters := parameters }

/-- The rules of a list when the parameters are read from the files first. -/
def loadAfresh (entries : List String) : Except Failure (ParameterStore × List Rule) := do
  let parameters ← ParameterStore.loadFrom contentFiles repository.product "/guide"
  let rules ← (contentRepository parameters).load entries
  return (parameters, rules)

theorem parameters_loadAfresh :
    (loadAfresh ["timeout=300", "tmout", "timeout=900"]).toOption.map
        (fun loaded => loaded.2.map Rule.parameters) =
      some [[⟨"timeout", "", "900", (∅ : Table String).insert "default" "600",
        .override "600"⟩]] := by
  decide +kernel

end Sample

theorem RuleRepository.loaded_parameters_keep_definition_of_two_overrides :
    ∃ store rule parameter,
      ParameterStore.loadFrom Sample.contentFiles Sample.repository.product "/guide" = .ok store ∧
      (Sample.contentRepository store).load ["timeout=300", "tmout", "timeout=900"] =
        .ok [rule] ∧
      rule.parameters = [parameter] ∧ parameter.source = .override "600" ∧
      parameter.KeepsDefinition store ["timeout=300", "tmout", "timeout=900"] := by
  obtain ⟨⟨store, rules⟩, hloaded, hparameters⟩ :=
    Except.exists_ok_of_map_toOption_eq_some Sample.parameters_loadAfresh
  obtain ⟨_, hstore, hloaded⟩ := Except.bind_eq_ok_iff.mp hloaded
  obtain ⟨_, hload, hpair⟩ := Except.bind_eq_ok_iff.mp hloaded
  obtain ⟨rfl, rfl⟩ := Prod.mk.inj (Except.ok.inj hpair)
  obtain ⟨rule, others, rfl, hone, hothers⟩ := List.map_eq_cons_iff.mp hparameters
  obtain rfl := List.map_eq_nil_iff.mp hothers
  obtain ⟨-, hkeep⟩ := RuleRepository.loaded_parameters_keep_definition hstore hload
    (List.mem_singleton_self rule)
  refine ⟨_, rule, _, hstore, hload, hone, rfl, hkeep _ ?_⟩
  rw [hone]
  exact List.mem_singleton_self _

end Compliance
