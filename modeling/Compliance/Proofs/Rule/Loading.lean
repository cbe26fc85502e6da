import Compliance.Proofs.Except
import Compliance.Proofs.Rule.Definition
import Compliance.Proofs.Rule.Override
import Compliance.Rule.Repository

/-!
# What loading one rule comes to

A repository either has an origin for a rule or something is missing.  An origin
is everything that the rule is loaded from before any override is looked at: the
directory, the definition in it and the stored parameter that the definition
names.  The overrides of a list of rules do one thing only: they set the default
value of that parameter.

* `HasOrigin` says when a repository has an origin for a rule, and `Fails` says
  what is missing when it has none; neither mentions overrides.
* `loadRule_eq_ok_iff` and `loadRule_eq_error_iff` say that loading follows them,
  so that later modules never open `loadRule`.
-/

namespace Compliance

namespace Parameter

/-- The parameter with the value of an override as its default value, if there is one. -/
def withOverride? (parameter : Parameter) : Option String → Parameter
  | none => parameter
  | some value => parameter.withOverride value

variable (parameter : Parameter) (value : Option String)

@[simp] theorem id_withOverride? : (parameter.withOverride? value).id = parameter.id := by
  cases value <;> rfl

@[simp] theorem description_withOverride? :
    (parameter.withOverride? value).description = parameter.description := by
  cases value <;> rfl

@[simp] theorem options_withOverride? :
    (parameter.withOverride? value).options = parameter.options := by
  cases value <;> rfl

@[simp] theorem optionsText_withOverride? :
    (parameter.withOverride? value).optionsText = parameter.optionsText := by
  cases value <;> rfl

@[simp] theorem default_withOverride? :
    (parameter.withOverride? value).default = value.getD parameter.default := by
  cases value <;> rfl

end Parameter

namespace RuleRepository

/-! ## Origins -/

/-- What a rule is loaded from: its directory, its definition and, under the name that the
definition has for it, the stored parameter that the rule is bound to. -/
structure Origin where
  directory : Path
  definition : RuleDefinition
  binding : Option (String × Parameter)

/-- A repository has an origin for a rule: a source knows its directory, there is a definition in
it, the definition describes the rule, and the parameter that it names, if any, is stored. -/
structure HasOrigin (repository : RuleRepository) (id : String) (origin : Origin) : Prop where
  located : repository.locator.locate id = some origin.directory
  read : RuleDefinition.load repository.files repository.product origin.directory =
    .ok origin.definition
  described : origin.definition.cleanDescription ≠ ""
  named : ∀ name, origin.definition.NamesParameter name ↔
    ∃ parameter, origin.binding = some (name, parameter)
  stored : ∀ name parameter, origin.binding = some (name, parameter) →
    Table.get? repository.parameters name = some parameter

/-- A rule loads if the repository has an origin for it. -/
def Loads (repository : RuleRepository) (id : String) : Prop :=
  ∃ origin, repository.HasOrigin id origin

/-- Why a rule does not load: the first thing that is missing. -/
inductive Fails (repository : RuleRepository) (id : String) : RuleFailure → Prop where
  | notFound (hlocate : repository.locator.locate id = none) :
      Fails repository id (.notFound id)
  | unusable {directory : Path} {fault : ContentFault}
      (hlocate : repository.locator.locate id = some directory)
      (hload : RuleDefinition.load repository.files repository.product directory = .error fault) :
      Fails repository id (.loadFailed id (.content fault))
  | undescribed {directory : Path} {definition : RuleDefinition}
      (hlocate : repository.locator.locate id = some directory)
      (hload : RuleDefinition.load repository.files repository.product directory = .ok definition)
      (hempty : definition.cleanDescription = "") :
      Fails repository id (.loadFailed id (.words "rule has no description"))
  | parameterNotFound {directory : Path} {definition : RuleDefinition} {name : String}
      (hlocate : repository.locator.locate id = some directory)
      (hload : RuleDefinition.load repository.files repository.product directory = .ok definition)
      (hdescribed : definition.cleanDescription ≠ "")
      (hname : definition.NamesParameter name)
      (hunknown : Table.get? repository.parameters name = none) :
      Fails repository id (.parameterNotFound id name)

variable {repository : RuleRepository} {id : String}

theorem HasOrigin.parameter?_eq {origin : Origin} (horigin : repository.HasOrigin id origin) :
    origin.definition.parameter? = origin.binding.map (·.1) :=
  RuleDefinition.parameter?_eq_map_iff.mpr horigin.named

/-- A repository has one origin for a rule at most. -/
theorem HasOrigin.unique {first second : Origin} (hfirst : repository.HasOrigin id first)
    (hsecond : repository.HasOrigin id second) : first = second := by
  obtain ⟨directory, definition, binding⟩ := first
  obtain ⟨otherDirectory, otherDefinition, otherBinding⟩ := second
  obtain rfl : directory = otherDirectory :=
    Option.some.inj (hfirst.located.symm.trans hsecond.located)
  obtain rfl : definition = otherDefinition :=
    Except.ok.inj (hfirst.read.symm.trans hsecond.read)
  have hname : binding.map (·.1) = otherBinding.map (·.1) :=
    hfirst.parameter?_eq.symm.trans hsecond.parameter?_eq
  -- the names agree by the definition, and the parameters because both are stored under the name
  cases binding with
  | none =>
      cases otherBinding with
      | none => rfl
      | some _ => simp at hname
  | some bound =>
      cases otherBinding with
      | none => simp at hname
      | some otherBound =>
          obtain ⟨name, parameter⟩ := bound
          obtain ⟨otherName, otherParameter⟩ := otherBound
          obtain rfl : name = otherName := by simpa using hname
          have hstored := hfirst.stored name parameter rfl
          rw [hsecond.stored name otherParameter rfl] at hstored
          rw [Option.some.inj hstored]

/-- A failure names its rule. -/
theorem Fails.rule_eq {failure : RuleFailure} (hfails : repository.Fails id failure) :
    failure.rule = id := by
  cases hfails <;> rfl

/-! ## The rule that comes of an origin -/

/-- The references of a definition change nothing else in a rule. -/
theorem exists_unbound_eq (id : String) (directory : Path) (definition : RuleDefinition) :
    ∃ references, unbound id directory definition =
      { id, directory, description := definition.cleanDescription,
        severity := definition.severity, references, parameters := [] } := by
  -- one standard after the other, so that the induction goes through for any rule to start from
  have hfold : ∀ (standards : List String) (rule : Rule), ∃ references,
      standards.foldl (fun rule standard =>
        rule.withReferences standard (definition.referencesTo standard)) rule =
        { rule with references } := by
    intro standards
    induction standards with
    | nil => exact fun rule => ⟨rule.references, rfl⟩
    | cons standard rest ih =>
        intro rule
        obtain ⟨references, hrest⟩ :=
          ih (rule.withReferences standard (definition.referencesTo standard))
        refine ⟨references, ?_⟩
        rw [List.foldl_cons, hrest]
        unfold Rule.withReferences
        split <;> rfl
  exact hfold definition.standards _

section

variable (id : String) (directory : Path) (definition : RuleDefinition)

@[simp] theorem id_unbound : (unbound id directory definition).id = id := by
  obtain ⟨_, hrule⟩ := exists_unbound_eq id directory definition
  rw [hrule]

@[simp] theorem description_unbound :
    (unbound id directory definition).description = definition.cleanDescription := by
  obtain ⟨_, hrule⟩ := exists_unbound_eq id directory definition
  rw [hrule]

@[simp] theorem parameters_unbound : (unbound id directory definition).parameters = [] := by
  obtain ⟨_, hrule⟩ := exists_unbound_eq id directory definition
  rw [hrule]

end

/-- The parameter of an origin as overrides make it. -/
def Origin.parameter? (origin : Origin) (overrides : Table String) : Option Parameter :=
  origin.binding.map fun (name, parameter) => parameter.withOverride? (overrides.get? name)

/-- The rule that comes of an origin under overrides. -/
def Origin.rule (origin : Origin) (id : String) (overrides : Table String) : Rule :=
  { unbound id origin.directory origin.definition with
    parameters := (origin.parameter? overrides).toList }

section

variable (origin : Origin) (id : String) (overrides : Table String)

@[simp] theorem Origin.id_rule : (origin.rule id overrides).id = id :=
  id_unbound id origin.directory origin.definition

@[simp] theorem Origin.description_rule :
    (origin.rule id overrides).description = origin.definition.cleanDescription :=
  description_unbound id origin.directory origin.definition

@[simp] theorem Origin.parameters_rule :
    (origin.rule id overrides).parameters = (origin.parameter? overrides).toList :=
  rfl

end

theorem Origin.parameter?_of_unbound {origin : Origin} (hbinding : origin.binding = none)
    (overrides : Table String) : origin.parameter? overrides = none := by
  rw [Origin.parameter?, hbinding]
  rfl

theorem Origin.parameter?_of_bound {origin : Origin} {name : String} {parameter : Parameter}
    (hbinding : origin.binding = some (name, parameter)) (overrides : Table String) :
    origin.parameter? overrides = some (parameter.withOverride? (overrides.get? name)) := by
  rw [Origin.parameter?, hbinding]
  rfl

/-- Under other overrides a rule has another parameter, or it is the same rule. -/
theorem Origin.rule_eq_rule_iff {origin : Origin} {overrides others : Table String} :
    origin.rule id overrides = origin.rule id others ↔
      origin.parameter? overrides = origin.parameter? others := by
  constructor
  · intro hrule
    have hlist : (origin.parameter? overrides).toList = (origin.parameter? others).toList :=
      congrArg Rule.parameters hrule
    simpa using congrArg List.head? hlist
  · intro hparameter
    rw [Origin.rule, Origin.rule, hparameter]

/-! ## Loading follows the origin -/

/-- A rule with an origin loads. -/
theorem HasOrigin.loadRule {origin : Origin} (horigin : repository.HasOrigin id origin)
    (overrides : Table String) :
    repository.loadRule overrides id = .ok (origin.rule id overrides) := by
  obtain ⟨directory, definition, binding⟩ := origin
  have hlocate : repository.locator.locate id = some directory := horigin.located
  have hload : RuleDefinition.load repository.files repository.product directory =
    .ok definition := horigin.read
  have hdescribed : definition.cleanDescription ≠ "" := horigin.described
  cases binding with
  | none =>
      have hname : definition.parameter? = none := horigin.parameter?_eq
      simp only [RuleRepository.loadRule, hlocate, hload, hdescribed, hname, ↓reduceIte]
      congr 1
      obtain ⟨_, hrule⟩ := exists_unbound_eq id directory definition
      rw [Origin.rule, hrule]
      rfl
  | some bound =>
      obtain ⟨name, parameter⟩ := bound
      have hname : definition.parameter? = some name := horigin.parameter?_eq
      have hstored : Table.get? repository.parameters name = some parameter :=
        horigin.stored name parameter rfl
      simp only [RuleRepository.loadRule, hlocate, hload, hdescribed, hname, hstored, ↓reduceIte]
      congr 1
      obtain ⟨_, hrule⟩ := exists_unbound_eq id directory definition
      rw [Origin.rule, hrule]
      cases hvalue : overrides.get? name <;>
        simp [Rule.withParameter, Origin.parameter?, hvalue, Parameter.withOverride?]

/-- A rule for which something is missing does not load. -/
theorem Fails.loadRule {failure : RuleFailure} (hfails : repository.Fails id failure)
    (overrides : Table String) : repository.loadRule overrides id = .error failure := by
  cases hfails with
  | notFound hlocate => simp [RuleRepository.loadRule, hlocate]
  | unusable hlocate hload => simp [RuleRepository.loadRule, hlocate, hload]
  | undescribed hlocate hload hempty => simp [RuleRepository.loadRule, hlocate, hload, hempty]
  | parameterNotFound hlocate hload hdescribed hname hunknown =>
      simp [RuleRepository.loadRule, hlocate, hload, hdescribed,
        RuleDefinition.parameter?_eq_some_iff.mpr hname, hunknown]

/-- There is an origin, or something is missing. -/
theorem exists_origin_or_failure (repository : RuleRepository) (id : String) :
    repository.Loads id ∨ ∃ failure, repository.Fails id failure := by
  cases hlocate : repository.locator.locate id with
  | none => exact .inr ⟨_, .notFound hlocate⟩
  | some directory =>
      cases hload : RuleDefinition.load repository.files repository.product directory with
      | error fault => exact .inr ⟨_, .unusable hlocate hload⟩
      | ok definition =>
          by_cases hempty : definition.cleanDescription = ""
          · exact .inr ⟨_, .undescribed hlocate hload hempty⟩
          · cases hname : definition.parameter? with
            | none =>
                exact .inl ⟨⟨directory, definition, none⟩, hlocate, hload, hempty,
                  RuleDefinition.parameter?_eq_map_iff.mp hname, by simp⟩
            | some name =>
                cases hstored : Table.get? repository.parameters name with
                | none =>
                    exact .inr ⟨_, .parameterNotFound hlocate hload hempty
                      (RuleDefinition.parameter?_eq_some_iff.mp hname) hstored⟩
                | some parameter =>
                    refine .inl ⟨⟨directory, definition, some (name, parameter)⟩,
                      hlocate, hload, hempty, RuleDefinition.parameter?_eq_map_iff.mp hname, ?_⟩
                    rintro _ _ ⟨⟩
                    exact hstored

/-- What loads is the rule that comes of the origin. -/
theorem loadRule_eq_ok_iff {overrides : Table String} {rule : Rule} :
    repository.loadRule overrides id = .ok rule ↔
      ∃ origin, repository.HasOrigin id origin ∧ rule = origin.rule id overrides := by
  constructor
  · intro hload
    rcases exists_origin_or_failure repository id with ⟨origin, horigin⟩ | ⟨failure, hfails⟩
    · rw [horigin.loadRule overrides] at hload
      exact ⟨origin, horigin, (Except.ok.inj hload).symm⟩
    · rw [hfails.loadRule overrides] at hload
      cases hload
  · rintro ⟨origin, horigin, rfl⟩
    exact horigin.loadRule overrides

/-- What does not load fails for what is missing, whatever the overrides. -/
theorem loadRule_eq_error_iff {overrides : Table String} {failure : RuleFailure} :
    repository.loadRule overrides id = .error failure ↔ repository.Fails id failure := by
  constructor
  · intro hload
    rcases exists_origin_or_failure repository id with ⟨origin, horigin⟩ | ⟨other, hfails⟩
    · rw [horigin.loadRule overrides] at hload
      cases hload
    · rw [hfails.loadRule overrides] at hload
      obtain rfl : other = failure := Except.error.inj hload
      exact hfails
  · exact fun hfails => hfails.loadRule overrides

/-- A rule fails in one way at most. -/
theorem Fails.unique {first second : RuleFailure} (hfirst : repository.Fails id first)
    (hsecond : repository.Fails id second) : first = second :=
  Except.error.inj ((hfirst.loadRule ∅).symm.trans (hsecond.loadRule ∅))

/-- A rule does not load exactly when something is missing. -/
theorem not_loads_iff : ¬ repository.Loads id ↔ ∃ failure, repository.Fails id failure := by
  constructor
  · exact fun hloads => (exists_origin_or_failure repository id).resolve_left hloads
  · rintro ⟨failure, hfails⟩ ⟨origin, horigin⟩
    have hload := hfails.loadRule ∅
    rw [horigin.loadRule ∅] at hload
    cases hload

/-- Whether a rule loads can be tried out without overrides. -/
theorem isOk_loadRule_iff : (repository.loadRule ∅ id).isOk ↔ repository.Loads id := by
  rcases exists_origin_or_failure repository id with ⟨origin, horigin⟩ | ⟨failure, hfails⟩
  · rw [horigin.loadRule ∅]
    exact ⟨fun _ => ⟨origin, horigin⟩, fun _ => rfl⟩
  · rw [hfails.loadRule ∅]
    simpa [Except.isOk, Except.toBool] using not_loads_iff.mpr ⟨failure, hfails⟩

instance : DecidablePred repository.Loads := fun _ => decidable_of_iff _ isOk_loadRule_iff

end RuleRepository

/-! ## A repository to look at -/

namespace Sample

/-- The directories of two rules, of which one has a parameter and the other no description. -/
def rules : FileTree.Entries :=
  [("tmout", .directory [("rule.yml", .file (some
      "description: End idle sessions\ntemplate:\n  vars:\n    xccdf_variable: timeout"))]),
    ("banner", .directory [("rule.yml", .file (some "title: Show a banner"))])]

def files : FileSystem := { root := .directory rules, working := [] }

def timeout : Parameter :=
  Parameter.new "timeout" "Seconds until a session ends" "600"
    ((∅ : Table String).insert "default" "600")

def repository : RuleRepository :=
  { files
    product := Product.new "server" "/"
    parameters := ParameterStore.add ∅ timeout
    locator := [.index (Table.ofList [("tmout", "/tmout"), ("banner", "/banner")])] }

/-- The rule on sessions is bound to its parameter. -/
theorem hasOrigin_tmout : ∃ origin, repository.HasOrigin "tmout" origin ∧
    origin.binding = some ("timeout", timeout) := by
  have hread : (RuleDefinition.load files repository.product "/tmout").toOption.map
      (fun definition => (definition.cleanDescription, definition.parameter?)) =
        some ("End idle sessions", some "timeout") := by
    decide +kernel
  obtain ⟨definition, hload, hseen⟩ := Except.exists_ok_of_map_toOption_eq_some hread
  obtain ⟨hdescription, hname⟩ : definition.cleanDescription = "End idle sessions" ∧
      definition.parameter? = some "timeout" := by
    simpa using hseen
  have hdescribed : definition.cleanDescription ≠ "" := by
    rw [hdescription]
    decide
  have hlocate : repository.locator.locate "tmout" = some "/tmout" := by decide +kernel
  refine ⟨⟨"/tmout", definition, some ("timeout", timeout)⟩, ?_, rfl⟩
  refine ⟨hlocate, hload, hdescribed, RuleDefinition.parameter?_eq_map_iff.mp hname, ?_⟩
  rintro _ _ ⟨⟩
  decide +kernel

theorem loads_tmout : repository.Loads "tmout" := by
  obtain ⟨origin, horigin, -⟩ := hasOrigin_tmout
  exact ⟨origin, horigin⟩

theorem not_loads_banner : ¬ repository.Loads "banner" := by decide +kernel

theorem not_loads_sudo : ¬ repository.Loads "sudo" := by decide +kernel

end Sample

end Compliance
