import Compliance.Generator
import Compliance.Proofs.Parameter.Store
import Compliance.Proofs.Rule.Batches
import Compliance.Proofs.RuleSet

/-!
# What a generated definition refers to

A component names rules in two places that are filled independently.  Its
requirements name the rules of their lists as they stand there.  Its properties
come from the rules that were loaded for all lists, without repetitions.

The two agree because the rules that are loaded are exactly those that some list
names (`mem_of_loadBatches_ok`), and because leaving out a rule that came out before
never leaves out what it says.  So each requirement finds, for each of its rules,
a rule set with the value that its own list gives to the parameter, whatever the
other lists say (`Reflects`).
-/

namespace Compliance

/-! ## Setting up -/

namespace Generator

variable {resolve : Profile → Except Failure (List Control)} {files : FileSystem}
  {settings : GeneratorSettings} {generator : Generator}

/-- What a generator that was set up for settings consists of. -/
structure IsSetUp (resolve : Profile → Except Failure (List Control)) (files : FileSystem)
    (settings : GeneratorSettings) (generator : Generator) : Prop where
  profile : generator.profile = Profile.ofName settings.profile settings.vendor
  index : ∃ controls, resolve generator.profile = .ok controls ∧
    generator.index = CatalogIndex.build controls
  product : loadProduct files settings = .ok generator.product
  policies : loadPolicies files generator.product (settings.root.join controlsDirectory) =
    .ok generator.policies
  known : (generator.policies.policy? settings.policy).isSome
  parameters : ParameterStore.load files generator.product = .ok generator.parameters
  locator : RuleLocator.forProduct files generator.product settings.ruleIndex =
    .ok generator.locator
  policyId : generator.policyId = settings.policy

theorem setUpWith_eq_ok_iff :
    setUpWith resolve files settings = .ok generator ↔
      IsSetUp resolve files settings generator := by
  constructor
  · intro hsetUp
    obtain ⟨controls, hresolve, hsetUp⟩ := Except.bind_eq_ok_iff.mp hsetUp
    obtain ⟨product, hproduct, hsetUp⟩ := Except.bind_eq_ok_iff.mp hsetUp
    obtain ⟨policies, hpolicies, hsetUp⟩ := Except.bind_eq_ok_iff.mp hsetUp
    split at hsetUp
    · cases hsetUp
    · rename_i hknown
      obtain ⟨parameters, hparameters, hsetUp⟩ := Except.bind_eq_ok_iff.mp hsetUp
      obtain ⟨locator, hlocator, hsetUp⟩ := Except.bind_eq_ok_iff.mp hsetUp
      obtain rfl := Except.ok.inj hsetUp
      exact
        { profile := rfl
          index := ⟨controls, hresolve, rfl⟩
          product := hproduct
          policies := hpolicies
          known := by simpa [Option.isSome_iff_ne_none] using hknown
          parameters := hparameters
          locator := hlocator
          policyId := rfl }
  · intro hsetUp
    obtain ⟨controls, hresolve, hindex⟩ := hsetUp.index
    rw [hsetUp.profile] at hresolve
    refine Except.bind_eq_ok_iff.mpr ⟨controls, hresolve, ?_⟩
    refine Except.bind_eq_ok_iff.mpr ⟨generator.product, hsetUp.product, ?_⟩
    refine Except.bind_eq_ok_iff.mpr ⟨generator.policies, hsetUp.policies, ?_⟩
    rw [if_neg (by simpa [Option.isSome_iff_ne_none] using hsetUp.known)]
    refine Except.bind_eq_ok_iff.mpr ⟨generator.parameters, hsetUp.parameters, ?_⟩
    refine Except.bind_eq_ok_iff.mpr ⟨generator.locator, hsetUp.locator, ?_⟩
    rw [← hindex, ← hsetUp.profile, ← hsetUp.policyId]
    rfl

/-- The parameters of a generator are as they are defined. -/
theorem IsSetUp.isDefined_parameters (hsetUp : IsSetUp resolve files settings generator) :
    generator.parameters.IsDefined :=
  ParameterStore.isDefined_of_loadFrom hsetUp.parameters

end Generator

/-! ## Requirements and their entries -/

theorem Implementation.isEmpty_ofControls_iff (index : CatalogIndex) (policyId source : String)
    (controls : List PolicyControl) :
    (ofControls index policyId source controls).isEmpty ↔
      ∀ control ∈ controls, index.resolve control.id = none := by
  simp [isEmpty, ofControls, requirement?]

/-- A requirement names its rules as such, and in no other property. -/
theorem RequirementEntry.ruleId_mem_propertiesOf {requirement : Requirement} {id : String} :
    ⟨Property.ruleId, id⟩ ∈ propertiesOf requirement ↔ id ∈ requirement.ruleIds := by
  simp [propertiesOf, Property.ruleId, stateName]

theorem map_properties_requirementEntries (stamp : Stamp) (start : Nat)
    (requirements : List Requirement) :
    (requirementEntries stamp start requirements).map RequirementEntry.properties =
      requirements.map RequirementEntry.propertiesOf := by
  induction requirements generalizing start with
  | nil => rfl
  | cons requirement others ih =>
      rw [requirementEntries, List.map_cons, List.map_cons, ih]
      rfl

/-- The entries of all control implementations of a component. -/
def Component.requirements (component : Component) : List RequirementEntry :=
  component.implementations.flatMap ImplementationEntry.requirements

/-! ## Rule sets -/

/-- Properties say what a list of rules binds to one of its rules: the identifier of the rule and,
if the rule has a parameter, its name and the value that the list gives to it in the end. -/
structure Reflects (repository : RuleRepository) (entries : List String) (id : String)
    (properties : List Property) : Prop where
  rule : Property.valuesOf Property.ruleId properties = [id]
  parameter : ∃ origin, repository.HasOrigin id origin ∧
    Property.valuesOf Property.parameterId properties =
      (origin.binding.map fun bound => bound.1).toList ∧
    Property.valuesOf Property.parameterDefault properties =
      (origin.binding.map fun bound =>
        (Override.lastValue? bound.1 entries).getD bound.2.default).toList

/-- The properties of a rule say what the list it was loaded for binds to it. -/
theorem reflects_ofRule {repository : RuleRepository} {id : String} {origin : RuleRepository.Origin}
    (horigin : repository.HasOrigin id origin) (hstore : repository.parameters.IsDefined)
    (entries : List String) (ruleSet : String) :
    Reflects repository entries id
      (Property.ofRule ruleSet (origin.rule id (Override.overrides entries))) where
  rule := by rw [Property.valuesOf_ruleId_ofRule, RuleRepository.Origin.id_rule]
  parameter := by
    refine ⟨origin, horigin, ?_, ?_⟩
    · rw [Property.valuesOf_parameterId_ofRule, RuleRepository.Origin.parameters_rule]
      cases hbinding : origin.binding with
      | none => simp [RuleRepository.Origin.parameter?, hbinding]
      | some bound =>
          obtain ⟨name, parameter⟩ := bound
          have hid : parameter.id = name :=
            (hstore name parameter (horigin.stored name parameter hbinding)).identified
          simp [RuleRepository.Origin.parameter?, hbinding, hid]
    · rw [Property.valuesOf_parameterDefault_ofRule, RuleRepository.Origin.parameters_rule]
      cases hbinding : origin.binding with
      | none => simp [RuleRepository.Origin.parameter?, hbinding]
      | some bound => simp [RuleRepository.Origin.parameter?, hbinding]

section

variable {repository : RuleRepository} {requirements : List Requirement} {rules : List Rule}

/-- The rules that are named are those of the requirements. -/
theorem mem_valuesOf_ruleId_ofRules
    (hload : repository.loadBatches (requirements.map Requirement.rules) = .ok rules)
    {id : String} :
    id ∈ Property.valuesOf Property.ruleId (Property.ofRules rules) ↔
      ∃ requirement ∈ requirements, id ∈ requirement.ruleIds := by
  rw [Property.valuesOf_ruleId_ofRules, List.mem_map]
  constructor
  · rintro ⟨rule, hrule, rfl⟩
    obtain ⟨entries, hentries, id, hid, origin, -, rfl⟩ :=
      (RuleRepository.mem_of_loadBatches_ok hload).mp hrule
    obtain ⟨requirement, hrequirement, rfl⟩ := List.mem_map.mp hentries
    rw [RuleRepository.Origin.id_rule]
    exact ⟨requirement, hrequirement, hid⟩
  · rintro ⟨requirement, hrequirement, hid⟩
    have hentries := List.mem_map_of_mem (f := Requirement.rules) hrequirement
    obtain ⟨origin, horigin⟩ := RuleRepository.loads_of_loadBatches_ok hload hentries hid
    refine ⟨_, (RuleRepository.mem_of_loadBatches_ok hload).mpr
      ⟨_, hentries, id, hid, origin, horigin, rfl⟩, ?_⟩
    rw [RuleRepository.Origin.id_rule]

/-- Each requirement finds a rule set for each of its rules. -/
theorem exists_reflects_of_mem_ruleIds
    (hload : repository.loadBatches (requirements.map Requirement.rules) = .ok rules)
    (hstore : repository.parameters.IsDefined) {requirement : Requirement}
    (hrequirement : requirement ∈ requirements) {id : String} (hid : id ∈ requirement.ruleIds) :
    ∃ ruleSet, Reflects repository requirement.rules id
      (Property.inRuleSet ruleSet (Property.ofRules rules)) := by
  have hentries := List.mem_map_of_mem (f := Requirement.rules) hrequirement
  obtain ⟨origin, horigin⟩ := RuleRepository.loads_of_loadBatches_ok hload hentries hid
  have hrule := (RuleRepository.mem_of_loadBatches_ok hload).mpr
    ⟨_, hentries, id, hid, origin, horigin, rfl⟩
  obtain ⟨index, hindex, hget⟩ := List.mem_iff_getElem.mp hrule
  refine ⟨ruleSetId index rules.length, ?_⟩
  rw [Property.inRuleSet_ofRules hindex, hget]
  exact reflects_ofRule horigin hstore requirement.rules _

/-- Each rule set stands for a rule of some requirement. -/
theorem exists_reflects_of_mem_ofRules
    (hload : repository.loadBatches (requirements.map Requirement.rules) = .ok rules)
    (hstore : repository.parameters.IsDefined) {property : Property}
    (hproperty : property ∈ Property.ofRules rules) :
    ∃ requirement ∈ requirements, ∃ id ∈ requirement.ruleIds,
      Reflects repository requirement.rules id
        (Property.inRuleSet property.ruleSet (Property.ofRules rules)) := by
  obtain ⟨index, hindex, hruleSet⟩ := Property.exists_index_of_mem_ofRules hproperty
  obtain ⟨entries, hentries, id, hid, origin, horigin, hrule⟩ :=
    (RuleRepository.mem_of_loadBatches_ok hload).mp (List.getElem_mem hindex)
  obtain ⟨requirement, hrequirement, rfl⟩ := List.mem_map.mp hentries
  refine ⟨requirement, hrequirement, id, hid, ?_⟩
  rw [hruleSet, Property.inRuleSet_ofRules hindex, hrule]
  exact reflects_ofRule horigin hstore requirement.rules _

end

/-! ## Components -/

/-- A component describes requirements with the rules of a repository. -/
structure Component.Describes (component : Component) (repository : RuleRepository)
    (requirements : List Requirement) : Prop where
  /-- There is one entry for each requirement, which names the rules of its list. -/
  entries : component.requirements.map RequirementEntry.properties =
    requirements.map RequirementEntry.propertiesOf
  /-- The properties name the rules that the entries name. -/
  names : ∀ id, id ∈ Property.valuesOf Property.ruleId component.properties ↔
    ∃ entry ∈ component.requirements, ⟨Property.ruleId, id⟩ ∈ entry.properties
  /-- Each requirement finds, for each of its rules, what its own list binds to it. -/
  found : ∀ requirement ∈ requirements, ∀ id ∈ requirement.ruleIds, ∃ ruleSet,
    Reflects repository requirement.rules id
      (Property.inRuleSet ruleSet component.properties)
  /-- There are no other rule sets. -/
  grounded : ∀ property ∈ component.properties, ∃ requirement ∈ requirements,
    ∃ id ∈ requirement.ruleIds, Reflects repository requirement.rules id
      (Property.inRuleSet property.ruleSet component.properties)

/-- A component with the properties of the rules that were loaded for its requirements describes
them. -/
theorem Component.describes_of_loadBatches_ok {component : Component}
    {repository : RuleRepository} {implementation : Implementation} {stamp : Stamp}
    {rules : List Rule}
    (hload : repository.loadBatches (implementation.requirements.map Requirement.rules) = .ok rules)
    (hstore : repository.parameters.IsDefined)
    (hproperties : component.properties = Property.ofRules rules)
    (himplementations : component.implementations = [.ofImplementation stamp implementation]) :
    component.Describes repository implementation.requirements := by
  have hentries : component.requirements.map RequirementEntry.properties =
      implementation.requirements.map RequirementEntry.propertiesOf := by
    rw [Component.requirements, himplementations]
    simpa [ImplementationEntry.ofImplementation] using
      map_properties_requirementEntries stamp 3 implementation.requirements
  refine ⟨hentries, ?_, ?_, ?_⟩
  · -- both places name what the lists of the requirements name
    intro id
    rw [hproperties, mem_valuesOf_ruleId_ofRules hload]
    calc (∃ requirement ∈ implementation.requirements, id ∈ requirement.ruleIds)
        ↔ ∃ properties ∈ implementation.requirements.map RequirementEntry.propertiesOf,
            ⟨Property.ruleId, id⟩ ∈ properties := by
          simp [RequirementEntry.ruleId_mem_propertiesOf]
      _ ↔ ∃ properties ∈ component.requirements.map RequirementEntry.properties,
            ⟨Property.ruleId, id⟩ ∈ properties := by rw [hentries]
      _ ↔ ∃ entry ∈ component.requirements, ⟨Property.ruleId, id⟩ ∈ entry.properties := by simp
  · intro requirement hrequirement id hid
    rw [hproperties]
    exact exists_reflects_of_mem_ruleIds hload hstore hrequirement hid
  · intro property hproperty
    rw [hproperties] at hproperty ⊢
    exact exists_reflects_of_mem_ofRules hload hstore hproperty

/-! ## A content tree to look at -/

namespace Sample

/-- The content of a product whose policy selects one rule for two controls, with an override for
the first one, and names a control that the catalogue does not know. -/
def content : FileSystem :=
  { root := .directory (rules ++ ([
      ("products", .directory [("server", .directory
        [("product.yml", .file (some "benchmark_root: /guide"))])]),
      ("guide", .directory [("timeout.var", .file (some "options:\n  default: 600"))]),
      ("controls", .directory [("base.yml", .file (some
        ("policy: B\nid: base\ncontrols:\n" ++ "- id: ac\n  rules: [tmout, timeout=9]\n" ++
          "- id: si\n  rules: [tmout]\n" ++ "- id: zz")))]),
      ("index.json", .file (some "\x7b\"tmout\": \x7b\"dir\": \"/tmout\"\x7d\x7d"))] :
        FileTree.Entries)),
    working := [] }

def settings : GeneratorSettings :=
  { root := "/", vendor := "/vendor", product := "server", profile := "moderate",
    policy := "base", ruleIndex := some "/index.json" }

def catalogue (_ : Profile) : Except Failure (List Control) :=
  .ok [.mk "ac" none none [], .mk "si" none none []]

def stamp : Stamp := ⟨fun _ => Uuid.zero, default⟩

theorem length_components :
    (Generator.setUpWith catalogue content settings >>= fun generator =>
      generator.generate content stamp .service).toOption.map
        (fun definition => definition.components.length) = some 1 := by
  decide +kernel

end Sample

/-! ## The whole definition -/

namespace Generator

variable {resolve : Profile → Except Failure (List Control)} {files : FileSystem}
  {settings : GeneratorSettings} {generator : Generator} {stamp : Stamp} {type : ComponentType}
  {definition : ComponentDefinition}

/-- The requirements of a generator are the controls of its policy that its catalogue knows. -/
theorem implementation_eq_ok_iff {implementation : Implementation} :
    generator.implementation = .ok implementation ↔
      ∃ controls, generator.policies.controls generator.policyId = .ok controls ∧
        implementation = .ofControls generator.index generator.policyId generator.profile.href
          controls := by
  unfold Generator.implementation Implementation.build
  rw [Except.bind_eq_ok_iff]
  refine exists_congr fun controls => and_congr_right fun _ => ?_
  constructor
  · exact fun hok => (Except.ok.inj hok).symm
  · rintro rfl
    rfl

/-- The components that are generated: none without requirements, and otherwise one with the
properties of the rules that were loaded for all requirements. -/
theorem components_of_assemble {implementation : Implementation}
    (hassemble : generator.assemble files stamp type implementation = .ok definition) :
    (implementation.isEmpty ∧ definition.components = []) ∨
      ¬ implementation.isEmpty ∧ ∃ rules component,
        (generator.repository files).loadBatches
          (implementation.requirements.map Requirement.rules) = .ok rules ∧
        definition.components = [component] ∧ component.properties = Property.ofRules rules ∧
        component.implementations = [.ofImplementation stamp implementation] := by
  unfold assemble at hassemble
  split at hassemble
  · rename_i hempty
    obtain rfl := Except.ok.inj hassemble
    exact .inl ⟨hempty, rfl⟩
  · rename_i hsome
    obtain ⟨properties, hproperties, hassemble⟩ := Except.bind_eq_ok_iff.mp hassemble
    obtain ⟨rules, hload, hrules⟩ := Except.bind_eq_ok_iff.mp hproperties
    obtain rfl := Except.ok.inj hrules
    obtain rfl := Except.ok.inj hassemble
    refine .inr ⟨hsome, rules, ?_⟩
    simp only [Component.ofImplementation?, if_neg hsome]
    exact ⟨_, hload, rfl, rfl, rfl⟩

/-- A definition has no component if the catalogue knows no control of the policy.  Otherwise it
has one, which describes the requirements that the known controls come to. -/
theorem components_of_generate (hsetUp : setUpWith resolve files settings = .ok generator)
    (hgenerate : generator.generate files stamp type = .ok definition) :
    ∃ controls, generator.policies.controls settings.policy = .ok controls ∧
      ((∀ control ∈ controls, generator.index.resolve control.id = none) →
        definition.components = []) ∧
      ((∃ control ∈ controls, generator.index.resolve control.id ≠ none) →
        ∃ component, definition.components = [component] ∧
          component.Describes (generator.repository files)
            (controls.filterMap (Implementation.requirement? generator.index))) := by
  have hset := setUpWith_eq_ok_iff.mp hsetUp
  obtain ⟨implementation, himplementation, hassemble⟩ := Except.bind_eq_ok_iff.mp hgenerate
  obtain ⟨controls, hcontrols, rfl⟩ := implementation_eq_ok_iff.mp himplementation
  rw [hset.policyId] at hcontrols
  refine ⟨controls, hcontrols, ?_⟩
  have hempty := Implementation.isEmpty_ofControls_iff generator.index generator.policyId
    generator.profile.href controls
  rcases components_of_assemble hassemble with ⟨hnone, hcomponents⟩ |
    ⟨hsome, rules, component, hload, hcomponents, hproperties, himplementations⟩
  · have hall := hempty.mp hnone
    refine ⟨fun _ => hcomponents, ?_⟩
    rintro ⟨control, hcontrol, hknown⟩
    exact absurd (hall control hcontrol) hknown
  · refine ⟨fun hall => absurd (hempty.mpr hall) hsome, fun _ => ⟨component, hcomponents, ?_⟩⟩
    exact component.describes_of_loadBatches_ok hload hset.isDefined_parameters hproperties
      himplementations

/-- The sample has one component, which describes its two known controls. -/
theorem components_of_generate_of_base :
    ∃ generator definition controls component,
      setUpWith Sample.catalogue Sample.content Sample.settings = .ok generator ∧
      generator.generate Sample.content Sample.stamp .service = .ok definition ∧
      generator.policies.controls "base" = .ok controls ∧
      definition.components = [component] ∧
      component.Describes (generator.repository Sample.content)
        (controls.filterMap (Implementation.requirement? generator.index)) := by
  obtain ⟨definition, hrun, hone⟩ :=
    Except.exists_ok_of_map_toOption_eq_some Sample.length_components
  obtain ⟨generator, hsetUp, hgenerate⟩ := Except.bind_eq_ok_iff.mp hrun
  obtain ⟨controls, hcontrols, hnone, hsome⟩ := components_of_generate hsetUp hgenerate
  have hknown : ∃ control ∈ controls, generator.index.resolve control.id ≠ none := by
    by_contra hunknown
    have hempty : definition.components = [] :=
      hnone fun control hcontrol => by_contra fun hcontrol' =>
        hunknown ⟨control, hcontrol, hcontrol'⟩
    rw [hempty] at hone
    cases hone
  obtain ⟨component, hcomponents, hdescribes⟩ := hsome hknown
  exact ⟨generator, definition, controls, component, hsetUp, hgenerate, hcontrols, hcomponents,
    hdescribes⟩

end Generator

end Compliance
