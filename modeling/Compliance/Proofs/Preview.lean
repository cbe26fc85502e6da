import Compliance.Command
import Compliance.Proofs.Generator
import Compliance.Proofs.Implementation

/-!
# Printed rules and generated properties

Rules can be printed without a policy, to see what a control with a list of rules would
add to a definition.  This is a preview only if both come to the same: the command sets up
a repository of its own and loads one list, and a generator loads the lists of all its
requirements together (`printRules_endsAlike_generate`).

## Strategy

The settings of the command and those of the generator name the same files
(`SharesContent`), so that the two repositories are equal (`repository_eq_of_isSetUp`).
Loading one list together with no other is loading the list, except that a rule which is
named twice comes out once (`loadBatches_singleton`).  What is left of a generator with one
requirement is the list of this requirement (`assemble_cases_of_requirement`).
-/

namespace Compliance

open List

/-! ## One list of rules -/

namespace RuleRepository

variable {repository : RuleRepository} {entries : List String}

/-- Where no item is repeated all occurrences are first ones. -/
private theorem eraseDups_eq_of_nodup {α : Type} [DecidableEq α] {items : List α}
    (hnodup : items.Nodup) : items.eraseDups = items := by
  induction items with
  | nil => rfl
  | cons item others ih =>
      obtain ⟨hitem, hothers⟩ := nodup_cons.mp hnodup
      have hfilter : (others.filter fun other => !other == item) = others := by
        rw [filter_eq_self]
        intro other hother
        have hne : other ≠ item := by
          rintro rfl
          exact hitem hother
        simp [hne]
      rw [eraseDups_cons, hfilter, ih hothers]

/-- A list in which no rule is repeated loads together with no other list as it does alone. -/
theorem loadBatches_singleton (hnodup : (Override.ruleIds entries).Nodup) :
    repository.loadBatches [entries] = repository.load entries := by
  rw [loadBatches_eq, flatMap_singleton, flatMap_singleton]
  cases hload : repository.loadBatch entries with
  | ok rules =>
      have hrules : rules.Nodup := .of_map Rule.id (map_id_of_loadBatch_ok hload ▸ hnodup)
      rw [loaded_of_loadBatch_ok hload, refused_of_loadBatch_ok hload, if_pos rfl,
        eraseDups_eq_of_nodup hrules]
      exact (load_eq_ok_iff.mpr hload).symm
  | error failures =>
      obtain ⟨hne, -⟩ := forall₂_of_loadBatch_error hload
      have hfailures : failures.Nodup := by
        apply Nodup.of_map RuleFailure.rule
        rw [map_rule_of_loadBatch_error hload]
        exact hnodup.filter _
      rw [refused_of_loadBatch_error hload, if_neg hne, eraseDups_eq_of_nodup hfailures]
      exact (load_eq_error_iff.mpr ⟨failures, hload, rfl⟩).symm

end RuleRepository

/-! ## One requirement -/

namespace Generator

variable {generator : Generator} {files : FileSystem} {stamp : Stamp} {type : ComponentType}

/-- A policy with one control that the catalogue knows has one requirement, with the rules of this
control. -/
theorem exists_implementation_of_filter_eq_singleton {controls : List PolicyControl}
    {control : PolicyControl}
    (hcontrols : generator.policies.controls generator.policyId = .ok controls)
    (hone : (controls.filter fun control => (generator.index.resolve control.id).isSome) =
      [control]) :
    ∃ implementation requirement, generator.implementation = .ok implementation ∧
      implementation.requirements = [requirement] ∧ requirement.rules = control.rules := by
  have hanswers := Implementation.forall₂_answers generator.index controls
  rw [hone] at hanswers
  obtain ⟨requirement, others, hanswer, hnone, hrequirements⟩ := forall₂_cons_left_iff.mp hanswers
  obtain rfl := forall₂_nil_left_iff.mp hnone
  exact ⟨_, requirement, implementation_eq_ok_iff.mpr ⟨controls, hcontrols, rfl⟩, hrequirements,
    hanswer.rules⟩

/-- With one requirement a generator assembles a component with the properties of its rules, or it
fails as these rules do. -/
theorem assemble_cases_of_requirement {implementation : Implementation} {requirement : Requirement}
    (hrequirement : implementation.requirements = [requirement])
    (hnodup : (Override.ruleIds requirement.rules).Nodup) :
    (∃ rules definition component,
      (generator.repository files).load requirement.rules = .ok rules ∧
      generator.assemble files stamp type implementation = .ok definition ∧
      definition.components = [component] ∧ component.properties = Property.ofRules rules) ∨
    ∃ failures, (generator.repository files).load requirement.rules = .error (.ruleBatch failures) ∧
      generator.assemble files stamp type implementation = .error (.ruleBatch failures) := by
  have hsome : ¬ implementation.isEmpty := by
    rw [Implementation.isEmpty, hrequirement]
    exact Bool.false_ne_true
  have hload : (generator.repository files).loadBatches
      (implementation.requirements.map Requirement.rules) =
        (generator.repository files).load requirement.rules := by
    rw [hrequirement]
    exact RuleRepository.loadBatches_singleton hnodup
  cases hassemble : generator.assemble files stamp type implementation with
  | ok definition =>
      rcases components_of_assemble hassemble with ⟨hempty, -⟩ |
        ⟨-, rules, component, hrules, hcomponents, hproperties, -⟩
      · exact absurd hempty hsome
      · rw [hload] at hrules
        exact .inl ⟨rules, definition, component, hrules, rfl, hcomponents, hproperties⟩
  | error failure =>
      unfold assemble at hassemble
      simp only [if_neg hsome, properties, Except.bind_eq_error_iff] at hassemble
      rcases hassemble with (hfailed | ⟨rules, -, hrules⟩) | ⟨properties, -, hproperties⟩
      · rw [hload] at hfailed
        obtain ⟨failures, -, rfl⟩ := RuleRepository.load_eq_error_iff.mp hfailed
        exact .inr ⟨failures, hfailed, rfl⟩
      · cases hrules
      · cases hproperties

end Generator

/-! ## The table -/

namespace Report

/-- A report has the section of a rule: under a heading with the rule set, the identifier and the
severity stand the references of the rule, and after these names and values of properties. -/
def HasSection (report : Report) (ruleSet : String) (rule : Rule) (properties : List Property) :
    Prop :=
  ∃ before after, report = before ++
    (subheading (ruleSet ++ " " ++ rule.id ++ " [" ++ rule.severity.getD "unknown" ++ "]") ++
      (rule.references.entries.map fun (standard, references) =>
        named (.dimmed standard) (", ".intercalate references)) ++
      properties.map fun property => named (.coloured .cyan property.name) property.value) ++ after

theorem exists_rulesFrom_eq {properties : List Property} {total start index : Nat}
    {rules : List Rule} (hindex : index < rules.length) :
    ∃ before after, rulesFrom properties total start rules =
      before ++ rule properties (ruleSetId (start + index) total) rules[index] ++ after := by
  induction rules generalizing start index with
  | nil => cases hindex
  | cons first others ih =>
      cases index with
      | zero => exact ⟨[], rulesFrom properties total (start + 1) others, rfl⟩
      | succ index =>
          obtain ⟨before, after, hothers⟩ := @ih (start + 1) index (Nat.lt_of_succ_lt_succ hindex)
          refine ⟨rule properties (ruleSetId start total) first ++ before, after, ?_⟩
          rw [rulesFrom, hothers, Nat.add_right_comm start 1 index]
          simp only [List.append_assoc, List.getElem_cons_succ, Nat.add_assoc]

/-- Every rule has its section, with exactly its properties. -/
theorem hasSection_rules (product : Product) {rules : List Rule} {index : Nat}
    (hindex : index < rules.length) :
    (Report.rules product rules).HasSection (ruleSetId index rules.length) rules[index]
      (Property.ofRule (ruleSetId index rules.length) rules[index]) := by
  obtain ⟨before, after, hrules⟩ : ∃ before after,
      rulesFrom (Property.ofRules rules) rules.length 0 rules = before ++
        rule (Property.ofRules rules) (ruleSetId (0 + index) rules.length) rules[index] ++ after :=
    exists_rulesFrom_eq hindex
  refine ⟨heading ("Rules for " ++ product.fullName) ++ before,
    after ++ [blank, success (toString rules.length ++ " rules loaded")], ?_⟩
  rw [Report.rules, hrules, Nat.zero_add, ← Property.inRuleSet_ofRules hindex, rule,
    Property.inRuleSet]
  simp only [List.append_assoc]

/-- Every property is shown in the section of a rule whose rule set it belongs to. -/
theorem exists_hasSection_of_mem (product : Product) {rules : List Rule} {property : Property}
    (hmem : property ∈ Property.ofRules rules) :
    ∃ rule ∈ rules, ∃ properties, property ∈ properties ∧
      (Report.rules product rules).HasSection property.ruleSet rule properties := by
  obtain ⟨index, hindex, hrule⟩ := Property.mem_ofRulesFrom.mp hmem
  rw [Nat.zero_add] at hrule
  refine ⟨rules[index], List.getElem_mem hindex, _, hrule, ?_⟩
  rw [Property.ruleSet_of_mem_ofRule hrule]
  exact hasSection_rules product hindex

end Report

/-! ## The command and the generator -/

namespace Settings

/-- Settings and what a generator needs to know name the same content. -/
structure SharesContent (settings : Settings) (needed : GeneratorSettings) : Prop where
  root : settings.root = needed.root
  product : settings.product = .ok needed.product
  ruleIndex : settings.paths.ruleIndex = needed.ruleIndex
  buildConfig : settings.paths.buildConfig = needed.buildConfig

variable {settings : Settings} {needed : GeneratorSettings} {files : FileSystem}

theorem sharesContent_of_generator_eq_ok (hneeded : settings.generator = .ok needed) :
    settings.SharesContent needed := by
  obtain ⟨profile, -, hneeded⟩ := Except.bind_eq_ok_iff.mp hneeded
  obtain ⟨policy, -, hneeded⟩ := Except.bind_eq_ok_iff.mp hneeded
  obtain ⟨product, hproduct, hneeded⟩ := Except.bind_eq_ok_iff.mp hneeded
  obtain rfl := Except.ok.inj hneeded
  exact ⟨rfl, hproduct, rfl, rfl⟩

theorem repository_eq_of_isSetUp {resolve : Profile → Except Failure (List Control)}
    {generator : Generator} (hshares : settings.SharesContent needed)
    (hsetUp : generator.IsSetUp resolve files needed) :
    settings.repository files = .ok (generator.repository files) := by
  have hproduct := hsetUp.product
  rw [Generator.loadProduct, ← hshares.root, ← hshares.buildConfig] at hproduct
  obtain ⟨product, hload, hconfig⟩ := Except.bind_eq_ok_iff.mp hproduct
  have hlocator := hsetUp.locator
  rw [← hshares.ruleIndex] at hlocator
  refine Except.bind_eq_ok_iff.mpr ⟨needed.product, ?_, Except.mapError_eq_ok_iff.mpr ?_⟩
  · rw [hshares.product]
    rfl
  refine Except.bind_eq_ok_iff.mpr ⟨product, hload, ?_⟩
  have hrest : (do
      let parameters ← ParameterStore.load files generator.product
      let locator ← RuleLocator.forProduct files generator.product settings.paths.ruleIndex
      return { files, product := generator.product, parameters, locator }) =
        Except.ok (generator.repository files) := by
    refine Except.bind_eq_ok_iff.mpr ⟨generator.parameters, hsetUp.parameters, ?_⟩
    exact Except.bind_eq_ok_iff.mpr ⟨generator.locator, hlocator, rfl⟩
  cases hpath : settings.paths.buildConfig with
  | none =>
      rw [hpath] at hconfig
      obtain rfl := Except.ok.inj hconfig
      exact hrest
  | some path =>
      rw [hpath] at hconfig
      exact Except.bind_eq_ok_iff.mpr ⟨generator.product, hconfig, hrest⟩

/-- How printing rules and generating a definition end alike: with the same properties, or with the
same failures. -/
inductive EndsAlike (product : Product) :
    Format → Except CommandFailure Printout → Except Failure ComponentDefinition → Prop
  | document {definition : ComponentDefinition} {component : Component}
      (hcomponents : definition.components = [component]) :
      EndsAlike product .json
        (.ok (.document (.array (component.properties.map Property.toJson)))) (.ok definition)
  | report {definition : ComponentDefinition} {component : Component} {rules : List Rule}
      (hcomponents : definition.components = [component])
      (hproperties : component.properties = Property.ofRules rules)
      (hshown : ∀ property ∈ component.properties, ∃ rule ∈ rules, ∃ properties,
        property ∈ properties ∧
          (Report.rules product rules).HasSection property.ruleSet rule properties) :
      EndsAlike product .table (.ok (.report (Report.rules product rules))) (.ok definition)
  | failures (format : Format) (failures : List RuleFailure) :
      EndsAlike product format (.error (.content (.ruleBatch failures)))
        (.error (.ruleBatch failures))

/-- Printing rules ends like generating a definition for the same content whose policy has one
control in the catalogue, if this control has the rules that are printed and repeats none. -/
theorem printRules_endsAlike_generate {resolve : Profile → Except Failure (List Control)}
    {generator : Generator} {controls : List PolicyControl} {control : PolicyControl}
    (hshares : settings.SharesContent needed)
    (hsetUp : Generator.setUpWith resolve files needed = .ok generator)
    (hcontrols : generator.policies.controls needed.policy = .ok controls)
    (hone : (controls.filter fun control => (generator.index.resolve control.id).isSome) =
      [control])
    (hnodup : (Override.ruleIds control.rules).Nodup) (format : Format) (stamp : Stamp)
    (type : ComponentType) :
    EndsAlike generator.product format (settings.printRules files control.rules format)
      (generator.generate files stamp type) := by
  have hset := Generator.setUpWith_eq_ok_iff.mp hsetUp
  rw [← hset.policyId] at hcontrols
  obtain ⟨implementation, requirement, himplementation, hrequirement, hrules⟩ :=
    Generator.exists_implementation_of_filter_eq_singleton hcontrols hone
  rw [printRules, repository_eq_of_isSetUp hshares hset, Except.ok_bind, Generator.generate,
    himplementation, Except.ok_bind, ← hrules]
  rw [← hrules] at hnodup
  rcases Generator.assemble_cases_of_requirement hrequirement hnodup with
    ⟨rules, definition, component, hload, hassemble, hcomponents, hproperties⟩ |
    ⟨failures, hload, hassemble⟩
  · rw [hload, hassemble]
    cases format with
    | table =>
        refine .report hcomponents hproperties fun property hmem => ?_
        exact Report.exists_hasSection_of_mem _ (hproperties ▸ hmem)
    | json =>
        show EndsAlike _ _ (.ok (.document (.array ((Property.ofRules rules).map Property.toJson))))
          (.ok definition)
        rw [← hproperties]
        exact .document hcomponents
  · rw [hload, hassemble]
    exact .failures format failures

end Settings

/-! ## A control to look at -/

namespace Sample

/-- A catalogue that knows one control of the policy only. -/
def narrowCatalogue (_ : Profile) : Except Failure (List Control) :=
  .ok [.mk "ac" none none []]

def preview : Settings :=
  { paths := { root := some "/", ruleIndex := some "/index.json" },
    build := { product := some "server" } }

theorem sharesContent_preview : preview.SharesContent settings := by
  constructor <;> rfl

/-- Of the controls of the policy one is known. -/
theorem rules_narrowCatalogue :
    (Generator.setUpWith narrowCatalogue content settings >>= fun generator =>
      (generator.policies.controls "base").map fun controls =>
        (controls.filter fun control => (generator.index.resolve control.id).isSome).map
          PolicyControl.rules) = .ok [["tmout", "timeout=9"]] := by
  decide +kernel

end Sample

/-- The rules of the known control can be looked at beforehand. -/
theorem Settings.printRules_endsAlike_generate_of_base :
    ∃ generator, Generator.setUpWith Sample.narrowCatalogue Sample.content Sample.settings =
        .ok generator ∧
      EndsAlike generator.product .json
        (Sample.preview.printRules Sample.content ["tmout", "timeout=9"] .json)
        (generator.generate Sample.content Sample.stamp .service) := by
  obtain ⟨generator, hsetUp, hrules⟩ := Except.bind_eq_ok_iff.mp Sample.rules_narrowCatalogue
  refine ⟨generator, hsetUp, ?_⟩
  cases hcontrols : generator.policies.controls "base" with
  | error failure =>
      rw [hcontrols] at hrules
      cases hrules
  | ok controls =>
      rw [hcontrols] at hrules
      obtain ⟨control, hone, hcontrol⟩ := map_eq_singleton_iff.mp (Except.ok.inj hrules)
      rw [← hcontrol]
      refine printRules_endsAlike_generate Sample.sharesContent_preview hsetUp hcontrols hone ?_ _
        _ _
      rw [hcontrol]
      decide +kernel

end Compliance
