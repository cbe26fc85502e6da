import Compliance.Proofs.Component.Stamp
import Compliance.Proofs.Files.Scan
import Compliance.Proofs.Generator
import Compliance.Proofs.Policy.Interchangeable
import Compliance.Proofs.Rule.Agreement

/-!
# What cannot influence a definition

Two systems are compared that have the same layout and differ in the texts of some files.
The definitions that are generated from them can only differ in the stamps if the texts
differ where nothing is taken from them (`DifferUnnoticed`):

* in a control file, as long as it holds the policy in both systems or in none, and says
  the same of the controls that the catalogue knows;
* in the definition of a rule that no known control selects;
* in files that are not read at all.

## Strategy

The two runs are carried in step (`InStep`).  The layout alone decides where paths lead,
which control files and parameter files are found, and which directories have rules.
So the steps before the policies give the same, and the policies come to the same
implementation although they may be different.  From then on only the rules of the
implementation are loaded, and their definitions read the same.

The two systems need not fail with the same words: a policy that is not found is told of
with the control files that cannot be used, and these are free to differ.
-/

namespace Compliance

open List

/-! ## Two runs in step -/

/-- Two failures are of one kind: they are the same, or the same policy is unknown. -/
inductive Failure.SameKind : Failure → Failure → Prop
  | same (failure : Failure) : SameKind failure failure
  | policyNotFound (policy : String) (first second : List Remark) :
      SameKind (.policyNotFound policy first) (.policyNotFound policy second)

/-- Two steps succeed with results that are related, or both fail in one way. -/
inductive InStep {α β : Type} (related : α → β → Prop) :
    Except Failure α → Except Failure β → Prop
  | ok {first : α} {second : β} (hrelated : related first second) :
      InStep related (.ok first) (.ok second)
  | error {first second : Failure} (hkind : first.SameKind second) :
      InStep related (.error first) (.error second)

namespace InStep

variable {α β γ δ : Type} {related : α → β → Prop}

theorem of_eq {first second : Except Failure α} (heq : first = second) :
    InStep Eq first second := by
  subst heq
  cases first with
  | error failure => exact .error (.same failure)
  | ok value => exact .ok rfl

theorem bind {first : Except Failure α} {second : Except Failure β}
    {after : α → Except Failure γ} {other : β → Except Failure δ} {result : γ → δ → Prop}
    (hfirst : InStep related first second)
    (hafter : ∀ value value', first = .ok value → related value value' →
      InStep result (after value) (other value')) :
    InStep result (first >>= after) (second >>= other) := by
  cases hfirst with
  | ok hrelated => exact hafter _ _ rfl hrelated
  | error hkind => exact .error hkind

theorem imp {result : α → β → Prop} {first : Except Failure α} {second : Except Failure β}
    (hstep : InStep related first second)
    (himp : ∀ value value', first = .ok value → second = .ok value' → related value value' →
      result value value') :
    InStep result first second := by
  cases hstep with
  | ok hrelated => exact .ok (himp _ _ rfl rfl hrelated)
  | error hkind => exact .error hkind

end InStep

/-! ## Reading files -/

namespace FileSystem

/-- The texts of two systems that stand at one place below a directory, with a name that ends with a
suffix, are alike. -/
def AlikeBelow (path : Path) (suffix : String) (alike : Option String → Option String → Prop)
    (first second : FileSystem) : Prop :=
  ∀ before after, first.list path = .ok before → second.list path = .ok after →
    ∀ names name text text', FileTree.endsWith suffix name = true →
      (FileTree.directory before).get? (names ++ [name]) = some (.file text) →
      (FileTree.directory after).get? (names ++ [name]) = some (.file text') → alike text text'

variable {first second : FileSystem}

theorem SameLayout.filesWithSuffix_cases (hlayout : SameLayout first second) {path : Path}
    {suffix : String} {alike : Option String → Option String → Prop}
    (halike : AlikeBelow path suffix alike first second) :
    (∃ fault, first.filesWithSuffix path suffix = .error fault ∧
        second.filesWithSuffix path suffix = .error fault) ∨
      ∃ found found', first.filesWithSuffix path suffix = .ok found ∧
        second.filesWithSuffix path suffix = .ok found' ∧
        Forall₂ (fun file other => file.1 = other.1 ∧ FileTree.AlikeFound alike file.2 other.2)
          found found' := by
  rw [filesWithSuffix, filesWithSuffix]
  obtain ⟨fault, hfirst, hsecond⟩ | ⟨before, after, hfirst, hsecond, hinner⟩ :=
    hlayout.list_cases path
  · rw [hfirst, hsecond]
    exact .inl ⟨fault, rfl, rfl⟩
  · have hbelow : FileTree.AlikeBelow suffix alike (.directory before) (.directory after) :=
      ⟨hinner, halike before after hfirst hsecond⟩
    rw [hfirst, hsecond]
    exact .inr ⟨_, _, rfl, rfl, FileTree.forall₂_filesBelow hbelow path⟩

end FileSystem

section

variable {first second : FileSystem}

theorem Generator.loadProduct_eq {settings : GeneratorSettings}
    (hproduct : first.readText (((settings.root.join "products").join settings.product).join
        Product.definitionFile) =
      second.readText (((settings.root.join "products").join settings.product).join
        Product.definitionFile))
    (hbuildConfig : ∀ path, settings.buildConfig = some path →
      first.readText path = second.readText path) :
    loadProduct first settings = loadProduct second settings := by
  have hload : Product.load first settings.root settings.product =
      Product.load second settings.root settings.product := by
    rw [Product.load, Product.load, FileSystem.readRequired, FileSystem.readRequired, hproduct]
  rw [loadProduct, loadProduct, hload]
  cases hconfig : settings.buildConfig with
  | none => rfl
  | some path =>
      simp only [Product.withBuildConfig, FileSystem.readRequired, hbuildConfig path hconfig]

theorem ParameterStore.load_eq (hlayout : FileSystem.SameLayout first second) {product : Product}
    (halike : FileSystem.AlikeBelow product.benchmarkRoot fileSuffix Eq first second) :
    load first product = load second product := by
  rw [load, load, loadFrom, loadFrom]
  obtain ⟨fault, hfirst, hsecond⟩ | ⟨found, found', hfirst, hsecond, hfound⟩ :=
    hlayout.filesWithSuffix_cases halike
  · rw [hfirst, hsecond]
  · have hsame := hfound.imp fun file other hpair => And.imp_right FileTree.AlikeFound.eq hpair
    rw [hfirst, hsecond, FileTree.eq_of_forall₂ hsame]

theorem RuleSource.scanDirectories_eq (hlayout : FileSystem.SameLayout first second)
    (root : Path) : scanDirectories first root = scanDirectories second root := by
  rw [scanDirectories, scanDirectories, hlayout.isFile_eq]
  obtain ⟨fault, hfirst, hsecond⟩ | ⟨before, after, hfirst, hsecond, hinner⟩ :=
    hlayout.list_cases root
  · rw [hfirst, hsecond]
  · rw [hfirst, hsecond]
    simp only [FileTree.outermost_eq hinner]

theorem RuleLocator.forProduct_eq (hlayout : FileSystem.SameLayout first second)
    (product : Product) {index : Option Path}
    (hindex : ∀ path, index = some path → first.readText path = second.readText path) :
    forProduct first product index = forProduct second product index := by
  cases index with
  | none =>
      simp only [forProduct, hlayout.isDirectory_eq, RuleSource.scanDirectories_eq hlayout]
  | some path =>
      simp only [forProduct, hlayout.isDirectory_eq, RuleSource.scanDirectories_eq hlayout,
        RuleSource.loadIndex, FileSystem.readRequired, hindex path rfl]

end

/-! ## Setting up two generators -/

namespace Generator

variable {firstResolve secondResolve : Profile → Except Failure (List Control)}
  {first second : FileSystem} {settings : GeneratorSettings}

/-- Two systems with the same layout differ only where a generator with some settings takes nothing
from the texts. -/
structure DifferUnnoticed (firstResolve secondResolve : Profile → Except Failure (List Control))
    (settings : GeneratorSettings) (first second : FileSystem) : Prop where
  layout : FileSystem.SameLayout first second
  /-- The catalogue of the profile is the same. -/
  catalogue : firstResolve (Profile.ofName settings.profile settings.vendor) =
    secondResolve (Profile.ofName settings.profile settings.vendor)
  /-- The definition of the product is the same. -/
  product : first.readText (((settings.root.join "products").join settings.product).join
      Product.definitionFile) =
    second.readText (((settings.root.join "products").join settings.product).join
      Product.definitionFile)
  buildConfig : ∀ path, settings.buildConfig = some path →
    first.readText path = second.readText path
  ruleIndex : ∀ path, settings.ruleIndex = some path →
    first.readText path = second.readText path
  /-- The files with parameters are the same. -/
  parameters : ∀ product, loadProduct first settings = .ok product →
    FileSystem.AlikeBelow product.benchmarkRoot ParameterStore.fileSuffix Eq first second
  /-- The control files are interchangeable for the policy. -/
  controls : ∀ product controls, loadProduct first settings = .ok product →
    firstResolve (Profile.ofName settings.profile settings.vendor) = .ok controls →
    FileSystem.AlikeBelow (settings.root.join controlsDirectory) PolicyLibrary.fileSuffix
      (ControlFile.Interchangeable product (CatalogIndex.build controls) settings.policy)
      first second
  /-- The definitions of the rules that known controls select are the same. -/
  rules : ∀ generator implementation, setUpWith firstResolve first settings = .ok generator →
    generator.implementation = .ok implementation →
    ∀ requirement ∈ implementation.requirements, ∀ id ∈ requirement.ruleIds,
    ∀ directory, generator.locator.locate id = some directory →
      first.readText (directory.join RuleDefinition.fileName) =
        second.readText (directory.join RuleDefinition.fileName)

/-- Two generators implement the same and load rules from the same places. -/
structure Alike (first second : Generator) : Prop where
  product : first.product = second.product
  parameters : first.parameters = second.parameters
  locator : first.locator = second.locator
  implementation : first.implementation = second.implementation

/-- A catalogue sees the same of a policy in two libraries. -/
def PolicyAlike (index : CatalogIndex) (id : String) (first second : PolicyLibrary) : Prop :=
  (first.policy? id).map (ControlFile.seenBy index) =
    (second.policy? id).map (ControlFile.seenBy index)

theorem inStep_loadPolicies (hlayout : FileSystem.SameLayout first second) {product : Product}
    {directory : Path} {index : CatalogIndex} {id : String}
    (halike : FileSystem.AlikeBelow directory PolicyLibrary.fileSuffix
      (ControlFile.Interchangeable product index id) first second) :
    InStep (PolicyAlike index id) (loadPolicies first product directory)
      (loadPolicies second product directory) := by
  rw [loadPolicies, loadPolicies, hlayout.isDirectory_eq]
  split
  · rw [PolicyLibrary.load, PolicyLibrary.load]
    obtain ⟨fault, hfirst, hsecond⟩ | ⟨found, found', hfirst, hsecond, hfound⟩ :=
      hlayout.filesWithSuffix_cases halike
    · rw [hfirst, hsecond]
      exact .error (.same _)
    · rw [hfirst, hsecond]
      -- a file that reads the same in both systems is interchangeable with itself
      refine .ok (PolicyLibrary.map_seenBy_policy?_eq (hfound.imp fun file other hpair => ?_))
      exact ⟨hpair.1, hpair.2.toOption fun _ => rfl⟩
  · exact .ok rfl

/-- Libraries with a policy that is alike come to the same implementation of it. -/
theorem build_eq_of_policyAlike {index : CatalogIndex} {policies others : PolicyLibrary}
    {id : String} (halike : PolicyAlike index id policies others)
    (hknown : policies.policy? id ≠ none) (source : String) :
    Implementation.build index policies source id =
      Implementation.build index others source id := by
  obtain ⟨policy, hpolicy⟩ := Option.ne_none_iff_exists'.mp hknown
  rw [PolicyAlike, hpolicy, Option.map_some, eq_comm, Option.map_eq_some_iff] at halike
  obtain ⟨other, hother, hseen⟩ := halike
  rw [Implementation.build, Implementation.build, PolicyLibrary.controls, PolicyLibrary.controls,
    hpolicy, hother]
  exact congrArg Except.ok
    (Implementation.ofControls_eq_of_map_seenBy_eq hseen.symm id source)

theorem inStep_setUpWith
    (hdiffer : DifferUnnoticed firstResolve secondResolve settings first second) :
    InStep Alike (setUpWith firstResolve first settings)
      (setUpWith secondResolve second settings) := by
  rw [setUpWith, setUpWith]
  -- what is read before the policies is the same
  refine .bind (.of_eq hdiffer.catalogue) ?_
  rintro controls _ hcontrols rfl
  refine .bind (.of_eq (loadProduct_eq hdiffer.product hdiffer.buildConfig)) ?_
  rintro product _ hproduct rfl
  refine .bind (inStep_loadPolicies hdiffer.layout
    (hdiffer.controls product controls hproduct hcontrols)) ?_
  intro policies others _ halike
  have hparameters := ParameterStore.load_eq hdiffer.layout (hdiffer.parameters product hproduct)
  have hlocator := RuleLocator.forProduct_eq hdiffer.layout product hdiffer.ruleIndex
  have hnone : policies.policy? settings.policy = none ↔
      others.policy? settings.policy = none := by
    rw [← Option.map_eq_none_iff, halike, Option.map_eq_none_iff]
  by_cases hknown : policies.policy? settings.policy = none
  · -- the policy is in neither library, and the control files that cannot be used may differ
    rw [if_pos (by rw [hknown]; rfl), if_pos (by rw [hnone.mp hknown]; rfl)]
    exact .error (.policyNotFound _ _ _)
  · -- the policy is in both, and after it everything is the same again
    rw [if_neg (by simpa using hknown), if_neg (by simpa using mt hnone.mpr hknown)]
    refine .bind (.of_eq hparameters) ?_
    rintro parameters _ - rfl
    refine .bind (.of_eq hlocator) ?_
    rintro locator _ - rfl
    exact .ok ⟨rfl, rfl, rfl, build_eq_of_policyAlike halike hknown _⟩

/-! ## Generating two definitions -/

section

variable {generator other : Generator}

theorem repository_agreeOn (halike : Alike generator other) {id : String}
    (hread : ∀ directory, generator.locator.locate id = some directory →
      first.readText (directory.join RuleDefinition.fileName) =
        second.readText (directory.join RuleDefinition.fileName)) :
    (generator.repository first).AgreeOn (other.repository second) id := by
  refine RuleRepository.agreeOn_of_load_eq halike.product halike.parameters halike.locator ?_
  intro directory hlocate
  simp only [RuleDefinition.load, FileSystem.readContent, repository, hread directory hlocate]

theorem properties_eq (halike : Alike generator other) {implementation : Implementation}
    (hread : ∀ requirement ∈ implementation.requirements, ∀ id ∈ requirement.ruleIds,
      ∀ directory, generator.locator.locate id = some directory →
        first.readText (directory.join RuleDefinition.fileName) =
          second.readText (directory.join RuleDefinition.fileName)) :
    generator.properties first implementation = other.properties second implementation := by
  -- only the rules that some requirement selects are ever asked for
  have hbatches : (generator.repository first).loadBatches
        (implementation.requirements.map Requirement.rules) =
      (other.repository second).loadBatches
        (implementation.requirements.map Requirement.rules) := by
    refine RuleRepository.loadBatches_congr ?_
    intro entries hentries id hid
    obtain ⟨requirement, hrequirement, rfl⟩ := mem_map.mp hentries
    exact repository_agreeOn halike (hread requirement hrequirement id hid)
  rw [properties, properties, hbatches]

/-- With the same properties the definitions are the same up to their stamps. -/
theorem map_unstamped_assemble_eq (halike : Alike generator other)
    {implementation : Implementation}
    (hproperties : generator.properties first implementation =
      other.properties second implementation) (stamp stamp' : Stamp) (type : ComponentType) :
    (generator.assemble first stamp type implementation).map ComponentDefinition.unstamped =
      (other.assemble second stamp' type implementation).map ComponentDefinition.unstamped := by
  rw [assemble, assemble, hproperties, halike.product]
  split
  · rfl
  · cases other.properties second implementation with
    | error failure => rfl
    | ok properties =>
        exact congrArg Except.ok (unstamped_withComponent? stamp stamp' _
          (unstamped_ofImplementation? stamp stamp' type _ _ properties implementation))

end

/-- Both generators are set up, or neither is for the same kind of failure.  If both are, they
generate definitions that are the same up to their stamps, or fail with the same rules. -/
theorem generate_eq_of_differUnnoticed
    (hdiffer : DifferUnnoticed firstResolve secondResolve settings first second) :
    InStep (fun generator other => ∀ stamp stamp' type,
        (generator.generate first stamp type).map ComponentDefinition.unstamped =
          (other.generate second stamp' type).map ComponentDefinition.unstamped)
      (setUpWith firstResolve first settings) (setUpWith secondResolve second settings) := by
  refine (inStep_setUpWith hdiffer).imp ?_
  intro generator other hsetUp _ halike stamp stamp' type
  rw [generate, generate, ← halike.implementation]
  cases himplementation : generator.implementation with
  | error failure => rfl
  | ok implementation =>
      have hread := hdiffer.rules generator implementation hsetUp himplementation
      exact map_unstamped_assemble_eq halike (properties_eq halike hread) stamp stamp' type

end Generator

/-! ## Two systems to look at -/

namespace Sample

/-- What the policy says, with something more about the control that the catalogue does not know. -/
def policyText (unknown : String) : String :=
  "policy: B\nid: base\ncontrols:\n- id: ac\n  rules: [tmout]\n- id: zz" ++ unknown

/-- The content with a choice of what no known control asks for: what the policy says of the unknown
one, and the definition of a rule that is not selected. -/
def varied (unknown banner : String) : FileSystem :=
  let root := content.root.update
    (FileTree.putEntry "base.yml" (.file (some (policyText unknown)))) ["controls"]
  { content with root :=
      root.update (FileTree.putEntry "rule.yml" (.file (some banner))) ["banner"] }

def plain : FileSystem := varied "" "title: Show a banner"

def embellished : FileSystem := varied "\n  rules: [banner]" "description: Show it"

def server : Product := (Product.new "server" "/guide").withProperty "benchmark_root" "/guide"

def layout : FileTree :=
  .directory
    [("tmout", .directory [("rule.yml", .file none)]),
      ("banner", .directory [("rule.yml", .file none)]),
      ("products", .directory [("server", .directory [("product.yml", .file none)])]),
      ("guide", .directory [("timeout.var", .file none)]),
      ("controls", .directory [("base.yml", .file none)]),
      ("index.json", .file none)]

section

variable (unknown banner : String)

theorem outline_varied : (varied unknown banner).root.outline = layout := by
  rfl

theorem hasDistinctNames_varied : (varied unknown banner).root.hasDistinctNames = true := by
  rfl

theorem list_guide : (varied unknown banner).list "/guide" =
    .ok [("timeout.var", .file (some "options:\n  default: 600"))] := by
  rfl

theorem list_controls : (varied unknown banner).list "/controls" =
    .ok [("base.yml", .file (some (policyText unknown)))] := by
  rfl

end

theorem loadProduct_plain : Generator.loadProduct plain settings = .ok server := by
  decide +kernel

/-- Of the rules only one is selected. -/
theorem locate_plain :
    (Generator.setUpWith catalogue plain settings >>= fun generator =>
      generator.implementation.map fun implementation =>
        implementation.requirements.flatMap fun requirement =>
          requirement.ruleIds.map generator.locator.locate) =
      .ok [some "/tmout"] := by
  decide +kernel

theorem differUnnoticed_plain_embellished :
    Generator.DifferUnnoticed catalogue catalogue settings plain embellished where
  layout := ⟨FileTree.sameLayout_of_outline_eq
    ((outline_varied _ _).trans (outline_varied _ _).symm) (hasDistinctNames_varied _ _)
    (hasDistinctNames_varied _ _), rfl⟩
  catalogue := rfl
  product := by decide +kernel
  buildConfig := by
    intro path hpath
    cases hpath
  ruleIndex := by
    intro path hpath
    obtain rfl := Option.some.inj hpath
    decide +kernel
  parameters := by
    intro product hproduct before after hbefore hafter names name text text' _ hget hget'
    obtain rfl := Except.ok.inj (loadProduct_plain.symm.trans hproduct)
    obtain rfl := Except.ok.inj ((list_guide _ _).symm.trans hbefore)
    obtain rfl := Except.ok.inj ((list_guide _ _).symm.trans hafter)
    rw [hget] at hget'
    cases hget'
    rfl
  controls := by
    intro product controls hproduct hcontrols before after hbefore hafter
    obtain rfl := Except.ok.inj (loadProduct_plain.symm.trans hproduct)
    obtain rfl := Except.ok.inj hcontrols
    obtain rfl := Except.ok.inj ((list_controls _ _).symm.trans hbefore)
    obtain rfl := Except.ok.inj ((list_controls _ _).symm.trans hafter)
    intro names name text text' _ hget hget'
    -- the directory has one file only
    have hmem := FileTree.mem_of_get?_of_isLeaf (by simp [FileTree.isLeaf]) hget
    have hmem' := FileTree.mem_of_get?_of_isLeaf (by simp [FileTree.isLeaf]) hget'
    obtain ⟨-, rfl⟩ : name = "base.yml" ∧ text = some (policyText "") := by simpa using hmem
    obtain ⟨-, rfl⟩ : name = "base.yml" ∧ text' = some (policyText "\n  rules: [banner]") := by
      simpa using hmem'
    decide +kernel
  rules := by
    intro generator implementation hsetUp himplementation requirement hrequirement id hid
      directory hlocate
    have hlocated := locate_plain
    rw [hsetUp, Except.ok_bind, himplementation] at hlocated
    have hlist : (implementation.requirements.flatMap fun requirement =>
        requirement.ruleIds.map generator.locator.locate) = _ := Except.ok.inj hlocated
    have hmem : some directory ∈ implementation.requirements.flatMap fun requirement =>
        requirement.ruleIds.map generator.locator.locate :=
      mem_flatMap.mpr ⟨requirement, hrequirement, mem_map.mpr ⟨id, hid, hlocate⟩⟩
    rw [hlist] at hmem
    obtain rfl : directory = "/tmout" := Option.some.inj (mem_singleton.mp hmem)
    decide +kernel

end Sample

/-- What the plain content gives is generated from the embellished one too. -/
theorem Generator.generate_eq_of_plain_embellished :
    ∃ generator other, setUpWith Sample.catalogue Sample.plain Sample.settings = .ok generator ∧
      setUpWith Sample.catalogue Sample.embellished Sample.settings = .ok other ∧
      ∀ stamp stamp' type,
        (generator.generate Sample.plain stamp type).map ComponentDefinition.unstamped =
          (other.generate Sample.embellished stamp' type).map ComponentDefinition.unstamped := by
  have hstep := generate_eq_of_differUnnoticed Sample.differUnnoticed_plain_embellished
  obtain ⟨generator, hsetUp, -⟩ := Except.bind_eq_ok_iff.mp Sample.locate_plain
  rw [hsetUp] at hstep
  generalize hother :
    setUpWith Sample.catalogue Sample.embellished Sample.settings = result at hstep
  cases hstep with
  | ok hrelated => exact ⟨generator, _, hsetUp, rfl, hrelated⟩

end Compliance
