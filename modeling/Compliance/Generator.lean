import Compliance.Catalog.Profile
import Compliance.Component.Document
import Compliance.Rule.Repository

/-!
# Generating component definitions

A generator is set up for one product, profile and policy.  The profile comes
first and then the product and the policy, so that an unknown profile or policy
is reported before any rule or parameter is looked at.

Each requirement's list of rules is loaded by itself, so that an override holds
only for the control that states it.
-/

namespace Compliance

/-- What a generator is set up for. -/
structure GeneratorSettings where
  root : Path
  vendor : Path
  product : String
  profile : String
  policy : String
  ruleIndex : Option Path := none
  buildConfig : Option Path := none
deriving Repr, DecidableEq, Inhabited

/-- All that is needed to describe a product. -/
structure Generator where
  product : Product
  profile : Profile
  index : CatalogIndex
  policies : PolicyLibrary
  parameters : ParameterStore
  locator : RuleLocator
  policyId : String

namespace Generator

/-- The directory of the control files in a content tree. -/
def controlsDirectory : String := "controls"

/-- The product of the settings, with its build configuration if there is one. -/
def loadProduct (files : FileSystem) (settings : GeneratorSettings) : Except Failure Product := do
  let product ← Product.load files settings.root settings.product
  match settings.buildConfig with
  | some path => product.withBuildConfig files path
  | none => return product

/-- The policies in a directory; one that does not exist has none. -/
def loadPolicies (files : FileSystem) (product : Product) (directory : Path) :
    Except Failure PolicyLibrary :=
  if files.isDirectory directory then PolicyLibrary.load files product directory
  else .ok PolicyLibrary.empty

/-- A generator for settings, with a way to find the controls of a profile. -/
def setUpWith (resolve : Profile → Except Failure (List Control)) (files : FileSystem)
    (settings : GeneratorSettings) : Except Failure Generator := do
  let profile := Profile.ofName settings.profile settings.vendor
  let index := CatalogIndex.build (← resolve profile)
  let product ← loadProduct files settings
  let policies ← loadPolicies files product (settings.root.join controlsDirectory)
  if (policies.policy? settings.policy).isNone then .error (policies.notFound settings.policy)
  else do
    let parameters ← ParameterStore.load files product
    let locator ← RuleLocator.forProduct files product settings.ruleIndex
    return { product, profile, index, policies, parameters, locator, policyId := settings.policy }

/-- A generator for settings, with the catalogue of the profile read from its file. -/
def setUp (files : FileSystem) (settings : GeneratorSettings) : Except Failure Generator :=
  setUpWith (Profile.resolve files) files settings

/-- What the policy implements of the profile. -/
def implementation (generator : Generator) : Except Failure Implementation :=
  Implementation.build generator.index generator.policies generator.profile.href generator.policyId

/-- The rules of the product. -/
def repository (generator : Generator) (files : FileSystem) : RuleRepository :=
  { files
    product := generator.product
    parameters := generator.parameters
    locator := generator.locator }

/-- The properties of the rules that an implementation selects. -/
def properties (generator : Generator) (files : FileSystem) (implementation : Implementation) :
    Except Failure (List Property) := do
  let rules ←
    (generator.repository files).loadBatches (implementation.requirements.map Requirement.rules)
  return Property.ofRules rules

/-- The definition for an implementation. -/
def assemble (generator : Generator) (files : FileSystem) (stamp : Stamp) (type : ComponentType)
    (implementation : Implementation) : Except Failure ComponentDefinition := do
  let product := generator.product
  let definition := ComponentDefinition.new stamp ("Component definition for " ++ product.id)
  if implementation.isEmpty then return definition
  else do
    let properties ← generator.properties files implementation
    return definition.withComponent?
      (Component.ofImplementation? stamp type product.id product.fullName properties implementation)

/-- The definition for the policy of the generator. -/
def generate (generator : Generator) (files : FileSystem) (stamp : Stamp) (type : ComponentType) :
    Except Failure ComponentDefinition := do
  generator.assemble files stamp type (← generator.implementation)

end Generator

end Compliance
