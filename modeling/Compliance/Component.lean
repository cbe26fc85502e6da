import Compliance.Component.Timestamp
import Compliance.Component.Uuid
import Compliance.Implementation
import Compliance.Property
import Compliance.Text.Lowercase

/-!
# Component definitions

A component definition describes products as components: which controls each of
them implements, with which rules, and the properties of those rules.

What differs from run to run, the identifiers and the time, is given by a
`Stamp`.
-/

namespace Compliance

/-- What kind of component is described. -/
inductive ComponentType where
  | service
  | validation
deriving Repr, DecidableEq, Inhabited

namespace ComponentType

/-- The word for a type. -/
def word : ComponentType → String
  | service => "service"
  | validation => "validation"

/-- The type that a word stands for, in lower or in upper case. -/
def parse (text : String) : Except String ComponentType :=
  let lower := Text.lowercase text
  if lower = service.word then .ok service
  else if lower = validation.word then .ok validation
  else .error
    ("unknown component type '" ++ lower ++ "', expected service or validation")

end ComponentType

/-- What is known about a whole document. -/
structure Metadata where
  title : String
  lastModified : Timestamp
  version : String
  schemaVersion : String
deriving DecidableEq, Inhabited

/-- A property of a requirement. -/
structure RequirementProperty where
  name : String
  value : String
deriving Repr, DecidableEq, Inhabited

/-- A requirement as a document has it. -/
structure RequirementEntry where
  uuid : Uuid
  controlId : String
  description : String
  properties : List RequirementProperty
deriving DecidableEq, Inhabited

/-- A control implementation as a document has it. -/
structure ImplementationEntry where
  uuid : Uuid
  source : String
  description : String
  requirements : List RequirementEntry
deriving DecidableEq, Inhabited

/-- A component. -/
structure Component where
  uuid : Uuid
  type : ComponentType
  title : String
  description : String
  properties : List Property
  implementations : List ImplementationEntry
deriving DecidableEq, Inhabited

/-- A component definition. -/
structure ComponentDefinition where
  uuid : Uuid
  metadata : Metadata
  components : List Component
deriving DecidableEq, Inhabited

/-- The identifiers and the time of one run. -/
structure Stamp where
  uuid : Nat → Uuid
  time : Timestamp

namespace RequirementEntry

/-- The name of the property with the state of implementation. -/
def stateName : String := "implementation-status"

/-- The properties of a requirement: its rules, and the state of implementation if there is one. -/
def propertiesOf (requirement : Requirement) : List RequirementProperty :=
  requirement.ruleIds.map (RequirementProperty.mk Property.ruleId) ++
    (requirement.status.implementationState?.map (RequirementProperty.mk stateName)).toList

/-- The entry of a requirement. -/
def ofRequirement (uuid : Uuid) (requirement : Requirement) : RequirementEntry :=
  { uuid
    controlId := requirement.controlId
    description := requirement.description
    properties := propertiesOf requirement }

end RequirementEntry

/-- The entries of requirements, whose identifiers start at a number. -/
def requirementEntries (stamp : Stamp) : (start : Nat) → List Requirement → List RequirementEntry
  | _, [] => []
  | start, requirement :: others =>
    .ofRequirement (stamp.uuid start) requirement :: requirementEntries stamp (start + 1) others

/-- The entry of a control implementation. -/
def ImplementationEntry.ofImplementation (stamp : Stamp) (implementation : Implementation) :
    ImplementationEntry :=
  { uuid := stamp.uuid 2
    source := implementation.source
    description := "Control implementation for " ++ implementation.policyId
    requirements := requirementEntries stamp 3 implementation.requirements }

/-- The component of a control implementation, if that has any requirements. -/
def Component.ofImplementation? (stamp : Stamp) (type : ComponentType) (title description : String)
    (properties : List Property) (implementation : Implementation) : Option Component :=
  if implementation.isEmpty then none
  else some
    { uuid := stamp.uuid 1
      type
      title
      description
      properties
      implementations := [.ofImplementation stamp implementation] }

namespace ComponentDefinition

/-- The version of a document unless another one is given. -/
def defaultVersion : String := "1.0"

/-- The version of the schema of the documents. -/
def schemaVersion : String := "1.1.2"

/-- A definition without components. -/
def new (stamp : Stamp) (title : String) : ComponentDefinition :=
  { uuid := stamp.uuid 0
    metadata := { title, lastModified := stamp.time, version := defaultVersion, schemaVersion }
    components := [] }

/-- Sets the version of the document. -/
def withVersion (definition : ComponentDefinition) (version : String) : ComponentDefinition :=
  { definition with metadata := { definition.metadata with version } }

/-- Adds a component, if there is one. -/
def withComponent? (definition : ComponentDefinition) (component : Option Component) :
    ComponentDefinition :=
  { definition with components := definition.components ++ component.toList }

end ComponentDefinition

end Compliance
