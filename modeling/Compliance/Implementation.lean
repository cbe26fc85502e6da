import Compliance.Catalog.Index
import Compliance.Policy.Library

/-!
# Control implementations

A policy implements those of its controls that the catalogue of a profile knows;
the others are skipped.  Both keep the order of the policy.
-/

namespace Compliance

/-- A control of a catalogue that a policy implements. -/
structure Requirement where
  controlId : String
  description : String
  status : ControlStatus
  /-- The selected rules, with overrides among them. -/
  rules : List String
deriving Repr, DecidableEq, Inhabited

/-- The requirements that a policy implements. -/
structure Implementation where
  policyId : String
  /-- The reference to the profile. -/
  source : String
  requirements : List Requirement
  /-- The controls of the policy that the catalogue does not know. -/
  skipped : List String
deriving Repr, DecidableEq, Inhabited

/-- The selected rules, without the overrides. -/
def Requirement.ruleIds (requirement : Requirement) : List String :=
  Override.ruleIds requirement.rules

namespace Implementation

/-- The requirement of a control, if the catalogue knows it. -/
def requirement? (index : CatalogIndex) (control : PolicyControl) : Option Requirement :=
  (index.resolve control.id).map fun controlId =>
    { controlId
      description := control.notes.getD ""
      status := control.status
      rules := control.rules }

/-- What controls of a policy come to. -/
def ofControls (index : CatalogIndex) (policyId source : String) (controls : List PolicyControl) :
    Implementation :=
  { policyId
    source
    requirements := controls.filterMap (requirement? index)
    skipped := (controls.filter fun control => (index.resolve control.id).isNone).map
      PolicyControl.id }

/-- What a policy of a library implements. -/
def build (index : CatalogIndex) (library : PolicyLibrary) (source policyId : String) :
    Except Failure Implementation := do
  return ofControls index policyId source (← library.controls policyId)

/-- Whether the policy implements nothing. -/
def isEmpty (implementation : Implementation) : Bool := implementation.requirements.isEmpty

end Implementation

end Compliance
