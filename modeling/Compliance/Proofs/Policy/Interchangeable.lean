import Compliance.Implementation
import Compliance.Proofs.Policy.Library
import Mathlib.Data.List.Forall2

/-!
# Control files that come to the same

Of a control file it matters whether it holds the policy in question, and if so which of
its controls the catalogue knows and what it says of these.  Two files that are the same
in this are interchangeable.

Where files are interchangeable one by one, a library has the policy in both cases or in
neither, and the same is seen of it (`map_seenBy_policy?_eq`).  This is enough to know
what the policy implements (`ofControls_eq_of_map_seenBy_eq`).
-/

namespace Compliance

open List

/-! ## Controls -/

/-- What a policy says of a control. -/
structure PolicyControl.Statement where
  rules : List String
  notes : Option String
  status : ControlStatus
deriving DecidableEq

/-- What a catalogue sees of a control: its name, and what the policy says of it if the catalogue
knows the name. -/
def PolicyControl.seenBy (index : CatalogIndex) (control : PolicyControl) :
    String × Option Statement :=
  (control.id, (index.resolve control.id).map fun _ =>
    { rules := control.rules, notes := control.notes, status := control.status })

namespace Implementation

variable {index : CatalogIndex}

theorem requirement?_eq_bind_seenBy (control : PolicyControl) :
    requirement? index control =
      (control.seenBy index).2.bind fun said =>
        (index.resolve (control.seenBy index).1).map fun controlId =>
          { controlId
            description := said.notes.getD ""
            status := said.status
            rules := said.rules } := by
  rw [requirement?, PolicyControl.seenBy]
  cases index.resolve control.id <;> rfl

/-- What a policy implements depends on what the catalogue sees of its controls only. -/
theorem ofControls_eq_of_map_seenBy_eq {first second : List PolicyControl}
    (hseen : first.map (PolicyControl.seenBy index) = second.map (PolicyControl.seenBy index))
    (policyId source : String) :
    ofControls index policyId source first = ofControls index policyId source second := by
  have hrequirements : ∀ controls : List PolicyControl,
      controls.filterMap (requirement? index) =
        (controls.map (PolicyControl.seenBy index)).filterMap fun seen =>
          seen.2.bind fun said => (index.resolve seen.1).map fun controlId =>
            { controlId
              description := said.notes.getD ""
              status := said.status
              rules := said.rules } := by
    intro controls
    rw [filterMap_map]
    exact filterMap_congr fun control _ => requirement?_eq_bind_seenBy control
  -- of a control that is skipped only the name is kept
  have hskipped : ∀ controls : List PolicyControl,
      (controls.filter fun control => (index.resolve control.id).isNone).map PolicyControl.id =
        ((controls.map (PolicyControl.seenBy index)).map (·.1)).filter fun id =>
          (index.resolve id).isNone := by
    intro controls
    rw [map_map, filter_map]
    rfl
  rw [ofControls, ofControls, hrequirements, hrequirements, hskipped, hskipped, hseen]

end Implementation

/-! ## Control files -/

/-- The policy with an identifier, if a text holds it. -/
def ControlFile.chosen? (product : Product) (id : String) (text : Option String) :
    Option ControlFile :=
  (text.bind fun text => (ControlFile.parse (product.substitute text)).toOption).filter
    fun policy => policy.id = id

/-- What a catalogue sees of the controls of a policy at all levels. -/
def ControlFile.seenBy (index : CatalogIndex) (policy : ControlFile) :
    List (String × Option PolicyControl.Statement) :=
  policy.flattened.map (PolicyControl.seenBy index)

/-- Neither text holds the policy, be it that it cannot be read or that it holds another one; or
both do, and the catalogue sees the same of it. -/
def ControlFile.Interchangeable (product : Product) (index : CatalogIndex) (id : String)
    (first second : Option String) : Prop :=
  (chosen? product id first).map (seenBy index) = (chosen? product id second).map (seenBy index)

instance (product : Product) (index : CatalogIndex) (id : String) (first second : Option String) :
    Decidable (ControlFile.Interchangeable product index id first second) :=
  inferInstanceAs (Decidable (_ = _))

namespace PolicyLibrary

variable {product : Product} {index : CatalogIndex} {id : String}

theorem toOption_policyOf (product : Product) (found : FileTree.Found) :
    (policyOf product found).toOption =
      found.2.toOption.bind fun text =>
        (ControlFile.parse (product.substitute text)).toOption := by
  obtain ⟨path, content⟩ := found
  cases content with
  | error fault => rfl
  | ok text =>
      rw [policyOf, Except.mapError, Except.ok_bind, Except.toOption, Option.bind_some]
      cases ControlFile.parse (product.substitute text) <;> rfl

/-- A library has the policy of the last file that holds it. -/
theorem policy?_foldl_eq_getLast? (found : List FileTree.Found) :
    (found.foldl (addFound product) empty).policy? id =
      (found.filterMap fun file => ControlFile.chosen? product id file.2.toOption).getLast? := by
  have hempty : empty.policy? id = none := rfl
  rw [policy?_foldl_addFound, hempty, Option.or_none, usable, filter_filterMap]
  simp only [toOption_policyOf]
  rfl

/-- The same is seen of a policy if the files are interchangeable one by one. -/
theorem map_seenBy_policy?_eq {first second : List FileTree.Found}
    (hfiles : Forall₂ (fun file other => file.1 = other.1 ∧
      ControlFile.Interchangeable product index id file.2.toOption other.2.toOption) first second) :
    ((first.foldl (addFound product) empty).policy? id).map (ControlFile.seenBy index) =
      ((second.foldl (addFound product) empty).policy? id).map (ControlFile.seenBy index) := by
  have hseen : first.filterMap (fun file =>
        (ControlFile.chosen? product id file.2.toOption).map (ControlFile.seenBy index)) =
      second.filterMap fun file =>
        (ControlFile.chosen? product id file.2.toOption).map (ControlFile.seenBy index) := by
    induction hfiles with
    | nil => rfl
    | cons hhead _ ih => rw [filterMap_cons, filterMap_cons, hhead.2, ih]
  rw [policy?_foldl_eq_getLast?, policy?_foldl_eq_getLast?, ← getLast?_map, ← getLast?_map,
    map_filterMap, map_filterMap, hseen]

end PolicyLibrary

end Compliance
