import Mathlib.Data.List.Basic
import Compliance.Implementation
import Compliance.Proofs.Catalog.Index
import Compliance.Proofs.Policy.Addresses

/-!
# Which controls a policy implements

A policy lists its controls at all nesting levels.  Each of them goes to one of two
lists: it becomes a requirement if the catalogue knows its name, and is skipped
otherwise.  Both lists keep the order of the policy, and together they are as long
as the policy has controls.

The index of a catalogue never gives away an identifier that it does not know
(`contains_of_resolve_build`), so the requirements are about known controls only.
-/

namespace Compliance

/-- What a name stands for is a known identifier. -/
theorem CatalogIndex.contains_of_resolve_build {forest : List Control} {name id : String}
    (hresolve : (build forest).resolve name = some id) : (build forest).contains id = true := by
  rw [resolve] at hresolve
  split at hresolve
  · rename_i found hlabel
    obtain rfl := Option.some.inj hresolve
    exact contains_build_of_get?_byLabel hlabel
  · split at hresolve
    · rename_i hcontains
      obtain rfl := Option.some.inj hresolve
      exact hcontains
    · cases hresolve

namespace Implementation

open List

variable {index : CatalogIndex}

/-- A requirement says what the policy says of a control, under the identifier that the name of the
control stands for. -/
structure Answers (index : CatalogIndex) (control : PolicyControl) (requirement : Requirement) :
    Prop where
  controlId : index.resolve control.id = some requirement.controlId
  description : requirement.description = control.notes.getD ""
  status : requirement.status = control.status
  rules : requirement.rules = control.rules

theorem requirement?_eq_none_iff {control : PolicyControl} :
    requirement? index control = none ↔ index.resolve control.id = none := by
  simp [requirement?]

theorem answers_of_requirement?_eq_some {control : PolicyControl} {requirement : Requirement}
    (hrequirement : requirement? index control = some requirement) :
    Answers index control requirement := by
  obtain ⟨controlId, hresolve, rfl⟩ := Option.map_eq_some_iff.mp hrequirement
  exact ⟨hresolve, rfl, rfl, rfl⟩

/-- The requirements answer, one by one, the controls that the index knows. -/
theorem forall₂_answers (index : CatalogIndex) (controls : List PolicyControl) :
    Forall₂ (Answers index)
      (controls.filter fun control => (index.resolve control.id).isSome)
      (controls.filterMap (requirement? index)) := by
  induction controls with
  | nil => exact .nil
  | cons control others ih =>
      cases hrequirement : requirement? index control with
      | none =>
          have hresolve := requirement?_eq_none_iff.mp hrequirement
          rw [filterMap_cons_none hrequirement, filter_cons_of_neg (by simp [hresolve])]
          exact ih
      | some requirement =>
          have hanswers := answers_of_requirement?_eq_some hrequirement
          rw [filterMap_cons_some hrequirement, filter_cons_of_pos (by simp [hanswers.controlId])]
          exact .cons hanswers ih

/-- Each control becomes a requirement or is skipped. -/
theorem length_requirements_add_length_skipped (index : CatalogIndex) (policyId source : String)
    (controls : List PolicyControl) :
    (ofControls index policyId source controls).requirements.length +
      (ofControls index policyId source controls).skipped.length = controls.length := by
  rw [controls.length_eq_length_filter_add fun control => (index.resolve control.id).isSome,
    (forall₂_answers index controls).length_eq, ofControls, length_map]
  simp only [Option.not_isSome]

/-- The requirements of a policy are about controls that the catalogue knows. -/
theorem contains_of_mem_requirements {forest : List Control} {policyId source : String}
    {controls : List PolicyControl} {requirement : Requirement}
    (hmem : requirement ∈ (ofControls (.build forest) policyId source controls).requirements) :
    (CatalogIndex.build forest).contains requirement.controlId = true := by
  obtain ⟨control, -, hrequirement⟩ := mem_filterMap.mp hmem
  exact CatalogIndex.contains_of_resolve_build
    (answers_of_requirement?_eq_some hrequirement).controlId

/-- An unknown policy is the only failure.  A known one is implemented by one requirement for each
of its controls that the catalogue knows, at all nesting levels and in the order of the policy, and
the other controls are skipped in the same order. -/
theorem build_accounts_for_every_control (forest : List Control) (library : PolicyLibrary)
    (source policyId : String) :
    let index := CatalogIndex.build forest
    (library.policy? policyId = none →
      build index library source policyId =
        .error (.policyNotFound policyId (library.invalid.map fun file => .content file.2))) ∧
    ∀ file, library.policy? policyId = some file →
      ∃ addresses controls implementation,
        PolicyControl.InPreorder file.controls addresses controls ∧
        build index library source policyId = .ok implementation ∧
        implementation.policyId = policyId ∧ implementation.source = source ∧
        Forall₂ (Answers index)
          (controls.filter fun control => (index.resolve control.id).isSome)
          implementation.requirements ∧
        implementation.skipped =
          (controls.filter fun control => (index.resolve control.id).isNone).map
            PolicyControl.id ∧
        implementation.requirements.length + implementation.skipped.length = addresses.length ∧
        ∀ requirement ∈ implementation.requirements,
          index.contains requirement.controlId = true := by
  intro index
  constructor
  · intro hunknown
    rw [build, PolicyLibrary.controls, hunknown]
    rfl
  · intro file hknown
    have hpreorder := PolicyControl.inPreorder_flattenAll file.controls
    refine ⟨_, file.flattened, ofControls index policyId source file.flattened, hpreorder, ?_, rfl,
      rfl, forall₂_answers index file.flattened, rfl, ?_, fun _ => contains_of_mem_requirements⟩
    · rw [build, PolicyLibrary.controls, hknown]
      rfl
    · rw [length_requirements_add_length_skipped, hpreorder.listed.length_eq]
      rfl

end Implementation

/-! ## A policy to look at -/

namespace Sample

/-- A policy in which a control that the catalogue does not know has a known one below it. -/
def nestedPolicy : ControlFile :=
  { policy := "Nested", title := none, id := "nested", version := none, source := none
    controls :=
      [{ id := "ZZ", rules := ["sudo"], children := [{ id := "AC-1", notes := some "kept" }] },
        { id := "si", status := .manual, rules := ["tmout", "timeout=9"] }] }

def nestedLibrary : PolicyLibrary := PolicyLibrary.empty.add nestedPolicy

def labelled : List Control := [.mk "ac" (some "AC-1") none [], .mk "si" none none []]

end Sample

/-- Two of three controls are implemented, and the outermost of them is not; another policy is not
there. -/
theorem Implementation.build_accounts_for_nested_controls :
    build (.build Sample.labelled) Sample.nestedLibrary "p" "other" =
        .error (.policyNotFound "other" []) ∧
      Sample.nestedLibrary.policy? "nested" = some Sample.nestedPolicy ∧
      ∃ implementation,
        build (.build Sample.labelled) Sample.nestedLibrary "p" "nested" = .ok implementation ∧
        implementation.requirements.map Requirement.controlId = ["ac", "si"] ∧
        implementation.skipped = ["ZZ"] := by
  have hknown : Sample.nestedLibrary.policy? "nested" = some Sample.nestedPolicy := rfl
  obtain ⟨hfails, -⟩ :=
    build_accounts_for_every_control Sample.labelled Sample.nestedLibrary "p" "other"
  obtain ⟨-, hbuilds⟩ :=
    build_accounts_for_every_control Sample.labelled Sample.nestedLibrary "p" "nested"
  obtain ⟨_, _, implementation, -, hbuild, -⟩ := hbuilds _ hknown
  refine ⟨hfails rfl, hknown, implementation, hbuild, ?_⟩
  have hseen : (build (.build Sample.labelled) Sample.nestedLibrary "p" "nested").toOption.map
      (fun implementation => (implementation.requirements.map Requirement.controlId,
        implementation.skipped)) = some (["ac", "si"], ["ZZ"]) := by
    decide +kernel
  rw [hbuild] at hseen
  exact Prod.mk.inj (Option.some.inj hseen)

end Compliance
