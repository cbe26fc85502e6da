import Compliance.Proofs.Rule.Override
import Compliance.Rule.Repository

/-!
# Repositories that agree on some rules

Loading lists of rules asks for one rule at a time, and only for rules that some list
names.  So two repositories that load these rules alike load the lists alike
(`loadBatches_congr`), whatever they have for other rules.
-/

namespace Compliance.RuleRepository

variable {first second : RuleRepository}

/-- Two repositories load a rule alike, whatever the overrides are. -/
def AgreeOn (first second : RuleRepository) (id : String) : Prop :=
  ∀ overrides, first.loadRule overrides id = second.loadRule overrides id

/-- Repositories that differ in their files only agree on a rule if its definition reads the same in
both.  A rule that no source knows has no definition. -/
theorem agreeOn_of_load_eq (hproduct : first.product = second.product)
    (hparameters : first.parameters = second.parameters) (hlocator : first.locator = second.locator)
    {id : String}
    (hload : ∀ directory, first.locator.locate id = some directory →
      RuleDefinition.load first.files first.product directory =
        RuleDefinition.load second.files first.product directory) :
    AgreeOn first second id := by
  intro overrides
  rw [loadRule, loadRule, ← hlocator, ← hproduct, ← hparameters]
  cases hlocate : first.locator.locate id with
  | none => rfl
  | some directory =>
      simp only
      rw [hload directory hlocate]

theorem attempt_congr (overrides : Table String) {ids : List String}
    (hagree : ∀ id ∈ ids, AgreeOn first second id) :
    first.attempt overrides ids = second.attempt overrides ids := by
  induction ids with
  | nil => rfl
  | cons id others ih =>
      have hid := hagree id List.mem_cons_self overrides
      have hothers := ih fun other hother => hagree other (List.mem_cons_of_mem _ hother)
      rw [attempt, attempt, hid, hothers]

theorem loadBatch_congr {entries : List String}
    (hagree : ∀ id ∈ Override.ruleIds entries, AgreeOn first second id) :
    first.loadBatch entries = second.loadBatch entries := by
  simp only [loadBatch, Override.split_eq]
  rw [attempt_congr _ hagree]

/-- Repositories that agree on the rules of some lists load the lists alike. -/
theorem loadBatches_congr {batches : List (List String)}
    (hagree : ∀ entries ∈ batches, ∀ id ∈ Override.ruleIds entries, AgreeOn first second id) :
    first.loadBatches batches = second.loadBatches batches := by
  -- the outcome so far is the same in both runs, whatever it is
  have hfoldl : ∀ outcome, batches.foldl first.takeBatch outcome =
      batches.foldl second.takeBatch outcome := by
    induction batches with
    | nil => exact fun _ => rfl
    | cons entries others ih =>
        intro outcome
        have hentries : first.takeBatch outcome entries = second.takeBatch outcome entries := by
          rw [takeBatch, takeBatch, loadBatch_congr (hagree entries List.mem_cons_self)]
        rw [List.foldl_cons, List.foldl_cons, hentries]
        exact ih (fun other hother => hagree other (List.mem_cons_of_mem _ hother)) _
  rw [loadBatches, loadBatches, hfoldl]

end Compliance.RuleRepository
