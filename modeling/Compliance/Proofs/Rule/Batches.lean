import Compliance.Proofs.Rule.Batch
import Mathlib.Data.List.Nodup

/-!
# Loading several lists of rules

Every list is loaded by itself, with its own overrides, and what it comes to goes
into one of two collections: its rules or its failures.  Either collection takes
an item only once, so it holds the first occurrences in what was offered to it
(`foldl_takeBatch`).

A rule that does not load is reported once, however many lists name it: its
failure is the same in all of them, since `Fails` does not look at overrides.
-/

namespace Compliance.RuleRepository

open List

/-! ## Items that are taken once -/

section

variable {α : Type} [DecidableEq α]

@[simp] theorem addNew_nil (taken : List α) : addNew taken [] = taken := rfl

theorem addNew_cons (taken : List α) (item : α) (items : List α) :
    addNew taken (item :: items) =
      addNew (if item ∈ taken then taken else taken ++ [item]) items :=
  rfl

theorem addNew_append (taken first second : List α) :
    addNew taken (first ++ second) = addNew (addNew taken first) second :=
  foldl_append

/-- New items are added in the order of their first occurrences. -/
theorem addNew_eq_append (taken items : List α) :
    addNew taken items = taken ++ (items.removeAll taken).eraseDups := by
  induction items generalizing taken with
  | nil => simp
  | cons item rest ih =>
      rw [addNew_cons, ih, cons_removeAll]
      by_cases hmem : item ∈ taken
      · simp [hmem]
      · -- once the item is taken, it is passed over in the rest
        have hrest : rest.removeAll (taken ++ [item]) =
            (rest.removeAll taken).filter fun other => !other == item := by
          rw [removeAll, removeAll, filter_filter]
          refine filter_congr fun other _ => ?_
          rw [Bool.eq_iff_iff]
          simp [and_comm]
        simp [hmem, eraseDups_cons, hrest]

/-- What is taken from nothing are the first occurrences. -/
theorem addNew_nil_left (items : List α) : addNew [] items = items.eraseDups := by
  simp [addNew_eq_append]

/-- No item is taken twice. -/
theorem nodup_addNew {taken : List α} (htaken : taken.Nodup) (items : List α) :
    (addNew taken items).Nodup := by
  induction items generalizing taken with
  | nil => exact htaken
  | cons item rest ih =>
      rw [addNew_cons]
      apply ih
      split
      · exact htaken
      · rename_i hmem
        rw [nodup_append_comm, singleton_append, nodup_cons]
        exact ⟨hmem, htaken⟩

/-- First occurrences are all different. -/
theorem nodup_eraseDups (items : List α) : items.eraseDups.Nodup := by
  rw [← addNew_nil_left]
  exact nodup_addNew nodup_nil items

end

/-! ## What the lists come to -/

variable (repository : RuleRepository)

/-- The rules of a list, if it loads. -/
def loaded (entries : List String) : List Rule :=
  match repository.load entries with
  | .ok rules => rules
  | .error _ => []

/-- The failures of a list, if it does not load. -/
def refused (entries : List String) : List RuleFailure :=
  match repository.load entries with
  | .error (.ruleBatch failures) => failures
  | _ => []

variable {repository}

theorem loaded_of_loadBatch_ok {entries : List String} {rules : List Rule}
    (hload : repository.loadBatch entries = .ok rules) : repository.loaded entries = rules := by
  simp [loaded, load_eq_ok_iff.mpr hload]

theorem refused_of_loadBatch_ok {entries : List String} {rules : List Rule}
    (hload : repository.loadBatch entries = .ok rules) : repository.refused entries = [] := by
  simp [refused, load_eq_ok_iff.mpr hload]

theorem loaded_of_loadBatch_error {entries : List String} {failures : List RuleFailure}
    (hload : repository.loadBatch entries = .error failures) : repository.loaded entries = [] := by
  simp [loaded, load_eq_error_iff.mpr ⟨failures, hload, rfl⟩]

theorem refused_of_loadBatch_error {entries : List String} {failures : List RuleFailure}
    (hload : repository.loadBatch entries = .error failures) :
    repository.refused entries = failures := by
  simp [refused, load_eq_error_iff.mpr ⟨failures, hload, rfl⟩]

/-- A list offers its rules or its failures, and nothing to the other collection. -/
theorem takeBatch_eq (outcome : Outcome) (entries : List String) :
    repository.takeBatch outcome entries =
      ⟨addNew outcome.rules (repository.loaded entries),
        addNew outcome.failures (repository.refused entries)⟩ := by
  unfold takeBatch
  cases hload : repository.loadBatch entries with
  | ok rules => simp [loaded_of_loadBatch_ok hload, refused_of_loadBatch_ok hload]
  | error failures => simp [loaded_of_loadBatch_error hload, refused_of_loadBatch_error hload]

/-- All lists together offer their rules and their failures in the order of the lists. -/
theorem foldl_takeBatch (outcome : Outcome) (batches : List (List String)) :
    batches.foldl repository.takeBatch outcome =
      ⟨addNew outcome.rules (batches.flatMap repository.loaded),
        addNew outcome.failures (batches.flatMap repository.refused)⟩ := by
  induction batches generalizing outcome with
  | nil => rfl
  | cons entries others ih =>
      rw [foldl_cons, ih, takeBatch_eq, flatMap_cons, flatMap_cons, addNew_append, addNew_append]

/-- A failure is offered for each rule of some list that does not load. -/
theorem mem_flatMap_refused {batches : List (List String)} {failure : RuleFailure} :
    failure ∈ batches.flatMap repository.refused ↔
      ∃ entries ∈ batches, ∃ id ∈ Override.ruleIds entries, repository.Fails id failure := by
  rw [mem_flatMap]
  refine exists_congr fun entries => and_congr_right fun _ => ?_
  cases hload : repository.loadBatch entries with
  | error failures => rw [refused_of_loadBatch_error hload, mem_of_loadBatch_error hload]
  | ok rules =>
      rw [refused_of_loadBatch_ok hload]
      have hall := exists_loadBatch_ok_iff.mp ⟨rules, hload⟩
      constructor
      · exact fun hnone => absurd hnone not_mem_nil
      · rintro ⟨id, hid, hfails⟩
        exact absurd (hall id hid) (not_loads_iff.mpr ⟨failure, hfails⟩)

/-- Nothing is offered to the failures exactly when every list loads. -/
theorem flatMap_refused_eq_nil_iff {batches : List (List String)} :
    batches.flatMap repository.refused = [] ↔
      ∀ entries ∈ batches, ∃ rules, repository.load entries = .ok rules := by
  simp only [load_eq_ok_iff, exists_loadBatch_ok_iff, eq_nil_iff_forall_not_mem,
    mem_flatMap_refused]
  constructor
  · intro hnone entries hentries id hid
    by_contra hloads
    obtain ⟨failure, hfails⟩ := not_loads_iff.mp hloads
    exact hnone failure ⟨entries, hentries, id, hid, hfails⟩
  · rintro hall failure ⟨entries, hentries, id, hid, hfails⟩
    exact not_loads_iff.mpr ⟨failure, hfails⟩ (hall entries hentries id hid)

/-- What comes of several lists: the first occurrences of their rules if nothing is refused, and the
first occurrences of what is refused otherwise. -/
theorem loadBatches_eq (repository : RuleRepository) (batches : List (List String)) :
    repository.loadBatches batches =
      if batches.flatMap repository.refused = [] then
        .ok (batches.flatMap repository.loaded).eraseDups
      else .error (.ruleBatch (batches.flatMap repository.refused).eraseDups) := by
  unfold loadBatches
  rw [foldl_takeBatch, addNew_nil_left, addNew_nil_left]
  split
  · rename_i hnone
    rw [hnone]
    rfl
  · rename_i hsome
    have hne : (batches.flatMap repository.refused).eraseDups ≠ [] := by
      rw [eq_nil_iff_forall_not_mem] at hsome
      simpa [eq_nil_iff_forall_not_mem] using hsome
    rw [Outcome.result, if_neg (by simpa using hne)]
    rfl

/-- Several lists load exactly when each of them does, as the first occurrences of their rules. -/
theorem loadBatches_eq_ok_iff {batches : List (List String)} {rules : List Rule} :
    repository.loadBatches batches = .ok rules ↔
      (∀ entries ∈ batches, ∃ rules, repository.load entries = .ok rules) ∧
        rules = (batches.flatMap repository.loaded).eraseDups := by
  rw [loadBatches_eq, ← flatMap_refused_eq_nil_iff]
  split
  · rename_i hnone
    simp [hnone, eq_comm]
  · rename_i hsome
    simp [hsome]

/-- If each of several lists loads, their rules are offered list by list. -/
theorem flatMap_loaded_of_forall₂ {batches : List (List String)} {results : List (List Rule)}
    (hresults : Forall₂ (fun entries rules => repository.load entries = .ok rules)
      batches results) :
    (∀ entries ∈ batches, ∃ rules, repository.load entries = .ok rules) ∧
      batches.flatMap repository.loaded = results.flatten := by
  induction hresults with
  | nil => simp
  | cons hload _ ih =>
      obtain ⟨hall, hflat⟩ := ih
      refine ⟨forall_mem_cons.mpr ⟨⟨_, hload⟩, hall⟩, ?_⟩
      rw [flatMap_cons, flatten_cons, hflat, loaded_of_loadBatch_ok (load_eq_ok_iff.mp hload)]

/-- If several lists load, so does each rule that one of them names. -/
theorem loads_of_loadBatches_ok {batches : List (List String)} {rules : List Rule}
    (hload : repository.loadBatches batches = .ok rules) {entries : List String}
    (hentries : entries ∈ batches) {id : String} (hid : id ∈ Override.ruleIds entries) :
    repository.Loads id := by
  obtain ⟨results, hresults⟩ := (loadBatches_eq_ok_iff.mp hload).1 entries hentries
  exact exists_loadBatch_ok_iff.mp ⟨results, load_eq_ok_iff.mp hresults⟩ id hid

/-- What comes of several lists that load is what comes of one of them. -/
theorem mem_of_loadBatches_ok {batches : List (List String)} {rules : List Rule}
    (hload : repository.loadBatches batches = .ok rules) {rule : Rule} :
    rule ∈ rules ↔ ∃ entries ∈ batches, ∃ id ∈ Override.ruleIds entries, ∃ origin,
      repository.HasOrigin id origin ∧ rule = origin.rule id (Override.overrides entries) := by
  obtain ⟨hall, rfl⟩ := loadBatches_eq_ok_iff.mp hload
  rw [mem_eraseDups, mem_flatMap]
  refine exists_congr fun entries => and_congr_right fun hentries => ?_
  obtain ⟨rules, hrules⟩ := hall entries hentries
  have hbatch := load_eq_ok_iff.mp hrules
  rw [loaded_of_loadBatch_ok hbatch, mem_of_loadBatch_ok hbatch]

/-- No rule comes out twice. -/
theorem nodup_of_loadBatches_ok {batches : List (List String)} {rules : List Rule}
    (hload : repository.loadBatches batches = .ok rules) : rules.Nodup := by
  obtain ⟨-, rfl⟩ := loadBatches_eq_ok_iff.mp hload
  exact nodup_eraseDups _

/-- If one list does not load, the first occurrences of all failures are reported. -/
theorem loadBatches_of_error {batches : List (List String)} {entries : List String}
    {failure : Failure} (hentries : entries ∈ batches)
    (hload : repository.load entries = .error failure) :
    repository.loadBatches batches =
      .error (.ruleBatch (batches.flatMap repository.refused).eraseDups) := by
  rw [loadBatches_eq, if_neg]
  intro hnone
  obtain ⟨rules, hok⟩ := flatMap_refused_eq_nil_iff.mp hnone entries hentries
  rw [hload] at hok
  cases hok

/-- Each rule that does not load is reported once. -/
theorem nodup_map_rule_refused (batches : List (List String)) :
    ((batches.flatMap repository.refused).eraseDups.map RuleFailure.rule).Nodup := by
  -- two failures of one rule are the same, since they do not depend on the list
  refine Nodup.map_on ?_ (nodup_eraseDups _)
  intro first hfirst second hsecond heq
  rw [mem_eraseDups, mem_flatMap_refused] at hfirst hsecond
  obtain ⟨_, -, id, -, hfails⟩ := hfirst
  obtain ⟨_, -, other, -, hothers⟩ := hsecond
  obtain rfl : id = other := hfails.rule_eq.symm.trans (heq.trans hothers.rule_eq)
  exact hfails.unique hothers

/-- Reported are the rules of the lists that do not load. -/
theorem mem_map_rule_refused {batches : List (List String)} {id : String} :
    id ∈ (batches.flatMap repository.refused).eraseDups.map RuleFailure.rule ↔
      (∃ entries ∈ batches, id ∈ Override.ruleIds entries) ∧ ¬ repository.Loads id := by
  simp only [mem_map, mem_eraseDups, mem_flatMap_refused, not_loads_iff]
  constructor
  · rintro ⟨failure, ⟨entries, hentries, other, hother, hfails⟩, rfl⟩
    obtain rfl : failure.rule = other := hfails.rule_eq
    exact ⟨⟨entries, hentries, hother⟩, failure, hfails⟩
  · rintro ⟨⟨entries, hentries, hid⟩, failure, hfails⟩
    exact ⟨failure, ⟨entries, hentries, id, hid, hfails⟩, hfails.rule_eq⟩

/-- Several lists load exactly when each of them does.  Then the first occurrences of their rules
come out, in the order of the lists.  Otherwise the first occurrences of the failures are reported,
and among them each rule that some list names and that does not load stands once. -/
theorem loadBatches_eq_first_occurrences (repository : RuleRepository)
    (batches : List (List String)) :
    ((∃ rules, repository.loadBatches batches = .ok rules) ↔
      ∀ entries ∈ batches, ∃ rules, repository.load entries = .ok rules) ∧
    (∀ results, Forall₂ (fun entries rules => repository.load entries = .ok rules) batches results →
      repository.loadBatches batches = .ok results.flatten.eraseDups) ∧
    ((∃ entries ∈ batches, ∃ failure, repository.load entries = .error failure) →
      ∃ failures, repository.loadBatches batches = .error (.ruleBatch failures) ∧
        failures = (batches.flatMap repository.refused).eraseDups ∧
        (failures.map RuleFailure.rule).Nodup ∧
        ∀ id, id ∈ failures.map RuleFailure.rule ↔
          (∃ entries ∈ batches, id ∈ Override.ruleIds entries) ∧ ¬ repository.Loads id) := by
  refine ⟨?_, ?_, ?_⟩
  · constructor
    · rintro ⟨rules, hload⟩
      exact (loadBatches_eq_ok_iff.mp hload).1
    · exact fun hall => ⟨_, loadBatches_eq_ok_iff.mpr ⟨hall, rfl⟩⟩
  · intro results hresults
    obtain ⟨hall, hflat⟩ := flatMap_loaded_of_forall₂ hresults
    exact loadBatches_eq_ok_iff.mpr ⟨hall, by rw [hflat]⟩
  · rintro ⟨entries, hentries, failure, hload⟩
    exact ⟨_, loadBatches_of_error hentries hload, rfl, nodup_map_rule_refused batches,
      fun id => mem_map_rule_refused⟩

/-- A rule that does not load is reported once, though two lists with other overrides name it. -/
theorem loadBatches_eq_first_occurrences_of_refused :
    ∃ failures, Sample.repository.loadBatches
        [["tmout", "banner", "timeout=300"], ["banner", "timeout=900", "sudo"]] =
          .error (.ruleBatch failures) ∧
      (failures.map RuleFailure.rule).Nodup ∧
      ∀ id, id ∈ failures.map RuleFailure.rule ↔ id = "banner" ∨ id = "sudo" := by
  have hfirst : Override.ruleIds ["tmout", "banner", "timeout=300"] = ["tmout", "banner"] := by
    decide +kernel
  have hsecond : Override.ruleIds ["banner", "timeout=900", "sudo"] = ["banner", "sudo"] := by
    decide +kernel
  have hrefused : ∃ failure, Sample.repository.load ["tmout", "banner", "timeout=300"] =
      .error failure := by
    cases hload : Sample.repository.load ["tmout", "banner", "timeout=300"] with
    | error failure => exact ⟨failure, rfl⟩
    | ok rules =>
        have hall := exists_loadBatch_ok_iff.mp ⟨rules, load_eq_ok_iff.mp hload⟩
        exact absurd (hall "banner" (by simp [hfirst])) Sample.not_loads_banner
  obtain ⟨-, -, hfailing⟩ := loadBatches_eq_first_occurrences Sample.repository
    [["tmout", "banner", "timeout=300"], ["banner", "timeout=900", "sudo"]]
  obtain ⟨failures, hload, -, hnodup, hmem⟩ := hfailing ⟨_, by simp, hrefused⟩
  refine ⟨failures, hload, hnodup, fun id => ?_⟩
  rw [hmem]
  constructor
  · rintro ⟨⟨entries, hentries, hid⟩, hloads⟩
    have hnotTmout : id ≠ "tmout" := by
      rintro rfl
      exact hloads Sample.loads_tmout
    rcases List.mem_pair.mp hentries with rfl | rfl
    · exact .inl (by simpa [hfirst, hnotTmout] using hid)
    · simpa [hsecond] using hid
  · rintro (rfl | rfl)
    · exact ⟨⟨["banner", "timeout=900", "sudo"], by simp, by simp [hsecond]⟩,
        Sample.not_loads_banner⟩
    · exact ⟨⟨["banner", "timeout=900", "sudo"], by simp, by simp [hsecond]⟩,
        Sample.not_loads_sudo⟩

end Compliance.RuleRepository
