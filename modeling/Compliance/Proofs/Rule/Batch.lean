import Compliance.Proofs.Rule.Loading
import Mathlib.Data.List.Forall2

/-!
# Loading a list of rules

One pass over a list tries every rule, so that what comes out splits the list in
two: the rules that load and the failures of those that do not, both in the order
of the list and with repetitions.  Either all rules load and come out, or the
failures do; nothing else is possible (`loadBatch_cases`).
-/

namespace Compliance.RuleRepository

open List

variable {repository : RuleRepository}

/-! ## One pass -/

theorem attempt_cons_of_ok {overrides : Table String} {id : String} {rule : Rule}
    (hload : repository.loadRule overrides id = .ok rule) (others : List String) :
    repository.attempt overrides (id :: others) =
      ⟨rule :: (repository.attempt overrides others).rules,
        (repository.attempt overrides others).failures⟩ := by
  simp [attempt, hload]

theorem attempt_cons_of_error {overrides : Table String} {id : String} {failure : RuleFailure}
    (hload : repository.loadRule overrides id = .error failure) (others : List String) :
    repository.attempt overrides (id :: others) =
      ⟨(repository.attempt overrides others).rules,
        failure :: (repository.attempt overrides others).failures⟩ := by
  simp [attempt, hload]

/-- A pass gives a rule for each that loads and a failure for each that does not. -/
theorem attempt_spec (repository : RuleRepository) (overrides : Table String)
    (ids : List String) :
    Forall₂ (fun id rule => repository.loadRule overrides id = .ok rule)
        (ids.filter fun id => repository.Loads id) (repository.attempt overrides ids).rules ∧
      Forall₂ repository.Fails (ids.filter fun id => ¬ repository.Loads id)
        (repository.attempt overrides ids).failures := by
  -- a rule extends one of the two sides, and the other side stays as it is
  induction ids with
  | nil => exact ⟨.nil, .nil⟩
  | cons id others ih =>
      obtain ⟨hrules, hfailures⟩ := ih
      rcases exists_origin_or_failure repository id with hloads | ⟨failure, hfails⟩
      · obtain ⟨origin, horigin⟩ := hloads
        have hload := horigin.loadRule overrides
        have hloads : repository.Loads id := ⟨origin, horigin⟩
        rw [attempt_cons_of_ok hload, filter_cons_of_pos (by simpa using hloads),
          filter_cons_of_neg (by simpa using hloads)]
        exact ⟨.cons hload hrules, hfailures⟩
      · have hload := hfails.loadRule overrides
        have hloads : ¬ repository.Loads id := not_loads_iff.mpr ⟨failure, hfails⟩
        rw [attempt_cons_of_error hload, filter_cons_of_neg (by simpa using hloads),
          filter_cons_of_pos (by simpa using hloads)]
        exact ⟨hrules, .cons hfails hfailures⟩

/-! ## The whole list -/

/-- All rules of a list load and come out, or the failures of those that do not. -/
theorem loadBatch_cases (repository : RuleRepository) (entries : List String) :
    (∃ rules, repository.loadBatch entries = .ok rules ∧
        (∀ id ∈ Override.ruleIds entries, repository.Loads id) ∧
        Forall₂ (fun id rule => repository.loadRule (Override.overrides entries) id = .ok rule)
          (Override.ruleIds entries) rules) ∨
      ∃ failures, repository.loadBatch entries = .error failures ∧ failures ≠ [] ∧
        Forall₂ repository.Fails
          ((Override.ruleIds entries).filter fun id => ¬ repository.Loads id) failures := by
  obtain ⟨hrules, hfailures⟩ :=
    attempt_spec repository (Override.overrides entries) (Override.ruleIds entries)
  simp only [loadBatch, Override.split_eq, Outcome.result]
  by_cases hempty : (repository.attempt (Override.overrides entries)
      (Override.ruleIds entries)).failures = []
  · rw [hempty, forall₂_nil_right_iff, filter_eq_nil_iff] at hfailures
    have hall : ∀ id ∈ Override.ruleIds entries, repository.Loads id := by
      simpa using hfailures
    rw [filter_eq_self.mpr (by simpa using hall)] at hrules
    exact .inl ⟨_, by simp [hempty], hall, hrules⟩
  · exact .inr ⟨_, by simp [hempty], hempty, hfailures⟩

/-- The rules of a list that loads: one for each of its identifiers, in their order. -/
theorem forall₂_of_loadBatch_ok {entries : List String} {rules : List Rule}
    (hload : repository.loadBatch entries = .ok rules) :
    Forall₂ (fun id rule => repository.loadRule (Override.overrides entries) id = .ok rule)
      (Override.ruleIds entries) rules := by
  rcases loadBatch_cases repository entries with ⟨loaded, hok, -, hloaded⟩ | ⟨failures, herror, -⟩
  · rw [hok] at hload
    rwa [← Except.ok.inj hload]
  · rw [herror] at hload
    cases hload

/-- The failures of a list that does not load: one for each of its identifiers that does not load,
in their order, and at least one. -/
theorem forall₂_of_loadBatch_error {entries : List String} {failures : List RuleFailure}
    (hload : repository.loadBatch entries = .error failures) :
    failures ≠ [] ∧ Forall₂ repository.Fails
      ((Override.ruleIds entries).filter fun id => ¬ repository.Loads id) failures := by
  rcases loadBatch_cases repository entries with ⟨rules, hok, -⟩ | ⟨found, herror, hfound⟩
  · rw [hok] at hload
    cases hload
  · rw [herror] at hload
    rwa [← Except.error.inj hload]

/-- The rules of a list that loads have its identifiers. -/
theorem map_id_of_loadBatch_ok {entries : List String} {rules : List Rule}
    (hload : repository.loadBatch entries = .ok rules) :
    rules.map Rule.id = Override.ruleIds entries := by
  have hids : Forall₂ (fun id rule => id = rule.id) (Override.ruleIds entries) rules := by
    refine (forall₂_of_loadBatch_ok hload).imp fun id rule hrule => ?_
    obtain ⟨origin, -, rfl⟩ := loadRule_eq_ok_iff.mp hrule
    exact (origin.id_rule id _).symm
  rw [← forall₂_map_right_iff, forall₂_eq_eq_eq] at hids
  exact hids.symm

/-- The failures of a list that does not load name what does not load of its identifiers. -/
theorem map_rule_of_loadBatch_error {entries : List String} {failures : List RuleFailure}
    (hload : repository.loadBatch entries = .error failures) :
    failures.map RuleFailure.rule =
      (Override.ruleIds entries).filter fun id => ¬ repository.Loads id := by
  have hids := (forall₂_of_loadBatch_error hload).2.imp fun _ _ hfails => hfails.rule_eq.symm
  rw [← forall₂_map_right_iff, forall₂_eq_eq_eq] at hids
  exact hids.symm

/-- A list loads exactly when each of its rules does. -/
theorem exists_loadBatch_ok_iff {entries : List String} :
    (∃ rules, repository.loadBatch entries = .ok rules) ↔
      ∀ id ∈ Override.ruleIds entries, repository.Loads id := by
  rcases loadBatch_cases repository entries with ⟨rules, hok, hall, -⟩ |
    ⟨failures, herror, hne, -⟩
  · exact ⟨fun _ => hall, fun _ => ⟨rules, hok⟩⟩
  · constructor
    · rintro ⟨rules, hok⟩
      rw [herror] at hok
      cases hok
    · intro hall
      have hnone : failures.map RuleFailure.rule = [] := by
        rw [map_rule_of_loadBatch_error herror]
        simpa [filter_eq_nil_iff] using hall
      exact absurd (map_eq_nil_iff.mp hnone) hne

theorem rightUnique_fails (repository : RuleRepository) :
    Relator.RightUnique repository.Fails :=
  fun _ _ _ hfirst hsecond => hfirst.unique hsecond

/-! ## Members -/

private theorem mem_iff_of_forall₂ {α β : Type*} {R : α → β → Prop}
    (hunique : Relator.RightUnique R) {inputs : List α} {outputs : List β}
    (hrelated : Forall₂ R inputs outputs) {output : β} :
    output ∈ outputs ↔ ∃ input ∈ inputs, R input output := by
  induction hrelated with
  | nil => simp
  | @cons input result inputs outputs hhead hrest ih =>
      simp only [mem_cons, ih, exists_eq_or_imp]
      have hresult : output = result ↔ R input output :=
        ⟨fun heq => heq ▸ hhead, fun hother => hunique hother hhead⟩
      rw [hresult]

/-- The rules of a list that loads are those that come of its identifiers. -/
theorem mem_of_loadBatch_ok {entries : List String} {rules : List Rule}
    (hload : repository.loadBatch entries = .ok rules) {rule : Rule} :
    rule ∈ rules ↔ ∃ id ∈ Override.ruleIds entries, ∃ origin, repository.HasOrigin id origin ∧
      rule = origin.rule id (Override.overrides entries) := by
  have hunique : Relator.RightUnique fun id rule =>
      repository.loadRule (Override.overrides entries) id = .ok rule :=
    fun _ _ _ hfirst hsecond => Except.ok.inj (hfirst.symm.trans hsecond)
  simp only [mem_iff_of_forall₂ hunique (forall₂_of_loadBatch_ok hload), loadRule_eq_ok_iff]

/-- The failures of a list that does not load are those of its identifiers. -/
theorem mem_of_loadBatch_error {entries : List String} {failures : List RuleFailure}
    (hload : repository.loadBatch entries = .error failures) {failure : RuleFailure} :
    failure ∈ failures ↔ ∃ id ∈ Override.ruleIds entries, repository.Fails id failure := by
  rw [mem_iff_of_forall₂ repository.rightUnique_fails (forall₂_of_loadBatch_error hload).2]
  constructor
  · rintro ⟨id, hid, hfails⟩
    exact ⟨id, (mem_filter.mp hid).1, hfails⟩
  · rintro ⟨id, hid, hfails⟩
    exact ⟨id, mem_filter.mpr ⟨hid, by simpa using not_loads_iff.mpr ⟨failure, hfails⟩⟩, hfails⟩

/-! ## The statement for callers -/

theorem load_eq_ok_iff {entries : List String} {rules : List Rule} :
    repository.load entries = .ok rules ↔ repository.loadBatch entries = .ok rules :=
  Except.mapError_eq_ok_iff

theorem load_eq_error_iff {entries : List String} {failure : Failure} :
    repository.load entries = .error failure ↔
      ∃ failures, repository.loadBatch entries = .error failures ∧
        failure = .ruleBatch failures :=
  Except.mapError_eq_error_iff

/-- A list loads exactly when all of its rules do.  Then a rule comes out for each identifier, in
their order; otherwise nothing comes out but the failures of exactly the identifiers that do not
load, in their order and as often as they stand in the list.  A list of overrides loads as no
rules. -/
theorem load_complete (repository : RuleRepository) (entries : List String) :
    let ids := entries.filter fun entry => ¬ Override.IsOverride entry
    ((∃ rules, repository.load entries = .ok rules) ↔ ∀ id ∈ ids, repository.Loads id) ∧
    (∀ rules, repository.load entries = .ok rules →
      rules.length = ids.length ∧ rules.map Rule.id = ids) ∧
    ((∃ id ∈ ids, ¬ repository.Loads id) →
      ∃ failures, repository.load entries = .error (.ruleBatch failures) ∧ failures ≠ [] ∧
        failures.map RuleFailure.rule = ids.filter fun id => ¬ repository.Loads id) ∧
    ((∀ entry ∈ entries, Override.IsOverride entry) → repository.load entries = .ok []) := by
  intro ids
  have hids : Override.ruleIds entries = ids := Override.ruleIds_eq_filter entries
  have hok : (∃ rules, repository.load entries = .ok rules) ↔ ∀ id ∈ ids, repository.Loads id := by
    simp only [load_eq_ok_iff, exists_loadBatch_ok_iff, hids]
  have hrules : ∀ rules, repository.load entries = .ok rules → rules.map Rule.id = ids := by
    intro rules hload
    rw [map_id_of_loadBatch_ok (load_eq_ok_iff.mp hload), hids]
  refine ⟨hok, ?_, ?_, ?_⟩
  · intro rules hload
    exact ⟨by rw [← hrules rules hload, length_map], hrules rules hload⟩
  · rintro ⟨id, hid, hloads⟩
    cases hload : repository.load entries with
    | ok rules => exact absurd (hok.mp ⟨rules, hload⟩ id hid) hloads
    | error failure =>
        obtain ⟨failures, hbatch, rfl⟩ := load_eq_error_iff.mp hload
        refine ⟨failures, rfl, (forall₂_of_loadBatch_error hbatch).1, ?_⟩
        rw [map_rule_of_loadBatch_error hbatch, hids]
  · intro hall
    have hnone : ids = [] := by simpa [ids, filter_eq_nil_iff] using hall
    obtain ⟨rules, hload⟩ := hok.mpr (by simp [hnone])
    have hempty := hrules rules hload
    rw [hnone, map_eq_nil_iff] at hempty
    rw [hload, hempty]

/-- Two rules of a list do not load, and one of them stands in it twice. -/
theorem load_complete_of_mixed_entries :
    ∃ failures, Sample.repository.load
        ["tmout", "banner", "timeout=900", "sudo", "tmout", "banner"] =
          .error (.ruleBatch failures) ∧
      failures.map RuleFailure.rule = ["banner", "sudo", "banner"] := by
  have hids : (["tmout", "banner", "timeout=900", "sudo", "tmout", "banner"].filter
      fun entry => ¬ Override.IsOverride entry) =
        ["tmout", "banner", "sudo", "tmout", "banner"] := by
    decide +kernel
  have hcomplete := load_complete Sample.repository
    ["tmout", "banner", "timeout=900", "sudo", "tmout", "banner"]
  simp only [hids] at hcomplete
  obtain ⟨-, -, hfailing, -⟩ := hcomplete
  obtain ⟨failures, hload, -, hnames⟩ := hfailing ⟨"banner", by simp, Sample.not_loads_banner⟩
  refine ⟨failures, hload, hnames.trans ?_⟩
  simp [Sample.loads_tmout, Sample.not_loads_banner, Sample.not_loads_sudo]

end Compliance.RuleRepository
