import Compliance.Proofs.Parameter.Store
import Compliance.Proofs.Rule.Definition
import Compliance.Proofs.Rule.Loading

/-!
# The outcome of loading one rule

A rule has to meet four conditions, which are looked at one after the other: some source
knows its directory, there is a definition in it, the definition describes the rule, and
the parameter that its template names is known.  `Meets` collects them and `Misses` says
which one is the first that a rule does not meet.  Together they decide what loading comes
to (`loadRule_outcome`), and neither of them looks at overrides, so a rule that cannot be
loaded is reported alike in all lists.

What is said here with the text of the definition in view is said in `HasOrigin` and `Fails`
with the definition as one thing.
-/

namespace Compliance

/-- The first source that knows a rule has it in a directory. -/
def RuleLocator.LocatesFirst (locator : RuleLocator) (id : String) (directory : Path) : Prop :=
  ∃ earlier source later, locator = earlier ++ source :: later ∧
    source.locate id = some directory ∧ ∀ other ∈ earlier, other.locate id = none

theorem RuleLocator.locate_eq_some_iff {locator : RuleLocator} {id : String} {directory : Path} :
    locator.locate id = some directory ↔ locator.LocatesFirst id directory :=
  List.findSome?_eq_some_iff

theorem RuleLocator.locate_eq_none_iff {locator : RuleLocator} {id : String} :
    locator.locate id = none ↔ ∀ source ∈ locator, source.locate id = none :=
  List.findSome?_eq_none_iff

/-- A rule as its definition describes it. -/
structure RuleDefinition.Describes (definition : RuleDefinition) (id : String) (directory : Path)
    (rule : Rule) : Prop where
  id_eq : rule.id = id
  directory_eq : rule.directory = directory
  description_eq : rule.description = definition.cleanDescription
  described : rule.description ≠ ""
  /-- The description is one line. -/
  unwrapped : '\n' ∉ rule.description.toList
  trimmed : Text.IsTrimmed rule.description.toList
  /-- The rule has references to exactly those standards to which its definition has some. -/
  referenced : ∀ standard, (rule.references.get? standard).isSome ↔
    definition.HasReferenceTo standard
  references_eq : ∀ standard references, rule.references.get? standard = some references →
    references = definition.referencesTo standard

namespace RuleRepository

/-! ## The conditions -/

/-- A repository has all that a rule needs. -/
structure Meets (repository : RuleRepository) (id : String) (directory : Path)
    (definition : RuleDefinition) : Prop where
  located : repository.locator.LocatesFirst id directory
  written : ∃ text,
    repository.files.readText (directory.join RuleDefinition.fileName) = .ok text ∧
      definition.IsWrittenIn repository.product text
  described : definition.cleanDescription ≠ ""
  known : ∀ name, definition.NamesParameter name →
    ∃ parameter, repository.parameters.get name = .ok parameter

/-- The first condition that a rule does not meet, and the failure that is reported for it. -/
inductive Misses (repository : RuleRepository) (id : String) : RuleFailure → Prop
  | located (hunknown : ∀ source ∈ repository.locator, source.locate id = none) :
      Misses repository id (.notFound id)
  | readable {directory : Path} {fault : FileFault}
      (hlocated : repository.locator.LocatesFirst id directory)
      (hread : repository.files.readText (directory.join RuleDefinition.fileName) = .error fault) :
      Misses repository id
        (.loadFailed id (.content (.unreadable (directory.join RuleDefinition.fileName) fault)))
  | wellFormed {directory : Path} {text : String} {fault : Yaml.Fault}
      (hlocated : repository.locator.LocatesFirst id directory)
      (hread : repository.files.readText (directory.join RuleDefinition.fileName) = .ok text)
      (hmalformed : RuleDefinition.IsMalformed repository.product text fault) :
      Misses repository id (.loadFailed id
        (.content (.malformed (some (directory.join RuleDefinition.fileName)) fault)))
  | described {directory : Path} {text : String} {definition : RuleDefinition}
      (hlocated : repository.locator.LocatesFirst id directory)
      (hread : repository.files.readText (directory.join RuleDefinition.fileName) = .ok text)
      (hwritten : definition.IsWrittenIn repository.product text)
      (hempty : definition.cleanDescription = "") :
      Misses repository id (.loadFailed id (.words "rule has no description"))
  | known {directory : Path} {text : String} {definition : RuleDefinition} {name : String}
      (hlocated : repository.locator.LocatesFirst id directory)
      (hread : repository.files.readText (directory.join RuleDefinition.fileName) = .ok text)
      (hwritten : definition.IsWrittenIn repository.product text)
      (hdescribed : definition.cleanDescription ≠ "")
      (hnames : definition.NamesParameter name)
      (hunknown : repository.parameters.get name = .error (.parameterNotFound name)) :
      Misses repository id (.parameterNotFound id name)

variable {repository : RuleRepository} {id : String}

/-- What meets the conditions has an origin, whose binding is what the template names. -/
theorem meets_iff_exists_hasOrigin {directory : Path} {definition : RuleDefinition} :
    repository.Meets id directory definition ↔
      ∃ binding, repository.HasOrigin id ⟨directory, definition, binding⟩ := by
  constructor
  · rintro ⟨hlocated, hwritten, hdescribed, hknown⟩
    have hlocate := RuleLocator.locate_eq_some_iff.mpr hlocated
    have hload := RuleDefinition.load_eq_ok_iff.mpr hwritten
    cases hname : definition.parameter? with
    | none =>
        exact ⟨none, hlocate, hload, hdescribed, RuleDefinition.parameter?_eq_map_iff.mp hname,
          by simp⟩
    | some name =>
        obtain ⟨parameter, hget⟩ := hknown name (RuleDefinition.parameter?_eq_some_iff.mp hname)
        refine ⟨some (name, parameter), hlocate, hload, hdescribed,
          RuleDefinition.parameter?_eq_map_iff.mp hname, ?_⟩
        rintro _ _ ⟨⟩
        exact ParameterStore.get_eq_ok_iff.mp hget
  · rintro ⟨binding, horigin⟩
    refine ⟨RuleLocator.locate_eq_some_iff.mp horigin.located,
      RuleDefinition.load_eq_ok_iff.mp horigin.read, horigin.described, ?_⟩
    intro name hnames
    obtain ⟨parameter, hbinding⟩ := (horigin.named name).mp hnames
    exact ⟨parameter, ParameterStore.get_eq_ok_iff.mpr (horigin.stored _ parameter hbinding)⟩

theorem misses_iff_fails {failure : RuleFailure} :
    repository.Misses id failure ↔ repository.Fails id failure := by
  constructor
  · intro hmisses
    cases hmisses with
    | located hunknown => exact .notFound (RuleLocator.locate_eq_none_iff.mpr hunknown)
    | readable hlocated hread =>
        exact .unusable (RuleLocator.locate_eq_some_iff.mpr hlocated)
          (RuleDefinition.load_eq_error_iff.mpr (.inl ⟨_, hread, rfl⟩))
    | wellFormed hlocated hread hmalformed =>
        exact .unusable (RuleLocator.locate_eq_some_iff.mpr hlocated)
          (RuleDefinition.load_eq_error_iff.mpr (.inr ⟨_, _, hread, hmalformed, rfl⟩))
    | described hlocated hread hwritten hempty =>
        exact .undescribed (RuleLocator.locate_eq_some_iff.mpr hlocated)
          (RuleDefinition.load_eq_ok_iff.mpr ⟨_, hread, hwritten⟩) hempty
    | known hlocated hread hwritten hdescribed hnames hunknown =>
        exact .parameterNotFound (RuleLocator.locate_eq_some_iff.mpr hlocated)
          (RuleDefinition.load_eq_ok_iff.mpr ⟨_, hread, hwritten⟩) hdescribed hnames
          (ParameterStore.get_eq_error_iff.mp hunknown).1
  · intro hfails
    cases hfails with
    | notFound hlocate => exact .located (RuleLocator.locate_eq_none_iff.mp hlocate)
    | unusable hlocate hload =>
        have hlocated := RuleLocator.locate_eq_some_iff.mp hlocate
        rcases RuleDefinition.load_eq_error_iff.mp hload with
          ⟨cause, hread, rfl⟩ | ⟨text, cause, hread, hmalformed, rfl⟩
        · exact .readable hlocated hread
        · exact .wellFormed hlocated hread hmalformed
    | undescribed hlocate hload hempty =>
        obtain ⟨text, hread, hwritten⟩ := RuleDefinition.load_eq_ok_iff.mp hload
        exact .described (RuleLocator.locate_eq_some_iff.mp hlocate) hread hwritten hempty
    | parameterNotFound hlocate hload hdescribed hname hunknown =>
        obtain ⟨text, hread, hwritten⟩ := RuleDefinition.load_eq_ok_iff.mp hload
        exact .known (RuleLocator.locate_eq_some_iff.mp hlocate) hread hwritten hdescribed hname
          (ParameterStore.get_eq_error_iff.mpr ⟨hunknown, rfl⟩)

/-! ## The rule -/

/-- The references of a rule after the standards of a list. -/
theorem get?_references_foldl (definition : RuleDefinition) (standards : List String) (rule : Rule)
    (standard : String) :
    (standards.foldl (fun rule standard =>
      rule.withReferences standard (definition.referencesTo standard)) rule).references.get?
        standard =
      if standard ∈ standards ∧ definition.referencesTo standard ≠ [] then
        some (definition.referencesTo standard)
      else rule.references.get? standard := by
  induction standards generalizing rule with
  | nil => simp
  | cons first others ih =>
      rw [List.foldl_cons, ih]
      by_cases hempty : definition.referencesTo first = []
      · -- a standard without references leaves the rule as it is
        have hsame : rule.withReferences first (definition.referencesTo first) = rule := by
          simp [Rule.withReferences, hempty]
        rw [hsame]
        by_cases hstandard : standard = first
        · simp [hstandard, hempty]
        · simp [hstandard]
      · have hinsert : (rule.withReferences first (definition.referencesTo first)).references =
            rule.references.insert first (definition.referencesTo first) := by
          simp [Rule.withReferences, hempty]
        rw [hinsert, Table.get?_insert]
        by_cases hstandard : standard = first
        · subst hstandard
          simp [hempty]
        · simp [hstandard]

/-- A rule has a list of references for each standard for which its definition has a list that is
not empty. -/
theorem get?_references_unbound (id : String) (directory : Path) (definition : RuleDefinition)
    (standard : String) :
    (unbound id directory definition).references.get? standard =
      if definition.referencesTo standard = [] then none
      else some (definition.referencesTo standard) := by
  rw [unbound, get?_references_foldl]
  by_cases hempty : definition.referencesTo standard = []
  · simp [hempty, Rule.new]
  · have hmem := RuleDefinition.mem_standards_of_referencesTo_ne_nil hempty
    simp [hempty, hmem]

theorem HasOrigin.describes {origin : Origin} (horigin : repository.HasOrigin id origin)
    (overrides : Table String) :
    origin.definition.Describes id origin.directory (origin.rule id overrides) := by
  have hdescription : (origin.rule id overrides).description =
      origin.definition.cleanDescription :=
    origin.description_rule id overrides
  have hdirectory : (origin.rule id overrides).directory = origin.directory := by
    obtain ⟨_, hrule⟩ := exists_unbound_eq id origin.directory origin.definition
    rw [Origin.rule, hrule]
  have hreferences : ∀ standard, (origin.rule id overrides).references.get? standard =
      if origin.definition.referencesTo standard = [] then none
      else some (origin.definition.referencesTo standard) :=
    get?_references_unbound id origin.directory origin.definition
  refine ⟨origin.id_rule id overrides, hdirectory, hdescription, ?_, ?_, ?_, ?_, ?_⟩
  · rw [hdescription]
    exact horigin.described
  · rw [hdescription]
    exact origin.definition.newline_not_mem_cleanDescription
  · rw [hdescription]
    exact origin.definition.isTrimmed_cleanDescription
  · intro standard
    rw [hreferences, ← RuleDefinition.referencesTo_ne_nil_iff]
    split
    · rename_i hempty
      simp [hempty]
    · rename_i hsome
      simp [hsome]
  · intro standard references hget
    rw [hreferences] at hget
    split at hget
    · cases hget
    · exact (Option.some.inj hget).symm

/-! ## The outcome -/

/-- A rule loads if it meets the conditions, and otherwise fails for the first one that it does not
meet.  The failure names the rule, and overrides have no part in it.  A rule that loads is as the
definition in the directory of the first source that knows it describes it. -/
theorem loadRule_outcome (repository : RuleRepository) (id : String) (overrides : Table String) :
    ((∃ rule, repository.loadRule overrides id = .ok rule) ↔
      ∃ directory definition, repository.Meets id directory definition) ∧
    (∀ failure, repository.loadRule overrides id = .error failure ↔
      repository.Misses id failure) ∧
    (∀ failure, repository.Misses id failure → failure.rule = id) ∧
    ∀ rule, repository.loadRule overrides id = .ok rule →
      ∃ directory definition, repository.Meets id directory definition ∧
        definition.Describes id directory rule := by
  have hrule : ∀ rule, repository.loadRule overrides id = .ok rule →
      ∃ directory definition, repository.Meets id directory definition ∧
        definition.Describes id directory rule := by
    intro rule hload
    obtain ⟨origin, horigin, rfl⟩ := loadRule_eq_ok_iff.mp hload
    exact ⟨origin.directory, origin.definition,
      meets_iff_exists_hasOrigin.mpr ⟨origin.binding, horigin⟩, horigin.describes overrides⟩
  refine ⟨?_, ?_, ?_, hrule⟩
  · constructor
    · rintro ⟨rule, hload⟩
      obtain ⟨directory, definition, hmeets, -⟩ := hrule rule hload
      exact ⟨directory, definition, hmeets⟩
    · rintro ⟨directory, definition, hmeets⟩
      obtain ⟨binding, horigin⟩ := meets_iff_exists_hasOrigin.mp hmeets
      exact ⟨_, horigin.loadRule overrides⟩
  · intro failure
    rw [loadRule_eq_error_iff, misses_iff_fails]
  · intro failure hmisses
    exact (misses_iff_fails.mp hmisses).rule_eq

end RuleRepository

/-! ## Two rules to look at -/

namespace Sample

/-- One rule has a reference to one standard and only commas for another one; the other rule has
neither a description nor a parameter that is known. -/
def limitRules : FileTree.Entries :=
  [("limits", .directory [("rule.yml", .file (some
      ("description: |\n  <p>Limit\n  sessions</p>\n" ++
        "references:\n  nist: \" AC-10,, \"\n  cis: \" , \"")))]),
    ("blank", .directory [("rule.yml", .file (some
      "template:\n  vars:\n    xccdf_variable: nowhere"))])]

def limitRepository : RuleRepository :=
  { repository with
    files := { root := .directory limitRules, working := [] }
    locator := [.index ∅, .scan (Table.ofList [("limits", "/limits"), ("blank", "/blank")])] }

end Sample

namespace RuleRepository

/-- The rule without a description is not reported for its parameter, which is unknown as well. -/
theorem loadRule_outcome_of_limits :
    (∃ directory definition rule, Sample.limitRepository.loadRule ∅ "limits" = .ok rule ∧
      Sample.limitRepository.Meets "limits" directory definition ∧
      definition.Describes "limits" directory rule ∧ definition.HasReferenceTo "nist" ∧
      ¬ definition.HasReferenceTo "cis") ∧
    Sample.limitRepository.Misses "blank"
      (.loadFailed "blank" (.words "rule has no description")) := by
  have hseen : (Sample.limitRepository.loadRule ∅ "limits").toOption.map
      (fun rule => (rule.description, rule.references.entries)) =
        some ("Limit sessions", [("nist", ["AC-10"])]) := by
    decide +kernel
  have hblank : Sample.limitRepository.loadRule ∅ "blank" =
      .error (.loadFailed "blank" (.words "rule has no description")) := by
    decide +kernel
  obtain ⟨rule, hload, hrule⟩ := Except.exists_ok_of_map_toOption_eq_some hseen
  obtain ⟨-, hreferences⟩ := Prod.mk.inj hrule
  obtain ⟨-, -, -, hdescribes⟩ := loadRule_outcome Sample.limitRepository "limits" ∅
  obtain ⟨directory, definition, hmeets, hdescribed⟩ := hdescribes rule hload
  obtain ⟨-, hfails, -, -⟩ := loadRule_outcome Sample.limitRepository "blank" ∅
  refine ⟨⟨directory, definition, rule, hload, hmeets, hdescribed, ?_, ?_⟩, (hfails _).mp hblank⟩
  · rw [← hdescribed.referenced, Table.get?, hreferences]
    decide
  · rw [← hdescribed.referenced, Table.get?, hreferences]
    decide

end RuleRepository

end Compliance
