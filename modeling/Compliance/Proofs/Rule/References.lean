import Compliance.Proofs.Rule.Outcome

/-!
# Lists of references

The references to a standard stand in one scalar with commas between them.  What a text
lists is said here without cutting or trimming anything: the text is made of parts with a
comma between neighbours and none inside, and of every part that is not blank the word
between its white space is listed (`Lists`).  Reading finds exactly this list
(`lists_iff`).  No word of it is lost when the words are joined with commas and read again,
whatever white space follows the commas (`referenceList_joined`).

A loaded rule has a list for a standard exactly if its definition has one that is not empty,
and it is the list of the definition (`references_are_listed`).
-/

namespace Compliance

open List Compliance.Yaml

namespace Text

/-! ## The words of parts -/

/-- The words of parts: of each part that is not blank what stands between the white space around
it. -/
inductive HoldWords : (parts words : List (List Char)) → Prop
  | nil : HoldWords [] []
  | blank {part : List Char} {parts words : List (List Char)}
      (hblank : ∀ c ∈ part, isBlank c = true) (hothers : HoldWords parts words) :
      HoldWords (part :: parts) words
  | word {before word after : List Char} {parts words : List (List Char)}
      (hbefore : ∀ c ∈ before, isBlank c = true) (hafter : ∀ c ∈ after, isBlank c = true)
      (hne : word ≠ []) (hword : IsTrimmed word) (hothers : HoldWords parts words) :
      HoldWords ((before ++ word ++ after) :: parts) (word :: words)

/-- The words of parts are what trimming leaves of them, as far as it leaves anything. -/
theorem holdWords_iff {parts words : List (List Char)} :
    HoldWords parts words ↔ words = (parts.map trim).filter fun word => !word.isEmpty := by
  constructor
  · intro hwords
    induction hwords with
    | nil => rfl
    | blank hblank _ ih => simpa [trim_eq_nil_iff.mpr hblank] using ih
    | word hbefore hafter hne hword _ ih =>
        rw [map_cons, trim_append_append hbefore hafter hne hword, filter_cons_of_pos (by simpa),
          ← ih]
  · rintro rfl
    induction parts with
    | nil => exact .nil
    | cons part parts ih =>
        by_cases hnone : trim part = []
        · simpa [hnone] using HoldWords.blank (trim_eq_nil_iff.mp hnone) ih
        · obtain ⟨before, after, hpart, hbefore, hafter⟩ := exists_eq_append_trim part
          have hword := HoldWords.word hbefore hafter hnone (isTrimmed_trim part) ih
          rw [← hpart] at hword
          simpa [hnone] using hword

/-- A gap after the separator goes to the word behind it. -/
theorem joined_cons_eq_joined_map (separator : Char) (gap word : List Char)
    (words : List (List Char)) :
    joined (separator :: gap) (word :: words) =
      joined [separator] (word :: words.map (gap ++ ·)) := by
  rw [joined_cons, joined_cons, flatMap_map]
  rfl

end Text

namespace RuleDefinition

/-! ## What a text lists -/

/-- A text lists references: it is made of parts with commas between them, and these hold the
references. -/
def Lists (text : String) (references : List String) : Prop :=
  ∃ parts, parts ≠ [] ∧ (∀ part ∈ parts, ',' ∉ part) ∧
    text.toList = Text.joined [','] parts ∧ Text.HoldWords parts (references.map String.toList)

/-- Reading a text finds the references that it lists, and no others. -/
theorem lists_iff {text : String} {references : List String} :
    Lists text references ↔ references = referenceList text := by
  have hlist : ∀ words : List (List Char), references.map String.toList = words ↔
      references = words.map String.ofList := by
    intro words
    constructor
    · rintro rfl
      simp
    · rintro rfl
      simp
  rw [referenceList, ← hlist, ← Text.holdWords_iff]
  constructor
  · rintro ⟨parts, hne, habsent, htext, hwords⟩
    rwa [htext, Text.pieces_joined hne habsent]
  · intro hwords
    exact ⟨_, Text.pieces_ne_nil _ _, fun part hpart => Text.not_mem_of_mem_pieces hpart,
      (Text.joined_pieces _ _).symm, hwords⟩

/-- A reference is a word without commas and without white space around it. -/
def IsReference (reference : String) : Prop :=
  reference ≠ "" ∧ Text.IsTrimmed reference.toList ∧ ',' ∉ reference.toList

theorem isReference_of_mem_referenceList {text reference : String}
    (hmem : reference ∈ referenceList text) : IsReference reference := by
  obtain ⟨word, hword, rfl⟩ := mem_map.mp hmem
  obtain ⟨hword, hne⟩ := mem_filter.mp hword
  obtain ⟨part, hpart, rfl⟩ := mem_map.mp hword
  refine ⟨?_, ?_, ?_⟩
  · simpa [← String.toList_inj] using hne
  · simpa using Text.isTrimmed_trim part
  · rw [String.toList_ofList]
    exact fun hcomma => Text.not_mem_of_mem_pieces hpart ((Text.isInfix_trim part).subset hcomma)

/-- References that are joined with commas, and with any white space after these, are read again. -/
theorem referenceList_joined {references : List String}
    (hreferences : ∀ reference ∈ references, IsReference reference) {gap : List Char}
    (hgap : ∀ c ∈ gap, Text.isBlank c = true) :
    referenceList (String.ofList (Text.joined (',' :: gap) (references.map String.toList))) =
      references := by
  refine (lists_iff.mp ?_).symm
  cases references with
  | nil => exact ⟨[[]], by simp, by simp, rfl, .blank (by simp) .nil⟩
  | cons first others =>
      have hothers : ∀ words : List String, (∀ word ∈ words, IsReference word) →
          Text.HoldWords ((words.map String.toList).map (gap ++ ·)) (words.map String.toList) := by
        intro words hwords
        induction words with
        | nil => exact .nil
        | cons word words ih =>
            obtain ⟨hne, htrimmed, -⟩ := hwords word mem_cons_self
            simpa using @Text.HoldWords.word gap word.toList [] _ _ hgap (by simp)
              (by simpa using hne) htrimmed (ih fun other hother => hwords other (by simp [hother]))
      obtain ⟨hfirst, hrest⟩ := forall_mem_cons.mp hreferences
      refine ⟨first.toList :: (others.map String.toList).map (gap ++ ·), by simp, ?_, ?_, ?_⟩
      · have hcomma : ',' ∉ gap := fun hmem => absurd (hgap _ hmem) (by decide)
        simpa [hfirst.2.2, hcomma] using fun other hother => (hrest other hother).2.2
      · rw [String.toList_ofList, map_cons, Text.joined_cons_eq_joined_map]
      · simpa using @Text.HoldWords.word [] first.toList [] _ _ (by simp) (by simp)
          (by simpa using hfirst.1) hfirst.2.1 (hothers others hrest)

/-- A reference is the list of itself. -/
theorem referenceList_of_isReference {reference : String} (hreference : IsReference reference) :
    referenceList reference = [reference] := by
  have hlist := referenceList_joined (forall_mem_singleton.mpr hreference) (forall_mem_nil _)
  rwa [map_singleton, Text.joined_cons, flatMap_nil, append_nil, String.ofList_toList]
    at hlist

/-! ## The references of a definition -/

section

variable (definition : RuleDefinition) (standard : String)

/-- Under the name of a standard the references of a definition have a scalar with a text. -/
def HasScalar (text : String) : Prop :=
  ∃ value, Value.lookup standard definition.references = some value ∧
    value.scalarText? = some text

/-- The definition with other references to a standard: they are joined with commas, each of which
is followed by a gap. -/
def withReferences (gap : List Char) (references : List String) : RuleDefinition :=
  { definition with
    references := Value.store (.string standard)
      (.string (String.ofList (Text.joined (',' :: gap) (references.map String.toList))))
      definition.references }

/-- The references to a standard are the words that its scalar lists, and they are read again when
they are written back. -/
structure ListsReferences : Prop where
  words : ∀ reference ∈ definition.referencesTo standard, IsReference reference
  listed : ∀ text, definition.HasScalar standard text →
    ∀ references, Lists text references ↔ references = definition.referencesTo standard
  unlisted : (¬ ∃ text, definition.HasScalar standard text) → definition.referencesTo standard = []
  writtenBack : ∀ gap, (∀ c ∈ gap, Text.isBlank c = true) →
    (definition.withReferences standard gap (definition.referencesTo standard)).referencesTo
      standard = definition.referencesTo standard

variable {definition standard}

theorem referencesTo_of_hasScalar {text : String} (hscalar : definition.HasScalar standard text) :
    definition.referencesTo standard = referenceList text := by
  obtain ⟨value, hvalue, htext⟩ := hscalar
  rw [referencesTo, hvalue, Option.bind_some, htext]

theorem referencesTo_of_not_hasScalar (hnone : ¬ ∃ text, definition.HasScalar standard text) :
    definition.referencesTo standard = [] := by
  rw [referencesTo]
  split
  · rename_i text htext
    obtain ⟨value, hvalue, htext⟩ := Option.bind_eq_some_iff.mp htext
    exact absurd ⟨text, value, hvalue, htext⟩ hnone
  · rfl

variable (definition standard) in
theorem listsReferences : definition.ListsReferences standard := by
  have hwords : ∀ reference ∈ definition.referencesTo standard, IsReference reference := by
    by_cases hscalar : ∃ text, definition.HasScalar standard text
    · obtain ⟨text, hscalar⟩ := hscalar
      rw [referencesTo_of_hasScalar hscalar]
      exact fun reference hmem => isReference_of_mem_referenceList hmem
    · simp [referencesTo_of_not_hasScalar hscalar]
  refine ⟨hwords, ?_, referencesTo_of_not_hasScalar, ?_⟩
  · intro text hscalar references
    rw [lists_iff, referencesTo_of_hasScalar hscalar]
  · intro gap hgap
    have hscalar : (definition.withReferences standard gap
        (definition.referencesTo standard)).HasScalar standard
          (String.ofList (Text.joined (',' :: gap)
            ((definition.referencesTo standard).map String.toList))) :=
      ⟨_, by rw [withReferences, Value.lookup_store, if_pos rfl], rfl⟩
    rw [referencesTo_of_hasScalar hscalar, referenceList_joined hwords hgap]

end

end RuleDefinition

/-! ## The references of a rule -/

/-- The references to a standard are the words between the commas of its scalar.  A rule that loads
has references to exactly those standards under whose names its definition has a scalar that lists
some, and these are its references. -/
theorem references_are_listed :
    (∀ (definition : RuleDefinition) (standard : String), definition.ListsReferences standard) ∧
    ∀ (repository : RuleRepository) (overrides : Table String) (id : String) (rule : Rule),
      repository.loadRule overrides id = .ok rule →
      ∃ directory definition, repository.Meets id directory definition ∧
        ∀ standard references, rule.references.get? standard = some references ↔
          references ≠ [] ∧
            ∃ text, definition.HasScalar standard text ∧ RuleDefinition.Lists text references := by
  refine ⟨fun definition standard => definition.listsReferences standard, ?_⟩
  intro repository overrides id rule hload
  obtain ⟨origin, horigin, rfl⟩ := RuleRepository.loadRule_eq_ok_iff.mp hload
  refine ⟨origin.directory, origin.definition,
    RuleRepository.meets_iff_exists_hasOrigin.mpr ⟨origin.binding, horigin⟩, ?_⟩
  intro standard references
  have hget : (origin.rule id overrides).references.get? standard =
      if origin.definition.referencesTo standard = [] then none
      else some (origin.definition.referencesTo standard) :=
    RuleRepository.get?_references_unbound id origin.directory origin.definition standard
  rw [hget]
  have hlists := origin.definition.listsReferences standard
  constructor
  · intro hsome
    split at hsome
    · cases hsome
    · rename_i hne
      obtain rfl := Option.some.inj hsome
      -- without a scalar there would be no references
      obtain ⟨text, hscalar⟩ := not_imp_comm.mp hlists.unlisted hne
      exact ⟨hne, text, hscalar, (hlists.listed text hscalar _).mpr rfl⟩
  · rintro ⟨hne, text, hscalar, hlisted⟩
    obtain rfl := (hlists.listed text hscalar references).mp hlisted
    rw [if_neg hne]

/-! ## References to look at -/

namespace Sample

/-- A definition with two references to one standard, and more commas and spaces than it needs. -/
def referring : RuleDefinition :=
  { (default : RuleDefinition) with
    references := [(.string "nist", .string " AC-2(3),,CM-6(a) ,")] }

end Sample

/-- The two references come through, and so does the one of the rule that loads. -/
theorem references_are_listed_of_limits :
    (Sample.referring.withReferences "nist" [' ']
      (Sample.referring.referencesTo "nist")).referencesTo "nist" = ["AC-2(3)", "CM-6(a)"] ∧
    ∃ rule directory definition, Sample.limitRepository.loadRule ∅ "limits" = .ok rule ∧
      Sample.limitRepository.Meets "limits" directory definition ∧
      (∃ text, definition.HasScalar "nist" text ∧ RuleDefinition.Lists text ["AC-10"]) ∧
      ∀ text references, definition.HasScalar "cis" text →
        RuleDefinition.Lists text references → references = [] := by
  have hseen : (Sample.limitRepository.loadRule ∅ "limits").toOption.map
      (fun rule => rule.references.entries) = some [("nist", ["AC-10"])] := by
    decide +kernel
  obtain ⟨rule, hload, hentries⟩ := Except.exists_ok_of_map_toOption_eq_some hseen
  obtain ⟨hlists, hloaded⟩ := references_are_listed
  obtain ⟨directory, definition, hmeets, hreferences⟩ := hloaded _ _ _ _ hload
  refine ⟨?_, rule, directory, definition, hload, hmeets, ?_, ?_⟩
  · rw [(hlists Sample.referring "nist").writtenBack [' '] (by simp [Text.isBlank])]
    decide +kernel
  · refine ((hreferences "nist" ["AC-10"]).mp ?_).2
    rw [Table.get?, hentries]
    decide
  · intro text references hscalar hlisted
    by_contra hne
    have hget := (hreferences "cis" references).mpr ⟨hne, text, hscalar, hlisted⟩
    rw [Table.get?, hentries] at hget
    cases hget

end Compliance
