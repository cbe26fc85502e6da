import Compliance.Proofs.Except
import Compliance.Proofs.Text.Blank
import Compliance.Proofs.Text.Pieces
import Compliance.Proofs.Yaml.Entries
import Compliance.Rule.Definition

/-!
# What the definition of a rule says

The definition of a rule is read from a file in its directory.  The text is made to hold for
the product twice before the record is read: its placeholders are filled in while it is a
text, and its qualified keys are resolved when it is a value.

Of a definition three things are used when a rule is loaded: the description, which is
cleaned to a line without white space around it, the parameter that its template names, and
the standards to which it has references.
-/

namespace Compliance.RuleDefinition

open Compliance.Yaml

/-! ## The text of a definition -/

variable {product : Product} {text : String}

/-- The record that a text stands for when its placeholders are filled in and its qualified keys
are resolved. -/
def IsWrittenIn (definition : RuleDefinition) (product : Product) (text : String) : Prop :=
  ∃ value, Value.parse (product.substitute text) = .ok value ∧
    read (product.normalize value) = .ok definition

/-- A text that is no definition: it holds no value, or the value is no such record. -/
def IsMalformed (product : Product) (text : String) (fault : Fault) : Prop :=
  Value.parse (product.substitute text) = .error fault ∨
    ∃ value, Value.parse (product.substitute text) = .ok value ∧
      read (product.normalize value) = .error fault

theorem parse_eq_ok_iff {definition : RuleDefinition} :
    parse product text = .ok definition ↔ definition.IsWrittenIn product text := by
  rw [parse, Except.mapError_eq_ok_iff, Except.bind_eq_ok_iff]
  rfl

theorem parse_eq_error_iff {fault : ContentFault} :
    parse product text = .error fault ↔
      ∃ cause, IsMalformed product text cause ∧ fault = .malformed none cause := by
  rw [parse, Except.mapError_eq_error_iff]
  simp only [Except.bind_eq_error_iff]
  rfl

section

variable {files : FileSystem} {directory : Path}

/-- A definition is loaded from a directory if it is written in the file there. -/
theorem load_eq_ok_iff {definition : RuleDefinition} :
    load files product directory = .ok definition ↔
      ∃ text, files.readText (directory.join fileName) = .ok text ∧
        definition.IsWrittenIn product text := by
  unfold load
  rw [Except.bind_eq_ok_iff]
  simp only [FileSystem.readContent, Except.mapError_eq_ok_iff, parse_eq_ok_iff]

/-- No definition is loaded from a directory if the file there cannot be read or is malformed, and
either fault tells the file. -/
theorem load_eq_error_iff {fault : ContentFault} :
    load files product directory = .error fault ↔
      (∃ cause, files.readText (directory.join fileName) = .error cause ∧
        fault = .unreadable (directory.join fileName) cause) ∨
      ∃ text cause, files.readText (directory.join fileName) = .ok text ∧
        IsMalformed product text cause ∧
        fault = .malformed (some (directory.join fileName)) cause := by
  unfold load
  rw [Except.bind_eq_error_iff]
  simp only [FileSystem.readContent, Except.mapError_eq_ok_iff, Except.mapError_eq_error_iff,
    parse_eq_error_iff]
  refine or_congr_right (exists_congr fun text => ?_)
  constructor
  · rintro ⟨hread, _, ⟨cause, hmalformed, rfl⟩, rfl⟩
    exact ⟨cause, hread, hmalformed, rfl⟩
  · rintro ⟨cause, hread, hmalformed, rfl⟩
    exact ⟨hread, _, ⟨cause, hmalformed, rfl⟩, rfl⟩

end

variable (definition : RuleDefinition)

/-! ## The description -/

theorem toList_cleanDescription :
    definition.cleanDescription.toList =
      Text.trim (Text.erase "</p>".toList
        (Text.erase "<p>".toList (Text.unwrapLines definition.description.toList))) :=
  String.toList_ofList

theorem newline_not_mem_cleanDescription : '\n' ∉ definition.cleanDescription.toList := by
  intro hmem
  rw [toList_cleanDescription] at hmem
  -- cleaning takes characters away from a text that has no newline
  have hinner := (Text.isInfix_trim _).subset hmem
  have hmiddle := (Text.erase_sublist _ _).subset hinner
  have houter := (Text.erase_sublist _ _).subset hmiddle
  exact Text.newline_not_mem_unwrapLines _ houter

theorem isTrimmed_cleanDescription : Text.IsTrimmed definition.cleanDescription.toList := by
  rw [toList_cleanDescription]
  exact Text.isTrimmed_trim _

/-! ## The parameter -/

/-- The template of a rule names its parameter: the variable for it is a scalar whose text is not
empty. -/
def NamesParameter (name : String) : Prop :=
  ∃ template value, definition.template = some template ∧
    Value.lookup parameterKey template.vars = some value ∧ value.scalarText? = some name ∧
    name ≠ ""

variable {definition}

theorem parameter?_eq_some_iff {name : String} :
    definition.parameter? = some name ↔ definition.NamesParameter name := by
  unfold parameter? NamesParameter
  simp only [Option.bind_eq_bind, Option.bind_eq_some_iff]
  constructor
  · rintro ⟨template, htemplate, value, hvalue, other, hother, hname⟩
    split at hname
    · cases hname
    · rename_i hempty
      obtain rfl := Option.some.inj hname
      exact ⟨template, value, htemplate, hvalue, hother, by simpa using hempty⟩
  · rintro ⟨template, value, htemplate, hvalue, hother, hempty⟩
    exact ⟨template, htemplate, value, hvalue, name, hother, by simp [hempty]⟩

/-- Nothing but the name of something is named. -/
theorem parameter?_eq_map_iff {α : Type} {binding : Option (String × α)} :
    definition.parameter? = binding.map (·.1) ↔
      ∀ name, definition.NamesParameter name ↔ ∃ parameter, binding = some (name, parameter) := by
  rw [Option.ext_iff]
  refine forall_congr' fun name => ?_
  rw [parameter?_eq_some_iff, Option.map_eq_some_iff]
  simp only [Prod.exists, exists_and_right, exists_eq_right]

/-! ## The references -/

variable (definition) in
/-- A definition has a reference to a standard: under the name of the standard stands a scalar, and
in its text a character that is neither a comma nor white space. -/
def HasReferenceTo (standard : String) : Prop :=
  ∃ value text, Value.lookup standard definition.references = some value ∧
    value.scalarText? = some text ∧ ∃ c ∈ text.toList, c ≠ ',' ∧ Text.isBlank c = false

theorem referenceList_ne_nil_iff {text : String} :
    referenceList text ≠ [] ↔ ∃ c ∈ text.toList, c ≠ ',' ∧ Text.isBlank c = false := by
  have hpiece : ∀ piece : List Char, (!(Text.trim piece).isEmpty) = true ↔
      ∃ c ∈ piece, Text.isBlank c = false := by
    intro piece
    rw [Bool.not_eq_true', List.isEmpty_eq_false_iff, ne_eq, Text.trim_eq_nil_iff]
    simp
  calc referenceList text ≠ []
      ↔ ∃ piece ∈ Text.pieces ',' text.toList, ∃ c ∈ piece, Text.isBlank c = false := by
        simp only [referenceList, ne_eq, List.map_eq_nil_iff, List.filter_eq_nil_iff,
          List.forall_mem_map, hpiece, not_forall, not_not, exists_prop]
    _ ↔ ∃ c, (∃ piece ∈ Text.pieces ',' text.toList, c ∈ piece) ∧ Text.isBlank c = false := by
        tauto
    _ ↔ ∃ c ∈ text.toList, c ≠ ',' ∧ Text.isBlank c = false := by
        simp only [Text.exists_mem_pieces_iff, and_assoc]

theorem referencesTo_ne_nil_iff {standard : String} :
    definition.referencesTo standard ≠ [] ↔ definition.HasReferenceTo standard := by
  unfold referencesTo HasReferenceTo
  cases hvalue : Value.lookup standard definition.references with
  | none => simp
  | some value =>
      cases htext : value.scalarText? with
      | none => simp [htext]
      | some text => simp [htext, referenceList_ne_nil_iff]

/-- A standard with references is among the standards of the definition. -/
theorem mem_standards_of_referencesTo_ne_nil {standard : String}
    (hreferences : definition.referencesTo standard ≠ []) : standard ∈ definition.standards := by
  obtain ⟨value, -, hvalue, -⟩ := referencesTo_ne_nil_iff.mp hreferences
  exact List.mem_filterMap.mpr ⟨(.string standard, value), Value.mem_of_lookup_eq_some hvalue, rfl⟩

end Compliance.RuleDefinition
