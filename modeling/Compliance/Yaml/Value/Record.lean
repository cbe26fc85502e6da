import Compliance.Yaml.Fault
import Compliance.Yaml.Value

/-!
# Reading records from values

A record that is read from a value has strings for its texts: a number or a null
in the place of a text is a fault.  Tags are passed over.  All keys are texts,
and fields that the record does not have are passed over.
-/

namespace Compliance.Yaml.Value

/-- The fields of a record; null is a record without any. -/
def fields (value : Value) : Except Fault (List (String × Value)) :=
  match value.untagged with
  | mapping entries =>
    entries.mapM fun (key, value) =>
      match key.text? with
      | some name => .ok (name, value)
      | none => .error (.unexpectedKind "a field name")
  | null => .ok []
  | _ => .error (.unexpectedKind "a record")

/-- The only field with a name, if there is one. -/
def field? (name : String) (fields : List (String × Value)) : Except Fault (Option Value) :=
  match fields.filter fun field => field.1 = name with
  | [] => .ok none
  | [field] => .ok (some field.2)
  | _ => .error (.repeatedField name)

/-- A field with a default. -/
def fieldOr {α : Type} (name : String) (default : α) (read : Value → Except Fault α)
    (fields : List (String × Value)) : Except Fault α := do
  match ← field? name fields with
  | some value => read value
  | none => return default

/-- A text. -/
def readText (value : Value) : Except Fault String :=
  match value.text? with
  | some text => .ok text
  | none => .error (.unexpectedKind "a string")

/-- A value that may be null. -/
def readOptional {α : Type} (read : Value → Except Fault α) : Value → Except Fault (Option α)
  | null => .ok none
  | value => (read value).map some

/-- The entries of a mapping; null has none. -/
def readEntries (value : Value) : Except Fault Entries :=
  match value.untagged with
  | mapping entries => .ok entries
  | null => .ok []
  | _ => .error (.unexpectedKind "a mapping")

end Compliance.Yaml.Value
