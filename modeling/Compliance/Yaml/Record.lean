import Compliance.Yaml.Value.Reader

/-!
# Reading records from documents

A record that is read straight from a document takes the text of a scalar as it
stands, whatever its kind would be.  Fields that the record does not have are
passed over whatever they hold; one that it has may stand only once.

What is left out altogether, a plain scalar without characters, is an empty
record, an empty list and a missing option.
-/

namespace Compliance.Yaml.Record

/-- Whether a node is a plain scalar without characters. -/
def isBlank : Node → Bool
  | .scalar _ _ text style => text.isEmpty && style = .plain
  | _ => false

/-- The text of a scalar. -/
def readText : Reader String := fun document _ node => do
  match ← follow document node with
  | .scalar _ _ text _ => return text
  | _ => throw (.unexpectedKind "a string")

/-- Whether a scalar stands for a missing value. A null tag demands that it does. -/
def isMissing (tag : Option String) (style : Style) (text : String) : Except Fault Bool :=
  if style ≠ .plain then .ok false
  else match tag with
    | none => .ok (Scalar.isNull text.toList)
    | some tag =>
      if tag = Scalar.coreTag "null" then
        if Scalar.isNullWord text.toList then .ok true else .error (.unexpectedKind "null")
      else .ok false

/-- A value that may be missing. -/
def readOptional {α : Type} (read : Reader α) : Reader (Option α) := fun document room node => do
  let node ← follow document node
  match node with
  | .scalar _ tag text style =>
    if ← liftM (isMissing tag style text) then return none
    else return some (← read document room node)
  | node => return some (← read document room node)

/-- The items of a list. -/
def items : Reader (List Node) := fun document room node => do
  match ← follow document node with
  | .sequence _ _ items => if room = 0 then throw .tooDeep else return items
  | node => if isBlank node then return [] else throw (.unexpectedKind "a sequence")

/-- A list of values. -/
def readList {α : Type} (read : Reader α) : Reader (List α) := fun document room node => do
  (← items document room node).mapM (read document (room - 1))

/-- One of several words; any scalar whose text is none of them has the value `other`. A tag with a
name takes the place of the text, and then nothing may stand beside it. -/
def readWord {α : Type} (words : List (String × α)) (other : α) : Reader α :=
  fun document _ node => do
    match ← follow document node with
    | .scalar _ tag text style =>
      match tag.bind Scalar.tagName? with
      | none => return (words.lookup text).getD other
      | some name =>
        if style = .plain && Scalar.isNull text.toList then
          return (words.lookup name).getD other
        else throw (.unexpectedKind "nothing beside the tag")
    | _ => throw (.unexpectedKind "a word")

/-! ## Fields -/

/-- The fields of a record with their names; inside of it there is one level less of room. -/
def fields : Reader (List (String × Node)) := fun document room node => do
  match ← follow document node with
  | .mapping _ _ entries =>
    if room = 0 then throw .tooDeep
    else entries.mapM fun (key, value) => do return (← readText document room key, value)
  | node => if isBlank node then return [] else throw (.unexpectedKind "a record")

/-- The only field with a name, if there is one. -/
def field? (name : String) (fields : List (String × Node)) : Reading (Option Node) :=
  match fields.filter fun field => field.1 = name with
  | [] => return none
  | [field] => return some field.2
  | _ => throw (.repeatedField name)

/-- A field of a record that is read with some room; it may not be missing. -/
def required {α : Type} (name : String) (read : Reader α) (document : Document) (room : Nat)
    (fields : List (String × Node)) : Reading α := do
  match ← field? name fields with
  | some node => read document (room - 1) node
  | none => throw (.missingField name)

/-- A field of a record that is read with some room, or a default. -/
def withDefault {α : Type} (name : String) (default : α) (read : Reader α) (document : Document)
    (room : Nat) (fields : List (String × Node)) : Reading α := do
  match ← field? name fields with
  | some node => read document (room - 1) node
  | none => return default

end Compliance.Yaml.Record
