import Compliance.Json.Basic

/-!
# Reading records from JSON values

A record is written as an object with members by name, or as an array with its
fields in order, where fields with a default may be missing at the end.  Members
that the record does not have are passed over whatever they hold; a member that
it has may stand only once.

Every array and object that is entered uses up one level of `room`.
-/

namespace Compliance.Json

/-- Reads a value of a type, with some levels of nesting left. -/
abbrev Reader (α : Type) := (room : Nat) → Json → Except Fault α

/-- A string. -/
def readText : Reader String
  | _, .string (some text) => .ok text
  | _, .string none => .error .malformed
  | _, _ => .error (.unexpectedKind "a string")

/-- A value or null. -/
def readOptional {α : Type} (read : Reader α) : Reader (Option α)
  | _, .null => .ok none
  | room, value => (read room value).map some

/-- The items of an array. -/
def itemsWithin (room : Nat) : Json → Except Fault (List Json)
  | .array items => if room = 0 then .error .tooDeep else .ok items
  | _ => .error (.unexpectedKind "an array")

/-- A list of values. -/
def readList {α : Type} (read : Reader α) : Reader (List α) := fun room value => do
  (← itemsWithin room value).mapM (read (room - 1))

/-! ## Fields -/

/-- The values of a record's fields, in the order of their names; a field may be missing. -/
abbrev Slots := List (Option Json)

/-- The value of the only member with the name, if there is one. -/
def onlyMember (name : String) (members : List (Option String × Json)) :
    Except Fault (Option Json) :=
  match members.filter fun entry => entry.1 = some name with
  | [] => .ok none
  | [entry] => .ok (some entry.2)
  | _ => .error (.repeatedMember name)

/-- The fields of a record with the given names. -/
def slots (names : List String) (room : Nat) (value : Json) : Except Fault Slots :=
  match value with
  | .object members =>
    if room = 0 then .error .tooDeep
    else if members.any fun entry => entry.1.isNone then .error .malformed
    else names.mapM fun name => onlyMember name members
  | .array items =>
    if room = 0 then .error .tooDeep
    else if names.length < items.length then .error .superfluousItem
    else .ok (items.map some ++ List.replicate (names.length - items.length) none)
  | _ => .error (.unexpectedKind "a record")

/-- The field at a place, which may not be missing. -/
def Slots.required {α : Type} (slots : Slots) (place : Nat) (name : String) (read : Reader α)
    (room : Nat) : Except Fault α :=
  match slots[place]? with
  | some (some value) => read room value
  | _ => .error (.missingMember name)

/-- The field at a place, or a default where it is missing. -/
def Slots.withDefault {α : Type} (slots : Slots) (place : Nat) (default : α) (read : Reader α)
    (room : Nat) : Except Fault α :=
  match slots[place]? with
  | some (some value) => read room value
  | _ => .ok default

/-- The items of the list at a place; a missing field is an empty list. -/
def Slots.items (slots : Slots) (place : Nat) (room : Nat) : Except Fault (List Json) :=
  slots.withDefault place [] itemsWithin room

end Compliance.Json
