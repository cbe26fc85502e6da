import Compliance.Toml.Basic

/-!
# Records in TOML

A record is written as a table with its fields by name, or as a list with its
fields in their order.  A field may be missing, and what is not a field is passed
over.  A time counts as a record too, since it consists of named parts, none of
which is ever a field.
-/

namespace Compliance.Toml

/-- The fields of a record, by name or in order. -/
inductive Record where
  | named (entries : Entries)
  | listed (items : List Value)
deriving Inhabited

/-- A value as a record. -/
def Value.record : Value → Except Fault Record
  | .table _ entries => .ok (.named entries)
  | .list items => .ok (.listed items)
  | .tables items => .ok (.listed items)
  | .time => .ok (.listed [])
  | .text _ => .error (.unexpectedKind "a table")
  | .scalar => .error (.unexpectedKind "a table")

namespace Record

/-- The field at a place or of a name. -/
def field? (record : Record) (place : Nat) (name : String) : Option Value :=
  match record with
  | named entries => entries.lookup name
  | listed items => items[place]?

/-- A field that is a text. -/
def text? (record : Record) (place : Nat) (name : String) : Except Fault (Option String) :=
  match record.field? place name with
  | none => .ok none
  | some (.text content) => .ok (some content)
  | some _ => .error (.unexpectedKind "a text")

/-- A field that is read by `read`, with the value that it has when it is missing. -/
def part {α : Type} (record : Record) (place : Nat) (name : String) (missing : α)
    (read : Value → Except Fault α) : Except Fault α :=
  match record.field? place name with
  | none => .ok missing
  | some value => read value

end Record

/-- The word of a value that stands for one of several words: the word itself, or a table with the
word as its only key and nothing in it. -/
def Value.word : Value → Except Fault String
  | .text content => .ok content
  | .table _ [(word, .table _ [])] => .ok word
  | .table _ [(word, .list [])] => .ok word
  | _ => .error (.unexpectedKind "a word")

end Compliance.Toml
