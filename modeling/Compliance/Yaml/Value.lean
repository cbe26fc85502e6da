import Compliance.Decimal.Shortest

/-!
# YAML values

What a document means: scalars have their kinds, and aliases are gone.  Two
mappings are equal when they have equal entries, whatever their order, and no
mapping has two equal keys.
-/

namespace Compliance.Yaml

open Compliance.Decimal

/-- A value. The name of a tag stands without its exclamation mark. -/
inductive Value where
  | null
  | bool (value : Bool)
  | integer (value : Int)
  | number (value : Double)
  | string (text : String)
  | sequence (items : List Value)
  | mapping (entries : List (Value × Value))
  | tagged (tag : String) (content : Value)
deriving Inhabited

/-- The entries of a mapping, in their order. -/
abbrev Entries := List (Value × Value)

namespace Value

/-! ## Equality -/

mutual

/-- Whether two values are equal. -/
def same : Value → Value → Bool
  | null, null => true
  | bool first, bool second => first = second
  | integer first, integer second => first = second
  | number first, number second => first.same second
  | string first, string second => first = second
  | sequence first, sequence second => sameItems first second
  | mapping first, mapping second =>
    first.length = second.length && entriesWithin first second
  | tagged firstTag first, tagged secondTag second => firstTag = secondTag && same first second
  | _, _ => false

/-- Whether two sequences have equal items. -/
def sameItems : List Value → List Value → Bool
  | [], [] => true
  | first :: firsts, second :: seconds => same first second && sameItems firsts seconds
  | _, _ => false

/-- Whether every entry of the first list has an equal one in the second. -/
def entriesWithin : Entries → Entries → Bool
  | [], _ => true
  | (key, value) :: others, second =>
    second.any (fun entry => same key entry.1 && same value entry.2) &&
      entriesWithin others second

end

/-! ## Entries -/

/-- Whether some entry has a key equal to `key`. -/
def hasKey (key : Value) (entries : Entries) : Bool := entries.any fun entry => key.same entry.1

/-- Stores a value under a key: in the stead of the old value, or at the end. -/
def store (key value : Value) : Entries → Entries
  | [] => [(key, value)]
  | (name, old) :: others =>
    if key.same name then (name, value) :: others else (name, old) :: store key value others

/-- The value under a text as a key. -/
def lookup (name : String) : Entries → Option Value
  | [] => none
  | (string text, value) :: others => if text = name then some value else lookup name others
  | _ :: others => lookup name others

/-! ## Views -/

/-- The value under its tags. -/
def untagged : Value → Value
  | tagged _ content => content.untagged
  | value => value

/-- The text of a string, under any tags. -/
def text? (value : Value) : Option String :=
  match value.untagged with
  | string text => some text
  | _ => none

/-- A string, number or truth value as text; a tag hides it. -/
def scalarText? : Value → Option String
  | string text => some text
  | integer value => some (String.ofList (integerText value))
  | number value => some (String.ofList value.text)
  | bool true => some "true"
  | bool false => some "false"
  | _ => none

end Value

end Compliance.Yaml
