import Compliance.Yaml.Document
import Compliance.Yaml.Value.Scalar

/-!
# Reading values from documents

A reading follows aliases.  It counts how often it does, since nested aliases
can make a short document stand for a huge value, and it uses up one level of
`room` for each collection that it enters.
-/

namespace Compliance.Yaml

/-- A reading of a part of a document, with the number of aliases followed so far. -/
abbrev Reading (α : Type) := StateT Nat (Except Fault) α

/-- Reads a node as a value of a type. -/
abbrev Reader (α : Type) := (document : Document) → (room : Nat) → Node → Reading α

/-- How many collections may be open at once. -/
def nestingLimit : Nat := 128

/-- The node itself, or what it is an alias of. -/
def follow (document : Document) : Node → Reading Node
  | .aliasOf number => do
    let jumps ← get
    if document.aliasLimit ≤ jumps then throw .tooManyAliases
    else
      set (jumps + 1)
      match document.anchored? number with
      | some node => pure node
      | none => throw .undefinedAnchor
  | node => pure node

namespace Value

/-- Puts a value under the tag of a collection, if the tag gives a name. -/
def underTag (tag : Option String) (value : Value) : Value :=
  match tag.bind Scalar.tagName? with
  | some name => tagged (Scalar.withoutMark name) value
  | none => value

/-- Reads the entries of a mapping one after the other; no key may be repeated. -/
def entriesOf (read : Node → Reading Value) : List (Node × Node) → Entries → Reading Entries
  | [], taken => pure taken.reverse
  | (key, value) :: others, taken => do
    let key ← read key
    if hasKey key taken then throw .repeatedKey
    else
      let value ← read value
      entriesOf read others ((key, value) :: taken)

/-- Reads a node as a value. -/
def read (document : Document) : (room : Nat) → Node → Reading Value
  | 0, node => do
    match ← follow document node with
    | .scalar _ tag text style => liftM (Scalar.value tag style text)
    | _ => throw .tooDeep
  | room + 1, node => do
    match ← follow document node with
    | .aliasOf _ => throw .undefinedAnchor
    | .scalar _ tag text style => liftM (Scalar.value tag style text)
    | .sequence _ tag items => do
      return underTag tag (.sequence (← items.mapM (read document room)))
    | .mapping _ tag entries => do
      return underTag tag (.mapping (← entriesOf (read document room) entries []))

end Value

/-- What a whole document is read as; `absent` is what no document is read as. -/
def readDocument {α : Type} (absent : α) (reader : Reader α) (text : String) : Except Fault α := do
  let document ← Document.parse text
  match document.root with
  | none => return absent
  | some root =>
    let (result, _) ← (reader document nestingLimit root).run 0
    return result

/-- The value that a text holds. A text without a document is null. -/
def Value.parse (text : String) : Except Fault Value := readDocument .null Value.read text

end Compliance.Yaml
