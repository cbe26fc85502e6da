import Compliance.Text.Pieces
import Compliance.Yaml.Value

/-!
# Qualified keys

A key with an `@` in it is qualified: before the first `@` stands the plain key,
after it the product that the entry is meant for.  For a product the entries of
its own qualified keys take the place of the plain ones, and those of all other
products are left out.
-/

namespace Compliance.Product

open Compliance.Yaml

/-- The plain key and the product of a qualified key. -/
def qualified? (key : Value) : Option (String × String) := do
  let (base, product) ← Text.cut? '@' (← key.text?).toList
  return (String.ofList base, String.ofList product)

/-- The entries whose keys are not qualified. -/
def plainEntries (entries : Entries) : Entries :=
  entries.filter fun entry => (qualified? entry.1).isNone

/-- The entries whose keys are qualified for a product, under their plain keys. -/
def ownEntries (product : String) (entries : Entries) : Entries :=
  entries.filterMap fun (key, value) =>
    match qualified? key with
    | some (base, owner) => if owner = product then some (.string base, value) else none
    | none => none

/-- The entries of a mapping as they hold for a product. -/
def select (product : String) (entries : Entries) : Entries :=
  (ownEntries product entries).foldl (fun taken entry => Value.store entry.1 entry.2 taken)
    (plainEntries entries)

mutual

/-- The value as it holds for a product: qualified keys are resolved in all mappings that are
reached through sequences and through the values of mappings. -/
def normalizeFor (product : String) : Value → Value
  | .mapping entries => .mapping (select product (normalizeEntriesFor product entries))
  | .sequence items => .sequence (normalizeItemsFor product items)
  | .null => .null
  | .bool value => .bool value
  | .integer value => .integer value
  | .number value => .number value
  | .string text => .string text
  | .tagged tag content => .tagged tag content

/-- The items of a sequence as they hold for a product. -/
def normalizeItemsFor (product : String) : List Value → List Value
  | [] => []
  | item :: others => normalizeFor product item :: normalizeItemsFor product others

/-- The entries of a mapping with their values as they hold for a product. -/
def normalizeEntriesFor (product : String) : Entries → Entries
  | [] => []
  | (key, value) :: others =>
    (key, normalizeFor product value) :: normalizeEntriesFor product others

end

end Compliance.Product
