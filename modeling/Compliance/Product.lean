import Compliance.Failure
import Compliance.Product.Placeholder
import Compliance.Product.Qualified
import Compliance.Table
import Compliance.Yaml.Value.Reader

/-!
# Products

A product has an identifier, a directory with its rules and parameters, and
properties that fill in the placeholders of content files.  The property
`product` is always the identifier, unless someone sets it afterwards.
-/

namespace Compliance

/-- The product that a component is described for. -/
structure Product where
  id : String
  benchmarkRoot : Path
  properties : Table String
deriving DecidableEq, Inhabited

namespace Product

open Compliance.Yaml

/-- The name of the file with the definition of a product. -/
def definitionFile : String := "product.yml"

/-- A product without further properties. -/
def new (id : String) (benchmarkRoot : Path) : Product :=
  { id, benchmarkRoot, properties := (∅ : Table String).insert "product" id }

/-- Sets a property. -/
def withProperty (product : Product) (key value : String) : Product :=
  { product with properties := product.properties.insert key value }

/-- The value of a property. -/
def property? (product : Product) (key : String) : Option String := product.properties.get? key

/-- The name of the product, or its identifier if it has none. -/
def fullName (product : Product) : String := (product.property? "full_name").getD product.id

/-- The text with its placeholders filled in. -/
def substitute (product : Product) (text : String) : String :=
  String.ofList
    (fill (fun key => (product.property? (String.ofList key)).map String.toList) text.toList)

/-- The value as it holds for the product. -/
def normalize (product : Product) (value : Value) : Value := normalizeFor product.id value

/-! ## Definitions -/

/-- The entries with a text as key and a scalar as value, in their order. -/
def scalarEntries (entries : Entries) : List (String × String) :=
  entries.filterMap fun (key, value) => do return (← key.text?, ← value.scalarText?)

/-- The product that a definition describes; `name` is its identifier unless the definition has one
of its own, and a relative directory is seen from `directory`. -/
def ofEntries (entries : Entries) (name : String) (directory : Path) : Except Remark Product :=
  let properties := Table.ofList (scalarEntries entries)
  let id := (properties.get? "product").getD name
  match properties.get? "benchmark_root" with
  | none => .error (.words "missing required key 'benchmark_root'")
  | some root =>
    .ok { id, benchmarkRoot := directory.join root, properties := properties.insert "product" id }

/-- The product that the text of a definition describes. -/
def parse (text name : String) (directory : Path) : Except Failure Product :=
  let result : Except Remark Product :=
    match Value.parse text with
    | .error fault => .error (.yaml fault)
    | .ok (.mapping entries) => ofEntries entries name directory
    | .ok _ => .error (.words "expected a mapping")
  result.mapError (.productDefinition (directory.join definitionFile))

/-- The product whose definition stands in a content tree. -/
def load (files : FileSystem) (root : Path) (name : String) : Except Failure Product := do
  let directory := (root.join "products").join name
  parse (← files.readRequired (directory.join definitionFile)) name directory

/-- Adds the properties of entries whose keys are not set yet; of two entries for one key the
earlier counts. -/
def addEntries (product : Product) (entries : Entries) : Product :=
  { product with
    properties := (scalarEntries entries).foldl
      (fun properties entry => properties.insertNew entry.1 entry.2) product.properties }

/-- Adds the properties of a build configuration that are not set yet. -/
def withBuildConfig (files : FileSystem) (product : Product) (path : Path) :
    Except Failure Product := do
  match Value.parse (← files.readRequired path) with
  | .error fault => .error (.yaml path (.yaml fault))
  | .ok (.mapping entries) => return product.addEntries entries
  | .ok _ => return product

end Product

end Compliance
