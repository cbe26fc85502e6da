import Compliance.Files.Scan
import Compliance.Json.Reader
import Compliance.Json.Record
import Compliance.Product
import Compliance.Rule.Definition

/-!
# Sources of rules

A rule is found by its identifier in one of two places: an index that was
written beforehand, and the directories of a product, where the directory of a
rule has its identifier as name.  The first source that knows a rule decides.
-/

namespace Compliance

/-- Where rules are found, by their identifiers. -/
inductive RuleSource where
  | index (directories : Table Path)
  | scan (directories : Table Path)
deriving DecidableEq, Inhabited

/-- Sources in the order in which they are asked. -/
abbrev RuleLocator := List RuleSource

namespace RuleSource

/-- The name of a source. -/
def name : RuleSource → String
  | index _ => "rule_dirs.json"
  | scan _ => "directory scan"

/-- The directory of a rule. -/
def locate (rule : String) : RuleSource → Option Path
  | index directories => directories.get? rule
  | scan directories => directories.get? rule

/-! ## The index -/

/-- The directory in the entry of a rule. -/
def readEntry : Json.Reader Path := fun room value => do
  let slots ← Json.slots ["dir"] room value
  return RawText.ofText (← slots.required 0 "dir" Json.readText (room - 1))

/-- The directories of the rules that the text of an index holds. -/
def parseIndex (text : String) : Except Json.Fault (Table Path) := do
  match ← Json.parse text with
  | .object members =>
    let entries ← members.mapM fun (name, value) =>
      match name with
      | some name => do return (name, ← readEntry (Json.nestingLimit - 1) value)
      | none => .error .malformed
    return Table.ofList entries
  | _ => .error (.unexpectedKind "an object")

/-- The index in a file. -/
def loadIndex (files : FileSystem) (path : Path) : Except Failure RuleSource := do
  let directories ← (parseIndex (← files.readRequired path)).mapError (.json path <| .json ·)
  return .index directories

/-! ## The directories -/

/-- The directories by their names; of two with one name the first counts. -/
def byName (directories : List Path) : Table Path :=
  directories.foldl
    (fun table directory =>
      match directory.fileName?.bind RawText.text? with
      | some name => table.insertNew name directory
      | none => table) ∅

/-- The rule directories at or below a directory, of which none is inside another. -/
def scanDirectories (files : FileSystem) (root : Path) : Except Failure (Table Path) :=
  match files.list root with
  | .ok entries =>
    .ok (byName (FileTree.outermost RuleDefinition.fileName root (.directory entries)))
  | .error fault =>
    -- The empty path is no directory, and yet a definition may stand at it.
    if files.isFile (root.join RuleDefinition.fileName) then .ok ∅
    else .error (.unreadable root fault)

end RuleSource

namespace RuleLocator

/-- The directory of a rule in the first source that knows it. -/
def locate (locator : RuleLocator) (rule : String) : Option Path :=
  locator.findSome? (RuleSource.locate rule)

/-- The sources for a product: an index if one is given, and its directory if there is one. -/
def forProduct (files : FileSystem) (product : Product) (index : Option Path) :
    Except Failure RuleLocator := do
  let indexed ← match index with
    | some path => do pure [← RuleSource.loadIndex files path]
    | none => pure []
  if files.isDirectory product.benchmarkRoot then
    return indexed ++ [.scan (← RuleSource.scanDirectories files product.benchmarkRoot)]
  else return indexed

/-- The names of the sources between brackets. -/
def text (locator : RuleLocator) : String :=
  "[" ++ ", ".intercalate (locator.map fun source => Text.quoted source.name) ++ "]"

end RuleLocator

end Compliance
