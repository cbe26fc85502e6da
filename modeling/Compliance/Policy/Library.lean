import Compliance.Files.Scan
import Compliance.Policy.ControlFile

/-!
# Libraries of policies

A library holds the policies of a content tree by their identifiers, and
remembers the files that could not be used.  Of two policies with one identifier
the later counts.
-/

namespace Compliance

/-- The policy that a text holds. A text without a document is a record without fields. -/
def ControlFile.parse (text : String) : Except ContentFault ControlFile := do
  match ← (Yaml.readDocument none (fun document room node => do
      return some (← ControlFile.read document room node)) text).mapError (.malformed none) with
  | some file => .ok file
  | none => .error (.malformed none (.missingField "policy"))

/-- The policies of a content tree. -/
structure PolicyLibrary where
  policies : Table ControlFile
  /-- The files that could not be used, in the order of their paths. -/
  invalid : List (Path × ContentFault)
deriving Inhabited

namespace PolicyLibrary

/-- The ending of the names of control files. -/
def fileSuffix : String := ".yml"

/-- A library without policies. -/
def empty : PolicyLibrary := ⟨∅, []⟩

/-- Adds a policy. -/
def add (library : PolicyLibrary) (file : ControlFile) : PolicyLibrary :=
  { library with policies := library.policies.insert file.id file }

/-- The policy that a file holds for a product. -/
def policyOf (product : Product) (found : FileTree.Found) : Except ContentFault ControlFile := do
  let text ← found.2.mapError (.unreadable found.1)
  (ControlFile.parse (product.substitute text)).mapError (.inFile found.1)

/-- Adds the policy of a file, or remembers that it cannot be used. -/
def addFound (product : Product) (library : PolicyLibrary) (found : FileTree.Found) :
    PolicyLibrary :=
  match policyOf product found with
  | .ok file => library.add file
  | .error fault => { library with invalid := library.invalid ++ [(found.1, fault)] }

/-- The policies below a directory. -/
def load (files : FileSystem) (product : Product) (directory : Path) :
    Except Failure PolicyLibrary := do
  let found ← (files.filesWithSuffix directory fileSuffix).mapError (.unreadable directory)
  return found.foldl (addFound product) empty

/-- The policy with an identifier. -/
def policy? (library : PolicyLibrary) (id : String) : Option ControlFile :=
  library.policies.get? id

/-- The failure to find a policy, with all files that could not be used. -/
def notFound (library : PolicyLibrary) (id : String) : Failure :=
  .policyNotFound id (library.invalid.map fun (_, fault) => .content fault)

/-- The controls of a policy at all levels. -/
def controls (library : PolicyLibrary) (id : String) : Except Failure (List PolicyControl) :=
  match library.policy? id with
  | some file => .ok file.flattened
  | none => .error (library.notFound id)

end PolicyLibrary

end Compliance
