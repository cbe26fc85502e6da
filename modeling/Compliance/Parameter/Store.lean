import Compliance.Files.Scan
import Compliance.Parameter.Definition
import Compliance.Product

/-!
# Stores of parameters

The parameters of a product are the files below its directory whose names end
with `.var`; the rest of the name is the identifier.  A file that is no
definition is passed over, and of two files for one identifier the later counts.
-/

namespace Compliance

/-- The parameters of a product by their identifiers. -/
abbrev ParameterStore := Table Parameter

namespace ParameterStore

/-- The ending of the names of parameter files. -/
def fileSuffix : String := ".var"

/-- Stores a parameter under its identifier. -/
def add (store : ParameterStore) (parameter : Parameter) : ParameterStore :=
  Table.insert store parameter.id parameter

/-- The parameter with an identifier. -/
def get (store : ParameterStore) (id : String) : Except Failure Parameter :=
  match Table.get? store id with
  | some parameter => .ok parameter
  | none => .error (.parameterNotFound id)

/-- The identifier that the name of a parameter file stands for. -/
def idOf (path : Path) : Option String := do
  let name ← (← path.fileName?).text?
  if FileTree.endsWith fileSuffix name then
    return String.ofList (name.toList.take (name.length - fileSuffix.length))
  else none

/-- The parameter that a file defines, if it does. -/
def parameterOf (product : Product) (found : FileTree.Found) : Option Parameter := do
  let id ← idOf found.1
  let text ← found.2.toOption
  match ParameterDefinition.parse (product.substitute text) with
  | .ok definition => return Parameter.ofDefinition id definition
  | .error _ => none

/-- The parameters that are defined below a directory. -/
def loadFrom (files : FileSystem) (product : Product) (root : Path) :
    Except Failure ParameterStore := do
  let found ← (files.filesWithSuffix root fileSuffix).mapError (.unreadable root)
  return (found.filterMap (parameterOf product)).foldl add ∅

/-- The parameters that are defined for a product. -/
def load (files : FileSystem) (product : Product) : Except Failure ParameterStore :=
  loadFrom files product product.benchmarkRoot

end ParameterStore

end Compliance
