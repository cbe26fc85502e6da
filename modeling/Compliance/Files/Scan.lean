import Compliance.Files.System

/-!
# Scanning directories

A scan visits the entries of every directory in the order of their names and
goes into a directory where it meets it, so that paths come out in the order of
their names, name by name.  It looks for names that are texts: a file with
another name is never found, however its octets end.
-/

namespace Compliance

namespace FileTree

/-- Named values in the order of their names. -/
def inOrder {α : Type} (named : List (RawText × α)) : List (RawText × α) :=
  named.mergeSort fun first second => decide (first.1 ≤ second.1)

theorem perm_inOrder {α : Type} (named : List (RawText × α)) : (inOrder named).Perm named :=
  List.mergeSort_perm named _

/-- A file that was found, with what comes of reading it. -/
abbrev Found := Path × Except FileFault String

/-- Whether a name is a text that ends with a suffix. -/
def endsWith (suffix : String) (name : RawText) : Bool :=
  name.text?.any fun text => suffix.toList.isSuffixOf text.toList

mutual

/-- What is no directory below a directory and has a name that ends with a suffix. -/
def filesBelow (suffix : String) (path : Path) : FileTree → List Found
  | directory entries => (inOrder (filesOf suffix path entries)).flatMap (·.2)
  | file _ => []
  | other _ => []

/-- What each entry of a directory adds to the files below it. -/
def filesOf (suffix : String) (path : Path) : Entries → List (RawText × List Found)
  | [] => []
  | (name, directory entries) :: others =>
    (name, filesBelow suffix (path.join name) (directory entries)) :: filesOf suffix path others
  | (name, file text) :: others =>
    (name, if endsWith suffix name then [(path.join name, (file text).read)] else []) ::
      filesOf suffix path others
  | (name, other fault) :: others =>
    (name, if endsWith suffix name then [(path.join name, (other fault).read)] else []) ::
      filesOf suffix path others

end

/-- Whether a directory holds a file with a name. -/
def holdsFile (name : RawText) (entries : Entries) : Bool :=
  match entries.lookup name with
  | some tree => tree.isFile
  | none => false

mutual

/-- The directories at or below a path that hold a file with a name, but none below another. -/
def outermost (name : RawText) (path : Path) : FileTree → List Path
  | directory entries =>
    if holdsFile name entries then [path]
    else (inOrder (outermostOf name path entries)).flatMap (·.2)
  | file _ => []
  | other _ => []

/-- What each entry of a directory adds to the directories below it. -/
def outermostOf (name : RawText) (path : Path) : Entries → List (RawText × List Path)
  | [] => []
  | (child, tree) :: others =>
    (child, outermost name (path.join child) tree) :: outermostOf name path others

end

end FileTree

namespace FileSystem

/-- The files below a directory whose names end with a suffix. -/
def filesWithSuffix (files : FileSystem) (root : Path) (suffix : String) :
    Except FileFault (List FileTree.Found) := do
  let entries ← files.list root
  return FileTree.filesBelow suffix root (.directory entries)

end FileSystem

end Compliance
