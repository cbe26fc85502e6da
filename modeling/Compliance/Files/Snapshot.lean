import Compliance.Files.System

/-!
# Snapshots of files

A snapshot holds the files as far as they have been looked at.  What is looked at
is added to it piece by piece, and afterwards two snapshots tell which files and
directories have to be written.
-/

namespace Compliance

namespace FileSystem

/-- Nothing but the working directory. -/
def bare (working : List RawText) : FileSystem :=
  { root := working.foldr (fun name tree => .directory [(name, tree)]) (.directory []), working }

/-- The names that a path stands for, when no name on the way is a link. -/
def place (files : FileSystem) (path : Path) : List RawText :=
  path.steps.foldl
    (fun names name => if name = Path.upwards then names.dropLast else names ++ [name])
    (if path.isAbsolute then [] else files.working)

/-- Adds a directory where nothing is. -/
def addDirectory (files : FileSystem) (names : List RawText) : FileSystem :=
  if (files.root.get? names).isSome then files else files.put names.reverse (.directory [])

/-- Adds what is at a place, with the directories above it. -/
def addTree (files : FileSystem) (names : List RawText) (tree : FileTree) : FileSystem :=
  let above := (List.range names.length).map fun count => names.take count
  match names with
  | [] => { files with root := tree }
  | names => (above.foldl addDirectory files).put names.reverse tree

end FileSystem

/-- What has to be done to a file or a directory. -/
inductive FileChange where
  | makeDirectory (names : List RawText)
  | writeText (names : List RawText) (text : String)
deriving Repr, DecidableEq, Inhabited

namespace FileTree

/-- The entries of a tree that may be missing. -/
def entriesOf : Option FileTree → Entries
  | some (directory entries) => entries
  | _ => []

/-- The text of a tree that may be missing. -/
def textOf? : Option FileTree → Option String
  | some (file text) => text
  | _ => none

mutual

/-- What has to be done at a place to come from one tree to another; nothing is taken away. -/
def changes (names : List RawText) (before : Option FileTree) : FileTree → List FileChange
  | file none => []
  | file (some text) =>
    if textOf? before = some text then [] else [.writeText names text]
  | other _ => []
  | directory entries =>
    (if before.any isDirectory then [] else [.makeDirectory names]) ++
      changesOfEntries names (entriesOf before) entries

/-- What has to be done for the entries of a directory. -/
def changesOfEntries (names : List RawText) (before : Entries) : Entries → List FileChange
  | [] => []
  | (name, tree) :: others =>
    changes (names ++ [name]) (before.lookup name) tree ++ changesOfEntries names before others

end

end FileTree

end Compliance
