import Compliance.Files.Tree

/-!
# Files by their paths

The files of a system form one tree; a path that is not absolute starts at the
working directory.  A path is followed name by name: every name but the last has
to lead to a directory, and so has the last one if a slash follows it.
-/

namespace Compliance

/-- What cuts the writing of a file short once it has been opened, such as a full device: so many
octets are still written. -/
structure Interruption where
  octets : Nat
  fault : FileFault
deriving Repr, DecidableEq, Inhabited

/-- Whether a text is too long to be written as a whole. -/
def Interruption.cuts (stop : Interruption) (text : String) : Bool :=
  stop.octets < text.utf8ByteSize

/-- What is left of a text that is cut short: the octets that were written, if they are a text. -/
def Interruption.rest (stop : Interruption) (text : String) : Option String :=
  String.fromUTF8? (text.toUTF8.extract 0 stop.octets)

/-- The files of a system, the names that lead to the working directory, and what cuts writing
short. -/
structure FileSystem where
  root : FileTree
  working : List RawText
  interruption : Option Interruption := none
deriving Inhabited

namespace FileSystem

/-- The greatest length of a name, in octets. -/
def nameLimit : Nat := 255

/-- Follows names from a place, which is written backwards like the result. -/
def walk (root : FileTree) : (place names : List RawText) → Except FileFault (List RawText)
  | place, [] => .ok place
  | place, name :: names =>
    match root.get? place.reverse with
    | some (.directory _) =>
      if name = Path.upwards then walk root place.tail names
      else if nameLimit < name.octets.length then .error .nameTooLong
      else if (root.get? (name :: place).reverse).isSome then walk root (name :: place) names
      else .error .notFound
    | some _ => .error .notADirectory
    | none => .error .notFound

/-- Whether a path can be used at all: it is not empty, not too long and without a zero. -/
def usable (path : Path) : Except FileFault Unit :=
  if path.octets.contains 0 then .error .zeroInName
  else if path.octets.isEmpty then .error .notFound
  else if path.fits then .ok ()
  else .error .nameTooLong

/-- The place that names lead to from the start of a path. -/
def follow (files : FileSystem) (path : Path) (names : List RawText) :
    Except FileFault (List RawText) := do
  usable path
  walk files.root (if path.isAbsolute then [] else files.working.reverse) names

/-- What a path leads to. -/
def find (files : FileSystem) (path : Path) : Except FileFault FileTree := do
  let place ← files.follow path path.steps
  match files.root.get? place.reverse with
  | none => .error .notFound
  | some (.directory entries) => .ok (.directory entries)
  | some tree => if path.demandsDirectory then .error .notADirectory else .ok tree

/-- Whether a path leads anywhere. -/
def holds (files : FileSystem) (path : Path) : Bool :=
  match files.find path with
  | .ok _ => true
  | .error _ => false

/-- Whether a path leads to a file. -/
def isFile (files : FileSystem) (path : Path) : Bool :=
  match files.find path with
  | .ok tree => tree.isFile
  | .error _ => false

/-- Whether a path leads to a directory. -/
def isDirectory (files : FileSystem) (path : Path) : Bool :=
  match files.find path with
  | .ok tree => tree.isDirectory
  | .error _ => false

/-- The text of a file. -/
def readText (files : FileSystem) (path : Path) : Except FileFault String := do
  (← files.find path).read

/-- The entries of a directory, as they are seen under its path. -/
def list (files : FileSystem) (path : Path) : Except FileFault FileTree.Entries := do
  match ← files.find path with
  | .directory entries => .ok (FileTree.entriesUnder path entries)
  | _ => .error .notADirectory

/-! ## Writing -/

/-- Puts a tree at a place, which is written backwards. -/
def put (files : FileSystem) (place : List RawText) (tree : FileTree) : FileSystem :=
  match place with
  | [] => files
  | name :: others =>
    { files with root := files.root.update (FileTree.putEntry name tree) others.reverse }

/-- Takes away what is at a place, which is written backwards. -/
def drop (files : FileSystem) (place : List RawText) : FileSystem :=
  match place with
  | [] => files
  | name :: others =>
    { files with root := files.root.update (FileTree.dropEntry name) others.reverse }

/-- Makes one directory, whose parent exists. -/
def makeDirectory (files : FileSystem) (path : Path) : Except FileFault FileSystem :=
  match path.steps.reverse with
  | [] => do usable path; .error .alreadyExists
  | name :: before => do
    let place ← files.follow path before.reverse
    match files.root.get? place.reverse with
    | some (.directory _) =>
      if nameLimit < name.octets.length then .error .nameTooLong
      else if name = Path.upwards || (files.root.get? (name :: place).reverse).isSome then
        .error .alreadyExists
      else .ok (files.put (name :: place) (.directory []))
    | some _ => .error .notADirectory
    | none => .error .notFound

/-- Makes a directory and those above it that are missing, with `fuel` of them at most. The files
stand as they are after the last directory that could be made. -/
def makeDirectories : (fuel : Nat) → FileSystem → Path → FileSystem × Option FileFault
  | 0, files, _ => (files, some .notFound)
  | fuel + 1, files, path =>
    if path.octets.isEmpty then (files, none)
    else
      let settle (files : FileSystem) (fault : FileFault) : FileSystem × Option FileFault :=
        if files.isDirectory path then (files, none) else (files, some fault)
      match files.makeDirectory path with
      | .ok made => (made, none)
      | .error .notFound =>
        match path.parent? with
        | none => (files, some (.other "failed to create whole tree"))
        | some parent =>
          match makeDirectories fuel files parent with
          | (files, some fault) => (files, some fault)
          | (files, none) =>
            match files.makeDirectory path with
            | .ok made => (made, none)
            | .error fault => settle files fault
      | .error fault => settle files fault

/-- Opens a file for writing: the place of the file, which is written backwards. -/
def openFile (files : FileSystem) (path : Path) : Except FileFault (List RawText) :=
  if path.endsInDots then do
    let _ ← files.find path
    .error .isADirectory
  else match path.steps.reverse with
    | [] => do usable path; .error .isADirectory
    | name :: before => do
      let place ← files.follow path before.reverse
      match files.root.get? place.reverse with
      | some (.directory _) =>
        if path.demandsDirectory then .error .isADirectory
        else if nameLimit < name.octets.length then .error .nameTooLong
        else match files.root.get? (name :: place).reverse with
          | some (.directory _) => .error .isADirectory
          | some (.other fault) => .error fault
          | _ => .ok (name :: place)
      | some _ => .error .notADirectory
      | none => .error .notFound

/-- Writes a text to a file, which is made if it is missing and emptied before if it is not. If the
writing is cut short, what was written until then stays. -/
def writeText (files : FileSystem) (path : Path) (text : String) : FileSystem × Option FileFault :=
  match files.openFile path with
  | .error fault => (files, some fault)
  | .ok place =>
    match files.interruption.filter (·.cuts text) with
    | some stop => (files.put place (.file (stop.rest text)), some stop.fault)
    | none => (files.put place (.file (some text)), none)

end FileSystem

end Compliance
