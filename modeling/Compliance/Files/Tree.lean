import Compliance.Path

/-!
# File trees

A file tree is what a directory holds, in some order in which its entries happen
to be listed.  No two entries of a directory have the same name.
-/

namespace Compliance

/-- Why a file or directory cannot be used. -/
inductive FileFault where
  | notFound
  | notADirectory
  | isADirectory
  | alreadyExists
  | nameTooLong
  | zeroInName
  | notText
  | other (reason : String)
deriving Repr, DecidableEq, Inhabited

/-- The fault in words. -/
def FileFault.message : FileFault → String
  | notFound => "No such file or directory (os error 2)"
  | notADirectory => "Not a directory (os error 20)"
  | isADirectory => "Is a directory (os error 21)"
  | alreadyExists => "File exists (os error 17)"
  | nameTooLong => "File name too long (os error 36)"
  | zeroInName => "file name contained an unexpected NUL byte"
  | notText => "stream did not contain valid UTF-8"
  | other reason => reason

/-- A file with its text, which is missing when its octets are no text; a directory; or something
else, with the reason why it cannot be opened. -/
inductive FileTree where
  | file (text : Option String)
  | other (fault : FileFault)
  | directory (entries : List (RawText × FileTree))
deriving Inhabited

namespace FileTree

/-- The entries of a directory. -/
abbrev Entries := List (RawText × FileTree)

/-- Whether a tree is a directory. -/
def isDirectory : FileTree → Bool
  | directory _ => true
  | file _ => false
  | other _ => false

/-- Whether a tree is a file. -/
def isFile : FileTree → Bool
  | file _ => true
  | other _ => false
  | directory _ => false

/-- What comes of reading a tree. -/
def read : FileTree → Except FileFault String
  | file (some text) => .ok text
  | file none => .error .notText
  | other fault => .error fault
  | directory _ => .error .isADirectory

/-- The tree at the end of a list of names. -/
def get? : FileTree → (names : List RawText) → Option FileTree
  | tree, [] => some tree
  | directory entries, name :: names =>
    match entries.lookup name with
    | some child => child.get? names
    | none => none
  | file _, _ :: _ => none
  | other _, _ :: _ => none

/-- Puts a tree into a directory, in the stead of an entry of the same name. -/
def putEntry (name : RawText) (tree : FileTree) : Entries → Entries
  | [] => [(name, tree)]
  | (key, old) :: rest =>
    if name = key then (name, tree) :: rest else (key, old) :: putEntry name tree rest

/-- Takes the entry of a name out of a directory. -/
def dropEntry (name : RawText) (entries : Entries) : Entries :=
  entries.filter fun entry => entry.1 ≠ name

/-- Changes the directory at the end of a list of names; where there is none nothing changes. -/
def update (change : Entries → Entries) : (names : List RawText) → FileTree → FileTree
  | [], directory entries => directory (change entries)
  | name :: names, directory entries =>
    match entries.lookup name with
    | some child => directory (putEntry name (update change names child) entries)
    | none => directory entries
  | _, file text => file text
  | _, other fault => other fault

/-! ## Trees under a path -/

mutual

/-- A tree as it is seen under a path: what is at a path that is too long cannot be opened, whatever
it is. -/
def seenUnder (path : Path) : FileTree → FileTree
  | directory entries => directory (entriesUnder path entries)
  | file text => file text
  | other fault => other fault

/-- The entries of a directory as they are seen under its path. -/
def entriesUnder (path : Path) : Entries → Entries
  | [] => []
  | (name, tree) :: others =>
    (name, if (path.join name).fits then seenUnder (path.join name) tree else other .nameTooLong) ::
      entriesUnder path others

end

end FileTree

end Compliance
