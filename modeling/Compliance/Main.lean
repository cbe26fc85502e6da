import Compliance.Command
import Compliance.Files.Snapshot
import Std.Time.DateTime.Timestamp

/-!
# The program

The outermost layer: it looks at the files that a command line names, carries the
command out on what it has seen, writes what has changed and prints the result.
-/

namespace Compliance.Program

/-- The names of a place as an absolute path. Only names that are texts can be looked at here. -/
def absolute (names : List RawText) : String := "/" ++ "/".intercalate (names.map RawText.shown)

/-- What is at a path; nothing if there is nothing to be read. -/
partial def readTree (path : String) : IO (Option FileTree) := do
  let place := (← IO.currentDir) / path
  if ← place.isDir then
    let mut entries : FileTree.Entries := []
    for entry in ← place.readDir do
      let tree ← readTree (path ++ "/" ++ entry.fileName)
      entries := (entry.fileName, tree.getD (.other .notFound)) :: entries
    return some (.directory entries)
  else if ← place.pathExists then
    return some (.file (String.fromUTF8? (← IO.FS.readBinFile place)))
  else return none

/-- Adds what is at a path to a snapshot. -/
def look (files : FileSystem) (path : Path) : IO FileSystem := do
  let names := files.place path
  match ← readTree (absolute names) with
  | some tree => return files.addTree names tree
  | none => return files

/-- Adds the directories on the way to a path to a snapshot, without what is in them. -/
def lookAlong (files : FileSystem) (path : Path) : IO FileSystem := do
  let names := files.place path
  let mut files := files
  for count in List.range (names.length + 1) do
    let part := names.take count
    let place := (← IO.currentDir) / absolute part
    if ← place.isDir then files := files.addDirectory part
    else if ← place.pathExists then
      if (files.root.get? part).isNone then files := files.addTree part (.file none)
  return files

/-- The paths that settings name, other than that of the output. -/
def inputs (settings : Settings) : List Path :=
  let profile := settings.build.profile.map fun name => Profile.ofName name settings.vendor
  [settings.root, settings.vendor] ++ settings.paths.ruleIndex.toList ++
    settings.paths.buildConfig.toList ++ (profile.map Profile.candidates).getD []

/-- The directory with the rules of the product that settings name. -/
def benchmarkRoot? (files : FileSystem) (settings : Settings) : Option Path :=
  settings.build.product.bind fun product =>
    match Product.load files settings.root product with
    | .ok product => some product.benchmarkRoot
    | .error _ => none

/-- Looks at all files that an invocation may need. -/
def lookAround (invocation : Invocation) (files : FileSystem) : IO FileSystem := do
  let files ← look files (invocation.settingsFile.getD Settings.usualFile)
  match Settings.load files invocation.settingsFile with
  | .error _ => return files
  | .ok loaded =>
    let named := loaded.overriddenBy invocation.paths invocation.build
    let files ← look files named.root
    let settings := named.withDefaults files
    let files ← (inputs settings).foldlM look files
    let files ← (benchmarkRoot? files settings).toList.foldlM look files
    settings.build.output.toList.foldlM lookAlong files

/-- Identifiers from random octets, and the time of now. -/
def freshStamp : IO Stamp := do
  let octets ← IO.getRandomBytes 16
  let seed := octets.toList.foldl (fun number octet => 256 * number + octet.toNat) 0
  let now ← Std.Time.Timestamp.now
  return {
    -- The factor is odd, so that different counts give different numbers.
    uuid := fun count =>
      Uuid.ofRandom ((seed + count * 0x9e3779b97f4a7c15f39cc0605cedc835) % Nat.pow 2 128)
    time := Timestamp.ofNanoseconds now.toNanosecondsSinceUnixEpoch.val }

/-- Makes a change. -/
def apply : FileChange → IO Unit
  | .makeDirectory names => IO.FS.createDirAll (absolute names)
  | .writeText names text => IO.FS.writeFile (absolute names) text

/-- Whether styles are shown: they can be forced or forbidden, and else are shown on a terminal.
A variable with the value `0` says no. -/
def showsStyles (forced forbidden allowed : Option String) (onTerminal : Bool) : Bool :=
  if forced.any (· ≠ "0") then true
  else if forbidden.isSome then false
  else allowed.all (· ≠ "0") && onTerminal

/-- Carries out a command line. -/
def run (arguments : List String) : IO Result := do
  let working := Path.steps (← IO.currentDir).toString
  let bare := FileSystem.bare working
  let files ← match Invocation.parse arguments with
    | .ok invocation => lookAround invocation bare
    | .error _ => pure bare
  let stamp ← freshStamp
  let logFilter ← IO.getEnv "RUST_LOG"
  let result := Invocation.runLine arguments { files, stamp, logFilter }
  (result.files.root.changes [] (some files.root)).forM apply
  return result

end Compliance.Program

open Compliance in
/-- Carries out the command line of the program. -/
def main (arguments : List String) : IO UInt32 := do
  let styled := Program.showsStyles (← IO.getEnv "CLICOLOR_FORCE") (← IO.getEnv "NO_COLOR")
    (← IO.getEnv "CLICOLOR") (← (← IO.getStdout).isTty)
  let result ← Program.run arguments
  IO.print (result.verdict.output styled)
  IO.eprint (Report.render styled (result.verdict.complaint .plain))
  return result.verdict.exitCode.toUInt32
