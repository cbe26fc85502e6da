import Compliance.Settings
import Compliance.Toml.Reader
import Compliance.Toml.Record

/-!
# Settings files

A settings file has one table for each group of settings.  A file that is asked
for has to exist; the one with the usual name is read if it is there.
-/

namespace Compliance

open Compliance.Toml

/-- The format that a word stands for. -/
def LogFormat.read (value : Value) : Except Fault LogFormat := do
  let word ← value.word
  match [LogFormat.pretty, .json, .compact].find? fun format => format.word = word with
  | some format => return format
  | none => .error (.unknownWord word)

/-- The path at a field that may be missing. -/
def Toml.Record.path? (record : Record) (place : Nat) (name : String) :
    Except Fault (Option Path) := do
  return (← record.text? place name).map RawText.ofText

/-- Where the content is. -/
def PathSettings.read (value : Value) : Except Fault PathSettings := do
  let record ← value.record
  let root ← record.path? 0 "root"
  let vendor ← record.path? 1 "vendor_dir"
  let ruleIndex ← record.path? 2 "rule_dirs_json"
  let buildConfig ← record.path? 3 "build_config"
  return { root, vendor, ruleIndex, buildConfig }

/-- What is to be built. -/
def BuildSettings.read (value : Value) : Except Fault BuildSettings := do
  let record ← value.record
  let product ← record.text? 0 "product"
  let profile ← record.text? 1 "profile"
  let policy ← record.text? 2 "policy"
  let componentType ← record.text? 3 "component_type"
  let output ← record.path? 4 "output"
  return { product, profile, policy, componentType, output }

/-- What is logged, and how. -/
def LogSettings.read (value : Value) : Except Fault LogSettings := do
  let record ← value.record
  let filter ← record.text? 0 "filter"
  let format ← record.part 1 "format" .pretty LogFormat.read
  return { filter, format }

namespace Settings

/-- The settings that a document holds. -/
def ofEntries (entries : Entries) : Except Fault Settings := do
  let record := Record.named entries
  let paths ← record.part 0 "paths" {} PathSettings.read
  let build ← record.part 1 "build" {} BuildSettings.read
  let logging ← record.part 2 "logging" {} LogSettings.read
  return { paths, build, logging }

/-- The settings in the text of a file. -/
def parse (path : Path) (text : String) : Except SettingsFault Settings :=
  (Toml.parse text >>= ofEntries).mapError (.malformed path)

/-- The settings in a file. -/
def loadFrom (files : FileSystem) (path : Path) : Except SettingsFault Settings := do
  parse path (← (files.readText path).mapError (.unreadable path))

/-- The usual name of a settings file. -/
def usualFile : Path := "compdef.toml"

/-- The settings in the file that is asked for, or in the usual one. -/
def load (files : FileSystem) (asked : Option Path) : Except SettingsFault Settings :=
  match asked with
  | some path => if files.holds path then loadFrom files path else .error (.notFound path)
  | none => if files.isFile usualFile then loadFrom files usualFile else .ok {}

end Settings

end Compliance
