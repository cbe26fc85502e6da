import Compliance.Files.System
import Compliance.Json.Basic
import Compliance.Text.Quoted
import Compliance.Yaml.Fault

/-!
# Failures

A failure says what went wrong and where.  An unknown profile and an unknown
policy are preconditions: nothing can be built without them.  Failures of rules
are collected, so that one run names all of them.

How a document reader words its fault is left to a `Wording`; all other words of
a failure are fixed here.
-/

namespace Compliance

/-- The words for the faults of documents. -/
structure Wording where
  yaml : Yaml.Fault → String
  json : Json.Fault → String

/-- The words of the faults themselves. -/
def Wording.plain : Wording := ⟨Yaml.Fault.message, Json.Fault.message⟩

/-- The text of a place where something was found wrong, before the words for it. -/
def atFile (file : Option Path) (words : String) : String :=
  match file with
  | some path => path.shown ++ ": " ++ words
  | none => words

/-! ## Content files -/

/-- Why a rule, a parameter or a control file cannot be used. A text that comes from no file has no
path. -/
inductive ContentFault where
  | unreadable (path : Path) (fault : FileFault)
  | malformed (file : Option Path) (fault : Yaml.Fault)
  | missingKey (file : Option Path) (key : String)
deriving Repr, DecidableEq, Inhabited

namespace ContentFault

/-- The fault of a text that comes from a file. -/
def inFile (path : Path) : ContentFault → ContentFault
  | malformed _ fault => malformed (some path) fault
  | missingKey _ key => missingKey (some path) key
  | fault => fault

/-- The fault in words. -/
def message (wording : Wording) : ContentFault → String
  | unreadable path fault => "IO error: " ++ path.shown ++ ": " ++ fault.message
  | malformed file fault => "Parse error: " ++ atFile file (wording.yaml fault)
  | missingKey file key => "Missing required key '" ++ atFile file key ++ "'"

end ContentFault

/-- A part of a failure that is told in words. -/
inductive Remark where
  | words (text : String)
  | content (fault : ContentFault)
  | yaml (fault : Yaml.Fault)
  | json (fault : Json.Fault)
deriving Repr, DecidableEq, Inhabited

/-- The words of a remark. -/
def Remark.message (wording : Wording) : Remark → String
  | words text => text
  | content fault => fault.message wording
  | yaml fault => wording.yaml fault
  | json fault => wording.json fault

/-! ## Rules -/

/-- Why a rule cannot be loaded. -/
inductive RuleFailure where
  | notFound (rule : String)
  | loadFailed (rule : String) (reason : Remark)
  | parameterNotFound (rule parameter : String)
deriving Repr, DecidableEq, Inhabited

namespace RuleFailure

/-- The rule that cannot be loaded. -/
def rule : RuleFailure → String
  | notFound rule => rule
  | loadFailed rule _ => rule
  | parameterNotFound rule _ => rule

/-- The failure in words. -/
def message (wording : Wording) : RuleFailure → String
  | notFound rule => "Could not find rule " ++ rule ++ " in rules json or product directory"
  | loadFailed rule reason =>
    "Could not load rule " ++ rule ++ ": " ++ reason.message wording
  | parameterNotFound rule parameter =>
    "Could not find parameter " ++ parameter ++ " for rule " ++ rule

end RuleFailure

/-! ## All failures -/

/-- Why a component definition cannot be built. -/
inductive Failure where
  | profileNotFound (reference : String) (path : Path)
  /-- `unparsed` tells of the control files that cannot be used; the policy may be in one. -/
  | policyNotFound (policy : String) (unparsed : List Remark)
  | parameterNotFound (parameter : String)
  | ruleBatch (failures : List RuleFailure)
  | productDefinition (path : Path) (reason : Remark)
  | unreadable (path : Path) (fault : FileFault)
  | yaml (path : Path) (reason : Remark)
  | json (path : Path) (reason : Remark)
deriving Repr, DecidableEq, Inhabited

namespace Failure

/-- The items of a list, each on a line of its own. -/
def listed (items : List String) : String :=
  String.join (items.map fun item => "\n  - " ++ item)

/-- The control files that cannot be used, if there are any. -/
def unparsedText (unparsed : List String) : String :=
  if unparsed.isEmpty then ""
  else " (unreadable control files:" ++ listed unparsed ++ ")"

/-- The failure in words. -/
def message (wording : Wording) : Failure → String
  | profileNotFound reference path =>
    "Profile '" ++ reference ++ "' could not be resolved (looked in " ++ path.quoted ++ ")"
  | policyNotFound policy unparsed =>
    "Policy " ++ policy ++ " not found in controls" ++
      unparsedText (unparsed.map (Remark.message wording))
  | parameterNotFound parameter => "Could not find parameter " ++ parameter
  | ruleBatch failures =>
    "Error loading rules: " ++ listed (failures.map (RuleFailure.message wording))
  | productDefinition path reason =>
    "Invalid product definition " ++ path.quoted ++ ": " ++ reason.message wording
  | unreadable path fault => "IO error for " ++ path.quoted ++ ": " ++ fault.message
  | yaml path reason => "YAML error in " ++ path.quoted ++ ": " ++ reason.message wording
  | json path reason => "JSON error in " ++ path.quoted ++ ": " ++ reason.message wording

/-- Whether the failure is that of a precondition. -/
def isPrecondition : Failure → Bool
  | profileNotFound _ _ => true
  | policyNotFound _ _ => true
  | _ => false

/-- The rules that could not be loaded, in the order of their failures. -/
def failedRules : Failure → List String
  | ruleBatch failures => failures.map RuleFailure.rule
  | _ => []

end Failure

/-- The text of a content file. -/
def FileSystem.readContent (files : FileSystem) (path : Path) : Except ContentFault String :=
  (files.readText path).mapError (.unreadable path)

/-- The text of a file that has to be there. -/
def FileSystem.readRequired (files : FileSystem) (path : Path) : Except Failure String :=
  (files.readText path).mapError (.unreadable path)

end Compliance
