import Compliance.Text.Alphanumeric
import Compliance.Text.Blank
import Compliance.Text.Pieces

/-!
# Log filters

A log filter is a list of directives with commas between them.  A directive is a
level alone, or a target, a span in brackets, and a level after `=`, of which
parts may be missing.  Whether a filter is well-formed decides if a command runs
at all; what it lets through does not matter for the results.
-/

namespace Compliance.LogFilter

open Compliance.Text

/-- The filter when none is given. -/
def default : String := "info"

/-- Why a text is no filter: the first directive that is malformed. -/
structure Fault where
  directive : String
deriving Repr, DecidableEq, Inhabited

/-- The fault in words. -/
def Fault.message (fault : Fault) : String := "malformed directive " ++ fault.directive

/-! ## Levels -/

/-- The words for levels. -/
def levelWords : List String := ["off", "error", "warn", "info", "debug", "trace"]

/-- The digit of the level that stands for everything. -/
def highestDigit : Char := '5'

/-- Whether a text is the number of a level: one digit, with or without zeros and a plus sign before
it. -/
def isLevelNumber (text : List Char) : Bool :=
  let digits := match text with
    | '+' :: rest => rest
    | text => text
  match digits.dropWhile (· = '0') with
  | [] => !digits.isEmpty
  | [digit] => '0' ≤ digit && digit ≤ highestDigit
  | _ => false

/-- Whether a text names a level, in lower or in upper case. -/
def isLevel (text : List Char) : Bool :=
  isLevelNumber text || levelWords.contains (String.ofList (text.map Char.toLower))

/-! ## Directives -/

/-- Whether a directive may begin with a character. -/
def mayBegin (c : Char) : Bool :=
  c = '[' || c = '-' || c = ':' || c = '_' || isAlphanumeric c

/-- Whether a level ends a directive; a missing one stands for all levels. -/
def endsInLevel (text : List Char) : Bool := text.isEmpty || isLevel text

/-- Whether a directive may end with this text after its span. -/
def endsAfterSpan : List Char → Bool
  | [] => true
  | '=' :: level => endsInLevel level
  | _ => false

/-- Whether a span's field, which comes up to its brace, is followed by what ends a directive. -/
def endsInField (text : List Char) : Bool :=
  match cut? '\x7d' text with
  | some (field, ']' :: rest) => !field.isEmpty && endsAfterSpan rest
  | _ => false

/-- Whether a directive may end with this text after the opening bracket of its span. -/
def endsInSpan : List Char → Bool
  | [] => false
  | ']' :: rest => endsAfterSpan rest
  | '\x7b' :: rest => endsInField rest
  | _ :: rest => endsInSpan rest

/-- Whether a directive may end with this text after the beginning of a target. A text up to the end
that is no level is a target. -/
def endsInTarget : List Char → Bool
  | [] => true
  | '=' :: level => endsInLevel level
  | '[' :: span => endsInSpan span
  | _ :: rest => endsInTarget rest

/-- Whether a text is a directive. -/
def isDirective (text : List Char) : Bool :=
  match trim text with
  | [] => false
  | '[' :: span => endsInSpan span
  | c :: rest => mayBegin c && endsInTarget rest

/-- Checks a filter. Nothing between two commas is no directive, and is passed over. -/
def check (text : String) : Except Fault Unit :=
  match (pieces ',' text.toList).find? fun piece => !piece.isEmpty && !isDirective piece with
  | some piece => .error ⟨String.ofList piece⟩
  | none => .ok ()

/-- Checks the filter that holds: the one of the surroundings, if it is one, and else the one of the
settings. -/
def checkChosen (surrounding configured : Option String) : Except Fault Unit :=
  match surrounding.map check with
  | some (.ok _) => .ok ()
  | _ => check (configured.getD default)

end Compliance.LogFilter
