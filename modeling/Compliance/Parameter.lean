import Compliance.Table
import Compliance.Text.Pieces
import Compliance.Text.Quoted

/-!
# Parameters

A parameter has a default value and options to choose from, one of which is
called `default`.  A list of rules may override the default value; the parameter
then remembers the value it had before.
-/

namespace Compliance

/-- Where a default value comes from. -/
inductive ValueSource where
  | definition
  | override (previous : String)
deriving Repr, DecidableEq, Inhabited

/-- A parameter of rules. -/
structure Parameter where
  id : String
  description : String
  default : String
  options : Table String
  source : ValueSource
deriving DecidableEq, Inhabited

namespace Parameter

/-- A parameter as it is defined. -/
def new (id description default : String) (options : Table String) : Parameter :=
  { id, description, default, options, source := .definition }

/-- The parameter with another default value. -/
def withOverride (parameter : Parameter) (value : String) : Parameter :=
  { parameter with default := value, source := .override parameter.default }

/-- Whether the default value was overridden. -/
def isOverridden (parameter : Parameter) : Bool := parameter.source ≠ .definition

/-- The default value before it was overridden. -/
def previous? (parameter : Parameter) : Option String :=
  match parameter.source with
  | .definition => none
  | .override previous => some previous

/-- One option with its value, both quoted. -/
def optionChars (option : String × String) : List Char :=
  Text.quotedChars option.1.toList ++ [':', ' '] ++ Text.quotedChars option.2.toList

/-- The options with their values between braces. -/
def optionsText (parameter : Parameter) : String :=
  String.ofList
    ('\x7b' :: Text.joined [',', ' '] (parameter.options.entries.map optionChars) ++ ['\x7d'])

end Parameter

end Compliance
