import Compliance.CommandLine.Options
import Compliance.Settings
import Compliance.Text.Pieces

/-!
# Command lines

A command line is read from left to right.  Options may stand anywhere, each at
most once before the command and once after it; after `--` there are only words.
A question for help or for the version is answered as soon as it is met, so that
only what stands before it can be wrong.
-/

namespace Compliance

/-- What is wrong with a command line. -/
inductive CommandLineFault where
  | unknownOption (text : String)
  | repeatedOption (flag : Flag)
  | missingValue (name : OptionName)
  | unexpectedValue (flag : Flag) (value : String)
  | invalidValue (name : OptionName) (value : String)
  | unknownCommand (word : String)
  | unexpectedWord (word : String)
  | missingCommand
  | missingWords (command : CommandName)
deriving Repr, DecidableEq, Inhabited

/-- How an option is called in a message. -/
def Flag.title (flag : Flag) : String := "--" ++ flag.words.headD ""

/-- The fault in words. -/
def CommandLineFault.message : CommandLineFault → String
  | unknownOption text => "unknown option " ++ text
  | repeatedOption flag => "option " ++ flag.title ++ " is given more than once"
  | missingValue name => "option " ++ (Flag.valued name).title ++ " needs a value"
  | unexpectedValue flag value => "option " ++ flag.title ++ " takes no value, not " ++ value
  | invalidValue name value =>
    "option " ++ (Flag.valued name).title ++ " cannot be '" ++ value ++ "'"
  | unknownCommand word => "unknown command '" ++ word ++ "'"
  | unexpectedWord word => "unexpected word '" ++ word ++ "'"
  | missingCommand => "no command is given"
  | missingWords command => "command " ++ command.word ++ " needs at least one word"

/-- Why no command is to be carried out. -/
inductive Stop where
  | help
  | version (command : Option CommandName)
  | misused (fault : CommandLineFault)
deriving Repr, DecidableEq, Inhabited

/-! ## Single arguments -/

/-- The forms of an argument. -/
inductive Argument where
  | word (text : String)
  | endOfOptions
  | long (name : String) (value : Option String)
  | short (letter : Char) (attached : List Char)
deriving Repr, DecidableEq, Inhabited

/-- The form of an argument; a single hyphen is a word. -/
def Argument.ofText (text : String) : Argument :=
  match text.toList with
  | ['-', '-'] => .endOfOptions
  | '-' :: '-' :: body =>
    match Text.cut? '=' body with
    | some (name, value) => .long (String.ofList name) (some (String.ofList value))
    | none => .long (String.ofList body) none
  | '-' :: letter :: attached => .short letter attached
  | _ => .word text

/-- The value that is attached to a letter, with `=` before it or not. -/
def attachedValue? : List Char → Option String
  | [] => none
  | '=' :: value => some (String.ofList value)
  | value => some (String.ofList value)

/-- What an argument says. -/
inductive Saying where
  | word (text : String)
  | endOfOptions
  | given (name : OptionName) (value : String)
  | awaited (name : OptionName)
  | verbose
deriving Repr, DecidableEq, Inhabited

/-- What an option says, with the value that is attached to it. -/
def Saying.ofFlag (command : Option CommandName) (value : Option String) :
    Flag → Except Stop Saying
  | .valued name => .ok (value.elim (awaited name) (given name))
  | .verbose => .ok .verbose
  | .help => .error .help
  | .version => .error (.version command)

/-- What an argument says, before the command or after it. -/
def Saying.ofArgument (command : Option CommandName) : Argument → Except Stop Saying
  | .word text => .ok (word text)
  | .endOfOptions => .ok endOfOptions
  | .long text value =>
    match Flag.ofWord? command text, value with
    | none, _ => .error (.misused (.unknownOption text))
    | some (.valued name), value => ofFlag command value (.valued name)
    | some flag, some value => .error (.misused (.unexpectedValue flag value))
    | some flag, none => ofFlag command none flag
  | .short letter attached =>
    match Flag.ofLetter? command letter with
    | none => .error (.misused (.unknownOption (String.singleton letter)))
    | some flag => ofFlag command (attachedValue? attached) flag

/-! ## All arguments -/

/-- What has been said before the command, or after it. -/
structure Arguments where
  values : List (OptionName × String) := []
  verbose : Bool := false
  words : List String := []
deriving Repr, DecidableEq, Inhabited

namespace Arguments

/-- The value of an option. -/
def value? (arguments : Arguments) (name : OptionName) : Option String :=
  arguments.values.lookup name

/-- The value of an option that is a path. -/
def path? (arguments : Arguments) (name : OptionName) : Option Path :=
  (arguments.value? name).map RawText.ofText

/-- Gives a value to an option that has none. -/
def give (arguments : Arguments) (name : OptionName) (value : String) :
    Except CommandLineFault Arguments :=
  if (arguments.value? name).isSome then .error (.repeatedOption (.valued name))
  else if name.accepts value then
    .ok { arguments with values := arguments.values ++ [(name, value)] }
  else .error (.invalidValue name value)

/-- Asks for verbosity. -/
def beVerbose (arguments : Arguments) : Except CommandLineFault Arguments :=
  if arguments.verbose then .error (.repeatedOption .verbose)
  else .ok { arguments with verbose := true }

end Arguments

/-- What has been read of a command line: the arguments before the command, the command, and the
arguments after it. -/
structure Progress where
  general : Arguments := {}
  command : Option CommandName := none
  special : Arguments := {}
deriving Repr, DecidableEq, Inhabited

namespace Progress

/-- Changes the arguments that are being read. -/
def update (progress : Progress) (change : Arguments → Except CommandLineFault Arguments) :
    Except Stop Progress :=
  match progress.command with
  | none => ((change progress.general).map fun general => { progress with general }).mapError
      .misused
  | some _ => ((change progress.special).map fun special => { progress with special }).mapError
      .misused

/-- Takes words that belong to the command. -/
def addWords (progress : Progress) (words : List String) : Except Stop Progress :=
  match words, progress.command.any CommandName.takesWords with
  | [], _ => .ok progress
  | word :: _, false => .error (.misused (.unexpectedWord word))
  | words, true => .ok { progress with
      special := { progress.special with words := progress.special.words ++ words } }

/-- Takes a word: the first one names the command. -/
def addWord (progress : Progress) (word : String) : Except Stop Progress :=
  match progress.command with
  | some _ => progress.addWords [word]
  | none =>
    match CommandName.ofWord? word with
    | some command => .ok { progress with command := some command }
    | none => .error (.misused (.unknownCommand word))

/-- The word that asks for help, alone or with the command in question after it. -/
def helpWord : String := "help"

/-- The answer to the word for help, with the words after it. -/
def help (words : List String) : Stop :=
  match words with
  | [] => .help
  | [word] =>
    if word = helpWord || (CommandName.ofWord? word).isSome then .help
    else .misused (.unknownCommand word)
  | _ :: word :: _ => .misused (.unexpectedWord word)

/-- Reads arguments; `awaited` is the option whose value comes next. -/
def read (progress : Progress) : (awaited : Option OptionName) → List String →
    Except Stop Progress
  | none, [] => .ok progress
  | some name, [] => .error (.misused (.missingValue name))
  | some name, text :: rest =>
    match Argument.ofText text with
    | .word value => do read (← progress.update (·.give name value)) none rest
    | _ => .error (.misused (.missingValue name))
  | none, text :: rest => do
    match ← Saying.ofArgument progress.command (Argument.ofText text) with
    | .word word =>
      if progress.command.isNone && word = helpWord then .error (help rest)
      else read (← progress.addWord word) none rest
    | .endOfOptions => progress.addWords rest
    | .given name value => read (← progress.update (·.give name value)) none rest
    | .awaited name => read progress (some name) rest
    | .verbose => read (← progress.update Arguments.beVerbose) none rest

end Progress

/-! ## Invocations -/

/-- How results are printed. -/
inductive Format where
  | table
  | json
deriving Repr, DecidableEq, Inhabited

/-- What is to be done. -/
inductive Command where
  | build
  | rules (entries : List String) (format : Format)
  | resolve (names : List String) (format : Format)
deriving Repr, DecidableEq, Inhabited

/-- A command with the settings that come with it. -/
structure Invocation where
  settingsFile : Option Path
  verbose : Bool
  paths : PathSettings
  build : BuildSettings
  command : Command
deriving Repr, DecidableEq, Inhabited

namespace Invocation

/-- The format that is asked for. -/
def format (arguments : Arguments) : Format :=
  if arguments.value? .format = some "json" then .json else .table

/-- The command with its words. -/
def commandOf (arguments : Arguments) (name : CommandName) : Except CommandLineFault Command :=
  if name.takesWords && arguments.words.isEmpty then .error (.missingWords name)
  else match name with
    | .build => .ok .build
    | .rules => .ok (.rules arguments.words (format arguments))
    | .resolve => .ok (.resolve arguments.words (format arguments))

/-- The invocation that has been read. What may be said on both sides of the command holds as it is
said after it. -/
def ofProgress (progress : Progress) : Except CommandLineFault Invocation :=
  match progress.command with
  | none => .error .missingCommand
  | some name => do
    let { general, special, .. } := progress
    let command ← commandOf special name
    return {
      settingsFile := special.path? .settings <|> general.path? .settings
      verbose := general.verbose || special.verbose
      paths := {
        root := special.path? .root
        vendor := special.path? .vendor
        ruleIndex := special.path? .ruleIndex
        buildConfig := special.path? .buildConfig }
      build := {
        product := special.value? .product
        profile := special.value? .profile
        policy := special.value? .policy
        componentType := special.value? .componentType
        output := special.path? .output }
      command }

/-- The invocation that a command line stands for. -/
def parse (arguments : List String) : Except Stop Invocation := do
  (ofProgress (← Progress.read {} none arguments)).mapError .misused

end Invocation

end Compliance
