/-!
# Commands and their options

An option is called by a word after two hyphens or by a letter after one.  Some
options belong to all commands, even before the command is named, and the others
to some of them.
-/

namespace Compliance

/-- What can be done. -/
inductive CommandName where
  | build
  | rules
  | resolve
deriving Repr, DecidableEq, Inhabited

namespace CommandName

/-- All commands. -/
def all : List CommandName := [build, rules, resolve]

/-- The word for a command. -/
def word : CommandName → String
  | build => "build"
  | rules => "rules"
  | resolve => "resolve"

/-- The command that a word stands for. -/
def ofWord? (word : String) : Option CommandName := all.find? fun command => command.word = word

/-- Whether a command is given words, of which it needs one at least. -/
def takesWords : CommandName → Bool
  | build => false
  | rules => true
  | resolve => true

end CommandName

/-- An option with a value. -/
inductive OptionName where
  | settings
  | root
  | vendor
  | ruleIndex
  | buildConfig
  | output
  | profile
  | product
  | policy
  | componentType
  | format
deriving Repr, DecidableEq, Inhabited

namespace OptionName

/-- The words for an option. -/
def words : OptionName → List String
  | settings => ["config"]
  | root => ["root"]
  | vendor => ["vendor-dir"]
  | ruleIndex => ["json"]
  | buildConfig => ["build-config-yaml"]
  | output => ["output"]
  | profile => ["profile"]
  | product => ["product"]
  | policy => ["policy", "control"]
  | componentType => ["component-definition-type"]
  | format => ["format"]

/-- The letter for an option. -/
def letter? : OptionName → Option Char
  | root => some 'r'
  | vendor => some 'v'
  | ruleIndex => some 'j'
  | buildConfig => some 'b'
  | output => some 'o'
  | profile => some 'p'
  | policy => some 'c'
  | settings => none
  | product => none
  | componentType => none
  | format => none

/-- Whether an option takes a value. The options for paths take any but the empty one. -/
def accepts (value : String) : OptionName → Bool
  | profile => true
  | product => true
  | policy => true
  | componentType => value = "service" || value = "validation"
  | format => value = "table" || value = "json"
  | _ => value ≠ ""

/-- The options that may be given: those before a command, or those of a command. -/
def available : Option CommandName → List OptionName
  | none => [settings]
  | some .build =>
    [settings, root, vendor, ruleIndex, buildConfig, output, profile, product, policy,
      componentType]
  | some .rules => [settings, root, vendor, ruleIndex, buildConfig, product, format]
  | some .resolve => [settings, root, vendor, ruleIndex, buildConfig, profile, format]

end OptionName

/-- An option of any kind. -/
inductive Flag where
  | valued (name : OptionName)
  | verbose
  | help
  | version
deriving Repr, DecidableEq, Inhabited

namespace Flag

/-- The words for an option. -/
def words : Flag → List String
  | valued name => name.words
  | verbose => ["verbose"]
  | help => ["help"]
  | version => ["version"]

/-- The letter for an option. -/
def letter? : Flag → Option Char
  | valued name => name.letter?
  | verbose => none
  | help => some 'h'
  | version => some 'V'

/-- The options that may be given: those before a command, or those of a command. -/
def available (command : Option CommandName) : List Flag :=
  [verbose, help, version] ++ (OptionName.available command).map valued

/-- The option that a word stands for. -/
def ofWord? (command : Option CommandName) (word : String) : Option Flag :=
  (available command).find? fun flag => flag.words.contains word

/-- The option that a letter stands for. -/
def ofLetter? (command : Option CommandName) (letter : Char) : Option Flag :=
  (available command).find? fun flag => flag.letter? = some letter

end Flag

end Compliance
