/-!
# TOML values

Settings are written in TOML.  Only texts, lists and tables matter for them: of
any other value nothing is kept but its kind.

A table remembers how it came about, since that decides what may still be added
to it.
-/

namespace Compliance.Toml

/-- How a table came about. -/
inductive Origin where
  /-- It has a header of its own. -/
  | header
  /-- It stands on the way of another table's header. -/
  | implied
  /-- It stands on the way of a dotted key. -/
  | dotted
  /-- It is written between braces. -/
  | inline
deriving Repr, DecidableEq, Inhabited

/-- A value. -/
inductive Value where
  | text (content : String)
  /-- A number or a truth value. -/
  | scalar
  | time
  | list (items : List Value)
  /-- Tables with one header, each of which begins a new one. -/
  | tables (items : List Value)
  | table (origin : Origin) (entries : List (String × Value))
deriving Inhabited

/-- The entries of a table. -/
abbrev Entries := List (String × Value)

/-- Why a text cannot be read as settings. -/
inductive Fault where
  | malformed
  | tooDeep
  | outOfRange
  | repeatedKey (key : String)
  | notATable (key : String)
  | unexpectedKind (expected : String)
  | unknownWord (word : String)
deriving Repr, DecidableEq, Inhabited

/-- The fault in words. -/
def Fault.message : Fault → String
  | malformed => "malformed document"
  | tooDeep => "values are nested too deeply"
  | outOfRange => "number or time out of range"
  | repeatedKey key => "repeated key " ++ key
  | notATable key => key ++ " is not a table"
  | unexpectedKind expected => "expected " ++ expected
  | unknownWord word => "unknown word " ++ word

/-- How many lists and tables may be open inside of each other, and how many parts a key may have,
plus one. -/
def nestingLimit : Nat := 80

end Compliance.Toml
