/-!
# JSON values

Catalogues, rule directory indexes and component definitions are JSON documents.
A value keeps what a reader may still object to: members of an object stay in
their order with repeated names, and a string with an escape that is half of a
surrogate pair has no text.  Whether that is a fault depends on who reads the
value, since a member that nobody asks for may hold either.
-/

namespace Compliance

/-- A JSON value. A number is `± significand · 10 ^ scale`. -/
inductive Json where
  | null
  | bool (value : Bool)
  | number (negative : Bool) (significand : Nat) (scale : Int)
  | string (text : Option String)
  | array (items : List Json)
  | object (members : List (Option String × Json))
deriving Inhabited

namespace Json

/-- Why a document cannot be read. -/
inductive Fault where
  | malformed
  | tooDeep
  | outOfRange
  | unexpectedKind (expected : String)
  | missingMember (name : String)
  | repeatedMember (name : String)
  | superfluousItem
  | invalid (reason : String)
deriving Repr, DecidableEq, Inhabited

/-- The fault in words. -/
def Fault.message : Fault → String
  | malformed => "malformed document"
  | tooDeep => "values are nested too deeply"
  | outOfRange => "number out of range"
  | unexpectedKind expected => "expected " ++ expected
  | missingMember name => "missing member " ++ name
  | repeatedMember name => "repeated member " ++ name
  | superfluousItem => "too many items"
  | invalid reason => reason

/-- How many arrays and objects may be open at once. -/
def nestingLimit : Nat := 127

/-- A string value. -/
def text (content : String) : Json := string (some content)

/-- A member of an object. -/
def member (name : String) (value : Json) : Option String × Json := (some name, value)

end Json

end Compliance
