/-!
# Faults of YAML documents
-/

namespace Compliance.Yaml

/-- Why a YAML text cannot be read. -/
inductive Fault where
  /-- A character that no document may hold. -/
  | forbiddenCharacter
  /-- A character that no token starts with. -/
  | unexpectedCharacter
  /-- The text ends inside a token. -/
  | unexpectedEnd
  | malformedDirective
  | malformedAnchor
  | malformedTag
  | malformedBlockScalar
  | malformedQuotedScalar
  | malformedPlainScalar
  /-- A key at the indentation of its mapping without the colon after it. -/
  | missingColon
  /-- A block entry, key or value where none may stand. -/
  | misplacedIndicator
  /-- A token where the grammar has none. -/
  | unexpectedToken
  | undefinedTagHandle
  | undefinedAnchor
  | severalDocuments
  | tooDeep
  | tooManyAliases
  | repeatedKey
  | integerOutOfRange
  | unexpectedKind (expected : String)
  | missingField (name : String)
  | repeatedField (name : String)
deriving Repr, DecidableEq, Inhabited

/-- The fault in words. -/
def Fault.message : Fault → String
  | forbiddenCharacter => "control characters are not allowed"
  | unexpectedCharacter => "found a character that cannot start any token"
  | unexpectedEnd => "unexpected end of the text"
  | malformedDirective => "malformed directive"
  | malformedAnchor => "malformed anchor"
  | malformedTag => "malformed tag"
  | malformedBlockScalar => "malformed block scalar"
  | malformedQuotedScalar => "malformed quoted scalar"
  | malformedPlainScalar => "malformed plain scalar"
  | missingColon => "could not find expected ':'"
  | misplacedIndicator => "indicator is not allowed in this context"
  | unexpectedToken => "unexpected token"
  | undefinedTagHandle => "undefined tag handle"
  | undefinedAnchor => "unknown anchor"
  | severalDocuments => "more than one document"
  | tooDeep => "values are nested too deeply"
  | tooManyAliases => "too many aliases"
  | repeatedKey => "repeated key in a mapping"
  | integerOutOfRange => "integer out of range"
  | unexpectedKind expected => "expected " ++ expected
  | missingField name => "missing field " ++ name
  | repeatedField name => "repeated field " ++ name

end Compliance.Yaml
