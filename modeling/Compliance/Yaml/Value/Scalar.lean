import Compliance.Text.Pieces
import Compliance.Yaml.Fault
import Compliance.Yaml.Value
import Compliance.Yaml.Token.Scalar

/-!
# The meaning of scalars

A plain scalar is null, a truth value, an integer, a number or else a string; a
quoted scalar and a block scalar are strings.  A tag of the core schema demands
a kind.

Integers are decimal, or have a base after `0x`, `0o` or `0b`.  A decimal with a
leading zero is a string.  An integer is kept if it fits into 64 bits; one that
needs up to 128 bits is a fault, and a larger decimal one is a number.
-/

namespace Compliance.Yaml.Scalar

open Compliance.Decimal Compliance.Text

/-- The words for null. -/
def isNullWord (text : List Char) : Bool :=
  ["null", "Null", "NULL", "~"].contains (String.ofList text)

/-- The truth value of a word. -/
def truth? (text : List Char) : Option Bool :=
  if ["true", "True", "TRUE"].contains (String.ofList text) then some true
  else if ["false", "False", "FALSE"].contains (String.ofList text) then some false
  else none

/-! ## Integers -/

/-- The value of a digit in a base of at most sixteen. -/
def digit? (base : Nat) (c : Char) : Option Nat := do
  let value ← hexDigit? c
  if value < base then return value else none

/-- The value of digits in a base; there must be one. -/
def magnitude? (base : Nat) (text : List Char) : Option Nat :=
  if text.isEmpty then none
  else text.foldl (fun value c => do return (← value) * base + (← digit? base c)) (some 0)

/-- Whether a text starts with a sign. -/
def isSigned : List Char → Bool
  | '+' :: _ => true
  | '-' :: _ => true
  | _ => false

/-- The text after a plus sign, if it starts with one. -/
def afterPlus (text : List Char) : List Char := (after? ['+'] text).getD text

/-- The text after a sign, if it starts with one. -/
def afterSign (text : List Char) : List Char := if isSigned text then text.drop 1 else text

/-- Whether the text has decimal digits with a leading zero, after a sign or not. -/
def hasLeadingZero (text : List Char) : Bool :=
  match afterSign text with
  | '0' :: digit :: digits => (digit :: digits).all fun c => '0' ≤ c && c ≤ '9'
  | _ => false

/-- The prefixes that state a base. -/
def bases : List (List Char × Nat) := [(['0', 'x'], 16), (['0', 'o'], 8), (['0', 'b'], 2)]

/-- What a text says that starts with the prefix of a base, and whether the text starts so. -/
def based? (text : List Char) : Option (Nat × List Char) :=
  bases.findSome? fun (mark, base) => (after? mark text).map fun digits => (base, digits)

/-- The integer from zero that a text stands for, if it is below `limit`. -/
def unsigned? (limit : Nat) (text : List Char) : Option Nat :=
  let digits := afterPlus text
  let decimal :=
    if isSigned digits || hasLeadingZero text then none else magnitude? 10 digits
  let found := match based? digits with
    | some (base, digits) => magnitude? base digits
    | none => decimal
  found.filter (· < limit)

/-- The magnitude of a negative integer that a text stands for, if it is at most `limit`. -/
def negative? (limit : Nat) (text : List Char) : Option Nat :=
  match text with
  | '-' :: digits =>
    let decimal := if hasLeadingZero text then none else magnitude? 10 digits
    let found := match based? digits with
      | some (base, digits) => magnitude? base digits
      | none => decimal
    found.filter (· ≤ limit)
  | _ => none

/-- The integer that a text stands for. -/
def integer? (text : List Char) : Option (Except Fault Int) :=
  match unsigned? (Nat.pow 2 64) text, negative? (Nat.pow 2 63) text with
  | some value, _ => some (.ok value)
  | none, some value => some (.ok (-(value : Int)))
  | none, none =>
    if (unsigned? (Nat.pow 2 128) text).isSome || (negative? (Nat.pow 2 127) text).isSome then
      some (.error .integerOutOfRange)
    else none

/-! ## Numbers -/

/-- The decimal exponent at the end of a number; none is zero. -/
def exponent? (text : List Char) : Option Int :=
  match text with
  | [] => some 0
  | c :: rest =>
    if c = 'e' || c = 'E' then do
      let value ← magnitude? 10 (afterSign rest)
      return if rest.head? = some '-' then -(value : Int) else value
    else none

/-- The double that a decimal with digits before or after a point stands for, if it is finite. -/
def decimal? (text : List Char) : Option Double := do
  let unsigned := afterSign text
  let isDigit (c : Char) : Bool := '0' ≤ c && c ≤ '9'
  let whole := unsigned.takeWhile isDigit
  let rest := unsigned.dropWhile isDigit
  let (part, rest) := match rest with
    | '.' :: rest => (rest.takeWhile isDigit, rest.dropWhile isDigit)
    | rest => ([], rest)
  let significand ← magnitude? 10 (whole ++ part)
  let exponent ← exponent? rest
  match Double.ofDecimal (text.head? = some '-') significand (exponent - part.length) with
  | .finite negative mantissa exponent => some (.finite negative mantissa exponent)
  | _ => none

/-- The double that a text stands for. -/
def number? (text : List Char) : Option Double :=
  let unsigned := afterPlus text
  let isOneOf (words : List String) (text : List Char) : Bool :=
    words.contains (String.ofList text)
  if text.head? = some '+' && isSigned unsigned then none
  else if isOneOf [".inf", ".Inf", ".INF"] unsigned then some (.infinite false)
  else if isOneOf ["-.inf", "-.Inf", "-.INF"] text then some (.infinite true)
  else if isOneOf [".nan", ".NaN", ".NAN"] text then some .notANumber
  else decimal? unsigned

/-! ## Values of scalars -/

/-- Whether a plain scalar without a tag is null. -/
def isNull (text : List Char) : Bool := text.isEmpty || isNullWord text

/-- The value of a plain scalar without a tag. -/
def ofPlain (text : List Char) : Except Fault Value :=
  if isNull text then .ok .null
  else match truth? text, integer? text with
    | some value, _ => .ok (.bool value)
    | none, some value => value.map .integer
    | none, none =>
      match if hasLeadingZero text then none else number? text with
      | some value => .ok (.number value)
      | none => .ok (.string (String.ofList text))

/-- The value of a scalar without a tag. -/
def ofStyle (style : Style) (text : String) : Except Fault Value :=
  if style = .plain then ofPlain text.toList else .ok (.string text)

/-- The tag of the core schema with a name. -/
def coreTag (name : String) : String := "tag:yaml.org,2002:" ++ name

/-- A tag without the exclamation mark that it starts with; a lone one stays. -/
def withoutMark (tag : String) : String :=
  match tag.toList with
  | '!' :: c :: name => String.ofList (c :: name)
  | _ => tag

/-- The name that a tag gives to a value, if it does: it starts with an exclamation mark. -/
def tagName? (tag : String) : Option String :=
  if tag.toList.head? = some '!' then some (withoutMark tag) else none

/-- The value of a scalar with its tag. -/
def value (tag : Option String) (style : Style) (text : String) : Except Fault Value :=
  match tag with
  | none => ofStyle style text
  | some tag =>
    match tagName? tag with
    | some name => (ofStyle style text).map (.tagged (withoutMark name))
    | none =>
      let chars := text.toList
      if tag = coreTag "bool" then
        match truth? chars with
        | some value => .ok (.bool value)
        | none => .error (.unexpectedKind "a boolean")
      else if tag = coreTag "int" then
        match integer? chars with
        | some value => value.map .integer
        | none => .error (.unexpectedKind "an integer")
      else if tag = coreTag "float" then
        match number? chars with
        | some value => .ok (.number value)
        | none => .error (.unexpectedKind "a number")
      else if tag = coreTag "null" then
        if isNullWord chars then .ok .null else .error (.unexpectedKind "null")
      else .ok (.string text)

end Compliance.Yaml.Scalar
