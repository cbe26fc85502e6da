import Compliance.Decimal.Double
import Compliance.Json.Basic
import Compliance.Text.Pieces

/-!
# Reading JSON text

`Json.parse` accepts exactly the documents of the JSON grammar.  It has no limit
on nesting and none on the size of numbers: `Json.parseWhole` adds the limits
that hold for a value which is kept, and the record readers apply them to the
part of a document that they look at.

A reader takes the characters and gives back a value with the characters after
it.  The fuel of the mutual recursion is twice the length of the text, which no
reading uses up, because at most two calls stand on one character.
-/

namespace Compliance.Json

/-- The characters allowed between tokens. -/
def isSpace (c : Char) : Bool := c = ' ' || c = '\n' || c = '\t' || c = '\r'

/-- The text from its next token. -/
def skipSpace (text : List Char) : List Char := text.dropWhile isSpace

/-! ## Strings -/

/-- The value of a hexadecimal digit. -/
def hexDigit? (c : Char) : Option Nat :=
  if '0' ≤ c ∧ c ≤ '9' then some (c.toNat - '0'.toNat)
  else if 'a' ≤ c ∧ c ≤ 'f' then some (c.toNat - 'a'.toNat + 10)
  else if 'A' ≤ c ∧ c ≤ 'F' then some (c.toNat - 'A'.toNat + 10)
  else none

/-- The value of four hexadecimal digits. -/
def hexUnit? (a b c d : Char) : Option Nat := do
  let a ← hexDigit? a
  let b ← hexDigit? b
  let c ← hexDigit? c
  let d ← hexDigit? d
  return ((a * 16 + b) * 16 + c) * 16 + d

/-- The first half of a surrogate pair. -/
def isHighSurrogate (unit : Nat) : Bool := 0xd800 ≤ unit && unit < 0xdc00

/-- The second half of a surrogate pair. -/
def isLowSurrogate (unit : Nat) : Bool := 0xdc00 ≤ unit && unit < 0xe000

/-- The character of a surrogate pair. -/
def pairedChar (high low : Nat) : Char :=
  Char.ofNat (0x10000 + (high - 0xd800) * 0x400 + (low - 0xdc00))

/-- The character that a backslash and one letter stand for. -/
def simpleEscape? : Char → Option Char
  | '"' => some '"'
  | '\\' => some '\\'
  | '/' => some '/'
  | 'b' => some '\x08'
  | 'f' => some '\x0c'
  | 'n' => some '\n'
  | 'r' => some '\r'
  | 't' => some '\t'
  | _ => none

/-- What has been read of a string and the text after it; the first part is missing when the
string has a surrogate without its other half. -/
abbrev StringResult := Except Fault (Option (List Char) × List Char)

/-- Puts a character before what the rest of the string reads as. -/
def StringResult.prepend (c : Char) (result : StringResult) : StringResult :=
  result.map fun (content, rest) => (content.map (c :: ·), rest)

/-- What a string reads as when the character before it was half of a surrogate pair (`high`) that
the string does not complete: its text is lost, but not its end. -/
def StringResult.unless (result : StringResult) (high : Option Nat) : StringResult :=
  if high.isSome then result.map fun (_, rest) => (none, rest) else result

/-- The string after its opening quote; `high` is the first half of a surrogate pair that stands
right before. -/
def stringTail (high : Option Nat) : List Char → StringResult
  | [] => .error .malformed
  | '"' :: rest => StringResult.unless (.ok (some [], rest)) high
  | '\\' :: 'u' :: a :: b :: c :: d :: rest =>
    match hexUnit? a b c d with
    | none => .error .malformed
    | some unit =>
      if isHighSurrogate unit then (stringTail (some unit) rest).unless high
      else if isLowSurrogate unit then
        match high with
        | some first => (stringTail none rest).prepend (pairedChar first unit)
        | none => (stringTail none rest).unless (some unit)
      else ((stringTail none rest).prepend (Char.ofNat unit)).unless high
  | '\\' :: c :: rest =>
    match simpleEscape? c with
    | none => .error .malformed
    | some c => ((stringTail none rest).prepend c).unless high
  | c :: rest =>
    if c.toNat < 0x20 || c = '\\' then .error .malformed
    else ((stringTail none rest).prepend c).unless high

/-! ## Numbers -/

/-- Whether the character is a decimal digit. -/
def isDigit (c : Char) : Bool := '0' ≤ c && c ≤ '9'

/-- The number that decimal digits stand for. -/
def digitsValue (digits : List Char) : Nat :=
  digits.foldl (fun value c => value * 10 + (c.toNat - '0'.toNat)) 0

/-- The digits at the start of a text, and the text after them. -/
def spanDigits (text : List Char) : List Char × List Char :=
  (text.takeWhile isDigit, text.dropWhile isDigit)

/-- The digits after a decimal point, if there is one; a point needs a digit. -/
def fraction (text : List Char) : Except Fault (List Char × List Char) :=
  match text with
  | '.' :: rest =>
    match spanDigits rest with
    | ([], _) => .error .malformed
    | (digits, rest) => .ok (digits, rest)
  | _ => .ok ([], text)

/-- The exponent, if there is one; it needs a digit. -/
def exponent (text : List Char) : Except Fault (Int × List Char) :=
  match text with
  | c :: rest =>
    if c = 'e' || c = 'E' then
      let (negative, rest) := match rest with
        | '-' :: rest => (true, rest)
        | '+' :: rest => (false, rest)
        | rest => (false, rest)
      match spanDigits rest with
      | ([], _) => .error .malformed
      | (digits, rest) =>
        .ok (if negative then -(digitsValue digits : Int) else digitsValue digits, rest)
    else .ok (0, text)
  | [] => .ok (0, text)

/-- A number from its first digit. A zero is not followed by another digit. -/
def numberTail (negative : Bool) (text : List Char) : Except Fault (Json × List Char) := do
  let (whole, rest) := spanDigits text
  if whole = [] || (1 < whole.length && whole.head? = some '0') then
    .error .malformed
  else do
    let (part, rest) ← fraction rest
    let (power, rest) ← exponent rest
    return (.number negative (digitsValue (whole ++ part)) (power - part.length), rest)

/-! ## Values -/

mutual

/-- The value at the start of the text, which begins with a token. -/
def value : (fuel : Nat) → (text : List Char) → Except Fault (Json × List Char)
  | 0, _ => .error .malformed
  | fuel + 1, text =>
    match text with
    | [] => .error .malformed
    | '"' :: rest => do
      let (content, rest) ← stringTail none rest
      return (.string (content.map String.ofList), rest)
    | '[' :: rest =>
      match skipSpace rest with
      | ']' :: rest => .ok (.array [], rest)
      | rest => do
        let (first, rest) ← items fuel rest
        return (.array first, rest)
    | '\x7b' :: rest =>
      match skipSpace rest with
      | '\x7d' :: rest => .ok (.object [], rest)
      | rest => do
        let (first, rest) ← members fuel rest
        return (.object first, rest)
    | '-' :: rest => numberTail true rest
    | 'n' :: 'u' :: 'l' :: 'l' :: rest => .ok (.null, rest)
    | 't' :: 'r' :: 'u' :: 'e' :: rest => .ok (.bool true, rest)
    | 'f' :: 'a' :: 'l' :: 's' :: 'e' :: rest => .ok (.bool false, rest)
    | text => numberTail false text

/-- The items of an array from the first of them, with its closing bracket. -/
def items : (fuel : Nat) → (text : List Char) → Except Fault (List Json × List Char)
  | 0, _ => .error .malformed
  | fuel + 1, text => do
    let (item, rest) ← value fuel text
    match skipSpace rest with
    | ',' :: rest => do
      let (others, rest) ← items fuel (skipSpace rest)
      return (item :: others, rest)
    | ']' :: rest => return ([item], rest)
    | _ => .error .malformed

/-- The members of an object from the name of the first of them, with its closing brace. -/
def members : (fuel : Nat) → (text : List Char) →
    Except Fault (List (Option String × Json) × List Char)
  | 0, _ => .error .malformed
  | fuel + 1, text =>
    match text with
    | '"' :: rest => do
      let (name, rest) ← stringTail none rest
      match skipSpace rest with
      | ':' :: rest => do
        let (content, rest) ← value fuel (skipSpace rest)
        let entry := (name.map String.ofList, content)
        match skipSpace rest with
        | ',' :: rest => do
          let (others, rest) ← members fuel (skipSpace rest)
          return (entry :: others, rest)
        | '\x7d' :: rest => return ([entry], rest)
        | _ => .error .malformed
      | _ => .error .malformed
    | _ => .error .malformed

end

/-- The value that a whole text holds, with nothing but white space around it. -/
def parseChars (text : List Char) : Except Fault Json := do
  let (result, rest) ← value (2 * text.length + 2) (skipSpace text)
  if skipSpace rest = [] then return result else .error .malformed

/-- The value that a whole text holds, with nothing but white space around it. -/
def parse (text : String) : Except Fault Json := parseChars text.toList

/-! ## Values that are kept whole -/

/-- Whether all strings have their text, all numbers are in the range of doubles, and at most
`room` arrays and objects are open at once. -/
def isKeepable : (room : Nat) → Json → Bool
  | _, .null => true
  | _, .bool _ => true
  | _, .number negative significand scale =>
    match Decimal.Double.ofDecimal negative significand scale with
    | .finite _ _ _ => true
    | _ => false
  | _, .string text => text.isSome
  | 0, .array _ => false
  | 0, .object _ => false
  | room + 1, .array items => items.all (isKeepable room)
  | room + 1, .object members =>
    members.all fun entry => entry.1.isSome && isKeepable room entry.2

/-- The value of a text all of which is kept. -/
def parseWhole (text : String) : Except Fault Json := do
  let result ← parse text
  if isKeepable nestingLimit result then return result else .error .outOfRange

/-- The value of the last member with a name. -/
def member? (name : String) : Json → Option Json
  | .object members => (members.reverse.find? fun entry => entry.1 = some name).map (·.2)
  | _ => none

end Compliance.Json
