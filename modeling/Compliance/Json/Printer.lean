import Compliance.Json.Basic
import Compliance.Text.Pieces

/-!
# Writing JSON text

The documents are written with one member or item a line and two spaces for each
level.  An empty array or object is written on one line.  A string has only the
escapes that the grammar asks for.
-/

namespace Compliance.Json

/-- One hexadecimal digit, in lower case. -/
def hexChar (digit : Nat) : Char :=
  if digit < 10 then Char.ofNat ('0'.toNat + digit) else Char.ofNat ('a'.toNat + (digit - 10))

/-- How one character is written in a string. -/
def escape (c : Char) : List Char :=
  match c with
  | '"' => ['\\', '"']
  | '\\' => ['\\', '\\']
  | '\x08' => ['\\', 'b']
  | '\x0c' => ['\\', 'f']
  | '\n' => ['\\', 'n']
  | '\r' => ['\\', 'r']
  | '\t' => ['\\', 't']
  | c =>
    if c.toNat < 0x20 then ['\\', 'u', '0', '0', hexChar (c.toNat / 16), hexChar (c.toNat % 16)]
    else [c]

/-- A string between quotes; one without text is written with half a surrogate pair. -/
def stringText : Option String → List Char
  | some text => '"' :: text.toList.flatMap escape ++ ['"']
  | none => ['"', '\\', 'u', 'd', '8', '0', '0', '"']

/-- A number as an integer with a power of ten. -/
def numberText (negative : Bool) (significand : Nat) (scale : Int) : List Char :=
  (if negative then ['-'] else []) ++ Nat.toDigits 10 significand ++
    (if scale = 0 then []
     else 'e' :: (if scale < 0 then ['-'] else []) ++ Nat.toDigits 10 scale.natAbs)

/-- A line break and the spaces of a level. -/
def lineBreak (level : Nat) : List Char := '\n' :: List.replicate (2 * level) ' '

mutual

/-- A value whose lines after the first are indented for `level`. -/
def render (level : Nat) : Json → List Char
  | .null => ['n', 'u', 'l', 'l']
  | .bool true => ['t', 'r', 'u', 'e']
  | .bool false => ['f', 'a', 'l', 's', 'e']
  | .number negative significand scale => numberText negative significand scale
  | .string text => stringText text
  | .array [] => ['[', ']']
  | .array (first :: others) =>
    '[' :: lineBreak (level + 1) ++ render (level + 1) first ++ renderItems (level + 1) others ++
      lineBreak level ++ [']']
  | .object [] => ['\x7b', '\x7d']
  | .object ((name, first) :: others) =>
    '\x7b' :: lineBreak (level + 1) ++ stringText name ++ [':', ' '] ++
      render (level + 1) first ++ renderMembers (level + 1) others ++ lineBreak level ++ ['\x7d']

/-- The items after the first. -/
def renderItems (level : Nat) : List Json → List Char
  | [] => []
  | item :: others => ',' :: lineBreak level ++ render level item ++ renderItems level others

/-- The members after the first. -/
def renderMembers (level : Nat) : List (Option String × Json) → List Char
  | [] => []
  | (name, value) :: others =>
    ',' :: lineBreak level ++ stringText name ++ [':', ' '] ++ render level value ++
      renderMembers level others

end

/-- The value as the text of a document, without a line break at its end. -/
def pretty (value : Json) : String := String.ofList (render 0 value)

end Compliance.Json
