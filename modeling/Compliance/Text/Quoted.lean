import Compliance.Text.Hidden

/-!
# Quoted text

Option lists and paths are reported between double quotes.  A quote and a
backslash get a backslash before them; newline, carriage return, tab and the
zero character have letters of their own; any other hidden character is written
as `\\u` with its code point in hexadecimal braces.  An apostrophe stays as it is.
-/

namespace Compliance.Text

/-- The digits of a number in base sixteen, in lower case. -/
def hexDigits (number : Nat) : List Char := Nat.toDigits 16 number

/-- How one character is written between the quotes. -/
def escape (c : Char) : List Char :=
  match c with
  | '"' => ['\\', '"']
  | '\\' => ['\\', '\\']
  | '\n' => ['\\', 'n']
  | '\r' => ['\\', 'r']
  | '\t' => ['\\', 't']
  | '\x00' => ['\\', '0']
  | c =>
    if isHidden c then ['\\', 'u', '\x7b'] ++ hexDigits c.toNat ++ ['\x7d'] else [c]

/-- The text between double quotes, with its characters escaped. -/
def quotedChars (text : List Char) : List Char := '"' :: text.flatMap escape ++ ['"']

/-- The text between double quotes, with its characters escaped. -/
def quoted (text : String) : String := String.ofList (quotedChars text.toList)

end Compliance.Text
