import Compliance.Text.Pieces

/-!
# Universally unique identifiers

An identifier has thirty-two hexadecimal digits.  It is written in lower case
with hyphens, and read in four forms: with hyphens or without, and with hyphens
in braces or after `urn:uuid:`.
-/

namespace Compliance

/-- An identifier by its hexadecimal digits. -/
structure Uuid where
  digits : List (Fin 16)
  length_digits : digits.length = 32
deriving DecidableEq

namespace Uuid

/-- The digit `0` thirty-two times. -/
def zero : Uuid := ⟨List.replicate 32 0, List.length_replicate⟩

instance : Inhabited Uuid := ⟨zero⟩

/-- The identifier with the digits of a number. -/
def ofNat (number : Nat) : Uuid :=
  ⟨(List.range 32).map fun place => Fin.ofNat 16 (number / Nat.pow 16 (31 - place)), by simp⟩

/-- The identifier of version 4 with the given random number. -/
def ofRandom (number : Nat) : Uuid :=
  ⟨(List.range 32).map fun place =>
    let digit := number / Nat.pow 16 (31 - place)
    if place = 12 then 4
    else if place = 16 then Fin.ofNat 16 (8 + digit % 4)
    else Fin.ofNat 16 digit, by simp⟩

/-- The character of a digit, in lower case. -/
def digitChar (digit : Fin 16) : Char :=
  if digit.val < 10 then Char.ofNat (48 + digit.val) else Char.ofNat (87 + digit.val)

/-- The digit of a character, in either case. -/
def digit? (c : Char) : Option (Fin 16) :=
  if '0' ≤ c ∧ c ≤ '9' then some (Fin.ofNat 16 (c.toNat - 48))
  else if 'a' ≤ c ∧ c ≤ 'f' then some (Fin.ofNat 16 (c.toNat - 87))
  else if 'A' ≤ c ∧ c ≤ 'F' then some (Fin.ofNat 16 (c.toNat - 55))
  else none

/-- The lengths of the groups between hyphens. -/
def groups : List Nat := [8, 4, 4, 4, 12]

/-- Characters in groups of given lengths, with hyphens between the groups. -/
def hyphenated : (lengths : List Nat) → List Char → List Char
  | [], _ => []
  | [length], chars => chars.take length
  | length :: lengths, chars =>
    chars.take length ++ '-' :: hyphenated lengths (chars.drop length)

/-- The characters of groups with hyphens between them, if the groups have the given lengths. -/
def unhyphenated? : (lengths : List Nat) → List Char → Option (List Char)
  | [], _ => none
  | [length], chars => if chars.length = length then some chars else none
  | length :: lengths, chars =>
    match chars.drop length with
    | '-' :: rest => (unhyphenated? lengths rest).map (chars.take length ++ ·)
    | _ => none

/-- The identifier with hyphens. -/
def text (uuid : Uuid) : String :=
  String.ofList (hyphenated groups (uuid.digits.map digitChar))

/-- The identifier with the given digits, if they are digits and as many as needed. -/
def ofDigits? (chars : List Char) : Option Uuid := do
  let digits ← chars.mapM digit?
  if h : digits.length = 32 then return ⟨digits, h⟩ else none

/-- The identifier that a text with hyphens stands for. -/
def ofHyphenated? (chars : List Char) : Option Uuid :=
  (unhyphenated? groups chars).bind ofDigits?

/-- The text of an identifier without what may stand around it: braces, or `urn:uuid:`. -/
def bare (chars : List Char) : List Char :=
  match chars with
  | '\x7b' :: inner =>
    if inner.getLast? = some '\x7d' then inner.dropLast else chars
  | _ => (Text.after? "urn:uuid:".toList chars).getD chars

/-- The identifier that a text stands for. -/
def parse (text : String) : Option Uuid :=
  let chars := text.toList
  if chars.length = 32 then ofDigits? chars else ofHyphenated? (bare chars)

end Uuid

end Compliance
