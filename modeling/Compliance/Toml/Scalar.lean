import Compliance.Decimal.Double
import Compliance.Text.Pieces
import Compliance.Toml.Basic

/-!
# Reading TOML scalars

Texts are basic or literal, on one line or on several.  All other scalars are
words: a word runs as far as its characters may occur in one, and is then
checked as a whole.
-/

namespace Compliance.Toml

open Compliance.Decimal

/-! ## Characters -/

/-- The end of a line, and the text after it. -/
def newline? : List Char → Option (List Char)
  | '\n' :: rest => some rest
  | '\r' :: '\n' :: rest => some rest
  | _ => none

/-- A space or a tab. -/
def isBlank (c : Char) : Bool := c = ' ' || c = '\t'

/-- The text without the blanks at its start. -/
def skipBlanks (text : List Char) : List Char := text.dropWhile isBlank

/-- The characters of comments and texts: all but control characters, the tab apart. -/
def isPrinted (c : Char) : Bool := c = '\t' || (0x20 ≤ c.toNat && c.toNat ≠ 0x7f)

/-- Whether the character is a decimal digit. -/
def isDigit (c : Char) : Bool := '0' ≤ c && c ≤ '9'

/-- The value of a digit in a base of at most sixteen. -/
def digit? (base : Nat) (c : Char) : Option Nat :=
  let value :=
    if '0' ≤ c ∧ c ≤ '9' then some (c.toNat - '0'.toNat)
    else if 'a' ≤ c ∧ c ≤ 'f' then some (c.toNat - 'a'.toNat + 10)
    else if 'A' ≤ c ∧ c ≤ 'F' then some (c.toNat - 'A'.toNat + 10)
    else none
  value.filter (· < base)

/-! ## Texts -/

/-- Puts characters before those that the rest reads as. -/
def before (start : List Char) (result : Except Fault (List Char × List Char)) :
    Except Fault (List Char × List Char) :=
  result.map fun (content, rest) => (start ++ content, rest)

/-- The character that hexadecimal digits stand for. -/
def codePoint? (digits : List Char) : Option Char := do
  let value ← digits.foldlM (fun value c => do return value * 16 + (← digit? 16 c)) 0
  if value.isValidChar then return Char.ofNat value else none

/-- The character that a backslash and what follows stand for, and how many characters follow. -/
def escaped? : List Char → Option (Char × Nat)
  | 'b' :: _ => some ('\x08', 1)
  | 't' :: _ => some ('\t', 1)
  | 'n' :: _ => some ('\n', 1)
  | 'f' :: _ => some ('\x0c', 1)
  | 'r' :: _ => some ('\r', 1)
  | '"' :: _ => some ('"', 1)
  | '\\' :: _ => some ('\\', 1)
  | 'u' :: rest =>
    if rest.length < 4 then none else (codePoint? (rest.take 4)).map fun c => (c, 5)
  | 'U' :: rest =>
    if rest.length < 8 then none else (codePoint? (rest.take 8)).map fun c => (c, 9)
  | _ => none

/-- A basic text on one line after its opening quote, leaving out the first `skip` characters. -/
def basicTail : (skip : Nat) → List Char → Except Fault (List Char × List Char)
  | _, [] => .error .malformed
  | skip + 1, _ :: rest => basicTail skip rest
  | 0, c :: rest =>
    if c = '"' then .ok ([], rest)
    else if c = '\\' then
      match escaped? rest with
      | some (decoded, length) => before [decoded] (basicTail length rest)
      | none => .error .malformed
    else if isPrinted c then before [c] (basicTail 0 rest)
    else .error .malformed

/-- A literal text on one line after its opening quote. -/
def literalTail : List Char → Except Fault (List Char × List Char)
  | [] => .error .malformed
  | c :: rest =>
    if c = '\'' then .ok ([], rest)
    else if isPrinted c then before [c] (literalTail rest)
    else .error .malformed

/-- The number of characters after a backslash up to the next one that is neither a blank nor the
end of a line, if a line ends there. -/
def foldedBreak? (text : List Char) : Option Nat :=
  let afterBlanks := skipBlanks text
  match newline? afterBlanks with
  | none => none
  | some _ =>
    let rest := afterBlanks.dropWhile fun c => isBlank c || c = '\n' || c = '\r'
    some (text.length - rest.length)

/-- Whether every carriage return is followed by a line feed. -/
def hasWholeBreaks : List Char → Bool
  | [] => true
  | '\r' :: '\n' :: rest => hasWholeBreaks rest
  | '\r' :: _ => false
  | _ :: rest => hasWholeBreaks rest

/-- A text on several lines after its opening quotes, leaving out the first `skip` characters. Up to
two quotes may stand before the three that close it. -/
def linesTail (quote : Char) (escapes : Bool) : (skip : Nat) → List Char →
    Except Fault (List Char × List Char)
  | _, [] => .error .malformed
  | skip + 1, _ :: rest => linesTail quote escapes skip rest
  | 0, c :: rest =>
    if c = quote then
      let more := (rest.takeWhile (· = quote)).length
      if 2 ≤ more then
        let kept := min (more - 2) 2
        .ok (List.replicate kept quote, rest.drop (kept + 2))
      else before [c] (linesTail quote escapes 0 rest)
    else if escapes && c = '\\' then
      match escaped? rest with
      | some (decoded, length) => before [decoded] (linesTail quote escapes length rest)
      | none =>
        match foldedBreak? rest with
        | some length =>
          if hasWholeBreaks (rest.take length) then linesTail quote escapes length rest
          else .error .malformed
        | none => .error .malformed
    else if c = '\n' then before ['\n'] (linesTail quote escapes 0 rest)
    else if c = '\r' then
      if rest.head? = some '\n' then linesTail quote escapes 0 rest else .error .malformed
    else if isPrinted c then before [c] (linesTail quote escapes 0 rest)
    else .error .malformed

/-- A text on several lines; a line end right after the opening quotes does not count. -/
def linesText (quote : Char) (escapes : Bool) (text : List Char) :
    Except Fault (List Char × List Char) :=
  linesTail quote escapes 0 ((newline? text).getD text)

/-- The text at the start, in any of its forms. -/
def text? (text : List Char) : Option (Except Fault (List Char × List Char)) :=
  match text with
  | '"' :: '"' :: '"' :: rest => some (linesText '"' true rest)
  | '"' :: rest => some (basicTail 0 rest)
  | '\'' :: '\'' :: '\'' :: rest => some (linesText '\'' false rest)
  | '\'' :: rest => some (literalTail rest)
  | _ => none

/-! ## Numbers -/

/-- The digits of a base with underscores between them, without the underscores. -/
def grouped? (base : Nat) (text : List Char) : Option (List Char) :=
  let groups := Text.pieces '_' text
  if groups.all fun group => !group.isEmpty && group.all fun c => (digit? base c).isSome then
    some groups.flatten
  else none

/-- The value of digits in a base. -/
def valueOf (base : Nat) (digits : List Char) : Nat :=
  digits.foldl (fun value c => value * base + (digit? base c).getD 0) 0

/-- The text after a sign, if it starts with one. -/
def afterSign : List Char → List Char
  | '+' :: rest => rest
  | '-' :: rest => rest
  | text => text

/-- The digits of a decimal number, which has no leading zeros. -/
def wholeDigits? (text : List Char) : Option (List Char) := do
  let digits ← grouped? 10 text
  if 1 < digits.length && digits.head? = some '0' then none else return digits

/-- Whether a word is an integer that fits into 64 bits. -/
def isInteger (word : List Char) : Bool :=
  let fits (base : Nat) (digits : List Char) : Bool :=
    match grouped? base digits with
    | some digits => valueOf base digits < Nat.pow 2 63
    | none => false
  match word with
  | '0' :: 'x' :: digits => fits 16 digits
  | '0' :: 'o' :: digits => fits 8 digits
  | '0' :: 'b' :: digits => fits 2 digits
  | word =>
    match wholeDigits? (afterSign word) with
    | some digits =>
      let limit := if word.head? = some '-' then Nat.pow 2 63 else Nat.pow 2 63 - 1
      valueOf 10 digits ≤ limit
    | none => false

/-- Whether a word is a number with a fraction or an exponent that is not too large, or one of the
words for what is no number. -/
def isFloat (word : List Char) : Bool :=
  let unsigned := afterSign word
  if unsigned = "inf".toList || unsigned = "nan".toList then true
  else
    let isMark (c : Char) : Bool := c = '.' || c = 'e' || c = 'E'
    let whole := unsigned.takeWhile fun c => !isMark c
    let rest := unsigned.dropWhile fun c => !isMark c
    let (fraction, rest) : Option (List Char) × List Char := match rest with
      | '.' :: rest =>
        (grouped? 10 (rest.takeWhile fun c => !isMark c), rest.dropWhile fun c => !isMark c)
      | rest => (some [], rest)
    let exponent : Option Int := match rest with
      | [] => some 0
      | c :: rest =>
        if c = '.' then none
        else (grouped? 10 (afterSign rest)).map fun digits =>
          if rest.head? = some '-' then -(valueOf 10 digits : Int) else valueOf 10 digits
    match wholeDigits? whole, fraction, exponent with
    | some whole, some fraction, some exponent =>
      let negative := word.head? = some '-'
      unsigned.any isMark &&
        Double.ofDecimal negative (valueOf 10 (whole ++ fraction)) (exponent - fraction.length) ≠
          .infinite false
    | _, _, _ => false

/-! ## Times -/

/-- The value of exactly `count` digits at the start of a text. -/
def digitsAt? (count : Nat) (text : List Char) : Option (Nat × List Char) :=
  let digits := text.take count
  if digits.length = count && digits.all isDigit then some (valueOf 10 digits, text.drop count)
  else none

/-- The number of days of a month. -/
def daysInMonth (year month : Nat) : Nat :=
  match month with
  | 2 => if (year % 4 = 0 && year % 100 ≠ 0) || year % 400 = 0 then 29 else 28
  | 4 | 6 | 9 | 11 => 30
  | _ => 31

/-- The text after a date. -/
def afterDate? (text : List Char) : Option (List Char) := do
  let (year, rest) ← digitsAt? 4 text
  let (month, rest) ← digitsAt? 2 (← Text.after? ['-'] rest)
  let (day, rest) ← digitsAt? 2 (← Text.after? ['-'] rest)
  if 1 ≤ month && month ≤ 12 && 1 ≤ day && day ≤ daysInMonth year month then return rest else none

/-- The text after a time of day. -/
def afterTime? (text : List Char) : Option (List Char) := do
  let (hour, rest) ← digitsAt? 2 text
  let (minute, rest) ← digitsAt? 2 (← Text.after? [':'] rest)
  let (second, rest) ← digitsAt? 2 (← Text.after? [':'] rest)
  if hour < 24 && minute < 60 && second ≤ 60 then
    match rest with
    | '.' :: digits => if digits.head?.any isDigit then return digits.dropWhile isDigit else none
    | rest => return rest
  else none

/-- Whether a word is a time of day. -/
def isTime (word : List Char) : Bool := afterTime? word = some []

/-- Whether a word is a time of day with an offset or without one. -/
def isZonedTime (word : List Char) : Bool :=
  match afterTime? word with
  | some [] => true
  | some ['Z'] => true
  | some ['z'] => true
  | some (sign :: offset) =>
    match digitsAt? 2 offset with
    | some (hours, ':' :: minutes) =>
      match digitsAt? 2 minutes with
      | some (minutes, []) => (sign = '+' || sign = '-') && hours < 24 && minutes < 60
      | _ => false
    | _ => false
  | none => false

/-! ## Words -/

/-- The characters of words. -/
def isWordChar (c : Char) : Bool :=
  isDigit c || ('a' ≤ c && c ≤ 'z') || ('A' ≤ c && c ≤ 'Z') || "+-_.:".toList.contains c

/-- The text after a date and the time of day that may follow, after a `T` or a blank. -/
def afterMoment? (text : List Char) : Option (List Char) := do
  let rest ← afterDate? text
  let timed (rest : List Char) : Option (List Char) :=
    if isZonedTime (rest.takeWhile isWordChar) then some (rest.dropWhile isWordChar) else none
  match rest with
  | 'T' :: rest => timed rest
  | 't' :: rest => timed rest
  | ' ' :: c :: more => if isDigit c then timed (c :: more) else some rest
  | rest => if rest.head?.any isWordChar then none else some rest

/-- The scalar at the start of a text that is not a text itself. -/
def word? (text : List Char) : Option (Value × List Char) :=
  match afterMoment? text with
  | some rest => some (.time, rest)
  | none =>
    let word := text.takeWhile isWordChar
    let rest := text.dropWhile isWordChar
    if isTime word then some (.time, rest)
    else if word = "true".toList || word = "false".toList || isInteger word || isFloat word then
      some (.scalar, rest)
    else none

end Compliance.Toml
