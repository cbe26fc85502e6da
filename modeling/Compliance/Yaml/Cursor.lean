/-!
# Positions in a YAML text

A cursor holds the characters that are still to be read, and the place of the
first of them.  The place decides about indentation and about keys, which stand
on one line and are short.

A line ends with a line feed, a carriage return, both in this order, a next-line
character, a line separator or a paragraph separator; the end of the text counts
as a line end too where only that is asked.
-/

namespace Compliance.Yaml

/-- The characters a document may hold. -/
def isAllowed (c : Char) : Bool :=
  let code := c.toNat
  code = 0x9 || code = 0xa || code = 0xd || (0x20 ≤ code && code ≤ 0x7e) || code = 0x85 ||
    (0xa0 ≤ code && code ≤ 0xd7ff) || (0xe000 ≤ code && code ≤ 0xfffd && code ≠ 0xfeff) ||
    0x10000 ≤ code

/-- The characters of anchors and of tag handles. -/
def isWordChar (c : Char) : Bool :=
  ('0' ≤ c && c ≤ '9') || ('A' ≤ c && c ≤ 'Z') || ('a' ≤ c && c ≤ 'z') || c = '_' || c = '-'

/-- A space or a tab. -/
def isBlank (c : Char) : Bool := c = ' ' || c = '\t'

/-- A character that ends a line. -/
def isBreak (c : Char) : Bool :=
  c = '\n' || c = '\r' || c = '\u0085' || c = '\u2028' || c = '\u2029'

/-- Whether a text starts with the end of a line, or is at its own end. -/
def atLineEnd : List Char → Bool
  | [] => true
  | c :: _ => isBreak c

/-- Whether a text starts with white space, or is at its end. -/
def atSpace : List Char → Bool
  | [] => true
  | c :: _ => isBlank c || isBreak c

/-- The text after a marker of documents, if it starts with one that stands alone. -/
def isMarker (mark : Char) : List Char → Bool
  | a :: b :: c :: rest => a = mark && b = mark && c = mark && atSpace rest
  | _ => false

/-- A place in a text and what follows it. -/
structure Cursor where
  rest : List Char
  index : Nat
  line : Nat
  column : Nat

namespace Cursor

/-- The start of a text. -/
def start (text : List Char) : Cursor := ⟨text, 0, 0, 0⟩

/-- The next character. -/
def head? (cursor : Cursor) : Option Char := cursor.rest.head?

/-- Whether the next character satisfies a condition. -/
def nextIs (cursor : Cursor) (condition : Char → Bool) : Bool :=
  match cursor.rest with
  | [] => false
  | c :: _ => condition c

/-- The place after `count` characters of the line. -/
def advance (cursor : Cursor) (count : Nat) : Cursor :=
  { rest := cursor.rest.drop count
    index := cursor.index + count
    line := cursor.line
    column := cursor.column + count }

/-- The place after the characters that satisfy a condition, and those characters. -/
def span (cursor : Cursor) (condition : Char → Bool) : List Char × Cursor :=
  let run := cursor.rest.takeWhile condition
  (run, cursor.advance run.length)

/-- The place after the characters that satisfy a condition. -/
def skip (cursor : Cursor) (condition : Char → Bool) : Cursor := (cursor.span condition).2

/-- The start of the next line, `count` characters further. -/
def nextLine (cursor : Cursor) (count : Nat) : Cursor :=
  { rest := cursor.rest.drop count
    index := cursor.index + count
    line := cursor.line + 1
    column := 0 }

/-- What the end of the line is read as, and the start of the next line.  The separators of lines
and of paragraphs are kept. -/
def lineEnd? (cursor : Cursor) : Option (Char × Cursor) :=
  match cursor.rest with
  | '\r' :: '\n' :: _ => some ('\n', cursor.nextLine 2)
  | c :: _ =>
    if c = '\u2028' || c = '\u2029' then some (c, cursor.nextLine 1)
    else if isBreak c then some ('\n', cursor.nextLine 1)
    else none
  | [] => none

/-- The place after a comment, if one starts here. -/
def skipComment (cursor : Cursor) : Cursor :=
  if cursor.nextIs (· = '#') then cursor.skip (!isBreak ·) else cursor

/-- Whether a marker that starts or ends a document stands here. -/
def atDocumentMarker (cursor : Cursor) : Bool :=
  cursor.column = 0 && (isMarker '-' cursor.rest || isMarker '.' cursor.rest)

end Cursor

end Compliance.Yaml
