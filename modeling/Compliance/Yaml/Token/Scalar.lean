import Compliance.Yaml.Cursor
import Compliance.Yaml.Fault

/-!
# Reading scalars

A scalar is plain, quoted or a block.  In plain and quoted scalars white space
between two runs of other characters is folded: within a line it is kept, and a
line break becomes a space unless empty lines follow, which are kept instead.
A block scalar keeps its lines below an indentation, or folds them in the same
manner where neither of two lines starts with white space.

The loops take as fuel a bound on the length of the text.
-/

namespace Compliance.Yaml

/-- How a scalar is written. -/
inductive Style where
  | plain
  | quoted
  | block
deriving Repr, DecidableEq, Inhabited

/-! ## Folding -/

/-- The white space between two runs of a scalar: the blanks before the first line break, and the
line breaks. Both lists of characters are in reverse. -/
structure Gap where
  blanks : List Char := []
  firstBreak : Option Char := none
  laterBreaks : List Char := []
  /-- Whether a line has ended in the gap. -/
  broken : Bool := false

namespace Gap

/-- What the white space is folded to, in reverse. -/
def folded (gap : Gap) : List Char :=
  if !gap.broken then gap.blanks
  else match gap.firstBreak with
    | some '\n' => if gap.laterBreaks.isEmpty then [' '] else gap.laterBreaks
    | some c => gap.laterBreaks ++ [c]
    | none => gap.laterBreaks

/-- Takes in a line break. -/
def addBreak (gap : Gap) (c : Char) : Gap :=
  if gap.broken then { gap with laterBreaks := c :: gap.laterBreaks }
  else { gap with firstBreak := some c, broken := true }

end Gap

/-- The white space at the cursor. A tab may not stand before the column `least` of a later line. -/
def gapAt (least : Nat) : (fuel : Nat) → Cursor → Gap → Except Fault (Gap × Cursor)
  | 0, cursor, gap => .ok (gap, cursor)
  | fuel + 1, cursor, gap =>
    match cursor.lineEnd? with
    | some (c, next) => gapAt least fuel next (gap.addBreak c)
    | none =>
      match cursor.rest with
      | c :: _ =>
        if isBlank c then
          if gap.broken then
            if cursor.column < least && c = '\t' then .error .malformedPlainScalar
            else gapAt least fuel (cursor.advance 1) gap
          else gapAt least fuel (cursor.advance 1) { gap with blanks := c :: gap.blanks }
        else .ok (gap, cursor)
      | [] => .ok (gap, cursor)

/-! ## Plain scalars -/

/-- The characters that end a plain scalar inside brackets. -/
def isFlowIndicator (c : Char) : Bool :=
  c = ',' || c = '[' || c = ']' || c = '\x7b' || c = '\x7d'

/-- The characters of a plain scalar up to white space or an indicator, put in reverse before
`taken`. -/
def plainRun (flow : Bool) : (text taken : List Char) → Except Fault (List Char)
  | [], taken => .ok taken
  | c :: rest, taken =>
    if isBlank c || isBreak c then .ok taken
    else if flow && c = ':' && (rest.head?.map fun d => isFlowIndicator d || d = '?') = some true
      then .error .malformedPlainScalar
    else if (c = ':' && atSpace rest) || (flow && isFlowIndicator c) then .ok taken
    else plainRun flow rest (c :: taken)

/-- The rest of a plain scalar after `taken`, which is in reverse like the result, and whether the
scalar is followed by the end of a line. -/
def plainLoop (flow : Bool) (least : Nat) : (fuel : Nat) → Cursor → (taken : List Char) → Gap →
    Except Fault (List Char × Bool × Cursor)
  | 0, cursor, taken, gap => .ok (taken, gap.broken, cursor)
  | fuel + 1, cursor, taken, gap =>
    if cursor.atDocumentMarker || cursor.nextIs (· = '#') then .ok (taken, gap.broken, cursor)
    else do
      let run ← plainRun flow cursor.rest []
      let cursor := cursor.advance run.length
      let (taken, gap) := if run.isEmpty then (taken, gap) else (run ++ gap.folded ++ taken, {})
      if cursor.nextIs fun c => isBlank c || isBreak c then
        let (gap, cursor) ← gapAt least fuel cursor gap
        if !flow && cursor.column < least then .ok (taken, gap.broken, cursor)
        else plainLoop flow least fuel cursor taken gap
      else .ok (taken, gap.broken, cursor)

/-- The plain scalar at the cursor, whether it is followed by the end of a line, and the place after
it. Outside of brackets its lines start at the column `least` at the earliest. -/
def plainScalar (fuel : Nat) (flow : Bool) (least : Nat) (cursor : Cursor) :
    Except Fault (String × Bool × Cursor) := do
  let (taken, broken, cursor) ← plainLoop flow least fuel cursor [] {}
  return (String.ofList taken.reverse, broken, cursor)

/-! ## Quoted scalars -/

/-- The value of a hexadecimal digit. -/
def hexDigit? (c : Char) : Option Nat :=
  if '0' ≤ c ∧ c ≤ '9' then some (c.toNat - '0'.toNat)
  else if 'a' ≤ c ∧ c ≤ 'f' then some (c.toNat - 'a'.toNat + 10)
  else if 'A' ≤ c ∧ c ≤ 'F' then some (c.toNat - 'A'.toNat + 10)
  else none

/-- The value of exactly `count` hexadecimal digits. -/
def hexValue? : (count : Nat) → List Char → (value : Nat) → Option Nat
  | 0, _, value => some value
  | _ + 1, [], _ => none
  | count + 1, c :: rest, value => do
    hexValue? count rest (value * 16 + (← hexDigit? c))

/-- The character that a backslash and one letter stand for. -/
def simpleEscape? : Char → Option Char
  | '0' => some '\x00'
  | 'a' => some '\x07'
  | 'b' => some '\x08'
  | 't' => some '\t'
  | '\t' => some '\t'
  | 'n' => some '\n'
  | 'v' => some '\x0b'
  | 'f' => some '\x0c'
  | 'r' => some '\r'
  | 'e' => some '\x1b'
  | ' ' => some ' '
  | '"' => some '"'
  | '/' => some '/'
  | '\\' => some '\\'
  | 'N' => some '\u0085'
  | '_' => some '\u00a0'
  | 'L' => some '\u2028'
  | 'P' => some '\u2029'
  | _ => none

/-- How many hexadecimal digits follow a backslash and a letter. -/
def escapeLength? : Char → Option Nat
  | 'x' => some 2
  | 'u' => some 4
  | 'U' => some 8
  | _ => none

/-- The character that an escape after its backslash stands for, and its length. -/
def escaped (text : List Char) : Except Fault (Char × Nat) :=
  match text with
  | [] => .error .malformedQuotedScalar
  | c :: rest =>
    match simpleEscape? c with
    | some c => .ok (c, 1)
    | none =>
      match escapeLength? c with
      | none => .error .malformedQuotedScalar
      | some count =>
        match hexValue? count rest 0 with
        | none => .error .malformedQuotedScalar
        | some value =>
          if value.isValidChar then .ok (Char.ofNat value, count + 1)
          else .error .malformedQuotedScalar

/-- The characters of a quoted scalar up to white space or the closing quote, in reverse before
`taken`, and whether an escaped line break ended them. -/
def quotedRun (quote : Char) : (fuel : Nat) → Cursor → (taken : List Char) →
    Except Fault (List Char × Bool × Cursor)
  | 0, cursor, taken => .ok (taken, false, cursor)
  | fuel + 1, cursor, taken =>
    match cursor.rest with
    | [] => .ok (taken, false, cursor)
    | c :: rest =>
      if isBlank c || isBreak c then .ok (taken, false, cursor)
      else if c = quote then
        if quote = '\'' && rest.head? = some '\'' then
          quotedRun quote fuel (cursor.advance 2) ('\'' :: taken)
        else .ok (taken, false, cursor)
      else if quote = '"' && c = '\\' then
        match (cursor.advance 1).lineEnd? with
        | some (_, next) => .ok (taken, true, next)
        | none => do
          let (c, length) ← escaped rest
          quotedRun quote fuel (cursor.advance (length + 1)) (c :: taken)
      else quotedRun quote fuel (cursor.advance 1) (c :: taken)

/-- The rest of a quoted scalar after `taken`, which is in reverse like the result. -/
def quotedLoop (quote : Char) : (fuel : Nat) → Cursor → (taken : List Char) →
    Except Fault (List Char × Cursor)
  | 0, _, _ => .error .unexpectedEnd
  | fuel + 1, cursor, taken =>
    if cursor.atDocumentMarker then .error .malformedQuotedScalar
    else if cursor.rest.isEmpty then .error .unexpectedEnd
    else do
      let (taken, broken, cursor) ← quotedRun quote fuel cursor taken
      if cursor.nextIs (· = quote) then return (taken, cursor.advance 1)
      else do
        let (gap, cursor) ← gapAt 0 fuel cursor { broken }
        quotedLoop quote fuel cursor (gap.folded ++ taken)

/-- The quoted scalar at the cursor and the place after it. -/
def quotedScalar (fuel : Nat) (quote : Char) (cursor : Cursor) :
    Except Fault (String × Cursor) := do
  let (taken, cursor) ← quotedLoop quote fuel (cursor.advance 1) []
  return (String.ofList taken.reverse, cursor)

/-! ## Block scalars -/

/-- What becomes of the line breaks at the end of a block scalar. -/
inductive Chomping where
  | strip
  | clip
  | keep
deriving DecidableEq

/-- The header of a block scalar after its indicator: the chomping and the indentation that it
states, in either order. -/
def blockHeader (text : List Char) : Except Fault (Chomping × Option Nat × Nat) :=
  let chomping? (c : Char) : Option Chomping :=
    if c = '+' then some .keep else if c = '-' then some .strip else none
  let indentation? (c : Char) : Option Nat :=
    if '0' ≤ c ∧ c ≤ '9' then some (c.toNat - '0'.toNat) else none
  let (chomping, indentation, length) :=
    match text with
    | first :: second :: _ =>
      match chomping? first, indentation? first with
      | some chomping, _ =>
        match indentation? second with
        | some digit => (chomping, some digit, 2)
        | none => (chomping, none, 1)
      | none, some digit =>
        match chomping? second with
        | some chomping => (chomping, some digit, 2)
        | none => (.clip, some digit, 1)
      | none, none => (.clip, none, 0)
    | [first] =>
      match chomping? first, indentation? first with
      | some chomping, _ => (chomping, none, 1)
      | none, some digit => (.clip, some digit, 1)
      | none, none => (.clip, none, 0)
    | [] => (Chomping.clip, none, 0)
  if indentation = some 0 then .error .malformedBlockScalar
  else .ok (chomping, indentation, length)

/-- The empty lines at the cursor and the indentation of the line after them: their line breaks, in
reverse before `breaks`, and the greatest column that was reached.  With a known indentation no
more spaces than that are taken. -/
def emptyLines (indentation : Option Nat) : (fuel : Nat) → Cursor → (breaks : List Char) →
    (widest : Nat) → Except Fault (List Char × Nat × Cursor)
  | 0, cursor, breaks, widest => .ok (breaks, widest, cursor)
  | fuel + 1, cursor, breaks, widest =>
    let spaces := cursor.rest.takeWhile (· = ' ')
    let count := match indentation with
      | some least => min spaces.length (least - cursor.column)
      | none => spaces.length
    let cursor := cursor.advance count
    let widest := max widest cursor.column
    let short := match indentation with
      | some least => cursor.column < least
      | none => true
    if short && cursor.nextIs (· = '\t') then .error .malformedBlockScalar
    else match cursor.lineEnd? with
      | some (c, next) => emptyLines indentation fuel next (c :: breaks) widest
      | none => .ok (breaks, widest, cursor)

/-- The lines of a block scalar: what has been read of it in reverse, the break after its last line,
and the breaks of the empty lines after that in reverse. `blankLine` tells whether the line before
started with white space. -/
def blockLines (literal : Bool) (indentation : Nat) : (fuel : Nat) → Cursor →
    (taken : List Char) → (lastBreak : Option Char) → (breaks : List Char) → (blankLine : Bool) →
    Except Fault (List Char × Option Char × List Char × Cursor)
  | 0, cursor, taken, lastBreak, breaks, _ => .ok (taken, lastBreak, breaks, cursor)
  | fuel + 1, cursor, taken, lastBreak, breaks, blankLine =>
    if cursor.column = indentation && !cursor.rest.isEmpty then do
      let blank := cursor.nextIs isBlank
      let joint :=
        if !literal && lastBreak = some '\n' && !blankLine && !blank then
          if breaks.isEmpty then [' '] else breaks
        else breaks ++ lastBreak.toList
      let (line, cursor) := cursor.span (!isBreak ·)
      let taken := line.reverse ++ joint ++ taken
      let (lastBreak, cursor) := match cursor.lineEnd? with
        | some (c, next) => (some c, next)
        | none => (none, cursor)
      let (breaks, _, cursor) ← emptyLines (some indentation) fuel cursor [] 0
      blockLines literal indentation fuel cursor taken lastBreak breaks blank
    else .ok (taken, lastBreak, breaks, cursor)

/-- The block scalar at the cursor and the place after it; `parent` is the indentation of the
collection that it stands in, if it stands in one. -/
def blockScalar (fuel : Nat) (parent : Option Nat) (cursor : Cursor) :
    Except Fault (String × Cursor) := do
  let literal := cursor.nextIs (· = '|')
  let (chomping, stated, length) ← blockHeader (cursor.rest.drop 1)
  let cursor := ((cursor.advance (length + 1)).skip isBlank).skipComment
  if !atLineEnd cursor.rest then .error .malformedBlockScalar
  else do
    let cursor := match cursor.lineEnd? with
      | some (_, next) => next
      | none => cursor
    let known := stated.map fun count => parent.getD 0 + count
    let (breaks, widest, cursor) ← emptyLines known fuel cursor [] 0
    let least := match parent with
      | some column => column + 1
      | none => 1
    let indentation := known.getD (max widest least)
    let (taken, lastBreak, breaks, cursor) ←
      blockLines literal indentation fuel cursor [] none breaks false
    let tail := match chomping with
      | .strip => []
      | .clip => lastBreak.toList
      | .keep => breaks ++ lastBreak.toList
    return (String.ofList (tail ++ taken).reverse, cursor)

end Compliance.Yaml
