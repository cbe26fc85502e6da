import Compliance.Yaml.Token.Scalar

/-!
# Reading directives, anchors and tags
-/

namespace Compliance.Yaml

/-- A directive of a document. -/
inductive Directive where
  | version (major minor : Nat)
  | tag (handle expansion : String)
deriving Repr, DecidableEq, Inhabited

/-! ## Tags -/

/-- The characters of the suffix of a tag; a verbatim tag may hold commas and square brackets as
well. -/
def isTagChar (verbatim : Bool) (c : Char) : Bool :=
  isWordChar c || ";/?:@&=+$.%!~*'()".toList.contains c || (verbatim && ",[]".toList.contains c)

/-- The value of the escaped octet at the start of a text. -/
def octet? : List Char → Option Nat
  | '%' :: a :: b :: _ => do return (← hexDigit? a) * 16 + (← hexDigit? b)
  | _ => none

/-- The escaped octets after the first one of a character, added to its `value`. -/
def laterOctets : (count : Nat) → List Char → (value : Nat) → Option Nat
  | 0, _, value => some value
  | count + 1, text, value => do
    let octet ← octet? text
    if 0x80 ≤ octet && octet < 0xc0 then
      laterOctets count (text.drop 3) (value * 64 + (octet - 0x80))
    else none

/-- The character that escaped octets stand for, and how many of them. -/
def escapedTagChar (text : List Char) : Except Fault (Char × Nat) :=
  match octet? text with
  | none => .error .malformedTag
  | some octet =>
    let lead : Option (Nat × Nat) :=
      if octet < 0x80 then some (0, octet)
      else if 0xc0 ≤ octet && octet < 0xe0 then some (1, octet - 0xc0)
      else if 0xe0 ≤ octet && octet < 0xf0 then some (2, octet - 0xe0)
      else if 0xf0 ≤ octet && octet < 0xf8 then some (3, octet - 0xf0)
      else none
    match lead with
    | none => .error .malformedTag
    | some (count, value) =>
      match laterOctets count (text.drop 3) value with
      | none => .error .malformedTag
      | some value => .ok (Char.ofNat value, count + 1)

/-- The characters of a tag, with the escaped ones decoded. -/
def tagChars (verbatim : Bool) : (fuel : Nat) → Cursor → (taken : List Char) →
    Except Fault (List Char × Cursor)
  | 0, cursor, taken => .ok (taken.reverse, cursor)
  | fuel + 1, cursor, taken =>
    match cursor.rest with
    | [] => .ok (taken.reverse, cursor)
    | c :: _ =>
      if c = '%' then do
        let (c, count) ← escapedTagChar cursor.rest
        tagChars verbatim fuel (cursor.advance (3 * count)) (c :: taken)
      else if isTagChar verbatim c then tagChars verbatim fuel (cursor.advance 1) (c :: taken)
      else .ok (taken.reverse, cursor)

/-- An exclamation mark, the word characters after it, and a second exclamation mark if there is
one. -/
def tagHandle (cursor : Cursor) : Except Fault (List Char × Cursor) :=
  match cursor.rest with
  | '!' :: _ =>
    let (word, next) := (cursor.advance 1).span isWordChar
    if next.nextIs (· = '!') then .ok ('!' :: word ++ ['!'], next.advance 1)
    else .ok ('!' :: word, next)
  | _ => .error .malformedTag

/-- The handle and the suffix of the tag at the cursor. A verbatim tag has no handle, and neither
has the tag that is a lone exclamation mark. -/
def tagAt (fuel : Nat) (flow : Bool) (cursor : Cursor) :
    Except Fault (String × String × Cursor) := do
  let (handle, suffix, next) ←
    match cursor.rest with
    | '!' :: '<' :: _ => do
      let (suffix, next) ← tagChars true fuel (cursor.advance 2) []
      if suffix.isEmpty || !next.nextIs (· = '>') then .error .malformedTag
      else pure ([], suffix, next.advance 1)
    | _ => do
      let (handle, next) ← tagHandle cursor
      let (suffix, next) ← tagChars false fuel next []
      if 1 < handle.length && handle.getLast? = some '!' then
        if suffix.isEmpty then .error .malformedTag else pure (handle, suffix, next)
      else
        let suffix := handle.drop 1 ++ suffix
        if suffix.isEmpty then pure ([], ['!'], next) else pure (['!'], suffix, next)
  if (flow && next.nextIs (· = ',')) || atSpace next.rest then
    return (String.ofList handle, String.ofList suffix, next)
  else .error .malformedTag

/-! ## Anchors -/

/-- The name of the anchor or alias at the cursor. -/
def anchorAt (cursor : Cursor) : Except Fault (String × Cursor) :=
  let (name, next) := (cursor.advance 1).span isWordChar
  if !name.isEmpty && (atSpace next.rest || next.nextIs "?:,]\x7d%@`".toList.contains) then
    .ok (String.ofList name, next)
  else .error .malformedAnchor

/-! ## Directives -/

/-- A version number of at most nine digits. -/
def versionNumber (cursor : Cursor) : Except Fault (Nat × Cursor) :=
  let (digits, next) := cursor.span fun c => '0' ≤ c && c ≤ '9'
  if digits.isEmpty || 9 < digits.length then .error .malformedDirective
  else .ok (digits.foldl (fun value c => value * 10 + (c.toNat - '0'.toNat)) 0, next)

/-- What a directive says after its name. -/
def directiveValue (fuel : Nat) (name : List Char) (cursor : Cursor) :
    Except Fault (Directive × Cursor) :=
  let cursor := cursor.skip isBlank
  if name = "YAML".toList then do
    let (major, next) ← versionNumber cursor
    if next.nextIs (· = '.') then
      let (minor, next) ← versionNumber (next.advance 1)
      return (.version major minor, next)
    else .error .malformedDirective
  else if name = "TAG".toList then do
    let (handle, next) ← tagHandle cursor
    if (handle = ['!'] || handle.getLast? = some '!') && next.nextIs isBlank then
      let (expansion, next) ← tagChars true fuel (next.skip isBlank) []
      if !expansion.isEmpty && atSpace next.rest then
        return (.tag (String.ofList handle) (String.ofList expansion), next)
      else .error .malformedDirective
    else .error .malformedDirective
  else .error .malformedDirective

/-- The directive at the cursor and the start of the line after it. -/
def directiveAt (fuel : Nat) (cursor : Cursor) : Except Fault (Directive × Cursor) := do
  let (name, next) := (cursor.advance 1).span isWordChar
  if name.isEmpty || !atSpace next.rest then .error .malformedDirective
  else do
    let (directive, next) ← directiveValue fuel name next
    let next := (next.skip isBlank).skipComment
    if !atLineEnd next.rest then .error .malformedDirective
    else return (directive, (next.lineEnd?.map (·.2)).getD next)

end Compliance.Yaml
