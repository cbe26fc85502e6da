import Compliance.Yaml.Token.Mark

/-!
# Tokens of YAML texts

The tokens of a text carry its indentation as explicit starts and ends of block
collections, and mark every key, also one that has no question mark before it.

Such a key is known only at the colon after it.  Until then the scanner keeps,
for each level of brackets, the place where a key may have started; at the colon
it puts the missing tokens in at that place.  The candidate is given up when the
line ends or after 1024 characters, which is a fault if it starts at the
indentation of a block mapping, where nothing else but a key may stand.
-/

namespace Compliance.Yaml

/-- A token. -/
inductive Token where
  | streamEnd
  | directive (content : Directive)
  | documentStart
  | documentEnd
  | blockSequenceStart
  | blockMappingStart
  | blockEnd
  | flowSequenceStart
  | flowSequenceEnd
  | flowMappingStart
  | flowMappingEnd
  | blockEntry
  | flowEntry
  | key
  | value
  | aliasOf (name : String)
  | anchor (name : String)
  | tag (handle suffix : String)
  | scalar (text : String) (style : Style)
deriving Repr, DecidableEq, Inhabited

namespace Token

/-- A place where a key may have started. -/
structure Candidate where
  /-- Whether nothing but a key may stand there. -/
  required : Bool
  /-- The number of tokens before it. -/
  position : Nat
  index : Nat
  line : Nat
  column : Nat

/-- The longest text of a key that is not marked as one. -/
def keyLimit : Nat := 1024

/-- The state between two tokens. The indentation is missing outside of block collections. -/
structure Scanner where
  cursor : Cursor
  /-- A bound on the length of the text. -/
  bound : Nat
  /-- The tokens so far, the last one first. -/
  tokens : List Token
  count : Nat
  indentation : Option Nat
  outer : List (Option Nat)
  /-- Whether a key may start here. -/
  keyAllowed : Bool
  candidate : Option Candidate
  /-- The candidates of the enclosing levels of brackets. -/
  enclosing : List (Option Candidate)

namespace Scanner

/-- The start of a text. -/
def start (text : List Char) : Scanner :=
  { cursor := .start text, bound := text.length + 1, tokens := [], count := 0
    indentation := none, outer := [], keyAllowed := true, candidate := none, enclosing := [] }

/-- Whether the scanner is inside brackets. -/
def inFlow (scanner : Scanner) : Bool := !scanner.enclosing.isEmpty

/-- The first column that is inside the current block collection. -/
def leastColumn (scanner : Scanner) : Nat :=
  match scanner.indentation with
  | none => 0
  | some column => column + 1

/-- Adds a token. -/
def push (scanner : Scanner) (token : Token) : Scanner :=
  { scanner with tokens := token :: scanner.tokens, count := scanner.count + 1 }

/-- Puts a token in after the first `position` tokens. -/
def insert (scanner : Scanner) (position : Nat) (token : Token) : Scanner :=
  let later := scanner.count - position
  { scanner with
    tokens := scanner.tokens.take later ++ token :: scanner.tokens.drop later
    count := scanner.count + 1 }

/-! ## Indentation -/

/-- Whether a column lies deeper than the indentation. -/
def isDeeper (column : Nat) : Option Nat → Bool
  | none => true
  | some indentation => indentation < column

/-- Opens a block collection at a column, with its first token after `position` tokens. -/
def openAt (scanner : Scanner) (column position : Nat) (token : Token) : Scanner :=
  if !scanner.inFlow && isDeeper column scanner.indentation then
    { scanner.insert position token with
      indentation := some column, outer := scanner.indentation :: scanner.outer }
  else scanner

/-- Closes the block collections that lie deeper than a column; without a column, all. -/
def closeDeeper (scanner : Scanner) (column : Option Nat) : List (Option Nat) → Scanner
  | [] => scanner
  | previous :: outer =>
    match scanner.indentation with
    | none => scanner
    | some indentation =>
      let deeper : Bool := match column with
        | some column => column < indentation
        | none => true
      if deeper then
        closeDeeper { scanner.push .blockEnd with indentation := previous, outer := outer } column
          outer
      else scanner

/-- Closes the block collections that lie deeper than a column; without a column, all. -/
def close (scanner : Scanner) (column : Option Nat) : Scanner :=
  if scanner.inFlow then scanner else scanner.closeDeeper column scanner.outer

/-! ## Keys -/

/-- Gives up the candidate of the current level. -/
def dropCandidate (scanner : Scanner) : Except Fault Scanner :=
  match scanner.candidate with
  | some candidate =>
    if candidate.required then .error .missingColon else .ok { scanner with candidate := none }
  | none => .ok scanner

/-- Takes the current place as a candidate, if a key may start here. -/
def saveCandidate (scanner : Scanner) : Except Fault Scanner :=
  if scanner.keyAllowed then do
    let cursor := scanner.cursor
    let scanner ← scanner.dropCandidate
    return { scanner with
      candidate := some
        { required := !scanner.inFlow && scanner.indentation = some cursor.column
          position := scanner.count
          index := cursor.index, line := cursor.line, column := cursor.column } }
  else .ok scanner

/-- Whether a candidate is too far behind a place. -/
def Candidate.isStale (candidate : Candidate) (cursor : Cursor) : Bool :=
  candidate.line < cursor.line || candidate.index + keyLimit < cursor.index

/-- A candidate, unless it is too far behind. -/
def freshOnly (cursor : Cursor) : Option Candidate → Except Fault (Option Candidate)
  | none => .ok none
  | some candidate =>
    if Candidate.isStale candidate cursor then
      if candidate.required then .error .missingColon else .ok none
    else .ok (some candidate)

/-- Gives up the candidates of all levels that are too far behind. -/
def dropStale (scanner : Scanner) : Except Fault Scanner := do
  let candidate ← freshOnly scanner.cursor scanner.candidate
  let enclosing ← scanner.enclosing.mapM (freshOnly scanner.cursor)
  return { scanner with candidate, enclosing }

/-! ## Between tokens -/

/-- Skips white space and comments. A new line outside of brackets may start a key, and a tab may
not stand where one may start. -/
def skipToToken : (fuel : Nat) → Scanner → Scanner
  | 0, scanner => scanner
  | fuel + 1, scanner =>
    let tabs := scanner.inFlow || !scanner.keyAllowed
    let cursor := (scanner.cursor.skip fun c => c = ' ' || (tabs && c = '\t')).skipComment
    match cursor.lineEnd? with
    | some (_, next) =>
      skipToToken fuel
        { scanner with cursor := next, keyAllowed := scanner.keyAllowed || !scanner.inFlow }
    | none => { scanner with cursor }

/-! ## Tokens of one or more characters -/

/-- Adds a token of `length` characters. -/
def take (scanner : Scanner) (length : Nat) (token : Token) : Scanner :=
  { scanner.push token with cursor := scanner.cursor.advance length }

/-- The end of the text. -/
def takeEnd (scanner : Scanner) : Except Fault Scanner := do
  let scanner ← (scanner.close none).dropCandidate
  return { scanner.push .streamEnd with keyAllowed := false }

/-- A directive. -/
def takeDirective (scanner : Scanner) : Except Fault Scanner := do
  let scanner ← (scanner.close none).dropCandidate
  let (content, cursor) ← directiveAt scanner.bound scanner.cursor
  return { scanner.push (.directive content) with cursor, keyAllowed := false }

/-- A marker that starts or ends a document. -/
def takeMarker (scanner : Scanner) (token : Token) : Except Fault Scanner := do
  let scanner ← (scanner.close none).dropCandidate
  return { scanner.take 3 token with keyAllowed := false }

/-- An opening bracket, which may itself start a key. -/
def takeOpening (scanner : Scanner) (token : Token) : Except Fault Scanner := do
  let scanner ← scanner.saveCandidate
  return { scanner.take 1 token with
    candidate := none, enclosing := scanner.candidate :: scanner.enclosing, keyAllowed := true }

/-- A closing bracket. -/
def takeClosing (scanner : Scanner) (token : Token) : Except Fault Scanner := do
  let scanner ← scanner.dropCandidate
  let scanner := match scanner.enclosing with
    | [] => scanner
    | candidate :: enclosing => { scanner with candidate, enclosing }
  return { scanner.take 1 token with keyAllowed := false }

/-- A comma inside brackets. -/
def takeComma (scanner : Scanner) : Except Fault Scanner := do
  let scanner ← scanner.dropCandidate
  return { scanner.take 1 .flowEntry with keyAllowed := true }

/-- The hyphen of an item. -/
def takeHyphen (scanner : Scanner) : Except Fault Scanner :=
  if !scanner.inFlow && !scanner.keyAllowed then .error .misplacedIndicator
  else do
    let scanner := scanner.openAt scanner.cursor.column scanner.count .blockSequenceStart
    let scanner ← scanner.dropCandidate
    return { scanner.take 1 .blockEntry with keyAllowed := true }

/-- The question mark before a key. -/
def takeQuestion (scanner : Scanner) : Except Fault Scanner :=
  if !scanner.inFlow && !scanner.keyAllowed then .error .misplacedIndicator
  else do
    let scanner := scanner.openAt scanner.cursor.column scanner.count .blockMappingStart
    let scanner ← scanner.dropCandidate
    return { scanner.take 1 .key with keyAllowed := !scanner.inFlow }

/-- The colon before a value; what stands before it may turn out to be a key. -/
def takeColon (scanner : Scanner) : Except Fault Scanner :=
  match scanner.candidate with
  | some candidate =>
    let scanner := scanner.insert candidate.position .key
    let scanner := scanner.openAt candidate.column candidate.position .blockMappingStart
    .ok { scanner.take 1 .value with candidate := none, keyAllowed := false }
  | none =>
    if !scanner.inFlow && !scanner.keyAllowed then .error .misplacedIndicator
    else
      let scanner := scanner.openAt scanner.cursor.column scanner.count .blockMappingStart
      .ok { scanner.take 1 .value with keyAllowed := !scanner.inFlow }

/-- An anchor or an alias. -/
def takeAnchor (scanner : Scanner) (token : String → Token) : Except Fault Scanner := do
  let scanner ← scanner.saveCandidate
  let (name, cursor) ← anchorAt scanner.cursor
  return { scanner.push (token name) with cursor, keyAllowed := false }

/-- A tag. -/
def takeTag (scanner : Scanner) : Except Fault Scanner := do
  let scanner ← scanner.saveCandidate
  let (handle, suffix, cursor) ← tagAt scanner.bound scanner.inFlow scanner.cursor
  return { scanner.push (.tag handle suffix) with cursor, keyAllowed := false }

/-- A block scalar. -/
def takeBlockScalar (scanner : Scanner) : Except Fault Scanner := do
  let scanner ← scanner.dropCandidate
  let (text, cursor) ← blockScalar scanner.bound scanner.indentation scanner.cursor
  return { scanner.push (.scalar text .block) with cursor, keyAllowed := true }

/-- A quoted scalar. -/
def takeQuoted (scanner : Scanner) (quote : Char) : Except Fault Scanner := do
  let scanner ← scanner.saveCandidate
  let (text, cursor) ← quotedScalar scanner.bound quote scanner.cursor
  return { scanner.push (.scalar text .quoted) with cursor, keyAllowed := false }

/-- A plain scalar; when a line has ended after it, a key may follow. -/
def takePlain (scanner : Scanner) : Except Fault Scanner := do
  let scanner ← scanner.saveCandidate
  let (text, broken, cursor) ←
    plainScalar scanner.bound scanner.inFlow scanner.leastColumn scanner.cursor
  return { scanner.push (.scalar text .plain) with cursor, keyAllowed := broken }

/-- The characters that a plain scalar does not start with. -/
def isIndicator (c : Char) : Bool := "-?:,[]\x7b\x7d#&*!|>'\"%@`".toList.contains c

/-- Whether a plain scalar may start with a character before a text. -/
def startsPlain (flow : Bool) (c : Char) (rest : List Char) : Bool :=
  !(isBlank c || isBreak c || isIndicator c) ||
    (c = '-' && !(rest.head?.map isBlank).getD false) ||
    (!flow && (c = '?' || c = ':') && !atSpace rest)

/-- The next token, and what has to be put in before it. -/
def next (scanner : Scanner) : Except Fault Scanner := do
  let scanner := skipToToken scanner.bound scanner
  let scanner ← scanner.dropStale
  let scanner := scanner.close (some scanner.cursor.column)
  match scanner.cursor.rest with
  | [] => scanner.takeEnd
  | c :: rest =>
    let flow := scanner.inFlow
    if scanner.cursor.column = 0 && c = '%' then scanner.takeDirective
    else if scanner.cursor.column = 0 && isMarker '-' (c :: rest) then
      scanner.takeMarker .documentStart
    else if scanner.cursor.column = 0 && isMarker '.' (c :: rest) then
      scanner.takeMarker .documentEnd
    else if c = '[' then scanner.takeOpening .flowSequenceStart
    else if c = '\x7b' then scanner.takeOpening .flowMappingStart
    else if c = ']' then scanner.takeClosing .flowSequenceEnd
    else if c = '\x7d' then scanner.takeClosing .flowMappingEnd
    else if c = ',' then scanner.takeComma
    else if c = '-' && atSpace rest then scanner.takeHyphen
    else if c = '?' && (flow || atSpace rest) then scanner.takeQuestion
    else if c = ':' && (flow || atSpace rest) then scanner.takeColon
    else if c = '*' then scanner.takeAnchor .aliasOf
    else if c = '&' then scanner.takeAnchor .anchor
    else if c = '!' then scanner.takeTag
    else if (c = '|' || c = '>') && !flow then scanner.takeBlockScalar
    else if c = '\'' || c = '"' then scanner.takeQuoted c
    else if startsPlain flow c rest then scanner.takePlain
    else .error .unexpectedCharacter

/-- The tokens of a text in reverse, up to its end. -/
def run : (fuel : Nat) → Scanner → Except Fault (List Token)
  | 0, _ => .error .unexpectedEnd
  | fuel + 1, scanner => do
    let scanner ← scanner.next
    if scanner.tokens.head? = some .streamEnd then return scanner.tokens
    else run fuel scanner

end Scanner

/-- The tokens of a text, the last of which is its end. A byte order mark may stand first. -/
def scan (text : String) : Except Fault (List Token) :=
  let text := match text.toList with
    | '\ufeff' :: rest => rest
    | text => text
  if text.all isAllowed then do
    let tokens ← Scanner.run (text.length + 1) (.start text)
    return tokens.reverse
  else .error .forbiddenCharacter

end Token

end Compliance.Yaml
