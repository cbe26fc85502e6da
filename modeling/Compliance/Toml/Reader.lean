import Compliance.Toml.Scalar

/-!
# Reading TOML documents

A document is a list of sections, each with the entries of one table: the first
belongs to the document itself, and every other one starts with a header.  The
sections are read first and then put together, so that the rules about tables
that must not be defined twice stand apart from the grammar.
-/

namespace Compliance.Toml

/-! ## Keys -/

/-- Whether a character may stand in a key that is not quoted. -/
def isBareChar (c : Char) : Bool :=
  isDigit c || ('a' ≤ c && c ≤ 'z') || ('A' ≤ c && c ≤ 'Z') || c = '_' || c = '-'

/-- One part of a key. -/
def keyPart (text : List Char) : Except Fault (List Char × List Char) :=
  match text with
  | '"' :: rest => basicTail 0 rest
  | '\'' :: rest => literalTail rest
  | text =>
    let part := text.takeWhile isBareChar
    if part.isEmpty then .error .malformed else .ok (part, text.dropWhile isBareChar)

/-- The parts of a key, with points between them. -/
def keyParts : (fuel : Nat) → List Char → Except Fault (List String × List Char)
  | 0, _ => .error .tooDeep
  | fuel + 1, text => do
    let (part, rest) ← keyPart (skipBlanks text)
    match skipBlanks rest with
    | '.' :: rest => do
      let (others, rest) ← keyParts fuel rest
      return (String.ofList part :: others, rest)
    | rest => return ([String.ofList part], rest)

/-- A key, with blanks around it and around its points. -/
def key (text : List Char) : Except Fault (List String × List Char) :=
  keyParts (nestingLimit - 1) text

/-! ## Tables -/

/-- Puts a value under a key, in the stead of the old one. -/
def put (name : String) (value : Value) : Entries → Entries
  | [] => [(name, value)]
  | (other, old) :: rest =>
    if name = other then (name, value) :: rest else (other, old) :: put name value rest

/-- Changes the table at the end of a path, and makes the tables that are missing on the way. A
dotted key may not lead into a table that is defined elsewhere; what is written between braces is
closed, and of the tables with one header the last is meant. -/
def descend (dotted : Bool) (change : Origin → Entries → Except Fault Entries) :
    (path : List String) → Origin → Entries → Except Fault Entries
  | [], origin, entries => change origin entries
  | name :: path, _, entries =>
    match entries.lookup name with
    | none => do
      let origin := if dotted then .dotted else .implied
      let inner ← descend dotted change path origin []
      return entries ++ [(name, .table origin inner)]
    | some (.table origin inner) =>
      if origin = .inline then .error (.notATable name)
      else if dotted && origin = .header then .error (.repeatedKey name)
      else do
        let inner ← descend dotted change path origin inner
        return put name (.table origin inner) entries
    | some (.tables items) =>
      match items.reverse with
      | .table origin inner :: others => do
        let inner ← descend dotted change path origin inner
        return put name (.tables (others.reverse ++ [.table origin inner])) entries
      | _ => .error (.notATable name)
    | some _ => .error (.notATable name)

/-- Adds an entry to the table at the end of a path. A table that was made by dotted keys takes
entries by dotted keys only, and any other one takes them directly only. -/
def addAtEnd (viaPath : Bool) (name : String) (value : Value) (origin : Origin)
    (entries : Entries) : Except Fault Entries :=
  if viaPath && origin ≠ .dotted then .error (.repeatedKey name)
  else if (entries.lookup name).isSome then .error (.repeatedKey name)
  else .ok (entries ++ [(name, value)])

/-- An entry of a section: its key and its value. -/
abbrev Assignment := List String × Value

/-- Adds an entry to a table. -/
def assign (entries : Entries) (assignment : Assignment) : Except Fault Entries :=
  match assignment.1.reverse with
  | [] => .error .malformed
  | name :: path =>
    descend true (addAtEnd (!path.isEmpty) name assignment.2) path.reverse .header entries

/-! ## Values -/

/-- The text after a comment, which runs to the end of its line. -/
def skipComment (text : List Char) : List Char :=
  match text with
  | '#' :: rest => rest.dropWhile isPrinted
  | text => text

/-- Skips blanks, comments and line ends, with at most `fuel` lines. -/
def skipLayout : (fuel : Nat) → List Char → Except Fault (List Char)
  | 0, text => .ok text
  | fuel + 1, text =>
    let start := skipBlanks text
    match newline? (skipComment start) with
    | some rest => skipLayout fuel rest
    | none => if start.head? = some '#' then .error .malformed else .ok start

mutual

/-- The value at the start of a text. -/
def value : (fuel room : Nat) → List Char → Except Fault (Value × List Char)
  | 0, _, _ => .error .tooDeep
  | fuel + 1, room, text =>
    match text? text with
    | some result => result.map fun (content, rest) => (.text (String.ofList content), rest)
    | none =>
      match text, room with
      | '[' :: rest, room + 1 => do
        let rest ← skipLayout rest.length rest
        let (items, rest) ← items fuel room rest
        return (.list items, rest)
      | '\x7b' :: rest, room + 1 => do
        let (entries, rest) ←
          match skipBlanks rest with
          | '\x7d' :: rest => pure ([], rest)
          | rest => inlineEntries fuel room rest []
        return (.table .inline entries, rest)
      | '[' :: _, 0 => .error .tooDeep
      | '\x7b' :: _, 0 => .error .tooDeep
      | text, _ =>
        match word? text with
        | some result => .ok result
        | none => .error .malformed

/-- The items of a list up to its closing bracket; a comma may stand after the last one. -/
def items : (fuel room : Nat) → List Char → Except Fault (List Value × List Char)
  | 0, _, _ => .error .tooDeep
  | fuel + 1, room, text =>
    match text with
    | ']' :: rest => .ok ([], rest)
    | text => do
      let (item, rest) ← value fuel room text
      match ← skipLayout rest.length rest with
      | ',' :: rest => do
        let rest ← skipLayout rest.length rest
        let (others, rest) ← items fuel room rest
        return (item :: others, rest)
      | ']' :: rest => return ([item], rest)
      | _ => .error .malformed

/-- The entries of a table between braces, added to those that were read before. -/
def inlineEntries : (fuel room : Nat) → List Char → Entries → Except Fault (Entries × List Char)
  | 0, _, _, _ => .error .tooDeep
  | fuel + 1, room, text, entries => do
    let (path, rest) ← key text
    match rest with
    | '=' :: rest => do
      let (content, rest) ← value fuel room (skipBlanks rest)
      let entries ← assign entries (path, content)
      match skipBlanks rest with
      | ',' :: rest => inlineEntries fuel room rest entries
      | '\x7d' :: rest => return (entries, rest)
      | _ => .error .malformed
    | _ => .error .malformed

end

/-! ## Sections -/

/-- What a section starts with. -/
inductive Header where
  | document
  | table (path : List String)
  | tables (path : List String)
deriving Repr, DecidableEq

/-- A section with its entries. -/
structure Section where
  heading : Header
  assignments : List Assignment

/-- What follows the end of a line, with a comment before it or not. -/
def lineRest (text : List Char) : Except Fault (List Char) :=
  let rest := skipComment (skipBlanks text)
  match rest with
  | [] => .ok []
  | rest =>
    match newline? rest with
    | some rest => .ok rest
    | none => .error .malformed

/-- The header of a section after its first bracket. -/
def header (text : List Char) : Except Fault (Header × List Char) :=
  match text with
  | '[' :: rest => do
    let (path, rest) ← key rest
    match rest with
    | ']' :: ']' :: rest => return (.tables path, rest)
    | _ => .error .malformed
  | rest => do
    let (path, rest) ← key rest
    match rest with
    | ']' :: rest => return (.table path, rest)
    | _ => .error .malformed

/-- The sections of a text; `current` is the one that has been begun, with its entries in
reverse. -/
def sections : (fuel : Nat) → List Char → (current : Section) → Except Fault (List Section)
  | 0, _, _ => .error .tooDeep
  | fuel + 1, text, current =>
    let whole : Section := { current with assignments := current.assignments.reverse }
    match skipBlanks text with
    | [] => .ok [whole]
    | '[' :: rest => do
      let (heading, rest) ← header rest
      let others ← sections fuel (← lineRest rest) ⟨heading, []⟩
      return whole :: others
    | c :: rest =>
      if c = '#' || c = '\n' || c = '\r' then do
        sections fuel (← lineRest (c :: rest)) current
      else do
        let (path, rest) ← key (c :: rest)
        match rest with
        | '=' :: rest => do
          let (content, rest) ← value (2 * rest.length + 2) (nestingLimit - 1) (skipBlanks rest)
          sections fuel (← lineRest rest)
            { current with assignments := (path, content) :: current.assignments }
        | _ => .error .malformed

/-- Puts a table with a header in its place: where it stood on the way of another table's header,
or where nothing stood. -/
def placeTable (name : String) (assignments : List Assignment) (_ : Origin) (entries : Entries) :
    Except Fault Entries :=
  match entries.lookup name with
  | none => do return entries ++ [(name, .table .header (← assignments.foldlM assign []))]
  | some (.table .implied inner) => do
    return put name (.table .header (← assignments.foldlM assign inner)) entries
  | some _ => .error (.repeatedKey name)

/-- Adds a table to those with the same header. -/
def placeNext (name : String) (assignments : List Assignment) (_ : Origin) (entries : Entries) :
    Except Fault Entries := do
  let next := Value.table .header (← assignments.foldlM assign [])
  match entries.lookup name with
  | none => return entries ++ [(name, .tables [next])]
  | some (.tables items) => return put name (.tables (items ++ [next])) entries
  | some _ => .error (.repeatedKey name)

/-- Adds a section to a document. -/
def addSection (entries : Entries) (part : Section) : Except Fault Entries :=
  let place (path : List String)
      (change : String → List Assignment → Origin → Entries → Except Fault Entries) :=
    match path.reverse with
    | [] => .error .malformed
    | name :: above =>
      descend false (change name part.assignments) above.reverse .header entries
  match part.heading with
  | .document => part.assignments.foldlM assign entries
  | .table path => place path placeTable
  | .tables path => place path placeNext

/-- The entries of the document that a text holds. A byte order mark may stand first. -/
def parse (text : String) : Except Fault Entries := do
  let text := match text.toList with
    | '\ufeff' :: rest => rest
    | text => text
  let parts ← sections (2 * text.length + 2) text ⟨.document, []⟩
  parts.foldlM addSection []

end Compliance.Toml
