import Compliance.Table
import Compliance.Yaml.Node

/-!
# Reading nodes from tokens

Each function takes the tokens from some point on and gives back a node with the
tokens after it.  A node may be left out wherever the grammar sees from the next
token that none follows.

The fuel bounds the depth of the calls.  Of three calls in a row at least one
takes a token, so three times the number of tokens are enough.
-/

namespace Compliance.Yaml.Node

/-- The tokens that are still to be read, and the numbers of the names of anchors. -/
structure Feed where
  tokens : List Token
  names : Table Nat

namespace Feed

/-- The next token; after the last one the text has ended. -/
def head (feed : Feed) : Token := feed.tokens.headD .streamEnd

/-- The tokens after the next one. -/
def tail (feed : Feed) : Feed := { feed with tokens := feed.tokens.tail }

/-- The number of an anchor whose node starts here. -/
def bind (feed : Feed) (anchor : Option String) : Option Nat × Feed :=
  match anchor with
  | none => (none, feed)
  | some name =>
    (some feed.names.size, { feed with names := feed.names.insert name feed.names.size })

end Feed

/-- The shorthands for the starts of tags, by their handles. -/
abbrev Handles := Table String

/-- The anchor and the tag before a node. -/
structure Properties where
  anchor : Option String := none
  tag : Option (String × String) := none

/-- The anchor and the tag at the start of the tokens, in either order. -/
def properties (feed : Feed) : Properties × Feed :=
  match feed.head, feed.tail.head with
  | .anchor name, .tag handle suffix =>
    ({ anchor := some name, tag := some (handle, suffix) }, feed.tail.tail)
  | .tag handle suffix, .anchor name =>
    ({ anchor := some name, tag := some (handle, suffix) }, feed.tail.tail)
  | .anchor name, _ => ({ anchor := some name }, feed.tail)
  | .tag handle suffix, _ => ({ tag := some (handle, suffix) }, feed.tail)
  | _, _ => ({}, feed)

/-- The tag in full. -/
def fullTag (handles : Handles) : Option (String × String) → Except Fault (Option String)
  | none => .ok none
  | some ("", suffix) => .ok (some suffix)
  | some (handle, suffix) =>
    match handles.get? handle with
    | some expansion => .ok (some (expansion ++ suffix))
    | none => .error .undefinedTagHandle

/-- The tokens before which an item of a block sequence is left out. -/
def endsItem (indentless : Bool) : Token → Bool
  | .blockEntry => true
  | .blockEnd => true
  | .key => indentless
  | .value => indentless
  | _ => false

/-- The tokens before which a key or value of a block mapping is left out. -/
def endsEntry : Token → Bool
  | .key => true
  | .value => true
  | .blockEnd => true
  | _ => false

/-- The tokens before which a key in brackets is left out; a value is left out before the same ones
except the first. -/
def endsFlow (closing : Token) (token : Token) : Bool := token = .flowEntry || token = closing

mutual

/-- The node at the start of the tokens. `block` tells whether it may be a block collection and
`indentless` whether it may be a sequence at the indentation of the mapping around it. -/
def node (handles : Handles) (block indentless : Bool) : (fuel : Nat) → Feed →
    Except Fault (Node × Feed)
  | 0, _ => .error .tooDeep
  | fuel + 1, feed =>
    match feed.head with
    | .aliasOf name =>
      match feed.names.get? name with
      | some number => .ok (.aliasOf number, feed.tail)
      | none => .error .undefinedAnchor
    | _ => do
      let (properties, feed) := properties feed
      let tag ← fullTag handles properties.tag
      let (anchor, bound) := feed.bind properties.anchor
      match feed.head with
      | .scalar text style =>
        let tag := if tag = some "!" then none else tag
        return (.scalar anchor tag text style, bound.tail)
      | .flowSequenceStart => do
        let (items, feed) ← flowItems handles true fuel bound.tail
        return (.sequence anchor tag items, feed)
      | .flowMappingStart => do
        let (entries, feed) ← flowEntries handles true fuel bound.tail
        return (.mapping anchor tag entries, feed)
      | token =>
        if token = .blockEntry && indentless then do
          let (items, feed) ← blockItems handles true fuel bound
          return (.sequence anchor tag items, feed)
        else if token = .blockSequenceStart && block then do
          let (items, feed) ← blockItems handles false fuel bound.tail
          return (.sequence anchor tag items, feed)
        else if token = .blockMappingStart && block then do
          let (entries, feed) ← blockEntries handles fuel bound.tail
          return (.mapping anchor tag entries, feed)
        else if anchor.isSome || tag.isSome then return (.scalar anchor tag "" .plain, bound)
        else .error .unexpectedToken

/-- The items of a block sequence. One that is not indented ends before whatever is no item. -/
def blockItems (handles : Handles) (indentless : Bool) :
    (fuel : Nat) → Feed → Except Fault (List Node × Feed)
  | 0, _ => .error .tooDeep
  | fuel + 1, feed =>
    match feed.head with
    | .blockEntry => do
      let feed := feed.tail
      let (item, feed) ←
        if endsItem indentless feed.head then pure (absent, feed)
        else node handles true false fuel feed
      let (others, feed) ← blockItems handles indentless fuel feed
      return (item :: others, feed)
    | token =>
      if indentless then .ok ([], feed)
      else if token = .blockEnd then .ok ([], feed.tail)
      else .error .unexpectedToken

/-- The entries of a block mapping. -/
def blockEntries (handles : Handles) : (fuel : Nat) → Feed →
    Except Fault (List (Node × Node) × Feed)
  | 0, _ => .error .tooDeep
  | fuel + 1, feed =>
    match feed.head with
    | .key => do
      let feed := feed.tail
      let (key, feed) ←
        if endsEntry feed.head then pure (absent, feed) else node handles true true fuel feed
      let (value, feed) ←
        if feed.head = .value then
          let feed := feed.tail
          if endsEntry feed.head then pure (absent, feed) else node handles true true fuel feed
        else pure (absent, feed)
      let (others, feed) ← blockEntries handles fuel feed
      return ((key, value) :: others, feed)
    | .blockEnd => .ok ([], feed.tail)
    | _ => .error .unexpectedToken

/-- The value after a key in brackets, if there is one. -/
def flowValue (handles : Handles) (closing : Token) : (fuel : Nat) → Feed →
    Except Fault (Node × Feed)
  | 0, _ => .error .tooDeep
  | fuel + 1, feed =>
    if feed.head = .value then
      let feed := feed.tail
      if endsFlow closing feed.head then .ok (absent, feed) else node handles false false fuel feed
    else .ok (absent, feed)

/-- The items of a sequence in brackets; an item with a key is a mapping with one entry. -/
def flowItems (handles : Handles) (first : Bool) : (fuel : Nat) → Feed →
    Except Fault (List Node × Feed)
  | 0, _ => .error .tooDeep
  | fuel + 1, feed =>
    if feed.head = .flowSequenceEnd then .ok ([], feed.tail)
    else if !first && feed.head ≠ .flowEntry then .error .unexpectedToken
    else
      let feed := if first then feed else feed.tail
      match feed.head with
      | .flowSequenceEnd => .ok ([], feed.tail)
      | .key => do
        let feed := feed.tail
        let (key, feed) ←
          -- The token that shows the key to be missing is passed over.
          if feed.head = .value || endsFlow .flowSequenceEnd feed.head then
            pure (absent, feed.tail)
          else node handles false false fuel feed
        let (value, feed) ← flowValue handles .flowSequenceEnd fuel feed
        let (others, feed) ← flowItems handles false fuel feed
        return (.mapping none none [(key, value)] :: others, feed)
      | _ => do
        let (item, feed) ← node handles false false fuel feed
        let (others, feed) ← flowItems handles false fuel feed
        return (item :: others, feed)

/-- The entries of a mapping in braces; a node that is not marked as a key has no value. -/
def flowEntries (handles : Handles) (first : Bool) :
    (fuel : Nat) → Feed → Except Fault (List (Node × Node) × Feed)
  | 0, _ => .error .tooDeep
  | fuel + 1, feed =>
    if feed.head = .flowMappingEnd then .ok ([], feed.tail)
    else if !first && feed.head ≠ .flowEntry then .error .unexpectedToken
    else
      let feed := if first then feed else feed.tail
      match feed.head with
      | .flowMappingEnd => .ok ([], feed.tail)
      | .key => do
        let feed := feed.tail
        let (key, feed) ←
          if feed.head = .value || endsFlow .flowMappingEnd feed.head then pure (absent, feed)
          else node handles false false fuel feed
        let (value, feed) ← flowValue handles .flowMappingEnd fuel feed
        let (others, feed) ← flowEntries handles false fuel feed
        return ((key, value) :: others, feed)
      | _ => do
        let (key, feed) ← node handles false false fuel feed
        let (others, feed) ← flowEntries handles false fuel feed
        return ((key, absent) :: others, feed)

end

end Compliance.Yaml.Node
