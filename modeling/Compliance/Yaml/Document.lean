import Compliance.Yaml.Node.Reader

/-!
# YAML documents

A text holds one document, or none at all.  Directives may stand before it, and
markers around it; whatever else the text holds is a fault.
-/

namespace Compliance.Yaml

/-- The document of a text. A text without one has no root. -/
structure Document where
  root : Option Node

namespace Document

/-- The node that an alias stands for: the last one with its number. -/
def anchored? (document : Document) (number : Nat) : Option Node :=
  ((document.root.map Node.anchored).getD []).reverse.lookup number

/-- How many aliases may be followed while the document is read: a hundred for each node. -/
def aliasLimit (document : Document) : Nat :=
  100 * (document.root.map Node.weight).getD 1

/-! ## Directives -/

/-- The directives at the start of the tokens: whether a version is stated, and the tag handles. -/
def directives : (tokens : List Token) → (versioned : Bool) → Node.Handles →
    Except Fault (Node.Handles × List Token)
  | .directive (.version major minor) :: rest, versioned, handles =>
    if versioned || major ≠ 1 || !(minor = 1 || minor = 2) then .error .malformedDirective
    else directives rest true handles
  | .directive (.tag handle expansion) :: rest, versioned, handles =>
    if handles.contains handle then .error .malformedDirective
    else directives rest versioned (handles.insert handle expansion)
  | tokens, _, handles => .ok (handles, tokens)

/-- The handles that are known without a directive, which a directive may redefine. -/
def withDefaults (handles : Node.Handles) : Node.Handles :=
  (handles.insertNew "!" "!").insertNew "!!" "tag:yaml.org,2002:"

/-- Whether a token ends the content of a document that a marker has started. -/
def endsContent : Token → Bool
  | .directive _ => true
  | .documentStart => true
  | .documentEnd => true
  | .streamEnd => true
  | _ => false

/-- The root of a document and the tokens after it. -/
def content (handles : Node.Handles) (tokens : List Token) : Except Fault (Node × List Token) := do
  let (root, feed) ←
    Node.node (withDefaults handles) true false (3 * tokens.length + 10) ⟨tokens, ∅⟩
  return (root, feed.tokens)

/-- The first document among the tokens, and the tokens after it. -/
def first (tokens : List Token) : Except Fault (Document × List Token) := do
  match tokens with
  | .streamEnd :: _ => return (⟨none⟩, tokens)
  | .directive _ :: _ | .documentStart :: _ =>
    let (handles, rest) ← directives tokens false ∅
    match rest with
    | .documentStart :: rest =>
      if endsContent (rest.headD .streamEnd) then return (⟨some .absent⟩, rest)
      else
        let (root, rest) ← content handles rest
        return (⟨some root⟩, rest)
    | _ => .error .unexpectedToken
  | _ =>
    let (root, rest) ← content ∅ tokens
    return (⟨some root⟩, rest)

/-- The document that a text holds. -/
def parse (text : String) : Except Fault Document := do
  let (document, rest) ← first (← Token.scan text)
  match rest.dropWhile (· = .documentEnd) with
  | [.streamEnd] => return document
  | .directive _ :: _ | .documentStart :: _ => .error .severalDocuments
  | _ => .error .unexpectedToken

end Document

end Compliance.Yaml
