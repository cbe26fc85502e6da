import Compliance.Catalog.Control
import Compliance.Json.Reader
import Compliance.Json.Record

/-!
# Reading catalogues

A catalogue document has groups, which may have groups themselves, and controls,
which may have enhancements.  All controls become roots, a control before its
enhancements and the groups before the controls beside them.  A part without an
identifier is left out, and its parts stand in its place.

A record inside a list is two levels deeper than the record that has the list.
-/

namespace Compliance.Catalog

open Compliance.Json

/-- The value of the first property that is a label. -/
def labelOf (props : List (String × String)) : Option String := props.lookup "label"

/-- A property with its name and value. -/
def readProp : Reader (String × String) := fun room value => do
  let slots ← slots ["name", "value"] room value
  return (← slots.required 0 "name" readText (room - 1),
    ← slots.required 1 "value" readText (room - 1))

/-- A part of a control: what it adds to the parts of the control, and the prose of the guidance if
the part is the guidance. -/
structure Part where
  converted : List Control
  guidance : Option (Option String)

/-- The parts of a control, with those below parts without an identifier. -/
def convertedParts (parts : List Part) : List Control := parts.flatMap Part.converted

/-- The prose of the first part that is the guidance. -/
def guidanceOf (parts : List Part) : Option String := (parts.findSome? Part.guidance).join

/-- A part as a record, with a reading of the parts below it. -/
def readPartWith (readBelow : Json → Except Fault Part) : Reader Part := fun room value => do
  let slots ← slots ["id", "name", "props", "prose", "parts"] room value
  let inner := room - 1
  let id ← slots.withDefault 0 none (readOptional readText) inner
  let name ← slots.withDefault 1 none (readOptional readText) inner
  let props ← slots.withDefault 2 [] (readList readProp) inner
  let prose ← slots.withDefault 3 none (readOptional readText) inner
  let parts ← (← slots.items 4 inner).mapM readBelow
  let below := convertedParts parts
  return {
    converted := match id with
      | some id => [.mk id (labelOf props) prose below]
      | none => below
    guidance := if name = some "guidance" then some prose else none }

/-- A part as a record. -/
def readPart : (room : Nat) → Json → Except Fault Part
  | room + 2, value => readPartWith (readPart room) (room + 2) value
  | room, value => readPartWith (fun _ => .error .tooDeep) room value

/-- A control as a record, with a reading of its enhancements. -/
def readControlWith (readBelow : Json → Except Fault (List Control)) : Reader (List Control) :=
  fun room value => do
    let slots ← slots ["id", "props", "parts", "controls"] room value
    let inner := room - 1
    let id ← slots.required 0 "id" readText inner
    let props ← slots.withDefault 1 [] (readList readProp) inner
    let parts ← slots.withDefault 2 [] (readList readPart) inner
    let enhancements ← (← slots.items 3 inner).mapM readBelow
    return .mk id (labelOf props) (guidanceOf parts) (convertedParts parts) ::
      enhancements.flatten

/-- A control as a record: the control and its enhancements. -/
def readControl : (room : Nat) → Json → Except Fault (List Control)
  | room + 2, value => readControlWith (readControl room) (room + 2) value
  | room, value => readControlWith (fun _ => .error .tooDeep) room value

/-- A group as a record, with a reading of the groups in it. -/
def readGroupWith (readBelow : Json → Except Fault (List Control)) : Reader (List Control) :=
  fun room value => do
    let slots ← slots ["groups", "controls"] room value
    let inner := room - 1
    let groups ← (← slots.items 0 inner).mapM readBelow
    let controls ← slots.withDefault 1 [] (readList readControl) inner
    return groups.flatten ++ controls.flatten

/-- A group as a record: its controls. -/
def readGroup : (room : Nat) → Json → Except Fault (List Control)
  | room + 2, value => readGroupWith (readGroup room) (room + 2) value
  | room, value => readGroupWith (fun _ => .error .tooDeep) room value

/-- A document as a record: the controls of its catalogue, which has the fields of a group. -/
def readDocument : Reader (List Control) := fun room value => do
  let slots ← slots ["catalog"] room value
  slots.required 0 "catalog" readGroup (room - 1)

/-- The controls of the catalogue that a text holds. -/
def parse (text : String) : Except Fault (List Control) := do
  readDocument nestingLimit (← Json.parse text)

/-- Whether a text holds an object with an object `catalog` in it. -/
def isDocument (text : String) : Bool :=
  match parseWhole text with
  | .ok value =>
    match value.member? "catalog" with
    | some (.object _) => true
    | _ => false
  | .error _ => false

end Compliance.Catalog
