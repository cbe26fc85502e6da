import Compliance.Proofs.Catalog.Forest
import Compliance.Proofs.Catalog.Records
import Compliance.Proofs.Preorder

/-!
# Order and ancestry in catalogues that were read

Of a catalogue document only the controls remain, and they all become roots.  What order they
have can be said of the document alone: the entries under a group are its groups and after these
its controls, the entries under a control are its enhancements, and the roots are the controls
of this forest in pre-order.

The parts of a control remain a forest, but only those that have an identifier.  The parts
under another one move up, and this is all that changes (`Contracts`): the order of the parts
stays, and each is under the nearest one above it that has an identifier.

Labels, guidance and prose are looked up in the document with the fields of its records, however
these are written.

## Strategy

What a record makes of the forests inside it is put together by the lemmas on forests, one for a
part with an identifier and one for a part without, one for a control and one for a group.  The
inductions are those of the reader.
-/

namespace Compliance.Catalog

open Compliance.Json Compliance.Preorder Compliance.Control

/-! ## What the document says -/

def HasIdentifier (part : Json) : Prop := ∃ id, textField? partFields "id" part = some id

/-- A node is made of a part of a control. -/
structure IsMadeOfPart (part : Json) (node : Control) : Prop where
  id : textField? partFields "id" part = some node.id
  label : node.label = labelIn (listField partFields "props" part)
  notes : node.notes = textField? partFields "prose" part

/-- Nodes are made of the parts that have identifiers, in pre-order. -/
abbrev GathersParts : List Json → List Control → Prop :=
  Gathers (listField partFields "parts") HasIdentifier IsMadeOfPart

/-- A forest of nodes is made of the parts that have identifiers. -/
abbrev ContractsParts : List Json → List Control → List (List Nat × List Nat) → Prop :=
  Contracts (listField partFields "parts") Control.parts HasIdentifier IsMadeOfPart

/-- A root is made of a control. -/
structure IsMadeOfControl (control : Json) (root : Control) : Prop where
  id : textField? controlFields "id" control = some root.id
  label : root.label = labelIn (listField controlFields "props" control)
  notes : root.notes = guidanceIn (listField controlFields "parts" control)
  listed : GathersParts (listField controlFields "parts" control) (nodes root.parts)
  /-- Each part is under the nearest one above it that has an identifier too. -/
  nested : ∃ moves, ContractsParts (listField controlFields "parts" control) root.parts moves ∧
    ∀ move ∈ moves, HasNearestParent (listField partFields "parts") HasIdentifier
      (listField controlFields "parts" control) moves move

/-- A group or a control of a catalogue. -/
inductive Entry where
  | group (record : Json)
  | control (record : Json)

namespace Entry

/-- The entries right under an entry. -/
def under : Entry → List Entry
  | group record =>
    (listField groupFields "groups" record).map group ++
      (listField groupFields "controls" record).map control
  | control record => (listField controlFields "controls" record).map control

def IsControl (entry : Entry) : Prop := ∃ record, entry = control record

/-- A root is made of an entry that is a control. -/
def Makes (entry : Entry) (root : Control) : Prop :=
  ∃ record, entry = control record ∧ IsMadeOfControl record root

end Entry

/-- Roots are made of the controls of a forest of entries, in pre-order. -/
abbrev GathersControls : List Entry → List Control → Prop :=
  Gathers Entry.under Entry.IsControl Entry.Makes

/-! ## Reading parts -/

variable {room : Nat} {value : Json}

/-- What a part adds to the parts of its control. -/
structure IsConverted (value : Json) (forest : List Control) : Prop where
  listed : GathersParts [value] (nodes forest)
  nested : ∃ moves, ContractsParts [value] forest moves

theorem gathersParts_nodes {items : List Json} {parts : List Part}
    (hparts : List.Forall₂ (fun item part => IsConverted item part.converted) items parts) :
    GathersParts items (nodes (convertedParts parts)) := by
  induction hparts with
  | nil => exact Gathers.nil
  | cons hpart _ ih =>
      rw [convertedParts, List.flatMap_cons, nodes_append]
      exact Gathers.append hpart.listed ih

theorem exists_contractsParts {items : List Json} {parts : List Part}
    (hparts : List.Forall₂ (fun item part => IsConverted item part.converted) items parts) :
    ∃ moves, ContractsParts items (convertedParts parts) moves := by
  rw [convertedParts, List.flatMap_def]
  exact Contracts.exists_flatten
    (List.forall₂_map_right_iff.mpr (hparts.imp fun _ _ hpart => hpart.nested))

theorem isConverted_of_readPart {part : Part} (hread : readPart room value = .ok part) :
    IsConverted value part.converted := by
  refine readPart_induction (motive := fun _ value part => IsConverted value part.converted)
    ?_ hread
  intro room value parts _ hparts
  have hlisted := gathersParts_nodes hparts
  obtain ⟨moves, hmoves⟩ := exists_contractsParts hparts
  unfold partOf
  cases hid : textField? partFields "id" value with
  | none =>
      have hnone : ¬ HasIdentifier value := by simp [HasIdentifier, hid]
      exact ⟨hlisted.lift hnone, _, hmoves.lift hnone⟩
  | some id =>
      have hmade : IsMadeOfPart value (.mk id (labelIn (listField partFields "props" value))
          (textField? partFields "prose" value) (convertedParts parts)) := ⟨hid, rfl, rfl⟩
      refine ⟨?_, _, hmoves.node ⟨id, hid⟩ hmade⟩
      rw [nodes_singleton]
      exact hlisted.node ⟨id, hid⟩ hmade

/-! ## Reading controls and groups -/

/-- The roots for the records of a list. -/
theorem gathersControls_flatten {entryOf : Json → Entry} {items : List Json}
    {forests : List (List Control)}
    (hitems : List.Forall₂ (fun item forest => GathersControls [entryOf item] forest)
      items forests) :
    GathersControls (items.map entryOf) forests.flatten :=
  Gathers.flatten (List.forall₂_map_left_iff.mpr hitems)

theorem gathersControls_of_readControl {forest : List Control}
    (hread : readControl room value = .ok forest) : GathersControls [.control value] forest := by
  refine readControl_induction
    (motive := fun _ value forest => GathersControls [.control value] forest) ?_ hread
  intro room value id parts enhancements _ hid hparts henhancements
  have hconverted := hparts.imp fun _ _ => isConverted_of_readPart
  obtain ⟨moves, hmoves⟩ := exists_contractsParts hconverted
  have hroot : IsMadeOfControl value (rootOf value id parts) :=
    { id := hid
      label := rfl
      notes := rfl
      listed := gathersParts_nodes hconverted
      nested := ⟨moves, hmoves, fun _ hmove => hmoves.hasNearestParent hmove⟩ }
  exact Gathers.node ⟨value, rfl⟩ ⟨value, rfl, hroot⟩ (gathersControls_flatten henhancements)

theorem gathersControls_of_readGroup {forest : List Control}
    (hread : readGroup room value = .ok forest) :
    GathersControls (Entry.group value).under forest := by
  refine readGroup_induction
    (motive := fun _ value forest => GathersControls (Entry.group value).under forest) ?_ hread
  intro room value groups controls _ hgroups hcontrols
  refine Gathers.append (gathersControls_flatten ?groups) (gathersControls_flatten ?controls)
  case groups =>
    refine hgroups.imp fun item forest hitem => ?_
    exact Gathers.lift (by simp [Entry.IsControl]) hitem
  case controls => exact hcontrols.imp fun _ _ => gathersControls_of_readControl

/-- The roots of a catalogue that was read are its controls in pre-order, each with the forest of
its parts that have identifiers. -/
theorem parse_keeps_order_and_ancestry {text : String} {controls : List Control}
    (hparse : parse text = .ok controls) :
    ∃ document catalog, Json.parse text = .ok document ∧
      field? ["catalog"] "catalog" document = some catalog ∧
      GathersControls (Entry.group catalog).under controls := by
  obtain ⟨document, hdocument, hread⟩ := Except.bind_eq_ok_iff.mp hparse
  obtain ⟨catalog, hcatalog, hgroup⟩ := readDocument_eq_ok hread
  exact ⟨document, catalog, hdocument, hcatalog, gathersControls_of_readGroup hgroup⟩

/-- A control in a group of a group, with an enhancement and with parts below ones that have no
identifiers.  Some of the records are written as arrays. -/
def nestedText : String :=
  "\x7b\"catalog\": \x7b\"controls\": [[\"z\"]], \"groups\": [" ++
    "\x7b\"controls\": [[\"b\"]], \"groups\": [[[], [" ++
    "\x7b\"id\": \"a\", \"controls\": [[\"a-1\"]], \"parts\": [" ++
    "\x7b\"parts\": [[\"a.1\"], \x7b\"parts\": [[\"a.2\"]]\x7d]\x7d, [\"a.3\"]]\x7d" ++
    "]]]\x7d]\x7d\x7d"

theorem parse_nestedText :
    ∃ controls, parse nestedText = .ok controls ∧
      controls.map Control.id = ["a", "a-1", "b", "z"] ∧
      (controls.map fun root => (nodes root.parts).map Control.id) =
        [["a.1", "a.2", "a.3"], [], [], []] ∧
      ∃ document catalog, Json.parse nestedText = .ok document ∧
        field? ["catalog"] "catalog" document = some catalog ∧
        GathersControls (Entry.group catalog).under controls := by
  have hseen : (parse nestedText).toOption.map (fun controls =>
      (controls.map Control.id, controls.map fun root => (nodes root.parts).map Control.id)) =
        some (["a", "a-1", "b", "z"], [["a.1", "a.2", "a.3"], [], [], []]) := by
    decide +kernel
  obtain ⟨controls, hparse, hviews⟩ := Except.exists_ok_of_map_toOption_eq_some hseen
  obtain ⟨hids, hparts⟩ := Prod.mk.inj hviews
  exact ⟨controls, hparse, hids, hparts, parse_keeps_order_and_ancestry hparse⟩

end Compliance.Catalog
