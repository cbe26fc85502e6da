import Compliance.Proofs.Catalog.Index
import Compliance.Proofs.Catalog.Records

/-!
# What is read of a catalogue document

`CarriesIdentifier` says, in terms of the document alone, which identifiers of controls and of
parts stand in it.  Reading turns the document into a forest and loses none of
them, and adds none: groups and enhancements become roots, and what stands below a
part without an identifier moves up.

A record inside a list costs two levels of nesting, a part moves down by at most one
level for these two, and a document may have no more than 127 levels.  So the forest
has less than 64 levels and the index leaves nothing out.  `Represents` says both
of a forest, for what has been read so far, and each of its lemmas belongs to one
way in which the reader puts forests together.
-/

namespace Compliance.Catalog

open Compliance.Json Compliance.Control

/-! ## Identifiers in documents -/

/-- A part carries its own identifier, if it has one, and those of the parts below it. -/
inductive PartCarries : Json → String → Prop
  | own {part : Json} {id : String} (hid : field? partFields "id" part = some (.text id)) :
      PartCarries part id
  | part {part below : Json} {id : String} (hbelow : below ∈ listField partFields "parts" part)
      (hcarries : PartCarries below id) : PartCarries part id

/-- A control carries its own identifier and those of its parts and enhancements. -/
inductive ControlCarries : Json → String → Prop
  | own {control : Json} {id : String}
      (hid : field? controlFields "id" control = some (.text id)) : ControlCarries control id
  | part {control part : Json} {id : String}
      (hpart : part ∈ listField controlFields "parts" control) (hcarries : PartCarries part id) :
      ControlCarries control id
  | enhancement {control enhancement : Json} {id : String}
      (henhancement : enhancement ∈ listField controlFields "controls" control)
      (hcarries : ControlCarries enhancement id) : ControlCarries control id

/-- A group, or a catalogue, carries the identifiers of its groups and of its controls. -/
inductive GroupCarries : Json → String → Prop
  | group {group inner : Json} {id : String} (hinner : inner ∈ listField groupFields "groups" group)
      (hcarries : GroupCarries inner id) : GroupCarries group id
  | control {group control : Json} {id : String}
      (hcontrol : control ∈ listField groupFields "controls" group)
      (hcarries : ControlCarries control id) : GroupCarries group id

/-- A document carries the identifiers of its catalogue. -/
def DocumentCarries (document : Json) (id : String) : Prop :=
  ∃ catalog, field? ["catalog"] "catalog" document = some catalog ∧ GroupCarries catalog id

theorem partCarries_iff {part : Json} {id : String} :
    PartCarries part id ↔ field? partFields "id" part = some (.text id) ∨
      ∃ below ∈ listField partFields "parts" part, PartCarries below id := by
  constructor
  · rintro (hid | ⟨hbelow, hcarries⟩)
    · exact .inl hid
    · exact .inr ⟨_, hbelow, hcarries⟩
  · rintro (hid | ⟨below, hbelow, hcarries⟩)
    · exact .own hid
    · exact .part hbelow hcarries

theorem controlCarries_iff {control : Json} {id : String} :
    ControlCarries control id ↔ field? controlFields "id" control = some (.text id) ∨
      (∃ part ∈ listField controlFields "parts" control, PartCarries part id) ∨
      ∃ enhancement ∈ listField controlFields "controls" control,
        ControlCarries enhancement id := by
  constructor
  · rintro (hid | ⟨hpart, hcarries⟩ | ⟨henhancement, hcarries⟩)
    · exact .inl hid
    · exact .inr (.inl ⟨_, hpart, hcarries⟩)
    · exact .inr (.inr ⟨_, henhancement, hcarries⟩)
  · rintro (hid | ⟨part, hpart, hcarries⟩ | ⟨enhancement, henhancement, hcarries⟩)
    · exact .own hid
    · exact .part hpart hcarries
    · exact .enhancement henhancement hcarries

theorem groupCarries_iff {group : Json} {id : String} :
    GroupCarries group id ↔
      (∃ inner ∈ listField groupFields "groups" group, GroupCarries inner id) ∨
      ∃ control ∈ listField groupFields "controls" group, ControlCarries control id := by
  constructor
  · rintro (⟨hinner, hcarries⟩ | ⟨hcontrol, hcarries⟩)
    · exact .inl ⟨_, hinner, hcarries⟩
    · exact .inr ⟨_, hcontrol, hcarries⟩
  · rintro (⟨inner, hinner, hcarries⟩ | ⟨control, hcontrol, hcarries⟩)
    · exact .group hinner hcarries
    · exact .control hcontrol hcarries

/-! ## Forests for what was read -/

/-- A forest has exactly the identifiers that were carried, and two levels of nesting that were left
for each of its levels. -/
structure Represents (carried : String → Prop) (room : Nat) (forest : List Control) : Prop where
  ids : ∀ id, (∃ node ∈ nodes forest, node.id = id) ↔ carried id
  depths : ∀ depth, ∀ node ∈ withDepthsAll depth forest, 2 * node.1 < 2 * depth + room

namespace Represents

variable {carried first second : String → Prop} {room less : Nat} {forest others : List Control}

theorem congr (hforest : Represents first room forest) (hcarried : ∀ id, first id ↔ second id) :
    Represents second room forest :=
  ⟨fun id => (hforest.ids id).trans (hcarried id), hforest.depths⟩

theorem mono (hforest : Represents carried less forest) (hless : less ≤ room) :
    Represents carried room forest :=
  ⟨hforest.ids, fun depth node hmem => by have := hforest.depths depth node hmem; omega⟩

theorem nil : Represents (fun _ => False) room [] := by
  constructor
  · simp
  · intro depth node hmem
    simp [withDepthsAll] at hmem

theorem append (hforest : Represents first room forest) (hothers : Represents second room others) :
    Represents (fun id => first id ∨ second id) room (forest ++ others) := by
  constructor
  · intro id
    rw [nodes_append, ← hforest.ids, ← hothers.ids]
    simp only [List.mem_append, or_and_right, exists_or]
  · intro depth node hmem
    rw [withDepthsAll_append, List.mem_append] at hmem
    exact hmem.elim (hforest.depths depth node) (hothers.depths depth node)

/-- The forests of the items of a list. -/
theorem flatMap {α : Type} {items : List Json} {results : List α} {forestOf : α → List Control}
    {carries : Json → String → Prop}
    (hitems : List.Forall₂ (fun item result => Represents (carries item) room (forestOf result))
      items results) :
    Represents (fun id => ∃ item ∈ items, carries item id) room (results.flatMap forestOf) := by
  induction hitems with
  | nil => exact nil.congr fun id => by simp
  | cons hitem _ ih => exact (hitem.append ih).congr fun id => by simp

/-- A node above forests that were read with two levels less. -/
theorem node {id : String} (hroom : 0 < room) (hparts : Represents carried (room - 2) forest)
    (label notes : Option String) :
    Represents (fun other => other = id ∨ carried other) room [.mk id label notes forest] := by
  constructor
  · intro other
    rw [nodes_singleton, ← hparts.ids]
    simp only [List.mem_cons, exists_eq_or_imp, Control.id, eq_comm]
  · intro depth node hmem
    rw [withDepthsAll, withDepthsAll, withDepths, List.append_nil, List.mem_cons] at hmem
    -- the parts are one level deeper, and two levels of nesting were used up for them
    rcases hmem with rfl | hmem
    · omega
    · have hbelow := hparts.depths (depth + 1) node hmem
      have := le_of_mem_withDepthsAll hmem
      omega

end Represents

/-! ## Reading -/

variable {room : Nat} {value : Json}

/-- A part is represented by what it adds to the parts of its control. -/
theorem represents_of_readPart {part : Part} (hread : readPart room value = .ok part) :
    Represents (PartCarries value) room part.converted := by
  refine readPart_induction
    (motive := fun room value part => Represents (PartCarries value) room part.converted) ?_ hread
  intro room value parts hroom hparts
  have hconverted : Represents
      (fun id => ∃ below ∈ listField partFields "parts" value, PartCarries below id)
      (room - 2) (convertedParts parts) := .flatMap hparts
  unfold partOf
  cases hid : textField? partFields "id" value with
  | none =>
      refine (hconverted.mono (Nat.sub_le _ _)).congr fun id => ?_
      rw [partCarries_iff, ← textField?_eq_some_iff, hid]
      simp
  | some own =>
      refine (Represents.node hroom hconverted _ _).congr fun id => ?_
      rw [partCarries_iff, ← textField?_eq_some_iff, hid, Option.some.injEq, @eq_comm _ id]

/-- A control is represented by itself and its enhancements. -/
theorem represents_of_readControl {forest : List Control}
    (hread : readControl room value = .ok forest) :
    Represents (ControlCarries value) room forest := by
  refine readControl_induction
    (motive := fun room value forest => Represents (ControlCarries value) room forest) ?_ hread
  intro room value id parts enhancements hroom hid hparts henhancements
  have hconverted : Represents
      (fun id => ∃ part ∈ listField controlFields "parts" value, PartCarries part id)
      (room - 2) (convertedParts parts) :=
    .flatMap (hparts.imp fun _ _ hpart => represents_of_readPart hpart)
  have hothers : Represents
      (fun id => ∃ item ∈ listField controlFields "controls" value, ControlCarries item id)
      (room - 2) enhancements.flatten := by
    rw [← List.flatMap_id]
    exact .flatMap henhancements
  refine ((Represents.node hroom hconverted _ _).append
    (hothers.mono (Nat.sub_le _ _))).congr fun other => ?_
  rw [controlCarries_iff, ← textField?_eq_some_iff, hid, or_assoc, Option.some.injEq,
    @eq_comm _ other]

/-- A group is represented by the controls in it. -/
theorem represents_of_readGroup {forest : List Control}
    (hread : readGroup room value = .ok forest) :
    Represents (GroupCarries value) room forest := by
  refine readGroup_induction
    (motive := fun room value forest => Represents (GroupCarries value) room forest) ?_ hread
  intro room value groups controls _ hgroups hcontrols
  have hgroups : Represents
      (fun id => ∃ item ∈ listField groupFields "groups" value, GroupCarries item id)
      (room - 2) groups.flatten := by
    rw [← List.flatMap_id]
    exact .flatMap hgroups
  have hcontrols : Represents
      (fun id => ∃ item ∈ listField groupFields "controls" value, ControlCarries item id)
      (room - 2) controls.flatten := by
    rw [← List.flatMap_id]
    exact .flatMap (hcontrols.imp fun _ _ hcontrol => represents_of_readControl hcontrol)
  refine ((hgroups.append hcontrols).mono (Nat.sub_le _ _)).congr fun id => ?_
  rw [groupCarries_iff]

/-- A document is represented by the controls of its catalogue. -/
theorem represents_of_readDocument {forest : List Control}
    (hread : readDocument room value = .ok forest) :
    Represents (DocumentCarries value) (room - 1) forest := by
  obtain ⟨catalog, hfield, hcatalog⟩ := readDocument_eq_ok hread
  refine (represents_of_readGroup hcatalog).congr fun id => ?_
  simp [DocumentCarries, hfield]

/-- The index knows exactly the identifiers that stand in the document, and the depth limit leaves
out none of the nodes. -/
theorem contains_build_of_readDocument {forest : List Control}
    (hread : readDocument nestingLimit value = .ok forest) :
    (∀ id, (CatalogIndex.build forest).contains id = true ↔ DocumentCarries value id) ∧
      nodesBelow CatalogIndex.depthLimit forest = nodes forest := by
  have hforest := represents_of_readDocument hread
  have hnodes : nodesBelow CatalogIndex.depthLimit forest = nodes forest := by
    refine nodesBelow_eq_nodes fun node hmem => ?_
    have hdepth := hforest.depths 0 node hmem
    simp only [nestingLimit, CatalogIndex.depthLimit] at hdepth ⊢
    omega
  refine ⟨fun id => ?_, hnodes⟩
  rw [CatalogIndex.contains_build_iff, hnodes, hforest.ids]

/-- The index of a catalogue that was read knows exactly the identifiers that stand in the document,
and the depth limit leaves out none of the nodes. -/
theorem contains_build_of_parse {text : String} {controls : List Control}
    (hparse : parse text = .ok controls) :
    (∃ document, Json.parse text = .ok document ∧
      ∀ id, (CatalogIndex.build controls).contains id = true ↔ DocumentCarries document id) ∧
    nodesBelow CatalogIndex.depthLimit controls = nodes controls := by
  obtain ⟨document, hdocument, hread⟩ := Except.bind_eq_ok_iff.mp hparse
  obtain ⟨hcontains, hnodes⟩ := contains_build_of_readDocument hread
  exact ⟨⟨document, hdocument, hcontains⟩, hnodes⟩

/-- A control in a group, with a part below one without an identifier and with an enhancement that
is written as an array. -/
def sampleText : String :=
  "\x7b\"catalog\": \x7b\"groups\": [\x7b\"controls\": [\x7b\"id\": \"ac-1\", " ++
    "\"parts\": [\x7b\"parts\": [\x7b\"id\": \"ac-1_smt\"\x7d]\x7d], " ++
    "\"controls\": [[\"ac-1.1\"]]\x7d]\x7d]\x7d\x7d"

/-- Three identifiers stand in the sample, and all of them are known. -/
theorem contains_build_of_sampleText :
    ∃ controls, parse sampleText = .ok controls ∧
      (nodes controls).map Control.id = ["ac-1", "ac-1_smt", "ac-1.1"] ∧
      (∃ document, Json.parse sampleText = .ok document ∧
        ∀ id, (CatalogIndex.build controls).contains id = true ↔ DocumentCarries document id) ∧
      nodesBelow CatalogIndex.depthLimit controls = nodes controls := by
  have hids : (parse sampleText).toOption.map (fun controls => (nodes controls).map Control.id) =
      some ["ac-1", "ac-1_smt", "ac-1.1"] := by
    decide +kernel
  obtain ⟨controls, hparse, hnodes⟩ := Except.exists_ok_of_map_toOption_eq_some hids
  exact ⟨controls, hparse, hnodes, contains_build_of_parse hparse⟩

end Compliance.Catalog
