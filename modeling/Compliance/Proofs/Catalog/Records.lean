import Compliance.Catalog.Reader
import Compliance.Proofs.Json.Record
import Mathlib.Data.Nat.Init

/-!
# Records of catalogue documents

Whatever the reader takes from a record is looked up in the fields of the record, however it is
written: an identifier, the label among its properties, its prose.  One lemma for each kind of
record says what comes of it, given what comes of the records inside it.

Records inside a list are read with two levels of nesting less, and this is the recursion of the
reader.  So what holds of a record, as soon as it holds of all records inside it, holds of
everything that can be read (`readPart_induction`, `readControl_induction`,
`readGroup_induction`).
-/

namespace Compliance.Catalog

open Compliance.Json

/-! ## What a record says -/

/-- The fields of a property that are looked at. -/
def propFields : List String := ["name", "value"]

/-- The fields of a part that are looked at. -/
def partFields : List String := ["id", "name", "props", "prose", "parts"]

/-- The fields of a control that are looked at. -/
def controlFields : List String := ["id", "props", "parts", "controls"]

/-- The fields of a group or of a catalogue that are looked at. -/
def groupFields : List String := ["groups", "controls"]

/-- The value of the first property that is a label. -/
def labelIn (props : List Json) : Option String :=
  (props.find? fun prop => textField? propFields "name" prop = some "label").bind
    (textField? propFields "value")

/-- Whether a part is the guidance of its control. -/
def isGuidance (part : Json) : Bool := textField? partFields "name" part = some "guidance"

/-- The prose of the first part that is the guidance. -/
def guidanceIn (parts : List Json) : Option String :=
  (parts.find? isGuidance).bind (textField? partFields "prose")

/-- What comes of a part, given what comes of the parts in it. -/
def partOf (value : Json) (parts : List Part) : Part where
  converted :=
    match textField? partFields "id" value with
    | some id =>
      [.mk id (labelIn (listField partFields "props" value))
        (textField? partFields "prose" value) (convertedParts parts)]
    | none => convertedParts parts
  guidance := if isGuidance value then some (textField? partFields "prose" value) else none

/-- What comes of a control, given what comes of its parts. -/
def rootOf (value : Json) (id : String) (parts : List Part) : Control :=
  .mk id (labelIn (listField controlFields "props" value))
    (guidanceIn (listField controlFields "parts" value)) (convertedParts parts)

variable {room : Nat} {value : Json}

/-- The induction for a reader that reads the records inside a record with two levels less. -/
theorem read_induction {α : Type} {read : Reader α}
    {readWith : (Json → Except Fault α) → Reader α}
    (few : ∀ room value, room < 2 →
      read room value = readWith (fun _ => .error .tooDeep) room value)
    (more : ∀ room value, read (room + 2) value = readWith (read room) (room + 2) value)
    {motive : Nat → Json → α → Prop}
    (step : ∀ readBelow room value result,
      (∀ item below, readBelow item = .ok below → motive (room - 2) item below) →
        readWith readBelow room value = .ok result → motive room value result)
    {result : α} (hread : read room value = .ok result) : motive room value result := by
  have hfew : ∀ room value result, room < 2 → read room value = .ok result →
      motive room value result := by
    intro room value result hroom hread
    rw [few room value hroom] at hread
    exact step _ room value result (fun _ _ hitem => by cases hitem) hread
  induction room using Nat.twoStepInduction generalizing value result with
  | zero => exact hfew 0 value result (by omega) hread
  | one => exact hfew 1 value result (by omega) hread
  | more room ih _ =>
      rw [more] at hread
      exact step _ _ value result (fun _ _ hitem => ih hitem) hread

/-! ## Properties -/

theorem readProp_eq_ok {prop : String × String} (hread : readProp room value = .ok prop) :
    textField? propFields "name" value = some prop.1 ∧
      textField? propFields "value" value = some prop.2 := by
  have hnames : propFields.Nodup := by decide
  obtain ⟨fields, hslots, hread⟩ := Except.bind_eq_ok_iff.mp hread
  obtain ⟨name, hname, hread⟩ := Except.bind_eq_ok_iff.mp hread
  obtain ⟨content, hcontent, hread⟩ := Except.bind_eq_ok_iff.mp hread
  obtain rfl := Except.ok.inj hread
  exact ⟨requiredText_eq_ok hnames hslots rfl hname, requiredText_eq_ok hnames hslots rfl hcontent⟩

theorem labelOf_eq_labelIn {items : List Json} {props : List (String × String)}
    (hread : List.Forall₂ (fun item prop => readProp room item = .ok prop) items props) :
    labelOf props = labelIn items := by
  induction hread with
  | nil => rfl
  | @cons item prop items props hitem _ ih =>
      obtain ⟨name, content⟩ := prop
      obtain ⟨hname, hcontent⟩ := readProp_eq_ok hitem
      unfold labelOf labelIn at ih ⊢
      by_cases hlabel : name = "label"
      · rw [List.find?_cons_of_pos (by simp [hname, hlabel]), Option.bind_some, hcontent, hlabel,
          List.lookup_cons_self]
      · have hne : ("label" == name) = false := beq_false_of_ne (Ne.symm hlabel)
        rw [List.find?_cons_of_neg (by simpa [hname] using hlabel), List.lookup_cons, hne, ih]

/-! ## Parts -/

theorem readPartWith_eq_ok {readBelow : Json → Except Fault Part} {part : Part}
    (hread : readPartWith readBelow room value = .ok part) :
    0 < room ∧ ∃ parts, part = partOf value parts ∧
      List.Forall₂ (fun item below => readBelow item = .ok below)
        (listField partFields "parts" value) parts := by
  have hnames : partFields.Nodup := by decide
  obtain ⟨fields, hslots, hread⟩ := Except.bind_eq_ok_iff.mp hread
  obtain ⟨id, hid, hread⟩ := Except.bind_eq_ok_iff.mp hread
  obtain ⟨name, hname, hread⟩ := Except.bind_eq_ok_iff.mp hread
  obtain ⟨props, hprops, hread⟩ := Except.bind_eq_ok_iff.mp hread
  obtain ⟨prose, hprose, hread⟩ := Except.bind_eq_ok_iff.mp hread
  obtain ⟨items, hitems, hread⟩ := Except.bind_eq_ok_iff.mp hread
  obtain ⟨parts, hparts, hread⟩ := Except.bind_eq_ok_iff.mp hread
  obtain rfl := Except.ok.inj hread
  obtain rfl := items_eq_ok hnames hslots rfl hitems
  refine ⟨(slots_eq_ok hnames hslots).1, parts, ?_, Except.mapM_eq_ok_iff.mp hparts⟩
  have hguidance : isGuidance value = true ↔ name = some "guidance" := by
    rw [isGuidance, decide_eq_true_eq, optionalText_eq_textField? hnames hslots rfl hname]
  rw [partOf, ← optionalText_eq_textField? hnames hslots rfl hid,
    ← optionalText_eq_textField? hnames hslots rfl hprose,
    ← labelOf_eq_labelIn (list_eq_ok hnames hslots rfl hprops)]
  cases id <;> simp only [hguidance]

theorem readPart_induction {motive : Nat → Json → Part → Prop}
    (step : ∀ room value parts, 0 < room →
      List.Forall₂ (motive (room - 2)) (listField partFields "parts" value) parts →
        motive room value (partOf value parts))
    {part : Part} (hread : readPart room value = .ok part) : motive room value part := by
  refine read_induction ?few (fun _ _ => rfl) ?step hread
  case few =>
    intro room value hroom
    match room, hroom with
    | 0, _ => rfl
    | 1, _ => rfl
  case step =>
    intro readBelow room value part hbelow hread
    obtain ⟨hroom, parts, rfl, hparts⟩ := readPartWith_eq_ok hread
    exact step room value parts hroom (hparts.imp hbelow)

theorem guidance_of_readPart {part : Part} (hread : readPart room value = .ok part) :
    part.guidance =
      if isGuidance value then some (textField? partFields "prose" value) else none := by
  refine readPart_induction (motive := fun _ value part => part.guidance =
    if isGuidance value then some (textField? partFields "prose" value) else none) ?_ hread
  intro room value parts _ _
  rfl

theorem guidanceOf_eq_guidanceIn {items : List Json} {parts : List Part}
    (hread : List.Forall₂ (fun item part => readPart room item = .ok part) items parts) :
    guidanceOf parts = guidanceIn items := by
  induction hread with
  | nil => rfl
  | @cons item part items parts hitem _ ih =>
      unfold guidanceOf guidanceIn at ih ⊢
      have hpart := guidance_of_readPart hitem
      by_cases hguidance : isGuidance item
      · rw [if_pos hguidance] at hpart
        rw [List.find?_cons_of_pos hguidance, List.findSome?_cons, hpart]
        rfl
      · rw [if_neg hguidance] at hpart
        rw [List.find?_cons_of_neg hguidance, List.findSome?_cons, hpart, ih]

/-! ## Controls and groups -/

theorem readControlWith_eq_ok {readBelow : Json → Except Fault (List Control)}
    {forest : List Control} (hread : readControlWith readBelow room value = .ok forest) :
    0 < room ∧ ∃ id parts enhancements, forest = rootOf value id parts :: enhancements.flatten ∧
      textField? controlFields "id" value = some id ∧
      List.Forall₂ (fun item part => readPart (room - 2) item = .ok part)
        (listField controlFields "parts" value) parts ∧
      List.Forall₂ (fun item below => readBelow item = .ok below)
        (listField controlFields "controls" value) enhancements := by
  have hnames : controlFields.Nodup := by decide
  obtain ⟨fields, hslots, hread⟩ := Except.bind_eq_ok_iff.mp hread
  obtain ⟨id, hid, hread⟩ := Except.bind_eq_ok_iff.mp hread
  obtain ⟨props, hprops, hread⟩ := Except.bind_eq_ok_iff.mp hread
  obtain ⟨parts, hparts, hread⟩ := Except.bind_eq_ok_iff.mp hread
  obtain ⟨items, hitems, hread⟩ := Except.bind_eq_ok_iff.mp hread
  obtain ⟨enhancements, henhancements, hread⟩ := Except.bind_eq_ok_iff.mp hread
  obtain rfl := Except.ok.inj hread
  obtain rfl := items_eq_ok hnames hslots rfl hitems
  have hparts := list_eq_ok hnames hslots rfl hparts
  refine ⟨(slots_eq_ok hnames hslots).1, id, parts, enhancements, ?_,
    requiredText_eq_ok hnames hslots rfl hid, hparts, Except.mapM_eq_ok_iff.mp henhancements⟩
  rw [rootOf, ← labelOf_eq_labelIn (list_eq_ok hnames hslots rfl hprops),
    ← guidanceOf_eq_guidanceIn hparts]

theorem readControl_induction {motive : Nat → Json → List Control → Prop}
    (step : ∀ room value id parts enhancements, 0 < room →
      textField? controlFields "id" value = some id →
      List.Forall₂ (fun item part => readPart (room - 2) item = .ok part)
        (listField controlFields "parts" value) parts →
      List.Forall₂ (motive (room - 2)) (listField controlFields "controls" value) enhancements →
        motive room value (rootOf value id parts :: enhancements.flatten))
    {forest : List Control} (hread : readControl room value = .ok forest) :
    motive room value forest := by
  refine read_induction ?few (fun _ _ => rfl) ?step hread
  case few =>
    intro room value hroom
    match room, hroom with
    | 0, _ => rfl
    | 1, _ => rfl
  case step =>
    intro readBelow room value forest hbelow hread
    obtain ⟨hroom, id, parts, enhancements, rfl, hid, hparts, henhancements⟩ :=
      readControlWith_eq_ok hread
    exact step room value id parts enhancements hroom hid hparts (henhancements.imp hbelow)

theorem readGroupWith_eq_ok {readBelow : Json → Except Fault (List Control)}
    {forest : List Control} (hread : readGroupWith readBelow room value = .ok forest) :
    0 < room ∧ ∃ groups controls, forest = groups.flatten ++ controls.flatten ∧
      List.Forall₂ (fun item below => readBelow item = .ok below)
        (listField groupFields "groups" value) groups ∧
      List.Forall₂ (fun item below => readControl (room - 2) item = .ok below)
        (listField groupFields "controls" value) controls := by
  have hnames : groupFields.Nodup := by decide
  obtain ⟨fields, hslots, hread⟩ := Except.bind_eq_ok_iff.mp hread
  obtain ⟨items, hitems, hread⟩ := Except.bind_eq_ok_iff.mp hread
  obtain ⟨groups, hgroups, hread⟩ := Except.bind_eq_ok_iff.mp hread
  obtain ⟨controls, hcontrols, hread⟩ := Except.bind_eq_ok_iff.mp hread
  obtain rfl := Except.ok.inj hread
  obtain rfl := items_eq_ok hnames hslots rfl hitems
  exact ⟨(slots_eq_ok hnames hslots).1, groups, controls, rfl, Except.mapM_eq_ok_iff.mp hgroups,
    list_eq_ok hnames hslots rfl hcontrols⟩

theorem readGroup_induction {motive : Nat → Json → List Control → Prop}
    (step : ∀ room value groups controls, 0 < room →
      List.Forall₂ (motive (room - 2)) (listField groupFields "groups" value) groups →
      List.Forall₂ (fun item below => readControl (room - 2) item = .ok below)
        (listField groupFields "controls" value) controls →
        motive room value (groups.flatten ++ controls.flatten))
    {forest : List Control} (hread : readGroup room value = .ok forest) :
    motive room value forest := by
  refine read_induction ?few (fun _ _ => rfl) ?step hread
  case few =>
    intro room value hroom
    match room, hroom with
    | 0, _ => rfl
    | 1, _ => rfl
  case step =>
    intro readBelow room value forest hbelow hread
    obtain ⟨hroom, groups, controls, rfl, hgroups, hcontrols⟩ := readGroupWith_eq_ok hread
    exact step room value groups controls hroom (hgroups.imp hbelow) hcontrols

theorem readDocument_eq_ok {forest : List Control} (hread : readDocument room value = .ok forest) :
    ∃ catalog, field? ["catalog"] "catalog" value = some catalog ∧
      readGroup (room - 1) catalog = .ok forest := by
  obtain ⟨fields, hslots, hread⟩ := Except.bind_eq_ok_iff.mp hread
  exact required_eq_ok (by simp) hslots rfl hread

end Compliance.Catalog
