import Compliance.Json.Reader
import Compliance.Proofs.Catalog.Records

/-!
# The form of catalogue documents

Which documents can be read as a catalogue is a matter of their form alone: what stands in the
fields that are looked at, whatever else there is.  A part may have parts in it, a control may have
enhancements and a group may have groups, and each of these has the form of a part, a control or
a group again (`Throughout`).

The reader also counts levels of nesting.  It counts fewer than there are in a document that is
kept, so for these the form decides (`exists_readDocument_iff`).
-/

namespace Compliance.Json

/-! ## Records and fields -/

/-- A value can be taken for a record: an object in which none of the names stands twice, or an
array with at most as many items as there are names. -/
inductive IsRecord (names : List String) : Json → Prop
  | object {members : List (Option String × Json)}
      (honce : ∀ name ∈ names, (members.filter fun entry => entry.1 = some name).length ≤ 1) :
      IsRecord names (.object members)
  | array {items : List Json} (hlength : items.length ≤ names.length) :
      IsRecord names (.array items)

def IsText (value : Json) : Prop := ∃ content, value = .text content

def IsTextOrNull (value : Json) : Prop := value = .null ∨ IsText value

def IsArray (value : Json) : Prop := ∃ items, value = .array items

/-- An array of items of one form. -/
def IsListOf (form : Json → Prop) (value : Json) : Prop :=
  ∃ items, value = .array items ∧ ∀ item ∈ items, form item

/-- A field is there and has a form. -/
def HasField (form : Json → Prop) (names : List String) (name : String) (value : Json) : Prop :=
  ∃ content, field? names name value = some content ∧ form content

/-- A field has a form if it is there. -/
def MayHaveField (form : Json → Prop) (names : List String) (name : String) (value : Json) : Prop :=
  ∀ content, field? names name value = some content → form content

variable {α : Type} {names : List String} {room inner place : Nat} {name : String} {value : Json}

/-! ## What is kept of a value that is kept -/

theorem isKeepable_field {content : Json} (hkept : isKeepable room value = true)
    (hfield : field? names name value = some content) : isKeepable (room - 1) content = true := by
  cases value with
  | object members =>
      obtain ⟨entry, hentry, rfl⟩ := Option.map_eq_some_iff.mp hfield
      cases room with
      | zero => cases hkept
      | succ room =>
          rw [isKeepable, List.all_eq_true] at hkept
          exact (Bool.and_eq_true_iff.mp (hkept entry (List.mem_of_find?_eq_some hentry))).2
  | array items =>
      cases room with
      | zero => cases hkept
      | succ room =>
          rw [isKeepable, List.all_eq_true] at hkept
          exact hkept content (List.mem_of_getElem? hfield)
  | _ => cases hfield

theorem isKeepable_listField {item : Json} (hkept : isKeepable room value = true)
    (hitem : item ∈ listField names name value) :
    2 ≤ room ∧ isKeepable (room - 2) item = true := by
  unfold listField at hitem
  split at hitem
  · rename_i items hfield
    have hitems := isKeepable_field hkept hfield
    obtain _ | _ | room := room
    · cases hitems
    · cases hitems
    · rw [show room + 1 + 1 - 1 = room + 1 by omega, isKeepable, List.all_eq_true] at hitems
      exact ⟨by omega, hitems item hitem⟩
  · cases hitem

/-! ## Reading by form -/

theorem exists_onlyMember_iff {members : List (Option String × Json)} :
    (∃ found, onlyMember name members = .ok found) ↔
      (members.filter fun entry => entry.1 = some name).length ≤ 1 := by
  unfold onlyMember
  split
  · rename_i hfilter
    simp [hfilter]
  · rename_i entry hfilter
    simp [hfilter]
  · rename_i hnil hone
    refine iff_of_false (by simp) fun hlength => ?_
    rcases Nat.le_one_iff_eq_zero_or_eq_one.mp hlength with hlength | hlength
    · exact hnil (List.length_eq_zero_iff.mp hlength)
    · obtain ⟨entry, hentry⟩ := List.length_eq_one_iff.mp hlength
      exact hone entry hentry

/-- A record that is kept is read, whatever stands in its fields. -/
theorem exists_slots_iff (hkept : isKeepable room value = true) :
    (∃ fields, slots names room value = .ok fields) ↔ IsRecord names value := by
  have hform : IsRecord names value ↔
      (∃ members, value = .object members ∧
        ∀ name ∈ names, (members.filter fun entry => entry.1 = some name).length ≤ 1) ∨
      ∃ items, value = .array items ∧ items.length ≤ names.length := by
    constructor
    · rintro (honce | hlength)
      · exact .inl ⟨_, rfl, honce⟩
      · exact .inr ⟨_, rfl, hlength⟩
    · rintro (⟨members, rfl, honce⟩ | ⟨items, rfl, hlength⟩)
      · exact .object honce
      · exact .array hlength
  rw [hform]
  unfold slots
  cases value with
  | object members =>
      cases room with
      | zero => cases hkept
      | succ room =>
          rw [isKeepable, List.all_eq_true] at hkept
          have hnamed : ¬ members.any fun entry => entry.1.isNone := by
            rw [List.any_eq_true]
            rintro ⟨entry, hentry, hnone⟩
            have hsome := (Bool.and_eq_true_iff.mp (hkept entry hentry)).1
            rw [Option.isNone_iff_eq_none] at hnone
            rw [hnone] at hsome
            cases hsome
          simp [hnamed, Except.exists_mapM_eq_ok_iff, exists_onlyMember_iff]
  | array items =>
      cases room with
      | zero => cases hkept
      | succ room =>
          by_cases hlength : names.length < items.length
          · simp [hlength]
          · simp [hlength, Nat.le_of_not_lt hlength]
  | _ => simp

theorem exists_readText_iff : (∃ content, readText room value = .ok content) ↔ IsText value := by
  simp only [readText_eq_ok_iff, IsText]

theorem exists_readOptional_readText_iff :
    (∃ content, readOptional readText room value = .ok content) ↔ IsTextOrNull value := by
  unfold readOptional
  split
  · simp [IsTextOrNull]
  · rename_i hnull
    have htext : (∃ content, readText room value = .ok content) ↔ IsText value :=
      exists_readText_iff
    rw [IsTextOrNull, or_iff_right hnull, ← htext]
    cases readText room value <;> simp [Except.map]

theorem exists_itemsWithin_iff (hkept : isKeepable room value = true) :
    (∃ items, itemsWithin room value = .ok items) ↔ IsArray value := by
  unfold IsArray
  cases value with
  | array items =>
      cases room with
      | zero => cases hkept
      | succ room => simp [itemsWithin]
  | _ => simp [itemsWithin]

theorem exists_readList_iff {read : Reader α} {form : Json → Prop}
    (hkept : isKeepable room value = true)
    (hread : ∀ item, isKeepable (room - 1) item = true →
      ((∃ result, read (room - 1) item = .ok result) ↔ form item)) :
    (∃ results, readList read room value = .ok results) ↔ IsListOf form value := by
  unfold IsListOf
  cases value with
  | array items =>
      cases room with
      | zero => cases hkept
      | succ room =>
          rw [isKeepable, List.all_eq_true] at hkept
          have hitems : readList read (room + 1) (.array items) = items.mapM (read room) := rfl
          rw [hitems, Except.exists_mapM_eq_ok_iff]
          simp only [array.injEq, exists_eq_left']
          exact forall₂_congr fun item hitem => hread item (hkept item hitem)
  | _ => exact iff_of_false (by rintro ⟨_, hresult⟩; cases hresult) (by simp)

section

variable {fields : Slots} {form : Json → Prop} {read : Reader α}

theorem exists_required_iff (hnames : names.Nodup) (hslots : slots names room value = .ok fields)
    (hplace : names[place]? = some name) (hkept : isKeepable room value = true)
    (hread : ∀ content, isKeepable (room - 1) content = true →
      ((∃ result, read (room - 1) content = .ok result) ↔ form content)) :
    (∃ result, fields.required place name read (room - 1) = .ok result) ↔
      HasField form names name value := by
  unfold Slots.required HasField
  rw [slots_getElem? hnames hslots hplace]
  cases hfield : field? names name value with
  | none => simp
  | some content => simp [hread content (isKeepable_field hkept hfield)]

theorem exists_withDefault_iff {default : α} (hnames : names.Nodup)
    (hslots : slots names room value = .ok fields) (hplace : names[place]? = some name)
    (hkept : isKeepable room value = true)
    (hread : ∀ content, isKeepable (room - 1) content = true →
      ((∃ result, read (room - 1) content = .ok result) ↔ form content)) :
    (∃ result, fields.withDefault place default read (room - 1) = .ok result) ↔
      MayHaveField form names name value := by
  unfold Slots.withDefault MayHaveField
  rw [slots_getElem? hnames hslots hplace]
  cases hfield : field? names name value with
  | none => simp
  | some content => simp [hread content (isKeepable_field hkept hfield)]

theorem exists_requiredText_iff (hnames : names.Nodup)
    (hslots : slots names room value = .ok fields) (hplace : names[place]? = some name)
    (hkept : isKeepable room value = true) :
    (∃ content, fields.required place name readText (room - 1) = .ok content) ↔
      HasField IsText names name value :=
  exists_required_iff hnames hslots hplace hkept fun _ _ => exists_readText_iff

theorem exists_optionalText_iff (hnames : names.Nodup)
    (hslots : slots names room value = .ok fields) (hplace : names[place]? = some name)
    (hkept : isKeepable room value = true) :
    (∃ content, fields.withDefault place none (readOptional readText) (room - 1) = .ok content) ↔
      MayHaveField IsTextOrNull names name value :=
  exists_withDefault_iff hnames hslots hplace hkept fun _ _ => exists_readOptional_readText_iff

theorem exists_items_iff (hnames : names.Nodup) (hslots : slots names room value = .ok fields)
    (hplace : names[place]? = some name) (hkept : isKeepable room value = true) :
    (∃ items, fields.items place (room - 1) = .ok items) ↔ MayHaveField IsArray names name value :=
  exists_withDefault_iff hnames hslots hplace hkept fun _ => exists_itemsWithin_iff

theorem exists_list_iff (hnames : names.Nodup) (hslots : slots names room value = .ok fields)
    (hplace : names[place]? = some name) (hkept : isKeepable room value = true)
    (hread : ∀ item, isKeepable (room - 2) item = true →
      ((∃ result, read (room - 2) item = .ok result) ↔ form item)) :
    (∃ results, fields.withDefault place [] (readList read) (room - 1) = .ok results) ↔
      MayHaveField (IsListOf form) names name value :=
  exists_withDefault_iff hnames hslots hplace hkept fun _ hcontent =>
    exists_readList_iff hcontent hread

end

end Compliance.Json

namespace Compliance.Catalog

open Compliance.Json

/-! ## The records of a catalogue -/

/-- A value and all that is below it has some form. -/
inductive Throughout (form : Json → Prop) (below : Json → List Json) : Json → Prop
  | intro {value : Json} (hform : form value)
      (hbelow : ∀ item ∈ below value, Throughout form below item) : Throughout form below value

structure IsPropRecord (prop : Json) : Prop where
  record : IsRecord propFields prop
  name : HasField IsText propFields "name" prop
  value : HasField IsText propFields "value" prop

/-- The form of a part, but for the parts in it. -/
structure IsPartRecord (part : Json) : Prop where
  record : IsRecord partFields part
  id : MayHaveField IsTextOrNull partFields "id" part
  name : MayHaveField IsTextOrNull partFields "name" part
  props : MayHaveField (IsListOf IsPropRecord) partFields "props" part
  prose : MayHaveField IsTextOrNull partFields "prose" part
  parts : MayHaveField IsArray partFields "parts" part

/-- Parts, in which there may be other parts. -/
abbrev IsPart : Json → Prop := Throughout IsPartRecord (listField partFields "parts")

/-- The form of a control, but for its enhancements. -/
structure IsControlRecord (control : Json) : Prop where
  record : IsRecord controlFields control
  id : HasField IsText controlFields "id" control
  props : MayHaveField (IsListOf IsPropRecord) controlFields "props" control
  parts : MayHaveField (IsListOf IsPart) controlFields "parts" control
  controls : MayHaveField IsArray controlFields "controls" control

/-- Controls, whose enhancements are controls too. -/
abbrev IsControl : Json → Prop := Throughout IsControlRecord (listField controlFields "controls")

/-- The form of a group, but for the groups in it. -/
structure IsGroupRecord (group : Json) : Prop where
  record : IsRecord groupFields group
  groups : MayHaveField IsArray groupFields "groups" group
  controls : MayHaveField (IsListOf IsControl) groupFields "controls" group

/-- Groups, in which there may be other groups. -/
abbrev IsGroup : Json → Prop := Throughout IsGroupRecord (listField groupFields "groups")

/-- The form of a document with a catalogue, which is like a group. -/
structure IsDocumentRecord (document : Json) : Prop where
  record : IsRecord ["catalog"] document
  catalog : HasField IsGroup ["catalog"] "catalog" document

/-! ## Reading by form -/

variable {room : Nat} {value : Json}

/-- A reader that goes into the records below a record succeeds if these all have the form. -/
theorem exists_read_iff_throughout {α : Type} {read : Reader α}
    {readWith : (Json → Except Fault α) → Reader α} {form : Json → Prop} {below : Json → List Json}
    (zero : ∀ value, read 0 value = readWith (fun _ => .error .tooDeep) 0 value)
    (one : ∀ value, read 1 value = readWith (fun _ => .error .tooDeep) 1 value)
    (more : ∀ room value, read (room + 2) value = readWith (read room) (room + 2) value)
    (hbelow : ∀ room value, isKeepable room value = true → ∀ item ∈ below value,
      2 ≤ room ∧ isKeepable (room - 2) item = true)
    (step : ∀ readBelow room value, isKeepable room value = true →
      ((∃ result, readWith readBelow room value = .ok result) ↔
        form value ∧ ∀ item ∈ below value, ∃ result, readBelow item = .ok result))
    (hkept : isKeepable room value = true) :
    (∃ result, read room value = .ok result) ↔ Throughout form below value := by
  -- with less than two levels left there is nothing below the value
  have hfew : ∀ room value, room < 2 → isKeepable room value = true →
      read room value = readWith (fun _ => .error .tooDeep) room value →
      ((∃ result, read room value = .ok result) ↔ Throughout form below value) := by
    intro room value hroom hkept hread
    have hnone : ∀ item, item ∉ below value := fun item hitem => by
      have := (hbelow room value hkept item hitem).1
      omega
    rw [hread, step _ room value hkept]
    constructor
    · exact fun hvalue => ⟨hvalue.1, fun item hitem => absurd hitem (hnone item)⟩
    · rintro ⟨hform, -⟩
      exact ⟨hform, fun item hitem => absurd hitem (hnone item)⟩
  induction room using Nat.twoStepInduction generalizing value with
  | zero => exact hfew 0 value (by omega) hkept (zero value)
  | one => exact hfew 1 value (by omega) hkept (one value)
  | more room ih _ =>
      have hitems : ∀ item ∈ below value,
          ((∃ result, read room item = .ok result) ↔ Throughout form below item) :=
        fun item hitem => ih (hbelow _ value hkept item hitem).2
      rw [more, step _ _ value hkept]
      constructor
      · exact fun ⟨hform, hread⟩ =>
          ⟨hform, fun item hitem => (hitems item hitem).mp (hread item hitem)⟩
      · rintro ⟨hform, hthroughout⟩
        exact ⟨hform, fun item hitem => (hitems item hitem).mpr (hthroughout item hitem)⟩

theorem exists_readProp_iff (hkept : isKeepable room value = true) :
    (∃ prop, readProp room value = .ok prop) ↔ IsPropRecord value := by
  have hnames : propFields.Nodup := by decide
  have hread : (∃ prop, readProp room value = .ok prop) ↔ IsRecord propFields value ∧
      HasField IsText propFields "name" value ∧ HasField IsText propFields "value" value := by
    refine Except.exists_bind_eq_ok_iff (exists_slots_iff hkept) fun fields hslots => ?_
    refine Except.exists_bind_eq_ok_iff (exists_requiredText_iff hnames hslots rfl hkept)
      fun _ _ => ?_
    exact Except.exists_bind_pure_eq_ok_iff (exists_requiredText_iff hnames hslots rfl hkept)
  exact hread.trans ⟨fun ⟨hrecord, hname, hvalue⟩ => ⟨hrecord, hname, hvalue⟩,
    fun ⟨hrecord, hname, hvalue⟩ => ⟨hrecord, hname, hvalue⟩⟩

theorem exists_readPartWith_iff {readBelow : Json → Except Fault Part}
    (hkept : isKeepable room value = true) :
    (∃ part, readPartWith readBelow room value = .ok part) ↔ IsPartRecord value ∧
      ∀ item ∈ listField partFields "parts" value, ∃ part, readBelow item = .ok part := by
  have hnames : partFields.Nodup := by decide
  have hread : (∃ part, readPartWith readBelow room value = .ok part) ↔
      IsRecord partFields value ∧ MayHaveField IsTextOrNull partFields "id" value ∧
      MayHaveField IsTextOrNull partFields "name" value ∧
      MayHaveField (IsListOf IsPropRecord) partFields "props" value ∧
      MayHaveField IsTextOrNull partFields "prose" value ∧
      MayHaveField IsArray partFields "parts" value ∧
      (∀ item ∈ listField partFields "parts" value, ∃ part, readBelow item = .ok part) := by
    refine Except.exists_bind_eq_ok_iff (exists_slots_iff hkept) fun fields hslots => ?_
    refine Except.exists_bind_eq_ok_iff (exists_optionalText_iff hnames hslots rfl hkept)
      fun _ _ => ?_
    refine Except.exists_bind_eq_ok_iff (exists_optionalText_iff hnames hslots rfl hkept)
      fun _ _ => ?_
    refine Except.exists_bind_eq_ok_iff
      (exists_list_iff hnames hslots rfl hkept fun _ => exists_readProp_iff) fun _ _ => ?_
    refine Except.exists_bind_eq_ok_iff (exists_optionalText_iff hnames hslots rfl hkept)
      fun _ _ => ?_
    refine Except.exists_bind_eq_ok_iff (exists_items_iff hnames hslots rfl hkept)
      fun items hitems => ?_
    obtain rfl := items_eq_ok hnames hslots rfl hitems
    exact Except.exists_bind_pure_eq_ok_iff Except.exists_mapM_eq_ok_iff
  refine hread.trans ⟨?_, ?_⟩
  · rintro ⟨hrecord, hid, hname, hprops, hprose, hparts, hbelow⟩
    exact ⟨⟨hrecord, hid, hname, hprops, hprose, hparts⟩, hbelow⟩
  · rintro ⟨⟨hrecord, hid, hname, hprops, hprose, hparts⟩, hbelow⟩
    exact ⟨hrecord, hid, hname, hprops, hprose, hparts, hbelow⟩

theorem exists_readPart_iff (hkept : isKeepable room value = true) :
    (∃ part, readPart room value = .ok part) ↔ IsPart value :=
  exists_read_iff_throughout (fun _ => rfl) (fun _ => rfl) (fun _ _ => rfl)
    (fun _ _ hkept _ => isKeepable_listField hkept) (fun _ _ _ => exists_readPartWith_iff) hkept

theorem exists_readControlWith_iff {readBelow : Json → Except Fault (List Control)}
    (hkept : isKeepable room value = true) :
    (∃ forest, readControlWith readBelow room value = .ok forest) ↔ IsControlRecord value ∧
      ∀ item ∈ listField controlFields "controls" value, ∃ forest, readBelow item = .ok forest := by
  have hnames : controlFields.Nodup := by decide
  have hread : (∃ forest, readControlWith readBelow room value = .ok forest) ↔
      IsRecord controlFields value ∧ HasField IsText controlFields "id" value ∧
      MayHaveField (IsListOf IsPropRecord) controlFields "props" value ∧
      MayHaveField (IsListOf IsPart) controlFields "parts" value ∧
      MayHaveField IsArray controlFields "controls" value ∧
      (∀ item ∈ listField controlFields "controls" value,
        ∃ forest, readBelow item = .ok forest) := by
    refine Except.exists_bind_eq_ok_iff (exists_slots_iff hkept) fun fields hslots => ?_
    refine Except.exists_bind_eq_ok_iff (exists_requiredText_iff hnames hslots rfl hkept)
      fun _ _ => ?_
    refine Except.exists_bind_eq_ok_iff
      (exists_list_iff hnames hslots rfl hkept fun _ => exists_readProp_iff) fun _ _ => ?_
    refine Except.exists_bind_eq_ok_iff
      (exists_list_iff hnames hslots rfl hkept fun _ => exists_readPart_iff) fun _ _ => ?_
    refine Except.exists_bind_eq_ok_iff (exists_items_iff hnames hslots rfl hkept)
      fun items hitems => ?_
    obtain rfl := items_eq_ok hnames hslots rfl hitems
    exact Except.exists_bind_pure_eq_ok_iff Except.exists_mapM_eq_ok_iff
  refine hread.trans ⟨?_, ?_⟩
  · rintro ⟨hrecord, hid, hprops, hparts, hcontrols, hbelow⟩
    exact ⟨⟨hrecord, hid, hprops, hparts, hcontrols⟩, hbelow⟩
  · rintro ⟨⟨hrecord, hid, hprops, hparts, hcontrols⟩, hbelow⟩
    exact ⟨hrecord, hid, hprops, hparts, hcontrols, hbelow⟩

theorem exists_readControl_iff (hkept : isKeepable room value = true) :
    (∃ forest, readControl room value = .ok forest) ↔ IsControl value :=
  exists_read_iff_throughout (fun _ => rfl) (fun _ => rfl) (fun _ _ => rfl)
    (fun _ _ hkept _ => isKeepable_listField hkept) (fun _ _ _ => exists_readControlWith_iff) hkept

theorem exists_readGroupWith_iff {readBelow : Json → Except Fault (List Control)}
    (hkept : isKeepable room value = true) :
    (∃ forest, readGroupWith readBelow room value = .ok forest) ↔ IsGroupRecord value ∧
      ∀ item ∈ listField groupFields "groups" value, ∃ forest, readBelow item = .ok forest := by
  have hnames : groupFields.Nodup := by decide
  have hread : (∃ forest, readGroupWith readBelow room value = .ok forest) ↔
      IsRecord groupFields value ∧ MayHaveField IsArray groupFields "groups" value ∧
      (∀ item ∈ listField groupFields "groups" value, ∃ forest, readBelow item = .ok forest) ∧
      MayHaveField (IsListOf IsControl) groupFields "controls" value := by
    refine Except.exists_bind_eq_ok_iff (exists_slots_iff hkept) fun fields hslots => ?_
    refine Except.exists_bind_eq_ok_iff (exists_items_iff hnames hslots rfl hkept)
      fun items hitems => ?_
    obtain rfl := items_eq_ok hnames hslots rfl hitems
    refine Except.exists_bind_eq_ok_iff Except.exists_mapM_eq_ok_iff fun _ _ => ?_
    exact Except.exists_bind_pure_eq_ok_iff
      (exists_list_iff hnames hslots rfl hkept fun _ => exists_readControl_iff)
  refine hread.trans ⟨?_, ?_⟩
  · rintro ⟨hrecord, hgroups, hbelow, hcontrols⟩
    exact ⟨⟨hrecord, hgroups, hcontrols⟩, hbelow⟩
  · rintro ⟨⟨hrecord, hgroups, hcontrols⟩, hbelow⟩
    exact ⟨hrecord, hgroups, hbelow, hcontrols⟩

theorem exists_readGroup_iff (hkept : isKeepable room value = true) :
    (∃ forest, readGroup room value = .ok forest) ↔ IsGroup value :=
  exists_read_iff_throughout (fun _ => rfl) (fun _ => rfl) (fun _ _ => rfl)
    (fun _ _ hkept _ => isKeepable_listField hkept) (fun _ _ _ => exists_readGroupWith_iff) hkept

/-- A document that is kept is read as a catalogue exactly if it has the form of one. -/
theorem exists_readDocument_iff (hkept : isKeepable room value = true) :
    (∃ controls, readDocument room value = .ok controls) ↔ IsDocumentRecord value := by
  have hread : (∃ controls, readDocument room value = .ok controls) ↔
      IsRecord ["catalog"] value ∧ HasField IsGroup ["catalog"] "catalog" value := by
    refine Except.exists_bind_eq_ok_iff (exists_slots_iff hkept) fun fields hslots => ?_
    exact exists_required_iff (List.nodup_singleton _) hslots rfl hkept fun _ =>
      exists_readGroup_iff
  exact hread.trans ⟨fun ⟨hrecord, hcatalog⟩ => ⟨hrecord, hcatalog⟩,
    fun ⟨hrecord, hcatalog⟩ => ⟨hrecord, hcatalog⟩⟩

end Compliance.Catalog
