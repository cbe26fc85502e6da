import Compliance.Json.Record
import Compliance.Proofs.Except
import Mathlib.Data.List.Nodup

/-!
# Fields of records

Whether a record is an object or an array makes a difference only for where its
fields stand.  `field?` looks a field up in either form, and a record that can be
read has exactly these fields (`slots_eq_ok`).  From there on the reading of a
field says what value stands in it.
-/

namespace Compliance.Json

variable {α : Type} {names : List String} {room inner place : Nat} {name : String}
  {value : Json} {fields : Slots}

/-- The field of a record with one of its names: the member of an object, or the item of an array
at the place of the name. -/
def field? (names : List String) (name : String) : Json → Option Json
  | .object members => (members.find? fun entry => entry.1 = some name).map (·.2)
  | .array items => items[names.idxOf name]?
  | _ => none

/-- The items of the list that is a field of a record; none if there is no such list. -/
def listField (names : List String) (name : String) (value : Json) : List Json :=
  match field? names name value with
  | some (.array items) => items
  | _ => []

/-- The text that is a field of a record; none if there is no such text. -/
def textField? (names : List String) (name : String) (value : Json) : Option String :=
  match field? names name value with
  | some (.string content) => content
  | _ => none

theorem textField?_eq_some_iff {content : String} :
    textField? names name value = some content ↔
      field? names name value = some (.text content) := by
  unfold textField?
  split
  · rename_i found hfield
    rw [hfield, Option.some.injEq, text, string.injEq]
  · rename_i hother
    constructor
    · intro hnone
      cases hnone
    · intro hfield
      exact absurd hfield (hother _)

/-! ## Values that are read -/

@[simp] theorem readText_text (content : String) :
    readText room (.text content) = .ok content := rfl

theorem readText_eq_ok_iff {content : String} :
    readText room value = .ok content ↔ value = .text content := by
  cases value with
  | string found => cases found <;> simp [readText, text, eq_comm]
  | _ => simp [readText, text]

theorem readOptional_readText_eq_some_iff {content : String} :
    readOptional readText room value = .ok (some content) ↔ value = .text content := by
  unfold readOptional
  split
  · simp [text]
  · cases hread : readText room value with
    | error fault =>
        have hne : ¬ value = .text content := fun heq => by
          rw [readText_eq_ok_iff.mpr heq] at hread
          cases hread
        simp [Except.map, hne]
    | ok found =>
        obtain rfl := readText_eq_ok_iff.mp hread
        simp [Except.map, text]

theorem readList_eq_ok_iff {read : Reader α} {results : List α} :
    readList read room value = .ok results ↔
      0 < room ∧ ∃ items, value = .array items ∧
        List.Forall₂ (fun item result => read (room - 1) item = .ok result) items results := by
  rw [readList, Except.bind_eq_ok_iff]
  simp only [Except.mapM_eq_ok_iff]
  unfold itemsWithin
  cases value with
  | array items =>
      by_cases hroom : room = 0
      · simp [hroom]
      · simp [hroom, Nat.pos_of_ne_zero hroom]
  | _ => simp

/-! ## The fields that are there -/

/-- The only member with a name is the first one. -/
theorem onlyMember_eq_ok {members : List (Option String × Json)} {found : Option Json}
    (honly : onlyMember name members = .ok found) :
    found = (members.find? fun entry => entry.1 = some name).map (·.2) := by
  rw [← List.head?_filter]
  unfold onlyMember at honly
  split at honly
  · rename_i hfilter
    rw [hfilter]
    exact (Except.ok.inj honly).symm
  · rename_i entry hfilter
    rw [hfilter]
    exact (Except.ok.inj honly).symm
  · cases honly

/-- A record has the fields that are looked up. -/
theorem slots_eq_ok (hnames : names.Nodup) (hslots : slots names room value = .ok fields) :
    0 < room ∧ fields = names.map fun name => field? names name value := by
  unfold slots at hslots
  split at hslots
  · rename_i members
    split at hslots
    · cases hslots
    · rename_i hroom
      split at hslots
      · cases hslots
      · refine ⟨Nat.pos_of_ne_zero hroom, ?_⟩
        have hfields : fields =
            names.map fun name => (members.find? fun entry => entry.1 = some name).map (·.2) := by
          have hfound := Except.mapM_eq_ok_iff.mp hslots
          clear hslots hnames
          induction hfound with
          | nil => rfl
          | cons hhead _ ih => rw [List.map_cons, ← ih, onlyMember_eq_ok hhead]
        exact hfields
  · rename_i items
    split at hslots
    · cases hslots
    · rename_i hroom
      split at hslots
      · cases hslots
      · rename_i hlength
        obtain rfl := Except.ok.inj hslots
        refine ⟨Nat.pos_of_ne_zero hroom, List.ext_getElem (by simp; omega) ?_⟩
        intro place hplace hname
        have hname : place < names.length := by simpa using hname
        -- the name at a place stands at no other place
        rw [List.getElem_map, field?, List.Nodup.idxOf_getElem hnames place hname,
          List.getElem_append]
        split
        · rename_i hitem
          rw [List.getElem_map, List.getElem?_eq_getElem]
        · rename_i hitem
          rw [List.getElem_replicate, List.getElem?_eq_none (by simpa using hitem)]
  · cases hslots

/-- The field at the place of a name. -/
theorem slots_getElem? (hnames : names.Nodup) (hslots : slots names room value = .ok fields)
    (hplace : names[place]? = some name) : fields[place]? = some (field? names name value) := by
  rw [(slots_eq_ok hnames hslots).2, List.getElem?_map, hplace, Option.map_some]

theorem required_eq_ok (hnames : names.Nodup) (hslots : slots names room value = .ok fields)
    (hplace : names[place]? = some name) {read : Reader α} {result : α}
    (hread : fields.required place name read inner = .ok result) :
    ∃ content, field? names name value = some content ∧ read inner content = .ok result := by
  unfold Slots.required at hread
  rw [slots_getElem? hnames hslots hplace] at hread
  split at hread
  · rename_i content hcontent
    exact ⟨content, Option.some.inj hcontent, hread⟩
  · cases hread

theorem withDefault_eq_ok (hnames : names.Nodup) (hslots : slots names room value = .ok fields)
    (hplace : names[place]? = some name) {read : Reader α} {default result : α}
    (hread : fields.withDefault place default read inner = .ok result) :
    (field? names name value = none ∧ result = default) ∨
      ∃ content, field? names name value = some content ∧ read inner content = .ok result := by
  unfold Slots.withDefault at hread
  rw [slots_getElem? hnames hslots hplace] at hread
  split at hread
  · rename_i content hcontent
    exact .inr ⟨content, Option.some.inj hcontent, hread⟩
  · rename_i hnone
    refine .inl ⟨?_, (Except.ok.inj hread).symm⟩
    cases hfield : field? names name value with
    | none => rfl
    | some content => exact absurd (congrArg some hfield) (hnone content)

/-- A text that may be missing is there exactly when it is read. -/
theorem optionalText_eq_ok (hnames : names.Nodup) (hslots : slots names room value = .ok fields)
    (hplace : names[place]? = some name) {result : Option String}
    (hread : fields.withDefault place none (readOptional readText) inner = .ok result)
    (content : String) :
    result = some content ↔ field? names name value = some (.text content) := by
  rcases withDefault_eq_ok hnames hslots hplace hread with ⟨hnone, rfl⟩ | ⟨found, hfound, hresult⟩
  · simp [hnone]
  · rw [hfound, Option.some.injEq, ← @readOptional_readText_eq_some_iff inner, hresult,
      Except.ok.injEq]

theorem optionalText_eq_textField? (hnames : names.Nodup)
    (hslots : slots names room value = .ok fields) (hplace : names[place]? = some name)
    {result : Option String}
    (hread : fields.withDefault place none (readOptional readText) inner = .ok result) :
    result = textField? names name value := by
  ext content
  rw [optionalText_eq_ok hnames hslots hplace hread, textField?_eq_some_iff]

theorem requiredText_eq_ok (hnames : names.Nodup) (hslots : slots names room value = .ok fields)
    (hplace : names[place]? = some name) {result : String}
    (hread : fields.required place name readText inner = .ok result) :
    textField? names name value = some result := by
  obtain ⟨content, hfield, hcontent⟩ := required_eq_ok hnames hslots hplace hread
  obtain rfl := readText_eq_ok_iff.mp hcontent
  exact textField?_eq_some_iff.mpr hfield

/-- The items of a list that may be missing. -/
theorem items_eq_ok (hnames : names.Nodup) (hslots : slots names room value = .ok fields)
    (hplace : names[place]? = some name) {items : List Json}
    (hitems : fields.items place inner = .ok items) : items = listField names name value := by
  unfold listField
  rcases withDefault_eq_ok hnames hslots hplace hitems with ⟨hnone, rfl⟩ | ⟨found, hfound, hwithin⟩
  · rw [hnone]
  · unfold itemsWithin at hwithin
    rw [hfound]
    split at hwithin
    · split at hwithin
      · cases hwithin
      · exact (Except.ok.inj hwithin).symm
    · cases hwithin

/-- The items of a list that may be missing are read one by one. -/
theorem list_eq_ok (hnames : names.Nodup) (hslots : slots names room value = .ok fields)
    (hplace : names[place]? = some name) {read : Reader α} {results : List α}
    (hread : fields.withDefault place [] (readList read) inner = .ok results) :
    List.Forall₂ (fun item result => read (inner - 1) item = .ok result)
      (listField names name value) results := by
  unfold listField
  rcases withDefault_eq_ok hnames hslots hplace hread with ⟨hnone, rfl⟩ | ⟨found, hfound, hresults⟩
  · rw [hnone]
    exact .nil
  · obtain ⟨-, items, rfl, hitems⟩ := readList_eq_ok_iff.mp hresults
    rw [hfound]
    exact hitems

/-! ## Fields that were written -/

/-- The members of an object for fields of which some are missing. -/
def present (entries : List (String × Option Json)) : List (Option String × Json) :=
  entries.filterMap fun entry => entry.2.map (member entry.1)

theorem present_append (first second : List (String × Option Json)) :
    present (first ++ second) = present first ++ present second :=
  List.filterMap_append

/-- There is no member with the name of no field. -/
theorem filter_present_eq_nil {entries : List (String × Option Json)}
    (hname : name ∉ entries.map (·.1)) :
    (present entries).filter (fun entry => entry.1 = some name) = [] := by
  refine List.filter_eq_nil_iff.mpr fun entry hmem => ?_
  obtain ⟨⟨other, content⟩, hother, hentry⟩ := List.mem_filterMap.mp hmem
  obtain ⟨found, -, rfl⟩ := Option.map_eq_some_iff.mp hentry
  have hne : other ≠ name := by
    rintro rfl
    exact hname (List.mem_map_of_mem hother)
  simpa [member] using hne

/-- The only member with the name of a field is the field. -/
theorem onlyMember_present {entries : List (String × Option Json)} {content : Option Json}
    (hnames : (entries.map (·.1)).Nodup) (hmem : (name, content) ∈ entries) :
    onlyMember name (present entries) = .ok content := by
  obtain ⟨before, after, rfl⟩ := List.append_of_mem hmem
  rw [List.map_append, List.map_cons, List.nodup_middle, List.nodup_cons, List.mem_append,
    not_or] at hnames
  obtain ⟨⟨hbefore, hafter⟩, -⟩ := hnames
  have hfilter : (present (before ++ (name, content) :: after)).filter
      (fun entry => entry.1 = some name) = (content.map (member name)).toList := by
    rw [← List.singleton_append, present_append, present_append, List.filter_append,
      List.filter_append, filter_present_eq_nil hbefore, filter_present_eq_nil hafter]
    cases content <;> simp [present, member]
  unfold onlyMember
  rw [hfilter]
  cases content <;> rfl

/-- An object has the fields that it was written with. -/
theorem slots_present {members : List (Option String × Json)} {contents : List (Option Json)}
    (hmembers : members = present (names.zip contents)) (hnames : names.Nodup)
    (hlength : names.length = contents.length) (hroom : 0 < room) :
    slots names room (.object members) = .ok contents := by
  have hkeys : (names.zip contents).map (·.1) = names :=
    List.map_fst_zip (Nat.le_of_eq hlength)
  have hnamed : ¬ (present (names.zip contents)).any fun entry => entry.1.isNone := by
    simp only [present, List.any_filterMap, List.any_eq_true, not_exists, not_and]
    rintro ⟨name, content⟩ -
    cases content <;> simp [member]
  have hfields : names.mapM (fun name => onlyMember name (present (names.zip contents))) =
      .ok contents := by
    rw [← hkeys] at hnames
    rw [Except.mapM_eq_ok_iff, List.forall₂_iff_zip]
    exact ⟨hlength, fun hmem => onlyMember_present hnames hmem⟩
  simp only [slots, hmembers]
  rw [if_neg (Nat.ne_of_gt hroom), if_neg hnamed]
  exact hfields

/-- A list is read if its items are. -/
theorem readList_map {read : Reader α} {write : α → Json} {items : List α} (hroom : 0 < room)
    (hitems : ∀ item ∈ items, read (room - 1) (write item) = .ok item) :
    readList read room (.array (items.map write)) = .ok items := by
  refine readList_eq_ok_iff.mpr ⟨hroom, items.map write, rfl, ?_⟩
  rw [List.forall₂_map_left_iff]
  exact List.forall₂_same.mpr hitems

end Compliance.Json
