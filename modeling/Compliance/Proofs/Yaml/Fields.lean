import Compliance.Proofs.Except
import Compliance.Proofs.Yaml.Entries
import Compliance.Yaml.Value.Record

/-!
# Fields of records

The fields of a record are the entries of a mapping whose keys are texts, in their order
(`fields_eq_ok_iff`).  When a value is stored under the name of a field that stands only once,
this field has the value (`fieldOr_restated_self`), and all others are as they were
(`fieldOr_restated`).
-/

namespace Compliance.Yaml.Value

open List

section

variable {name : String} {value : Value} {entries : Entries} {found : List (String × Value)}

/-- A field of a record is an entry whose key is a text. -/
def IsField (entry : Value × Value) (field : String × Value) : Prop :=
  entry.1.text? = some field.1 ∧ entry.2 = field.2

/-- A mapping is a record if all of its entries are fields. -/
theorem fields_eq_ok_iff :
    (mapping entries).fields = .ok found ↔ Forall₂ IsField entries found := by
  refine Except.mapM_eq_ok_iff.trans ?_
  constructor
  · refine Forall₂.imp fun ⟨key, inner⟩ field hfield => ?_
    simp only at hfield
    split at hfield
    · rename_i name htext
      obtain rfl := Except.ok.inj hfield
      exact ⟨htext, rfl⟩
    · cases hfield
  · refine Forall₂.imp fun ⟨key, inner⟩ field hfield => ?_
    obtain ⟨htext, rfl⟩ := hfield
    simp only at htext
    simp only [htext]

/-- The fields with a value under a name. -/
def restated (name : String) (value : Value) (fields : List (String × Value)) :
    List (String × Value) :=
  fields.map fun field => if field.1 = name then (name, value) else field

theorem field?_restated {other : String} (hne : other ≠ name) :
    field? other (restated name value found) = field? other found := by
  have hfilter : (restated name value found).filter (fun field => field.1 = other) =
      found.filter fun field => field.1 = other := by
    induction found with
    | nil => rfl
    | cons field others ih =>
        rw [restated, map_cons, filter_cons, ← restated, ih, filter_cons]
        by_cases hname : field.1 = name
        · simp [hname, hne.symm]
        · simp [hname]
  rw [field?, hfilter, field?]

theorem filter_restated :
    (restated name value found).filter (fun field => field.1 = name) =
      restated name value (found.filter fun field => field.1 = name) := by
  rw [restated, filter_map, restated]
  congr 1
  refine filter_congr fun field _ => ?_
  by_cases hname : field.1 = name <;> simp [hname]

/-- What stands under a name is a field of that name. -/
theorem mem_of_lookup {old : Value} (hfields : Forall₂ IsField entries found)
    (hlookup : lookup name entries = some old) : (name, old) ∈ found := by
  induction hfields with
  | nil => cases hlookup
  | @cons entry field entries found hfield hothers ih =>
      obtain ⟨key, inner⟩ := entry
      obtain ⟨text, first⟩ := field
      obtain ⟨htext, rfl⟩ : key.text? = some text ∧ inner = first := hfield
      by_cases hkey : key = string name
      · subst hkey
        rw [lookup_cons_self] at hlookup
        obtain rfl : name = text := Option.some.inj htext
        obtain rfl := Option.some.inj hlookup
        exact mem_cons_self
      · rw [lookup_cons_of_ne hkey] at hlookup
        exact mem_cons_of_mem _ (ih hlookup)

/-- The fields of a record in which a value is stored under a name that only one of them has. -/
theorem areFields_store {old : Value} (value : Value) (hfields : Forall₂ IsField entries found)
    (hlookup : lookup name entries = some old)
    (hone : (found.filter fun field => field.1 = name).length ≤ 1) :
    Forall₂ IsField (store (string name) value entries) (restated name value found) := by
  induction hfields with
  | nil => cases hlookup
  | @cons entry field entries found hfield hothers ih =>
      obtain ⟨key, inner⟩ := entry
      obtain ⟨text, first⟩ := field
      have htext : key.text? = some text := hfield.1
      by_cases hkey : key = string name
      · subst hkey
        obtain rfl : name = text := Option.some.inj htext
        have hnone : ∀ field ∈ found, field.1 ≠ name := by
          simpa [filter_eq_nil_iff] using hone
        have hsame : restated name value found = found := by
          rw [restated, map_congr_left fun field hmem => if_neg (hnone field hmem), map_id']
        rw [store_cons_self, restated, map_cons, if_pos rfl, ← restated, hsame]
        exact .cons ⟨rfl, rfl⟩ hothers
      · rw [lookup_cons_of_ne hkey] at hlookup
        have hname : text ≠ name := by
          rintro rfl
          have hmem : (text, old) ∈ found.filter fun field => field.1 = text := by
            simp [mem_of_lookup hothers hlookup]
          have := length_pos_of_mem hmem
          simp only [decide_true, filter_cons_of_pos, length_cons] at hone
          omega
        rw [filter_cons_of_neg (by simpa using hname)] at hone
        rw [store_cons_of_ne hkey, restated, map_cons, if_neg hname, ← restated]
        exact .cons hfield (ih hlookup hone)

end

section

variable {α : Type} {name : String} {value : Value} {default result : α}
  {reader : Value → Except Fault α} {found : List (String × Value)}

theorem fieldOr_restated {other : String} (hne : other ≠ name) :
    fieldOr other default reader (restated name value found) =
      fieldOr other default reader found := by
  rw [fieldOr, field?_restated hne, fieldOr]

/-- A field that is read is no repeated one. -/
theorem length_filter_le_one_of_fieldOr (hread : fieldOr name default reader found = .ok result) :
    (found.filter fun field => field.1 = name).length ≤ 1 := by
  obtain ⟨field, hfield, -⟩ := Except.bind_eq_ok_iff.mp hread
  unfold field? at hfield
  split at hfield
  · rename_i hnone
    simp [hnone]
  · rename_i field hone
    simp [hone]
  · cases hfield

theorem filter_eq_singleton {old : Value} (hmem : (name, old) ∈ found)
    (hone : (found.filter fun field => field.1 = name).length ≤ 1) :
    found.filter (fun field => field.1 = name) = [(name, old)] := by
  have hmem' : (name, old) ∈ found.filter fun field => field.1 = name := by simp [hmem]
  obtain ⟨field, hfield⟩ := length_eq_one_iff.mp (Nat.le_antisymm hone (length_pos_of_mem hmem'))
  rw [hfield, mem_singleton] at hmem'
  rw [hfield, hmem']

theorem fieldOr_of_mem {old : Value} (hmem : (name, old) ∈ found)
    (hone : (found.filter fun field => field.1 = name).length ≤ 1) :
    fieldOr name default reader found = reader old := by
  rw [fieldOr, field?, filter_eq_singleton hmem hone]
  rfl

/-- The field with the other value is read as this value is. -/
theorem fieldOr_restated_self {old : Value} (hmem : (name, old) ∈ found)
    (hone : (found.filter fun field => field.1 = name).length ≤ 1) :
    fieldOr name default reader (restated name value found) = reader value := by
  rw [fieldOr, field?, filter_restated, filter_eq_singleton hmem hone, restated, map_singleton,
    if_pos rfl]
  rfl

end

end Compliance.Yaml.Value
