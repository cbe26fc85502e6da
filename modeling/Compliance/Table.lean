/-!
# Tables keyed by text

Options, properties, references, policies and parameters are all looked up by a
name and listed in the order of their names.  A table keeps its entries in a
list that is strictly increasing in the key, so that two tables with the same
look-ups are equal (`Table.ext_get?`), and equality of rules and parameters can
be decided by comparing the lists.
-/

namespace Compliance

universe u

/-- Entries in strictly increasing order of their keys. -/
structure Table (α : Type u) where
  entries : List (String × α)
  sorted : entries.Pairwise fun first second => first.1 < second.1
deriving DecidableEq

namespace Table

variable {α : Type u}

/-- The table without entries. -/
def empty : Table α := ⟨[], List.Pairwise.nil⟩

instance : EmptyCollection (Table α) := ⟨empty⟩

instance : Inhabited (Table α) := ⟨empty⟩

/-! ## Look-up -/

/-- The value of the first entry for `key`. -/
def find (key : String) : List (String × α) → Option α
  | [] => none
  | (name, value) :: rest => if key = name then some value else find key rest

/-- The value stored under `key`. -/
def get? (table : Table α) (key : String) : Option α := find key table.entries

/-- Whether some value is stored under `key`. -/
def contains (table : Table α) (key : String) : Bool := (table.get? key).isSome

/-- The keys in increasing order. -/
def keys (table : Table α) : List String := table.entries.map (·.1)

/-- The number of keys. -/
def size (table : Table α) : Nat := table.entries.length

/-- Whether the table has no entry. -/
def isEmpty (table : Table α) : Bool := table.entries.isEmpty

@[simp] theorem get?_empty (key : String) : (∅ : Table α).get? key = none := rfl

/-- Below every key of a list there is no entry. -/
theorem find_eq_none_of_forall_ne {key : String} {entries : List (String × α)}
    (hne : ∀ entry ∈ entries, key ≠ entry.1) : find key entries = none := by
  induction entries with
  | nil => rfl
  | cons entry rest ih =>
      have hhead : key ≠ entry.1 := hne entry List.mem_cons_self
      simp [find, hhead, ih fun later hlater => hne later (List.mem_cons_of_mem _ hlater)]

/-! ## Storing a value -/

/-- Puts an entry at its place, in the stead of an entry with the same key. -/
def place (key : String) (value : α) : List (String × α) → List (String × α)
  | [] => [(key, value)]
  | (name, old) :: rest =>
    if key < name then (key, value) :: (name, old) :: rest
    else if key = name then (key, value) :: rest
    else (name, old) :: place key value rest

theorem mem_place {key : String} {value : α} {entries : List (String × α)}
    {entry : String × α} (hmem : entry ∈ place key value entries) :
    entry = (key, value) ∨ entry ∈ entries := by
  induction entries with
  | nil => simpa [place] using hmem
  | cons head rest ih =>
      obtain ⟨name, old⟩ := head
      simp only [place] at hmem
      split at hmem
      · simpa using hmem
      · split at hmem
        · rcases List.mem_cons.mp hmem with h | h
          · exact .inl h
          · exact .inr (List.mem_cons_of_mem _ h)
        · rcases List.mem_cons.mp hmem with h | h
          · exact .inr (by simp [h])
          · rcases ih h with h | h
            · exact .inl h
            · exact .inr (List.mem_cons_of_mem _ h)

private theorem lt_of_not_lt_of_ne {first second : String} (hlt : ¬ first < second)
    (hne : first ≠ second) : second < first := by
  by_cases h : second < first
  · exact h
  · exact absurd (String.le_antisymm (String.not_lt.mp h) (String.not_lt.mp hlt)) hne

theorem sorted_place (key : String) (value : α) {entries : List (String × α)}
    (hsorted : entries.Pairwise fun first second => first.1 < second.1) :
    (place key value entries).Pairwise fun first second => first.1 < second.1 := by
  induction entries with
  | nil => simp [place]
  | cons head rest ih =>
      obtain ⟨name, old⟩ := head
      rw [List.pairwise_cons] at hsorted
      obtain ⟨hhead, hrest⟩ := hsorted
      simp only [place]
      split
      · rename_i hlt
        refine List.pairwise_cons.mpr ⟨?_, List.pairwise_cons.mpr ⟨hhead, hrest⟩⟩
        intro entry hentry
        rcases List.mem_cons.mp hentry with h | h
        · simpa [h] using hlt
        · exact String.lt_trans hlt (hhead entry h)
      · split
        · rename_i heq
          subst heq
          exact List.pairwise_cons.mpr ⟨hhead, hrest⟩
        · rename_i hnlt hne
          refine List.pairwise_cons.mpr ⟨?_, ih hrest⟩
          intro entry hentry
          rcases mem_place hentry with h | h
          · simpa [h] using lt_of_not_lt_of_ne hnlt hne
          · exact hhead entry h

/-- Stores `value` under `key`; what was stored there is replaced. -/
def insert (table : Table α) (key : String) (value : α) : Table α :=
  ⟨place key value table.entries, sorted_place key value table.sorted⟩

/-- Stores `value` under `key` unless the key is taken. -/
def insertNew (table : Table α) (key : String) (value : α) : Table α :=
  if table.contains key then table else table.insert key value

/-- The table of a list of entries; of two entries for one key the later counts. -/
def ofList (entries : List (String × α)) : Table α :=
  entries.foldl (fun table entry => table.insert entry.1 entry.2) ∅

theorem find_place (key : String) (value : α) (entries : List (String × α)) (other : String) :
    find other (place key value entries) =
      if other = key then some value else find other entries := by
  induction entries with
  | nil => simp [place, find]
  | cons head rest ih =>
      obtain ⟨name, old⟩ := head
      simp only [place]
      split
      · simp [find]
      · split
        · rename_i heq
          subst heq
          simp only [find]
          split <;> rfl
        · rename_i hne
          simp only [find, ih]
          by_cases hname : other = name
          · subst hname
            simp [Ne.symm hne]
          · simp [hname]

@[simp] theorem get?_insert (table : Table α) (key : String) (value : α) (other : String) :
    (table.insert key value).get? other = if other = key then some value else table.get? other :=
  find_place key value table.entries other

theorem get?_insertNew (table : Table α) (key : String) (value : α) (other : String) :
    (table.insertNew key value).get? other =
      (table.get? other).or (if other = key then some value else none) := by
  unfold insertNew contains
  cases hkey : table.get? key with
  | none =>
      simp only [Option.isSome_none, Bool.false_eq_true, ↓reduceIte, get?_insert]
      by_cases hother : other = key
      · simp [hother, hkey]
      · simp [hother]
  | some old =>
      simp only [Option.isSome_some, ↓reduceIte]
      by_cases hother : other = key
      · simp [hother, hkey]
      · simp [hother]

private theorem get?_foldl_insert (entries : List (String × α)) (table : Table α) (key : String) :
    (entries.foldl (fun table entry => table.insert entry.1 entry.2) table).get? key =
      (entries.reverse.lookup key).or (table.get? key) := by
  induction entries generalizing table with
  | nil => simp
  | cons entry rest ih =>
      obtain ⟨name, value⟩ := entry
      rw [List.foldl_cons, ih, get?_insert, List.reverse_cons, List.lookup_append, Option.or_assoc]
      by_cases hkey : key = name
      · simp [hkey]
      · simp [hkey, List.lookup_cons, beq_eq_false_iff_ne.mpr hkey]

/-- The table of a list has what the last entry for a key says. -/
theorem get?_ofList (entries : List (String × α)) (key : String) :
    (ofList entries).get? key = entries.reverse.lookup key := by
  rw [ofList, get?_foldl_insert, get?_empty, Option.or_none]

/-! ## Equality -/

private theorem entries_eq_of_find_eq {first second : List (String × α)}
    (hfirst : first.Pairwise fun a b => a.1 < b.1)
    (hsecond : second.Pairwise fun a b => a.1 < b.1)
    (hfind : ∀ key, find key first = find key second) : first = second := by
  induction first generalizing second with
  | nil =>
      cases second with
      | nil => rfl
      | cons head rest => simpa [find] using hfind head.1
  | cons head rest ih =>
      obtain ⟨name, value⟩ := head
      cases second with
      | nil => simpa [find] using hfind name
      | cons other others =>
          obtain ⟨otherName, otherValue⟩ := other
          rw [List.pairwise_cons] at hfirst hsecond
          have habsent : ∀ {key : String} {entries : List (String × α)},
              (∀ entry ∈ entries, key < entry.1) → find key entries = none := by
            intro key entries hlt
            refine find_eq_none_of_forall_ne fun entry hentry heq => ?_
            exact String.lt_irrefl _ (heq ▸ hlt entry hentry)
          have hname : name = otherName := by
            by_cases hlt : name < otherName
            · have hgone : find name ((otherName, otherValue) :: others) = none := by
                refine habsent fun entry hentry => ?_
                rcases List.mem_cons.mp hentry with h | h
                · simpa [h] using hlt
                · exact String.lt_trans hlt (hsecond.1 entry h)
              have := hfind name
              rw [hgone] at this
              simp [find] at this
            · by_cases heq : name = otherName
              · exact heq
              · have hgt := lt_of_not_lt_of_ne hlt heq
                have hgone : find otherName ((name, value) :: rest) = none := by
                  refine habsent fun entry hentry => ?_
                  rcases List.mem_cons.mp hentry with h | h
                  · simpa [h] using hgt
                  · exact String.lt_trans hgt (hfirst.1 entry h)
                have := hfind otherName
                rw [hgone] at this
                simp [find] at this
          subst hname
          have hvalue : value = otherValue := by simpa [find] using hfind name
          subst hvalue
          have hrest : rest = others := by
            refine ih hfirst.2 hsecond.2 fun key => ?_
            by_cases hkey : key = name
            · subst hkey
              rw [habsent hfirst.1, habsent hsecond.1]
            · simpa [find, hkey] using hfind key
          rw [hrest]

/-- Tables that answer every look-up alike are equal. -/
theorem ext_get? {first second : Table α}
    (hget : ∀ key, first.get? key = second.get? key) : first = second := by
  obtain ⟨entries, hsorted⟩ := first
  obtain ⟨others, hothers⟩ := second
  have : entries = others := entries_eq_of_find_eq hsorted hothers hget
  subst this
  rfl

end Table

end Compliance
