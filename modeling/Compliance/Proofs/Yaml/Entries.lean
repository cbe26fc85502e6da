import Compliance.Yaml.Value

/-!
# Entries of a mapping

Entries are stored one after the other: a key that is there keeps its place and
takes the new value, and a new key goes to the end.  After some named values have
been stored

* a name stands for the last of its values, or for what it stood for before
  (`lookup_storeAll`),
* the new names follow the old keys in the order of their first occurrences
  (`keys_storeAll`), and
* entries whose keys are no names are as they were (`filter_storeAll`).

What can be reached in a value through items and entries, but not through tags, is
`Reaches`.
-/

namespace Compliance.Yaml.Value

/-- Whether a value is a text; a tag hides it. -/
def isString : Value → Bool
  | string _ => true
  | _ => false

theorem same_string_iff {text : String} {value : Value} :
    (string text).same value = true ↔ value = string text := by
  cases value <;> simp [same, eq_comm]

/-! ## Looking up a name -/

@[simp] theorem lookup_cons_self (name : String) (value : Value) (others : Entries) :
    lookup name ((string name, value) :: others) = some value := by
  simp [lookup]

theorem lookup_cons_of_ne {name : String} {key : Value} (hne : key ≠ string name) (value : Value)
    (others : Entries) : lookup name ((key, value) :: others) = lookup name others := by
  cases key with
  | string text =>
      have htext : text ≠ name := fun heq => hne (heq ▸ rfl)
      simp [lookup, htext]
  | _ => rfl

theorem mem_of_lookup_eq_some {name : String} {value : Value} {entries : Entries}
    (hlookup : lookup name entries = some value) : (string name, value) ∈ entries := by
  induction entries with
  | nil => cases hlookup
  | cons entry others ih =>
      obtain ⟨key, first⟩ := entry
      by_cases hkey : key = string name
      · subst hkey
        rw [lookup_cons_self] at hlookup
        obtain rfl := Option.some.inj hlookup
        exact List.mem_cons_self
      · rw [lookup_cons_of_ne hkey] at hlookup
        exact List.mem_cons_of_mem _ (ih hlookup)

/-- Entries with other keys may be left out. -/
theorem lookup_filter {name : String} (keep : Value → Bool) (hkeep : keep (string name) = true)
    (entries : Entries) :
    lookup name (entries.filter fun entry => keep entry.1) = lookup name entries := by
  induction entries with
  | nil => rfl
  | cons entry others ih =>
      obtain ⟨key, value⟩ := entry
      by_cases hkey : key = string name
      · subst hkey
        simp [hkeep]
      · rw [List.filter_cons, lookup_cons_of_ne hkey, ← ih]
        split
        · rw [lookup_cons_of_ne hkey]
        · rfl

theorem lookup_map (change : Value → Value) (name : String) (entries : Entries) :
    lookup name (entries.map fun entry => (entry.1, change entry.2)) =
      (lookup name entries).map change := by
  induction entries with
  | nil => rfl
  | cons entry others ih =>
      obtain ⟨key, value⟩ := entry
      by_cases hkey : key = string name
      · subst hkey
        simp
      · simp [lookup_cons_of_ne hkey, ih]

/-! ## Storing a named value -/

section

variable {name : String} {value : Value} {entries : Entries}

theorem store_cons_self (old : Value) :
    store (string name) value ((string name, old) :: entries) =
      (string name, value) :: entries := by
  rw [store, if_pos (same_string_iff.mpr rfl)]

theorem store_cons_of_ne {key old : Value} (hne : key ≠ string name) :
    store (string name) value ((key, old) :: entries) =
      (key, old) :: store (string name) value entries := by
  rw [store, if_neg fun hsame => hne (same_string_iff.mp hsame)]

theorem lookup_store (other : String) :
    lookup other (store (string name) value entries) =
      if other = name then some value else lookup other entries := by
  induction entries with
  | nil =>
      by_cases hother : other = name
      · simp [hother, store]
      · simp [hother, store, lookup, Ne.symm hother]
  | cons entry others ih =>
      obtain ⟨key, old⟩ := entry
      by_cases hkey : key = string name
      · subst hkey
        rw [store_cons_self]
        by_cases hother : other = name
        · simp [hother]
        · have hne : string name ≠ string other := fun heq => hother (string.inj heq).symm
          rw [if_neg hother, lookup_cons_of_ne hne, lookup_cons_of_ne hne]
      · rw [store_cons_of_ne hkey]
        by_cases hfound : key = string other
        · subst hfound
          have hother : other ≠ name := fun heq => hkey (heq ▸ rfl)
          simp [hother]
        · rw [lookup_cons_of_ne hfound, ih, lookup_cons_of_ne hfound]

/-- A name that is there keeps its place, and another one goes to the end. -/
theorem keys_store :
    (store (string name) value entries).map (·.1) =
      entries.map (·.1) ++ if (lookup name entries).isSome then [] else [string name] := by
  induction entries with
  | nil => simp [store, lookup]
  | cons entry others ih =>
      obtain ⟨key, old⟩ := entry
      by_cases hkey : key = string name
      · subst hkey
        simp [store_cons_self]
      · rw [store_cons_of_ne hkey, List.map_cons, ih, lookup_cons_of_ne hkey]
        rfl

theorem filter_store (keep : Value → Bool) (hkeep : keep (string name) = false) :
    (store (string name) value entries).filter (fun entry => keep entry.1) =
      entries.filter fun entry => keep entry.1 := by
  induction entries with
  | nil => simp [store, hkeep]
  | cons entry others ih =>
      obtain ⟨key, old⟩ := entry
      by_cases hkey : key = string name
      · subst hkey
        simp [store_cons_self, hkeep]
      · rw [store_cons_of_ne hkey, List.filter_cons, List.filter_cons, ih]

theorem map_store (change : Value → Value) :
    (store (string name) value entries).map (fun entry => (entry.1, change entry.2)) =
      store (string name) (change value) (entries.map fun entry => (entry.1, change entry.2)) := by
  induction entries with
  | nil => rfl
  | cons entry others ih =>
      obtain ⟨key, old⟩ := entry
      by_cases hkey : key = string name
      · subst hkey
        rw [store_cons_self, List.map_cons, List.map_cons, store_cons_self]
      · rw [store_cons_of_ne hkey, List.map_cons, List.map_cons, store_cons_of_ne hkey, ih]

/-- Entries with other keys may be left out before a value is stored or after it. -/
theorem filter_store_of_keep (keep : Value → Bool) (hkeep : keep (string name) = true) :
    (store (string name) value entries).filter (fun entry => keep entry.1) =
      store (string name) value (entries.filter fun entry => keep entry.1) := by
  induction entries with
  | nil => simp [store, hkeep]
  | cons entry others ih =>
      obtain ⟨key, old⟩ := entry
      by_cases hkey : key = string name
      · subst hkey
        rw [store_cons_self, List.filter_cons_of_pos (by simpa), List.filter_cons_of_pos (by simpa),
          store_cons_self]
      · rw [store_cons_of_ne hkey, List.filter_cons, List.filter_cons, ih]
        split
        · rw [store_cons_of_ne hkey]
        · rfl

/-- Of two values either may be stored first if the name of one of them is there. -/
theorem store_comm {other : String} {otherValue : Value} (hne : other ≠ name)
    (hthere : (lookup name entries).isSome) :
    store (string other) otherValue (store (string name) value entries) =
      store (string name) value (store (string other) otherValue entries) := by
  have hkeys : string name ≠ string other := fun heq => hne (string.inj heq).symm
  induction entries with
  | nil => cases hthere
  | cons entry others ih =>
      obtain ⟨key, old⟩ := entry
      by_cases hkey : key = string name
      · subst hkey
        rw [store_cons_self, store_cons_of_ne hkeys, store_cons_of_ne hkeys, store_cons_self]
      · rw [lookup_cons_of_ne hkey] at hthere
        rw [store_cons_of_ne hkey]
        by_cases hother : key = string other
        · subst hother
          rw [store_cons_self, store_cons_self, store_cons_of_ne hkeys.symm]
        · rw [store_cons_of_ne hother, store_cons_of_ne hother, store_cons_of_ne hkey, ih hthere]

theorem store_append_cons {old : Value} {others : Entries}
    (hfresh : hasKey (string name) entries = false) :
    store (string name) value (entries ++ (string name, old) :: others) =
      entries ++ (string name, value) :: others := by
  induction entries with
  | nil => exact store_cons_self old
  | cons entry entries ih =>
      obtain ⟨hfirst, hrest⟩ := Bool.or_eq_false_iff.mp hfresh
      have hne : entry.1 ≠ string name := fun heq =>
        Bool.false_ne_true (hfirst.symm.trans (same_string_iff.mpr heq))
      rw [List.cons_append, store_cons_of_ne hne, ih hrest, List.cons_append]

theorem mem_store {entry : Value × Value} (hmem : entry ∈ store (string name) value entries) :
    entry.2 = value ∨ entry ∈ entries := by
  induction entries with
  | nil =>
      obtain rfl : entry = (string name, value) := by simpa [store] using hmem
      exact .inl rfl
  | cons head others ih =>
      obtain ⟨key, old⟩ := head
      by_cases hkey : key = string name
      · subst hkey
        rw [store_cons_self] at hmem
        rcases List.mem_cons.mp hmem with rfl | hmem
        · exact .inl rfl
        · exact .inr (List.mem_cons_of_mem _ hmem)
      · rw [store_cons_of_ne hkey] at hmem
        rcases List.mem_cons.mp hmem with rfl | hmem
        · exact .inr List.mem_cons_self
        · exact (ih hmem).imp_right (List.mem_cons_of_mem _)

end

/-! ## Storing several named values -/

/-- Stores named values one after the other. -/
def storeAll (named : List (String × Value)) (entries : Entries) : Entries :=
  named.foldl (fun taken entry => store (string entry.1) entry.2 taken) entries

/-- A name stands for the last of its values, and without one for what it stood for before. -/
theorem lookup_storeAll (named : List (String × Value)) (entries : Entries) (name : String) :
    lookup name (storeAll named entries) =
      ((named.filter fun entry => entry.1 = name).getLast?.map (·.2)).or
        (lookup name entries) := by
  induction named generalizing entries with
  | nil => rfl
  | cons entry others ih =>
      -- the first value counts only if no other one under its name comes later
      rw [storeAll, List.foldl_cons, ← storeAll, ih, lookup_store]
      by_cases hname : entry.1 = name
      · rw [List.filter_cons_of_pos (by simpa using hname), List.getLast?_cons, if_pos hname.symm]
        cases (others.filter fun entry => entry.1 = name).getLast? <;> rfl
      · rw [List.filter_cons_of_neg (by simpa using hname), if_neg (Ne.symm hname)]

/-- The new names follow the keys in the order of their first occurrences. -/
theorem keys_storeAll (named : List (String × Value)) (entries : Entries) :
    (storeAll named entries).map (·.1) = entries.map (·.1) ++
      (((named.map (·.1)).filter fun name => (lookup name entries).isNone).eraseDups).map
        string := by
  induction named generalizing entries with
  | nil => simp [storeAll]
  | cons entry others ih =>
      obtain ⟨name, value⟩ := entry
      rw [storeAll, List.foldl_cons, ← storeAll, ih, keys_store, List.map_cons, List.filter_cons]
      simp only [lookup_store]
      cases hfound : lookup name entries with
      | some old =>
          -- a name that is there is no new one, and stays none
          have hfilter : (others.map (·.1)).filter (fun other =>
              (if other = name then some value else lookup other entries).isNone) =
                (others.map (·.1)).filter fun other => (lookup other entries).isNone := by
            refine List.filter_congr fun other _ => ?_
            by_cases hother : other = name
            · simp [hother, hfound]
            · simp [hother]
          simp [hfilter]
      | none =>
          -- a new name is passed over in the rest
          have hfilter : (others.map (·.1)).filter (fun other =>
              (if other = name then some value else lookup other entries).isNone) =
                ((others.map (·.1)).filter fun other => (lookup other entries).isNone).filter
                  fun other => !other == name := by
            rw [List.filter_filter]
            refine List.filter_congr fun other _ => ?_
            by_cases hother : other = name
            · simp [hother]
            · simp [hother]
          simp [hfilter, List.eraseDups_cons]

/-- Entries whose keys are no texts are as they were. -/
theorem filter_storeAll (named : List (String × Value)) (entries : Entries) :
    (storeAll named entries).filter (fun entry => !entry.1.isString) =
      entries.filter fun entry => !entry.1.isString := by
  induction named generalizing entries with
  | nil => rfl
  | cons entry others ih =>
      rw [storeAll, List.foldl_cons, ← storeAll, ih]
      exact filter_store (fun key => !key.isString) rfl

/-- A value whose name is there may be stored before other names or after them. -/
theorem storeAll_store {named : List (String × Value)} {entries : Entries} {name : String}
    {value : Value} (hnew : ∀ entry ∈ named, entry.1 ≠ name)
    (hthere : (lookup name entries).isSome) :
    storeAll named (store (string name) value entries) =
      store (string name) value (storeAll named entries) := by
  induction named generalizing entries with
  | nil => rfl
  | cons entry others ih =>
      obtain ⟨hfirst, hothers⟩ := List.forall_mem_cons.mp hnew
      have hthere' : (lookup name (store (string entry.1) entry.2 entries)).isSome := by
        rw [lookup_store]
        split
        · rfl
        · exact hthere
      rw [storeAll, List.foldl_cons, ← storeAll, store_comm hfirst hthere, ih hothers hthere']
      rfl

theorem mem_storeAll {named : List (String × Value)} {entries : Entries} {entry : Value × Value}
    (hmem : entry ∈ storeAll named entries) :
    (∃ stored ∈ named, entry.2 = stored.2) ∨ entry ∈ entries := by
  induction named generalizing entries with
  | nil => exact .inr hmem
  | cons head others ih =>
      rcases ih hmem with ⟨stored, hstored, hvalue⟩ | hmem
      · exact .inl ⟨stored, List.mem_cons_of_mem _ hstored, hvalue⟩
      · rcases mem_store hmem with hvalue | hmem
        · exact .inl ⟨head, List.mem_cons_self, hvalue⟩
        · exact .inr hmem

/-! ## Parts of a value -/

/-- A value is reached from another one through items of sequences and values of mappings. -/
inductive Reaches : Value → Value → Prop
  | refl (value : Value) : Reaches value value
  | item {items : List Value} {item value : Value} (hitem : item ∈ items)
      (hreaches : Reaches item value) : Reaches (sequence items) value
  | entry {entries : Entries} {key inner value : Value} (hentry : (key, inner) ∈ entries)
      (hreaches : Reaches inner value) : Reaches (mapping entries) value

end Compliance.Yaml.Value
