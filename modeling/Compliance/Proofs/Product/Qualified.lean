import Compliance.Product
import Compliance.Proofs.Yaml.Entries
import Mathlib.Data.List.Basic
import Mathlib.Data.List.TakeWhile

/-!
# Values as they hold for a product

A mapping is resolved in two passes.  First the qualified keys go, and with them the
entries for other products; then the entries for the product itself are stored under
their plain names, one after the other (`select_eq_storeAll`).  So a name stands for
the last entry that is qualified for the product, wherever it stands among the others,
and an entry without a qualification counts only if there is none (`lookup_select`).

Values are resolved before the mapping that they are in, and resolving a mapping only
drops and moves them.  Hence whatever is reached in the result is the result for
something that is reached in the source (`exists_reaches_of_reaches_normalizeFor`).
-/

namespace Compliance.Product

open Compliance.Yaml List

/-! ## Qualified keys -/

/-- A key is qualified if it reads as a text with an `@` in it. -/
def IsQualified (key : Value) : Prop := ∃ text ∈ key.text?, '@' ∈ text.toList

instance : DecidablePred IsQualified := fun key =>
  inferInstanceAs (Decidable (∃ text ∈ key.text?, '@' ∈ text.toList))

/-- The plain name of a key that is qualified for a product: what stands before the first `@`, if
the product is what stands after it. -/
def nameFor? (product : String) (key : Value) : Option String :=
  key.text?.bind fun text =>
    let name := text.toList.takeWhile (· ≠ '@')
    if text.toList = name ++ '@' :: product.toList then some (String.ofList name) else none

private theorem toList_qualified (name product : String) :
    (name ++ "@" ++ product).toList = name.toList ++ '@' :: product.toList := by
  simp [String.toList_append]

/-- A key has a plain name for a product if it reads as that name, an `@` and the product. -/
theorem nameFor?_eq_some_iff {product name : String} {key : Value} :
    nameFor? product key = some name ↔
      '@' ∉ name.toList ∧ key.text? = some (name ++ "@" ++ product) := by
  cases htext : key.text? with
  | none => simp [nameFor?, htext]
  | some text =>
      simp only [nameFor?, htext, Option.bind_some, Option.ite_none_right_eq_some,
        Option.some.injEq]
      constructor
      · rintro ⟨hcut, rfl⟩
        refine ⟨fun hmem => ?_, String.toList_injective ?_⟩
        · rw [String.toList_ofList] at hmem
          simpa using mem_takeWhile_imp hmem
        · rw [toList_qualified, String.toList_ofList, ← hcut]
      · rintro ⟨hname, rfl⟩
        have htake : (name ++ "@" ++ product).toList.takeWhile (· ≠ '@') = name.toList := by
          rw [toList_qualified, takeWhile_append_of_pos]
          · simp
          · intro c hc
            simpa using fun heq : c = '@' => hname (heq ▸ hc)
        rw [htake, toList_qualified]
        simp

theorem not_isQualified_string {name : String} (hname : '@' ∉ name.toList) :
    ¬ IsQualified (.string name) := by
  rintro ⟨text, htext, hmem⟩
  obtain rfl : name = text := Option.some.inj htext
  exact hname hmem

theorem isNone_qualified?_iff {key : Value} : (qualified? key).isNone ↔ ¬ IsQualified key := by
  cases htext : key.text? with
  | none => simp [qualified?, IsQualified, htext]
  | some text =>
      have hcut : Text.cut? '@' text.toList = none ↔ '@' ∉ text.toList := Text.cut?_eq_none_iff
      have hqualified : IsQualified key ↔ '@' ∈ text.toList := by simp [IsQualified, htext]
      rw [hqualified, ← hcut]
      cases hfound : Text.cut? '@' text.toList <;> simp [qualified?, htext, hfound]

/-- A key is cut at its first `@`. -/
theorem qualified?_eq_some_iff {key : Value} {product name : String} :
    qualified? key = some (name, product) ↔ nameFor? product key = some name := by
  rw [nameFor?_eq_some_iff]
  cases htext : key.text? with
  | none => simp [qualified?, htext]
  | some text =>
      simp only [qualified?, htext, Option.bind_eq_bind, Option.bind_some, Option.bind_eq_some_iff,
        Option.some.injEq, Prod.exists, Option.pure_def, Prod.mk.injEq]
      constructor
      · rintro ⟨before, after, hcut, rfl, rfl⟩
        obtain ⟨htext, hbefore⟩ := Text.cut?_eq_some hcut
        refine ⟨by simpa using hbefore, String.toList_injective ?_⟩
        rw [htext, toList_qualified, String.toList_ofList, String.toList_ofList]
      · rintro ⟨hname, rfl⟩
        refine ⟨name.toList, product.toList, ?_, by simp, by simp⟩
        rw [toList_qualified]
        exact Text.cut?_append_cons hname product.toList

theorem nameFor?_eq_bind_qualified? (product : String) (key : Value) :
    nameFor? product key =
      (qualified? key).bind fun cut => if cut.2 = product then some cut.1 else none := by
  refine Option.ext fun name => ?_
  rw [← qualified?_eq_some_iff]
  cases qualified? key with
  | none => simp
  | some cut => simp [Prod.ext_iff, and_comm]

/-! ## Resolving a mapping -/

/-- The entries that are qualified for a product, under their plain names. -/
def named (product : String) (entries : Entries) : List (String × Value) :=
  entries.filterMap fun entry => (nameFor? product entry.1).map fun name => (name, entry.2)

theorem plainEntries_eq_filter (entries : Entries) :
    plainEntries entries = entries.filter fun entry => ¬ IsQualified entry.1 := by
  refine filter_congr fun entry _ => ?_
  rw [Bool.eq_iff_iff, isNone_qualified?_iff]
  simp

theorem ownEntries_eq_map_named (product : String) (entries : Entries) :
    ownEntries product entries =
      (named product entries).map fun entry => (.string entry.1, entry.2) := by
  rw [ownEntries, named, map_filterMap]
  refine filterMap_congr fun entry _ => ?_
  obtain ⟨key, value⟩ := entry
  simp only [nameFor?_eq_bind_qualified?]
  rcases qualified? key with _ | ⟨name, owner⟩
  · rfl
  · by_cases howner : owner = product <;> simp [howner]

/-- A mapping is resolved by storing the entries for the product after the plain ones. -/
theorem select_eq_storeAll (product : String) (entries : Entries) :
    select product entries =
      Value.storeAll (named product entries)
        (entries.filter fun entry => ¬ IsQualified entry.1) := by
  rw [select, ownEntries_eq_map_named, plainEntries_eq_filter, foldl_map, Value.storeAll]

theorem mem_of_mem_named {product : String} {entries : Entries} {entry : String × Value}
    (hmem : entry ∈ named product entries) :
    ∃ key, (key, entry.2) ∈ entries ∧ nameFor? product key = some entry.1 := by
  obtain ⟨⟨key, value⟩, hentry, hnamed⟩ := mem_filterMap.mp hmem
  obtain ⟨name, hname, hpair⟩ := Option.map_eq_some_iff.mp hnamed
  subst hpair
  exact ⟨key, hentry, hname⟩

theorem exists_mem_of_mem_select {product : String} {entries : Entries} {entry : Value × Value}
    (hmem : entry ∈ select product entries) : ∃ key, (key, entry.2) ∈ entries := by
  rw [select_eq_storeAll] at hmem
  rcases Value.mem_storeAll hmem with ⟨stored, hstored, hvalue⟩ | hplain
  · obtain ⟨key, hentry, -⟩ := mem_of_mem_named hstored
    exact ⟨key, hvalue ▸ hentry⟩
  · exact ⟨entry.1, (mem_filter.mp hplain).1⟩

/-- The value that is stored last under a name is that of the last entry for the product. -/
theorem getLast?_named {product name : String} (hname : '@' ∉ name.toList) (entries : Entries) :
    ((named product entries).filter fun entry => entry.1 = name).getLast?.map (·.2) =
      (entries.filter fun entry =>
        entry.1.text? = some (name ++ "@" ++ product)).getLast?.map (·.2) := by
  -- without an `@` in the name, a key has it as plain name just if it reads as the two together
  have hfilter : (named product entries).filter (fun entry => entry.1 = name) =
      (entries.filter fun entry => entry.1.text? = some (name ++ "@" ++ product)).map
        fun entry => (name, entry.2) := by
    induction entries with
    | nil => rfl
    | cons entry others ih =>
        obtain ⟨key, value⟩ := entry
        have hkey : nameFor? product key = some name ↔
            key.text? = some (name ++ "@" ++ product) := by
          rw [nameFor?_eq_some_iff, and_iff_right hname]
        rw [named, filterMap_cons, ← named, filter_cons]
        cases hfound : nameFor? product key with
        | none =>
            rw [hfound] at hkey
            rw [if_neg (by simpa using fun htext => by cases hkey.mpr htext)]
            exact ih
        | some found =>
            rw [hfound, Option.some.injEq] at hkey
            simp only [Option.map_some]
            by_cases hsame : found = name
            · rw [filter_cons_of_pos (by simpa using hsame), if_pos (by simpa using hkey.mp hsame),
                map_cons, ih, hsame]
            · rw [filter_cons_of_neg (by simpa using hsame),
                if_neg (by simpa using fun htext => hsame (hkey.mpr htext)), ih]
  rw [hfilter, getLast?_map, Option.map_map]
  rfl

/-- A name stands for the last entry that is qualified for the product, and without one for the
plain entry. -/
theorem lookup_select {product name : String} (hname : '@' ∉ name.toList) (entries : Entries) :
    Value.lookup name (select product entries) =
      ((entries.filter fun entry =>
          entry.1.text? = some (name ++ "@" ++ product)).getLast?.map (·.2)).or
        (Value.lookup name entries) := by
  have hplain := not_isQualified_string hname
  rw [select_eq_storeAll, Value.lookup_storeAll, getLast?_named hname,
    Value.lookup_filter (fun key => ¬ IsQualified key) (by simpa using hplain)]

/-- The plain keys come first, and then the names that have no plain entry. -/
theorem keys_select (product : String) (entries : Entries) :
    (select product entries).map (·.1) =
      (entries.map (·.1)).filter (fun key => ¬ IsQualified key) ++
        ((((entries.map (·.1)).filterMap (nameFor? product)).filter fun name =>
          (Value.lookup name entries).isNone).eraseDups).map Value.string := by
  have hnames : (named product entries).map (·.1) =
      (entries.map (·.1)).filterMap (nameFor? product) := by
    rw [named, map_filterMap, filterMap_map]
    refine filterMap_congr fun entry _ => ?_
    rw [Option.map_map]
    exact Option.map_id'
  -- plain names are never qualified, so that they are looked up alike with and without the others
  have hlookup : ∀ name ∈ (entries.map (·.1)).filterMap (nameFor? product),
      (Value.lookup name (entries.filter fun entry => ¬ IsQualified entry.1)).isNone =
        (Value.lookup name entries).isNone := by
    intro name hmem
    obtain ⟨key, -, hkey⟩ := mem_filterMap.mp hmem
    have hplain := not_isQualified_string (nameFor?_eq_some_iff.mp hkey).1
    rw [Value.lookup_filter (fun key => ¬ IsQualified key) (by simpa using hplain)]
  rw [select_eq_storeAll, Value.keys_storeAll, hnames, filter_congr hlookup, filter_map]
  rfl

/-- A name is plain among the entries of a mapping: it has no `@`, and no key is the name with the
product behind an `@`. -/
def IsPlainAmong (product : Product) (name : String) (entries : Entries) : Prop :=
  '@' ∉ name.toList ∧ ∀ key ∈ entries.map (·.1), key.text? ≠ some (name ++ "@" ++ product.id)

section

variable {product : Product} {name : String} {entries : Entries}

/-- Whether a name is plain does not depend on the values. -/
theorem IsPlainAmong.map (hplain : product.IsPlainAmong name entries) (change : Value → Value) :
    product.IsPlainAmong name (entries.map fun entry => (entry.1, change entry.2)) :=
  ⟨hplain.1, by simpa using hplain.2⟩

/-- What a plain name stands for is not changed. -/
theorem lookup_select_of_isPlainAmong (hplain : product.IsPlainAmong name entries) :
    Value.lookup name (select product.id entries) = Value.lookup name entries := by
  have hnone : (entries.filter fun entry =>
      entry.1.text? = some (name ++ "@" ++ product.id)) = [] := by
    rw [filter_eq_nil_iff]
    intro entry hmem htext
    exact hplain.2 entry.1 (mem_map_of_mem hmem) (by simpa using htext)
  rw [lookup_select hplain.1, hnone]
  rfl

/-- A value may be stored under a plain name before a mapping is resolved or after it. -/
theorem select_store (hplain : product.IsPlainAmong name entries)
    (hthere : (Value.lookup name entries).isSome) (value : Value) :
    select product.id (Value.store (.string name) value entries) =
      Value.store (.string name) value (select product.id entries) := by
  have hkey := not_isQualified_string hplain.1
  have hnone : nameFor? product.id (.string name) = none := by
    rw [Option.eq_none_iff_forall_not_mem]
    intro found hfound
    obtain ⟨-, htext⟩ := nameFor?_eq_some_iff.mp hfound
    obtain rfl : name = found ++ "@" ++ product.id := Option.some.inj htext
    exact hplain.1 (by simp)
  have hnamed : named product.id (Value.store (.string name) value entries) =
      named product.id entries := by
    clear hplain hthere
    induction entries with
    | nil => simp [named, Value.store, hnone]
    | cons entry others ih =>
        obtain ⟨key, old⟩ := entry
        by_cases hsame : key = .string name
        · subst hsame
          simp [named, Value.store_cons_self, hnone]
        · rw [Value.store_cons_of_ne hsame, named, filterMap_cons, ← named, ih]
          rfl
  have hnew : ∀ entry ∈ named product.id entries, entry.1 ≠ name := by
    intro entry hmem heq
    obtain ⟨origin, horigin, hentry⟩ := mem_filterMap.mp hmem
    obtain ⟨found, hfound, rfl⟩ := Option.map_eq_some_iff.mp hentry
    exact hplain.2 origin.1 (mem_map_of_mem horigin) (heq ▸ (nameFor?_eq_some_iff.mp hfound).2)
  have hthere' : (Value.lookup name
      (entries.filter fun entry => ¬ IsQualified entry.1)).isSome := by
    rwa [Value.lookup_filter (fun key => ¬ IsQualified key) (by simpa using hkey)]
  rw [select_eq_storeAll, hnamed,
    Value.filter_store_of_keep (fun key => ¬ IsQualified key) (by simpa using hkey),
    Value.storeAll_store hnew hthere', ← select_eq_storeAll]

end

/-- Entries that are qualified for another product may be left out. -/
theorem select_filter_nameFor? (product : String) (entries : Entries) :
    select product (entries.filter fun entry =>
        ¬ (IsQualified entry.1 ∧ nameFor? product entry.1 = none)) = select product entries := by
  have hnamed : named product (entries.filter fun entry =>
      ¬ (IsQualified entry.1 ∧ nameFor? product entry.1 = none)) = named product entries := by
    rw [named, filterMap_filter, named]
    refine filterMap_congr fun entry _ => ?_
    cases nameFor? product entry.1 <;> simp
  have hplain : (entries.filter fun entry =>
      ¬ (IsQualified entry.1 ∧ nameFor? product entry.1 = none)).filter
        (fun entry => ¬ IsQualified entry.1) =
      entries.filter fun entry => ¬ IsQualified entry.1 := by
    rw [filter_filter]
    refine filter_congr fun entry _ => ?_
    by_cases hqualified : IsQualified entry.1 <;> simp [hqualified]
  rw [select_eq_storeAll, hnamed, hplain, select_eq_storeAll]

/-! ## Resolving a value -/

theorem normalizeItemsFor_eq_map (product : String) (items : List Value) :
    normalizeItemsFor product items = items.map (normalizeFor product) := by
  induction items with
  | nil => rfl
  | cons item others ih => rw [normalizeItemsFor, ih, map_cons]

theorem normalizeEntriesFor_eq_map (product : String) (entries : Entries) :
    normalizeEntriesFor product entries =
      entries.map fun entry => (entry.1, normalizeFor product entry.2) := by
  induction entries with
  | nil => rfl
  | cons entry others ih => rw [normalizeEntriesFor, ih, map_cons]

/-- What is reached in a result is the result for something that is reached in the source. -/
theorem exists_reaches_of_reaches_normalizeFor {product : String} {value result : Value}
    (hreaches : (normalizeFor product value).Reaches result) :
    ∃ source, value.Reaches source ∧ result = normalizeFor product source := by
  -- the induction is on the way in the result, and the source is followed along
  generalize hroot : normalizeFor product value = root at hreaches
  induction hreaches generalizing value with
  | refl => exact ⟨value, .refl value, hroot.symm⟩
  | @item items item inner hitem hreaches ih =>
      cases value <;> simp only [normalizeFor, reduceCtorEq, Value.sequence.injEq] at hroot
      rename_i sources
      rw [normalizeItemsFor_eq_map] at hroot
      obtain ⟨origin, horigin, rfl⟩ := mem_map.mp (hroot ▸ hitem)
      obtain ⟨source, hsource, hresult⟩ := ih rfl
      exact ⟨source, .item horigin hsource, hresult⟩
  | @entry entries key inner result hentry hreaches ih =>
      cases value <;> simp only [normalizeFor, reduceCtorEq, Value.mapping.injEq] at hroot
      rename_i sources
      rw [normalizeEntriesFor_eq_map] at hroot
      obtain ⟨name, hname⟩ := exists_mem_of_mem_select (hroot ▸ hentry)
      obtain ⟨⟨origin, before⟩, horigin, hpair⟩ := mem_map.mp hname
      obtain ⟨-, rfl⟩ := Prod.mk.inj hpair
      obtain ⟨source, hsource, hresult⟩ := ih rfl
      exact ⟨source, .entry horigin hsource, hresult⟩

/-! ## What becomes of every mapping

The statement names no pass: it says of each name, of each key and of each entry for
another product what has become of it.
-/

/-- The entries of a mapping are resolved for a product. -/
structure Resolves (product : Product) (source result : Entries) : Prop where
  /-- No key reads as a text with an `@` in it. -/
  plain : ∀ key ∈ result.map (·.1), ¬ IsQualified key
  /-- A name stands for the last entry that is qualified for the product, and without one for the
  plain entry. -/
  named : ∀ name : String, '@' ∉ name.toList →
    Value.lookup name result =
      (((source.filter fun entry =>
          entry.1.text? = some (name ++ "@" ++ product.id)).getLast?.map (·.2)).or
        (Value.lookup name source)).map product.normalize
  /-- Without the entries for other products the result is the same. -/
  foreign : product.normalize (.mapping (source.filter fun entry =>
    ¬ (IsQualified entry.1 ∧ nameFor? product.id entry.1 = none))) = .mapping result
  /-- Entries whose keys are no texts keep their places among each other, and their values. -/
  unnamed : (result.filter fun entry => !entry.1.isString) =
    (source.filter fun entry => !entry.1.isString && ¬ IsQualified entry.1).map
      fun entry => (entry.1, product.normalize entry.2)
  /-- The plain keys come first, and then the names that have no plain entry. -/
  keys : result.map (·.1) =
    (source.map (·.1)).filter (fun key => ¬ IsQualified key) ++
      ((((source.map (·.1)).filterMap (nameFor? product.id)).filter fun name =>
        (Value.lookup name source).isNone).eraseDups).map Value.string

/-- What a value has become for a product: mappings are resolved, sequences keep their items in
their places, and all other values, tagged ones among them, are as they were. -/
inductive ResolvedFor (product : Product) : Value → Value → Prop
  | mapping {source result : Entries} (hresolves : Resolves product source result) :
      ResolvedFor product (.mapping source) (.mapping result)
  | sequence (items : List Value) :
      ResolvedFor product (.sequence items) (.sequence (items.map product.normalize))
  | other {value : Value} (hmapping : ∀ entries, value ≠ .mapping entries)
      (hsequence : ∀ items, value ≠ .sequence items) : ResolvedFor product value value

theorem normalize_mapping (product : Product) (source : Entries) :
    product.normalize (.mapping source) = .mapping (select product.id
      (source.map fun entry => (entry.1, product.normalize entry.2))) := by
  rw [normalize, normalizeFor, normalizeEntriesFor_eq_map]
  rfl

section

variable {product : Product} {name : String} {source result : Entries}
  (hresult : product.normalize (.mapping source) = .mapping result)

include hresult

/-- What stands under a plain name holds for the product. -/
theorem lookup_of_normalize (hplain : product.IsPlainAmong name source) :
    Value.lookup name result = (Value.lookup name source).map product.normalize := by
  rw [normalize_mapping] at hresult
  rw [← Value.mapping.inj hresult, lookup_select_of_isPlainAmong (hplain.map product.normalize),
    Value.lookup_map]

/-- With another value under a plain name the result has this value under it. -/
theorem normalize_store (hplain : product.IsPlainAmong name source)
    (hthere : (Value.lookup name source).isSome) (value : Value) :
    product.normalize (.mapping (Value.store (.string name) value source)) =
      .mapping (Value.store (.string name) (product.normalize value) result) := by
  rw [normalize_mapping] at hresult ⊢
  rw [← Value.mapping.inj hresult, Value.map_store,
    select_store (hplain.map product.normalize) (by rwa [Value.lookup_map, Option.isSome_map])]

end

/-- Whether an entry stays does not depend on its value. -/
private theorem filter_map_normalize (product : Product) (keep : Value → Bool)
    (source : Entries) :
    (source.map fun entry => (entry.1, product.normalize entry.2)).filter
        (fun entry => keep entry.1) =
      (source.filter fun entry => keep entry.1).map
        fun entry => (entry.1, product.normalize entry.2) := by
  rw [filter_map]
  rfl

theorem resolves_select (product : Product) (source : Entries) :
    Resolves product source (select product.id
      (source.map fun entry => (entry.1, product.normalize entry.2))) where
  plain := by
    intro key hkey
    rw [keys_select, mem_append] at hkey
    rcases hkey with hplain | hname
    · simpa using (mem_filter.mp hplain).2
    · obtain ⟨name, hnew, rfl⟩ := mem_map.mp hname
      have hmem := (mem_filter.mp (mem_eraseDups.mp hnew)).1
      obtain ⟨key, -, hkey⟩ := mem_filterMap.mp hmem
      exact not_isQualified_string (nameFor?_eq_some_iff.mp hkey).1
  named := by
    intro name hname
    rw [lookup_select hname, Value.lookup_map, Option.map_or,
      filter_map_normalize product (fun key => key.text? = some (name ++ "@" ++ product.id)),
      getLast?_map, Option.map_map, Option.map_map]
    rfl
  foreign := by
    rw [normalize_mapping,
      ← filter_map_normalize product
        (fun key => ¬ (IsQualified key ∧ nameFor? product.id key = none)),
      select_filter_nameFor?]
  unnamed := by
    rw [select_eq_storeAll, Value.filter_storeAll, filter_filter,
      ← filter_map_normalize product (fun key => !key.isString && ¬ IsQualified key)]
  keys := by
    have hkeys : (source.map fun entry => (entry.1, product.normalize entry.2)).map (·.1) =
        source.map (·.1) := by
      rw [map_map]
      rfl
    rw [keys_select, hkeys]
    simp only [Value.lookup_map, Option.isNone_map]

theorem resolvedFor_normalize (product : Product) (value : Value) :
    ResolvedFor product value (product.normalize value) := by
  cases value with
  | mapping source =>
      rw [normalize_mapping]
      exact .mapping (resolves_select product source)
  | sequence items =>
      rw [normalize, normalizeFor, normalizeItemsFor_eq_map]
      exact .sequence items
  | _ => exact .other (by simp) (by simp)

/-- A value is resolved for a product, and so is every value that is reached in the result. -/
theorem normalize_resolves_every_mapping (product : Product) (value : Value) :
    ResolvedFor product value (product.normalize value) ∧
      ∀ result, (product.normalize value).Reaches result →
        ∃ source, value.Reaches source ∧ product.normalize source = result ∧
          ResolvedFor product source result := by
  refine ⟨resolvedFor_normalize product value, fun result hreaches => ?_⟩
  obtain ⟨source, hsource, rfl⟩ := exists_reaches_of_reaches_normalizeFor hreaches
  exact ⟨source, hsource, rfl, resolvedFor_normalize product source⟩

/-! ## A value to look at

Below a sequence stands a template in which one name has two values for the product, one before
and one after the plain value, one of them with its key under a tag.  A key that is no text has
a value too, and a name has one for a product whose identifier has an `@` in it.
-/

namespace Sample

/-- The entries of a template. -/
def template : Entries :=
  [(.string "variable@rhel9", .string "early"), (.integer 3, .bool true),
    (.string "variable", .string "plain"), (.string "size@rhel9@beta", .integer 1),
    (.tagged "hint" (.string "variable@rhel9"), .string "late"),
    (.string "size@rhel9", .integer 2)]

/-- A definition with the template in a sequence. -/
def definition : Value := .mapping [(.string "templates", .sequence [.mapping template])]

/-- The product that the template is resolved for. -/
def rhel9 : Product := .new "rhel9" "guide"

/-- The template for the product. -/
def resolved : Entries :=
  [(.integer 3, .bool true), (.string "variable", .string "late"), (.string "size", .integer 2)]

end Sample

theorem normalize_resolves_template_in_sequence :
    (Sample.rhel9.normalize Sample.definition).Reaches (.mapping Sample.resolved) ∧
      ∃ source, Sample.definition.Reaches source ∧
        Sample.rhel9.normalize source = .mapping Sample.resolved ∧
        ResolvedFor Sample.rhel9 source (.mapping Sample.resolved) := by
  have hresult : Sample.rhel9.normalize Sample.definition =
      .mapping [(.string "templates", .sequence [.mapping Sample.resolved])] := by
    rfl
  have hreaches :
      (Sample.rhel9.normalize Sample.definition).Reaches (.mapping Sample.resolved) := by
    rw [hresult]
    exact .entry mem_cons_self (.item mem_cons_self (.refl _))
  obtain ⟨-, hparts⟩ := normalize_resolves_every_mapping Sample.rhel9 Sample.definition
  exact ⟨hreaches, hparts _ hreaches⟩

end Compliance.Product
