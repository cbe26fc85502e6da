import Compliance.Table
import Mathlib.Data.List.Basic

/-!
# Tables of what items say

Options and parameters are looked up in tables that are made from a list of items, some of
which say what a key stands for.  Of two items that speak of one key the later one counts
(`get?_ofList_filterMap_eq_some_iff`), and a key is known if some item speaks of it.  Where
no entry may take the place of another one it is the earlier one (`get?_foldl_insertNew`,
`lookup_filterMap_eq_some_iff`).
-/

namespace Compliance

open List

/-- In a list that is in order the last item of a kind is the one that the others precede. -/
private theorem exists_split_iff_of_pairwise {α : Type} {related : α → α → Prop}
    {items : List α} (hordered : items.Pairwise related)
    (hasymm : ∀ first second, related first second → ¬ related second first)
    (kind : α → Prop) (item : α) :
    (∃ before after, items = before ++ item :: after ∧ ∀ later ∈ after, ¬ kind later) ↔
      item ∈ items ∧ ∀ other ∈ items, kind other → other ≠ item → related other item := by
  constructor
  · rintro ⟨before, after, rfl, hafter⟩
    refine ⟨by simp, ?_⟩
    intro other hother hkind hne
    rw [mem_append, mem_cons] at hother
    rcases hother with hother | heq | hother
    · exact (pairwise_append.mp hordered).2.2 other hother item mem_cons_self
    · exact absurd heq hne
    · exact absurd hkind (hafter other hother)
  · rintro ⟨hitem, hothers⟩
    obtain ⟨before, after, rfl⟩ := append_of_mem hitem
    refine ⟨before, after, rfl, ?_⟩
    intro later hlater hkind
    have hrelated : related item later :=
      (pairwise_cons.mp (pairwise_append.mp hordered).2.1).1 later hlater
    have hne : later ≠ item := by
      rintro rfl
      exact hasymm _ _ hrelated hrelated
    exact hasymm _ _ hrelated (hothers later (by simp [hlater]) hkind hne)

namespace Table

variable {α β : Type}

/-- The first item that says something about a key decides what a look-up finds. -/
theorem lookup_filterMap_eq_some_iff {entryOf : β → Option (String × α)} {items : List β}
    {key : String} {value : α} :
    (items.filterMap entryOf).lookup key = some value ↔
      ∃ before item after, items = before ++ item :: after ∧ entryOf item = some (key, value) ∧
        ∀ earlier ∈ before, ∀ other, entryOf earlier ≠ some (key, other) := by
  rw [lookup_eq_some_iff]
  constructor
  · rintro ⟨others, rest, hsplit, hothers⟩
    obtain ⟨front, back, rfl, hfront, hback⟩ := filterMap_eq_append_iff.mp hsplit
    obtain ⟨silent, item, after, rfl, hsilent, hitem, -⟩ := filterMap_eq_cons_iff.mp hback
    refine ⟨front ++ silent, item, after, by simp, hitem, ?_⟩
    intro earlier hearlier other hentry
    rcases mem_append.mp hearlier with hearlier | hearlier
    · have hmem : (key, other) ∈ others := hfront ▸ mem_filterMap.mpr ⟨earlier, hearlier, hentry⟩
      simpa using hothers _ hmem
    · rw [hsilent earlier hearlier] at hentry
      cases hentry
  · rintro ⟨before, item, after, rfl, hitem, hbefore⟩
    refine ⟨before.filterMap entryOf, after.filterMap entryOf, by simp [hitem], ?_⟩
    rintro ⟨name, other⟩ hmem
    obtain ⟨earlier, hearlier, hentry⟩ := mem_filterMap.mp hmem
    rw [bne_iff_ne]
    rintro rfl
    exact hbefore earlier hearlier other hentry

/-- The last item that says something about a key decides. -/
theorem get?_ofList_filterMap_eq_some_iff {entryOf : β → Option (String × α)} {items : List β}
    {key : String} {value : α} :
    (ofList (items.filterMap entryOf)).get? key = some value ↔
      ∃ before item after, items = before ++ item :: after ∧ entryOf item = some (key, value) ∧
        ∀ later ∈ after, ∀ other, entryOf later ≠ some (key, other) := by
  rw [get?_ofList, ← filterMap_reverse, lookup_filterMap_eq_some_iff]
  constructor
  · rintro ⟨after, item, before, hitems, hitem, hafter⟩
    refine ⟨before.reverse, item, after.reverse, ?_, hitem, fun later hlater =>
      hafter later (mem_reverse.mp hlater)⟩
    rw [← reverse_reverse items, hitems]
    simp
  · rintro ⟨before, item, after, rfl, hitem, hafter⟩
    exact ⟨after.reverse, item, before.reverse, by simp, hitem, fun later hlater =>
      hafter later (mem_reverse.mp hlater)⟩

/-- Entries whose keys are taken are not stored, so the first entry for a new key counts. -/
theorem get?_foldl_insertNew (entries : List (String × α)) (table : Table α) (key : String) :
    (entries.foldl (fun table entry => table.insertNew entry.1 entry.2) table).get? key =
      (table.get? key).or (entries.lookup key) := by
  induction entries generalizing table with
  | nil => simp
  | cons entry rest ih =>
      obtain ⟨name, value⟩ := entry
      rw [foldl_cons, ih, get?_insertNew, Option.or_assoc]
      by_cases hkey : key = name
      · simp [hkey]
      · simp [hkey, lookup_cons, beq_eq_false_iff_ne.mpr hkey]

/-- Of items in order the one decides that all others which speak of the key precede. -/
theorem get?_ofList_filterMap_eq_some_iff_of_pairwise {entryOf : β → Option (String × α)}
    {items : List β} {related : β → β → Prop} (hordered : items.Pairwise related)
    (hasymm : ∀ first second, related first second → ¬ related second first) {key : String}
    {value : α} :
    (ofList (items.filterMap entryOf)).get? key = some value ↔
      ∃ item ∈ items, entryOf item = some (key, value) ∧
        ∀ other ∈ items, (∃ found, entryOf other = some (key, found)) → other ≠ item →
          related other item := by
  rw [get?_ofList_filterMap_eq_some_iff]
  have hlast := exists_split_iff_of_pairwise hordered hasymm
    fun other => ∃ found, entryOf other = some (key, found)
  constructor
  · rintro ⟨before, item, after, hsplit, hentry, hafter⟩
    obtain ⟨hitem, hothers⟩ := (hlast item).mp
      ⟨before, after, hsplit, fun later hlater ⟨_, hother⟩ => hafter later hlater _ hother⟩
    exact ⟨item, hitem, hentry, hothers⟩
  · rintro ⟨item, hitem, hentry, hothers⟩
    obtain ⟨before, after, hsplit, hafter⟩ := (hlast item).mpr ⟨hitem, hothers⟩
    exact ⟨before, item, after, hsplit, hentry,
      fun later hlater _ hother => hafter later hlater ⟨_, hother⟩⟩

theorem exists_get?_ofList_filterMap_iff {entryOf : β → Option (String × α)} {items : List β}
    {key : String} :
    (∃ value, (ofList (items.filterMap entryOf)).get? key = some value) ↔
      ∃ item ∈ items, ∃ value, entryOf item = some (key, value) := by
  rw [← Option.isSome_iff_exists, get?_ofList, lookup_isSome_iff]
  simp only [mem_reverse, mem_filterMap, beq_iff_eq, Prod.exists]
  constructor
  · rintro ⟨name, value, ⟨item, hitem, hentry⟩, rfl⟩
    exact ⟨item, hitem, value, hentry⟩
  · rintro ⟨item, hitem, value, hentry⟩
    exact ⟨key, value, ⟨item, hitem, hentry⟩, rfl⟩

end Table

end Compliance
