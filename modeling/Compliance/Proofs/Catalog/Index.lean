import Mathlib.Data.Finset.Card
import Mathlib.Data.Finset.Dedup
import Compliance.Proofs.Catalog.Forest

/-!
# What an index answers

An index is filled node by node.  Each node adds its identifier to those that are
known, which never loses one, and takes its label from the node that had it
before.  So after a list of nodes the known identifiers are those of the list
(`contains_foldl_add`) and a label stands for the last node that has it
(`get?_byLabel_foldl_add`).

The list of nodes for a forest is `Control.nodesBelow depthLimit`, and
`resolve_build_eq_last_label` says all answers of the index in terms of it.
-/

namespace Compliance

/-! ## Tables as sets of keys -/

namespace Table

variable {α : Type}

/-- A table contains the keys of its entries. -/
theorem contains_eq_true_iff_mem_keys {table : Table α} {key : String} :
    table.contains key = true ↔ key ∈ table.keys := by
  have hfind : ∀ entries : List (String × α),
      (find key entries).isSome = true ↔ key ∈ entries.map (·.1) := by
    intro entries
    induction entries with
    | nil => simp [find]
    | cons entry rest ih =>
        obtain ⟨name, value⟩ := entry
        by_cases hname : key = name
        · simp [find, hname]
        · simp [find, hname, ih]
  exact hfind table.entries

/-- No key of a table has two entries. -/
theorem nodup_keys (table : Table α) : table.keys.Nodup := by
  have hkeys : table.keys.Pairwise (· < ·) := List.pairwise_map.mpr table.sorted
  refine hkeys.imp fun {first second} hlt heq => ?_
  rw [heq] at hlt
  exact String.lt_irrefl second hlt

/-- The size of a table is the number of the keys that it contains. -/
theorem size_eq_card {table : Table α} {contained : Finset String}
    (hcontained : ∀ key, table.contains key = true ↔ key ∈ contained) :
    table.size = contained.card := by
  have hset : table.keys.toFinset = contained := by
    ext key
    rw [List.mem_toFinset, ← contains_eq_true_iff_mem_keys, hcontained]
  rw [← hset, List.toFinset_card_of_nodup table.nodup_keys, keys, List.length_map, size]

end Table

namespace CatalogIndex

/-! ## One node after the other -/

/-- A node adds its identifier to the known ones. -/
theorem contains_add (index : CatalogIndex) (node : String × Option String) (id : String) :
    (index.add node).contains id = true ↔ node.1 = id ∨ index.contains id = true := by
  simp only [add, contains, Table.contains, Table.get?_insert]
  by_cases hid : id = node.1
  · simp [hid]
  · simp [hid, Ne.symm hid]

/-- A node takes its label from the node that had it before. -/
theorem get?_byLabel_add (index : CatalogIndex) (node : String × Option String) (label : String) :
    (index.add node).byLabel.get? label =
      if node.2 = some label then some node.1 else index.byLabel.get? label := by
  obtain ⟨id, own⟩ := node
  cases own with
  | none => simp [add]
  | some own =>
      simp only [add, Table.get?_insert, Option.some.injEq]
      by_cases howner : label = own
      · simp [howner]
      · simp [howner, Ne.symm howner]

/-- Some nodes add their identifiers to the known ones. -/
theorem contains_foldl_add (nodes : List (String × Option String)) (index : CatalogIndex)
    (id : String) :
    (nodes.foldl add index).contains id = true ↔
      (∃ node ∈ nodes, node.1 = id) ∨ index.contains id = true := by
  induction nodes generalizing index with
  | nil => simp
  | cons node others ih =>
      rw [List.foldl_cons, ih, contains_add]
      simp only [List.mem_cons, exists_eq_or_imp]
      grind

/-- After some nodes a label stands for the last one that has it, and otherwise for what it stood
for before. -/
theorem get?_byLabel_foldl_add (nodes : List (String × Option String)) (index : CatalogIndex)
    (label : String) :
    (nodes.foldl add index).byLabel.get? label =
      ((nodes.filter fun node => node.2 = some label).getLast?.map (·.1)).or
        (index.byLabel.get? label) := by
  induction nodes generalizing index with
  | nil => rfl
  | cons node others ih =>
      rw [List.foldl_cons, ih, get?_byLabel_add]
      by_cases hlabel : node.2 = some label
      · rw [List.filter_cons_of_pos (by simpa using hlabel), List.getLast?_cons, if_pos hlabel]
        cases (others.filter fun node => node.2 = some label).getLast? <;> rfl
      · rw [List.filter_cons_of_neg (by simpa using hlabel), if_neg hlabel]

/-! ## The index of a forest -/

variable {forest : List Control}

open Control

/-- The index of a forest is filled with the nodes above the depth limit. -/
theorem build_eq_foldl_nodesBelow (forest : List Control) :
    build forest = ((nodesBelow depthLimit forest).map names).foldl add ⟨∅, ∅⟩ := by
  rw [build, preorderAll_eq_map_nodesBelow]

/-- The known identifiers are those of the nodes above the depth limit. -/
theorem contains_build_iff {id : String} :
    (build forest).contains id = true ↔ ∃ node ∈ nodesBelow depthLimit forest, node.id = id := by
  rw [build_eq_foldl_nodesBelow, contains_foldl_add]
  simp [names, contains, Table.contains]

/-- A label stands for the last node above the depth limit that has it. -/
theorem get?_byLabel_build (label : String) :
    (build forest).byLabel.get? label =
      ((nodesBelow depthLimit forest).filter fun node => node.label = some label).getLast?.map
        Control.id := by
  rw [build_eq_foldl_nodesBelow, get?_byLabel_foldl_add, List.filter_map, List.getLast?_map,
    Option.map_map, Table.get?_empty, Option.or_none]
  rfl

/-- What a label stands for is a known identifier. -/
theorem contains_build_of_get?_byLabel {label id : String}
    (hget : (build forest).byLabel.get? label = some id) : (build forest).contains id = true := by
  rw [get?_byLabel_build] at hget
  obtain ⟨node, hlast, rfl⟩ := Option.map_eq_some_iff.mp hget
  have hmem := (List.mem_filter.mp (List.mem_of_getLast? hlast)).1
  exact contains_build_iff.mpr ⟨node, hmem, rfl⟩

/-- A forest and its levels above the depth limit have one index. -/
theorem build_topLevels (forest : List Control) :
    build (topLevels depthLimit forest) = build forest := by
  rw [build, build, preorderAll_topLevels]

/-- A name stands for the last node that has it as its label, and without such a node for itself if
it is a known identifier. The nodes in question are those above the depth limit, in pre-order; what
is deeper has no influence. -/
theorem resolve_build_eq_last_label (forest : List Control) :
    (∀ name, (build forest).resolve name =
      match ((nodesBelow depthLimit forest).filter fun node => node.label = some name).getLast? with
      | some node => some node.id
      | none => if ∃ node ∈ nodesBelow depthLimit forest, node.id = name then some name else none) ∧
    (∀ name id, (build forest).resolve name = some id → (build forest).contains id = true) ∧
    (∀ other, topLevels depthLimit other = topLevels depthLimit forest →
      build other = build forest) ∧
    (∀ id, (build forest).contains id = true →
      (∀ node ∈ nodesBelow depthLimit forest, node.label ≠ some id) →
        (build forest).resolve id = some id) ∧
    (build forest).size = ((nodesBelow depthLimit forest).map Control.id).toFinset.card := by
  have hresolve : ∀ name, (build forest).resolve name =
      match ((nodesBelow depthLimit forest).filter fun node => node.label = some name).getLast? with
      | some node => some node.id
      | none => if ∃ node ∈ nodesBelow depthLimit forest, node.id = name then some name
          else none := by
    intro name
    simp only [resolve, get?_byLabel_build, contains_build_iff]
    cases ((nodesBelow depthLimit forest).filter fun node => node.label = some name).getLast? <;>
      rfl
  refine ⟨hresolve, ?known, ?deep, ?unlabelled, ?size⟩
  case known =>
    intro name id hid
    rw [resolve] at hid
    split at hid
    · rename_i found hget
      obtain rfl := Option.some.inj hid
      exact contains_build_of_get?_byLabel hget
    · split at hid
      · rename_i hcontains
        obtain rfl := Option.some.inj hid
        exact hcontains
      · cases hid
  case deep =>
    intro other htop
    rw [← build_topLevels other, htop, build_topLevels]
  case unlabelled =>
    intro id hcontains hlabels
    have hnone : (nodesBelow depthLimit forest).filter (fun node => node.label = some id) = [] :=
      List.filter_eq_nil_iff.mpr fun node hmem => by simpa using hlabels node hmem
    rw [hresolve, hnone]
    exact if_pos (contains_build_iff.mp hcontains)
  case size =>
    refine Table.size_eq_card fun id => ?_
    rw [List.mem_toFinset, List.mem_map]
    exact contains_build_iff

/-- Nodes under sixty-four controls of one identifier, beside a control with a part and one that has
the identifier of the first one as its label. -/
def sampleForest (deep : List Control) : List Control :=
  [.mk "x" none none [.mk "x.a" (some "a.") none []], .mk "y" (some "x") none []] ++
    Nat.repeat (fun parts => [.mk "level" none none parts]) depthLimit deep

/-- A label counts before an identifier, but not one at the depth limit. -/
theorem resolve_build_of_label_at_limit :
    (build (sampleForest [.mk "z" (some "x") none []])).resolve "x" = some "y" ∧
      (build (sampleForest [.mk "z" (some "x") none []])).contains "y" = true ∧
      build (sampleForest []) = build (sampleForest [.mk "z" (some "x") none []]) ∧
      (build (sampleForest [.mk "z" (some "x") none []])).resolve "x.a" = some "x.a" ∧
      (build (sampleForest [.mk "z" (some "x") none []])).size = 4 := by
  obtain ⟨hresolve, hknown, hdeep, hunlabelled, hsize⟩ :=
    resolve_build_eq_last_label (sampleForest [.mk "z" (some "x") none []])
  have hx : (build (sampleForest [.mk "z" (some "x") none []])).resolve "x" = some "y" :=
    (hresolve "x").trans (by decide +kernel)
  have hpart : (build (sampleForest [.mk "z" (some "x") none []])).contains "x.a" = true :=
    contains_build_iff.mpr (by decide +kernel)
  exact ⟨hx, hknown "x" "y" hx, hdeep _ rfl, hunlabelled "x.a" hpart (by decide +kernel),
    hsize.trans (by decide +kernel)⟩

end CatalogIndex

end Compliance
