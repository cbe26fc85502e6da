import Compliance.Proofs.Files.Scan
import Compliance.Proofs.Path
import Mathlib.Data.List.Lex

/-!
# What scans find, and in which order

A scan sorts the entries of each directory by their names and goes into a directory where
it meets it.  Together this puts what it finds into the order of the whole paths, in which
paths are compared name by name (`pairwise_filesBelow`, `pairwise_outermost`): two paths
part at some directory, and there the octets of the names decide.  It does not matter
whether one of the names is a beginning of the other, or whether a file stands between two
directories.

What is found can be told without the scan, by looking places up in the tree
(`mem_filesBelow_iff`, `mem_outermost_iff`).  Both need that the names in the tree are such
as entries can have, since a path would lead elsewhere with a name like `..` in it.
-/

namespace Compliance

open List

namespace Path

/-- A path leads to a place below a directory, or to the directory itself. -/
def IsBelow (directory path : Path) : Prop :=
  ∃ names, (∀ name ∈ names, IsName name) ∧ path = directory.below names

theorem isBelow_refl (directory : Path) : directory.IsBelow directory :=
  ⟨[], by simp, rfl⟩

/-- Two paths that part at a directory are in the order of the names that they go on with. -/
theorem precedes_of_isBelow_join {directory first second : Path} {before after : RawText}
    (hbefore : IsName before) (hafter : IsName after) (hlt : before < after)
    (hfirst : (directory.join before).IsBelow first)
    (hsecond : (directory.join after).IsBelow second) : first.Precedes second := by
  obtain ⟨names, hnames, rfl⟩ := hfirst
  obtain ⟨others, hothers, rfl⟩ := hsecond
  rw [Precedes, steps_below _ hnames, steps_below _ hothers, steps_join _ hbefore,
    steps_join _ hafter, append_assoc, append_assoc]
  exact Lex.append_left (fun name other : RawText => name < other) (.rel hlt) _

end Path

namespace FileTree

/-- A tree as it can be stored: the entries of each directory have names, all of them different. -/
inductive IsWellNamed : FileTree → Prop
  | leaf {tree : FileTree} (hleaf : tree.isDirectory = false) : IsWellNamed tree
  | directory {entries : Entries} (distinct : (entries.map (·.1)).Nodup)
      (named : ∀ entry ∈ entries, Path.IsName entry.1)
      (below : ∀ entry ∈ entries, IsWellNamed entry.2) : IsWellNamed (.directory entries)

@[simp] theorem isWellNamed_file (text : Option String) : (file text).IsWellNamed := .leaf rfl

theorem isWellNamed_directory_iff {entries : Entries} :
    (directory entries).IsWellNamed ↔
      (entries.map (·.1)).Nodup ∧ ∀ entry ∈ entries, Path.IsName entry.1 ∧ entry.2.IsWellNamed := by
  constructor
  · rintro (hleaf | ⟨hdistinct, hnames, hbelow⟩)
    · cases hleaf
    · exact ⟨hdistinct, fun entry hentry => ⟨hnames entry hentry, hbelow entry hentry⟩⟩
  · rintro ⟨hdistinct, hentries⟩
    exact .directory hdistinct (fun entry hentry => (hentries entry hentry).1)
      fun entry hentry => (hentries entry hentry).2

/-! ## Looking places up -/

theorem get?_cons_eq_some_iff {entries : Entries} (hdistinct : (entries.map (·.1)).Nodup)
    {name : RawText} {names : List RawText} {tree : FileTree} :
    (directory entries).get? (name :: names) = some tree ↔
      ∃ inner, (name, inner) ∈ entries ∧ inner.get? names = some tree := by
  rw [get?_directory_cons, Option.bind_eq_some_iff]
  simp only [lookup_eq_some_iff_mem hdistinct]

theorem get?_append_singleton_of_leaf {tree : FileTree} (hleaf : tree.isDirectory = false)
    (names : List RawText) (name : RawText) : tree.get? (names ++ [name]) = none := by
  cases tree with
  | file text => cases names <;> rfl
  | other fault => cases names <;> rfl
  | directory entries => cases hleaf

theorem IsWellNamed.isName_of_get? {tree inner : FileTree} (hnamed : tree.IsWellNamed)
    {names : List RawText} (hget : tree.get? names = some inner) :
    ∀ name ∈ names, Path.IsName name := by
  induction hnamed generalizing names with
  | leaf hleaf =>
      rcases eq_nil_or_concat names with rfl | ⟨parents, name, rfl⟩
      · simp
      · rw [concat_eq_append, get?_append_singleton_of_leaf hleaf] at hget
        cases hget
  | directory hdistinct hnames _ ih =>
      cases names with
      | nil => simp
      | cons name names =>
          obtain ⟨child, hchild, hget⟩ := (get?_cons_eq_some_iff hdistinct).mp hget
          exact forall_mem_cons.mpr ⟨hnames _ hchild, ih _ hchild hget⟩

/-! ## Trees under a path -/

theorem IsWellNamed.seenUnder {tree : FileTree} (hnamed : tree.IsWellNamed) (path : Path) :
    (tree.seenUnder path).IsWellNamed := by
  induction hnamed generalizing path with
  | leaf hleaf =>
      rw [seenUnder_of_leaf hleaf]
      exact .leaf hleaf
  | @directory entries hdistinct hnames _ ih =>
      rw [FileTree.seenUnder, isWellNamed_directory_iff, map_fst_entriesUnder,
        entriesUnder_eq_map]
      refine ⟨hdistinct, fun seen hseen => ?_⟩
      obtain ⟨entry, hentry, rfl⟩ := mem_map.mp hseen
      refine ⟨hnames entry hentry, ?_⟩
      dsimp only
      rw [entryUnder]
      split
      · exact ih entry hentry _
      · exact .leaf rfl

/-- All that is in a tree can be reached below a path. -/
def FitsUnder (tree : FileTree) (path : Path) : Prop :=
  ∀ names inner, tree.get? names = some inner → (path.below names).fits = true

/-- A tree all of which can be reached is seen as it is. -/
theorem IsWellNamed.seenUnder_eq_self {tree : FileTree} (hnamed : tree.IsWellNamed) {path : Path}
    (hfits : tree.FitsUnder path) : tree.seenUnder path = tree := by
  induction hnamed generalizing path with
  | leaf hleaf => exact seenUnder_of_leaf hleaf path
  | @directory entries hdistinct _ _ ih =>
      have hentries : ∀ entry ∈ entries, (entry.1, entryUnder path entry.1 entry.2) = id entry := by
        rintro ⟨name, inner⟩ hentry
        have hbelow : inner.FitsUnder (path.join name) := by
          intro names tree hget
          exact hfits (name :: names) tree
            ((get?_cons_eq_some_iff hdistinct).mpr ⟨inner, hentry, hget⟩)
        have hname : (path.join name).fits = true := hbelow [] inner (get?_nil inner)
        simp only [entryUnder, if_pos hname, ih _ hentry hbelow, id]
      rw [FileTree.seenUnder, entriesUnder_eq_map, map_congr_left hentries, map_id]

/-! ## Entries in the order of their names -/

section

variable {α : Type}

theorem mem_flatMap_inOrder (content : RawText → FileTree → List α) {entries : Entries} {item : α} :
    item ∈ (inOrder (entries.map fun entry => (entry.1, content entry.1 entry.2))).flatMap (·.2) ↔
      ∃ entry ∈ entries, item ∈ content entry.1 entry.2 := by
  simp only [mem_flatMap, (perm_inOrder _).mem_iff, mem_map, exists_exists_and_eq_and]

theorem inOrder_singleton (entry : RawText × α) : inOrder [entry] = [entry] :=
  mergeSort_singleton ..

theorem pairwise_lt_inOrder {named : List (RawText × α)} (hdistinct : (named.map (·.1)).Nodup) :
    (inOrder named).Pairwise fun first second => first.1 < second.1 := by
  have hordered := pairwise_map_fst_inOrder named
  have hnodup : ((inOrder named).map (·.1)).Nodup :=
    ((perm_inOrder named).map _).nodup_iff.mpr hdistinct
  rw [pairwise_map] at hordered
  rw [Nodup, pairwise_map] at hnodup
  refine hordered.imp₂ ?_ hnodup
  intro first second hle hne
  by_contra hlt
  exact hne (RawText.le_antisymm hle (RawText.not_lt.mp hlt))

/-- Entries whose names increase are the same entries in order. -/
theorem inOrder_eq_of_perm {named ordered : List (RawText × α)} (hperm : named.Perm ordered)
    (hordered : ordered.Pairwise fun first second => first.1 < second.1) :
    inOrder named = ordered := by
  have hdistinct : (named.map (·.1)).Nodup := by
    rw [(hperm.map _).nodup_iff, Nodup, pairwise_map]
    exact hordered.imp fun hlt => RawText.ne_of_lt hlt
  have hsame : (inOrder named).Perm ordered := (perm_inOrder named).trans hperm
  refine hsame.eq_of_pairwise ?_ (pairwise_lt_inOrder hdistinct) hordered
  intro first second _ _ hlt hgt
  exact absurd hgt (RawText.lt_asymm hlt)

/-- What is found below a directory is in the order of the paths, if what is found at each of its
entries is. -/
theorem pairwise_flatMap_inOrder (content : RawText → FileTree → List α) {entries : Entries}
    (path : Path) (pathOf : α → Path) (hdistinct : (entries.map (·.1)).Nodup)
    (hnames : ∀ entry ∈ entries, Path.IsName entry.1)
    (hbelow : ∀ entry ∈ entries, ∀ item ∈ content entry.1 entry.2,
      (path.join entry.1).IsBelow (pathOf item))
    (hordered : ∀ entry ∈ entries, (content entry.1 entry.2).Pairwise
      fun first second => (pathOf first).Precedes (pathOf second)) :
    ((inOrder (entries.map fun entry => (entry.1, content entry.1 entry.2))).flatMap
      (·.2)).Pairwise fun first second => (pathOf first).Precedes (pathOf second) := by
  have hlt : (inOrder (entries.map fun entry => (entry.1, content entry.1 entry.2))).Pairwise
      fun before after => before.1 < after.1 := by
    apply pairwise_lt_inOrder
    rw [map_map]
    exact hdistinct
  rw [pairwise_flatMap]
  constructor
  · intro named hnamed
    obtain ⟨entry, hentry, rfl⟩ := mem_map.mp ((perm_inOrder _).mem_iff.mp hnamed)
    exact hordered entry hentry
  · refine hlt.imp_of_mem ?_
    intro before after hbefore hafter hlt first hfirst second hsecond
    obtain ⟨entry, hentry, rfl⟩ := mem_map.mp ((perm_inOrder _).mem_iff.mp hbefore)
    obtain ⟨other, hother, rfl⟩ := mem_map.mp ((perm_inOrder _).mem_iff.mp hafter)
    exact Path.precedes_of_isBelow_join (hnames entry hentry) (hnames other hother) hlt
      (hbelow entry hentry first hfirst) (hbelow other hother second hsecond)

end

/-! ## Files below a directory -/

/-- What stands at a place is no directory, and this is what comes of reading it. -/
def ReadsAs (tree : FileTree) (place : List RawText) (content : Except FileFault String) : Prop :=
  ∃ leaf, tree.get? place = some leaf ∧ leaf.isDirectory = false ∧ leaf.read = content

/-- A text is only read from a file. -/
theorem readsAs_ok_iff {tree : FileTree} {place : List RawText} {text : String} :
    tree.ReadsAs place (.ok text) ↔ tree.get? place = some (.file (some text)) := by
  constructor
  · rintro ⟨leaf, hget, -, hread⟩
    cases leaf with
    | file content =>
        cases content with
        | none => cases hread
        | some text =>
            obtain rfl := Except.ok.inj hread
            exact hget
    | other fault => cases hread
    | directory entries => cases hread
  · intro hget
    exact ⟨_, hget, rfl, rfl⟩

/-- What is found is all below the directory that is no directory and has a name that ends with the
suffix. -/
theorem mem_filesBelow_iff {tree : FileTree} (hnamed : tree.IsWellNamed) {suffix : String}
    {path : Path} {found : Found} :
    found ∈ filesBelow suffix path tree ↔
      ∃ parents name, endsWith suffix name = true ∧ tree.ReadsAs (parents ++ [name]) found.2 ∧
        found.1 = path.below (parents ++ [name]) := by
  induction hnamed generalizing path with
  | leaf hleaf =>
      simp [filesBelow_of_leaf hleaf, ReadsAs, get?_append_singleton_of_leaf hleaf]
  | @directory entries hdistinct _ _ ih =>
      rw [filesBelow, filesOf_eq_map, mem_flatMap_inOrder (foundAt suffix path)]
      constructor
      · rintro ⟨⟨name, inner⟩, hentry, hfound⟩
        cases hleaf : inner.isDirectory with
        | false =>
            rw [foundAt_of_leaf hleaf] at hfound
            split at hfound
            · rename_i hsuffix
              obtain rfl := mem_singleton.mp hfound
              refine ⟨[], name, hsuffix, ⟨inner, ?_, hleaf, rfl⟩, rfl⟩
              exact (get?_cons_eq_some_iff hdistinct).mpr ⟨_, hentry, get?_nil inner⟩
            · cases hfound
        | true =>
            obtain ⟨below, rfl⟩ := isDirectory_iff.mp hleaf
            obtain ⟨parents, last, hsuffix, ⟨leaf, hget, hread⟩, hpath⟩ := (ih _ hentry).mp hfound
            refine ⟨name :: parents, last, hsuffix, ⟨leaf, ?_, hread⟩, hpath⟩
            exact (get?_cons_eq_some_iff hdistinct).mpr ⟨_, hentry, hget⟩
      · rintro ⟨parents, last, hsuffix, ⟨leaf, hget, hleaf, hread⟩, hpath⟩
        cases parents with
        | nil =>
            obtain ⟨inner, hentry, hinner⟩ := (get?_cons_eq_some_iff hdistinct).mp hget
            obtain rfl : inner = leaf := by simpa using hinner
            refine ⟨_, hentry, ?_⟩
            rw [foundAt_of_leaf hleaf, if_pos hsuffix, mem_singleton]
            exact Prod.ext hpath hread.symm
        | cons name parents =>
            rw [cons_append] at hget
            obtain ⟨inner, hentry, hinner⟩ := (get?_cons_eq_some_iff hdistinct).mp hget
            refine ⟨_, hentry, ?_⟩
            cases hdirectory : inner.isDirectory with
            | false =>
                rw [get?_append_singleton_of_leaf hdirectory] at hinner
                cases hinner
            | true =>
                obtain ⟨below, rfl⟩ := isDirectory_iff.mp hdirectory
                exact (ih _ hentry).mpr
                  ⟨parents, last, hsuffix, ⟨leaf, hinner, hleaf, hread⟩, hpath⟩

theorem isBelow_of_mem_filesBelow {tree : FileTree} (hnamed : tree.IsWellNamed) {suffix : String}
    {path : Path} {found : Found} (hfound : found ∈ filesBelow suffix path tree) :
    path.IsBelow found.1 := by
  obtain ⟨parents, name, -, ⟨leaf, hget, -⟩, hpath⟩ := (mem_filesBelow_iff hnamed).mp hfound
  exact ⟨_, hnamed.isName_of_get? hget, hpath⟩

/-- Files are found in the order of their paths. -/
theorem pairwise_filesBelow {tree : FileTree} (hnamed : tree.IsWellNamed) (suffix : String)
    (path : Path) :
    (filesBelow suffix path tree).Pairwise fun first second => first.1.Precedes second.1 := by
  induction hnamed generalizing path with
  | leaf hleaf =>
      rw [filesBelow_of_leaf hleaf]
      exact .nil
  | directory hdistinct hnames hbelow ih =>
      rw [filesBelow, filesOf_eq_map]
      apply pairwise_flatMap_inOrder (foundAt suffix path) path (fun found : Found => found.1)
        hdistinct hnames
      · rintro ⟨name, inner⟩ hentry found hfound
        cases hleaf : inner.isDirectory with
        | false =>
            rw [foundAt_of_leaf hleaf] at hfound
            split at hfound
            · obtain rfl := mem_singleton.mp hfound
              exact Path.isBelow_refl _
            · cases hfound
        | true =>
            obtain ⟨below, rfl⟩ := isDirectory_iff.mp hleaf
            exact isBelow_of_mem_filesBelow (hbelow _ hentry) hfound
      · rintro ⟨name, inner⟩ hentry
        cases hleaf : inner.isDirectory with
        | false =>
            rw [foundAt_of_leaf hleaf]
            split
            · exact pairwise_singleton _ _
            · exact .nil
        | true =>
            obtain ⟨below, rfl⟩ := isDirectory_iff.mp hleaf
            exact ih _ hentry _

/-! ## Directories that hold a file -/

def HoldsFile (tree : FileTree) (file : RawText) (place : List RawText) : Prop :=
  ∃ text, tree.get? (place ++ [file]) = some (.file text)

/-- A directory holds a file, and no directory that it is in does. -/
structure IsOutermost (tree : FileTree) (file : RawText) (place : List RawText) : Prop where
  holds : tree.HoldsFile file place
  none_above : ∀ above, above <+: place → above ≠ place → ¬ tree.HoldsFile file above

theorem holdsFile_iff {entries : Entries} {file : RawText} :
    holdsFile file entries = true ↔ (directory entries).HoldsFile file [] := by
  rw [holdsFile, HoldsFile]
  simp only [nil_append, get?_directory_cons]
  cases entries.lookup file with
  | none => simp
  | some tree => cases tree <;> simp [isFile]

theorem not_holdsFile_of_leaf {tree : FileTree} (hleaf : tree.isDirectory = false) (file : RawText)
    (place : List RawText) : ¬ tree.HoldsFile file place := by
  rintro ⟨_, hget⟩
  rw [get?_append_singleton_of_leaf hleaf] at hget
  cases hget

theorem isOutermost_nil_iff {tree : FileTree} {file : RawText} :
    tree.IsOutermost file [] ↔ tree.HoldsFile file [] := by
  constructor
  · intro houtermost
    exact houtermost.holds
  · intro hholds
    refine ⟨hholds, ?_⟩
    intro above habove hne
    exact absurd (prefix_nil.mp habove) hne

/-- Below a directory that does not hold the file the outermost ones are those of its entries. -/
theorem isOutermost_cons_iff {entries : Entries} (hdistinct : (entries.map (·.1)).Nodup)
    {file name : RawText} {place : List RawText}
    (hnone : ¬ (directory entries).HoldsFile file []) :
    (directory entries).IsOutermost file (name :: place) ↔
      ∃ inner, (name, inner) ∈ entries ∧ inner.IsOutermost file place := by
  have hholds : ∀ place, (directory entries).HoldsFile file (name :: place) ↔
      ∃ inner, (name, inner) ∈ entries ∧ inner.HoldsFile file place := by
    intro place
    simp only [HoldsFile, cons_append, get?_cons_eq_some_iff hdistinct]
    constructor
    · rintro ⟨text, inner, hentry, hget⟩
      exact ⟨inner, hentry, text, hget⟩
    · rintro ⟨inner, hentry, text, hget⟩
      exact ⟨text, inner, hentry, hget⟩
  constructor
  · rintro ⟨hplace, habove⟩
    obtain ⟨inner, hentry, hinner⟩ := (hholds place).mp hplace
    refine ⟨inner, hentry, hinner, ?_⟩
    intro above hprefix hne hheld
    refine habove (name :: above) ?_ ?_ ((hholds above).mpr ⟨inner, hentry, hheld⟩)
    · exact (prefix_cons_inj name).mpr hprefix
    · simpa using hne
  · rintro ⟨inner, hentry, hplace, habove⟩
    refine ⟨(hholds place).mpr ⟨inner, hentry, hplace⟩, ?_⟩
    intro above hprefix hne hheld
    cases above with
    | nil => exact hnone hheld
    | cons first above =>
        obtain ⟨rfl, hrest⟩ := cons_prefix_cons.mp hprefix
        obtain ⟨other, hother, hheld⟩ := (hholds above).mp hheld
        -- the name has one entry only
        have hlookup := (lookup_eq_some_iff_mem hdistinct).mpr hentry
        rw [(lookup_eq_some_iff_mem hdistinct).mpr hother, Option.some.injEq] at hlookup
        subst hlookup
        exact habove above hrest (by simpa using hne) hheld

/-- What is found are the outermost directories that hold the file. -/
theorem mem_outermost_iff {tree : FileTree} (hnamed : tree.IsWellNamed) {file : RawText}
    {path directory : Path} :
    directory ∈ outermost file path tree ↔
      ∃ place, tree.IsOutermost file place ∧ directory = path.below place := by
  induction hnamed generalizing path with
  | leaf hleaf =>
      rw [outermost_of_leaf hleaf]
      simp only [not_mem_nil, false_iff, not_exists, not_and]
      intro place houtermost
      exact absurd houtermost.holds (not_holdsFile_of_leaf hleaf file place)
  | @directory entries hdistinct _ _ ih =>
      rw [outermost]
      by_cases hholds : (FileTree.directory entries).HoldsFile file []
      · rw [if_pos (holdsFile_iff.mpr hholds), mem_singleton]
        constructor
        · rintro rfl
          exact ⟨[], isOutermost_nil_iff.mpr hholds, rfl⟩
        · rintro ⟨place, houtermost, rfl⟩
          obtain rfl : place = [] := by
            by_contra hne
            exact houtermost.none_above [] nil_prefix (Ne.symm hne) hholds
          rfl
      · rw [if_neg (mt holdsFile_iff.mp hholds), outermostOf_eq_map,
          mem_flatMap_inOrder fun name inner => outermost file (path.join name) inner]
        constructor
        · rintro ⟨⟨name, inner⟩, hentry, hfound⟩
          obtain ⟨place, houtermost, hpath⟩ := (ih _ hentry).mp hfound
          exact ⟨name :: place,
            (isOutermost_cons_iff hdistinct hholds).mpr ⟨_, hentry, houtermost⟩, hpath⟩
        · rintro ⟨place, houtermost, hpath⟩
          cases place with
          | nil => exact absurd houtermost.holds hholds
          | cons name place =>
              obtain ⟨inner, hentry, hinner⟩ :=
                (isOutermost_cons_iff hdistinct hholds).mp houtermost
              refine ⟨_, hentry, ?_⟩
              exact (ih _ hentry).mpr ⟨place, hinner, hpath⟩

theorem IsWellNamed.isName_of_holdsFile {tree : FileTree} (hnamed : tree.IsWellNamed)
    {file : RawText} {place : List RawText} (hholds : tree.HoldsFile file place) :
    ∀ name ∈ place, Path.IsName name := by
  obtain ⟨text, hget⟩ := hholds
  intro name hname
  exact hnamed.isName_of_get? hget name (mem_append_left _ hname)

theorem pairwise_outermost {tree : FileTree} (hnamed : tree.IsWellNamed) (file : RawText)
    (path : Path) : (outermost file path tree).Pairwise Path.Precedes := by
  induction hnamed generalizing path with
  | leaf hleaf =>
      rw [outermost_of_leaf hleaf]
      exact .nil
  | directory hdistinct hnames hbelow ih =>
      rw [outermost]
      split
      · exact pairwise_singleton _ _
      rw [outermostOf_eq_map]
      apply pairwise_flatMap_inOrder (fun name inner => outermost file (path.join name) inner)
        path id hdistinct hnames
      · rintro ⟨name, inner⟩ hentry found hfound
        obtain ⟨place, houtermost, rfl⟩ := (mem_outermost_iff (hbelow _ hentry)).mp hfound
        exact ⟨place, (hbelow _ hentry).isName_of_holdsFile houtermost.holds, rfl⟩
      · rintro ⟨name, inner⟩ hentry
        exact ih _ hentry _

end FileTree

end Compliance
