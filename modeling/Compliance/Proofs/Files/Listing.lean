import Compliance.Proofs.Files.Order
import Mathlib.Data.List.Nodup

/-!
# The list of files below a directory

What a scan for files should give can be said without the scan: all that is no directory
and has a text that ends with the suffix as name, wherever it is below the directory, in
strictly increasing order of the paths (`ListsFiles`).  There is at most one such list,
because paths are compared in an order in which no two of them precede each other
(`ListsFiles.unique`).

The scan gives this list, for the tree as it is seen under the path of the directory.  What
is read at which place does not depend on the order in which the entries of the directories
happen to be listed (`Relisted.readsAs_iff`), and so neither does what the scan gives.
-/

namespace Compliance

open List

namespace Path

theorem Precedes.asymm {first second : Path} (hprecedes : first.Precedes second) :
    ¬ second.Precedes first := by
  have hnames : Std.Asymm fun name other : RawText => name < other :=
    ⟨fun _ _ hlt => RawText.lt_asymm hlt⟩
  unfold Precedes at hprecedes ⊢
  exact Std.Asymm.asymm _ _ hprecedes

/-- In a list in order of the paths no path comes twice. -/
theorem nodup_of_pairwise_precedes {α : Type} {path : α → Path} {items : List α}
    (hincreasing : items.Pairwise fun first second => (path first).Precedes (path second)) :
    (items.map path).Nodup := by
  refine pairwise_map.mpr (hincreasing.imp ?_)
  intro first second hprecedes hpath
  rw [hpath] at hprecedes
  exact hprecedes.asymm hprecedes

end Path

namespace FileTree

/-- The last name on the way to a place is a text that ends with a suffix. -/
def HasSuffix (suffix : String) (place : List RawText) : Prop :=
  ∃ parents stem, place = parents ++ [RawText.ofText (stem ++ suffix)]

theorem endsWith_iff {suffix : String} {name : RawText} :
    endsWith suffix name = true ↔ ∃ stem, name = RawText.ofText (stem ++ suffix) := by
  simp only [endsWith, Option.any_eq_true, RawText.text?_eq_some_iff, isSuffixOf_iff_suffix]
  constructor
  · rintro ⟨text, rfl, stem, hstem⟩
    refine ⟨String.ofList stem, congrArg RawText.ofText (String.toList_injective ?_)⟩
    rw [String.toList_append, String.toList_ofList, hstem]
  · rintro ⟨stem, rfl⟩
    refine ⟨_, rfl, ?_⟩
    rw [String.toList_append]
    exact suffix_append _ _

/-- A list has the files below a directory whose names end with a suffix, each at any depth, in
strictly increasing order of their paths. -/
structure ListsFiles (tree : FileTree) (suffix : String) (root : Path) (found : List Found) :
    Prop where
  increasing : found.Pairwise fun first second => first.1.Precedes second.1
  complete : ∀ path content, (path, content) ∈ found ↔
    ∃ place, HasSuffix suffix place ∧ tree.ReadsAs place content ∧ path = root.below place

theorem listsFiles_filesBelow {tree : FileTree} (hnamed : tree.IsWellNamed) (suffix : String)
    (root : Path) : ListsFiles tree suffix root (filesBelow suffix root tree) where
  increasing := pairwise_filesBelow hnamed suffix root
  complete := by
    intro path content
    rw [mem_filesBelow_iff hnamed]
    constructor
    · rintro ⟨parents, name, hends, hreads, hpath⟩
      obtain ⟨stem, rfl⟩ := endsWith_iff.mp hends
      exact ⟨_, ⟨parents, stem, rfl⟩, hreads, hpath⟩
    · rintro ⟨_, ⟨parents, stem, rfl⟩, hreads, hpath⟩
      exact ⟨parents, RawText.ofText (stem ++ suffix), endsWith_iff.mpr ⟨stem, rfl⟩, hreads, hpath⟩

theorem ListsFiles.nodup_paths {tree : FileTree} {suffix : String} {root : Path}
    {found : List Found} (hlists : ListsFiles tree suffix root found) :
    (found.map (·.1)).Nodup :=
  Path.nodup_of_pairwise_precedes hlists.increasing

theorem ListsFiles.eq_of_path_eq {tree : FileTree} {suffix : String} {root : Path}
    {found : List Found} (hlists : ListsFiles tree suffix root found) {file other : Found}
    (hfile : file ∈ found) (hother : other ∈ found) (hpath : file.1 = other.1) : file = other :=
  inj_on_of_nodup_map hlists.nodup_paths hfile hother hpath

/-- The same files can be listed in one way only. -/
theorem ListsFiles.unique {tree other : FileTree} {suffix : String} {root : Path}
    {first second : List Found} (hfirst : ListsFiles tree suffix root first)
    (hsecond : ListsFiles other suffix root second)
    (hfiles : ∀ place content, tree.ReadsAs place content ↔ other.ReadsAs place content) :
    first = second := by
  have hmem : ∀ file, file ∈ first ↔ file ∈ second := by
    rintro ⟨path, content⟩
    rw [hfirst.complete, hsecond.complete]
    simp only [hfiles]
  have hperm : first.Perm second :=
    (perm_ext_iff_of_nodup (hfirst.nodup_paths.of_map _) (hsecond.nodup_paths.of_map _)).mpr hmem
  refine hperm.eq_of_pairwise ?_ hfirst.increasing hsecond.increasing
  intro before after _ _ hprecedes hfollows
  exact absurd hfollows hprecedes.asymm

/-! ## Orders of listing -/

/-- Two trees are the same up to the order in which the entries of their directories are listed. -/
inductive Relisted : FileTree → FileTree → Prop
  | leaf {tree : FileTree} (hleaf : tree.isDirectory = false) : Relisted tree tree
  | directory {entries others : Entries} (names : (entries.map (·.1)).Perm (others.map (·.1)))
      (below : ∀ name inner outer, (name, inner) ∈ entries → (name, outer) ∈ others →
        Relisted inner outer) : Relisted (.directory entries) (.directory others)

/-- The entries of a directory may be listed in any order. -/
theorem Relisted.of_perm {entries others : Entries}
    (hnamed : (FileTree.directory entries).IsWellNamed)
    (hperm : entries.Perm others) : Relisted (.directory entries) (.directory others) := by
  generalize htree : FileTree.directory entries = tree at hnamed
  induction hnamed generalizing entries others with
  | leaf hleaf =>
      subst htree
      cases hleaf
  | @directory entries hdistinct _ hnamed ih =>
      obtain rfl := FileTree.directory.inj htree
      refine .directory (hperm.map _) ?_
      intro name inner outer hinner houter
      -- the name has one tree in both lists
      have hlookup := (lookup_eq_some_iff_mem hdistinct).mpr hinner
      rw [(lookup_eq_some_iff_mem hdistinct).mpr (hperm.mem_iff.mpr houter),
        Option.some.injEq] at hlookup
      subst hlookup
      cases hleaf : outer.isDirectory with
      | false => exact .leaf hleaf
      | true =>
          obtain ⟨below, rfl⟩ := isDirectory_iff.mp hleaf
          exact ih _ hinner (.refl below) rfl

theorem Relisted.symm {first second : FileTree} (hrelisted : Relisted first second) :
    Relisted second first := by
  induction hrelisted with
  | leaf hleaf => exact .leaf hleaf
  | directory names _ ih =>
      exact .directory names.symm fun name inner outer hinner houter =>
        ih name outer inner houter hinner

theorem Relisted.isWellNamed {first second : FileTree} (hrelisted : Relisted first second)
    (hnamed : first.IsWellNamed) : second.IsWellNamed := by
  induction hrelisted with
  | leaf hleaf => exact .leaf hleaf
  | @directory entries others names _ ih =>
      obtain ⟨hdistinct, hentries⟩ := isWellNamed_directory_iff.mp hnamed
      refine isWellNamed_directory_iff.mpr ⟨names.nodup_iff.mp hdistinct, ?_⟩
      rintro ⟨name, outer⟩ houter
      -- the name is that of one of the entries, with a tree that is listed differently
      obtain ⟨⟨_, inner⟩, hinner, rfl⟩ := mem_map.mp (names.mem_iff.mpr (mem_map_of_mem houter))
      obtain ⟨hname, hbelow⟩ := hentries _ hinner
      exact ⟨hname, ih _ inner outer hinner houter hbelow⟩

/-- Trees that are listed differently are seen alike. -/
theorem Relisted.seenUnder {first second : FileTree} (hrelisted : Relisted first second)
    (path : Path) : Relisted (first.seenUnder path) (second.seenUnder path) := by
  induction hrelisted generalizing path with
  | leaf hleaf =>
      rw [seenUnder_of_leaf hleaf]
      exact .leaf hleaf
  | @directory entries others names _ ih =>
      rw [FileTree.seenUnder, FileTree.seenUnder]
      refine .directory (by rwa [map_fst_entriesUnder, map_fst_entriesUnder]) ?_
      rw [entriesUnder_eq_map, entriesUnder_eq_map]
      intro name inner outer hinner houter
      obtain ⟨⟨_, before⟩, hbefore, heq⟩ := mem_map.mp hinner
      obtain ⟨rfl, rfl⟩ := Prod.mk.inj heq
      obtain ⟨⟨_, after⟩, hafter, heq⟩ := mem_map.mp houter
      obtain ⟨rfl, rfl⟩ := Prod.mk.inj heq
      dsimp only
      rw [entryUnder, entryUnder]
      split
      · exact ih _ before after hbefore hafter _
      · exact .leaf rfl

private theorem readsAs_of_relisted {first second : FileTree} (hrelisted : Relisted first second)
    (hnamed : first.IsWellNamed) {place : List RawText} {content : Except FileFault String}
    (hreads : first.ReadsAs place content) : second.ReadsAs place content := by
  induction hrelisted generalizing place with
  | leaf hleaf => exact hreads
  | @directory entries others names hbelow ih =>
      have hother := (Relisted.directory names hbelow).isWellNamed hnamed
      obtain ⟨hdistinct, hentries⟩ := isWellNamed_directory_iff.mp hnamed
      obtain ⟨hdistinct', -⟩ := isWellNamed_directory_iff.mp hother
      obtain ⟨leaf, hget, hread⟩ := hreads
      cases place with
      | nil =>
          obtain rfl : FileTree.directory entries = leaf := by simpa using hget
          cases hread.1
      | cons name place =>
          obtain ⟨inner, hinner, hbelowGet⟩ := (get?_cons_eq_some_iff hdistinct).mp hget
          obtain ⟨⟨_, outer⟩, houter, rfl⟩ :=
            mem_map.mp (names.mem_iff.mp (mem_map_of_mem hinner))
          obtain ⟨leaf', hget', hread'⟩ :=
            ih _ inner outer hinner houter (hentries _ hinner).2 ⟨leaf, hbelowGet, hread⟩
          exact ⟨leaf', (get?_cons_eq_some_iff hdistinct').mpr ⟨outer, houter, hget'⟩, hread'⟩

/-- The same is read at the same places. -/
theorem Relisted.readsAs_iff {first second : FileTree} (hrelisted : Relisted first second)
    (hnamed : first.IsWellNamed) (place : List RawText) (content : Except FileFault String) :
    first.ReadsAs place content ↔ second.ReadsAs place content := by
  constructor
  · exact readsAs_of_relisted hrelisted hnamed
  · exact readsAs_of_relisted hrelisted.symm (hrelisted.isWellNamed hnamed)

end FileTree

namespace FileSystem

variable {files : FileSystem} {root : Path} {entries : FileTree.Entries}

theorem filesWithSuffix_of_find (hroot : files.find root = .ok (.directory entries))
    (suffix : String) :
    files.filesWithSuffix root suffix =
      .ok (FileTree.filesBelow suffix root ((FileTree.directory entries).seenUnder root)) := by
  rw [filesWithSuffix, list_of_find hroot]
  rfl

/-- A scan gives the only list of all files below a directory that is in order of the paths.  It
gives the same wherever the directory, with all that is below it, is listed in another order. -/
theorem filesWithSuffix_lists_in_order (hroot : files.find root = .ok (.directory entries))
    (hnamed : (FileTree.directory entries).IsWellNamed) (suffix : String) :
    ∃ found, files.filesWithSuffix root suffix = .ok found ∧
      ((FileTree.directory entries).seenUnder root).ListsFiles suffix root found ∧
      (∀ other, ((FileTree.directory entries).seenUnder root).ListsFiles suffix root other →
        other = found) ∧
      ((FileTree.directory entries).FitsUnder root →
        (FileTree.directory entries).ListsFiles suffix root found) ∧
      ∀ (others : FileSystem) (relisted : FileTree), others.find root = .ok relisted →
        FileTree.Relisted (.directory entries) relisted →
          others.filesWithSuffix root suffix = .ok found := by
  have hseen := hnamed.seenUnder root
  have hlists := FileTree.listsFiles_filesBelow hseen suffix root
  refine ⟨_, filesWithSuffix_of_find hroot suffix, hlists, ?unique, ?fits, ?relisted⟩
  case unique =>
    intro other hother
    exact hother.unique hlists fun _ _ => Iff.rfl
  case fits =>
    intro hfits
    rw [hnamed.seenUnder_eq_self hfits] at hlists ⊢
    exact hlists
  case relisted =>
    intro others relisted hothers hrelisted
    have hseen' := (hrelisted.isWellNamed hnamed).seenUnder root
    have hother := FileTree.listsFiles_filesBelow hseen' suffix root
    have hsame := hlists.unique hother ((hrelisted.seenUnder root).readsAs_iff hseen)
    cases hrelisted with
    | leaf hleaf => cases hleaf
    | directory names hbelow => rw [filesWithSuffix_of_find hothers, hsame]

/-! ## Directories that are scanned

The name of one directory is the beginning of two other names, and one of these is that of a
directory too, although it ends like the files.  As texts the paths would be in another order,
since a slash is greater than a hyphen.  The octets of one name are no text, and the file is
passed over although they end like those of the others.

The other directory is scanned under a path that is as long as it can be.  Nothing below it can
be opened.
-/

namespace Sample

/-- A name that begins with an octet that is in no text. -/
def strayName : RawText := ⟨0xFF :: Text.octets ".yml"⟩

def mixed : FileTree.Entries :=
  [(strayName, .file (some "s")), ("b.yml", .directory [("z.yml", .file none)]),
    ("b-c.yml", .file (some "c")), ("b", .directory [("y.yml", .file (some "y"))]),
    ("a.txt", .file (some "a"))]

def found : List FileTree.Found :=
  [("guide/b/y.yml", .ok "y"), ("guide/b-c.yml", .ok "c"),
    ("guide/b.yml/z.yml", .error .notText)]

def filesOf (entries : FileTree.Entries) : FileSystem :=
  { root := .directory [("guide", .directory entries)], working := [] }

theorem find_mixed : (filesOf mixed).find "guide" = .ok (.directory mixed) := by rfl

theorem seenUnder_mixed : (FileTree.directory mixed).seenUnder "guide" = .directory mixed := by rfl

theorem isWellNamed_mixed : (FileTree.directory mixed).IsWellNamed := by
  have hnames : ∀ name ∈ ["a.txt", "b", "b-c.yml", "b.yml", "y.yml", "z.yml"],
      Path.IsName (RawText.ofText name) := by decide
  have hstray : Path.IsName strayName ∧ ∀ name ∈ ["b.yml", "b-c.yml", "b", "a.txt"],
      strayName ≠ RawText.ofText name := by decide
  simp only [forall_mem_cons] at hnames hstray
  simp [mixed, FileTree.isWellNamed_directory_iff, hnames, hstray]

theorem filesBelow_mixed :
    FileTree.filesBelow ".yml" "guide" (.directory mixed) = found := by
  obtain ⟨hy, hz, hc, ha, hs⟩ : FileTree.endsWith ".yml" "y.yml" = true ∧
      FileTree.endsWith ".yml" "z.yml" = true ∧ FileTree.endsWith ".yml" "b-c.yml" = true ∧
      FileTree.endsWith ".yml" "a.txt" = false ∧ FileTree.endsWith ".yml" strayName = false := by
    decide
  obtain ⟨hb, hbc, hbz⟩ : (Path.join "guide" "b").join "y.yml" = "guide/b/y.yml" ∧
      Path.join "guide" "b-c.yml" = "guide/b-c.yml" ∧
      (Path.join "guide" "b.yml").join "z.yml" = "guide/b.yml/z.yml" := by decide
  simp only [mixed, FileTree.filesBelow, FileTree.filesOf, hy, hz, hc, ha, hs, if_true,
    Bool.false_eq_true, if_false, FileTree.inOrder_singleton, flatMap_singleton, hb, hbc, hbz]
  rw [FileTree.inOrder_eq_of_perm (reverse_perm _).symm (by decide)]
  rfl

theorem filesWithSuffix_mixed :
    (filesOf mixed).filesWithSuffix "guide" ".yml" = .ok found := by
  rw [filesWithSuffix_of_find find_mixed, seenUnder_mixed, filesBelow_mixed]

/-- The silent names in front make the path as long as it can be. -/
def longRoot : Path := ⟨(replicate 2045 [Path.dot, Path.slash]).flatten ++ Text.octets "guide"⟩

def low : FileTree.Entries := [("sub", .directory [("low.yml", .file (some "policy: ["))])]

theorem find_low : (filesOf low).find longRoot = .ok (.directory low) := by
  have husable : usable longRoot = .ok () := by decide +kernel
  have habsolute : longRoot.isAbsolute = false := by decide +kernel
  have hsteps : longRoot.steps = [RawText.ofText "guide"] := by decide +kernel
  rw [find, follow, husable, habsolute, hsteps]
  rfl

theorem filesWithSuffix_low : (filesOf low).filesWithSuffix longRoot ".yml" = .ok [] := by
  have hlong : (longRoot.join "sub").fits = false := by decide +kernel
  have hends : FileTree.endsWith ".yml" "sub" = false := by decide
  rw [filesWithSuffix_of_find find_low]
  simp only [low, FileTree.seenUnder, FileTree.entriesUnder, hlong, Bool.false_eq_true, if_false,
    FileTree.filesBelow, FileTree.filesOf, hends, FileTree.inOrder_singleton, flatMap_singleton]

end Sample

theorem filesWithSuffix_of_reversed :
    (Sample.filesOf Sample.mixed).filesWithSuffix "guide" ".yml" = .ok Sample.found ∧
      (Sample.filesOf Sample.mixed.reverse).filesWithSuffix "guide" ".yml" =
        (Sample.filesOf Sample.mixed).filesWithSuffix "guide" ".yml" ∧
      Path.Precedes "guide/b/y.yml" "guide/b-c.yml" := by
  obtain ⟨found, hfound, hlists, -, -, hrelisted⟩ :=
    filesWithSuffix_lists_in_order Sample.find_mixed Sample.isWellNamed_mixed ".yml"
  have hscan := Sample.filesWithSuffix_mixed
  obtain rfl := Except.ok.inj (hfound.symm.trans hscan)
  refine ⟨hscan, ?_, ?_⟩
  · rw [hrelisted (Sample.filesOf Sample.mixed.reverse) _ rfl
      (.of_perm Sample.isWellNamed_mixed (reverse_perm _).symm), hscan]
  · have hincreasing := hlists.increasing
    rw [Sample.found, pairwise_cons] at hincreasing
    exact hincreasing.1 _ mem_cons_self

/-- A scan finds all below a directory that is no directory and has a name whose octets end with
those of the suffix. -/
def FindsAll (files : FileSystem) (root : Path) (entries : FileTree.Entries) (suffix : String) :
    Prop :=
  ∃ found, files.filesWithSuffix root suffix = .ok found ∧
    ∀ path content, (path, content) ∈ found ↔
      ∃ parents name, Text.octets suffix <:+ name.octets ∧
        (FileTree.directory entries).ReadsAs (parents ++ [name]) content ∧
        path = root.below (parents ++ [name])

/-- Neither is it enough that the octets of a name end with those of the suffix, nor that a name is
a text and ends with it. -/
theorem not_findsAll_mixed_and_low :
    ¬ (Sample.filesOf Sample.mixed).FindsAll "guide" Sample.mixed ".yml" ∧
      ¬ (Sample.filesOf Sample.low).FindsAll Sample.longRoot Sample.low ".yml" := by
  constructor
  · rintro ⟨found, hfound, hmem⟩
    obtain rfl := Except.ok.inj (hfound.symm.trans Sample.filesWithSuffix_mixed)
    -- the file with the stray name is the first of the directory
    have hstray := (hmem (Path.join "guide" Sample.strayName) (.ok "s")).mpr
      ⟨[], Sample.strayName, ⟨[0xFF], rfl⟩, ⟨.file (some "s"), rfl, rfl, rfl⟩, rfl⟩
    have habsent : ∀ path ∈ ["guide/b/y.yml", "guide/b-c.yml", "guide/b.yml/z.yml"],
        Path.join "guide" Sample.strayName ≠ RawText.ofText path := by decide
    simp only [Sample.found, mem_cons, not_mem_nil, or_false, Prod.mk.injEq] at hstray
    obtain ⟨hpath, -⟩ | ⟨hpath, -⟩ | ⟨hpath, -⟩ := hstray
    all_goals exact absurd hpath (habsent _ (by decide))
  · rintro ⟨found, hfound, hmem⟩
    obtain rfl := Except.ok.inj (hfound.symm.trans Sample.filesWithSuffix_low)
    have hlow := (hmem _ (.ok "policy: [")).mpr
      ⟨["sub"], "low.yml", ⟨Text.octets "low", rfl⟩, ⟨_, rfl, rfl, rfl⟩, rfl⟩
    cases hlow

end FileSystem

end Compliance
