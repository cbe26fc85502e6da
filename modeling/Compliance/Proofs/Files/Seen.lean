import Compliance.Proofs.Files.Layout

/-!
# Trees as they are seen under a path

Under a path a tree shows what it holds as far as the paths that lead there are short enough
to be used.  Where a path gets too long, whatever stands there is neither a file nor a
directory, and nothing is seen below it (`entryUnder`).

This is up to the names only, so that trees with the same layout are seen with the same
layout (`SameLayout.seenUnder`).
-/

namespace Compliance

open List

namespace FileTree

theorem lookup_map_snd {α β : Type} (change : RawText → α → β) (named : List (RawText × α))
    (name : RawText) :
    (named.map fun entry => (entry.1, change entry.1 entry.2)).lookup name =
      (named.lookup name).map (change name) := by
  induction named with
  | nil => rfl
  | cons entry others ih =>
      obtain ⟨key, value⟩ := entry
      rw [map_cons, lookup_cons, lookup_cons]
      by_cases hname : name = key
      · subst hname
        simp
      · rw [beq_eq_false_iff_ne.mpr hname]
        exact ih

theorem seenUnder_of_leaf {tree : FileTree} (hleaf : tree.isDirectory = false) (path : Path) :
    tree.seenUnder path = tree := by
  cases tree with
  | file text => rfl
  | other fault => rfl
  | directory entries => cases hleaf

/-- What the entry of a directory is seen as under the path of the directory. -/
def entryUnder (path : Path) (name : RawText) (tree : FileTree) : FileTree :=
  if (path.join name).fits then tree.seenUnder (path.join name) else other .nameTooLong

theorem entriesUnder_eq_map (path : Path) (entries : Entries) :
    entriesUnder path entries =
      entries.map fun entry => (entry.1, entryUnder path entry.1 entry.2) := by
  induction entries with
  | nil => rfl
  | cons entry others ih =>
      obtain ⟨name, tree⟩ := entry
      rw [entriesUnder, ih]
      rfl

theorem map_fst_entriesUnder (path : Path) (entries : Entries) :
    (entriesUnder path entries).map (·.1) = entries.map (·.1) := by
  rw [entriesUnder_eq_map, map_map]
  rfl

theorem lookup_entriesUnder (path : Path) (entries : Entries) (name : RawText) :
    (entriesUnder path entries).lookup name = (entries.lookup name).map (entryUnder path name) := by
  rw [entriesUnder_eq_map, lookup_map_snd]

theorem get?_seenUnder_cons (path : Path) (entries : Entries) (name : RawText)
    (names : List RawText) :
    ((directory entries).seenUnder path).get? (name :: names) =
      (entries.lookup name).bind fun inner => (entryUnder path name inner).get? names := by
  rw [seenUnder, get?_directory_cons, lookup_entriesUnder, Option.bind_map]
  rfl

/-- What a directory seen under a path has as entries are those of a directory with the same
names. -/
theorem exists_of_get?_seenUnder {tree : FileTree} {path : Path} {names : List RawText}
    {seen : Entries} (hget : (tree.seenUnder path).get? names = some (.directory seen)) :
    ∃ entries, tree.get? names = some (.directory entries) ∧
      seen.map (·.1) = entries.map (·.1) := by
  induction names generalizing tree path with
  | nil =>
      cases tree with
      | file text => cases hget
      | other fault => cases hget
      | directory entries =>
          rw [seenUnder, get?_nil, Option.some.injEq, directory.injEq] at hget
          exact ⟨entries, rfl, by rw [← hget, map_fst_entriesUnder]⟩
  | cons name names ih =>
      cases tree with
      | file text => cases hget
      | other fault => cases hget
      | directory entries =>
          rw [get?_seenUnder_cons] at hget
          obtain ⟨inner, hinner, hbelow⟩ := Option.bind_eq_some_iff.mp hget
          rw [entryUnder] at hbelow
          split at hbelow
          · obtain ⟨below, htree, hnames⟩ := ih hbelow
            exact ⟨below, by rw [get?_directory_cons, hinner, Option.bind_some, htree], hnames⟩
          · cases names <;> cases hbelow

theorem IsProper.seenUnder {tree : FileTree} (hproper : tree.IsProper) (path : Path) :
    (tree.seenUnder path).IsProper := by
  intro names seen hget
  obtain ⟨entries, hentries, hnames⟩ := exists_of_get?_seenUnder hget
  rw [hnames]
  exact hproper names entries hentries

/-- Trees with the same layout are seen with the same layout. -/
theorem SameLayout.seenUnder {first second : FileTree} (hlayout : SameLayout first second)
    (path : Path) : SameLayout (first.seenUnder path) (second.seenUnder path) where
  form := by
    intro names
    induction names generalizing first second path with
    | nil =>
        obtain ⟨text, text', rfl, rfl⟩ | ⟨fault, rfl, rfl⟩ | ⟨entries, entries', rfl, rfl⟩ :=
          hlayout.cases_on <;> rfl
    | cons name names ih =>
        obtain ⟨text, text', rfl, rfl⟩ | ⟨fault, rfl, rfl⟩ | ⟨entries, entries', rfl, rfl⟩ :=
          hlayout.cases_on
        · rfl
        · rfl
        rw [get?_seenUnder_cons, get?_seenUnder_cons]
        obtain ⟨hnone, hnone'⟩ | ⟨inner, outer, hinner, houter, hbelow⟩ :=
          hlayout.lookup_cases name
        · rw [hnone, hnone']
        · rw [hinner, houter, Option.bind_some, Option.bind_some, entryUnder, entryUnder]
          split
          · exact ih hbelow _
          · rfl
  firstProper := hlayout.firstProper.seenUnder path
  secondProper := hlayout.secondProper.seenUnder path

end FileTree

namespace FileSystem

theorem list_of_find {files : FileSystem} {path : Path} {entries : FileTree.Entries}
    (hpath : files.find path = .ok (.directory entries)) :
    files.list path = .ok (FileTree.entriesUnder path entries) := by
  rw [list, hpath]
  rfl

/-- A directory can be listed in both systems or in none. -/
theorem SameLayout.list_cases {first second : FileSystem} (hlayout : SameLayout first second)
    (path : Path) :
    (∃ fault, first.list path = .error fault ∧ second.list path = .error fault) ∨
      ∃ before after, first.list path = .ok before ∧ second.list path = .ok after ∧
        FileTree.SameLayout (.directory before) (.directory after) := by
  rw [list, list]
  obtain ⟨fault, hfirst, hsecond⟩ | ⟨before, after, hfirst, hsecond, hinner⟩ :=
    hlayout.find_cases path
  · rw [hfirst, hsecond]
    exact .inl ⟨fault, rfl, rfl⟩
  · rw [hfirst, hsecond]
    obtain ⟨text, text', rfl, rfl⟩ | ⟨fault, rfl, rfl⟩ | ⟨entries, entries', rfl, rfl⟩ :=
      hinner.cases_on
    · exact .inl ⟨_, rfl, rfl⟩
    · exact .inl ⟨_, rfl, rfl⟩
    · exact .inr ⟨_, _, rfl, rfl, hinner.seenUnder path⟩

end FileSystem

end Compliance
