import Compliance.Files.System
import Compliance.Proofs.Except
import Compliance.Proofs.Files.Tree

/-!
# Files with the same layout

Two systems have the same layout if their trees have directories and files at the same
places, and the same faults at the other ones; the texts of the files may differ, and so
may the order in which the entries of a directory happen to be listed.

A path is followed by looking at directories only.  So it leads to the same place in
both systems, or to the same fault (`find_cases`), and what it leads to has the same
layout again.
-/

namespace Compliance

open List

namespace FileTree

/-- No two entries of a directory have the same name. -/
def IsProper (tree : FileTree) : Prop :=
  ∀ names entries, tree.get? names = some (.directory entries) → (entries.map (·.1)).Nodup

/-- What stands at the top of a tree, without the text of a file. -/
def form : FileTree → FileKind
  | file _ => .file none
  | other fault => .other fault
  | directory _ => .directory

/-- Two trees have directories and files at the same places. -/
structure SameLayout (first second : FileTree) : Prop where
  form : ∀ names, (first.get? names).map form = (second.get? names).map form
  firstProper : first.IsProper
  secondProper : second.IsProper

theorem IsProper.get? {tree inner : FileTree} {names : List RawText} (hproper : tree.IsProper)
    (hget : tree.get? names = some inner) : inner.IsProper := by
  intro below entries hbelow
  refine hproper (names ++ below) entries ?_
  rw [get?_append, hget, Option.bind_some, hbelow]

namespace SameLayout

variable {first second : FileTree}

/-- What stands at one place has the same layout again. -/
theorem get? (hlayout : SameLayout first second) (names : List RawText) {before after : FileTree}
    (hfirst : first.get? names = some before) (hsecond : second.get? names = some after) :
    SameLayout before after where
  form := by
    intro below
    have hnames := hlayout.form (names ++ below)
    rwa [get?_append, get?_append, hfirst, hsecond] at hnames
  firstProper := hlayout.firstProper.get? hfirst
  secondProper := hlayout.secondProper.get? hsecond

/-- Either nothing stands at a place in both trees, or something does with the same layout. -/
theorem get?_cases (hlayout : SameLayout first second) (names : List RawText) :
    (first.get? names = none ∧ second.get? names = none) ∨
      ∃ before after, first.get? names = some before ∧ second.get? names = some after ∧
        SameLayout before after := by
  have hnames := hlayout.form names
  cases hfirst : first.get? names with
  | none =>
      rw [hfirst, Option.map_none, eq_comm, Option.map_eq_none_iff] at hnames
      exact .inl ⟨rfl, hnames⟩
  | some before =>
      rw [hfirst, Option.map_some, eq_comm, Option.map_eq_some_iff] at hnames
      obtain ⟨after, hsecond, -⟩ := hnames
      exact .inr ⟨before, after, rfl, hsecond, hlayout.get? names hfirst hsecond⟩

/-- Two trees with the same layout are both files, both directories, or have the same fault. -/
theorem cases_on (hlayout : SameLayout first second) :
    (∃ before after, first = .file before ∧ second = .file after) ∨
      (∃ fault, first = .other fault ∧ second = .other fault) ∨
      ∃ before after, first = .directory before ∧ second = .directory after := by
  have htop := hlayout.form []
  cases first <;> cases second <;>
    simp_all [FileTree.form]

theorem isFile_eq (hlayout : SameLayout first second) : first.isFile = second.isFile := by
  obtain ⟨before, after, rfl, rfl⟩ | ⟨fault, rfl, rfl⟩ | ⟨before, after, rfl, rfl⟩ :=
    hlayout.cases_on <;> rfl

theorem isDirectory_eq (hlayout : SameLayout first second) :
    first.isDirectory = second.isDirectory := by
  obtain ⟨before, after, rfl, rfl⟩ | ⟨fault, rfl, rfl⟩ | ⟨before, after, rfl, rfl⟩ :=
    hlayout.cases_on <;> rfl

/-- The entries of two directories stand for each other by their names. -/
theorem lookup_cases {before after : Entries}
    (hlayout : SameLayout (.directory before) (.directory after)) (name : RawText) :
    (before.lookup name = none ∧ after.lookup name = none) ∨
      ∃ inner outer, before.lookup name = some inner ∧ after.lookup name = some outer ∧
        SameLayout inner outer := by
  have hcases := hlayout.get?_cases [name]
  simpa [get?_directory_cons] using hcases

end SameLayout

/-! ## Layouts that can be computed -/

mutual

/-- A tree without its texts. -/
def outline : FileTree → FileTree
  | file _ => file none
  | other fault => other fault
  | directory entries => directory (outlineEntries entries)

/-- Entries without their texts. -/
def outlineEntries : Entries → Entries
  | [] => []
  | (name, tree) :: others => (name, outline tree) :: outlineEntries others

end

mutual

/-- Whether no two entries of a directory have the same name, at all levels. -/
def hasDistinctNames : FileTree → Bool
  | file _ => true
  | other _ => true
  | directory entries => decide (entries.map (·.1)).Nodup && haveDistinctNames entries

/-- Whether this is so for all trees of some entries. -/
def haveDistinctNames : Entries → Bool
  | [] => true
  | (_, tree) :: others => hasDistinctNames tree && haveDistinctNames others

end

theorem lookup_outlineEntries (entries : Entries) (name : RawText) :
    (outlineEntries entries).lookup name = (entries.lookup name).map outline := by
  induction entries with
  | nil => rfl
  | cons entry others ih =>
      obtain ⟨key, tree⟩ := entry
      rw [outlineEntries, lookup_cons, lookup_cons]
      cases name == key
      · exact ih
      · rfl

theorem get?_outline (tree : FileTree) (names : List RawText) :
    (outline tree).get? names = (tree.get? names).map outline := by
  induction names generalizing tree with
  | nil => simp
  | cons name names ih =>
      cases tree with
      | file text => rfl
      | other fault => rfl
      | directory entries =>
          rw [outline, get?_directory_cons, get?_directory_cons, lookup_outlineEntries,
            Option.bind_map, Option.map_bind]
          exact Option.bind_congr fun inner _ => ih inner

theorem hasDistinctNames_of_lookup {entries : Entries} {name : RawText} {inner : FileTree}
    (hentries : haveDistinctNames entries = true) (hinner : entries.lookup name = some inner) :
    inner.hasDistinctNames = true := by
  induction entries with
  | nil => cases hinner
  | cons entry others ih =>
      obtain ⟨key, tree⟩ := entry
      obtain ⟨htree, hothers⟩ : hasDistinctNames tree = true ∧ haveDistinctNames others = true := by
        simpa [haveDistinctNames] using hentries
      rw [lookup_cons] at hinner
      cases hname : name == key with
      | true =>
          rw [hname] at hinner
          obtain rfl := Option.some.inj hinner
          exact htree
      | false =>
          rw [hname] at hinner
          exact ih hothers hinner

theorem isProper_of_hasDistinctNames {tree : FileTree} (hnames : tree.hasDistinctNames = true) :
    tree.IsProper := by
  intro names entries hget
  induction names generalizing tree with
  | nil =>
      obtain rfl : tree = directory entries := by simpa using hget
      simp only [hasDistinctNames, Bool.and_eq_true, decide_eq_true_eq] at hnames
      exact hnames.1
  | cons name names ih =>
      cases tree with
      | file text => cases hget
      | other fault => cases hget
      | directory siblings =>
          simp only [hasDistinctNames, Bool.and_eq_true, decide_eq_true_eq] at hnames
          rw [get?_directory_cons] at hget
          obtain ⟨inner, hinner, hbelow⟩ := Option.bind_eq_some_iff.mp hget
          exact ih (hasDistinctNames_of_lookup hnames.2 hinner) hbelow

/-- Trees that differ in their texts only have the same layout. -/
theorem sameLayout_of_outline_eq {first second : FileTree}
    (houtline : first.outline = second.outline) (hfirst : first.hasDistinctNames = true)
    (hsecond : second.hasDistinctNames = true) : SameLayout first second where
  form := by
    have hsame : ∀ tree : FileTree, tree.outline.form = tree.form := by
      intro tree
      cases tree <;> rfl
    have hforms : ∀ (tree : FileTree) (names : List RawText),
        (tree.get? names).map FileTree.form = (tree.outline.get? names).map FileTree.form := by
      intro tree names
      rw [get?_outline, Option.map_map]
      cases tree.get? names with
      | none => rfl
      | some inner => simp [hsame]
    intro names
    rw [hforms first, hforms second, houtline]
  firstProper := isProper_of_hasDistinctNames hfirst
  secondProper := isProper_of_hasDistinctNames hsecond

end FileTree

namespace FileSystem

/-- Two systems have the same layout and are seen from the same working directory. -/
structure SameLayout (first second : FileSystem) : Prop where
  root : FileTree.SameLayout first.root second.root
  working : first.working = second.working

namespace SameLayout

variable {first second : FileSystem} (hlayout : SameLayout first second)

include hlayout

theorem walk_eq (place names : List RawText) :
    walk first.root place names = walk second.root place names := by
  induction names generalizing place with
  | nil => rfl
  | cons name names ih =>
      have hname : (first.root.get? (name :: place).reverse).isSome =
          (second.root.get? (name :: place).reverse).isSome := by
        obtain ⟨hnone, hnone'⟩ | ⟨before, after, hsome, hsome', -⟩ :=
          hlayout.root.get?_cases (name :: place).reverse
        · rw [hnone, hnone']
        · rw [hsome, hsome']
          rfl
      -- whether the walk goes on is up to what stands at the place and below it at the name
      rw [walk, walk, ih, ih, hname]
      obtain ⟨hnone, hnone'⟩ | ⟨before, after, hsome, hsome', hinner⟩ :=
        hlayout.root.get?_cases place.reverse
      · rw [hnone, hnone']
      · obtain ⟨text, text', rfl, rfl⟩ | ⟨fault, rfl, rfl⟩ | ⟨entries, entries', rfl, rfl⟩ :=
          hinner.cases_on <;> rw [hsome, hsome']

theorem follow_eq (path : Path) (names : List RawText) :
    first.follow path names = second.follow path names := by
  rw [follow, follow, hlayout.walk_eq, hlayout.working]

/-- A path leads to the same fault in both systems, or to trees with the same layout. -/
theorem find_cases (path : Path) :
    (∃ fault, first.find path = .error fault ∧ second.find path = .error fault) ∨
      ∃ before after, first.find path = .ok before ∧ second.find path = .ok after ∧
        FileTree.SameLayout before after := by
  rw [find, find, hlayout.follow_eq]
  cases second.follow path path.steps with
  | error fault => exact .inl ⟨fault, rfl, rfl⟩
  | ok place =>
      rw [Except.ok_bind, Except.ok_bind]
      obtain ⟨hnone, hnone'⟩ | ⟨before, after, hsome, hsome', hinner⟩ :=
        hlayout.root.get?_cases place.reverse
      · rw [hnone, hnone']
        exact .inl ⟨_, rfl, rfl⟩
      · rw [hsome, hsome']
        obtain ⟨text, text', rfl, rfl⟩ | ⟨fault, rfl, rfl⟩ | ⟨entries, entries', rfl, rfl⟩ :=
          hinner.cases_on
        case inr.inr => exact .inr ⟨_, _, rfl, rfl, hinner⟩
        all_goals
          by_cases hdemands : path.demandsDirectory = true
          · exact .inl ⟨_, if_pos hdemands, if_pos hdemands⟩
          · exact .inr ⟨_, _, if_neg hdemands, if_neg hdemands, hinner⟩

theorem isFile_eq (path : Path) : first.isFile path = second.isFile path := by
  rw [isFile, isFile]
  obtain ⟨fault, hfirst, hsecond⟩ | ⟨before, after, hfirst, hsecond, hinner⟩ :=
    hlayout.find_cases path
  · rw [hfirst, hsecond]
  · rw [hfirst, hsecond]
    exact hinner.isFile_eq

theorem isDirectory_eq (path : Path) : first.isDirectory path = second.isDirectory path := by
  rw [isDirectory, isDirectory]
  obtain ⟨fault, hfirst, hsecond⟩ | ⟨before, after, hfirst, hsecond, hinner⟩ :=
    hlayout.find_cases path
  · rw [hfirst, hsecond]
  · rw [hfirst, hsecond]
    exact hinner.isDirectory_eq

end SameLayout

end FileSystem

end Compliance
