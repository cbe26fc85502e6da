import Compliance.Files.Scan
import Compliance.Proofs.Files.Seen
import Compliance.Proofs.Text.Octets
import Mathlib.Data.List.Forall2

/-!
# Scanning trees with the same layout

A scan puts the entries of a directory in the order of their names before it does
anything else, so that it does not matter in which order they were listed.  Hence two
trees with the same layout are scanned in step.

* A scan for files finds the same paths in both, and the texts that are found under one
  path stand at one place of the two trees (`forall₂_filesBelow`).
* A scan for the directories of rules looks at names only, and so it finds the same
  directories (`outermost_eq`).
-/

namespace Compliance

open List

namespace FileTree

/-! ## Named values in the order of their names -/

section

variable {α β : Type}

theorem lookup_eq_some_iff_mem {named : List (RawText × α)} (hnodup : (named.map (·.1)).Nodup)
    {name : RawText} {value : α} : named.lookup name = some value ↔ (name, value) ∈ named := by
  induction named with
  | nil => simp
  | cons entry others ih =>
      obtain ⟨key, old⟩ := entry
      obtain ⟨hkey, hothers⟩ : key ∉ others.map (·.1) ∧ (others.map (·.1)).Nodup := by
        simpa using hnodup
      rw [lookup_cons, mem_cons]
      by_cases hname : name = key
      · subst hname
        have habsent : (name, value) ∉ others := fun hmem => hkey (mem_map_of_mem hmem)
        simp [habsent, eq_comm]
      · rw [beq_eq_false_iff_ne.mpr hname]
        simp [hname, ih hothers]

theorem eq_of_forall₂ {first second : List (α × β)}
    (hpairs : Forall₂ (fun before after => before.1 = after.1 ∧ before.2 = after.2) first second) :
    first = second := by
  rw [← forall₂_eq_eq_eq]
  exact hpairs.imp fun before after hpair => Prod.ext hpair.1 hpair.2

theorem pairwise_map_fst_inOrder (named : List (RawText × α)) :
    ((inOrder named).map (·.1)).Pairwise (· ≤ ·) := by
  have hsorted : (inOrder named).Pairwise fun first second =>
      decide (first.1 ≤ second.1) = true := by
    refine pairwise_mergeSort ?_ ?_ named
    · intro first second third hfirst hsecond
      simp only [decide_eq_true_eq] at hfirst hsecond ⊢
      exact RawText.le_trans hfirst hsecond
    · intro first second
      simpa using RawText.le_total first.1 second.1
  rw [pairwise_map]
  exact hsorted.imp fun hle => by simpa using hle

/-- The names in their order do not depend on the order in which they were listed. -/
theorem map_fst_inOrder_eq {first : List (RawText × α)} {second : List (RawText × β)}
    (hfirst : (first.map (·.1)).Nodup) (hsecond : (second.map (·.1)).Nodup)
    (hnames : ∀ name, name ∈ first.map (·.1) ↔ name ∈ second.map (·.1)) :
    (inOrder first).map (·.1) = (inOrder second).map (·.1) := by
  have hperm : (first.map (·.1)).Perm (second.map (·.1)) :=
    (perm_ext_iff_of_nodup hfirst hsecond).mpr hnames
  have hordered : ((inOrder first).map (·.1)).Perm ((inOrder second).map (·.1)) :=
    ((perm_inOrder first).map _).trans (hperm.trans ((perm_inOrder second).map _).symm)
  exact hordered.eq_of_pairwise (fun _ _ _ _ => RawText.le_antisymm)
    (pairwise_map_fst_inOrder first) (pairwise_map_fst_inOrder second)

private theorem forall₂_of_map_fst_eq {related : RawText × α → RawText × β → Prop}
    {first : List (RawText × α)} {second : List (RawText × β)}
    (hnames : first.map (·.1) = second.map (·.1))
    (hrelated : ∀ before ∈ first, ∀ after ∈ second, before.1 = after.1 → related before after) :
    Forall₂ related first second := by
  induction first generalizing second with
  | nil =>
      obtain rfl : second = [] := by simpa using hnames.symm
      exact .nil
  | cons before first ih =>
      cases second with
      | nil => cases hnames
      | cons after second =>
          obtain ⟨hname, hothers⟩ := cons.inj hnames
          refine .cons (hrelated before mem_cons_self after mem_cons_self hname) (ih hothers ?_)
          intro before hbefore after hafter
          exact hrelated before (mem_cons_of_mem _ hbefore) after (mem_cons_of_mem _ hafter)

/-- Named values that correspond by their names stand side by side in the order of their names. -/
theorem forall₂_inOrder {related : α → β → Prop} {first : List (RawText × α)}
    {second : List (RawText × β)} (hfirst : (first.map (·.1)).Nodup)
    (hsecond : (second.map (·.1)).Nodup)
    (hvalues : ∀ name, (first.lookup name = none ∧ second.lookup name = none) ∨
      ∃ before after, first.lookup name = some before ∧ second.lookup name = some after ∧
        related before after) :
    Forall₂ (fun before after => before.1 = after.1 ∧ related before.2 after.2)
      (inOrder first) (inOrder second) := by
  have hnames : ∀ name, name ∈ first.map (·.1) ↔ name ∈ second.map (·.1) := by
    intro name
    simp only [mem_map, Prod.exists, exists_and_right, exists_eq_right,
      ← lookup_eq_some_iff_mem hfirst, ← lookup_eq_some_iff_mem hsecond]
    obtain ⟨hnone, hnone'⟩ | ⟨before, after, hsome, hsome', -⟩ := hvalues name
    · simp [hnone, hnone']
    · simp [hsome, hsome']
  refine forall₂_of_map_fst_eq (map_fst_inOrder_eq hfirst hsecond hnames) ?_
  -- a name has one value in each list, so that these are the values that correspond
  rintro ⟨name, before⟩ hbefore ⟨other, after⟩ hafter rfl
  have hlookup := (lookup_eq_some_iff_mem hfirst).mpr ((perm_inOrder first).mem_iff.mp hbefore)
  have hlookup' := (lookup_eq_some_iff_mem hsecond).mpr ((perm_inOrder second).mem_iff.mp hafter)
  obtain ⟨hnone, -⟩ | ⟨value, value', hsome, hsome', hrelated⟩ := hvalues name
  · rw [hlookup] at hnone
    cases hnone
  · rw [hlookup] at hsome
    rw [hlookup'] at hsome'
    obtain rfl := Option.some.inj hsome
    obtain rfl := Option.some.inj hsome'
    exact ⟨rfl, hrelated⟩

end

theorem isDirectory_iff {tree : FileTree} :
    tree.isDirectory = true ↔ ∃ entries, tree = directory entries := by
  cases tree <;> simp [isDirectory]

/-- What holds of a directory if it holds of its entries, and of all that is no directory, holds of
all trees. -/
@[elab_as_elim]
theorem lookup_induction {motive : FileTree → Prop}
    (leaf : ∀ tree, tree.isDirectory = false → motive tree)
    (directory : ∀ entries, (∀ name inner, lookup name entries = some inner → motive inner) →
      motive (.directory entries)) (tree : FileTree) : motive tree := by
  match tree with
  | .file text => exact leaf _ rfl
  | .other fault => exact leaf _ rfl
  | .directory entries =>
      refine directory entries fun name inner hlookup => ?_
      -- an entry that is found is one of the entries, and so smaller than the directory
      obtain ⟨before, after, hentries, -⟩ := lookup_eq_some_iff.mp hlookup
      have hmem : (name, inner) ∈ entries := by simp [hentries]
      have hlt := sizeOf_lt_of_mem hmem
      exact lookup_induction leaf directory inner
termination_by sizeOf tree
decreasing_by
  simp only [Prod.mk.sizeOf_spec, FileTree.directory.sizeOf_spec] at hlt ⊢
  omega

/-- What the entries of two directories with the same layout come to stands side by side in the
order of their names. -/
theorem forall₂_inOrder_map {γ : Type} {related : γ → γ → Prop} {content : RawText → FileTree → γ}
    {before after : Entries} (hlayout : SameLayout (.directory before) (.directory after))
    (hrelated : ∀ name inner outer, before.lookup name = some inner →
      after.lookup name = some outer → SameLayout inner outer →
      related (content name inner) (content name outer)) :
    Forall₂ (fun first second => first.1 = second.1 ∧ related first.2 second.2)
      (inOrder (before.map fun entry => (entry.1, content entry.1 entry.2)))
      (inOrder (after.map fun entry => (entry.1, content entry.1 entry.2))) := by
  have hnames : ∀ entries : Entries,
      (entries.map fun entry => (entry.1, content entry.1 entry.2)).map (·.1) =
        entries.map (·.1) := by
    intro entries
    rw [map_map]
    rfl
  refine forall₂_inOrder ?_ ?_ fun name => ?_
  · rw [hnames]
    exact hlayout.firstProper [] before rfl
  · rw [hnames]
    exact hlayout.secondProper [] after rfl
  · rw [lookup_map_snd, lookup_map_snd]
    obtain ⟨hnone, hnone'⟩ | ⟨inner, outer, hinner, houter, hbelow⟩ := hlayout.lookup_cases name
    · exact .inl ⟨by rw [hnone]; rfl, by rw [hnone']; rfl⟩
    · refine .inr ⟨content name inner, content name outer, ?_, ?_, ?_⟩
      · rw [hinner, Option.map_some]
      · rw [houter, Option.map_some]
      · exact hrelated name inner outer hinner houter hbelow

/-! ## Scanning for files -/

/-- What is found at the entry of a directory. -/
def foundAt (suffix : String) (path : Path) (name : RawText) : FileTree → List Found
  | directory entries => filesBelow suffix (path.join name) (directory entries)
  | file text => if endsWith suffix name then [(path.join name, (file text).read)] else []
  | other fault => if endsWith suffix name then [(path.join name, (other fault).read)] else []

theorem filesOf_eq_map (suffix : String) (path : Path) (entries : Entries) :
    filesOf suffix path entries =
      entries.map fun entry => (entry.1, foundAt suffix path entry.1 entry.2) := by
  induction entries with
  | nil => rfl
  | cons entry others ih =>
      obtain ⟨name, tree⟩ := entry
      cases tree <;> rw [filesOf, ih] <;> rfl

theorem filesBelow_of_leaf {tree : FileTree} (hleaf : tree.isDirectory = false) (suffix : String)
    (path : Path) : filesBelow suffix path tree = [] := by
  cases tree with
  | file text => rw [filesBelow]
  | other fault => rw [filesBelow]
  | directory entries => cases hleaf

theorem foundAt_of_leaf {tree : FileTree} (hleaf : tree.isDirectory = false) (suffix : String)
    (path : Path) (name : RawText) :
    foundAt suffix path name tree =
      if endsWith suffix name then [(path.join name, tree.read)] else [] := by
  cases tree with
  | file text => rfl
  | other fault => rfl
  | directory entries => cases hleaf

/-- Two trees have the same layout, and the texts at one place are alike if the name of the place
ends with a suffix. -/
structure AlikeBelow (suffix : String) (alike : Option String → Option String → Prop)
    (first second : FileTree) : Prop where
  layout : SameLayout first second
  texts : ∀ names name before after, endsWith suffix name = true →
    first.get? (names ++ [name]) = some (.file before) →
    second.get? (names ++ [name]) = some (.file after) → alike before after

section

variable {suffix : String} {alike : Option String → Option String → Prop}

theorem AlikeBelow.of_lookup {before after : Entries} {name : RawText} {inner outer : FileTree}
    (halike : AlikeBelow suffix alike (.directory before) (.directory after))
    (hbefore : before.lookup name = some inner) (hafter : after.lookup name = some outer) :
    AlikeBelow suffix alike inner outer where
  layout := halike.layout.get? [name] (by simp [get?_directory_cons, hbefore])
    (by simp [get?_directory_cons, hafter])
  texts := by
    intro names last first second hlast hfirst hsecond
    refine halike.texts (name :: names) last first second hlast ?_ ?_
    · rw [cons_append, get?_directory_cons, hbefore, Option.bind_some, hfirst]
    · rw [cons_append, get?_directory_cons, hafter, Option.bind_some, hsecond]

/-- What comes of reading is the same, or the texts of two files are alike. -/
inductive AlikeFound (alike : Option String → Option String → Prop) :
    Except FileFault String → Except FileFault String → Prop
  | same (content : Except FileFault String) : AlikeFound alike content content
  | file {text text' : Option String} (halike : alike text text') :
      AlikeFound alike (FileTree.file text).read (FileTree.file text').read

theorem AlikeFound.toOption {before after : Except FileFault String}
    (hfound : AlikeFound alike before after) (hsame : ∀ text, alike text text) :
    alike before.toOption after.toOption := by
  have hread : ∀ text, (FileTree.file text).read.toOption = text := by
    intro text
    cases text <;> rfl
  cases hfound with
  | same content => exact hsame _
  | file halike => rwa [hread, hread]

theorem AlikeFound.eq {before after : Except FileFault String}
    (hfound : AlikeFound Eq before after) : before = after := by
  cases hfound with
  | same content => rfl
  | file heq => rw [heq]

/-- Trees that are alike are scanned in step.  The order of the entries does not matter, since the
scan puts them in the order of their names first. -/
theorem forall₂_filesBelow {first second : FileTree}
    (halike : AlikeBelow suffix alike first second) (path : Path) :
    Forall₂ (fun before after => before.1 = after.1 ∧ AlikeFound alike before.2 after.2)
      (filesBelow suffix path first) (filesBelow suffix path second) := by
  induction first using lookup_induction generalizing second path with
  | leaf first hleaf =>
      have hleaf' : second.isDirectory = false := halike.layout.isDirectory_eq ▸ hleaf
      rw [filesBelow_of_leaf hleaf, filesBelow_of_leaf hleaf']
      exact .nil
  | directory entries ih =>
      obtain ⟨entries', rfl⟩ := isDirectory_iff.mp halike.layout.isDirectory_eq.symm
      rw [filesBelow, filesBelow, filesOf_eq_map, filesOf_eq_map]
      refine rel_flatMap (forall₂_inOrder_map halike.layout ?_) fun before after hfound => hfound.2
      intro name inner outer hinner houter hlayout
      -- under a name stand two files with texts that are alike, two faults, or two directories
      have hbelow := halike.of_lookup hinner houter
      obtain ⟨text, text', rfl, rfl⟩ | ⟨fault, rfl, rfl⟩ | ⟨below, below', rfl, rfl⟩ :=
        hlayout.cases_on
      · rw [foundAt, foundAt]
        by_cases hname : endsWith suffix name = true
        · rw [if_pos hname, if_pos hname]
          refine .cons ⟨rfl, .file (halike.texts [] name text text' hname ?_ ?_)⟩ .nil
          · simp [get?_directory_cons, hinner]
          · simp [get?_directory_cons, houter]
        · rw [if_neg hname, if_neg hname]
          exact .nil
      · rw [foundAt]
        split
        · exact .cons ⟨rfl, .same _⟩ .nil
        · exact .nil
      · exact ih name _ hinner hbelow (path.join name)

end

/-! ## Scanning for directories -/

theorem outermost_of_leaf {tree : FileTree} (hleaf : tree.isDirectory = false) (file : RawText)
    (path : Path) : outermost file path tree = [] := by
  cases tree with
  | file text => rw [outermost]
  | other fault => rw [outermost]
  | directory entries => cases hleaf

theorem outermostOf_eq_map (file : RawText) (path : Path) (entries : Entries) :
    outermostOf file path entries =
      entries.map fun entry => (entry.1, outermost file (path.join entry.1) entry.2) := by
  induction entries with
  | nil => rfl
  | cons entry others ih =>
      obtain ⟨name, tree⟩ := entry
      rw [outermostOf, ih]
      rfl

theorem SameLayout.holdsFile_eq {before after : Entries}
    (hlayout : SameLayout (directory before) (directory after)) (name : RawText) :
    holdsFile name before = holdsFile name after := by
  rw [holdsFile, holdsFile]
  obtain ⟨hnone, hnone'⟩ | ⟨inner, outer, hinner, houter, hbelow⟩ := hlayout.lookup_cases name
  · rw [hnone, hnone']
  · rw [hinner, houter]
    exact hbelow.isFile_eq

theorem outermost_eq {first second : FileTree} (hlayout : SameLayout first second)
    (file : RawText) (path : Path) : outermost file path first = outermost file path second := by
  induction first using lookup_induction generalizing second path with
  | leaf first hleaf =>
      have hleaf' : second.isDirectory = false := hlayout.isDirectory_eq ▸ hleaf
      rw [outermost_of_leaf hleaf, outermost_of_leaf hleaf']
  | directory entries ih =>
      obtain ⟨entries', rfl⟩ := isDirectory_iff.mp hlayout.isDirectory_eq.symm
      have hinOrder : Forall₂ (fun before after => before.1 = after.1 ∧ before.2 = after.2)
          (inOrder (outermostOf file path entries)) (inOrder (outermostOf file path entries')) := by
        rw [outermostOf_eq_map, outermostOf_eq_map]
        exact forall₂_inOrder_map hlayout fun name inner outer hinner _ hbelow =>
          ih name inner hinner hbelow (path.join name)
      have heq : inOrder (outermostOf file path entries) =
          inOrder (outermostOf file path entries') := eq_of_forall₂ hinOrder
      rw [outermost, outermost, hlayout.holdsFile_eq, heq]

end FileTree

end Compliance
