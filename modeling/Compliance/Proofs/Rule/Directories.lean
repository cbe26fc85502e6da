import Compliance.Proofs.Files.Order
import Compliance.Proofs.Interference
import Compliance.Rule.Source
import Mathlib.Data.List.Infix

/-!
# Directories of rules

The scan of a product finds the outermost directories that hold the definition of a rule,
in the order of their paths, and of two with one name it keeps the first.  So a rule is
located in the directory whose path is least (`scanDirectories_locates_least`), and never
in a directory that is inside another one with a definition.  All this is said of the tree as
it is seen under the root, where a definition whose path is too long is no file.
-/

namespace Compliance

open List

namespace RuleSource

theorem get?_byName (directories : List Path) (id : String) :
    (byName directories).get? id =
      directories.find? fun directory => directory.fileName? = some (RawText.ofText id) := by
  have hempty : (∅ : Table Path).get? id = none := Table.get?_empty id
  rw [byName, ← Option.none_or (o := directories.find? _), ← hempty]
  -- what is in the table before the directories takes precedence over all of them
  generalize (∅ : Table Path) = table
  clear hempty
  induction directories generalizing table with
  | nil => simp
  | cons directory others ih =>
      have hname : directory.fileName? = some (RawText.ofText id) ↔
          directory.fileName?.bind RawText.text? = some id := by
        simp [Option.bind_eq_some_iff, RawText.text?_eq_some_iff]
      rw [foldl_cons, ih]
      cases htext : directory.fileName?.bind RawText.text? with
      | none => rw [find?_cons_of_neg (by simp [hname, htext])]
      | some text =>
          simp only [Table.get?_insertNew, Option.or_assoc]
          by_cases hid : id = text
          · subst hid
            rw [if_pos rfl, Option.some_or, find?_cons_of_pos (by simp [hname, htext])]
          · rw [if_neg hid, Option.none_or,
              find?_cons_of_neg (by simp [hname, htext, Ne.symm hid])]

/-- What is found first stands before everything else that could be found. -/
private theorem eq_or_of_find?_eq_some {α : Type} {related : α → α → Prop} {p : α → Bool}
    {items : List α} {found other : α} (hpairwise : items.Pairwise related)
    (hfind : items.find? p = some found) (hother : other ∈ items) (hp : p other = true) :
    other = found ∨ related found other := by
  obtain ⟨-, before, after, rfl, hbefore⟩ := find?_eq_some_iff_append.mp hfind
  rw [pairwise_append, pairwise_cons] at hpairwise
  rw [mem_append, mem_cons] at hother
  rcases hother with hother | hother | hother
  · have hnot := hbefore other hother
    rw [hp] at hnot
    cases hnot
  · exact .inl hother
  · exact .inr (hpairwise.2.1.1 other hother)

/-- A table of directories locates a rule in the least of the outermost directories that hold a
definition and have the identifier of the rule as name. -/
structure LocatesLeast (tree : FileTree) (root : Path) (table : Table Path) : Prop where
  known : ∀ id, (locate id (.scan table)).isSome ↔
    ∃ place, tree.IsOutermost RuleDefinition.fileName place ∧
      (root.below place).fileName? = some (RawText.ofText id)
  least : ∀ id directory, locate id (.scan table) = some directory →
    ∃ place, tree.IsOutermost RuleDefinition.fileName place ∧ directory = root.below place ∧
      directory.fileName? = some (RawText.ofText id) ∧
      ∀ other, tree.IsOutermost RuleDefinition.fileName other →
        (root.below other).fileName? = some (RawText.ofText id) → other ≠ place →
          directory.Precedes (root.below other)
  /-- No rule is located in a directory that is inside another one with a definition. -/
  nested : ∀ outer inner, tree.HoldsFile RuleDefinition.fileName outer →
    tree.HoldsFile RuleDefinition.fileName inner → outer <+: inner → outer ≠ inner →
      ∀ id, locate id (.scan table) ≠ some (root.below inner)

theorem locatesLeast_byName {tree : FileTree} (hnamed : tree.IsWellNamed) (root : Path) :
    LocatesLeast tree root
      (byName (FileTree.outermost RuleDefinition.fileName root tree)) := by
  have hlocate : ∀ id directory,
      locate id (.scan (byName (FileTree.outermost RuleDefinition.fileName root tree))) =
          some directory →
        ∃ place, tree.IsOutermost RuleDefinition.fileName place ∧ directory = root.below place ∧
          directory.fileName? = some (RawText.ofText id) := by
    intro id directory hlocated
    rw [locate, get?_byName] at hlocated
    obtain ⟨place, houtermost, hpath⟩ :=
      (FileTree.mem_outermost_iff hnamed).mp (mem_of_find?_eq_some hlocated)
    exact ⟨place, houtermost, hpath, by simpa using find?_some hlocated⟩
  refine ⟨?_, ?_, ?_⟩
  · intro id
    rw [locate, get?_byName, find?_isSome]
    simp only [FileTree.mem_outermost_iff hnamed, decide_eq_true_eq]
    constructor
    · rintro ⟨directory, ⟨place, houtermost, rfl⟩, hname⟩
      exact ⟨place, houtermost, hname⟩
    · rintro ⟨place, houtermost, hname⟩
      exact ⟨_, ⟨place, houtermost, rfl⟩, hname⟩
  · intro id directory hlocated
    obtain ⟨place, houtermost, hpath, hname⟩ := hlocate id directory hlocated
    refine ⟨place, houtermost, hpath, hname, ?_⟩
    intro other hother hothername hne
    rw [locate, get?_byName] at hlocated
    have hmem : root.below other ∈ FileTree.outermost RuleDefinition.fileName root tree :=
      (FileTree.mem_outermost_iff hnamed).mpr ⟨other, hother, rfl⟩
    rcases eq_or_of_find?_eq_some (FileTree.pairwise_outermost hnamed _ root) hlocated hmem
        (by simpa using hothername) with heq | hprecedes
    · rw [hpath] at heq
      exact absurd (Path.eq_of_below_eq (hnamed.isName_of_holdsFile hother.holds)
        (hnamed.isName_of_holdsFile houtermost.holds) heq) hne
    · exact hprecedes
  · intro outer inner houter hinner hprefix hne id hlocated
    obtain ⟨place, houtermost, hpath, -⟩ := hlocate id _ hlocated
    have hplace : inner = place := Path.eq_of_below_eq (hnamed.isName_of_holdsFile hinner)
      (hnamed.isName_of_holdsFile houtermost.holds) hpath
    subst hplace
    exact houtermost.none_above outer hprefix hne houter

theorem scanDirectories_of_find {files : FileSystem} {root : Path} {entries : FileTree.Entries}
    (hroot : files.find root = .ok (.directory entries)) :
    scanDirectories files root =
      .ok (byName (FileTree.outermost RuleDefinition.fileName root
        ((FileTree.directory entries).seenUnder root))) := by
  rw [scanDirectories, FileSystem.list_of_find hroot]
  rfl

/-- A scan of a directory locates each rule in the least of its outermost directories.  It does not
matter in which order the entries of the directories are listed, nor which texts the files have. -/
theorem scanDirectories_locates_least {files : FileSystem} {root : Path}
    {entries : FileTree.Entries} (hroot : files.find root = .ok (.directory entries))
    (hnamed : (FileTree.directory entries).IsWellNamed) :
    ∃ table, scanDirectories files root = .ok table ∧
      LocatesLeast ((FileTree.directory entries).seenUnder root) root table ∧
      ((FileTree.directory entries).FitsUnder root →
        LocatesLeast (.directory entries) root table) ∧
      ∀ other : FileSystem, files.SameLayout other → scanDirectories other root = .ok table := by
  have hscan := scanDirectories_of_find hroot
  have hleast := locatesLeast_byName (hnamed.seenUnder root) root
  refine ⟨_, hscan, hleast, ?fits, ?sameLayout⟩
  case fits =>
    intro hfits
    rw [hnamed.seenUnder_eq_self hfits] at hleast ⊢
    exact hleast
  case sameLayout =>
    intro other hlayout
    rw [← scanDirectories_eq hlayout root]
    exact hscan

/-! ## A product to look at

Three directories have the same name.  One is inside another one, and of the other two the one
whose path would be greater as a text is the lesser one by its names.
-/

namespace Sample

def ruleDirectory (others : FileTree.Entries) : FileTree :=
  .directory (("rule.yml", .file (some "description: Limits")) :: others)

def scattered : FileTree.Entries :=
  [("a-b", .directory [("limits", ruleDirectory [])]),
    ("a", .directory [("limits", ruleDirectory [("limits", ruleDirectory [])])])]

def scatteredFiles : FileSystem :=
  { root := .directory [("guide", .directory scattered)], working := [] }

theorem isWellNamed_scattered : (FileTree.directory scattered).IsWellNamed := by
  have hnames : ∀ name ∈ ["a-b", "a", "limits", "rule.yml"],
      Path.IsName (RawText.ofText name) := by decide
  simp only [forall_mem_cons] at hnames
  simp [scattered, ruleDirectory, FileTree.isWellNamed_directory_iff, hnames]

theorem outermost_scattered :
    FileTree.outermost RuleDefinition.fileName "guide" (.directory scattered) =
      (["guide/a/limits", "guide/a-b/limits"] : List Path) := by
  have hholds : FileTree.holdsFile RuleDefinition.fileName scattered = false := by decide
  have hlower : ∀ others, FileTree.holdsFile RuleDefinition.fileName
      (("rule.yml", .file (some "description: Limits")) :: others) = true := fun _ => rfl
  have hupper : ∀ others, FileTree.holdsFile RuleDefinition.fileName
      [("limits", .directory others)] = false := fun _ => rfl
  obtain ⟨ha, hab⟩ : (Path.join "guide" "a").join "limits" = "guide/a/limits" ∧
      (Path.join "guide" "a-b").join "limits" = "guide/a-b/limits" := by decide
  rw [FileTree.outermost, hholds]
  simp only [scattered, ruleDirectory, FileTree.outermost, FileTree.outermostOf, hlower, hupper,
    if_true, Bool.false_eq_true, if_false, FileTree.inOrder_singleton, flatMap_singleton, ha, hab]
  rw [FileTree.inOrder_eq_of_perm (reverse_perm _).symm (by decide)]
  rfl

end Sample

theorem scanDirectories_scattered :
    ∃ table, scanDirectories Sample.scatteredFiles "guide" = .ok table ∧
      locate "limits" (.scan table) = some (.ofText "guide/a/limits") ∧
      Path.Precedes "guide/a/limits" "guide/a-b/limits" ∧
      ∀ id, locate id (.scan table) ≠ some (.ofText "guide/a/limits/limits") := by
  have hroot : Sample.scatteredFiles.find "guide" = .ok (.directory Sample.scattered) := by rfl
  have hseen : (FileTree.directory Sample.scattered).seenUnder "guide" =
      .directory Sample.scattered := by rfl
  obtain ⟨table, hscan, hlocates, -, -⟩ :=
    scanDirectories_locates_least hroot Sample.isWellNamed_scattered
  rw [hseen] at hlocates
  obtain ⟨-, hleast, hnested⟩ := hlocates
  have hlocated : locate "limits" (.scan table) = some (.ofText "guide/a/limits") := by
    rw [scanDirectories_of_find hroot, hseen] at hscan
    obtain rfl := Except.ok.inj hscan
    rw [Sample.outermost_scattered]
    decide
  have hholds : ∀ place ∈
        ([["a", "limits"], ["a", "limits", "limits"], ["a-b", "limits"]] : List (List RawText)),
      (FileTree.directory Sample.scattered).HoldsFile RuleDefinition.fileName place := by
    simp only [forall_mem_cons]
    exact ⟨⟨_, rfl⟩, ⟨_, rfl⟩, ⟨_, rfl⟩, by simp⟩
  have houtermost : (FileTree.directory Sample.scattered).IsOutermost RuleDefinition.fileName
      ["a-b", "limits"] := by
    refine ⟨hholds _ (by simp), ?_⟩
    intro above hprefix hne
    have habove : above ∈ ([[], ["a-b"], ["a-b", "limits"]] : List (List RawText)) :=
      (mem_inits _ _).mpr hprefix
    simp only [mem_cons, not_mem_nil, or_false, hne] at habove
    rcases habove with rfl | rfl <;> rintro ⟨text, hget⟩ <;> cases hget
  refine ⟨table, hscan, hlocated, ?_, ?_⟩
  · obtain ⟨place, -, hplace, -, hothers⟩ := hleast "limits" "guide/a/limits" hlocated
    refine hothers ["a-b", "limits"] houtermost (by decide) ?_
    rintro rfl
    exact absurd hplace (by decide)
  · exact hnested ["a", "limits"] ["a", "limits", "limits"] (hholds _ (by simp))
      (hholds _ (by simp)) (by decide) (by decide)

end RuleSource

end Compliance
