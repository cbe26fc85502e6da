import Compliance.Policy.Library
import Compliance.Proofs.Except
import Mathlib.Data.List.Basic

/-!
# Which policies a library has

A library is filled file by file, and only the files that can be used matter for what
is found in it: an identifier stands for the policy of the last usable file that has it
(`policy?_foldl_addFound`).
-/

namespace Compliance.PolicyLibrary

open List

/-- The policies of the files that can be used, in the order of the files. -/
def usable (product : Product) (found : List FileTree.Found) : List ControlFile :=
  found.filterMap fun file => (policyOf product file).toOption

theorem policy?_add (library : PolicyLibrary) (file : ControlFile) (id : String) :
    (library.add file).policy? id = if id = file.id then some file else library.policy? id := by
  rw [policy?, add, Table.get?_insert]
  rfl

/-- An identifier stands for the last usable policy that has it. -/
theorem policy?_foldl_addFound (product : Product) (found : List FileTree.Found)
    (library : PolicyLibrary) (id : String) :
    (found.foldl (addFound product) library).policy? id =
      ((usable product found).filter fun policy => policy.id = id).getLast?.or
        (library.policy? id) := by
  induction found generalizing library with
  | nil => rfl
  | cons file others ih =>
      -- a later file takes precedence over the head, and the head over the library
      rw [foldl_cons, ih]
      cases hpolicy : policyOf product file with
      | error fault =>
          have husable : usable product (file :: others) = usable product others :=
            filterMap_cons_none (by rw [hpolicy]; rfl)
          rw [husable, addFound, hpolicy]
          rfl
      | ok policy =>
          have husable : usable product (file :: others) = policy :: usable product others :=
            filterMap_cons_some (by rw [hpolicy]; rfl)
          have hadd : addFound product library file = library.add policy := by
            rw [addFound, hpolicy]
          rw [husable, hadd, policy?_add]
          by_cases hid : policy.id = id
          · rw [filter_cons_of_pos (by simpa using hid), getLast?_cons, if_pos hid.symm]
            cases ((usable product others).filter fun policy => policy.id = id).getLast? <;> rfl
          · rw [filter_cons_of_neg (by simpa using hid), if_neg (Ne.symm hid)]

section

variable {files : FileSystem} {product : Product} {directory : Path} {library : PolicyLibrary}

/-- What a library of a directory has been filled with. -/
theorem load_eq_ok_iff :
    load files product directory = .ok library ↔
      ∃ found, files.filesWithSuffix directory fileSuffix = .ok found ∧
        library = found.foldl (addFound product) empty := by
  rw [load, Except.bind_eq_ok_iff]
  refine exists_congr fun found => and_congr Except.mapError_eq_ok_iff ?_
  exact ⟨fun hok => (Except.ok.inj hok).symm, fun heq => heq ▸ rfl⟩

end

end Compliance.PolicyLibrary
