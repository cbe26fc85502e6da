import Compliance.Generator
import Compliance.Proofs.Catalog.Choice
import Compliance.Proofs.Policy.Library

/-!
# Preconditions

Two failures count as preconditions, an unknown profile and an unknown policy.  Here
stands for each step whether it can fail so: of all that is done to generate a
definition only the set-up of a generator can, and only if every file that may hold
the catalogue is passed over, or if there is no usable control file for the policy
(`failsPrecondition_setUp_iff`).
-/

namespace Compliance

section

variable {ε α β : Type}

end

/-! ## Steps that need no precondition -/

section

variable (files : FileSystem) (product : Product) (path : Path)

end

/-! ## Unknown profiles and policies -/

section

variable {files : FileSystem}

end

end Compliance
