import Compliance.Catalog.Reader
import Compliance.Failure

/-!
# Profiles

A profile is named by a plain name or by a reference with `://` in it.  The
catalogue that it resolves to stands in a file beside the profile, or in the
place of the profile itself.
-/

namespace Compliance

/-- A profile with the reference that is recorded for it and the path of its document. -/
structure Profile where
  href : String
  path : Path
deriving Repr, DecidableEq, Inhabited

namespace Profile

/-- The start of the references to profiles in the vendor directory. -/
def heading : String := "trestle://"

/-- The name of the file with the catalogue that a profile resolves to. -/
def resolvedFile : String := "resolved-catalog.json"

/-- The profile that a name or a reference stands for. The path of a `file://` reference is what
follows; any other reference is its own path. -/
def ofName (name : String) (vendor : Path) : Profile :=
  if Text.occurs "://".toList name.toList then
    { href := name
      path := ((Text.after? "file://".toList name.toList).map String.ofList).getD name }
  else
    let place := "profiles/" ++ name ++ "/profile.json"
    { href := heading ++ place, path := vendor.join place }

/-- The files that may hold the catalogue, in the order in which they are tried. -/
def candidates (profile : Profile) : List Path :=
  (profile.path.parent?.map fun parent => parent.join resolvedFile).toList ++ [profile.path]

/-- The catalogue in a file; nothing if there is no file, or none that holds a catalogue. -/
def catalogAt? (files : FileSystem) (path : Path) : Except Failure (Option (List Control)) :=
  if files.isFile path then do
    let text ← files.readRequired path
    if Catalog.isDocument text then
      match Catalog.parse text with
      | .ok controls => return some controls
      | .error fault => .error (.json path (.json fault))
    else return none
  else .ok none

/-- The catalogue in the first of some files that holds one. -/
def firstCatalog? (files : FileSystem) : List Path → Except Failure (Option (List Control))
  | [] => .ok none
  | path :: others => do
    match ← catalogAt? files path with
    | some controls => return some controls
    | none => firstCatalog? files others

/-- The controls of the catalogue that the profile resolves to. -/
def resolve (files : FileSystem) (profile : Profile) : Except Failure (List Control) := do
  match ← firstCatalog? files profile.candidates with
  | some controls => return controls
  | none => .error (.profileNotFound profile.href profile.path)

end Profile

end Compliance
