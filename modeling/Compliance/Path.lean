import Compliance.Text.Pieces
import Compliance.Text.Raw

/-!
# Paths

A path is a raw text that is never normalised: two of them may name the same
place.  Its names stand between slashes; empty names and the name `.` are passed
over, except that a `.` at the very start counts.
-/

namespace Compliance

/-- A path as it was written. -/
abbrev Path := RawText

namespace Path

open Compliance.Text

/-- The octet between two names. -/
def slash : UInt8 := 0x2F

/-- The octet of a dot. -/
def dot : UInt8 := 0x2E

/-- The name that leads upwards. -/
def upwards : RawText := ⟨[dot, dot]⟩

/-- Whether the path starts at the root. -/
def isAbsolute (path : Path) : Bool := path.octets.head? = some slash

/-- The place `relative` seen from `base`; an absolute path stands for itself. -/
def join (base relative : Path) : Path :=
  if isAbsolute relative then relative
  else match base.octets.getLast? with
    | none => relative
    | some last =>
      if last = slash then ⟨base.octets ++ relative.octets⟩
      else ⟨base.octets ++ slash :: relative.octets⟩

/-- The greatest length of a path that can be used, in octets. -/
def limit : Nat := 4095

/-- Whether the path is short enough to be used. -/
def fits (path : Path) : Bool := path.octets.length ≤ limit

/-! ## Names -/

/-- Whether a name is passed over. -/
def isSilent (name : List UInt8) : Bool := name = [] || name = [dot]

/-- What stands before the names: the root, or a `.` that counts; and the octets after it. -/
def split (path : List UInt8) : List UInt8 × List UInt8 :=
  match path with
  | [] => ([], [])
  | first :: rest =>
    if first = slash then ([slash], rest)
    else if first = dot && rest.head?.all (· = slash) then ([dot], rest)
    else ([], first :: rest)

/-- The names with their slashes, the last one first, from the last one that is not passed over. -/
def namesBackward (rest : List UInt8) : List (List UInt8) :=
  (pieces slash rest).reverse.dropWhile isSilent

/-- The last name, unless it leads upwards. -/
def fileName? (path : Path) : Option RawText :=
  match namesBackward (split path.octets).2 with
  | [] => none
  | name :: _ => if name = [dot, dot] then none else some ⟨name⟩

/-- The path without its last name. -/
def parent? (path : Path) : Option Path :=
  let (start, rest) := split path.octets
  match namesBackward rest with
  | [] => if start = [dot] then some ⟨[]⟩ else none
  | _ :: others => some ⟨start ++ joined [slash] (others.dropWhile isSilent).reverse⟩

/-- The names on the way from the start of the path. -/
def steps (path : Path) : List RawText :=
  ((pieces slash path.octets).filter fun name => !isSilent name).map RawText.mk

/-- Whether the path says by its end that it names a directory. -/
def demandsDirectory (path : Path) : Bool :=
  match (pieces slash path.octets).getLast? with
  | some name => isSilent name
  | none => true

/-- Whether the last name of the path leads to where one is or upwards. -/
def endsInDots (path : Path) : Bool :=
  match ((pieces slash path.octets).reverse.dropWhile (· = [])).head? with
  | some name => name = [dot] || name = [dot, dot]
  | none => false

end Path

end Compliance
