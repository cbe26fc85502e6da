import Compliance.Text.Blank
import Compliance.Text.Pieces

/-!
# Placeholders

A placeholder is a key between three opening and three closing braces, with
white space around it or not.  A key is made of letters, digits and underscores
of the ASCII set, which alone can occur in one.

Filling a text in replaces its placeholders from the left.  What has been put in
is not looked at again, and a placeholder whose key is unknown stays.
-/

namespace Compliance.Product

open Compliance.Text

/-- The characters of a key. -/
def isKeyChar (c : Char) : Bool :=
  ('A' ≤ c && c ≤ 'Z') || ('a' ≤ c && c ≤ 'z') || ('0' ≤ c && c ≤ '9') || c = '_'

/-- Three opening braces. -/
def opening : List Char := ['\x7b', '\x7b', '\x7b']

/-- Three closing braces. -/
def closing : List Char := ['\x7d', '\x7d', '\x7d']

/-- The key of the placeholder at the start of a text, and the text after the placeholder. -/
def placeholder? (text : List Char) : Option (List Char × List Char) := do
  let inner := trimStart (← after? opening text)
  let key := inner.takeWhile isKeyChar
  let rest ← after? closing (trimStart (inner.dropWhile isKeyChar))
  if key.isEmpty then none else return (key, rest)

/-- Fills in the placeholders of a text, after leaving out its first `skip` characters. -/
def fillFrom (value? : List Char → Option (List Char)) : (skip : Nat) → List Char → List Char
  | _, [] => []
  | skip + 1, _ :: text => fillFrom value? skip text
  | 0, c :: text =>
    match placeholder? (c :: text) with
    | none => c :: fillFrom value? 0 text
    | some (key, rest) =>
      let length := (c :: text).length - rest.length
      (value? key).getD ((c :: text).take length) ++ fillFrom value? (length - 1) text

/-- The text with its placeholders filled in. -/
def fill (value? : List Char → Option (List Char)) (text : List Char) : List Char :=
  fillFrom value? 0 text

end Compliance.Product
