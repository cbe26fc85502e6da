/-!
# Cutting text

Everything here works on lists of characters: the two sides of the first
occurrence of a separator, the pieces between all its occurrences, and the text
left when the occurrences of a marker are taken out.  The pieces may be those of
octets too.
-/

namespace Compliance.Text

/-- The two sides of the first occurrence of `separator`. -/
def cut? (separator : Char) : List Char → Option (List Char × List Char)
  | [] => none
  | c :: rest =>
    if c = separator then some ([], rest)
    else (cut? separator rest).map fun (before, after) => (c :: before, after)

/-- A text is cut where the separator stands first. -/
theorem cut?_eq_some {separator : Char} {text before after : List Char}
    (hcut : cut? separator text = some (before, after)) :
    text = before ++ separator :: after ∧ separator ∉ before := by
  induction text generalizing before with
  | nil => simp [cut?] at hcut
  | cons c rest ih =>
      simp only [cut?] at hcut
      split at hcut
      · rename_i heq
        obtain ⟨rfl, rfl⟩ : [] = before ∧ rest = after := by simpa using hcut
        simp [heq]
      · rename_i hne
        obtain ⟨⟨front, back⟩, hrest, hpair⟩ := Option.map_eq_some_iff.mp hcut
        obtain ⟨rfl, rfl⟩ : c :: front = before ∧ back = after := by simpa using hpair
        obtain ⟨htext, hmem⟩ := ih hrest
        exact ⟨by simp [htext], by simp [hmem, Ne.symm hne]⟩

/-- A text is cut at the first separator that is in it. -/
theorem cut?_append_cons {separator : Char} {before : List Char} (hbefore : separator ∉ before)
    (after : List Char) : cut? separator (before ++ separator :: after) = some (before, after) := by
  induction before with
  | nil => simp [cut?]
  | cons c rest ih =>
      obtain ⟨hne, hrest⟩ : separator ≠ c ∧ separator ∉ rest := by simpa using hbefore
      simp [cut?, Ne.symm hne, ih hrest]

/-- Only a text without the separator cannot be cut. -/
theorem cut?_eq_none_iff {separator : Char} {text : List Char} :
    cut? separator text = none ↔ separator ∉ text := by
  induction text with
  | nil => simp [cut?]
  | cons c rest ih =>
      by_cases h : c = separator
      · simp [cut?, h]
      · simp [cut?, h, ih, Ne.symm h]

/-- The pieces between the occurrences of `separator`; never empty. -/
def pieces {α : Type} [DecidableEq α] (separator : α) : List α → List (List α)
  | [] => [[]]
  | c :: rest =>
    if c = separator then [] :: pieces separator rest
    else match pieces separator rest with
      | [] => [[c]]
      | piece :: others => (c :: piece) :: others

/-- The text that follows `start`, if it begins so. -/
def after? : (start text : List Char) → Option (List Char)
  | [], text => some text
  | _ :: _, [] => none
  | s :: start, c :: text => if s = c then after? start text else none

/-- A text begins with `start` exactly when it is `start` and what follows. -/
theorem after?_eq_some_iff {start text rest : List Char} :
    after? start text = some rest ↔ text = start ++ rest := by
  induction start generalizing text with
  | nil => simp [after?]
  | cons s start ih =>
      cases text with
      | nil => simp [after?]
      | cons c text =>
          by_cases h : s = c
          · simp [after?, h, ih]
          · simp [after?, h, Ne.symm h]

/-- Whether `needle` occurs in the text. -/
def occurs (needle : List Char) : List Char → Bool
  | [] => needle.isEmpty
  | c :: rest => (after? needle (c :: rest)).isSome || occurs needle rest

/-- Takes out the occurrences of `marker`, from the left and without overlap, after leaving
out the first `skip` characters. -/
def eraseFrom (marker : List Char) : Nat → List Char → List Char
  | _, [] => []
  | skip + 1, _ :: rest => eraseFrom marker skip rest
  | 0, c :: rest =>
    if (after? marker (c :: rest)).isSome then eraseFrom marker (marker.length - 1) rest
    else c :: eraseFrom marker 0 rest

/-- The text without the occurrences of `marker`, which are found from the left and do not
overlap. -/
def erase (marker text : List Char) : List Char := eraseFrom marker 0 text

/-- Newlines become spaces. -/
def unwrapLines (text : List Char) : List Char :=
  text.map fun c => if c = '\n' then ' ' else c

/-- The texts with `separator` between neighbours. -/
def joined {α : Type} (separator : List α) : List (List α) → List α
  | [] => []
  | [text] => text
  | text :: others => text ++ separator ++ joined separator others

end Compliance.Text
