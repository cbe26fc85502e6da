import Compliance.Parameter
import Compliance.Proofs.Text.Pieces
import Compliance.Proofs.Text.Quoted

/-!
# The text of options

Options are listed between braces, each as its quoted name, a colon and its quoted value.
A name and a value may hold any characters, also those that separate options from one
another.  Since the end of a quoted text can be told, so can the end of an option
(`optionChars_append_inj`) and the end of the list (`listed_append_inj`), and the text is
that of no other options (`optionsText_eq_iff`).
-/

namespace Compliance.Parameter

open List

/-- An option can be told from what follows it. -/
theorem optionChars_append_inj {option other : String × String} {rest others : List Char}
    (heq : optionChars option ++ rest = optionChars other ++ others) :
    option = other ∧ rest = others := by
  obtain ⟨name, value⟩ := option
  obtain ⟨otherName, otherValue⟩ := other
  simp only [optionChars, append_assoc] at heq
  obtain ⟨hname, heq⟩ := Text.quotedChars_append_inj heq
  obtain ⟨hvalue, hrest⟩ := Text.quotedChars_append_inj (append_cancel_left heq)
  exact ⟨Prod.ext (String.toList_inj.mp hname) (String.toList_inj.mp hvalue), hrest⟩

/-- An option with the comma before it. -/
def listed (option : String × String) : List Char := [',', ' '] ++ optionChars option

/-- Where a brace follows instead of a comma the options end. -/
theorem listed_append_inj {options others : List (String × String)}
    (heq : options.flatMap listed ++ ['\x7d'] = others.flatMap listed ++ ['\x7d']) :
    options = others := by
  induction options generalizing others with
  | nil =>
      cases others with
      | nil => rfl
      | cons other others => simp [listed] at heq
  | cons option options ih =>
      cases others with
      | nil => simp [listed] at heq
      | cons other others =>
          simp only [flatMap_cons, listed, append_assoc] at heq
          obtain ⟨rfl, hrest⟩ := optionChars_append_inj (append_cancel_left heq)
          rw [ih hrest]

theorem joined_optionChars_append_inj {options others : List (String × String)}
    (heq : Text.joined [',', ' '] (options.map optionChars) ++ ['\x7d'] =
      Text.joined [',', ' '] (others.map optionChars) ++ ['\x7d']) : options = others := by
  cases options with
  | nil =>
      cases others with
      | nil => rfl
      | cons other others =>
          simp [Text.joined_cons, optionChars, Text.quotedChars, Text.joined] at heq
  | cons option options =>
      cases others with
      | nil => simp [Text.joined_cons, optionChars, Text.quotedChars, Text.joined] at heq
      | cons other others =>
          rw [map_cons, map_cons, Text.joined_cons, Text.joined_cons, append_assoc, append_assoc,
            flatMap_map, flatMap_map] at heq
          obtain ⟨rfl, hrest⟩ := optionChars_append_inj heq
          rw [listed_append_inj hrest]

/-- The text of options determines them: parameters whose options are written alike have the same
options. -/
theorem optionsText_eq_iff (first second : Parameter) :
    first.optionsText = second.optionsText ↔ first.options = second.options := by
  constructor
  · intro htext
    have hchars := congrArg String.toList htext
    simp only [optionsText, String.toList_ofList, cons_append] at hchars
    have hentries := joined_optionChars_append_inj (cons.inj hchars).2
    exact Table.ext_get? fun key => by rw [Table.get?, Table.get?, hentries]
  · intro hoptions
    rw [optionsText, optionsText, hoptions]

end Compliance.Parameter
