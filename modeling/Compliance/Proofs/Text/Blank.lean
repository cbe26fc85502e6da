import Compliance.Text.Blank
import Mathlib.Data.List.DropRight

/-!
# White space around a text

Trimming leaves a part of the text at whose ends no white space stands
(`isTrimmed_trim`), and it leaves nothing only of a text that is white space all
over (`trim_eq_nil_iff`).  No part of the text is lost that is trimmed itself
(`infix_trim_iff`).
-/

namespace Compliance.Text

open List

/-- No white space stands at either end of a text. -/
def IsTrimmed (text : List Char) : Prop :=
  (∀ c ∈ text.head?, isBlank c = false) ∧ ∀ c ∈ text.getLast?, isBlank c = false

theorem trimEnd_eq_rdropWhile (text : List Char) : trimEnd text = text.rdropWhile isBlank := rfl

theorem not_isBlank_of_mem_head?_trimStart {text : List Char} {c : Char}
    (hc : c ∈ (trimStart text).head?) : isBlank c = false := by
  have hhead := head?_dropWhile_not isBlank text
  rw [← trimStart, Option.mem_def.mp hc] at hhead
  exact hhead

theorem not_isBlank_of_mem_getLast?_trimEnd {text : List Char} {c : Char}
    (hc : c ∈ (trimEnd text).getLast?) : isBlank c = false := by
  rw [trimEnd, getLast?_reverse] at hc
  exact not_isBlank_of_mem_head?_trimStart hc

theorem isInfix_trim (text : List Char) : trim text <:+: text := by
  have hend : trim text <+: trimStart text := rdropWhile_prefix isBlank _
  have hstart : trimStart text <:+ text := dropWhile_suffix isBlank
  exact hend.isInfix.trans hstart.isInfix

theorem isTrimmed_trim (text : List Char) : IsTrimmed (trim text) := by
  constructor
  · intro c hc
    obtain ⟨rest, hrest⟩ : trim text <+: trimStart text := rdropWhile_prefix isBlank _
    have hhead : c ∈ (trimStart text).head? := by
      rw [← hrest, head?_append, Option.mem_def.mp hc]
      rfl
    exact not_isBlank_of_mem_head?_trimStart hhead
  · exact fun c hc => not_isBlank_of_mem_getLast?_trimEnd hc

theorem trim_eq_nil_iff {text : List Char} : trim text = [] ↔ ∀ c ∈ text, isBlank c = true := by
  have hstart : (∀ c ∈ trimStart text, isBlank c = true) ↔ trimStart text = [] := by
    cases hcases : trimStart text with
    | nil => simp
    | cons c rest =>
        -- what is left begins with a character that is not blank
        have hhead : isBlank c = false :=
          not_isBlank_of_mem_head?_trimStart (show c ∈ (trimStart text).head? by simp [hcases])
        simp [hhead]
  rw [trim, trimEnd_eq_rdropWhile, rdropWhile_eq_nil_iff, hstart, trimStart, dropWhile_eq_nil_iff]

private theorem infix_dropWhile {p : Char → Bool} {word text : List Char}
    (hhead : ∀ c ∈ word.head?, p c = false) (hwithin : word <:+: text) :
    word <:+: text.dropWhile p := by
  induction text with
  | nil => exact hwithin
  | cons c rest ih =>
      cases hc : p c with
      | false => rwa [dropWhile_cons_of_neg (by simp [hc])]
      | true =>
          rw [dropWhile_cons_of_pos hc]
          rcases infix_cons_iff.mp hwithin with hstarts | hrest
          · -- only nothing can begin with a character that is dropped
            cases word with
            | nil => exact nil_infix
            | cons d word =>
                obtain ⟨rfl, -⟩ := cons_prefix_cons.mp hstarts
                rw [hhead d rfl] at hc
                cases hc
          · exact ih hrest

/-- A part of a text without white space at its ends is not touched by trimming. -/
theorem infix_trim_iff {word text : List Char} (hword : IsTrimmed word) :
    word <:+: trim text ↔ word <:+: text := by
  refine ⟨fun hwithin => hwithin.trans (isInfix_trim text), fun hwithin => ?_⟩
  have hstart : word <:+: trimStart text := infix_dropWhile hword.1 hwithin
  rw [trim, trimEnd, ← reverse_infix, reverse_reverse]
  exact infix_dropWhile (by simpa using hword.2) <| reverse_infix.mpr hstart

theorem trim_of_isTrimmed {text : List Char} (htext : IsTrimmed text) : trim text = text :=
  (isInfix_trim text).eq_of_length_le ((infix_trim_iff htext).mpr infix_rfl).length_le

/-! ## White space on both sides -/

/-- A text is what trimming leaves of it with white space around it. -/
theorem exists_eq_append_trim (text : List Char) :
    ∃ before after, text = before ++ trim text ++ after ∧
      (∀ c ∈ before, isBlank c = true) ∧ ∀ c ∈ after, isBlank c = true := by
  refine ⟨text.takeWhile isBlank, (trimStart text).rtakeWhile isBlank, ?_,
    fun c hc => mem_takeWhile_imp hc, fun c hc => mem_rtakeWhile_imp hc⟩
  rw [trim, trimEnd_eq_rdropWhile, append_assoc, rdropWhile_append_rtakeWhile, trimStart,
    takeWhile_append_dropWhile]

/-- White space around a word is all that trimming takes off. -/
theorem trim_append_append {before word after : List Char}
    (hbefore : ∀ c ∈ before, isBlank c = true) (hafter : ∀ c ∈ after, isBlank c = true)
    (hne : word ≠ []) (hword : IsTrimmed word) : trim (before ++ word ++ after) = word := by
  obtain ⟨first, others, rfl⟩ := exists_cons_of_ne_nil hne
  have hfirst : isBlank first = false := hword.1 first rfl
  have hstart : trimStart (before ++ (first :: others) ++ after) = first :: others ++ after := by
    rw [append_assoc, trimStart, dropWhile_append_of_pos hbefore, cons_append,
      dropWhile_cons_of_neg (by simp [hfirst])]
  have hend : trimEnd (first :: others ++ after) = trimEnd (first :: others) := by
    rw [trimEnd, reverse_append, dropWhile_append_of_pos (by simpa using hafter)]
    rfl
  rw [trim, hstart, hend]
  refine rdropWhile_eq_self_iff.mpr fun hnil hblank => ?_
  rw [hword.2 _ (getLast_mem_getLast? hnil)] at hblank
  cases hblank

end Compliance.Text
