import Compliance.Text.Pieces
import Mathlib.Data.List.Basic

/-!
# Pieces of a text

Cutting a text at a separator and joining the pieces with it are inverse to each
other: the pieces of a text make it up (`joined_pieces`), and texts without the
separator are the pieces of what they make up (`pieces_joined`).

Erasing a marker only takes characters away (`erase_sublist`).
-/

namespace Compliance.Text

open List

variable {α : Type} {separator : α}

/-! ## Joining -/

theorem joined_cons_of_ne_nil (text : List α) {others : List (List α)} (hne : others ≠ []) :
    joined [separator] (text :: others) = text ++ separator :: joined [separator] others := by
  cases others with
  | nil => exact absurd rfl hne
  | cons next others => simp [joined]

/-- All texts but the first have the separator before them. -/
theorem joined_cons (separator text : List α) (others : List (List α)) :
    joined separator (text :: others) = text ++ others.flatMap (separator ++ ·) := by
  induction others generalizing text with
  | nil => simp [joined]
  | cons next others ih =>
      rw [joined, ih, flatMap_cons, append_assoc, append_assoc]
      exact cons_ne_nil _ _

/-- The first texts make up the beginning of what all of them make up. -/
theorem joined_prefix_joined_append (first second : List (List α)) :
    joined [separator] first <+: joined [separator] (first ++ second) := by
  induction first with
  | nil => exact nil_prefix
  | cons text others ih =>
      by_cases hnil : others = []
      · subst hnil
        cases second with
        | nil => exact prefix_rfl
        | cons next rest => simp [joined]
      · rw [cons_append, joined_cons_of_ne_nil _ hnil,
          joined_cons_of_ne_nil _ (by simpa using fun heq => absurd heq hnil)]
        obtain ⟨rest, hrest⟩ := ih
        exact ⟨rest, by simp [← hrest]⟩

/-! ## Pieces -/

variable [DecidableEq α]


theorem pieces_ne_nil (separator : α) (text : List α) : pieces separator text ≠ [] := by
  cases text with
  | nil => simp [pieces]
  | cons c rest =>
      rw [pieces]
      split
      · simp
      · split <;> simp

@[simp] theorem pieces_cons_self (rest : List α) :
    pieces separator (separator :: rest) = [] :: pieces separator rest := by
  rw [pieces, if_pos rfl]

/-- A character that is not the separator belongs to the first piece. -/
theorem pieces_cons_of_ne {c : α} (hne : c ≠ separator) (rest : List α) :
    ∃ piece others, pieces separator rest = piece :: others ∧
      pieces separator (c :: rest) = (c :: piece) :: others := by
  obtain ⟨piece, others, hpieces⟩ :=
    exists_cons_of_ne_nil (pieces_ne_nil separator rest)
  refine ⟨piece, others, hpieces, ?_⟩
  rw [pieces, if_neg hne, hpieces]

theorem not_mem_of_mem_pieces {text piece : List α} (hpiece : piece ∈ pieces separator text) :
    separator ∉ piece := by
  induction text generalizing piece with
  | nil => simp_all [pieces]
  | cons c rest ih =>
      by_cases hc : c = separator
      · subst hc
        rw [pieces_cons_self, mem_cons] at hpiece
        rcases hpiece with rfl | hpiece
        · simp
        · exact ih hpiece
      · obtain ⟨first, others, hrest, hcons⟩ := pieces_cons_of_ne hc rest
        rw [hcons, mem_cons] at hpiece
        rcases hpiece with rfl | hpiece
        · have hfirst : separator ∉ first := ih (hrest ▸ mem_cons_self)
          simp [hfirst, Ne.symm hc]
        · exact ih (hrest ▸ mem_cons_of_mem _ hpiece)

/-- A text without the separator is its own only piece. -/
theorem pieces_of_not_mem {text : List α} (habsent : separator ∉ text) :
    pieces separator text = [text] := by
  induction text with
  | nil => rfl
  | cons c rest ih =>
      obtain ⟨hne, hrest⟩ : separator ≠ c ∧ separator ∉ rest := by simpa using habsent
      rw [pieces, if_neg (Ne.symm hne), ih hrest]

/-- What comes before the first separator is the first piece. -/
theorem pieces_append_cons {before : List α} (habsent : separator ∉ before)
    (after : List α) :
    pieces separator (before ++ separator :: after) = before :: pieces separator after := by
  induction before with
  | nil => simp
  | cons c rest ih =>
      obtain ⟨hne, hrest⟩ : separator ≠ c ∧ separator ∉ rest := by simpa using habsent
      rw [cons_append, pieces, if_neg (Ne.symm hne), ih hrest]

/-- A text with a separator in it has the pieces of its two sides. -/
theorem pieces_append (front back : List α) :
    pieces separator (front ++ separator :: back) =
      pieces separator front ++ pieces separator back := by
  induction front with
  | nil => simp [pieces]
  | cons c rest ih =>
      by_cases hc : c = separator
      · subst hc
        rw [cons_append, pieces_cons_self, pieces_cons_self, ih, cons_append]
      · obtain ⟨piece, others, hrest, hcons⟩ := pieces_cons_of_ne hc rest
        obtain ⟨piece', others', hwhole, hcons'⟩ :=
          pieces_cons_of_ne hc (rest ++ separator :: back)
        rw [ih, hrest, cons_append, cons.injEq] at hwhole
        obtain ⟨rfl, rfl⟩ := hwhole
        rw [cons_append, hcons', hcons, cons_append]

/-- The pieces have all characters of the text but the separators. -/
theorem exists_mem_pieces_iff {text : List α} {c : α} :
    (∃ piece ∈ pieces separator text, c ∈ piece) ↔ c ∈ text ∧ c ≠ separator := by
  induction text with
  | nil => simp [pieces]
  | cons first rest ih =>
      by_cases hfirst : first = separator
      · subst hfirst
        rw [pieces_cons_self, exists_mem_cons_iff, ih, mem_cons]
        constructor
        · rintro (hnone | ⟨hrest, hne⟩)
          · cases hnone
          · exact ⟨.inr hrest, hne⟩
        · rintro ⟨rfl | hrest, hne⟩
          · exact absurd rfl hne
          · exact .inr ⟨hrest, hne⟩
      · obtain ⟨piece, others, hrest, hcons⟩ := pieces_cons_of_ne hfirst rest
        rw [hrest, exists_mem_cons_iff] at ih
        rw [hcons, exists_mem_cons_iff, mem_cons, mem_cons, or_assoc, ih]
        constructor
        · rintro (rfl | ⟨hc, hne⟩)
          · exact ⟨.inl rfl, hfirst⟩
          · exact ⟨.inr hc, hne⟩
        · rintro ⟨rfl | hc, hne⟩
          · exact .inl rfl
          · exact .inr ⟨hc, hne⟩

/-! ## Joining pieces -/

/-- The pieces of a text make it up. -/
theorem joined_pieces (separator : α) (text : List α) :
    joined [separator] (pieces separator text) = text := by
  induction text with
  | nil => rfl
  | cons c rest ih =>
      by_cases hc : c = separator
      · subst hc
        rw [pieces_cons_self, joined_cons_of_ne_nil _ (pieces_ne_nil _ rest), ih, nil_append]
      · obtain ⟨piece, others, hrest, hcons⟩ := pieces_cons_of_ne hc rest
        rw [hrest] at ih
        rw [hcons, ← ih]
        cases others <;> simp [joined]

/-- Texts without the separator are the pieces of what they make up. -/
theorem pieces_joined {texts : List (List α)} (hne : texts ≠ [])
    (habsent : ∀ text ∈ texts, separator ∉ text) :
    pieces separator (joined [separator] texts) = texts := by
  induction texts with
  | nil => exact absurd rfl hne
  | cons text others ih =>
      have htext := habsent text mem_cons_self
      have hothers : ∀ other ∈ others, separator ∉ other := fun other hmem =>
        habsent other (mem_cons_of_mem _ hmem)
      by_cases hnil : others = []
      · subst hnil
        exact pieces_of_not_mem htext
      · rw [joined_cons_of_ne_nil _ hnil, pieces_append_cons htext, ih hnil hothers]

/-! ## Taking characters away -/

theorem eraseFrom_sublist (marker : List Char) (skip : Nat) (text : List Char) :
    eraseFrom marker skip text <+ text := by
  induction text generalizing skip with
  | nil => rw [eraseFrom]
  | cons c rest ih =>
      cases skip with
      | succ skip =>
          rw [eraseFrom]
          exact (ih skip).cons c
      | zero =>
          rw [eraseFrom]
          split
          · exact (ih _).cons c
          · exact (ih 0).cons_cons c

theorem erase_sublist (marker text : List Char) : erase marker text <+ text :=
  eraseFrom_sublist marker 0 text

theorem newline_not_mem_unwrapLines (text : List Char) : '\n' ∉ unwrapLines text := by
  unfold unwrapLines
  intro hmem
  obtain ⟨c, -, hc⟩ := mem_map.mp hmem
  split at hc
  · cases hc
  · rename_i hne
    exact hne hc

theorem unwrapLines_eq_self {text : List Char} (hnewline : '\n' ∉ text) :
    unwrapLines text = text := by
  have hkept : ∀ c ∈ text, (if c = '\n' then ' ' else c) = id c := by
    intro c hc
    refine if_neg ?_
    rintro rfl
    exact hnewline hc
  rw [unwrapLines, map_congr_left hkept, map_id]

/-- A part without line breaks and spaces is in a text exactly if it is in one of its lines. -/
theorem infix_unwrapLines_iff {piece text : List Char} (hspace : ' ' ∉ piece)
    (hnewline : '\n' ∉ piece) : piece <:+: unwrapLines text ↔ piece <:+: text := by
  constructor
  · intro hwithin
    obtain ⟨part, hpart, rfl⟩ := infix_map_iff.mp hwithin
    have hlines : '\n' ∉ part := fun hmem =>
      hspace (mem_map.mpr ⟨'\n', hmem, if_pos rfl⟩)
    rw [← unwrapLines, unwrapLines_eq_self hlines]
    exact hpart
  · intro hwithin
    rw [← unwrapLines_eq_self hnewline]
    exact hwithin.map _

end Compliance.Text
