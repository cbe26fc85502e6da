import Compliance.Proofs.Text.Blank
import Compliance.Proofs.Text.Pieces
import Mathlib.Data.List.Infix

/-!
# Taking markers out of a text

Erasing a marker takes out every occurrence, but what stood on both sides of one then stands
together and may be an occurrence of its own, which stays.  So a text without the marker
is left alone (`erase_eq_self_iff`), and yet a text may still have the marker after it has
been erased.

## Strategy

The markers here are tags: they begin with `<` and end with `>`, and neither character is
inside.  No occurrence of a tag therefore lies across a place before a `<` or after a `>`,
so that a text can be cut at such a place and its parts be erased alone
(`erase_append_of_closes`, `erase_append_of_opens`).  Conversely every character that is
left stood somewhere in the text, and what stood between two neighbours has vanished
(`exists_of_erase_eq_append_cons`).
-/

namespace Compliance.Text

open List

/-! ## One step after the other -/

section

variable {marker text : List Char}

theorem eraseFrom_eq_erase_drop (marker : List Char) (skip : Nat) (text : List Char) :
    eraseFrom marker skip text = erase marker (text.drop skip) := by
  induction text generalizing skip with
  | nil => cases skip <;> simp [erase, eraseFrom]
  | cons c rest ih =>
      cases skip with
      | zero => rfl
      | succ skip => rw [eraseFrom, ih, drop_succ_cons]

theorem isSome_after?_iff : (after? marker text).isSome = true ↔ marker <+: text := by
  rw [Option.isSome_iff_exists]
  simp only [after?_eq_some_iff]
  exact exists_congr fun rest => eq_comm

@[simp] theorem erase_nil (marker : List Char) : erase marker [] = [] := by
  rw [erase, eraseFrom]

/-- The marker at the beginning of a text is taken out. -/
theorem erase_append_self (hmarker : marker ≠ []) (rest : List Char) :
    erase marker (marker ++ rest) = erase marker rest := by
  obtain ⟨c, others, rfl⟩ := exists_cons_of_ne_nil hmarker
  have hstarts : c :: others <+: c :: (others ++ rest) := ⟨rest, rfl⟩
  rw [erase, cons_append, eraseFrom, if_pos (isSome_after?_iff.mpr hstarts),
    eraseFrom_eq_erase_drop]
  simp

/-- A character that does not begin the marker stays. -/
theorem erase_cons_of_not_isPrefix {c : Char} (hstarts : ¬ marker <+: c :: text) :
    erase marker (c :: text) = c :: erase marker text := by
  rw [erase, eraseFrom, if_neg (isSome_after?_iff.not.mpr hstarts), erase]

/-- A text is made up from its end, as erasing takes it apart: by whole markers, and by characters
that begin none. -/
@[elab_as_elim]
theorem erasing_induction (hmarker : marker ≠ []) {motive : List Char → Prop} (nil : motive [])
    (marker_append : ∀ rest, motive rest → motive (marker ++ rest))
    (cons : ∀ c rest, ¬ marker <+: c :: rest → motive rest → motive (c :: rest))
    (text : List Char) : motive text := by
  induction hlength : text.length using Nat.strongRecOn generalizing text with
  | ind length ih =>
      subst hlength
      by_cases hstarts : marker <+: text
      · obtain ⟨rest, rfl⟩ := hstarts
        have hshorter : rest.length < (marker ++ rest).length := by
          rw [length_append]
          have := length_pos_iff.mpr hmarker
          omega
        exact marker_append rest (ih _ hshorter rest rfl)
      · cases text with
        | nil => exact nil
        | cons c rest => exact cons c rest hstarts (ih _ (by simp) rest rfl)

/-- Only a text without the marker stays as it is. -/
theorem erase_eq_self_iff (hmarker : marker ≠ []) :
    erase marker text = text ↔ ¬ marker <:+: text := by
  induction text using erasing_induction hmarker with
  | nil => simpa using hmarker
  | marker_append rest _ =>
      refine iff_of_false (fun heq => ?_) (not_not.mpr (prefix_append _ _).isInfix)
      have hshorter := (erase_sublist marker rest).length_le
      rw [← erase_append_self hmarker, heq, length_append] at hshorter
      have := length_pos_iff.mpr hmarker
      omega
  | cons c rest hstarts ih =>
      rw [erase_cons_of_not_isPrefix hstarts, cons_inj_right, ih, infix_cons_iff, not_or]
      exact ⟨fun hrest => ⟨hstarts, hrest⟩, And.right⟩

/-- A character that is not in the marker stays. -/
theorem mem_erase_of_not_mem (hmarker : marker ≠ []) {c : Char} (habsent : c ∉ marker)
    (hc : c ∈ text) : c ∈ erase marker text := by
  induction text using erasing_induction hmarker with
  | nil => exact absurd hc not_mem_nil
  | marker_append rest ih =>
      rw [erase_append_self hmarker]
      exact ih ((mem_append.mp hc).resolve_left habsent)
  | cons d rest hstarts ih =>
      rw [erase_cons_of_not_isPrefix hstarts]
      rcases mem_cons.mp hc with rfl | hrest
      · exact mem_cons_self
      · exact mem_cons_of_mem _ (ih hrest)

/-- A character that is left stood in the text, and what was on either side of it is left of what
stood there. -/
theorem exists_of_erase_eq_append_cons (hmarker : marker ≠ []) {front back : List Char} {c : Char}
    (herase : erase marker text = front ++ c :: back) :
    ∃ before after, text = before ++ c :: after ∧ erase marker before = front ∧
      erase marker after = back := by
  induction text using erasing_induction hmarker generalizing front with
  | nil => simp at herase
  | marker_append rest ih =>
      rw [erase_append_self hmarker] at herase
      obtain ⟨before, after, rfl, hbefore, hafter⟩ := ih herase
      refine ⟨marker ++ before, after, by simp, ?_, hafter⟩
      rw [erase_append_self hmarker, hbefore]
  | cons d rest hstarts ih =>
      rw [erase_cons_of_not_isPrefix hstarts] at herase
      cases front with
      | nil =>
          obtain ⟨rfl, hback⟩ := cons.inj herase
          exact ⟨[], rest, rfl, erase_nil _, hback⟩
      | cons e front =>
          obtain ⟨rfl, hrest⟩ := cons.inj herase
          obtain ⟨before, after, rfl, hbefore, hafter⟩ := ih hrest
          refine ⟨d :: before, after, rfl, ?_, hafter⟩
          have hbegins : ¬ marker <+: d :: before := fun hbefore =>
            hstarts (hbefore.trans (prefix_append (d :: before) (c :: after)))
          rw [erase_cons_of_not_isPrefix hbegins, hbefore]

/-- A text may be cut at a place where no marker lies across. -/
theorem erase_append_of_cut (hmarker : marker ≠ []) {front back : List Char}
    (hcut : ∀ part, part ≠ [] → part <:+ front → marker <+: part ++ back → marker <+: part) :
    erase marker (front ++ back) = erase marker front ++ erase marker back := by
  induction front using erasing_induction hmarker with
  | nil => rw [nil_append, erase_nil, nil_append]
  | marker_append rest ih =>
      rw [append_assoc, erase_append_self hmarker, erase_append_self hmarker]
      exact ih fun part hne hpart => hcut part hne (hpart.trans (suffix_append _ _))
  | cons c rest hstarts ih =>
      have hwhole : ¬ marker <+: c :: (rest ++ back) := fun hmarked =>
        hstarts (hcut (c :: rest) (cons_ne_nil c rest) suffix_rfl hmarked)
      rw [cons_append, erase_cons_of_not_isPrefix hwhole, erase_cons_of_not_isPrefix hstarts,
        cons_append, ih fun part hne hpart => hcut part hne (hpart.trans (suffix_cons c rest))]

end

/-! ## Tags -/

/-- A marker that begins with `<` and ends with `>`, neither of which is inside. -/
def IsTag (marker : List Char) : Prop :=
  ∃ inner, marker = '<' :: (inner ++ ['>']) ∧ '<' ∉ inner ∧ '>' ∉ inner

/-- A text begins with `<` and ends with `>`. -/
structure IsEnclosed (text : List Char) : Prop where
  opens : text.head? = some '<'
  closes : text.getLast? = some '>'

section

variable {marker text front back : List Char}

theorem IsTag.ne_nil (htag : IsTag marker) : marker ≠ [] := by
  obtain ⟨inner, rfl, -⟩ := htag
  exact cons_ne_nil _ _

theorem IsTag.isEnclosed (htag : IsTag marker) : IsEnclosed marker := by
  obtain ⟨inner, rfl, -⟩ := htag
  exact ⟨rfl, by rw [← cons_append, getLast?_concat]⟩

/-- A marker that begins before a place and does not end there begins with what is before it. -/
private theorem prefix_or_exists_append_of_prefix_append (hstarts : marker <+: front ++ back) :
    marker <+: front ∨ ∃ c rest, marker = front ++ c :: rest ∧ c :: rest <+: back := by
  rcases prefix_or_prefix_of_prefix hstarts (prefix_append front back) with hfront | hmarker
  · exact .inl hfront
  · obtain ⟨rest, rfl⟩ := hmarker
    cases rest with
    | nil => exact .inl (by rw [append_nil])
    | cons c rest => exact .inr ⟨c, rest, rfl, (prefix_append_right_inj front).mp hstarts⟩

/-- No tag lies across a place before a `<`. -/
theorem erase_append_of_opens (htag : IsTag marker) (hopens : ∀ c ∈ back.head?, c = '<')
    (front : List Char) :
    erase marker (front ++ back) = erase marker front ++ erase marker back := by
  refine erase_append_of_cut htag.ne_nil fun part hne _ hstarts => ?_
  rcases prefix_or_exists_append_of_prefix_append hstarts with hpart | ⟨c, rest, hmarker, hback⟩
  · exact hpart
  · exfalso
    obtain ⟨inner, rfl, hopening, -⟩ := htag
    obtain ⟨d, part, rfl⟩ := exists_cons_of_ne_nil hne
    obtain ⟨after, rfl⟩ := hback
    obtain rfl : c = '<' := hopens c rfl
    have hinner : inner ++ ['>'] = part ++ '<' :: rest := (cons.inj hmarker).2
    have hmem : '<' ∈ inner ++ ['>'] := hinner ▸ mem_append_right _ mem_cons_self
    simp [hopening] at hmem

/-- No tag lies across a place after a `>`. -/
theorem erase_append_of_closes (htag : IsTag marker) (hcloses : ∀ c ∈ front.getLast?, c = '>')
    (back : List Char) :
    erase marker (front ++ back) = erase marker front ++ erase marker back := by
  refine erase_append_of_cut htag.ne_nil fun part hne hsuffix hstarts => ?_
  rcases prefix_or_exists_append_of_prefix_append hstarts with hpart | ⟨c, rest, hmarker, -⟩
  · exact hpart
  · exfalso
    obtain ⟨inner, rfl, -, hclosing⟩ := htag
    obtain ⟨part, d, rfl⟩ := (eq_nil_or_concat' part).resolve_left hne
    obtain ⟨before, rfl⟩ := hsuffix
    obtain rfl : d = '>' := hcloses d (by rw [← append_assoc, getLast?_concat, Option.mem_some])
    -- the `>` that the front ends with is not the last one of the marker
    have hinner := congrArg dropLast hmarker
    rw [← cons_append, dropLast_concat, dropLast_append_of_ne_nil (cons_ne_nil c rest)] at hinner
    have hmem : '>' ∈ '<' :: inner := by simp [hinner]
    simp [hclosing] at hmem

/-- What is left of a text begins with `<` only if the text does. -/
theorem head?_of_head?_erase (htag : IsTag marker)
    (hleft : (erase marker text).head? = some '<') : text.head? = some '<' := by
  cases text with
  | nil => simp at hleft
  | cons c rest =>
      by_cases hstarts : marker <+: c :: rest
      · obtain ⟨inner, rfl, -⟩ := htag
        obtain ⟨rfl, -⟩ := cons_prefix_cons.mp hstarts
        rfl
      · rwa [erase_cons_of_not_isPrefix hstarts] at hleft

/-- What is left of a text ends with `>` only if the text does. -/
theorem getLast?_of_getLast?_erase (htag : IsTag marker)
    (hleft : (erase marker text).getLast? = some '>') : text.getLast? = some '>' := by
  rcases eq_nil_or_concat' text with rfl | ⟨rest, c, rfl⟩
  · simp at hleft
  · by_cases hc : c = '>'
    · rw [hc, getLast?_concat]
    · have hlast : ∀ part, ¬ marker = part ++ [c] := by
        rintro part rfl
        have hcloses := htag.isEnclosed.closes
        rw [getLast?_concat] at hcloses
        exact hc (Option.some.inj hcloses)
      have hrest : erase marker (rest ++ [c]) = erase marker rest ++ erase marker [c] :=
        erase_append_of_cut htag.ne_nil fun part _ _ hstarts =>
          (prefix_concat_iff.mp hstarts).resolve_left (hlast part)
      have hstays : erase marker [c] = [c] := by
        rw [erase_eq_self_iff htag.ne_nil, infix_singleton_iff, not_or]
        exact ⟨htag.ne_nil, hlast []⟩
      rw [hrest, hstays, getLast?_concat] at hleft
      exact absurd (Option.some.inj hleft) hc

theorem IsEnclosed.of_erase (htag : IsTag marker) (hleft : IsEnclosed (erase marker text)) :
    IsEnclosed text :=
  ⟨head?_of_head?_erase htag hleft.opens, getLast?_of_getLast?_erase htag hleft.closes⟩

/-- An enclosed part of a text is erased as if it stood alone. -/
theorem erase_append_append (htag : IsTag marker) {piece : List Char} (hpiece : IsEnclosed piece)
    (front back : List Char) :
    erase marker (front ++ (piece ++ back)) =
      erase marker front ++ (erase marker piece ++ erase marker back) := by
  have hopens : ∀ c ∈ (piece ++ back).head?, c = '<' := by simp [head?_append, hpiece.opens]
  rw [erase_append_of_opens htag hopens,
    erase_append_of_closes htag (by simp [hpiece.closes])]

theorem infix_erase_of_isInfix (htag : IsTag marker) {piece : List Char} (hpiece : IsEnclosed piece)
    (hwithin : piece <:+: text) : erase marker piece <:+: erase marker text := by
  obtain ⟨front, back, rfl⟩ := hwithin
  refine ⟨erase marker front, erase marker back, ?_⟩
  rw [append_assoc, append_assoc, erase_append_append htag hpiece]

end

/-! ## Torn words -/

/-- A text is a word with other texts between its characters. -/
inductive Woven (isBetween : List Char → Prop) : (word text : List Char) → Prop
  | last (c : Char) : Woven isBetween [c] [c]
  | cons {c : Char} {word between text : List Char} (hbetween : isBetween between)
      (hrest : Woven isBetween word text) : Woven isBetween (c :: word) (c :: (between ++ text))

section

variable {isBetween : List Char → Prop} {marker word woven text : List Char}

/-- A word with nothing between its characters. -/
theorem woven_self (hnil : isBetween []) (hword : word ≠ []) : Woven isBetween word word := by
  induction word with
  | nil => exact absurd rfl hword
  | cons c rest ih =>
      cases rest with
      | nil => exact .last c
      | cons d rest =>
          show Woven isBetween (c :: d :: rest) (c :: ([] ++ d :: rest))
          exact .cons hnil (ih (cons_ne_nil d rest))

theorem Woven.ne_nil (hwoven : Woven isBetween word text) : text ≠ [] := by
  cases hwoven <;> exact cons_ne_nil _ _

theorem Woven.getLast?_eq (hwoven : Woven isBetween word text) :
    text.getLast? = word.getLast? := by
  induction hwoven with
  | last c => rfl
  | cons _ hrest ih =>
      rw [getLast?_cons, getLast?_cons, getLast?_append,
        Option.or_of_isSome (getLast?_isSome.mpr hrest.ne_nil), ih]

/-- A word that is torn begins and ends like the word. -/
theorem Woven.isEnclosed (hwoven : Woven isBetween word text) (hword : IsEnclosed word) :
    IsEnclosed text where
  opens := by
    have hopens := hword.opens
    cases hwoven <;> exact hopens
  closes := hwoven.getLast?_eq.trans hword.closes

/-- What is left between the characters of a word is left of what stood there before. -/
theorem exists_woven_of_erase_eq (hmarker : marker ≠ []) (hwoven : Woven isBetween word woven)
    {front back : List Char} (herase : erase marker text = front ++ (woven ++ back)) :
    ∃ before piece after, text = before ++ (piece ++ after) ∧ erase marker before = front ∧
      erase marker after = back ∧
      Woven (fun between => isBetween (erase marker between)) word piece := by
  induction hwoven generalizing text front with
  | last c =>
      obtain ⟨before, after, rfl, hbefore, hafter⟩ := exists_of_erase_eq_append_cons hmarker herase
      exact ⟨before, [c], after, rfl, hbefore, hafter, .last c⟩
  | @cons c word between rest hbetween _ ih =>
      rw [cons_append, append_assoc] at herase
      obtain ⟨before, following, rfl, hbefore, hfollowing⟩ :=
        exists_of_erase_eq_append_cons hmarker herase
      obtain ⟨gap, piece, after, rfl, hgap, hafter, hpiece⟩ := ih hfollowing
      refine ⟨before, c :: (gap ++ piece), after, by simp, hbefore, hafter, .cons ?_ hpiece⟩
      rwa [hgap]

/-- A torn word that is left of a text is left of a piece in which it is torn further. -/
theorem exists_woven_of_infix_erase (htag : IsTag marker) (hword : IsEnclosed word)
    (hwoven : Woven isBetween word woven) (hwithin : woven <:+: erase marker text) :
    ∃ piece, piece <:+: text ∧ erase marker piece = woven ∧
      Woven (fun between => isBetween (erase marker between)) word piece := by
  obtain ⟨front, back, herase⟩ := hwithin
  rw [append_assoc] at herase
  obtain ⟨before, piece, after, rfl, rfl, rfl, hpiece⟩ :=
    exists_woven_of_erase_eq htag.ne_nil hwoven herase.symm
  refine ⟨piece, ⟨before, after, append_assoc _ _ _⟩, ?_, hpiece⟩
  rw [erase_append_append htag (hpiece.isEnclosed hword), append_cancel_left_eq,
    append_cancel_right_eq] at herase
  exact herase.symm

end

/-- A piece of a text is a torn word: the texts between the characters of the word vanish when two
markers are erased, and the word is left. -/
structure IsTorn (first second word piece : List Char) : Prop where
  woven : Woven (fun between => erase second (erase first between) = []) word piece
  left : erase second (erase first piece) = word

/-- An enclosed word is left of a text exactly if it is torn in it. -/
theorem infix_erase_erase_iff {first second word text : List Char} (hfirst : IsTag first)
    (hsecond : IsTag second) (hword : IsEnclosed word) :
    word <:+: erase second (erase first text) ↔
      ∃ piece, IsTorn first second word piece ∧ piece <:+: text := by
  constructor
  · intro hwithin
    have hwhole : Woven (· = []) word word := by
      refine woven_self rfl fun hnil => ?_
      have hopens := hword.opens
      rw [hnil] at hopens
      cases hopens
    -- backwards through the two passes
    obtain ⟨inner, hinner, hleft, hwoven⟩ :=
      exists_woven_of_infix_erase hsecond hword hwhole hwithin
    obtain ⟨piece, hpiece, hinnerLeft, hpieceWoven⟩ :=
      exists_woven_of_infix_erase hfirst hword hwoven hinner
    exact ⟨piece, ⟨hpieceWoven, by rw [hinnerLeft, hleft]⟩, hpiece⟩
  · rintro ⟨piece, ⟨-, hleft⟩, hpiece⟩
    have hinner : IsEnclosed (erase first piece) := .of_erase hsecond (hleft ▸ hword)
    rw [← hleft]
    exact infix_erase_of_isInfix hsecond hinner
      (infix_erase_of_isInfix hfirst (.of_erase hfirst hinner) hpiece)

end Compliance.Text
