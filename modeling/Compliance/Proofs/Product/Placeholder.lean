import Compliance.Product
import Mathlib.Data.List.Basic
import Mathlib.Data.List.Infix
import Mathlib.Data.List.TakeWhile

/-!
# Placeholders of a text

A text is divided into placeholders and the gaps between them, where no placeholder may
start inside a gap.  There is one such division only, and filling in a text replaces the
placeholders of this division, each for itself
(`substitute_fills_placeholders_of_division`).

## Strategy

White space, the characters of keys and braces exclude each other.  So what a placeholder
begins with can be read off the text (`placeholder?_text_append`), and at one position
starts one placeholder at most (`Placeholder.eq_of_text_append_eq`).

Two divisions of one text then have the same first gap: if one gap were shorter, the
placeholder after it would start inside the other one.  Therefore they have the same first
placeholder, and what follows it is divided in the same way.  The division that is filled
in comes about by the same recursion: a position where no placeholder starts makes the
first gap longer, and otherwise the placeholder is cut off.
-/

namespace Compliance.Product

open Compliance.Text List

/-! ## Placeholders -/

/-- A placeholder as it is written: a key of letters, digits and underscores of the ASCII set, with
white space around it or without. -/
structure Placeholder where
  before : List Char
  key : List Char
  after : List Char
  key_ne_nil : key ≠ []
  isBlank_before : ∀ c ∈ before, isBlank c = true
  isAlphanum_key : ∀ c ∈ key, c.isAlphanum = true ∨ c = '_'
  isBlank_after : ∀ c ∈ after, isBlank c = true

/-- The text of a placeholder. -/
def Placeholder.text (placeholder : Placeholder) : List Char :=
  opening ++ (placeholder.before ++ (placeholder.key ++ (placeholder.after ++ closing)))

/-- A text starts with a placeholder. -/
def Starts (text : List Char) : Prop := ∃ placeholder : Placeholder, placeholder.text <+: text

theorem isKeyChar_iff {c : Char} : isKeyChar c = true ↔ c.isAlphanum = true ∨ c = '_' := by
  have hupper : c.isUpper = true ↔ 'A' ≤ c ∧ c ≤ 'Z' := decide_eq_true_iff
  have hlower : c.isLower = ('a' ≤ c && c ≤ 'z') := rfl
  have hdigit : c.isDigit = ('0' ≤ c && c ≤ '9') := rfl
  have halphanum : c.isAlphanum = (c.isUpper || c.isLower || c.isDigit) := rfl
  rw [isKeyChar, halphanum, hlower, hdigit]
  simp only [Bool.or_eq_true, Bool.and_eq_true, decide_eq_true_eq, hupper]

theorem not_isBlank_of_isKeyChar {c : Char} (hkey : isKeyChar c = true) : isBlank c = false := by
  have hcode : (0x41 ≤ c.toNat ∧ c.toNat ≤ 0x5a) ∨ (0x61 ≤ c.toNat ∧ c.toNat ≤ 0x7a) ∨
      (0x30 ≤ c.toNat ∧ c.toNat ≤ 0x39) ∨ c.toNat = 0x5f := by
    simp only [isKeyChar, Bool.or_eq_true, Bool.and_eq_true, decide_eq_true_eq, Char.le_def,
      UInt32.le_iff_toNat_le] at hkey
    rcases hkey with ((hupper | hlower) | hdigit) | rfl
    · exact .inl hupper
    · exact .inr (.inl hlower)
    · exact .inr (.inr (.inl hdigit))
    · exact .inr (.inr (.inr rfl))
  simp only [isBlank, Bool.or_eq_false_iff, Bool.and_eq_false_iff, decide_eq_false_iff_not,
    beq_eq_false_iff_ne]
  omega

/-- A text is cut behind the characters with a property, if what follows does not start with one. -/
private theorem span_append {p : Char → Bool} {front rest : List Char}
    (hfront : ∀ c ∈ front, p c = true) (hrest : ∀ c ∈ rest.head?, p c = false) :
    (front ++ rest).takeWhile p = front ∧ (front ++ rest).dropWhile p = rest := by
  have hnone : rest.takeWhile p = [] ∧ rest.dropWhile p = rest := by
    cases rest with
    | nil => exact ⟨rfl, rfl⟩
    | cons c rest =>
        have hc : ¬ p c = true := by simp [hrest c rfl]
        exact ⟨takeWhile_cons_of_neg hc, dropWhile_cons_of_neg hc⟩
  rw [takeWhile_append_of_pos hfront, dropWhile_append_of_pos hfront, hnone.1, hnone.2, append_nil]
  exact ⟨rfl, rfl⟩

namespace Placeholder

variable (placeholder : Placeholder) (rest : List Char)

theorem isKeyChar_key : ∀ c ∈ placeholder.key, isKeyChar c = true := fun c hc =>
  isKeyChar_iff.mpr (placeholder.isAlphanum_key c hc)

/-- The key ends the white space before it. -/
private theorem span_before :
    (placeholder.before ++ (placeholder.key ++ rest)).takeWhile isBlank = placeholder.before ∧
      (placeholder.before ++ (placeholder.key ++ rest)).dropWhile isBlank =
        placeholder.key ++ rest := by
  apply span_append placeholder.isBlank_before
  intro c hc
  obtain ⟨first, others, hkey⟩ := exists_cons_of_ne_nil placeholder.key_ne_nil
  rw [hkey, cons_append, head?_cons, Option.mem_some_iff] at hc
  apply not_isBlank_of_isKeyChar
  apply placeholder.isKeyChar_key
  rw [hkey, ← hc]
  exact mem_cons_self

/-- White space or the first closing brace ends the key. -/
private theorem span_key :
    let inner := placeholder.key ++ (placeholder.after ++ (closing ++ rest))
    inner.takeWhile isKeyChar = placeholder.key ∧
      inner.dropWhile isKeyChar = placeholder.after ++ (closing ++ rest) := by
  apply span_append placeholder.isKeyChar_key
  intro c hc
  cases hafter : placeholder.after with
  | nil =>
      rw [hafter] at hc
      obtain rfl : '\x7d' = c := by simpa [closing] using hc
      decide
  | cons first others =>
      rw [hafter, cons_append, head?_cons, Option.mem_some_iff] at hc
      have hblank : isBlank c = true := by
        apply placeholder.isBlank_after
        rw [hafter, ← hc]
        exact mem_cons_self
      cases hkey : isKeyChar c with
      | false => rfl
      | true =>
          rw [not_isBlank_of_isKeyChar hkey] at hblank
          cases hblank

/-- The first closing brace ends the white space after the key. -/
private theorem dropWhile_after :
    (placeholder.after ++ (closing ++ rest)).dropWhile isBlank = closing ++ rest := by
  refine (span_append placeholder.isBlank_after ?_).2
  intro c hc
  obtain rfl : '\x7d' = c := by simpa [closing] using hc
  decide

theorem text_append :
    placeholder.text ++ rest = opening ++
      (placeholder.before ++ (placeholder.key ++ (placeholder.after ++ (closing ++ rest)))) := by
  simp only [text, append_assoc]

/-- The key of a placeholder can be read off the text that it begins. -/
theorem placeholder?_text_append :
    placeholder? (placeholder.text ++ rest) = some (placeholder.key, rest) := by
  have hopening := after?_eq_some_iff.mpr (placeholder.text_append rest)
  have hclosing : after? closing (closing ++ rest) = some rest := after?_eq_some_iff.mpr rfl
  have hkey : placeholder.key.isEmpty = false := by simp [placeholder.key_ne_nil]
  simp only [placeholder?, hopening, trimStart, Option.bind_eq_bind, Option.bind_some,
    (placeholder.span_before _).2, (placeholder.span_key rest).1, (placeholder.span_key rest).2,
    placeholder.dropWhile_after, hclosing, hkey]
  rfl

/-- At the beginning of a text stands one placeholder at most. -/
theorem eq_of_text_append_eq {first second : Placeholder} {rest others : List Char}
    (htext : first.text ++ rest = second.text ++ others) : first = second ∧ rest = others := by
  have hread := placeholder?_text_append first rest
  rw [htext, placeholder?_text_append, Option.some.injEq, Prod.mk.injEq] at hread
  obtain ⟨hkey, rfl⟩ := hread
  refine ⟨?_, rfl⟩
  rw [text_append, text_append] at htext
  have hinner := append_cancel_left htext
  -- the white space before the keys is what the inner texts begin with
  have hbefore : first.before = second.before := by
    rw [← (span_before first _).1, hinner, (span_before second _).1]
  rw [hbefore, hkey] at hinner
  have hafter : first.after = second.after :=
    append_cancel_right (append_cancel_left (append_cancel_left hinner))
  cases first
  cases second
  simp_all

end Placeholder

/-- What is read as a placeholder is one. -/
theorem exists_of_placeholder?_eq_some {text key rest : List Char}
    (hread : placeholder? text = some (key, rest)) :
    ∃ placeholder : Placeholder, placeholder.key = key ∧ text = placeholder.text ++ rest := by
  obtain ⟨inside, hopening, hread⟩ := Option.bind_eq_some_iff.mp hread
  obtain ⟨others, hclosing, hread⟩ := Option.bind_eq_some_iff.mp hread
  split at hread
  · cases hread
  · rename_i hkey
    obtain ⟨rfl, rfl⟩ : (trimStart inside).takeWhile isKeyChar = key ∧ others = rest := by
      simpa using hread
    have hafter := after?_eq_some_iff.mp hclosing
    refine ⟨⟨inside.takeWhile isBlank, (trimStart inside).takeWhile isKeyChar,
      ((trimStart inside).dropWhile isKeyChar).takeWhile isBlank, by simpa using hkey,
      fun c hc => mem_takeWhile_imp hc, fun c hc => isKeyChar_iff.mp (mem_takeWhile_imp hc),
      fun c hc => mem_takeWhile_imp hc⟩, rfl, ?_⟩
    rw [Placeholder.text_append]
    simp only [← hafter, trimStart, takeWhile_append_dropWhile]
    exact after?_eq_some_iff.mp hopening

theorem starts_iff {text : List Char} : Starts text ↔ (placeholder? text).isSome := by
  constructor
  · rintro ⟨placeholder, rest, rfl⟩
    rw [placeholder.placeholder?_text_append]
    rfl
  · intro hread
    obtain ⟨⟨key, rest⟩, hread⟩ := Option.isSome_iff_exists.mp hread
    obtain ⟨placeholder, -, rfl⟩ := exists_of_placeholder?_eq_some hread
    exact ⟨placeholder, prefix_append _ _⟩

instance (text : List Char) : Decidable (Starts text) := decidable_of_iff _ starts_iff.symm

/-! ## Divisions -/

/-- Gaps and placeholders in turn: a gap stands before each placeholder, and one more at the end. -/
structure Division where
  segments : List (List Char × Placeholder)
  last : List Char

namespace Division

/-- The text of a division, with something in the stead of each placeholder. -/
def filledBy (replacement : Placeholder → List Char) (division : Division) : List Char :=
  (division.segments.flatMap fun segment => segment.1 ++ replacement segment.2) ++ division.last

/-- The positions in the gaps of a text that is made of segments and a last gap. -/
def positionsInGaps : (segments : List (List Char × Placeholder)) → (last : List Char) → List Nat
  | [], last => List.range last.length
  | (gap, placeholder) :: others, last =>
    List.range gap.length ++
      (positionsInGaps others last).map (gap.length + placeholder.text.length + ·)

/-- A division is one of a text if it makes up the text, and no placeholder that occurs in the text
starts inside a gap. -/
structure Divides (division : Division) (text : List Char) : Prop where
  text_eq : division.filledBy Placeholder.text = text
  gaps : ∀ position ∈ positionsInGaps division.segments division.last,
    ¬ Starts (text.drop position)

instance (division : Division) (text : List Char) : Decidable (division.Divides text) :=
  decidable_of_iff
    (division.filledBy Placeholder.text = text ∧
      ∀ position ∈ positionsInGaps division.segments division.last, ¬ Starts (text.drop position))
    ⟨fun hdivides => ⟨hdivides.1, hdivides.2⟩, fun hdivides => ⟨hdivides.1, hdivides.2⟩⟩

/-- A character before a division makes its first gap longer. -/
def push (c : Char) : Division → Division
  | ⟨[], last⟩ => ⟨[], c :: last⟩
  | ⟨(gap, placeholder) :: others, last⟩ => ⟨(c :: gap, placeholder) :: others, last⟩

/-- A placeholder before a division stands after an empty gap. -/
def cons (placeholder : Placeholder) (division : Division) : Division :=
  ⟨([], placeholder) :: division.segments, division.last⟩

theorem filledBy_push (replacement : Placeholder → List Char) (c : Char) (division : Division) :
    (division.push c).filledBy replacement = c :: division.filledBy replacement := by
  obtain ⟨segments, last⟩ := division
  cases segments <;> rfl

theorem filledBy_cons (replacement : Placeholder → List Char) (placeholder : Placeholder)
    (division : Division) :
    (division.cons placeholder).filledBy replacement =
      replacement placeholder ++ division.filledBy replacement := by
  simp [filledBy, cons]

theorem positionsInGaps_push (c : Char) (division : Division) :
    positionsInGaps (division.push c).segments (division.push c).last =
      0 :: (positionsInGaps division.segments division.last).map (· + 1) := by
  obtain ⟨segments, last⟩ := division
  cases segments with
  | nil => simp [push, positionsInGaps, range_succ_eq_map]
  | cons segment others =>
      have hshift : ∀ position, segment.1.length + 1 + segment.2.text.length + position =
          segment.1.length + segment.2.text.length + position + 1 := by
        intro position
        omega
      simp [push, positionsInGaps, range_succ_eq_map, hshift]

/-- A division begins with a character, or with a placeholder, if it is not empty. -/
theorem eq_push_or_eq_cons (division : Division) :
    division = ⟨[], []⟩ ∨ (∃ c others, division = push c others) ∨
      ∃ placeholder others, division = cons placeholder others := by
  match division with
  | ⟨[], []⟩ => exact .inl rfl
  | ⟨[], c :: last⟩ => exact .inr (.inl ⟨c, ⟨[], last⟩, rfl⟩)
  | ⟨([], placeholder) :: others, last⟩ => exact .inr (.inr ⟨placeholder, ⟨others, last⟩, rfl⟩)
  | ⟨(c :: gap, placeholder) :: others, last⟩ =>
      exact .inr (.inl ⟨c, ⟨(gap, placeholder) :: others, last⟩, rfl⟩)

theorem divides_nil_iff {text : List Char} : Divides ⟨[], []⟩ text ↔ text = [] := by
  constructor
  · intro hdivides
    exact hdivides.text_eq.symm
  · rintro rfl
    exact ⟨rfl, by simp [positionsInGaps]⟩

theorem divides_push_iff {c : Char} {division : Division} {text : List Char} :
    (division.push c).Divides text ↔
      ¬ Starts text ∧ ∃ rest, text = c :: rest ∧ division.Divides rest := by
  constructor
  · rintro ⟨htext, hgaps⟩
    rw [filledBy_push] at htext
    rw [positionsInGaps_push, forall_mem_cons, forall_mem_map] at hgaps
    subst htext
    exact ⟨hgaps.1, _, rfl, rfl, hgaps.2⟩
  · rintro ⟨hstarts, rest, rfl, htext, hgaps⟩
    refine ⟨by rw [filledBy_push, htext], ?_⟩
    rw [positionsInGaps_push, forall_mem_cons, forall_mem_map]
    exact ⟨hstarts, hgaps⟩

theorem divides_cons_iff {placeholder : Placeholder} {division : Division} {text : List Char} :
    (division.cons placeholder).Divides text ↔
      ∃ rest, text = placeholder.text ++ rest ∧ division.Divides rest := by
  have hpositions : positionsInGaps (division.cons placeholder).segments
      (division.cons placeholder).last =
        (positionsInGaps division.segments division.last).map (placeholder.text.length + ·) := by
    simp [cons, positionsInGaps]
  constructor
  · rintro ⟨htext, hgaps⟩
    rw [filledBy_cons] at htext
    rw [hpositions, forall_mem_map] at hgaps
    subst htext
    simp only [← drop_drop, drop_left] at hgaps
    exact ⟨_, rfl, rfl, hgaps⟩
  · rintro ⟨rest, rfl, htext, hgaps⟩
    refine ⟨by rw [filledBy_cons, htext], ?_⟩
    rw [hpositions, forall_mem_map]
    simp only [← drop_drop, drop_left]
    exact hgaps

end Division

theorem Placeholder.text_ne_nil (placeholder : Placeholder) : placeholder.text ≠ [] := by
  simp [text, opening]

theorem Placeholder.length_lt_of_append (placeholder : Placeholder) (rest : List Char) :
    rest.length < (placeholder.text ++ rest).length := by
  have hpos : 0 < placeholder.text.length := length_pos_iff.mpr placeholder.text_ne_nil
  rw [length_append]
  omega

namespace Division

/-- Every text has a division. -/
theorem exists_divides (text : List Char) : ∃ division : Division, division.Divides text := by
  induction hlength : text.length using Nat.strong_induction_on generalizing text with
  | _ length ih =>
      subst hlength
      by_cases hstarts : Starts text
      · obtain ⟨placeholder, rest, rfl⟩ := hstarts
        obtain ⟨division, hdivides⟩ := ih _ (placeholder.length_lt_of_append rest) rest rfl
        exact ⟨_, divides_cons_iff.mpr ⟨rest, rfl, hdivides⟩⟩
      · cases text with
        | nil => exact ⟨_, divides_nil_iff.mpr rfl⟩
        | cons c rest =>
            obtain ⟨division, hdivides⟩ := ih _ (Nat.lt_succ_self _) rest rfl
            exact ⟨_, divides_push_iff.mpr ⟨hstarts, rest, rfl, hdivides⟩⟩

/-- A division is taken apart from the left, by characters and placeholders. -/
@[elab_as_elim]
theorem Divides.induction
    {motive : ∀ (division : Division) (text : List Char), division.Divides text → Prop}
    (nil : motive ⟨[], []⟩ [] (divides_nil_iff.mpr rfl))
    (push : ∀ c division rest (hstarts : ¬ Starts (c :: rest)) (hrest : division.Divides rest),
      motive division rest hrest →
        motive (division.push c) (c :: rest) (divides_push_iff.mpr ⟨hstarts, rest, rfl, hrest⟩))
    (cons : ∀ placeholder division rest (hrest : division.Divides rest),
      motive division rest hrest →
        motive (division.cons placeholder) (placeholder.text ++ rest)
          (divides_cons_iff.mpr ⟨rest, rfl, hrest⟩))
    {division : Division} {text : List Char} (hdivides : division.Divides text) :
    motive division text hdivides := by
  induction hlength : text.length using Nat.strong_induction_on generalizing division text with
  | _ length ih =>
      subst hlength
      rcases eq_push_or_eq_cons division with rfl | ⟨c, others, rfl⟩ | ⟨placeholder, others, rfl⟩
      · obtain rfl := divides_nil_iff.mp hdivides
        exact nil
      · obtain ⟨hstarts, rest, rfl, hrest⟩ := divides_push_iff.mp hdivides
        exact push c others rest hstarts hrest (ih _ (Nat.lt_succ_self _) hrest rfl)
      · obtain ⟨rest, rfl, hrest⟩ := divides_cons_iff.mp hdivides
        exact cons placeholder others rest hrest
          (ih _ (placeholder.length_lt_of_append rest) hrest rfl)

/-- No text has two divisions. -/
theorem Divides.unique {division other : Division} {text : List Char}
    (hdivides : division.Divides text) (hother : other.Divides text) : division = other := by
  induction hdivides using Divides.induction generalizing other with
  | nil =>
      rcases eq_push_or_eq_cons other with rfl | ⟨c, others, rfl⟩ | ⟨placeholder, others, rfl⟩
      · rfl
      · obtain ⟨-, rest, htext, -⟩ := divides_push_iff.mp hother
        cases htext
      · obtain ⟨rest, htext, -⟩ := divides_cons_iff.mp hother
        exact absurd (nil_eq_append_iff.mp htext).1 placeholder.text_ne_nil
  | push c division rest hstarts _ ih =>
      rcases eq_push_or_eq_cons other with rfl | ⟨d, others, rfl⟩ | ⟨placeholder, others, rfl⟩
      · cases divides_nil_iff.mp hother
      · obtain ⟨-, after, htext, hafter⟩ := divides_push_iff.mp hother
        obtain ⟨rfl, rfl⟩ := cons.inj htext
        rw [ih hafter]
      · obtain ⟨after, htext, -⟩ := divides_cons_iff.mp hother
        exact absurd ⟨placeholder, after, htext.symm⟩ hstarts
  | cons placeholder division rest _ ih =>
      rcases eq_push_or_eq_cons other with rfl | ⟨c, others, rfl⟩ | ⟨second, others, rfl⟩
      · exact absurd (append_eq_nil_iff.mp (divides_nil_iff.mp hother)).1 placeholder.text_ne_nil
      · obtain ⟨hstarts, -⟩ := divides_push_iff.mp hother
        exact absurd ⟨placeholder, rest, rfl⟩ hstarts
      · obtain ⟨after, htext, hafter⟩ := divides_cons_iff.mp hother
        obtain ⟨rfl, rfl⟩ := Placeholder.eq_of_text_append_eq htext
        rw [ih hafter]

end Division

/-! ## Filling in -/

section

variable (value? : List Char → Option (List Char))

private theorem fillFrom_eq (skip : Nat) (text : List Char) :
    fillFrom value? skip text = fill value? (text.drop skip) := by
  induction text generalizing skip with
  | nil => rw [fillFrom, drop_nil, fill, fillFrom]
  | cons c rest ih =>
      cases skip with
      | zero => rfl
      | succ skip => rw [fillFrom, drop_succ_cons, ih]

theorem fill_cons_of_not_starts {c : Char} {rest : List Char} (hstarts : ¬ Starts (c :: rest)) :
    fill value? (c :: rest) = c :: fill value? rest := by
  have hread : placeholder? (c :: rest) = none := by
    rwa [starts_iff, Option.not_isSome_iff_eq_none] at hstarts
  rw [fill, fillFrom, hread]
  rfl

theorem fill_text_append (placeholder : Placeholder) (rest : List Char) :
    fill value? (placeholder.text ++ rest) =
      (value? placeholder.key).getD placeholder.text ++ fill value? rest := by
  have hread := placeholder.placeholder?_text_append rest
  have hlength : (placeholder.text ++ rest).length - rest.length = placeholder.text.length := by
    rw [length_append, Nat.add_sub_cancel]
  obtain ⟨c, others, hcons⟩ := exists_cons_of_ne_nil placeholder.text_ne_nil
  rw [hcons, cons_append] at hread hlength
  rw [hcons, cons_append, fill, fillFrom, hread]
  simp only [hlength]
  rw [fillFrom_eq, ← cons_append, take_left, length_cons, Nat.add_sub_cancel, drop_left]

/-- Filling in a text replaces the placeholders of its division, one by one. -/
theorem Division.Divides.fill_eq {division : Division} {text : List Char}
    (hdivides : division.Divides text) :
    fill value? text = division.filledBy fun placeholder =>
      (value? placeholder.key).getD placeholder.text := by
  induction hdivides using Division.Divides.induction with
  | nil => rfl
  | push c division rest hstarts _ ih =>
      rw [fill_cons_of_not_starts value? hstarts, Division.filledBy_push, ih]
  | cons placeholder division rest _ ih =>
      rw [fill_text_append, Division.filledBy_cons, ih]

end

/-- What stands for a placeholder in a text for a product: the value of its key, or the placeholder
itself if the key is unknown. -/
def replacement (product : Product) (placeholder : Placeholder) : List Char :=
  match product.property? (String.ofList placeholder.key) with
  | some value => value.toList
  | none => placeholder.text

/-- A text has one division into gaps and placeholders such that no placeholder starts inside a gap.
Filling the text in keeps the gaps and replaces each of these placeholders by the value of its key;
without any known key the text stays as it is. -/
theorem substitute_fills_placeholders_of_division (product : Product) (text : String) :
    ∃ division : Division, division.Divides text.toList ∧
      (∀ other : Division, other.Divides text.toList → other = division) ∧
      (product.substitute text).toList = division.filledBy product.replacement ∧
      ((∀ segment ∈ division.segments,
          product.property? (String.ofList segment.2.key) = none) →
        product.substitute text = text) := by
  obtain ⟨division, hdivides⟩ := Division.exists_divides text.toList
  have hfilled : (product.substitute text).toList = division.filledBy product.replacement := by
    rw [substitute, String.toList_ofList, hdivides.fill_eq]
    congr 1
    funext placeholder
    rw [replacement]
    cases product.property? (String.ofList placeholder.key) <;> rfl
  refine ⟨division, hdivides, fun other hother => hother.unique hdivides, hfilled, ?_⟩
  intro hunknown
  apply String.toList_injective
  calc (product.substitute text).toList
      = division.filledBy product.replacement := hfilled
    _ = division.filledBy Placeholder.text := by
        rw [Division.filledBy, Division.filledBy]
        congr 1
        apply flatMap_congr
        intro segment hsegment
        rw [replacement, hunknown segment hsegment]
    _ = text.toList := hdivides.text_eq

/-! ## A text to look at

Four braces open before a key that is unknown, and three more before what is no key.
-/

namespace Sample

def unfilled : String :=
  "\x7b\x7b\x7b\x7b os \x7d\x7d\x7d\x7d\x7b\x7b\x7bno one\x7d\x7d\x7d"

/-- The placeholder starts at the second brace. -/
def os : Placeholder where
  before := [' ']
  key := ['o', 's']
  after := [' ']
  key_ne_nil := by decide
  isBlank_before := forall_mem_singleton.mpr rfl
  isAlphanum_key := forall_mem_cons.mpr ⟨.inl rfl, forall_mem_singleton.mpr (.inl rfl)⟩
  isBlank_after := forall_mem_singleton.mpr rfl

def unfilledDivision : Division :=
  ⟨[(['\x7b'], os)], "\x7d\x7b\x7b\x7bno one\x7d\x7d\x7d".toList⟩

end Sample

theorem substitute_unfilled :
    ∃ division : Division, division.Divides Sample.unfilled.toList ∧
      (∀ segment ∈ division.segments,
        (Product.new "server" "guide").property? (String.ofList segment.2.key) = none) ∧
      (Product.new "server" "guide").substitute Sample.unfilled = Sample.unfilled := by
  obtain ⟨division, -, hunique, -, hunknown⟩ :=
    substitute_fills_placeholders_of_division (Product.new "server" "guide") Sample.unfilled
  have hdivides : Sample.unfilledDivision.Divides Sample.unfilled.toList := by decide +kernel
  obtain rfl := hunique _ hdivides
  have hkeys : ∀ segment ∈ Sample.unfilledDivision.segments,
      (Product.new "server" "guide").property? (String.ofList segment.2.key) = none := by
    decide +kernel
  exact ⟨Sample.unfilledDivision, hdivides, hkeys, hunknown hkeys⟩

/-- What has been put in is not filled in again. -/
example :
    let product := (Product.new "server" "guide").withProperty "name"
      "\x7b\x7b\x7bproduct\x7d\x7d\x7d"
    product.substitute "\x7b\x7b\x7b name \x7d\x7d\x7d" =
      "\x7b\x7b\x7bproduct\x7d\x7d\x7d" := by
  decide +kernel

end Compliance.Product
