import Compliance.Proofs.Rule.Definition
import Compliance.Proofs.Text.Erasing

/-!
# Marks that survive the cleaning of a description

Cleaning takes the marks `<p>` and `</p>` out of a description, first all of the one and
then all of the other.  A mark that is torn by other marks is put together when they are
gone: of `<</p>p>` the mark `<p>` is left.  These are the only marks that survive
(`mark_infix_cleanDescription_iff`), and the only reason for which cleaning a description
twice is not the same as cleaning it once (`cleanDescription_cleaned_iff`).
-/

namespace Compliance.RuleDefinition

open List

/-- The marks of paragraphs, in the order in which they are taken out. -/
def marks : List (List Char) := ["<p>".toList, "</p>".toList]

/-- A piece of a description is a torn mark: between the characters of the mark stand texts that
vanish with the marks, and the mark is left. -/
abbrev IsTornMark (mark piece : List Char) : Prop :=
  Text.IsTorn "<p>".toList "</p>".toList mark piece

theorem isTag_of_mem_marks {mark : List Char} (hmark : mark ∈ marks) : Text.IsTag mark := by
  simp only [marks, mem_cons, not_mem_nil, or_false] at hmark
  rcases hmark with rfl | rfl
  · exact ⟨['p'], rfl, by decide, by decide⟩
  · exact ⟨['/', 'p'], rfl, by decide, by decide⟩

private theorem isTag_start : Text.IsTag "<p>".toList := isTag_of_mem_marks mem_cons_self

private theorem isTag_end : Text.IsTag "</p>".toList :=
  isTag_of_mem_marks (mem_cons_of_mem _ mem_cons_self)

/-- A torn mark has no other characters than marks have. -/
theorem not_mem_of_isTornMark {mark piece : List Char} (hmark : mark ∈ marks)
    (htorn : IsTornMark mark piece) {c : Char} (hc : ∀ other ∈ marks, c ∉ other) : c ∉ piece := by
  intro hmem
  have hfirst := Text.mem_erase_of_not_mem isTag_start.ne_nil (hc _ mem_cons_self) hmem
  have hsecond := Text.mem_erase_of_not_mem isTag_end.ne_nil
    (hc _ (mem_cons_of_mem _ mem_cons_self)) hfirst
  rw [htorn.left] at hsecond
  exact hc mark hmark hsecond

section

variable (definition : RuleDefinition)

/-- A mark survives exactly if it is torn in the description. -/
theorem mark_infix_cleanDescription_iff {mark : List Char} (hmark : mark ∈ marks) :
    mark <:+: definition.cleanDescription.toList ↔
      ∃ piece, IsTornMark mark piece ∧ piece <:+: definition.description.toList := by
  have htrimmed : ∀ mark ∈ marks, Text.IsTrimmed mark := by
    simp [marks, Text.IsTrimmed, Text.isBlank]
  rw [toList_cleanDescription, Text.infix_trim_iff (htrimmed mark hmark),
    Text.infix_erase_erase_iff isTag_start isTag_end (isTag_of_mem_marks hmark).isEnclosed]
  refine exists_congr fun piece => and_congr_right fun htorn => ?_
  -- a torn mark stands on one line of the description
  exact Text.infix_unwrapLines_iff (not_mem_of_isTornMark hmark htorn (by decide))
    (not_mem_of_isTornMark hmark htorn (by decide))

/-- A description is clean for good when it has been cleaned, unless a mark survives. -/
theorem cleanDescription_cleaned_iff :
    { definition with description := definition.cleanDescription }.cleanDescription =
      definition.cleanDescription ↔
        ∀ mark ∈ marks, ¬ mark <:+: definition.cleanDescription.toList := by
  rw [← String.toList_inj, toList_cleanDescription,
    Text.unwrapLines_eq_self definition.newline_not_mem_cleanDescription]
  have htrimmed := definition.isTrimmed_cleanDescription
  generalize definition.cleanDescription.toList = cleaned at htrimmed ⊢
  have habsent : (∀ mark ∈ marks, ¬ mark <:+: cleaned) ↔
      Text.erase "<p>".toList cleaned = cleaned ∧ Text.erase "</p>".toList cleaned = cleaned := by
    rw [Text.erase_eq_self_iff isTag_start.ne_nil, Text.erase_eq_self_iff isTag_end.ne_nil]
    simp [marks]
  rw [habsent]
  constructor
  · intro hsame
    -- a text that comes back whole has lost nothing on the way
    have houter := (Text.isInfix_trim (Text.erase "</p>".toList
      (Text.erase "<p>".toList cleaned))).sublist
    have hinner := Text.erase_sublist "</p>".toList (Text.erase "<p>".toList cleaned)
    rw [hsame] at houter
    have hstart : Text.erase "<p>".toList cleaned = cleaned :=
      (Text.erase_sublist _ cleaned).antisymm (houter.trans hinner)
    rw [hstart] at houter
    exact ⟨hstart, (Text.erase_sublist _ cleaned).antisymm houter⟩
  · rintro ⟨hstart, hend⟩
    rw [hstart, hend, Text.trim_of_isTrimmed htrimmed]

end

/-- A cleaned description is one line without white space at its ends.  It has a mark exactly if
the description has a piece in which the mark is torn, and only then does cleaning it once more
change it. -/
theorem cleanDescription_keeps_torn_marks (definition : RuleDefinition) :
    '\n' ∉ definition.cleanDescription.toList ∧
    Text.IsTrimmed definition.cleanDescription.toList ∧
    (∀ mark ∈ marks, mark <:+: definition.cleanDescription.toList ↔
      ∃ piece, IsTornMark mark piece ∧ piece <:+: definition.description.toList) ∧
    ({ definition with description := definition.cleanDescription }.cleanDescription =
      definition.cleanDescription ↔
        ∀ mark ∈ marks, ∀ piece, IsTornMark mark piece →
          ¬ piece <:+: definition.description.toList) := by
  refine ⟨definition.newline_not_mem_cleanDescription, definition.isTrimmed_cleanDescription,
    fun mark hmark => definition.mark_infix_cleanDescription_iff hmark, ?_⟩
  rw [cleanDescription_cleaned_iff]
  refine forall₂_congr fun mark hmark => ?_
  rw [definition.mark_infix_cleanDescription_iff hmark]
  exact ⟨fun hnone piece htorn hpiece => hnone ⟨piece, htorn, hpiece⟩,
    fun hnone ⟨piece, htorn, hpiece⟩ => hnone piece htorn hpiece⟩

/-! ## A torn mark -/

namespace Sample

/-- A definition whose description has one mark inside another. -/
def torn : RuleDefinition := { (default : RuleDefinition) with description := "<<p>p>End sessions" }

theorem isTornMark_torn : IsTornMark "<p>".toList "<<p>p>".toList where
  woven := by
    show Text.Woven _ ['<', 'p', '>'] ('<' :: (['<', 'p', '>'] ++ 'p' :: ([] ++ ['>'])))
    exact .cons (by decide) (.cons (by decide) (.last '>'))
  left := by decide

end Sample

theorem mark_infix_cleanDescription_torn :
    "<p>".toList ∈ marks ∧ "<p>".toList <:+: Sample.torn.cleanDescription.toList :=
  ⟨by decide, ((cleanDescription_keeps_torn_marks Sample.torn).2.2.1 _ (by decide)).mpr
    ⟨"<<p>p>".toList, Sample.isTornMark_torn, by decide⟩⟩

/-- Marks may be left when a description has been cleaned. -/
theorem not_forall_not_mark_infix :
    ¬ ∀ (definition : RuleDefinition), ∀ mark ∈ marks,
      ¬ mark <:+: definition.cleanDescription.toList := by
  intro hnone
  exact hnone Sample.torn "<p>".toList (by decide) (by decide)

end Compliance.RuleDefinition
