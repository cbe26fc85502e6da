import Compliance.Path
import Compliance.Proofs.Text.Pieces
import Mathlib.Data.List.Lex

/-!
# Names of paths

A path without its last name has the names before it, and starts where the path
starts (`steps_of_parent?`, `isAbsolute_of_parent?`).  It is a beginning of the
text of the path, so that slashes and dots that are passed over stay as they are.
-/

namespace Compliance.Path

open Compliance.Text List

/-- The names of a text, without those that are passed over. -/
private def loudPieces (text : List UInt8) : List (List UInt8) :=
  (pieces slash text).filter fun name => !isSilent name

/-- Items that are filtered out may be dropped before. -/
private theorem filter_dropWhile {α : Type} {keep drop : α → Bool}
    (hdrop : ∀ item, drop item = true → keep item = false) (items : List α) :
    (items.dropWhile drop).filter keep = items.filter keep := by
  induction items with
  | nil => rfl
  | cons item others ih =>
      cases hitem : drop item with
      | false => rw [dropWhile_cons_of_neg (by simp [hitem])]
      | true =>
          rw [dropWhile_cons_of_pos hitem, ih, filter_cons_of_neg (by simp [hdrop item hitem])]

/-! ## What stands before the names -/

/-- Before the names stands the root, a dot that counts, or nothing. -/
private theorem split_cases (path : List UInt8) :
    (∃ rest, path = slash :: rest ∧ split path = ([slash], rest)) ∨
      (∃ rest, path = dot :: rest ∧ rest.head?.all (· = slash) = true ∧
        split path = ([dot], rest)) ∨
      path.head? ≠ some slash ∧ split path = ([], path) := by
  cases path with
  | nil => exact .inr (.inr ⟨by simp, rfl⟩)
  | cons first rest =>
      rw [split]
      by_cases hslash : first = slash
      · exact .inl ⟨rest, by rw [hslash], if_pos hslash⟩
      rw [if_neg hslash]
      by_cases hdot : (first = dot && rest.head?.all (· = slash)) = true
      · have hfirst : first = dot ∧ rest.head?.all (· = slash) = true := by simpa using hdot
        exact .inr (.inl ⟨rest, by rw [hfirst.1], hfirst.2, if_pos hdot⟩)
      · exact .inr (.inr ⟨by simpa using hslash, if_neg hdot⟩)

theorem append_split (path : List UInt8) : (split path).1 ++ (split path).2 = path := by
  obtain ⟨rest, rfl, hsplit⟩ | ⟨rest, rfl, -, hsplit⟩ | ⟨-, hsplit⟩ := split_cases path
  all_goals
    rw [hsplit]
    rfl

/-- What stands before the names adds none to any beginning of what follows it. -/
private theorem loudPieces_append_of_begins {path text : List UInt8}
    (hbegins : text <+: (split path).2) :
    loudPieces ((split path).1 ++ text) = loudPieces text := by
  obtain ⟨rest, rfl, hsplit⟩ | ⟨rest, rfl, hrest, hsplit⟩ | ⟨-, hsplit⟩ := split_cases path
  · rw [hsplit]
    simp [loudPieces, isSilent]
  · -- the dot that the path begins with is a silent piece of its own
    rw [hsplit] at hbegins ⊢
    cases text with
    | nil => rfl
    | cons c text =>
        obtain ⟨back, rfl⟩ := hbegins
        obtain rfl : c = slash := by simpa using hrest
        have habsent : slash ∉ [dot] := by decide
        have hdot : pieces slash (dot :: slash :: text) = [dot] :: pieces slash text :=
          pieces_append_cons habsent text
        simp [loudPieces, isSilent, hdot]
  · rw [hsplit]
    rfl

/-! ## The parent of a path -/

theorem steps_eq (path : Path) : path.steps = (loudPieces path.octets).map RawText.mk := rfl

private theorem loudPieces_split (path : List UInt8) :
    loudPieces (split path).2 = loudPieces path := by
  rw [← loudPieces_append_of_begins prefix_rfl, append_split]

private theorem loudPieces_eq_reverse (text : List UInt8) :
    loudPieces text = ((namesBackward text).filter fun name => !isSilent name).reverse := by
  rw [namesBackward, filter_dropWhile (by simp), filter_reverse, reverse_reverse]
  rfl

private theorem isSilent_of_namesBackward {text name : List UInt8} {others : List (List UInt8)}
    (hnames : namesBackward text = name :: others) : isSilent name = false := by
  have hhead := head?_dropWhile_not isSilent (pieces slash text).reverse
  rw [← namesBackward, hnames] at hhead
  simpa using hhead

private theorem loudPieces_joined {front : List (List UInt8)}
    (habsent : ∀ piece ∈ front, slash ∉ piece) :
    loudPieces (joined [slash] front) = front.filter fun piece => !isSilent piece := by
  by_cases hnil : front = []
  · subst hnil
    decide
  · rw [loudPieces, pieces_joined hnil habsent]

/-- The parent of a path, as far as it has names: what stands before the names, and then the pieces
up to the last name, without the silent ones before that. -/
private theorem exists_of_parent? {path parent : Path} {name : List UInt8}
    {others : List (List UInt8)} (hnames : namesBackward (split path.octets).2 = name :: others)
    (hparent : path.parent? = some parent) :
    let front := (others.dropWhile isSilent).reverse
    parent.octets = (split path.octets).1 ++ joined [slash] front ∧
      (∀ piece ∈ front, slash ∉ piece) ∧ joined [slash] front <+: (split path.octets).2 := by
  intro front
  simp only [parent?, hnames, Option.some.injEq] at hparent
  -- backwards: silent pieces, the last name, more silent pieces, and then those of the parent
  obtain ⟨silent, hsilent⟩ := dropWhile_suffix (l := (pieces slash (split path.octets).2).reverse)
    isSilent
  obtain ⟨passed, hpassed⟩ := dropWhile_suffix (l := others) isSilent
  have hpieces : pieces slash (split path.octets).2 =
      front ++ (passed.reverse ++ name :: silent.reverse) := by
    rw [← reverse_reverse (pieces _ _), ← hsilent, ← namesBackward, hnames, ← hpassed]
    simp [front]
  refine ⟨by rw [← hparent], fun piece hpiece => ?_, ?_⟩
  · exact not_mem_of_mem_pieces (hpieces ▸ mem_append_left _ hpiece)
  · rw [← joined_pieces slash (split path.octets).2, hpieces]
    exact joined_prefix_joined_append front _

theorem steps_of_parent? {path parent : Path} (hparent : path.parent? = some parent) :
    parent.steps = path.steps.dropLast := by
  have hsteps := loudPieces_split path.octets
  rw [loudPieces_eq_reverse] at hsteps
  cases hnames : namesBackward (split path.octets).2 with
  | nil =>
      rw [hnames] at hsteps
      simp only [parent?, hnames, Option.ite_none_right_eq_some, Option.some.injEq] at hparent
      obtain ⟨-, rfl⟩ := hparent
      rw [steps_eq path, ← hsteps]
      decide
  | cons name others =>
      obtain ⟨htext, habsent, hbegins⟩ := exists_of_parent? hnames hparent
      have hloud := isSilent_of_namesBackward hnames
      have hfront : loudPieces (joined [slash] (others.dropWhile isSilent).reverse) =
          (others.filter fun piece => !isSilent piece).reverse := by
        rw [loudPieces_joined habsent, filter_reverse, filter_dropWhile (by simp)]
      rw [steps_eq parent, htext, loudPieces_append_of_begins hbegins, hfront, steps_eq path,
        ← hsteps, hnames, filter_cons_of_pos (by simp [hloud]), reverse_cons, map_append]
      simp

/-- The last name of a path is the last one on the way, unless that leads upwards. -/
theorem fileName?_eq (path : Path) :
    path.fileName? = path.steps.getLast?.filter fun name => name ≠ upwards := by
  have hloud : path.steps = (loudPieces (split path.octets).2).map RawText.mk := by
    rw [loudPieces_split]
    rfl
  rw [loudPieces_eq_reverse] at hloud
  unfold fileName?
  cases hnames : namesBackward (split path.octets).2 with
  | nil =>
      rw [hloud, hnames]
      rfl
  | cons name others =>
      have hlast : path.steps.getLast? = some (RawText.mk name) := by
        rw [hloud, hnames, filter_cons_of_pos (by simp [isSilent_of_namesBackward hnames])]
        simp
      have hdots : RawText.mk name = upwards ↔ name = [dot, dot] := by
        rw [upwards, RawText.mk.injEq]
      rw [hlast]
      by_cases hname : name = [dot, dot]
      · simp [Option.filter, hname, upwards]
      · simp [Option.filter, hdots, hname]

/-! ## Paths below a directory -/

/-- A name that an entry of a directory can have. -/
def IsName (name : RawText) : Prop :=
  name.octets ∉ [[], [dot], [dot, dot]] ∧ slash ∉ name.octets

instance (name : RawText) : Decidable (IsName name) :=
  inferInstanceAs (Decidable (name.octets ∉ [[], [dot], [dot, dot]] ∧ slash ∉ name.octets))

/-- The path of the place that names lead to from a directory. -/
def below (directory : Path) (names : List RawText) : Path := names.foldl join directory

/-- Whether a path stands before another one, name by name in the order of octets. -/
def Precedes (first second : Path) : Prop :=
  Lex (fun name other : RawText => name < other) first.steps second.steps

theorem IsName.isSilent_eq {name : RawText} (hname : IsName name) :
    isSilent name.octets = false := by
  obtain ⟨hloud, -⟩ := hname
  simp only [mem_cons, not_or] at hloud
  simp [isSilent, hloud]

private theorem loudPieces_append (front back : List UInt8) :
    loudPieces (front ++ slash :: back) = loudPieces front ++ loudPieces back := by
  rw [loudPieces, pieces_append, filter_append]
  rfl

theorem IsName.not_isAbsolute {name : RawText} (hname : IsName name) :
    ¬ isAbsolute name = true := by
  rw [isAbsolute, decide_eq_true_eq]
  intro hhead
  exact hname.2 (mem_of_mem_head? hhead)

/-- A name that is joined to a path comes after those of the path. -/
theorem steps_join (path : Path) {name : RawText} (hname : IsName name) :
    (path.join name).steps = path.steps ++ [name] := by
  have hpiece : loudPieces name.octets = [name.octets] := by
    rw [loudPieces, pieces_of_not_mem hname.2, filter_cons_of_pos (by simp [hname.isSilent_eq])]
    rfl
  have hloud : loudPieces (path.join name).octets = loudPieces path.octets ++ [name.octets] := by
    rw [join, if_neg hname.not_isAbsolute]
    split
    · rename_i hlast
      have hempty : path.octets = [] := getLast?_eq_none_iff.mp hlast
      rw [hempty]
      exact hpiece
    split
    · -- after the slash at the end of the path comes an empty piece, which is silent
      rename_i hlast hslash
      subst hslash
      obtain ⟨front, hfront⟩ := getLast?_eq_some_iff.mp hlast
      have htrailing : loudPieces path.octets = loudPieces front := by
        rw [hfront, loudPieces_append]
        simp [loudPieces, pieces, isSilent]
      rw [htrailing, hfront, append_assoc, singleton_append, loudPieces_append, hpiece]
    · rw [loudPieces_append, hpiece]
  rw [steps_eq, hloud, map_append, ← steps_eq]
  rfl

theorem fileName?_join (path : Path) {name : RawText} (hname : IsName name) :
    (path.join name).fileName? = some name := by
  have hdots : name ≠ upwards := by
    rintro rfl
    exact absurd hname (by decide)
  rw [fileName?_eq, steps_join path hname, getLast?_concat]
  simp [Option.filter, hdots]

theorem below_append_singleton (directory : Path) (names : List RawText) (name : RawText) :
    directory.below (names ++ [name]) = (directory.below names).join name := by
  rw [below, foldl_append]
  rfl

theorem steps_below (directory : Path) {names : List RawText}
    (hnames : ∀ name ∈ names, IsName name) :
    (directory.below names).steps = directory.steps ++ names := by
  induction names generalizing directory with
  | nil => rw [below, foldl_nil, append_nil]
  | cons name names ih =>
      rw [forall_mem_cons] at hnames
      have hjoin : directory.below (name :: names) = (directory.join name).below names := rfl
      rw [hjoin, ih _ hnames.2, steps_join directory hnames.1, append_assoc, singleton_append]

theorem eq_of_below_eq {directory : Path} {names others : List RawText}
    (hnames : ∀ name ∈ names, IsName name) (hothers : ∀ name ∈ others, IsName name)
    (hpath : directory.below names = directory.below others) : names = others := by
  have hsteps := steps_below directory hnames
  rw [hpath, steps_below directory hothers] at hsteps
  exact (append_cancel_left hsteps).symm

end Compliance.Path
