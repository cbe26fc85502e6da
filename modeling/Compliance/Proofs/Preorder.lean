import Mathlib.Data.List.Forall2
import Mathlib.Data.List.Infix

/-!
# Forests in pre-order

The address of an item in a forest is the position of the root that it is under, then the
position of the next item on the way down, and so on.  Addresses are ordered like the words of
a dictionary.  An item is then before all items under it, and these are before the next item:
a list of addresses in this order is a walk in pre-order (`Walks`).

Two things are made of forests.  A list may have what is made of each item of some kind
(`Gathers`).  Or a forest may keep the items of some kind only, and the items under the others
move up to where these were (`Contracts`): the order stays, and an item is under another one
exactly if it was before.  So the item right above one that was kept is the nearest one that
was kept too (`Contracts.hasNearestParent`).

## Strategy

Both are put together in the same ways, with one lemma for each: the forests of two lists are
put side by side, an item that is kept is put above the forest under it, and of an item that is
not kept the forest under it remains.  In the first case the addresses of the second list are
shifted, in the other cases all addresses begin with one more position.
-/

namespace Compliance.Preorder

open List

/-! ## Addresses -/

section

variable {α : Type} (under : α → List α)

/-- The item of a forest at an address. -/
def at? : List α → (address : List Nat) → Option α
  | _, [] => none
  | items, [position] => items[position]?
  | items, position :: next :: address =>
    items[position]?.bind fun item => at? (under item) (next :: address)

/-- An item of a kind stands at an address. -/
def Stands (kind : α → Prop) (items : List α) (address : List Nat) : Prop :=
  ∃ item, at? under items address = some item ∧ kind item

/-- A list has the addresses of the items of a kind, each once and in pre-order. -/
structure Walks (kind : α → Prop) (items : List α) (addresses : List (List Nat)) : Prop where
  increasing : addresses.Pairwise (Lex (· < ·))
  complete : ∀ address, address ∈ addresses ↔ Stands under kind items address

end

/-- The address of an item when some items are put before its root. -/
def shift (items : Nat) : List Nat → List Nat
  | [] => []
  | position :: address => (items + position) :: address

theorem lex_shift {items : Nat} {first second : List Nat} (hlex : Lex (· < ·) first second) :
    Lex (· < ·) (shift items first) (shift items second) := by
  cases hlex with
  | nil => exact .nil
  | cons hbelow => exact .cons hbelow
  | rel hlt => exact .rel (Nat.add_lt_add_left hlt items)

theorem shift_prefix_shift_iff {items : Nat} {first second : List Nat} :
    shift items first <+: shift items second ↔ first <+: second := by
  cases first with
  | nil => simp [shift]
  | cons position address =>
      cases second with
      | nil => simp [shift]
      | cons other others => simp [shift, cons_prefix_cons]

/-- An address that leads to another one leads to the address right above that one. -/
theorem leads_dropLast_of_ne {first second : List Nat} (hleads : first <+: second)
    (hne : first ≠ second) : first <+: second.dropLast := by
  have hup : second.dropLast <+: second := dropLast_prefix second
  have hlength : first.length ≠ second.length := by
    intro heq
    exact hne (hleads.eq_of_length heq)
  refine prefix_of_prefix_length_le hleads hup ?_
  have hle := hleads.length_le
  rw [length_dropLast]
  omega

variable {α β : Type} {under : α → List α} {kind : α → Prop} {items others : List α} {item : α}

theorem exists_of_at? {address : List Nat} (hat : at? under items address = some item) :
    ∃ position rest, address = position :: rest ∧ position < items.length := by
  match address with
  | [] => cases hat
  | [position] =>
      obtain ⟨hposition, -⟩ := List.getElem?_eq_some_iff.mp hat
      exact ⟨position, [], rfl, hposition⟩
  | position :: next :: rest =>
      obtain ⟨root, hroot, -⟩ := Option.bind_eq_some_iff.mp hat
      obtain ⟨hposition, -⟩ := List.getElem?_eq_some_iff.mp hroot
      exact ⟨position, next :: rest, rfl, hposition⟩

theorem at?_append_of_at? {address : List Nat} (hat : at? under items address = some item) :
    at? under (items ++ others) address = some item := by
  obtain ⟨position, rest, rfl, hposition⟩ := exists_of_at? hat
  cases rest with
  | nil => rwa [at?, getElem?_append_left hposition]
  | cons next rest => rwa [at?, getElem?_append_left hposition]

@[simp] theorem at?_append_shift (items others : List α) (address : List Nat) :
    at? under (items ++ others) (shift items.length address) = at? under others address := by
  cases address with
  | nil => rfl
  | cons position rest =>
      have hroot : (items ++ others)[items.length + position]? = others[position]? := by
        rw [getElem?_append_right (Nat.le_add_right _ _), Nat.add_sub_cancel_left]
      cases rest with
      | nil => exact hroot
      | cons next rest => rw [shift, at?, hroot, at?]

theorem at?_append_eq_some_iff {address : List Nat} :
    at? under (items ++ others) address = some item ↔
      at? under items address = some item ∨
        ∃ rest, shift items.length rest = address ∧ at? under others rest = some item := by
  constructor
  · intro hat
    obtain ⟨position, rest, rfl, -⟩ := exists_of_at? hat
    by_cases hposition : position < items.length
    · refine .inl ?_
      cases rest with
      | nil => rwa [at?, getElem?_append_left hposition] at hat
      | cons next rest => rwa [at?, getElem?_append_left hposition] at hat
    · have hshift : shift items.length ((position - items.length) :: rest) = position :: rest := by
        rw [shift, Nat.add_sub_cancel' (Nat.le_of_not_lt hposition)]
      rw [← hshift, at?_append_shift] at hat
      exact .inr ⟨_, hshift, hat⟩
  · rintro (hat | ⟨rest, rfl, hat⟩)
    · exact at?_append_of_at? hat
    · rwa [at?_append_shift]

theorem at?_singleton_cons {rest : List Nat} {inner : α}
    (hat : at? under (under item) rest = some inner) :
    at? under [item] (0 :: rest) = some inner := by
  obtain ⟨position, rest, rfl, -⟩ := exists_of_at? hat
  exact hat

theorem at?_singleton_eq_some_iff {address : List Nat} {inner : α} :
    at? under [item] address = some inner ↔
      (address = [0] ∧ item = inner) ∨
        ∃ rest, 0 :: rest = address ∧ at? under (under item) rest = some inner := by
  constructor
  · intro hat
    obtain ⟨position, rest, rfl, hposition⟩ := exists_of_at? hat
    obtain rfl : position = 0 := by simpa using hposition
    cases rest with
    | nil => exact .inl ⟨rfl, Option.some.inj hat⟩
    | cons next rest => exact .inr ⟨_, rfl, hat⟩
  · rintro (⟨rfl, rfl⟩ | ⟨rest, rfl, hat⟩)
    · rfl
    · exact at?_singleton_cons hat

/-- Above an item there are items. -/
theorem exists_at?_of_prefix {first second : List Nat} (hne : first ≠ [])
    (hleads : first <+: second) (hat : at? under items second = some item) :
    ∃ above, at? under items first = some above := by
  induction first generalizing items second with
  | nil => exact absurd rfl hne
  | cons position rest ih =>
      obtain ⟨after, rfl⟩ := hleads
      cases rest with
      | nil =>
          obtain ⟨_, _, hcons, hposition⟩ := exists_of_at? hat
          obtain rfl := (cons.inj hcons).1
          exact ⟨_, getElem?_eq_getElem hposition⟩
      | cons next rest =>
          obtain ⟨root, hroot, hbelow⟩ := Option.bind_eq_some_iff.mp hat
          obtain ⟨above, habove⟩ := ih (by simp) (prefix_append _ _) hbelow
          exact ⟨above, Option.bind_eq_some_iff.mpr ⟨root, hroot, habove⟩⟩

/-! ## Walks -/

namespace Walks

variable {addresses more : List (List Nat)}

theorem exists_of_mem (hwalks : Walks under kind items addresses) {address : List Nat}
    (hmem : address ∈ addresses) :
    ∃ position rest, address = position :: rest ∧ position < items.length := by
  obtain ⟨item, hat, -⟩ := (hwalks.complete address).mp hmem
  exact exists_of_at? hat

theorem nil : Walks under kind [] [] where
  increasing := .nil
  complete := by
    intro address
    constructor
    · intro hmem
      cases hmem
    · rintro ⟨item, hat, -⟩
      obtain ⟨_, _, -, hposition⟩ := exists_of_at? hat
      cases hposition

/-- The items of the second list come after all items of the first one. -/
theorem append (hitems : Walks under kind items addresses)
    (hothers : Walks under kind others more) :
    Walks under kind (items ++ others) (addresses ++ more.map (shift items.length)) where
  increasing := by
    refine pairwise_append.mpr ⟨hitems.increasing, ?_, ?_⟩
    · exact pairwise_map.mpr (hothers.increasing.imp lex_shift)
    · intro first hfirst second hsecond
      obtain ⟨position, rest, rfl, hposition⟩ := hitems.exists_of_mem hfirst
      obtain ⟨unshifted, hunshifted, rfl⟩ := mem_map.mp hsecond
      obtain ⟨later, below, rfl, -⟩ := hothers.exists_of_mem hunshifted
      exact .rel (Nat.lt_add_right later hposition)
  complete := by
    intro address
    simp only [mem_append, mem_map, hitems.complete, hothers.complete, Stands,
      at?_append_eq_some_iff, or_and_right, exists_or]
    refine or_congr_right ?_
    constructor
    · rintro ⟨rest, ⟨item, hat, hkind⟩, hrest⟩
      exact ⟨item, ⟨rest, hrest, hat⟩, hkind⟩
    · rintro ⟨item, ⟨rest, hrest, hat⟩, hkind⟩
      exact ⟨rest, ⟨item, hat, hkind⟩, hrest⟩

private theorem stands_singleton_iff {address : List Nat} :
    Stands under kind [item] address ↔
      (address = [0] ∧ kind item) ∨
        ∃ rest, Stands under kind (under item) rest ∧ 0 :: rest = address := by
  simp only [Stands, at?_singleton_eq_some_iff]
  constructor
  · rintro ⟨inner, ⟨rfl, rfl⟩ | ⟨rest, rfl, hat⟩, hkind⟩
    · exact .inl ⟨rfl, hkind⟩
    · exact .inr ⟨rest, ⟨inner, hat, hkind⟩, rfl⟩
  · rintro (⟨rfl, hkind⟩ | ⟨rest, ⟨inner, hat, hkind⟩, rfl⟩)
    · exact ⟨item, .inl ⟨rfl, rfl⟩, hkind⟩
    · exact ⟨inner, .inr ⟨rest, rfl, hat⟩, hkind⟩

private theorem pairwise_map_cons (hwalks : Walks under kind items addresses) :
    (addresses.map (0 :: ·)).Pairwise (Lex (· < ·)) :=
  pairwise_map.mpr (hwalks.increasing.imp .cons)

/-- An item of the kind comes before those under it. -/
theorem node (hkind : kind item) (hwalks : Walks under kind (under item) addresses) :
    Walks under kind [item] ([0] :: addresses.map (0 :: ·)) where
  increasing := by
    refine pairwise_cons.mpr ⟨?_, hwalks.pairwise_map_cons⟩
    intro address hmem
    obtain ⟨rest, hrest, rfl⟩ := mem_map.mp hmem
    obtain ⟨_, _, rfl, -⟩ := hwalks.exists_of_mem hrest
    exact .cons .nil
  complete := by
    intro address
    simp only [mem_cons, mem_map, hwalks.complete, stands_singleton_iff, hkind, and_true]

/-- An item that is not of the kind is passed over. -/
theorem lift (hkind : ¬ kind item) (hwalks : Walks under kind (under item) addresses) :
    Walks under kind [item] (addresses.map (0 :: ·)) where
  increasing := hwalks.pairwise_map_cons
  complete := by
    intro address
    simp only [mem_map, hwalks.complete, stands_singleton_iff, hkind, and_false, false_or]

end Walks

/-! ## Lists of what is made of the items -/

/-- A list has what is made of the items of a kind, in pre-order. -/
def Gathers (under : α → List α) (kind : α → Prop) (makes : α → β → Prop) (items : List α)
    (results : List β) : Prop :=
  ∃ addresses, Walks under kind items addresses ∧
    Forall₂ (fun address result => ∃ item, at? under items address = some item ∧ makes item result)
      addresses results

namespace Gathers

variable {makes : α → β → Prop} {results more : List β}

theorem nil : Gathers under kind makes [] [] := ⟨[], .nil, .nil⟩

theorem append (hitems : Gathers under kind makes items results)
    (hothers : Gathers under kind makes others more) :
    Gathers under kind makes (items ++ others) (results ++ more) := by
  obtain ⟨addresses, hwalks, hmade⟩ := hitems
  obtain ⟨further, hfurther, hmore⟩ := hothers
  refine ⟨_, hwalks.append hfurther, rel_append ?_ (forall₂_map_left_iff.mpr ?_)⟩
  · refine hmade.imp ?_
    rintro address result ⟨item, hat, hmakes⟩
    exact ⟨item, at?_append_of_at? hat, hmakes⟩
  · refine hmore.imp ?_
    rintro address result ⟨item, hat, hmakes⟩
    exact ⟨item, by rwa [at?_append_shift], hmakes⟩

/-- The lists for the items one after the other. -/
theorem flatten {lists : List (List β)}
    (hitems : Forall₂ (fun item results => Gathers under kind makes [item] results) items lists) :
    Gathers under kind makes items lists.flatten := by
  induction hitems with
  | nil => exact nil
  | cons hitem _ ih => exact append hitem ih

private theorem made_below {addresses : List (List Nat)}
    (hmade : Forall₂ (fun address result =>
      ∃ inner, at? under (under item) address = some inner ∧ makes inner result)
      addresses results) :
    Forall₂ (fun address result =>
      ∃ inner, at? under [item] address = some inner ∧ makes inner result)
      (addresses.map (0 :: ·)) results := by
  refine forall₂_map_left_iff.mpr (hmade.imp ?_)
  rintro address result ⟨inner, hat, hmakes⟩
  exact ⟨inner, at?_singleton_cons hat, hmakes⟩

theorem node {result : β} (hkind : kind item) (hmakes : makes item result)
    (hunder : Gathers under kind makes (under item) results) :
    Gathers under kind makes [item] (result :: results) := by
  obtain ⟨addresses, hwalks, hmade⟩ := hunder
  exact ⟨_, hwalks.node hkind, .cons ⟨item, rfl, hmakes⟩ (made_below hmade)⟩

theorem lift (hkind : ¬ kind item) (hunder : Gathers under kind makes (under item) results) :
    Gathers under kind makes [item] results := by
  obtain ⟨addresses, hwalks, hmade⟩ := hunder
  exact ⟨_, hwalks.lift hkind, made_below hmade⟩

end Gathers

/-! ## Contracted forests -/

section

variable (under : α → List α) (within : β → List β) (kind : α → Prop) (makes : α → β → Prop)

/-- A forest has what is made of the items of a kind, and nothing else.  Each of these items moves
from its address to that of what is made of it. -/
structure Contracts (items : List α) (forest : List β) (moves : List (List Nat × List Nat)) :
    Prop where
  sources : Walks under kind items (moves.map (·.1))
  targets : Walks within (fun _ => True) forest (moves.map (·.2))
  made : ∀ move ∈ moves, ∃ item node, at? under items move.1 = some item ∧
    at? within forest move.2 = some node ∧ makes item node
  /-- An item is under another one exactly if this is so for what is made of them. -/
  ancestry : ∀ move ∈ moves, ∀ other ∈ moves, move.1 <+: other.1 ↔ move.2 <+: other.2

/-- What is made of an item stands right under what is made of the nearest item of the kind that is
above it, or it is a root if there is no such item. -/
def HasNearestParent (items : List α) (moves : List (List Nat × List Nat))
    (move : List Nat × List Nat) : Prop :=
  (move.2.dropLast = [] ∧
      ∀ address, Stands under kind items address → address <+: move.1 → address = move.1) ∨
    ∃ above, (above, move.2.dropLast) ∈ moves ∧ above <+: move.1 ∧ above ≠ move.1 ∧
      ∀ address, Stands under kind items address → address <+: move.1 → address ≠ move.1 →
        address <+: above

end

/-- Addresses in two lists that are put side by side are not prefixes of each other. -/
private def Apart (length : Nat) (first second : List Nat) : Prop :=
  ¬ first <+: shift length second ∧ ¬ shift length second <+: first

private theorem Apart.of_walks {γ : Type} {below : γ → List γ} {kind : γ → Prop}
    {items others : List γ} {addresses more : List (List Nat)}
    (hitems : Walks below kind items addresses) (hothers : Walks below kind others more)
    {first second : List Nat} (hfirst : first ∈ addresses) (hsecond : second ∈ more) :
    Apart items.length first second := by
  obtain ⟨position, rest, rfl, hposition⟩ := hitems.exists_of_mem hfirst
  obtain ⟨later, below, rfl, -⟩ := hothers.exists_of_mem hsecond
  have hne : position ≠ items.length + later := Nat.ne_of_lt (Nat.lt_add_right later hposition)
  simp only [Apart, shift, cons_prefix_cons]
  exact ⟨fun hleads => hne hleads.1, fun hleads => hne hleads.1.symm⟩

namespace Contracts

variable {within : β → List β} {makes : α → β → Prop} {forest fellows : List β}
  {moves more : List (List Nat × List Nat)}

theorem nil : Contracts under within kind makes [] [] [] where
  sources := .nil
  targets := .nil
  made := by simp
  ancestry := by simp

/-- Two forests side by side. -/
theorem append (hitems : Contracts under within kind makes items forest moves)
    (hothers : Contracts under within kind makes others fellows more) :
    Contracts under within kind makes (items ++ others) (forest ++ fellows)
      (moves ++ more.map (Prod.map (shift items.length) (shift forest.length))) where
  sources := by
    have hwalks := hitems.sources.append hothers.sources
    rw [map_map] at hwalks
    rwa [map_append, map_map]
  targets := by
    have hwalks := hitems.targets.append hothers.targets
    rw [map_map] at hwalks
    rwa [map_append, map_map]
  made := by
    intro move hmove
    rcases mem_append.mp hmove with hfirst | hsecond
    · obtain ⟨item, node, hitem, hnode, hmakes⟩ := hitems.made move hfirst
      exact ⟨item, node, at?_append_of_at? hitem, at?_append_of_at? hnode, hmakes⟩
    · obtain ⟨unshifted, hunshifted, rfl⟩ := mem_map.mp hsecond
      obtain ⟨item, node, hitem, hnode, hmakes⟩ := hothers.made unshifted hunshifted
      exact ⟨item, node, by simpa using hitem, by simpa using hnode, hmakes⟩
  ancestry := by
    -- an item of one list is not under an item of the other one
    have hapart : ∀ move ∈ moves, ∀ other ∈ more,
        Apart items.length move.1 other.1 ∧ Apart forest.length move.2 other.2 := by
      intro move hmove other hother
      constructor
      · exact .of_walks hitems.sources hothers.sources (mem_map_of_mem hmove)
          (mem_map_of_mem hother)
      · exact .of_walks hitems.targets hothers.targets (mem_map_of_mem hmove)
          (mem_map_of_mem hother)
    intro move hmove other hother
    rcases mem_append.mp hmove with hmove | hmove <;>
      rcases mem_append.mp hother with hother | hother
    · exact hitems.ancestry move hmove other hother
    · obtain ⟨unshifted, hunshifted, rfl⟩ := mem_map.mp hother
      obtain ⟨hsources, htargets⟩ := hapart move hmove unshifted hunshifted
      exact iff_of_false hsources.1 htargets.1
    · obtain ⟨unshifted, hunshifted, rfl⟩ := mem_map.mp hmove
      obtain ⟨hsources, htargets⟩ := hapart other hother unshifted hunshifted
      exact iff_of_false hsources.2 htargets.2
    · obtain ⟨first, hfirst, rfl⟩ := mem_map.mp hmove
      obtain ⟨second, hsecond, rfl⟩ := mem_map.mp hother
      exact shift_prefix_shift_iff.trans
        ((hothers.ancestry first hfirst second hsecond).trans shift_prefix_shift_iff.symm)

/-- The forests of the items of a list one after the other. -/
theorem exists_flatten {forests : List (List β)}
    (hitems : Forall₂ (fun item forest =>
      ∃ moves, Contracts under within kind makes [item] forest moves) items forests) :
    ∃ moves, Contracts under within kind makes items forests.flatten moves := by
  induction hitems with
  | nil => exact ⟨[], nil⟩
  | cons hitem _ ih =>
      obtain ⟨moves, hmoves⟩ := hitem
      obtain ⟨more, hmore⟩ := ih
      exact ⟨_, append hmoves hmore⟩

/-- What is made of an item stands above the forest of the items under it. -/
theorem node {result : β} (hkind : kind item) (hmakes : makes item result)
    (hunder : Contracts under within kind makes (under item) (within result) moves) :
    Contracts under within kind makes [item] [result]
      (([0], [0]) :: moves.map (Prod.map (0 :: ·) (0 :: ·))) where
  sources := by
    have hwalks := hunder.sources.node hkind
    rw [map_map] at hwalks
    rwa [map_cons, map_map]
  targets := by
    have hwalks := hunder.targets.node trivial
    rw [map_map] at hwalks
    rwa [map_cons, map_map]
  made := by
    rw [forall_mem_cons]
    refine ⟨⟨item, result, rfl, rfl, hmakes⟩, ?_⟩
    intro move hmove
    obtain ⟨inner, hinner, rfl⟩ := mem_map.mp hmove
    obtain ⟨below, made, hbelow, hmade, hmakes⟩ := hunder.made inner hinner
    exact ⟨below, made, at?_singleton_cons hbelow, at?_singleton_cons hmade, hmakes⟩
  ancestry := by
    have hnonempty : ∀ move ∈ moves, move.1 ≠ [] ∧ move.2 ≠ [] := by
      intro move hmove
      obtain ⟨_, _, hsource, -⟩ := hunder.sources.exists_of_mem (mem_map_of_mem hmove)
      obtain ⟨_, _, htarget, -⟩ := hunder.targets.exists_of_mem (mem_map_of_mem hmove)
      simp [hsource, htarget]
    intro move hmove other hother
    rcases mem_cons.mp hmove with rfl | hmove <;> rcases mem_cons.mp hother with rfl | hother
    · exact iff_of_true prefix_rfl prefix_rfl
    · obtain ⟨inner, hinner, rfl⟩ := mem_map.mp hother
      simp [cons_prefix_cons]
    · obtain ⟨inner, hinner, rfl⟩ := mem_map.mp hmove
      simp [cons_prefix_cons, hnonempty inner hinner]
    · obtain ⟨first, hfirst, rfl⟩ := mem_map.mp hmove
      obtain ⟨second, hsecond, rfl⟩ := mem_map.mp hother
      simpa [cons_prefix_cons] using hunder.ancestry first hfirst second hsecond

/-- The forest of the items under an item takes the place of the item. -/
theorem lift (hkind : ¬ kind item)
    (hunder : Contracts under within kind makes (under item) forest moves) :
    Contracts under within kind makes [item] forest (moves.map (Prod.map (0 :: ·) id)) where
  sources := by
    have hwalks := hunder.sources.lift hkind
    rw [map_map] at hwalks
    rwa [map_map]
  targets := by
    have hwalks := hunder.targets
    rwa [map_map]
  made := by
    intro move hmove
    obtain ⟨inner, hinner, rfl⟩ := mem_map.mp hmove
    obtain ⟨below, made, hbelow, hmade, hmakes⟩ := hunder.made inner hinner
    exact ⟨below, made, at?_singleton_cons hbelow, hmade, hmakes⟩
  ancestry := by
    intro move hmove other hother
    obtain ⟨first, hfirst, rfl⟩ := mem_map.mp hmove
    obtain ⟨second, hsecond, rfl⟩ := mem_map.mp hother
    simpa [cons_prefix_cons] using hunder.ancestry first hfirst second hsecond

/-- What is above an item is made into something above the parent of what is made of the item. -/
theorem exists_place_of_stands (hcontracts : Contracts under within kind makes items forest moves)
    {move : List Nat × List Nat} (hmove : move ∈ moves) {address : List Nat}
    (hstands : Stands under kind items address) (hleads : address <+: move.1)
    (haddress : address ≠ move.1) :
    ∃ place, (address, place) ∈ moves ∧ place <+: move.2.dropLast := by
  obtain ⟨⟨_, place⟩, hother, rfl⟩ := mem_map.mp ((hcontracts.sources.complete _).mpr hstands)
  have hplace : place <+: move.2 := (hcontracts.ancestry _ hother _ hmove).mp hleads
  refine ⟨place, hother, leads_dropLast_of_ne hplace ?_⟩
  rintro rfl
  have hback := (hcontracts.ancestry _ hmove _ hother).mpr prefix_rfl
  exact haddress (hleads.eq_of_length_le hback.length_le)

/-- The nearest item above one that was kept and that was kept too becomes its parent. -/
theorem hasNearestParent (hcontracts : Contracts under within kind makes items forest moves)
    {move : List Nat × List Nat} (hmove : move ∈ moves) :
    HasNearestParent under kind items moves move := by
  by_cases hroot : move.2.dropLast = []
  · refine .inl ⟨hroot, ?_⟩
    intro address hstands hleads
    by_contra haddress
    obtain ⟨place, hother, hplace⟩ :=
      hcontracts.exists_place_of_stands hmove hstands hleads haddress
    obtain ⟨_, _, hcons, -⟩ := hcontracts.targets.exists_of_mem (mem_map_of_mem hother)
    rw [hroot, prefix_nil] at hplace
    simp [hplace] at hcons
  · have hup : move.2.dropLast <+: move.2 := dropLast_prefix move.2
    -- the parent was made of an item too, and this is the nearest one
    obtain ⟨node, hnode, -⟩ := (hcontracts.targets.complete _).mp (mem_map_of_mem hmove)
    obtain ⟨parent, hparent⟩ := exists_at?_of_prefix hroot hup hnode
    obtain ⟨⟨above, _⟩, habove, rfl⟩ := mem_map.mp
      ((hcontracts.targets.complete _).mpr ⟨parent, hparent, trivial⟩)
    refine .inr ⟨above, habove, (hcontracts.ancestry _ habove _ hmove).mpr hup, ?_, ?_⟩
    · rintro rfl
      have hback := (hcontracts.ancestry _ hmove _ habove).mp prefix_rfl
      have hlength := hback.length_le
      rw [length_dropLast] at hlength
      have hempty : move.2.dropLast.length = 0 := by
        rw [length_dropLast]
        omega
      exact hroot (eq_nil_of_length_eq_zero hempty)
    · intro address hstands hleads haddress
      obtain ⟨place, hother, hplace⟩ :=
        hcontracts.exists_place_of_stands hmove hstands hleads haddress
      exact (hcontracts.ancestry _ hother _ habove).mpr hplace

end Contracts

end Compliance.Preorder
