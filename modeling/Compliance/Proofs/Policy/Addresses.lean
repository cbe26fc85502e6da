import Compliance.Policy.ControlFile
import Mathlib.Data.List.Forall2

/-!
# Controls of a policy and their addresses

The address of a control says where it stands: its position in the file, or the
position of the outermost control that it is below, then the position below that
control, and so on.  Addresses are ordered like the words of a dictionary, so a
control stands before all that are below it, and these before the next control.

The flat list of a policy has one control for each address, in this order
(`inPreorder_flattenAll`): none is lost and none is doubled, however the controls
are nested.
-/

namespace Compliance.PolicyControl

open List

/-- The control at an address. -/
def at? : List PolicyControl → (address : List Nat) → Option PolicyControl
  | _, [] => none
  | controls, [position] => controls[position]?
  | controls, position :: next :: address =>
    (controls[position]?).bind fun control => at? control.children (next :: address)

/-- The control without those below it. -/
def alone (control : PolicyControl) : PolicyControl := { control with children := [] }

/-- Whether an address stands before another one. -/
def Precedes (first second : List Nat) : Prop := Lex (fun a b : Nat => a < b) first second

/-- A list has the controls of a forest at all nesting levels, in the order of their addresses. -/
structure InPreorder (forest : List PolicyControl) (addresses : List (List Nat))
    (flat : List PolicyControl) : Prop where
  increasing : addresses.Pairwise Precedes
  complete : ∀ address, address ∈ addresses ↔ (at? forest address).isSome
  listed : Forall₂ (fun address control => (at? forest address).map alone = some control)
    addresses flat

/-! ## Looking up an address -/

theorem at?_zero_cons (control : PolicyControl) (others : List PolicyControl) {address : List Nat}
    (hbelow : address ≠ []) :
    at? (control :: others) (0 :: address) = at? control.children address := by
  cases address with
  | nil => exact absurd rfl hbelow
  | cons next address => rfl

@[simp] theorem at?_succ_cons (control : PolicyControl) (others : List PolicyControl)
    (position : Nat) (address : List Nat) :
    at? (control :: others) ((position + 1) :: address) = at? others (position :: address) := by
  cases address with
  | nil => simp [at?]
  | cons next address => simp [at?]

@[simp] theorem at?_nil_forest (address : List Nat) : at? [] address = none := by
  match address with
  | [] => rfl
  | [_] => rfl
  | _ :: _ :: _ => rfl

/-! ## The addresses of a forest -/

mutual

/-- The addresses of a control at a position and of all controls below it, in order. -/
def addressesAt (position : Nat) : PolicyControl → List (List Nat)
  | ⟨_, _, _, _, _, _, children⟩ =>
    [position] :: (addressesFrom 0 children).map fun address => position :: address

/-- The addresses of the controls of a list, of which the first has some position, and of all
controls below them, in order. -/
def addressesFrom (position : Nat) : List PolicyControl → List (List Nat)
  | [] => []
  | control :: others => addressesAt position control ++ addressesFrom (position + 1) others

end

mutual

theorem exists_of_mem_addressesAt {position : Nat} {control : PolicyControl} {address : List Nat}
    (hmem : address ∈ addressesAt position control) : ∃ rest, address = position :: rest := by
  cases control with
  | mk id title levels status rules notes children =>
      rw [addressesAt, mem_cons, mem_map] at hmem
      rcases hmem with rfl | ⟨rest, -, rfl⟩
      · exact ⟨[], rfl⟩
      · exact ⟨rest, rfl⟩

theorem exists_of_mem_addressesFrom {position : Nat} {controls : List PolicyControl}
    {address : List Nat} (hmem : address ∈ addressesFrom position controls) :
    ∃ first rest, address = first :: rest ∧ position ≤ first := by
  cases controls with
  | nil => simp [addressesFrom] at hmem
  | cons control others =>
      rw [addressesFrom, mem_append] at hmem
      rcases hmem with hcontrol | hothers
      · obtain ⟨rest, rfl⟩ := exists_of_mem_addressesAt hcontrol
        exact ⟨position, rest, rfl, Nat.le_refl _⟩
      · obtain ⟨first, rest, rfl, hle⟩ := exists_of_mem_addressesFrom hothers
        exact ⟨first, rest, rfl, Nat.le_of_succ_le hle⟩

end

theorem nil_not_mem_addressesFrom (position : Nat) (controls : List PolicyControl) :
    [] ∉ addressesFrom position controls := by
  intro hmem
  obtain ⟨first, rest, hcons, -⟩ := exists_of_mem_addressesFrom hmem
  cases hcons

mutual

/-- A control stands before all that are below it. -/
theorem pairwise_addressesAt (position : Nat) (control : PolicyControl) :
    (addressesAt position control).Pairwise Precedes := by
  cases control with
  | mk id title levels status rules notes children =>
      rw [addressesAt, pairwise_cons, pairwise_map]
      refine ⟨?_, (pairwise_addressesFrom 0 children).imp fun hlt => .cons hlt⟩
      -- the address of the control is a beginning of those below it
      intro address hmem
      obtain ⟨rest, hrest, rfl⟩ := mem_map.mp hmem
      obtain ⟨first, below, rfl, -⟩ := exists_of_mem_addressesFrom hrest
      exact .cons .nil

/-- A control and all that are below it stand before the next control. -/
theorem pairwise_addressesFrom (position : Nat) (controls : List PolicyControl) :
    (addressesFrom position controls).Pairwise Precedes := by
  cases controls with
  | nil => exact .nil
  | cons control others =>
      rw [addressesFrom, pairwise_append]
      refine ⟨pairwise_addressesAt position control,
        pairwise_addressesFrom (position + 1) others, ?_⟩
      intro first hfirst second hsecond
      obtain ⟨rest, rfl⟩ := exists_of_mem_addressesAt hfirst
      obtain ⟨later, below, rfl, hle⟩ := exists_of_mem_addressesFrom hsecond
      exact .rel hle

end

mutual

/-- The addresses at a position are those that lead to the control or to one below it. -/
theorem mem_addressesAt {position : Nat} {control : PolicyControl} {rest : List Nat} :
    position :: rest ∈ addressesAt position control ↔
      rest = [] ∨ (at? control.children rest).isSome := by
  cases control with
  | mk id title levels status rules notes children =>
      simp only [addressesAt, mem_cons, mem_map, cons.injEq, true_and, exists_eq_right]
      refine or_congr_right ?_
      cases rest with
      | nil =>
          simpa [at?] using nil_not_mem_addressesFrom 0 children
      | cons first below =>
          simpa using mem_addressesFrom 0 first children below

/-- The addresses of a list are those that lead to a control, counted from its first position. -/
theorem mem_addressesFrom (position index : Nat) (controls : List PolicyControl)
    (rest : List Nat) :
    (position + index) :: rest ∈ addressesFrom position controls ↔
      (at? controls (index :: rest)).isSome := by
  cases controls with
  | nil => simp [addressesFrom]
  | cons control others =>
      rw [addressesFrom, mem_append]
      cases index with
      | zero =>
          -- the addresses of the others begin with greater positions
          have hothers : position :: rest ∉ addressesFrom (position + 1) others := fun hmem => by
            obtain ⟨first, below, hcons, hle⟩ := exists_of_mem_addressesFrom hmem
            obtain rfl : position = first := (cons.inj hcons).1
            exact absurd hle (Nat.not_succ_le_self _)
          rw [Nat.add_zero, mem_addressesAt]
          by_cases hrest : rest = []
          · simp [hrest, at?]
          · simp [hrest, hothers, at?_zero_cons]
      | succ index =>
          have hcontrol : (position + (index + 1)) :: rest ∉ addressesAt position control := by
            intro hmem
            obtain ⟨below, hcons⟩ := exists_of_mem_addressesAt hmem
            have := (cons.inj hcons).1
            omega
          rw [at?_succ_cons, ← mem_addressesFrom (position + 1),
            show position + (index + 1) = position + 1 + index by omega]
          simp only [show position + (index + 1) = position + 1 + index by omega] at hcontrol
          simp [hcontrol]

end

/-! ## The flat list -/

mutual

/-- What the flat list of a control has for the addresses of the control. -/
theorem listed_flatten (position : Nat) (control : PolicyControl) :
    Forall₂ (fun address listed => ∃ rest, address = position :: rest ∧
        ((rest = [] ∧ alone control = listed) ∨
          rest ≠ [] ∧ (at? control.children rest).map alone = some listed))
      (addressesAt position control) control.flatten := by
  cases control with
  | mk id title levels status rules notes children =>
      rw [addressesAt, flatten]
      refine .cons ⟨[], rfl, .inl ⟨rfl, rfl⟩⟩ (forall₂_map_left_iff.mpr ?_)
      refine (listed_flattenAll 0 children).imp ?_
      rintro address listed ⟨index, rest, rfl, hlisted⟩
      refine ⟨_, rfl, .inr ⟨by simp, ?_⟩⟩
      simpa using hlisted

/-- What the flat list of some controls has for their addresses. -/
theorem listed_flattenAll (position : Nat) (controls : List PolicyControl) :
    Forall₂ (fun address listed => ∃ index rest, address = (position + index) :: rest ∧
        (at? controls (index :: rest)).map alone = some listed)
      (addressesFrom position controls) (flattenAll controls) := by
  cases controls with
  | nil => exact .nil
  | cons control others =>
      rw [addressesFrom, flattenAll]
      refine rel_append ?_ ?_
      · refine (listed_flatten position control).imp ?_
        rintro address listed ⟨rest, rfl, ⟨rfl, hlisted⟩ | ⟨hbelow, hlisted⟩⟩
        · exact ⟨0, [], rfl, by simp [at?, hlisted]⟩
        · exact ⟨0, rest, rfl, by rw [at?_zero_cons control others hbelow, hlisted]⟩
      · refine (listed_flattenAll (position + 1) others).imp ?_
        rintro address listed ⟨index, rest, rfl, hlisted⟩
        exact ⟨index + 1, rest, by rw [Nat.add_right_comm, Nat.add_assoc],
          by rw [at?_succ_cons, hlisted]⟩

end

/-- The flat list of a forest has one control for each address, in the order of the addresses. -/
theorem inPreorder_flattenAll (forest : List PolicyControl) :
    InPreorder forest (addressesFrom 0 forest) (flattenAll forest) where
  increasing := pairwise_addressesFrom 0 forest
  complete := by
    intro address
    cases address with
    | nil =>
        simpa [at?] using nil_not_mem_addressesFrom 0 forest
    | cons first rest =>
        simpa using mem_addressesFrom 0 first forest rest
  listed := by
    refine (listed_flattenAll 0 forest).imp ?_
    rintro address listed ⟨index, rest, rfl, hlisted⟩
    simpa using hlisted

end Compliance.PolicyControl
