import Compliance.Catalog.Index

/-!
# Nodes of a forest and their depths

The nodes of a forest of controls stand in pre-order: a control before its parts,
and a part with all that is below it before the next part.  A root has depth 0.

The walk that builds an index counts down the levels that are left.  What it meets
are the nodes whose depth is below a bound (`preorderAll_eq_filter`), so nothing
changes when the deeper levels are taken off the forest (`preorderAll_topLevels`)
and nothing is left out of a forest that has no deeper levels
(`nodesBelow_eq_nodes`).
-/

namespace Compliance.Control

mutual

/-- A control at some depth and all nodes below it in pre-order, each with its depth. -/
def withDepths : (depth : Nat) → Control → List (Nat × Control)
  | depth, .mk id label notes parts =>
    (depth, .mk id label notes parts) :: withDepthsAll (depth + 1) parts

/-- The controls of a list at some depth and all nodes below them in pre-order, each with its
depth. -/
def withDepthsAll : (depth : Nat) → List Control → List (Nat × Control)
  | _, [] => []
  | depth, control :: others => withDepths depth control ++ withDepthsAll depth others

end

/-- The nodes of a forest in pre-order. -/
def nodes (forest : List Control) : List Control := (withDepthsAll 0 forest).map (·.2)

/-- The nodes of a forest whose depth is below a bound, in pre-order. -/
def nodesBelow (bound : Nat) (forest : List Control) : List Control :=
  ((withDepthsAll 0 forest).filter fun node => node.1 < bound).map (·.2)

/-- The first levels of a forest; a node of the last one of them has no parts. -/
def topLevels : (levels : Nat) → List Control → List Control
  | 0, _ => []
  | levels + 1, forest => forest.map fun node =>
    .mk node.id node.label node.notes (topLevels levels node.parts)

/-- What an index takes in of a node. -/
def names (node : Control) : String × Option String := (node.id, node.label)

/-! ## Depths -/

mutual

/-- No node is less deep than the one where the walk starts. -/
theorem le_of_mem_withDepths {depth : Nat} {control : Control} {node : Nat × Control}
    (hmem : node ∈ withDepths depth control) : depth ≤ node.1 := by
  cases control with
  | mk id label notes parts =>
      rw [withDepths, List.mem_cons] at hmem
      rcases hmem with rfl | hbelow
      · exact Nat.le_refl _
      · exact Nat.le_of_succ_le (le_of_mem_withDepthsAll hbelow)

theorem le_of_mem_withDepthsAll {depth : Nat} {forest : List Control} {node : Nat × Control}
    (hmem : node ∈ withDepthsAll depth forest) : depth ≤ node.1 := by
  cases forest with
  | nil => simp [withDepthsAll] at hmem
  | cons control others =>
      rw [withDepthsAll, List.mem_append] at hmem
      rcases hmem with hcontrol | hothers
      · exact le_of_mem_withDepths hcontrol
      · exact le_of_mem_withDepthsAll hothers

end

mutual

/-- The nodes do not depend on where the depths start. -/
theorem map_snd_withDepths (first second : Nat) (control : Control) :
    (withDepths first control).map (·.2) = (withDepths second control).map (·.2) := by
  cases control with
  | mk id label notes parts =>
      rw [withDepths, withDepths, List.map_cons, List.map_cons,
        map_snd_withDepthsAll (first + 1) (second + 1) parts]

theorem map_snd_withDepthsAll (first second : Nat) (forest : List Control) :
    (withDepthsAll first forest).map (·.2) = (withDepthsAll second forest).map (·.2) := by
  cases forest with
  | nil => rfl
  | cons control others =>
      rw [withDepthsAll, withDepthsAll, List.map_append, List.map_append,
        map_snd_withDepths first second control, map_snd_withDepthsAll first second others]

end

/-- The nodes of two forests side by side. -/
theorem withDepthsAll_append (depth : Nat) (first second : List Control) :
    withDepthsAll depth (first ++ second) =
      withDepthsAll depth first ++ withDepthsAll depth second := by
  induction first with
  | nil => simp [withDepthsAll]
  | cons control others ih => simp [withDepthsAll, ih]

/-! ## Nodes -/

@[simp] theorem nodes_nil : nodes [] = [] := rfl

/-- The nodes of two forests side by side. -/
@[simp] theorem nodes_append (first second : List Control) :
    nodes (first ++ second) = nodes first ++ nodes second := by
  rw [nodes, withDepthsAll_append, List.map_append, nodes, nodes]

/-- A control stands before the nodes below it. -/
@[simp] theorem nodes_singleton (id : String) (label notes : Option String)
    (parts : List Control) :
    nodes [.mk id label notes parts] = .mk id label notes parts :: nodes parts := by
  rw [nodes, withDepthsAll, withDepthsAll, withDepths, List.append_nil, List.map_cons,
    map_snd_withDepthsAll _ 0, nodes]

/-- In a forest that is not too deep all nodes are above the bound. -/
theorem nodesBelow_eq_nodes {bound : Nat} {forest : List Control}
    (hdepths : ∀ node ∈ withDepthsAll 0 forest, node.1 < bound) :
    nodesBelow bound forest = nodes forest := by
  have hall : (withDepthsAll 0 forest).filter (fun node => node.1 < bound) =
      withDepthsAll 0 forest :=
    List.filter_eq_self.mpr fun node hmem => by simpa using hdepths node hmem
  rw [nodesBelow, hall, nodes]

end Compliance.Control

namespace Compliance.CatalogIndex

open Control

/-! ## The walk -/

/-- Without levels left the walk meets nothing. -/
theorem preorderAll_zero (forest : List Control) : preorderAll 0 forest = [] := by
  induction forest with
  | nil => rfl
  | cons control others ih => simp [preorderAll, preorder, ih]

mutual

/-- The walk from a control meets the nodes that are not deeper than the levels it has left. -/
theorem preorder_eq_filter (room depth : Nat) (control : Control) :
    preorder room control =
      ((withDepths depth control).filter fun node => node.1 < depth + room).map
        fun node => node.2.names := by
  cases room with
  | zero =>
      have hnone : (withDepths depth control).filter (fun node => node.1 < depth + 0) = [] := by
        refine List.filter_eq_nil_iff.mpr fun node hmem => ?_
        have := le_of_mem_withDepths hmem
        simpa using this
      rw [preorder, hnone, List.map_nil]
  | succ room =>
      cases control with
      | mk id label notes parts =>
          have hparts := preorderAll_eq_filter room (depth + 1) parts
          rw [Nat.add_right_comm, Nat.add_assoc] at hparts
          rw [preorder, hparts, withDepths, List.filter_cons_of_pos (by simp), List.map_cons]
          rfl

theorem preorderAll_eq_filter (room depth : Nat) (forest : List Control) :
    preorderAll room forest =
      ((withDepthsAll depth forest).filter fun node => node.1 < depth + room).map
        fun node => node.2.names := by
  cases forest with
  | nil => simp [preorderAll, withDepthsAll]
  | cons control others =>
      rw [preorderAll, withDepthsAll, List.filter_append, List.map_append,
        preorder_eq_filter room depth control, preorderAll_eq_filter room depth others]

end

/-- The walk from the roots meets the nodes whose depth is below the number of levels. -/
theorem preorderAll_eq_map_nodesBelow (room : Nat) (forest : List Control) :
    preorderAll room forest = (nodesBelow room forest).map names := by
  rw [preorderAll_eq_filter room 0 forest, nodesBelow, List.map_map, Nat.zero_add]
  rfl

/-- Levels that the walk does not reach may be taken off. -/
theorem preorderAll_topLevels (room : Nat) (forest : List Control) :
    preorderAll room (topLevels room forest) = preorderAll room forest := by
  induction room generalizing forest with
  | zero => rw [preorderAll_zero, preorderAll_zero]
  | succ room ih =>
      -- the roots keep their names, and their parts are cut one level earlier
      induction forest with
      | nil => rfl
      | cons control others ihOthers =>
          obtain ⟨id, label, notes, parts⟩ := control
          simp only [topLevels, List.map_cons, preorderAll, preorder] at ihOthers ⊢
          rw [ihOthers, Control.parts, ih]
          rfl

end Compliance.CatalogIndex
