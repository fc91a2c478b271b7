/-
This file shows that the walk below a node ends, and that it comes to every node below that node once, in
the order in which a recursion over the children comes to them.
-/
import DesignScene.Proofs.Render.Forest
import DesignScene.Proofs.Scene.Below
import DesignScene.Proofs.Scene.Family
import Mathlib.Data.List.Perm.Subperm

namespace DesignScene.SceneGraph

variable {α : Type} {graph : SceneGraph α} {above between id : Nat}

/-- From this stack, whose top is its last node, the walk ends after it has come to these nodes. -/
inductive Visits (graph : SceneGraph α) : List Nat → List Nat → Prop where
  | done : Visits graph [] []
  | round {stack visited : List Nat} {next : Nat}
      (further : Visits graph (stack ++ (graph.children next).reverse) visited) :
      Visits graph (stack ++ [next]) (next :: visited)

/-- A walk that ends needs no more steps than it comes to nodes. -/
theorem Visits.visit_eq {stack visited : List Nat} (walk : graph.Visits stack visited) {steps : Nat}
    (enough : visited.length ≤ steps) : graph.visit steps stack.reverse = visited := by
  induction walk generalizing steps with
  | done => exact visit_nil graph steps
  | round _ ih =>
      obtain ⟨rest, rfl⟩ := Nat.exists_eq_add_of_le' enough
      have further := ih (Nat.le_add_left _ rest)
      rw [List.reverse_append, List.reverse_reverse] at further
      rw [List.reverse_append, List.reverse_singleton, List.singleton_append, List.length_cons,
        ← Nat.add_assoc, visit, further]

/-- A walk can end in one way only. -/
theorem Visits.unique {stack visited others : List Nat} (walk : graph.Visits stack visited)
    (other : graph.Visits stack others) : visited = others := by
  have first := walk.visit_eq (Nat.le_max_left visited.length others.length)
  have second := other.visit_eq (Nat.le_max_right visited.length others.length)
  exact first.symm.trans second

section Below

/-- What stands below something that stands below a node stands below the node. -/
theorem IsBelow.trans (upper : graph.IsBelow above between) (lower : graph.IsBelow between id) :
    graph.IsBelow above id := by
  induction lower with
  | child found isParent => exact .deeper found isParent upper
  | deeper found isParent _ ih => exact .deeper found isParent ih

theorem IsBelow.lt_size (below : graph.IsBelow above id) : id < graph.size := by
  cases below with
  | child found _ => exact (Array.getElem?_eq_some_iff.mp found).1
  | deeper found _ _ => exact (Array.getElem?_eq_some_iff.mp found).1

/-- Of two nodes above the same node one stands above the other, because there is only one way up. -/
theorem IsBelow.comparable {other : Nat} (first : graph.IsBelow above id)
    (second : graph.IsBelow other id) :
    above = other ∨ graph.IsBelow above other ∨ graph.IsBelow other above := by
  induction first with
  | child found isParent =>
      cases second with
      | child same isOther =>
          cases found.symm.trans same
          exact .inl (Option.some.inj (isParent.symm.trans isOther))
      | deeper same isBetween below =>
          cases found.symm.trans same
          cases isParent.symm.trans isBetween
          exact .inr (.inr below)
  | deeper found isBetween below ih =>
      cases second with
      | child same isOther =>
          cases found.symm.trans same
          cases isBetween.symm.trans isOther
          exact .inr (.inl below)
      | deeper same isOther further =>
          cases found.symm.trans same
          cases isBetween.symm.trans isOther
          exact ih further

end Below

namespace IsForest

theorem child_bounds (forest : graph.IsForest) {child : Nat} (listed : child ∈ graph.children id) :
    id < child ∧ child < graph.size := by
  obtain ⟨node, found, isParent⟩ := forest.named listed
  exact ⟨forest.parent_lt found isParent, (IsBelow.child found isParent).lt_size⟩

/-- What holds of a node as soon as it holds of its children holds of all nodes. -/
theorem induction (forest : graph.IsForest) {motive : Nat → Prop}
    (step : ∀ id, (∀ child ∈ graph.children id, motive child) → motive id) (id : Nat) : motive id := by
  induction left : graph.size - id using Nat.strongRecOn generalizing id with
  | ind left ih =>
      apply step
      intro child listed
      have bounds := forest.child_bounds listed
      exact ih (graph.size - child) (by omega) child rfl

/-- The nodes below a node: its children in their order, each one right before the nodes below it. -/
def below (forest : graph.IsForest) (id : Nat) : List Nat :=
  (graph.children id).attach.flatMap fun child => child.1 :: forest.below child.1
termination_by graph.size - id
decreasing_by
  have bounds := forest.child_bounds child.2
  omega

/-- The nodes of the trees under these roots, one tree after the other. -/
def trees (forest : graph.IsForest) (roots : List Nat) : List Nat :=
  roots.flatMap fun root => root :: forest.below root

variable (forest : graph.IsForest)
include forest

/-- Below a node stand the trees of its children. -/
theorem below_eq (id : Nat) : forest.below id = forest.trees (graph.children id) := by
  rw [below, trees, List.flatMap_subtype (g := fun child => child :: forest.below child) (fun _ _ => rfl),
    List.unattach_attach]

/-- The first root, with its children in front of the other roots. -/
theorem trees_cons (root : Nat) (roots : List Nat) :
    forest.trees (root :: roots) = root :: forest.trees (graph.children root ++ roots) := by
  rw [trees, List.flatMap_cons, below_eq, trees, trees, List.flatMap_append, List.cons_append]

/-- Each round leaves one node less in the trees on the stack, although the stack itself may grow. -/
theorem visits_trees : ∀ roots : List Nat, graph.Visits roots.reverse (forest.trees roots)
  | [] => .done
  | root :: roots => by
      have further := visits_trees (graph.children root ++ roots)
      rw [List.reverse_append] at further
      rw [trees_cons, List.reverse_cons]
      exact .round further
termination_by roots => (forest.trees roots).length
decreasing_by
  rw [trees_cons]
  exact Nat.lt_succ_self _

/-- What stands below a node is a child of it or stands below one. -/
theorem isBelow_iff {other : Nat} :
    graph.IsBelow id other ↔ ∃ child ∈ graph.children id, other = child ∨ graph.IsBelow child other := by
  have listed {child : Nat} : child ∈ graph.children id ↔
      ∃ node, graph.node? child = some node ∧ node.parent = some id :=
    mem_children_iff_of_wellFormed (isForest_iff_wellFormed.mp forest)
  constructor
  · intro below
    induction below with
    | child found isParent => exact ⟨_, listed.mpr ⟨_, found, isParent⟩, .inl rfl⟩
    | deeper found isParent _ ih =>
        obtain ⟨child, isChild, rfl | below⟩ := ih
        · exact ⟨_, isChild, .inr (.child found isParent)⟩
        · exact ⟨child, isChild, .inr (.deeper found isParent below)⟩
  · rintro ⟨child, isChild, reached⟩
    obtain ⟨node, found, isParent⟩ := listed.mp isChild
    rcases reached with rfl | below
    · exact .child found isParent
    · exact (IsBelow.child found isParent).trans below

/-- The recursion lists exactly what stands below the node. -/
theorem mem_below_iff (id : Nat) : ∀ other, other ∈ forest.below id ↔ graph.IsBelow id other := by
  induction id using forest.induction with
  | step id ih =>
      intro other
      rw [below_eq, trees, List.mem_flatMap, forest.isBelow_iff]
      apply exists_congr
      intro child
      apply and_congr_right
      intro isChild
      rw [List.mem_cons, ih child isChild]

/-- No child of a node stands below another child of it. -/
theorem not_isBelow_of_siblings {first second : Nat} (isFirst : first ∈ graph.children id)
    (isSecond : second ∈ graph.children id) : ¬graph.IsBelow first second := by
  intro below
  have before := (forest.child_bounds isFirst).1
  obtain ⟨node, found, isParent⟩ := forest.named isSecond
  cases below with
  | child same isAbove =>
      cases found.symm.trans same
      cases isParent.symm.trans isAbove
      exact Nat.lt_irrefl _ before
  | deeper same isAbove further =>
      cases found.symm.trans same
      cases isParent.symm.trans isAbove
      have after := further.lt (isForest_iff_wellFormed.mp forest)
      omega

/-- The trees under two children of a node have no node in common. -/
theorem disjoint_of_siblings {first second : Nat} (isFirst : first ∈ graph.children id)
    (isSecond : second ∈ graph.children id) (different : first ≠ second) :
    List.Disjoint (first :: forest.below first) (second :: forest.below second) := by
  have firstApart := forest.not_isBelow_of_siblings isFirst isSecond
  have secondApart := forest.not_isBelow_of_siblings isSecond isFirst
  intro other inFirst inSecond
  rw [List.mem_cons, mem_below_iff] at inFirst inSecond
  rcases inFirst with rfl | belowFirst
  · rcases inSecond with same | belowSecond
    · exact different same
    · exact secondApart belowSecond
  · rcases inSecond with rfl | belowSecond
    · exact firstApart belowFirst
    · rcases belowFirst.comparable belowSecond with same | under | under
      · exact different same
      · exact firstApart under
      · exact secondApart under

/-- The recursion lists no node twice, because siblings share none. -/
theorem nodup_below (id : Nat) : (forest.below id).Nodup := by
  induction id using forest.induction with
  | step id ih =>
      have sound := isForest_iff_wellFormed.mp forest
      rw [below_eq, trees, List.nodup_flatMap]
      constructor
      · intro child isChild
        apply List.nodup_cons.mpr
        refine ⟨fun inside => ?_, ih child isChild⟩
        exact Nat.lt_irrefl child (((forest.mem_below_iff child child).mp inside).lt sound)
      · exact (nodup_children sound id).pairwise_of_forall_ne fun first isFirst second isSecond =>
          forest.disjoint_of_siblings isFirst isSecond

/-- So it lists no more nodes than there are. -/
theorem length_below_le (id : Nat) : (forest.below id).length ≤ graph.size := by
  have within : forest.below id ⊆ List.range graph.size := by
    intro other inside
    exact List.mem_range.mpr ((forest.mem_below_iff id other).mp inside).lt_size
  have bound := ((forest.nodup_below id).subperm within).length_le
  rwa [List.length_range] at bound

/-- As many steps as there are nodes are enough for the walk. -/
theorem descendants_eq_below (id : Nat) : graph.descendants id = forest.below id := by
  have walk := forest.visits_trees (graph.children id)
  rw [← below_eq] at walk
  have same := walk.visit_eq (forest.length_below_le id)
  rwa [List.reverse_reverse] at same

end IsForest

/-- In a forest the walk ends and comes once to each node below this one, in the order of the recursion. -/
theorem walk_below_complete (forest : graph.IsForest) (id : Nat) :
    (∀ visited, graph.Visits (graph.children id).reverse visited ↔ visited = graph.descendants id) ∧
      graph.descendants id = forest.below id ∧ (graph.descendants id).Nodup ∧
        ∀ other, other ∈ graph.descendants id ↔ graph.IsBelow id other := by
  have same := forest.descendants_eq_below id
  have walk := forest.visits_trees (graph.children id)
  rw [← forest.below_eq, ← same] at walk
  refine ⟨fun visited => ⟨fun other => other.unique walk, ?_⟩, same, ?_, ?_⟩
  · rintro rfl
    exact walk
  · rw [same]
    exact forest.nodup_below id
  · rw [same]
    exact forest.mem_below_iff id

/-- A page with a header and a footer, and the title of the header, which was added last. -/
def titledPage : List (Addition Rat) :=
  [⟨none, none, "Page", .frame FrameProps.plain, 400, 300⟩,
    ⟨some 0, none, "Header", .frame FrameProps.plain, 400, 50⟩,
    ⟨some 0, none, "Footer", .vector, 400, 20⟩, ⟨some 1, none, "Title", .vector, 100, 20⟩]

theorem isForest_titledPage : (addAll titledPage).IsForest := by
  refine isForest_iff_wellFormed.mpr (wellFormed_addAll _ fun {index place addition} found isParent => ?_)
  match index with
  | 0 => cases found; cases isParent
  | 1 => cases found; cases isParent; exact Nat.zero_lt_one
  | 2 => cases found; cases isParent; exact Nat.zero_lt_two
  | 3 => cases found; cases isParent; decide

/-- The walk comes to the title before the footer, although the footer stands in front of it. -/
theorem title_before_footer :
    (addAll titledPage).IsForest ∧ (addAll titledPage).Visits [2, 1] [1, 3, 2] ∧
      isForest_titledPage.below 0 = [1, 3, 2] ∧
        ∀ other, other ∈ [1, 3, 2] ↔ (addAll titledPage).IsBelow 0 other := by
  have listed : (addAll titledPage).children 0 = [1, 2] := by decide +kernel
  have order : (addAll titledPage).descendants 0 = [1, 3, 2] := by decide +kernel
  obtain ⟨walk, same, -, below⟩ := walk_below_complete isForest_titledPage 0
  rw [listed, order] at walk
  rw [order] at same below
  exact ⟨isForest_titledPage, (walk _).mpr rfl, same.symm, below⟩

end DesignScene.SceneGraph
