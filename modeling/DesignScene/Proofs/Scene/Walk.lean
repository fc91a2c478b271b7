/-
This file shows that a walk below the root of a tree visits all other nodes of the tree in their order.
-/
import DesignScene.Proofs.Scene.Sketch

namespace DesignScene.SceneGraph

variable {α : Type} {graph later : SceneGraph α}

@[simp] theorem visit_nil (graph : SceneGraph α) (steps : Nat) : graph.visit steps [] = [] := by
  cases steps <;> rfl

/-- Nothing but the children of the nodes decides where a walk goes. -/
theorem visit_congr (same : ∀ id, later.children id = graph.children id) (steps : Nat)
    (stack : List Nat) : later.visit steps stack = graph.visit steps stack := by
  induction steps generalizing stack with
  | zero => rfl
  | succ steps ih =>
      cases stack with
      | nil => rfl
      | cons next stack => rw [visit, visit, same, ih]

theorem children_eq_of_outline (graph : SceneGraph α) (id : Nat) :
    graph.children id = (graph.outline[id]?).elim [] (·.children) := by
  rw [children, getElem?_outline]
  cases graph.node? id <;> rfl

/-- The walk depends on the outline only. -/
theorem descendants_congr (same : later.outline = graph.outline) (id : Nat) :
    later.descendants id = graph.descendants id := by
  have sameChildren (place : Nat) : later.children place = graph.children place := by
    rw [children_eq_of_outline, children_eq_of_outline, same]
  rw [descendants, descendants, visit_congr sameChildren, sameChildren, ← length_outline, same,
    length_outline]

/-- The children of a root are the roots below it, whose trees stand right behind it. -/
theorem children_of_outlines {parent : Option Nat} {form : NodeForm} {children : List Sketch}
    {start : Nat} {front behind : List NodeOutline} (place : front.length = start)
    (split : graph.outline =
      front ++ ((Sketch.node form children).outlines parent start ++ behind)) :
    graph.children start = Sketch.starts (start + 1) children ∧
      graph.outline = front ++ [⟨start, parent, Sketch.starts (start + 1) children, form⟩] ++
        (Sketch.outlinesAll (some start) (start + 1) children ++ behind) := by
  rw [Sketch.outlines] at split
  refine ⟨?_, by rw [split]; simp⟩
  rw [children_eq_of_outline, split, ← place]
  simp

mutual

/-- A walk from the root of a tree goes on with the stack after the last node of the tree. -/
theorem visit_outlines {parent : Option Nat} (stack : List Nat) : ∀ (sketch : Sketch) (steps : Nat)
    {start : Nat} {front behind : List NodeOutline}, front.length = start →
      graph.outline = front ++ (sketch.outlines parent start ++ behind) → sketch.size ≤ steps →
        graph.visit steps (start :: stack) =
          List.range' start sketch.size ++ graph.visit (steps - sketch.size) stack
  | .node form children, steps, start, front, behind, place, split, enough => by
      rw [Sketch.size] at enough ⊢
      obtain ⟨rest, rfl⟩ := Nat.exists_eq_add_of_le' (Nat.le_of_add_left_le enough)
      obtain ⟨inner, inside⟩ := children_of_outlines place split
      have below := visit_outlinesAll stack children rest (by simp [place]) inside (by omega)
      rw [visit, inner, below, List.range'_succ, List.cons_append, Nat.add_sub_add_right]

/-- The walk takes trees that stand side by side from the stack in their order. -/
theorem visit_outlinesAll {parent : Option Nat} (stack : List Nat) : ∀ (sketches : List Sketch)
    (steps : Nat) {start : Nat} {front behind : List NodeOutline}, front.length = start →
      graph.outline = front ++ (Sketch.outlinesAll parent start sketches ++ behind) →
        Sketch.sizeAll sketches ≤ steps →
          graph.visit steps (Sketch.starts start sketches ++ stack) =
            List.range' start (Sketch.sizeAll sketches) ++
              graph.visit (steps - Sketch.sizeAll sketches) stack
  | [], _, _, _, _, _, _, _ => rfl
  | first :: more, steps, start, front, behind, place, split, enough => by
      rw [Sketch.sizeAll] at enough ⊢
      rw [Sketch.outlinesAll, List.append_assoc] at split
      have whole := visit_outlines (Sketch.starts (start + first.size) more ++ stack) first steps
        place split (Nat.le_of_add_right_le enough)
      rw [← List.append_assoc] at split
      have others := visit_outlinesAll stack more (steps - first.size)
        (by rw [List.length_append, Sketch.length_outlines, place]) split (by omega)
      rw [Sketch.starts, List.cons_append, whole, others, ← List.append_assoc,
        List.range'_append_1, Nat.sub_sub]

end

/-- The nodes below the root of a tree are the other nodes of the tree. -/
theorem descendants_of_outlines {parent : Option Nat} {form : NodeForm} {children : List Sketch}
    {start : Nat} {front behind : List NodeOutline} (place : front.length = start)
    (split : graph.outline =
      front ++ ((Sketch.node form children).outlines parent start ++ behind)) :
    graph.descendants start = List.range' (start + 1) (Sketch.sizeAll children) := by
  obtain ⟨inner, inside⟩ := children_of_outlines place split
  have enough : Sketch.sizeAll children ≤ graph.size := by
    rw [← length_outline, inside]
    simp only [List.length_append, Sketch.length_outlinesAll]
    omega
  have walk := visit_outlinesAll [] children graph.size (by simp [place]) inside enough
  rwa [List.append_nil, visit_nil, List.append_nil, ← inner] at walk

end DesignScene.SceneGraph
