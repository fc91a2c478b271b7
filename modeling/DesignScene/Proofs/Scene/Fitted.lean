/-
This file says when arranging a frame leaves the scene as it is.
-/
import DesignScene.Proofs.Scene.Rearrange

namespace DesignScene

open Outlines Scalar

namespace Arrange

/-- The frame and its children have the sizes and places that arranging gives to them. -/
structure Fitted {α : Type} [Scalar α] (props : FrameProps α) (frame : SceneNode α)
    (children : List (SceneNode α)) : Prop where
  width_eq : ∀ width ∈ hugWidth? props frame children,
    frame.width = frame.constraints.clampWidth width
  height_eq : ∀ height ∈ hugHeight? props frame children,
    frame.height = frame.constraints.clampHeight height
  widths_eq : ∀ child ∈ children, ∀ width ∈ widthFor? props frame children child,
    child.width = child.constraints.clampWidth width
  heights_eq : ∀ child ∈ children, ∀ height ∈ heightFor? props frame children child,
    child.height = child.constraints.clampHeight height
  placed_eq : props.layoutMode.isAutoLayout = true → placed props frame children = children

section Fitting

variable {α : Type} [Scalar α] {props : FrameProps α} {frame : SceneNode α}
  {children : List (SceneNode α)}

theorem elim_eq_self_iff {β : Type} {given : Option β} {size : β} {clamp : β → β} :
    given.elim size clamp = size ↔ ∀ value ∈ given, size = clamp value := by
  cases given with
  | none => simp
  | some value => simp [eq_comm]

/-- A frame stays as it is exactly if it has the sizes that it needs. -/
theorem hugged_eq_self_iff : hugged props frame children = frame ↔
    (∀ width ∈ hugWidth? props frame children, frame.width = frame.constraints.clampWidth width) ∧
      ∀ height ∈ hugHeight? props frame children,
        frame.height = frame.constraints.clampHeight height := by
  rw [← elim_eq_self_iff, ← elim_eq_self_iff]
  constructor
  · intro same
    exact ⟨congrArg SceneNode.width same, congrArg SceneNode.height same⟩
  · rintro ⟨sameWidth, sameHeight⟩
    rw [hugged, sameWidth, sameHeight]

/-- A child stays as it is exactly if it has the sizes that it is given. -/
theorem fit_eq_self_iff {child : SceneNode α} : fit props frame children child = child ↔
    (∀ width ∈ widthFor? props frame children child,
      child.width = child.constraints.clampWidth width) ∧
      ∀ height ∈ heightFor? props frame children child,
        child.height = child.constraints.clampHeight height := by
  rw [← elim_eq_self_iff, ← elim_eq_self_iff]
  constructor
  · intro same
    exact ⟨congrArg SceneNode.width same, congrArg SceneNode.height same⟩
  · rintro ⟨sameWidth, sameHeight⟩
    rw [fit, sameWidth, sameHeight]

/-- All children stay exactly if each one does. -/
theorem map_fit_eq_self_iff : children.map (fit props frame children) = children ↔
    ∀ child ∈ children, (∀ width ∈ widthFor? props frame children child,
      child.width = child.constraints.clampWidth width) ∧
      ∀ height ∈ heightFor? props frame children child,
        child.height = child.constraints.clampHeight height := by
  conv => lhs; rhs; rw [← List.map_id children]
  rw [List.map_inj_left]
  simp only [id, fit_eq_self_iff]

/-- Children that stay where they are have the sizes that the frame gives to them. -/
theorem map_fit_eq_of_placed
    (same : placed props frame (children.map (fit props frame children)) = children) :
    children.map (fit props frame children) = children := by
  have moved : List.Forall₂ _ _ (placed props frame (children.map (fit props frame children))) :=
    forall₂_placed _
  rw [same, List.forall₂_map_left_iff, List.forall₂_same] at moved
  rw [map_fit_eq_self_iff]
  intro child member
  obtain ⟨x, y, placed⟩ := moved child member
  rw [← elim_eq_self_iff, ← elim_eq_self_iff]
  exact ⟨(congrArg SceneNode.width placed).symm, (congrArg SceneNode.height placed).symm⟩

/-- Arranging leaves exactly what fits already. -/
theorem arranged_eq_self_iff :
    arranged props frame children = (frame, children) ↔ Fitted props frame children := by
  have parts : Fitted props frame children ↔ hugged props frame children = frame ∧
      children.map (fit props frame children) = children ∧
        (props.layoutMode.isAutoLayout = true → placed props frame children = children) := by
    rw [map_fit_eq_self_iff, hugged_eq_self_iff]
    constructor
    · intro fitted
      exact ⟨⟨fitted.width_eq, fitted.height_eq⟩,
        fun child member => ⟨fitted.widths_eq child member, fitted.heights_eq child member⟩,
        fitted.placed_eq⟩
    · rintro ⟨⟨width_eq, height_eq⟩, sizes_eq, placed_eq⟩
      exact ⟨width_eq, height_eq, fun child member => (sizes_eq child member).1,
        fun child member => (sizes_eq child member).2, placed_eq⟩
  rw [parts, arranged, Prod.mk.injEq]
  refine and_congr_right fun sameFrame => ?_
  rw [sameFrame]
  split
  · next isAuto =>
      constructor
      · intro same
        have fits := map_fit_eq_of_placed same
        rw [fits] at same
        exact ⟨fits, fun _ => same⟩
      · rintro ⟨fits, places⟩
        rw [fits]
        exact places isAuto
  · next noLayout =>
      have isNone : props.layoutMode = .none := by
        simpa [LayoutMode.isAutoLayout] using noLayout
      have unfitted : fit props frame children = id := by
        funext child
        simp only [fit, widthFor?, heightFor?, isNone, Option.elim_none, id]
      simp [unfitted, noLayout]

end Fitting

end Arrange

namespace SceneGraph

variable {α : Type} {graph next later : SceneGraph α} {id : Nat} {frame first : SceneNode α}
  {children others : List (SceneNode α)}

/-- Two turns of one family are one. -/
theorem Turns.trans (turned : graph.Turns next id frame children)
    (again : next.Turns later id first others)
    (named : others.map (·.id) = children.map (·.id)) : graph.Turns later id first others where
  family := again.family
  elsewhere other notFrame notChild := by
    rw [again.elsewhere other notFrame notChild]
    exact turned.elsewhere other notFrame (named ▸ notChild)

/-- Nothing has changed if the family is still the same. -/
theorem Turns.eq_iff (sound : WellFormed graph.outline) (laterSound : WellFormed later.outline)
    (family : graph.Family id frame children) (turned : graph.Turns later id first others) :
    later = graph ↔ (first, others) = (frame, children) := by
  constructor
  · rintro rfl
    have sameFrame := turned.family.found.symm.trans family.found
    have sameChildren := turned.family.childNodes_eq.symm.trans family.childNodes_eq
    rw [Option.some.inj sameFrame, sameChildren]
  · intro same
    obtain ⟨rfl, rfl⟩ := Prod.mk.inj same
    apply ext_node?
    intro other
    by_cases isFrame : other = id
    · rw [isFrame, turned.family.found, family.found]
    · by_cases isChild : other ∈ others.map (·.id)
      · obtain ⟨child, member, rfl⟩ := List.mem_map.mp isChild
        rw [turned.family.node?_child laterSound member, family.node?_child sound member]
      · exact turned.elsewhere other isFrame isChild

/-- Nodes that are put back as they are change nothing. -/
theorem putAll_self {nodes : List (SceneNode α)}
    (found : ∀ node ∈ nodes, graph.node? node.id = some node) : graph.putAll nodes = graph := by
  rw [putAll]
  induction nodes with
  | nil => rfl
  | cons node more ih =>
      have same : graph.put node = graph := by
        apply ext_node?
        intro id
        by_cases here : node.id = id
        · rw [← here, node?_put_self (found node List.mem_cons_self), found node List.mem_cons_self]
        · exact node?_put_of_ne here
      rw [List.foldl_cons, same]
      exact ih fun other member => found other (List.mem_cons_of_mem _ member)

variable [Scalar α] {props : FrameProps α}

/-- Arranging writes what it makes of a frame and of its shown children. -/
theorem rewrites_arrange (sound : WellFormed graph.outline) (found : graph.node? id = some frame)
    (isFrame : frame.frame? = some props) :
    graph.Rewrites (graph.arrange id) id
      (Arrange.arranged props frame (graph.visibleChildren id)).1
      (Arrange.arranged props frame (graph.visibleChildren id)).2 := by
  have named : (Arrange.hugged props frame (graph.visibleChildren id)).id = frame.id := rfl
  have rewritten : graph.Rewrites _ id _
      (Arrange.arranged props frame (graph.visibleChildren id)).2 :=
    rewrites_putAll sound found named Arrange.map_id_arranged
  rw [arrange, found]
  simp only [isFrame]
  split
  · next isAuto =>
      rw [Arrange.auto_eq_arranged isAuto]
      exact rewritten
  · next noLayout =>
      have isNone : props.layoutMode = .none := by
        simpa [LayoutMode.isAutoLayout] using noLayout
      have unplaced : (Arrange.arranged props frame (graph.visibleChildren id)).2 =
          graph.visibleChildren id := by
        rw [Arrange.arranged, if_neg noLayout]
      rw [unplaced] at rewritten
      have same : (graph.put (Arrange.hugged props frame (graph.visibleChildren id))).putAll
          (graph.visibleChildren id) =
            graph.put (Arrange.hugged props frame (graph.visibleChildren id)) := by
        apply putAll_self
        intro child member
        have behind := lt_of_mem_visibleChildren sound member
        rw [node?_put_of_ne, node?_of_mem_visibleChildren sound member]
        rw [named, id_eq_of_node? sound found]
        omega
      rw [Arrange.fitAround_eq_hugged isNone, unplaced, ← same]
      exact rewritten

/-- Arranging a frame turns its family into what arranging makes of it. -/
theorem Family.turns_arrange (sound : WellFormed graph.outline)
    (family : graph.Family id frame children) (isFrame : frame.frame? = some props) :
    graph.Turns (graph.arrange id) id (Arrange.arranged props frame children).1
      (Arrange.arranged props frame children).2 := by
  have rewritten := rewrites_arrange sound family.found isFrame
  rw [family.visibleChildren_eq] at rewritten
  exact rewritten.turns sound family rfl Arrange.map_id_arranged
    (Arrange.visible_arranged family.visible)

end SceneGraph

end DesignScene
