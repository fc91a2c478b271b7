/-
This file shows that wrapping texts have the height of their final width after their frame was arranged.
-/
import DesignScene.Proofs.Render.Measured
import DesignScene.Proofs.Scalar.Exact
import DesignScene.Proofs.Scene.Locality
import Mathlib.Algebra.Order.Group.Abs

namespace DesignScene

open Outlines

namespace Arrange

/-- A row that is fixed across stretches the child, or a column that is fixed along lets it grow. -/
def SetsHeight (props : FrameProps Rat) (children : List (SceneNode Rat)) (child : SceneNode Rat) :
    Prop :=
  (props.layoutMode = .horizontal ∧ props.counterSizing = .fixed ∧
    child.layout.layoutAlign = .stretch) ∨
  (props.layoutMode = .vertical ∧ props.primarySizing = .fixed ∧ 0 < totalGrow children ∧
    0 < child.layout.layoutGrow)

/-- A child gets no height just when nothing sets one. -/
theorem heightFor?_eq_none_iff {props : FrameProps Rat} {frame : SceneNode Rat}
    {children : List (SceneNode Rat)} {child : SceneNode Rat} :
    heightFor? props frame children child = none ↔ ¬SetsHeight props children child := by
  rw [heightFor?, SetsHeight]
  cases mode : props.layoutMode with
  | none => simp
  | vertical => simp [mainFor?, grows, Scalar.ofNat_eq_cast]
  | horizontal => simp [crossFor?, stretches]

end Arrange

namespace Stage

open Arrange

section Reading

variable {σ : Type} {host : Host Rat σ} {node : SceneNode Rat} {text : TextProps Rat}

/-- A wrapping text is not measured otherwise exactly if it is nearly as high as it is measured. -/
theorem remeasuredHeight_eq_none_iff (isText : node.text? = some text)
    (wraps : text.autoResize = .height) : remeasuredHeight host node = none ↔
      |(host.measureText text.characters text.fontSize (some node.width)).2 - node.height| ≤
        heightTolerance := by
  rw [remeasuredHeight, isText, abs_le']
  simp only [wraps, beq_self_eq_true, if_true, neg_sub]
  split
  · next differs =>
      rw [Bool.or_eq_true, decide_eq_true_eq, decide_eq_true_eq] at differs
      simp only [reduceCtorEq, false_iff, not_and_or, not_le]
      exact differs
  · next same =>
      rw [Bool.or_eq_true, decide_eq_true_eq, decide_eq_true_eq, not_or, not_lt, not_lt] at same
      simp only [true_iff]
      exact same

/-- The tolerance is the machine epsilon of a double. -/
theorem heightTolerance_eq : (heightTolerance : Rat) = 1 / 2 ^ 52 := by decide +kernel

end Reading

section Frames

variable {σ : Type} {host : Host Rat σ} {graph : SceneGraph Rat} {id : Nat}
  {frame : SceneNode Rat} {props : FrameProps Rat}

/-- The scene with the measured heights of all children of the node, shown or not. -/
def remeasured (host : Host Rat σ) (id : Nat) (graph : SceneGraph Rat) : SceneGraph Rat :=
  (remeasure host id graph).getD graph

/-- A remeasured graph has its changed children replaced. -/
theorem remeasured_eq_putAll (graph : SceneGraph Rat) :
    remeasured host id graph = graph.putAll (changed host (graph.childNodes id)) := by
  rw [remeasured, remeasure, ← changed]
  cases changed host (graph.childNodes id) <;> rfl

/-- A child of the frame is measured. -/
theorem node?_remeasured_child (sound : WellFormed graph.outline) {child : SceneNode Rat}
    (member : child ∈ graph.childNodes id) :
    (remeasured host id graph).node? child.id = some (measured host child) := by
  rw [remeasured_eq_putAll]
  refine node?_putAll_changed host (fun _ => SceneGraph.node?_of_mem_childNodes sound) ?_ member
  rw [SceneGraph.map_id_childNodes sound]
  exact SceneGraph.nodup_children sound id

/-- Other nodes than the children stay as they are. -/
theorem node?_remeasured_of_not_mem (sound : WellFormed graph.outline) {place : Nat}
    (elsewhere : place ∉ graph.children id) :
    (remeasured host id graph).node? place = graph.node? place := by
  rw [remeasured_eq_putAll]
  apply node?_putAll_changed_of_not_mem
  rwa [SceneGraph.map_id_childNodes sound]

/-- The frame itself stays as it is. -/
theorem node?_remeasured_self (sound : WellFormed graph.outline) :
    (remeasured host id graph).node? id = graph.node? id :=
  node?_remeasured_of_not_mem sound fun listed =>
    Nat.lt_irrefl id (SceneGraph.lt_of_mem_children sound listed)

/-- The children of a remeasured frame are measured. -/
theorem childNodes_remeasured (sound : WellFormed graph.outline) :
    (remeasured host id graph).childNodes id = (graph.childNodes id).map (measured host) := by
  have sameChildren : (remeasured host id graph).children id = graph.children id := by
    rw [SceneGraph.children, SceneGraph.children, node?_remeasured_self sound]
  have foundAll : ∀ child ∈ (graph.childNodes id).map (measured host),
      (remeasured host id graph).node? child.id = some child := by
    intro other member
    obtain ⟨child, isChild, rfl⟩ := List.mem_map.mp member
    rw [id_measured]
    exact node?_remeasured_child sound isChild
  rw [SceneGraph.childNodes, sameChildren, ← SceneGraph.map_id_childNodes sound,
    ← map_id_measured host, SceneGraph.filterMap_node?_eq foundAll]

/-- The visible children of a remeasured frame are measured. -/
theorem visibleChildren_remeasured (sound : WellFormed graph.outline) :
    (remeasured host id graph).visibleChildren id =
      (graph.visibleChildren id).map (measured host) := by
  rw [SceneGraph.visibleChildren, SceneGraph.visibleChildren, childNodes_remeasured sound,
    List.filter_map]
  congr 1
  exact List.filter_congr fun child _ => visible_measured_eq host child

/-- A remeasured graph is well-formed. -/
theorem wellFormed_remeasured (host : Host Rat σ) (id : Nat) (sound : WellFormed graph.outline) :
    WellFormed (remeasured host id graph).outline := by
  rw [remeasured]
  cases changes : remeasure host id graph with
  | none => exact sound
  | some later => exact (moves_remeasure host sound changes).wellFormed sound

/-- A frame is arranged once more in any case, because that changes nothing if no height has changed. -/
theorem arrangeGraph_eq (sound : WellFormed graph.outline) (found : graph.node? id = some frame)
    (isFrame : frame.frame? = some props) :
    arrangeGraph host id graph = (remeasured host id (graph.arrange id)).arrange id := by
  rw [arrangeGraph, remeasured]
  cases remeasure host id (graph.arrange id) with
  | none => exact (SceneGraph.arrange_arrange_of_frame sound found isFrame).symm
  | some later => rfl

/-- The shown children are arranged, measured and arranged once more. -/
theorem rewrites_arrangeGraph (host : Host Rat σ) (sound : WellFormed graph.outline)
    (found : graph.node? id = some frame) (isFrame : frame.frame? = some props) :
    (remeasured host id (graph.arrange id)).Rewrites (arrangeGraph host id graph) id
        (settled host props frame (graph.visibleChildren id)).1
        (settled host props frame (graph.visibleChildren id)).2 ∧
      (arrangeGraph host id graph).visibleChildren id =
        (settled host props frame (graph.visibleChildren id)).2 := by
  have arrangedSound := (SceneGraph.moves_arrange sound id).wellFormed sound
  have measuredSound := wellFormed_remeasured host id arrangedSound
  have first := SceneGraph.rewrites_arrange sound found isFrame
  have measuredFound : (remeasured host id (graph.arrange id)).node? id =
      some (arranged props frame (graph.visibleChildren id)).1 := by
    rw [node?_remeasured_self arrangedSound, first.found]
  have stillFrame : (arranged props frame (graph.visibleChildren id)).1.frame? = some props := isFrame
  have again := SceneGraph.rewrites_arrange measuredSound measuredFound stillFrame
  have shown := SceneGraph.visibleChildren_arrange measuredSound measuredFound stillFrame
  rw [visibleChildren_remeasured arrangedSound,
    SceneGraph.visibleChildren_arrange sound found isFrame] at again shown
  rw [arrangeGraph_eq sound found isFrame]
  exact ⟨again, shown⟩

/-- Arranging a frame once more gives no other width to a child. -/
theorem forall₂_width_settled {children : List (SceneNode Rat)} :
    List.Forall₂ (fun next other : SceneNode Rat => other.id = next.id ∧ other.width = next.width)
      (arranged props frame children).2 (settled host props frame children).2 := by
  refine forall₂_trans ?_ forall₂_arranged.flip settles_settled
  rintro next child other ⟨x, y, rfl⟩ settles
  refine ⟨?_, settles.width_eq⟩
  obtain ⟨_, _, _, _, rfl⟩ := settles.same
  rfl

/-- Measuring texts keeps the children of every node. -/
theorem children_arrangeGraph (host : Host Rat σ) (sound : WellFormed graph.outline) (place : Nat) :
    (arrangeGraph host id graph).children place = (graph.arrange id).children place := by
  have moved : graph.Moves id (arrangeGraph host id graph) := moves_arrangeGraph host sound
  have sameOutline : (arrangeGraph host id graph).outline = (graph.arrange id).outline :=
    moved.outline_eq.trans (SceneGraph.moves_arrange sound id).outline_eq.symm
  rw [SceneGraph.children_eq_of_outline, sameOutline, ← SceneGraph.children_eq_of_outline]

/-- A hidden child is not among the settled ones. -/
theorem not_mem_settled_of_hidden (sound : WellFormed graph.outline)
    (found : graph.node? id = some frame) (isFrame : frame.frame? = some props)
    {child : SceneNode Rat} (isFound : (arrangeGraph host id graph).node? child.id = some child)
    (hidden : child.visible = false) :
    child.id ∉ (settled host props frame (graph.visibleChildren id)).2.map (·.id) := by
  obtain ⟨rewritten, shown⟩ := rewrites_arrangeGraph host sound found isFrame
  intro listed
  obtain ⟨other, isOther, sameId⟩ := List.mem_map.mp listed
  have otherFound := rewritten.foundAll other isOther
  rw [sameId, isFound] at otherFound
  obtain rfl := Option.some.inj otherFound
  rw [← shown] at isOther
  exact absurd (List.mem_filter.mp isOther).2 (by simp [hidden])

/-- A child that is not shown is only measured. -/
theorem exists_measured_of_hidden (sound : WellFormed graph.outline)
    (found : graph.node? id = some frame) (isFrame : frame.frame? = some props)
    {child : SceneNode Rat} (member : child ∈ (arrangeGraph host id graph).childNodes id)
    (hidden : child.visible = false) :
    ∃ next, (graph.arrange id).node? child.id = some next ∧ child = measured host next := by
  have arrangedSound := (SceneGraph.moves_arrange sound id).wellFormed sound
  have moved : graph.Moves id (arrangeGraph host id graph) := moves_arrangeGraph host sound
  have finalSound := moved.wellFormed sound
  have isChild := List.mem_map_of_mem (f := (·.id)) member
  rw [SceneGraph.map_id_childNodes finalSound, children_arrangeGraph host sound] at isChild
  obtain ⟨next, isNext⟩ := SceneGraph.exists_node_of_mem_children arrangedSound isChild
  have nextId := SceneGraph.id_eq_of_node? arrangedSound isNext
  have isMember : next ∈ (graph.arrange id).childNodes id :=
    List.mem_filterMap.mpr ⟨child.id, isChild, isNext⟩
  have isFound := SceneGraph.node?_of_mem_childNodes finalSound member
  have behind := SceneGraph.lt_of_mem_children arrangedSound isChild
  have notShown := not_mem_settled_of_hidden sound found isFrame isFound hidden
  obtain ⟨rewritten, -⟩ := rewrites_arrangeGraph host sound found isFrame
  rw [rewritten.elsewhere _ (Nat.ne_of_gt behind) notShown, ← nextId,
    node?_remeasured_child arrangedSound isMember] at isFound
  exact ⟨next, isNext, (Option.some.inj isFound).symm⟩

/-- A child whose height the frame does not set has the height that is measured at its width. -/
theorem quiet_child (sound : WellFormed graph.outline) (found : graph.node? id = some frame)
    (isFrame : frame.frame? = some props) {child : SceneNode Rat}
    (member : child ∈ (arrangeGraph host id graph).childNodes id)
    (unset : child.visible = true →
      ¬SetsHeight props ((arrangeGraph host id graph).visibleChildren id) child) :
    remeasuredHeight host child = none ∧
      ∃ next, (graph.arrange id).node? child.id = some next ∧ child.width = next.width := by
  cases isShown : child.visible with
  | true =>
      obtain ⟨-, shown⟩ := rewrites_arrangeGraph host sound found isFrame
      have isSettled : child ∈ (arrangeGraph host id graph).visibleChildren id :=
        List.mem_filter.mpr ⟨member, isShown⟩
      rw [shown] at isSettled unset
      obtain ⟨next, isNext, sameId, sameWidth⟩ :=
        exists_of_forall₂_right forall₂_width_settled isSettled
      refine ⟨quiet_settled child isSettled (heightFor?_eq_none_iff.mpr (unset isShown)), next, ?_,
        sameWidth⟩
      rw [sameId]
      exact (SceneGraph.rewrites_arrange sound found isFrame).foundAll next isNext
  | false =>
      obtain ⟨next, isNext, rfl⟩ := exists_measured_of_hidden sound found isFrame member isShown
      obtain ⟨height, same⟩ := sameButHeight_measured host next
      exact ⟨remeasuredHeight_measured next, next, isNext, by rw [same]⟩

/-- Wrapping texts whose height the frame does not set are as high as the host measures them. -/
theorem wrapping_texts_measured (context : RenderContext Rat σ) {stage : Stage Rat σ}
    (forest : stage.graph.IsForest) (found : stage.graph.node? id = some frame)
    (isFrame : frame.frame? = some props) {child : SceneNode Rat} {text : TextProps Rat}
    (member : child ∈ (stage.arrangeFrame context id).graph.childNodes id)
    (isText : child.text? = some text) (wraps : text.autoResize = .height)
    (unset : child.visible = true →
      ¬SetsHeight props ((stage.arrangeFrame context id).graph.visibleChildren id) child) :
    |(context.host.measureText text.characters text.fontSize (some child.width)).2 - child.height| ≤
        1 / 2 ^ 52 ∧
      ∃ next, (stage.graph.arrange id).node? child.id = some next ∧ child.width = next.width := by
  have sound := SceneGraph.isForest_iff_wellFormed.mp forest
  obtain ⟨quiet, sameWidth⟩ := quiet_child sound found isFrame member unset
  rw [remeasuredHeight_eq_none_iff isText wraps, heightTolerance_eq] at quiet
  exact ⟨quiet, sameWidth⟩

end Frames

section Rows

open SceneGraph

def letters : TextProps Rat where
  characters := "abcdefghijklmnopqrst"
  fonts := []
  fontSize := 16
  textAlign := .left
  autoResize := .height
  fills := []
  fillStyleId := none
  textStyleId := none

/-- A row with an icon and a text that fills what is left of the width. -/
def letteredRow : List (Addition Rat) :=
  [⟨none, none, "Row", .frame { FrameProps.plain with
      layoutMode := .horizontal
      counterSizing := .auto }, 200, 0⟩,
    ⟨some 0, none, "Icon", .vector, 100, 20⟩,
    ⟨some 0, none, "Letters", .text letters, 160, 20⟩]

def letteredGraph : SceneGraph Rat :=
  (addAll letteredRow).update 2 fun node =>
    { node with layout := { node.layout with layoutGrow := 1 } }

theorem isForest_letteredGraph : letteredGraph.IsForest := by
  have forest : (addAll letteredRow).IsForest := isForest_of_family rfl (by simp)
  have kept : SceneGraph.Keeps 0 (addAll letteredRow) letteredGraph :=
    keeps_update (Nat.zero_le 2) fun _ _ => rfl
  exact isForest_iff_wellFormed.mpr (kept.wellFormed (isForest_iff_wellFormed.mp forest))

def letteredStage : Stage Rat Unit :=
  { (start () : Stage Rat Unit) with graph := letteredGraph }

/-- The text is measured in two lines at the width that the row leaves it. -/
theorem lettered_row_measured :
    ∃ child ∈ (letteredStage.arrangeFrame plainContext 0).graph.childNodes 0,
      ∃ text, child.text? = some text ∧ (child.width, child.height) = (100, 192 / 5) ∧
        |(plainContext.host.measureText text.characters text.fontSize (some child.width)).2 -
          child.height| ≤ 1 / 2 ^ 52 ∧
        ∃ next, (letteredGraph.arrange 0).node? child.id = some next ∧ child.width = next.width := by
  obtain ⟨frame, props, found, isFrame, row, hugs⟩ : ∃ frame props,
      letteredStage.graph.node? 0 = some frame ∧ frame.frame? = some props ∧
        props.layoutMode = .horizontal ∧ props.counterSizing = .auto := ⟨_, _, rfl, rfl, rfl, rfl⟩
  have unset : ∀ {children : List (SceneNode Rat)} {child : SceneNode Rat},
      ¬SetsHeight props children child := by
    rintro children child (⟨-, fixed, -⟩ | ⟨column, -⟩)
    · exact absurd (hugs.symm.trans fixed) (by decide)
    · exact absurd (row.symm.trans column) (by decide)
  have computed : ((letteredStage.arrangeFrame plainContext 0).graph.childNodes 0)[1]?.bind
      (fun child => child.text?.map fun text => (text.autoResize, child.width, child.height)) =
        some (.height, 100, 192 / 5) := by decide +kernel
  obtain ⟨child, listed, mapped⟩ := Option.bind_eq_some_iff.mp computed
  obtain ⟨text, isText, same⟩ := Option.map_eq_some_iff.mp mapped
  obtain ⟨wraps, size⟩ := Prod.mk.inj same
  have member := List.mem_of_getElem? listed
  exact ⟨child, member, text, isText, size,
    wrapping_texts_measured plainContext isForest_letteredGraph found isFrame member isText wraps
      fun _ => unset⟩

end Rows

end Stage

end DesignScene
