/-
This file shows that every scene is a forest, to which the rendering of an item adds one tree, and that a
scene that is compiled is a single tree whose nodes stand in the order of a walk through it.
-/
import DesignScene.Proofs.Render.Depiction
import DesignScene.Proofs.Render.Texts
import Mathlib.Data.List.Induction
import Mathlib.Data.List.Nodup

namespace DesignScene

open Outlines

namespace SceneGraph

variable {α : Type}

/-- Every node names its own place, stands behind its parent, and is listed once, by its parent only. -/
structure IsForest (graph : SceneGraph α) : Prop where
  id_eq : ∀ {id : Nat} {node : SceneNode α}, graph.node? id = some node → node.id = id
  parent_lt : ∀ {id above : Nat} {node : SceneNode α}, graph.node? id = some node →
    node.parent = some above → above < id
  listed : ∀ {id above : Nat} {node : SceneNode α}, graph.node? id = some node →
    node.parent = some above →
      (graph.nodes.toList.flatMap (·.children)).count id = 1 ∧ id ∈ graph.children above
  named : ∀ {id child : Nat}, child ∈ graph.children id →
    ∃ node, graph.node? child = some node ∧ node.parent = some id
  ordered : ∀ id : Nat, (graph.children id).Pairwise (· < ·)

section Forests

variable {graph : SceneGraph α}

/-- The children of a node are the nodes that name it as their parent. -/
theorem mem_children_iff_of_wellFormed (sound : WellFormed graph.outline) {id child : Nat} :
    child ∈ graph.children id ↔ ∃ node, graph.node? child = some node ∧ node.parent = some id := by
  have named : (∃ inside : NodeOutline, graph.outline[child]? = some inside ∧
      inside.parent = some id) ↔ ∃ node, graph.node? child = some node ∧ node.parent = some id := by
    simp only [getElem?_outline, Option.map_eq_some_iff]
    constructor
    · rintro ⟨_, ⟨node, found, rfl⟩, above⟩
      exact ⟨node, found, above⟩
    · rintro ⟨node, found, above⟩
      exact ⟨_, ⟨node, found, rfl⟩, above⟩
  rw [children_eq_of_outline, ← named]
  cases atPlace : graph.outline[id]? with
  | some outline => exact sound.mem_children_iff atPlace
  | none =>
      refine iff_of_false List.not_mem_nil ?_
      rintro ⟨inside, atChild, above⟩
      have before := sound.parent_lt atChild above
      have within := (List.getElem?_eq_some_iff.mp atChild).1
      have absent := List.getElem?_eq_none_iff.mp atPlace
      omega

/-- No node is listed twice, be it by one node or by two. -/
theorem nodup_flatMap_children (sound : WellFormed graph.outline) :
    (graph.nodes.toList.flatMap (·.children)).Nodup := by
  have same : graph.nodes.toList.flatMap (·.children) = graph.outline.flatMap (·.children) := by
    rw [outline, List.flatMap_map]
    rfl
  rw [same, List.nodup_flatMap]
  constructor
  · intro outline member
    obtain ⟨id, found⟩ := List.mem_iff_getElem?.mp member
    exact (sound.children_ordered found).imp Nat.ne_of_lt
  · rw [List.pairwise_iff_getElem]
    intro first second firstWithin secondWithin before child inFirst inSecond
    obtain ⟨one, atOne, isFirst⟩ :=
      (sound.mem_children_iff (List.getElem?_eq_getElem firstWithin)).mp inFirst
    obtain ⟨other, atOther, isSecond⟩ :=
      (sound.mem_children_iff (List.getElem?_eq_getElem secondWithin)).mp inSecond
    rw [atOne, Option.some.injEq] at atOther
    rw [← atOther, isFirst, Option.some.injEq] at isSecond
    omega

/-- A forest is what the outline of a scene has to be. -/
theorem isForest_iff_wellFormed : graph.IsForest ↔ WellFormed graph.outline := by
  constructor
  · intro forest
    have found {id : Nat} {outline : NodeOutline} (atPlace : graph.outline[id]? = some outline) :
        ∃ node, graph.node? id = some node ∧ node.outline = outline := by
      rwa [getElem?_outline, Option.map_eq_some_iff] at atPlace
    have childrenOf {id : Nat} {node : SceneNode α} (isNode : graph.node? id = some node) :
        graph.children id = node.outline.children := by
      rw [children, isNode]
      rfl
    refine ⟨fun atPlace => ?_, fun atPlace above => ?_, fun {id child} outline atPlace => ?_,
      fun atPlace => ?_⟩
    · obtain ⟨node, isNode, rfl⟩ := found atPlace
      exact forest.id_eq isNode
    · obtain ⟨node, isNode, rfl⟩ := found atPlace
      exact forest.parent_lt isNode above
    · obtain ⟨node, isNode, rfl⟩ := found atPlace
      rw [← childrenOf isNode]
      constructor
      · intro member
        obtain ⟨inside, isInside, above⟩ := forest.named member
        exact ⟨_, outline_of_node? isInside, above⟩
      · rintro ⟨_, atChild, above⟩
        obtain ⟨inside, isInside, rfl⟩ := found atChild
        exact (forest.listed isInside above).2
    · obtain ⟨node, isNode, rfl⟩ := found atPlace
      rw [← childrenOf isNode]
      exact forest.ordered _
  · intro sound
    refine ⟨id_eq_of_node? sound, fun isNode above => sound.parent_lt (outline_of_node? isNode) above,
      fun {id above node} isNode isAbove => ?_, (mem_children_iff_of_wellFormed sound).mp,
      fun id => ?_⟩
    · have member := (mem_children_iff_of_wellFormed sound).mpr ⟨node, isNode, isAbove⟩
      refine ⟨List.count_eq_one_of_mem (nodup_flatMap_children sound) ?_, member⟩
      cases isParent : graph.node? above with
      | none => simp [children, isParent] at member
      | some parent =>
          rw [children, isParent] at member
          refine List.mem_flatMap.mpr ⟨parent, ?_, member⟩
          exact Array.mem_toList_iff.mpr (Array.mem_of_getElem? isParent)
    · rw [children_eq_of_outline]
      cases atPlace : graph.outline[id]? with
      | none => exact List.Pairwise.nil
      | some outline => exact sound.children_ordered atPlace

end Forests

/-- What a node is added with. -/
structure Addition (α : Type) where
  parent : Option Nat
  hostId : Option String
  name : String
  kind : NodeKind α
  width : α
  height : α

section Building

variable [Scalar α]

/-- The scene to which nodes are added one after the other. -/
def addAll (additions : List (Addition α)) : SceneGraph α :=
  additions.foldl (fun graph addition => graph.add addition.parent addition.hostId addition.name
    addition.kind addition.width addition.height) {}

/-- The last addition is made to the graph of the earlier ones. -/
@[simp] theorem addAll_append_singleton (additions : List (Addition α)) (last : Addition α) :
    addAll (additions ++ [last]) = (addAll additions).add last.parent last.hostId last.name last.kind
      last.width last.height := by
  rw [addAll, List.foldl_append]
  rfl

/-- Every addition adds one node. -/
theorem size_addAll (additions : List (Addition α)) :
    (addAll additions).size = additions.length := by
  induction additions using List.reverseRecOn with
  | nil => rfl
  | append_singleton additions last ih => simp [size_add, ih]

/-- Nodes that are added below nodes that are there make a well formed scene. -/
theorem wellFormed_addAll (additions : List (Addition α))
    (present : ∀ {index place : Nat} {addition : Addition α}, additions[index]? = some addition →
      addition.parent = some place → place < index) : WellFormed (addAll additions).outline := by
  induction additions using List.reverseRecOn with
  | nil => exact .nil
  | append_singleton additions last ih =>
      have sound : WellFormed (addAll additions).outline := by
        refine ih fun found isParent => present ?_ isParent
        rwa [List.getElem?_append_left (List.getElem?_eq_some_iff.mp found).1]
      have held : HasParent (addAll additions).outline last.parent := by
        intro place isParent
        rw [length_outline, size_addAll]
        exact present (List.getElem?_concat_length ..) isParent
      rw [addAll_append_singleton, outline_add held]
      exact sound.extend held last.kind.form

end Building

mutual

/-- The nodes of the tree below a node, each one before the trees of its children. -/
inductive Preorder (graph : SceneGraph α) : Nat → List Nat → Prop where
  | node {id : Nat} {node : SceneNode α} {below : List Nat} (found : graph.node? id = some node)
      (inside : PreorderAll graph node.children below) : Preorder graph id (id :: below)

inductive PreorderAll (graph : SceneGraph α) : List Nat → List Nat → Prop where
  | nil : PreorderAll graph [] []
  | cons {id : Nat} {more order orders : List Nat} (first : Preorder graph id order)
      (rest : PreorderAll graph more orders) : PreorderAll graph (id :: more) (order ++ orders)

end

/-- The first node is the only root, and all others stand below it in the order of a walk. -/
structure IsTree (graph : SceneGraph α) : Prop where
  forest : graph.IsForest
  roots_eq : graph.roots = [0]
  preorder : graph.Preorder 0 (List.range graph.size)
  descendants_eq : graph.descendants 0 = List.range' 1 (graph.size - 1)

section Trees

variable {graph : SceneGraph α}

mutual

/-- The places of a tree are in the order of a walk. -/
theorem preorder_outlines {parent : Option Nat} : ∀ (sketch : Sketch) {start : Nat}
    {front behind : List NodeOutline}, front.length = start →
      graph.outline = front ++ (sketch.outlines parent start ++ behind) →
        graph.Preorder start (List.range' start sketch.size)
  | .node form children, start, front, behind, place, split => by
      obtain ⟨inner, inside⟩ := children_of_outlines place split
      rw [Sketch.outlines, List.cons_append] at split
      obtain ⟨node, found, -⟩ := exists_node_of_outline_eq place split
      have listed : node.children = Sketch.starts (start + 1) children := by
        rw [← inner, SceneGraph.children, found]
        rfl
      have below := preorder_outlinesAll children (by simp [place]) inside
      rw [Sketch.size, List.range'_succ]
      exact .node found (listed ▸ below)

/-- The outlines of sketches, laid out in a row, are in preorder. -/
theorem preorder_outlinesAll {parent : Option Nat} : ∀ (sketches : List Sketch) {start : Nat}
    {front behind : List NodeOutline}, front.length = start →
      graph.outline = front ++ (Sketch.outlinesAll parent start sketches ++ behind) →
        graph.PreorderAll (Sketch.starts start sketches)
          (List.range' start (Sketch.sizeAll sketches))
  | [], _, _, _, _, _ => .nil
  | first :: more, start, front, behind, place, split => by
      rw [Sketch.outlinesAll, List.append_assoc] at split
      have whole := preorder_outlines first place split
      rw [← List.append_assoc] at split
      have others := preorder_outlinesAll more
        (by rw [List.length_append, Sketch.length_outlines, place]) split
      rw [Sketch.sizeAll, ← List.range'_append_1, Sketch.starts]
      exact .cons whole others

end

/-- Only the root of a tree has no parent. -/
theorem roots_of_outlines {sketch : Sketch} (planned : graph.outline = sketch.outlines none 0) :
    graph.roots = [0] := by
  have same : graph.roots = (graph.outline.filter (·.parent.isNone)).map (·.id) := by
    rw [roots, outline, List.filter_map, List.map_map]
    rfl
  obtain ⟨form, children⟩ := sketch
  have noRoot : ∀ outline ∈ Sketch.outlinesAll (some 0) 1 children,
      ¬outline.parent.isNone = true := by
    intro outline member
    rcases Sketch.parent_of_mem_outlinesAll children member with isRoot | ⟨above, isAbove, -⟩
    · simp [isRoot]
    · simp [isAbove]
  rw [same, planned, Sketch.outlines, List.filter_cons_of_pos rfl, List.filter_eq_nil_iff.mpr noRoot]
  rfl

/-- A scene that is planned as one tree is one. -/
theorem isTree_of_outlines {sketch : Sketch} (planned : graph.outline = sketch.outlines none 0) :
    graph.IsTree where
  forest := by
    have grown : sketch.outlines none 0 = Sketch.grow none [sketch] [] := by
      simp [Sketch.grow, Sketch.outlinesAll, adopt]
    have held : HasParent [] none := by
      intro place same
      cases same
    rw [isForest_iff_wellFormed, planned, grown]
    exact Sketch.wellFormed_grow .nil held [sketch]
  roots_eq := roots_of_outlines planned
  preorder := by
    have split : graph.outline = [] ++ (sketch.outlines none 0 ++ []) := by simp [planned]
    have size : graph.size = sketch.size := by
      rw [← length_outline, planned, Sketch.length_outlines]
    rw [List.range_eq_range', size]
    exact preorder_outlines sketch List.length_nil split
  descendants_eq := by
    have split : graph.outline = [] ++ (sketch.outlines none 0 ++ []) := by simp [planned]
    obtain ⟨form, children⟩ := sketch
    have size : graph.size = Sketch.sizeAll children + 1 := by
      rw [← length_outline, planned, Sketch.length_outlines, Sketch.size]
    rw [descendants_of_outlines List.length_nil split, size]
    rfl

end Trees

end SceneGraph

namespace Scene

variable {α σ : Type} [Scalar α]

/-- The error scene is a single frame. -/
theorem outline_fallback (config : RenderConfig α) (error : RenderError) :
    (fallback config error).graph.outline = (Sketch.node .frame []).outlines none 0 := by
  have kept : SceneGraph.Keeps 0
      (SceneGraph.add {} none none "Error Frame" errorFrame config.fallbackFrameWidth
        config.fallbackFrameHeight) (fallback config error).graph := by
    apply SceneGraph.keeps_update (Nat.le_refl 0)
    exact fun _ _ => rfl
  rw [kept.outline_eq]
  rfl

/-- Every text becomes one tree, be it that of a document or the error frame. -/
theorem exists_sketch_ofText (context : RenderContext α σ) (text : String)
    (cursor : CanvasCursor α) (hostState : σ) :
    ∃ sketch : Sketch,
      (ofText context text cursor hostState).1.1.graph.outline = sketch.outlines none 0 := by
  rw [ofText]
  cases readDocument (α := α) context.registry text with
  | ok document =>
      obtain ⟨sketch, -, planned, -⟩ := exists_sketch_ofDocument context document hostState
      refine ⟨sketch, ?_⟩
      simp only [outline_placeRoot, planned]
      simp [Sketch.grow, Sketch.outlinesAll, adopt]
  | error error => exact ⟨_, (outline_placeRoot _ cursor _).trans (outline_fallback _ error)⟩

/-- The root of a compiled scene is its first node. -/
theorem root_ofText (context : RenderContext α σ) (text : String) (cursor : CanvasCursor α)
    (hostState : σ) : (ofText context text cursor hostState).1.1.root = 0 := by
  rw [ofText]
  cases readDocument (α := α) context.registry text <;> rfl

/-- Nodes that are added make a forest, and every compiled scene is one tree below its first node. -/
theorem isForest_addAll_and_isTree_ofText :
    (∀ additions : List (SceneGraph.Addition α),
      (∀ (index place : Nat) (addition : SceneGraph.Addition α),
        additions[index]? = some addition → addition.parent = some place → place < index) →
          (SceneGraph.addAll additions).IsForest) ∧
      ∀ (context : RenderContext α σ) (text : String) (cursor : CanvasCursor α) (hostState : σ),
        (ofText context text cursor hostState).1.1.root = 0 ∧
          (ofText context text cursor hostState).1.1.graph.IsTree := by
  refine ⟨fun additions present => ?_, fun context text cursor hostState => ⟨?_, ?_⟩⟩
  · exact SceneGraph.isForest_iff_wellFormed.mpr
      (SceneGraph.wellFormed_addAll additions fun {index place addition} => present index place addition)
  · exact root_ofText context text cursor hostState
  · obtain ⟨sketch, planned⟩ := exists_sketch_ofText context text cursor hostState
    exact SceneGraph.isTree_of_outlines planned

/-- A frame and another one below it. -/
def frameAndChild : List (SceneGraph.Addition Rat) :=
  [⟨none, none, "Screen", .frame FrameProps.plain, 400, 300⟩,
    ⟨some 0, none, "Header", .frame FrameProps.plain, 400, 50⟩]

theorem isForest_frame_and_child :
    (∀ (index place : Nat) (addition : SceneGraph.Addition Rat),
      frameAndChild[index]? = some addition → addition.parent = some place → place < index) ∧
      (SceneGraph.addAll frameAndChild).IsForest := by
  have present : ∀ (index place : Nat) (addition : SceneGraph.Addition Rat),
      frameAndChild[index]? = some addition → addition.parent = some place → place < index := by
    intro index place addition found isParent
    match index, found with
    | 0, rfl => cases isParent
    | 1, rfl =>
        cases isParent
        exact Nat.zero_lt_one
  exact ⟨present, (isForest_addAll_and_isTree_ofText (σ := Unit)).1 frameAndChild present⟩

end Scene

namespace Stage

variable {α σ : Type}

/-- The scene has new nodes behind the earlier ones, the first of them as one more child of the parent. -/
structure AddsChild (parent : Nat) (stage later : Stage α σ) : Prop where
  lt_size : stage.graph.size < later.graph.size
  node?_parent : later.graph.node? parent = (stage.graph.node? parent).map fun node =>
    { node with children := node.children ++ [stage.graph.size] }
  node?_of_ne : ∀ id, id < stage.graph.size → id ≠ parent →
    later.graph.node? id = stage.graph.node? id
  report : stage.report.Extends later.report
  isForest : later.graph.IsForest

/-- Rendering an item, whatever stands in it and whatever fails, only adds one child to its frame. -/
theorem addsChild_renderItem [Scalar α] (context : RenderContext α σ) (item : LayoutItem α)
    (path : String) {parent : Nat} {stage : Stage α σ} (forest : stage.graph.IsForest)
    (within : parent < stage.graph.size) :
    AddsChild parent stage (renderItem context parent path item stage) := by
  have sound := SceneGraph.isForest_iff_wellFormed.mp forest
  obtain ⟨⟨form, children⟩, -, grown⟩ := grows_renderItem context item path sound within
  refine ⟨grown.lt_size, ?_, fun id before different => ?_, grown.report, ?_⟩
  · simp only [grown.node?_eq parent within, if_true]
    rfl
  · have elsewhere : some parent ≠ some id := fun same => different (Option.some.inj same).symm
    simp only [grown.node?_eq id before, if_neg elsewhere, Option.map_id']
  · exact SceneGraph.isForest_iff_wellFormed.mpr (grown.wellFormed sound (hasParent_some within))

/-- A badge that the host does not have becomes a placeholder in its frame. -/
theorem addsChild_missing_badge :
    framed.graph.IsForest ∧ 0 < framed.graph.size ∧
      AddsChild 0 framed (renderItem plainContext 0 "items[0]" (.component badge) framed) := by
  have forest := SceneGraph.isForest_iff_wellFormed.mpr wellFormed_framed
  have within : 0 < framed.graph.size := by decide
  exact ⟨forest, within, addsChild_renderItem plainContext (.component badge) "items[0]" forest within⟩

end Stage

end DesignScene
