/-
This file shows that the nodes inside an instance are in the final scene as the rendering of their component
left them.
-/
import DesignScene.Proofs.Render.Fonts
import DesignScene.Proofs.Render.VariantValues
import DesignScene.Proofs.Scene.Family

namespace DesignScene

open Outlines

namespace SceneGraph

variable {α : Type} {graph next later : SceneGraph α}

/-- Nodes from `low` on are moved and resized only, and not at all if their parents are there as well. -/
structure Spares (low : Nat) (graph later : SceneGraph α) : Prop where
  nature_eq : ∀ {id : Nat} {node : SceneNode α}, low ≤ id → graph.node? id = some node →
    ∃ after, later.node? id = some after ∧ after.nature = node.nature
  inner : ∀ {id above : Nat} {node : SceneNode α}, low ≤ above → node.parent = some above →
    graph.node? id = some node → later.node? id = some node

namespace Spares

variable {low : Nat}

theorem refl (low : Nat) (graph : SceneGraph α) : graph.Spares low graph where
  nature_eq _ found := ⟨_, found, rfl⟩
  inner _ _ found := found

theorem trans (first : graph.Spares low next) (second : next.Spares low later) :
    graph.Spares low later where
  nature_eq behind found := by
    obtain ⟨node, isThere, nature⟩ := first.nature_eq behind found
    obtain ⟨after, isStillThere, sameNature⟩ := second.nature_eq behind isThere
    exact ⟨after, isStillThere, sameNature.trans nature⟩
  inner behind isParent found := second.inner behind isParent (first.inner behind isParent found)

theorem mono {high : Nat} (spared : graph.Spares low later) (greater : low ≤ high) :
    graph.Spares high later where
  nature_eq behind := spared.nature_eq (Nat.le_trans greater behind)
  inner behind := spared.inner (Nat.le_trans greater behind)

end Spares

/-- A graph that keeps all nodes from a place on spares them. -/
theorem spares_of_node?_eq {low : Nat} (sound : WellFormed graph.outline)
    (same : ∀ id node, low ≤ id → graph.node? id = some node → later.node? id = some node) :
    graph.Spares low later where
  nature_eq {id node} behind found := ⟨node, same id node behind found, rfl⟩
  inner {id above node} behind isParent found := by
    have inFront : above < id := sound.parent_lt (outline_of_node? found) isParent
    exact same id node (by omega) found

/-- A change in front spares all that stands behind. -/
theorem spares_update {low id : Nat} (sound : WellFormed graph.outline) (inFront : id < low)
    (change : SceneNode α → SceneNode α) : graph.Spares low (graph.update id change) :=
  spares_of_node?_eq sound fun place node behind found => by
    rw [node?_update_of_ne (by omega), found]

/-- A node that only moved keeps its nature. -/
theorem Moves.exists_node {bound : Nat} (moved : graph.Moves bound later) {id : Nat}
    {node : SceneNode α} (found : graph.node? id = some node) :
    ∃ after, later.node? id = some after ∧ after.nature = node.nature := by
  have same := moved.map_nature_eq id
  rw [found, Option.map_some] at same
  exact Option.map_eq_some_iff.mp same

/-- Moving and resizing a node and its children spares all that stands deeper. -/
theorem Moves.spares {frame : Nat} (moved : graph.Moves frame later)
    (sound : WellFormed graph.outline)
    (elsewhere : ∀ id, id ≠ frame → id ∉ graph.children frame → later.node? id = graph.node? id) :
    graph.Spares (frame + 1) later where
  nature_eq _ found := moved.exists_node found
  inner {id above node} behind isParent found := by
    have atPlace := outline_of_node? found
    have inFront : above < id := sound.parent_lt atPlace isParent
    rw [elsewhere id (by omega) fun listed => ?_, found]
    rw [children_eq_of_outline] at listed
    cases isFrame : graph.outline[frame]? with
    | none => simp [isFrame] at listed
    | some outline =>
        rw [isFrame] at listed
        obtain ⟨inside, atChild, sameParent⟩ := (sound.mem_children_iff isFrame).mp listed
        rw [atPlace, Option.some.injEq] at atChild
        subst atChild
        have same : some above = some frame := isParent.symm.trans sameParent
        cases same
        omega

section Arranging

variable [Scalar α] {frame id : Nat}

/-- Only the frame and its children are arranged. -/
theorem node?_arrange_of_not_mem (sound : WellFormed graph.outline) (notFrame : id ≠ frame)
    (notChild : id ∉ graph.children frame) : (graph.arrange frame).node? id = graph.node? id := by
  rw [arrange]
  split
  · rfl
  · next node found =>
      have named : node.id = frame := id_eq_of_node? sound found
      split
      · rfl
      · next props isFrame =>
          dsimp only
          split
          · have ids := congrArg (List.map fun nature => nature.1.id)
              (Arrange.map_nature_auto props node (graph.visibleChildren frame))
            have sameIds : (Arrange.auto props node (graph.visibleChildren frame)).2.map (·.id) =
                (graph.visibleChildren frame).map (·.id) := by
              simp only [List.map_map] at ids
              exact ids
            have sameId : (Arrange.auto props node (graph.visibleChildren frame)).1.id = node.id :=
              congrArg (fun nature => nature.1.id)
                (Arrange.nature_auto props node (graph.visibleChildren frame))
            have shown : (graph.visibleChildren frame).map (·.id) ⊆ graph.children frame := by
              rw [← map_id_childNodes sound frame]
              exact (List.filter_sublist.map _).subset
            rw [node?_putAll_of_not_mem, node?_put_of_ne]
            · rw [sameId, named]
              exact Ne.symm notFrame
            · rw [sameIds]
              exact fun listed => notChild (shown listed)
          · have sameId : (Arrange.fitAround (graph.visibleChildren frame) node).id = node.id :=
              congrArg (fun nature => nature.1.id) (Arrange.nature_fitAround _ node)
            rw [node?_put_of_ne]
            rw [sameId, named]
            exact Ne.symm notFrame

/-- Measuring a frame changes its children only. -/
theorem node?_remeasure_of_not_mem {σ : Type} {host : Host α σ}
    (changed : Stage.remeasure host frame graph = some later) (sound : WellFormed graph.outline)
    (notChild : id ∉ graph.children frame) : later.node? id = graph.node? id := by
  simp only [Stage.remeasure] at changed
  split at changed
  · cases changed
  · cases changed
    refine node?_putAll_of_not_mem fun listed => notChild ?_
    obtain ⟨other, member, rfl⟩ := List.mem_map.mp listed
    obtain ⟨node, isChild, measured⟩ := List.mem_filterMap.mp member
    obtain ⟨height, -, rfl⟩ := Option.map_eq_some_iff.mp measured
    rw [← map_id_childNodes sound frame]
    exact List.mem_map_of_mem (f := (·.id)) isChild

/-- Arranging a frame changes the frame and its children only. -/
theorem node?_arrangeGraph_of_not_mem {σ : Type} (host : Host α σ)
    (sound : WellFormed graph.outline) (notFrame : id ≠ frame)
    (notChild : id ∉ graph.children frame) :
    (Stage.arrangeGraph host frame graph).node? id = graph.node? id := by
  have arranged := moves_arrange sound frame
  have first := node?_arrange_of_not_mem sound notFrame notChild
  rw [Stage.arrangeGraph]
  split
  · exact first
  · next changed =>
      have settled := arranged.wellFormed sound
      have measured := Stage.moves_remeasure host settled changed
      have sameChildren : (graph.arrange frame).children frame = graph.children frame := by
        rw [children_eq_of_outline, children_eq_of_outline, arranged.outline_eq]
      have sameAgain := congrArg (fun outlines => (outlines[frame]?).elim [] NodeOutline.children)
        measured.outline_eq
      simp only [← children_eq_of_outline, sameChildren] at sameAgain
      rw [node?_arrange_of_not_mem (measured.wellFormed settled) notFrame (sameAgain ▸ notChild),
        node?_remeasure_of_not_mem changed settled (sameChildren ▸ notChild), first]

/-- Arranging a frame spares what is further inside. -/
theorem spares_arrangeGraph {σ : Type} (host : Host α σ) (sound : WellFormed graph.outline)
    (frame : Nat) : graph.Spares (frame + 1) (Stage.arrangeGraph host frame graph) :=
  (Stage.moves_arrangeGraph host sound).spares sound fun _ =>
    node?_arrangeGraph_of_not_mem host sound

end Arranging

end SceneGraph

namespace Stage

open SceneGraph

section Trees

variable {α σ : Type} {graph : SceneGraph α} {stage later : Stage α σ} {form : NodeForm}
  {children : List Sketch}

/-- Further trees change no node behind their parent. -/
theorem Grows.spares {parent low : Nat} {sketches : List Sketch}
    (grown : Grows (some parent) sketches stage later) (sound : WellFormed stage.graph.outline)
    (behind : parent < low) : stage.graph.Spares low later.graph :=
  spares_of_node?_eq sound fun id node after found => by
    have within : id < stage.graph.size := (Array.getElem?_eq_some_iff.mp found).1
    have different : some parent ≠ some id := by
      intro same
      cases same
      omega
    rw [grown.node?_eq id within, found, Option.map_some, if_neg different]

/-- A tree that was added stands at the end of the scene. -/
theorem Grows.outline_added {parent : Option Nat}
    (grown : Grows parent [.node form children] stage later) (index : Nat) :
    later.graph.outline[stage.graph.size + index]? =
      ((Sketch.node form children).outlines parent stage.graph.size)[index]? := by
  rw [grown.outline_eq, Sketch.grow, Sketch.outlinesAll, Sketch.outlinesAll, List.append_nil,
    length_outline, List.getElem?_append_right (by simp)]
  simp

/-- As long as it is spared, it still stands there when the scene goes on. -/
theorem Grows.outline_spared {parent : Option Nat}
    (grown : Grows parent [.node form children] stage later)
    (kept : later.graph.Spares stage.graph.size graph) {index : Nat}
    (within : index < (Sketch.node form children).size) :
    graph.outline[stage.graph.size + index]? =
      ((Sketch.node form children).outlines parent stage.graph.size)[index]? := by
  have made := grown.outline_added index
  rw [← made, getElem?_outline, getElem?_outline]
  rw [← Sketch.length_outlines parent stage.graph.size] at within
  rw [getElem?_outline, List.getElem?_eq_getElem within] at made
  obtain ⟨node, found, -⟩ := Option.map_eq_some_iff.mp made
  obtain ⟨after, isThere, nature⟩ := kept.nature_eq (Nat.le_add_right _ _) found
  rw [found, isThere]
  exact congrArg (fun nature => some nature.1) nature

/-- The nodes below the root of a tree that is spared are those that were made. -/
theorem Grows.descendants_spared {parent : Option Nat}
    (grown : Grows parent [.node form children] stage later)
    (kept : later.graph.Spares stage.graph.size graph) :
    graph.descendants stage.graph.size =
      List.range' (stage.graph.size + 1) (Sketch.sizeAll children) := by
  let start := stage.graph.size
  let tree := (Sketch.node form children).outlines parent start
  have length : tree.length = (Sketch.node form children).size := Sketch.length_outlines _ _ _
  have inside : (graph.outline.drop start).take tree.length = tree := by
    apply List.ext_getElem?
    intro index
    by_cases within : index < tree.length
    · rw [List.getElem?_take_of_lt within, List.getElem?_drop,
        grown.outline_spared kept (length ▸ within)]
    · rw [List.getElem?_eq_none (by rw [List.length_take]; omega),
        List.getElem?_eq_none (Nat.le_of_not_lt within)]
  have whole := List.take_append_drop tree.length (graph.outline.drop start)
  rw [inside] at whole
  have enough : start < graph.outline.length := by
    have isFirst : 0 < (Sketch.node form children).size := by simp [Sketch.size]
    have first := grown.outline_spared kept isFirst
    rw [Sketch.outlines, List.getElem?_cons_zero] at first
    exact (List.getElem?_eq_some_iff.mp first).1
  have front : (graph.outline.take start).length = start := by
    rw [List.length_take]
    omega
  exact descendants_of_outlines front
    (by rw [whole, List.take_append_drop])

/-- The nodes below a spared component stay as they were. -/
theorem Grows.descendantNodes_spared {parent : Option Nat}
    (grown : Grows parent [.node form children] stage later)
    (kept : later.graph.Spares stage.graph.size graph) :
    graph.descendantNodes stage.graph.size = later.graph.descendantNodes stage.graph.size := by
  rw [descendantNodes, descendantNodes, grown.descendants_eq, grown.descendants_spared kept]
  refine List.filterMap_congr fun id member => ?_
  obtain ⟨index, within, rfl⟩ := List.mem_range'.mp member
  rw [← Sketch.length_outlinesAll (some stage.graph.size) (stage.graph.size + 1)] at within
  have found := grown.outline_added (index + 1)
  rw [Sketch.outlines, List.getElem?_cons_succ, List.getElem?_eq_getElem within,
    getElem?_outline] at found
  obtain ⟨node, isNode, outline⟩ := Option.map_eq_some_iff.mp found
  have parents := Sketch.parent_of_mem_outlinesAll children (List.getElem_mem within)
  rw [← outline] at parents
  obtain ⟨above, isAbove, after⟩ : ∃ above, node.parent = some above ∧ stage.graph.size ≤ above := by
    rcases parents with root | ⟨above, isAbove, after⟩
    · exact ⟨_, root, Nat.le_refl _⟩
    · exact ⟨above, isAbove, Nat.le_of_succ_le after⟩
  have place : stage.graph.size + 1 + 1 * index = stage.graph.size + (index + 1) := by omega
  rw [place, kept.inner after isAbove isNode, isNode]

end Trees

end Stage

section Staging

variable {α σ : Type} [Scalar α]

/-- The item was rendered as the node, and its tree is in the graph as it was made. -/
def RenderContext.Rendered (context : RenderContext α σ) (graph : SceneGraph α)
    (item : LayoutItem α) (id : Nat) : Prop :=
  ∃ (parent : Nat) (path : String) (stage : Stage α σ), WellFormed stage.graph.outline ∧
    parent < stage.graph.size ∧ stage.FontsWithin ∧ stage.graph.size = id ∧
      (Stage.renderItem context parent path item stage).graph.Spares id graph

/-- The items of a container are staged at the children of its frame, and other items were rendered. -/
inductive Staged (context : RenderContext α σ) (graph : SceneGraph α) :
    LayoutItem α → Nat → Prop where
  | container {spec : ContainerSpec α} {items : List (LayoutItem α)} {id : Nat}
      {node : SceneNode α} (found : graph.node? id = some node)
      (inside : List.Forall₂ (Staged context graph) items node.children) :
      Staged context graph (.container spec items) id
  | leaf {item : LayoutItem α} {id : Nat} (noContainer : ∀ spec items, item ≠ .container spec items)
      (rendered : context.Rendered graph item id) : Staged context graph item id

mutual

/-- A staged item stays staged where its nodes are spared. -/
theorem Staged.mono {context : RenderContext α σ} {low : Nat} {graph later : SceneGraph α}
    (sound : WellFormed graph.outline) (spared : graph.Spares low later) :
    ∀ {item : LayoutItem α} {id : Nat}, Staged context graph item id → low ≤ id →
      Staged context later item id
  | _, id, .container found inside, behind => by
      obtain ⟨after, isThere, nature⟩ := spared.nature_eq behind found
      have sameChildren : after.children = _ := congrArg (·.1.children) nature
      refine .container isThere (sameChildren ▸ ?_)
      have above : ∀ child ∈ _, low ≤ child := fun child member =>
        Nat.le_trans behind (Nat.le_of_lt
          (sound.lt_of_mem_children (SceneGraph.outline_of_node? found) member))
      exact Staged.mono_all sound spared inside above
  | _, id, .leaf noContainer ⟨parent, path, stage, good, within, fonts, place, kept⟩, behind =>
      .leaf noContainer ⟨parent, path, stage, good, within, fonts, place, kept.trans (spared.mono behind)⟩

/-- Staged items stay staged where their nodes are spared. -/
theorem Staged.mono_all {context : RenderContext α σ} {low : Nat} {graph later : SceneGraph α}
    (sound : WellFormed graph.outline) (spared : graph.Spares low later) :
    ∀ {items : List (LayoutItem α)} {ids : List Nat},
      List.Forall₂ (Staged context graph) items ids → (∀ id ∈ ids, low ≤ id) →
        List.Forall₂ (Staged context later) items ids
  | _, _, .nil, _ => .nil
  | _, _, .cons first others, behind =>
      .cons (Staged.mono sound spared first (behind _ List.mem_cons_self))
        (Staged.mono_all sound spared others fun id member =>
          behind id (List.mem_cons_of_mem _ member))

end

namespace Stage

open SceneGraph

/-- The items of a frame stay staged when the frame is arranged. -/
theorem staged_container {context : RenderContext α σ} {stage below : Stage α σ}
    {later : SceneGraph α} {parent : Option Nat} {children : List Sketch}
    {items : List (LayoutItem α)} (spec : ContainerSpec α)
    (whole : Grows parent [.node .frame children] stage below)
    (settled : WellFormed below.graph.outline)
    (inside : List.Forall₂ (Staged context below.graph) items
      (Sketch.starts (stage.graph.size + 1) children))
    (moved : below.graph.Moves stage.graph.size later)
    (spared : below.graph.Spares (stage.graph.size + 1) later) :
    Staged context later (.container spec items) stage.graph.size := by
  obtain ⟨node, found, -, listed⟩ := whole.exists_root
  obtain ⟨after, isThere, nature⟩ := moved.exists_node found
  have sameChildren : after.children = node.children := congrArg (·.1.children) nature
  rw [← listed] at inside
  refine .container isThere (sameChildren ▸ ?_)
  exact Staged.mono_all settled spared inside fun child member =>
    settled.lt_of_mem_children (outline_of_node? found) member

/-- An item that is no container is staged as it is rendered. -/
theorem staged_leaf (context : RenderContext α σ) {parent : Nat} {item : LayoutItem α}
    (noContainer : ∀ spec items, item ≠ .container spec items) (path : String) {stage : Stage α σ}
    (sound : WellFormed stage.graph.outline) (within : parent < stage.graph.size)
    (fonts : stage.FontsWithin) :
    Staged context (renderItem context parent path item stage).graph item stage.graph.size :=
  .leaf noContainer ⟨parent, path, stage, sound, within, fonts, rfl, .refl _ _⟩

mutual

/-- Whatever the host answers, an item is staged at the node that it becomes. -/
theorem staged_renderItem (context : RenderContext α σ) {parent : Nat} :
    ∀ (item : LayoutItem α) (path : String) {stage : Stage α σ},
      WellFormed stage.graph.outline → parent < stage.graph.size → stage.FontsWithin →
        Staged context (renderItem context parent path item stage).graph item stage.graph.size
  | .container spec items, path, stage, sound, within, fonts => by
      have held := hasParent_some within
      have framed := grows_addFrame context spec held
      obtain ⟨sketches, below, inside⟩ := staged_renderItems context items (itemsPath path) 0
        (framed.wellFormed sound held) framed.lt_size (fontsWithin_addFrame context _ spec fonts)
      have whole := framed.inside below
      have settled := whole.wellFormed sound held
      have next : (stage.addFrame context (some parent) spec).graph.size =
          stage.graph.size + 1 := framed.size_eq
      rw [next] at inside
      exact staged_container spec whole settled inside (moves_arrangeGraph context.host settled)
        (spares_arrangeGraph context.host settled _)
  | .text spec, path, _, sound, within, fonts =>
      staged_leaf context (by simp) path sound within fonts
  | .shape spec, path, _, sound, within, fonts =>
      staged_leaf context (by simp) path sound within fonts
  | .component spec, path, _, sound, within, fonts =>
      staged_leaf context (by simp) path sound within fonts
  | .malformed place reason, path, _, sound, within, fonts =>
      staged_leaf context (by simp) path sound within fonts

/-- Rendering a list of items stages each of them. -/
theorem staged_renderItems (context : RenderContext α σ) {parent : Nat} :
    ∀ (items : List (LayoutItem α)) (path : String) (index : Nat) {stage : Stage α σ},
      WellFormed stage.graph.outline → parent < stage.graph.size → stage.FontsWithin →
        ∃ sketches,
          Grows (some parent) sketches stage (renderItems context parent path index items stage) ∧
          List.Forall₂ (Staged context (renderItems context parent path index items stage).graph)
            items (Sketch.starts stage.graph.size sketches)
  | [], _, _, stage, _, _, _ => ⟨[], .refl (some parent) stage, .nil⟩
  | item :: more, path, index, stage, sound, within, fonts => by
      have held := hasParent_some within
      obtain ⟨sketch, -, first⟩ :=
        grows_renderItem context item (elementPath path index) sound within
      have here := staged_renderItem context item (elementPath path index) sound within fonts
      have stillSound := first.wellFormed sound held
      have stillWithin :
          parent < (renderItem context parent (elementPath path index) item stage).graph.size := by
        rw [first.size_eq]
        omega
      obtain ⟨sketches, later, others⟩ := staged_renderItems context more path (index + 1)
        stillSound stillWithin
        (fontsWithin_renderItem context item (elementPath path index) sound within fonts)
      refine ⟨sketch :: sketches, first.append held later, .cons ?_ ?_⟩
      · exact here.mono stillSound (later.spares stillSound (Nat.lt_succ_self parent)) within
      · rwa [first.size_eq] at others

end

omit [Scalar α] in
/-- Widening the root keeps missing fonts within the scene. -/
theorem FontsWithin.widenRoot {stage : Stage α σ} (fonts : stage.FontsWithin)
    (context : RenderContext α σ) (spec : ContainerSpec α) (root : Nat) :
    (stage.widenRoot context spec root).FontsWithin := by
  rw [Stage.widenRoot]
  split
  · exact fonts.updateNode _ _
  · exact fonts

/-- Fitting the root spares everything below it. -/
theorem spares_fitRoot (context : RenderContext α σ) (spec : ContainerSpec α) (root : Nat)
    (stage : Stage α σ) (sound : WellFormed stage.graph.outline) :
    stage.graph.Spares (root + 1) (stage.fitRoot context spec root).graph :=
  spares_update sound (Nat.lt_succ_self root) _

/-- Every item of a rendered document is staged. -/
theorem staged_renderDocument (context : RenderContext α σ) (document : LayoutDocument α)
    {stage : Stage α σ} (sound : WellFormed stage.graph.outline) (fonts : stage.FontsWithin) :
    Staged context (stage.renderDocument context document).graph
      (.container document.root document.items) stage.graph.size := by
  have held : HasParent stage.graph.outline none := nofun
  have framed := grows_addFrame context document.root held
  have widened := framed.keeps (keeps_widenRoot context document.root stage.graph.size _)
  obtain ⟨sketches, below, inside⟩ := staged_renderItems context document.items "items" 0
    (widened.wellFormed sound held) widened.lt_size
    ((fontsWithin_addFrame context _ document.root fonts).widenRoot context document.root _)
  have whole := widened.inside below
  have settled := whole.wellFormed sound held
  have next : ((stage.addFrame context none document.root).widenRoot context document.root
      stage.graph.size).graph.size = stage.graph.size + 1 := widened.size_eq
  rw [next] at inside
  have arranged : SceneGraph.Moves stage.graph.size _ _ := moves_arrangeGraph context.host settled
  have moved := arranged.trans (moves_fitRoot context document.root stage.graph.size
    (arrangeFrame context stage.graph.size _))
  have spared := (spares_arrangeGraph context.host settled stage.graph.size).trans
    (spares_fitRoot context document.root stage.graph.size
      (arrangeFrame context stage.graph.size _) (arranged.wellFormed settled))
  exact staged_container document.root whole settled inside moved spared

end Stage

namespace Scene

open SceneGraph

/-- The items of a document are staged below the root of its scene. -/
theorem staged_ofDocument (context : RenderContext α σ) (document : LayoutDocument α)
    (cursor : CanvasCursor α) (hostState : σ) :
    List.Forall₂
      (Staged context
        ((ofDocument context document hostState).1.placeRoot context.config.render cursor).1.graph)
      document.items
      (((ofDocument context document hostState).1.placeRoot context.config.render
        cursor).1.graph.children 0) := by
  have empty : WellFormed (Stage.start (α := α) hostState).graph.outline := .nil
  have held : HasParent (Stage.start (α := α) hostState).graph.outline none := nofun
  obtain ⟨_, -, grown⟩ := Stage.grows_renderDocument context document empty
  have settled : WellFormed (ofDocument context document hostState).1.graph.outline :=
    grown.wellFormed empty held
  have staged : Staged context (ofDocument context document hostState).1.graph
      (.container document.root document.items) 0 :=
    Stage.staged_renderDocument context document empty (Stage.fontsWithin_start hostState)
  have sameChildren :
      ((ofDocument context document hostState).1.placeRoot context.config.render
        cursor).1.graph.children 0 = (ofDocument context document hostState).1.graph.children 0 := by
    rw [children_eq_of_outline, outline_placeRoot, ← children_eq_of_outline]
  cases staged with
  | container found inside =>
      rw [sameChildren, children_of_node? found]
      have spared : (ofDocument context document hostState).1.graph.Spares 1
          ((ofDocument context document hostState).1.placeRoot context.config.render cursor).1.graph :=
        spares_update settled Nat.zero_lt_one _
      exact Staged.mono_all settled spared inside fun child member =>
        settled.lt_of_mem_children (outline_of_node? found) member
  | leaf noContainer => exact absurd rfl (noContainer _ _)

end Scene

end Staging

end DesignScene
