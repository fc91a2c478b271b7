/-
This file follows the frames of a layout from the stage where they are made to the final scene.
-/
import DesignScene.Proofs.Render.Shown
import DesignScene.Proofs.Render.Siblings

namespace DesignScene

open Outlines SceneGraph

/-- A frame that is filled with the items of its container. -/
structure Filling (α σ : Type) where
  frame : Nat
  path : String
  /-- The stage right after the frame was made. -/
  stage : Stage α σ
  items : List (LayoutItem α)

namespace Filling

section Definitions

variable {α σ : Type} [Scalar α] (context : RenderContext α σ)

/-- The root is the first node of all. -/
def ofDocument (document : LayoutDocument α) (hostState : σ) : Filling α σ where
  frame := 0
  path := "items"
  stage := ((Stage.start hostState).addFrame context none document.root).widenRoot context
    document.root 0
  items := document.items

variable (filling : Filling α σ)

/-- The stage with all items, right before the frame is arranged. -/
def filled : Stage α σ :=
  Stage.renderItems context filling.frame filling.path 0 filling.items filling.stage

def arranged : Stage α σ := (filling.filled context).arrangeFrame context filling.frame

/-- Where an item is rendered that stands between these siblings. -/
def site (siblings : Siblings α) : Site α σ :=
  Stage.siteOf context filling.frame filling.path filling.stage siblings

/-- The frame of a container that stands between these siblings. -/
def inner (siblings : Siblings α) (spec : ContainerSpec α) (items : List (LayoutItem α)) :
    Filling α σ where
  frame := (filling.site context siblings).start
  path := itemsPath (filling.site context siblings).path
  stage := (filling.site context siblings).stage.addFrame context (some filling.frame) spec
  items := items

end Definitions

end Filling

/-- The frames of a layout, each with its container and the containers around it up to the root. -/
inductive Fills {α σ : Type} [Scalar α] (context : RenderContext α σ) (document : LayoutDocument α)
    (hostState : σ) : List (ContainerSpec α) → Filling α σ → Prop where
  | root : Fills context document hostState [document.root]
      (Filling.ofDocument context document hostState)
  | inside {above : List (ContainerSpec α)} {filling : Filling α σ} {siblings : Siblings α}
      {spec : ContainerSpec α} {items : List (LayoutItem α)}
      (outer : Fills context document hostState above filling)
      (here : filling.items = siblings.around (.container spec items)) :
      Fills context document hostState (spec :: above) (filling.inner context siblings spec items)

namespace Stage

variable {α σ : Type} {stage later : Stage α σ} {parent : Option Nat} {form : NodeForm}
  {children : List Sketch}

/-- The root of a tree hangs where the tree was added. -/
theorem Grows.parent_root (grown : Grows parent [.node form children] stage later)
    {node : SceneNode α} (found : later.graph.node? stage.graph.size = some node) :
    node.parent = parent := by
  have planned := grown.outline_eq
  rw [Sketch.grow, Sketch.outlinesAll, Sketch.outlines, List.cons_append, length_outline] at planned
  obtain ⟨root, isRoot, same⟩ := exists_node_of_outline_eq
    (by rw [length_adopt, length_outline]) planned
  rw [found] at isRoot
  obtain rfl := Option.some.inj isRoot
  exact congrArg NodeOutline.parent same

end Stage

namespace Filling

/-- The frame is the last node of its stage, and nothing is in it. -/
structure Ready {σ : Type} (filling : Filling Rat σ) (made : SceneNode Rat) (props : FrameProps Rat) :
    Prop where
  sound : WellFormed filling.stage.graph.outline
  size_eq : filling.stage.graph.size = filling.frame + 1
  found : filling.stage.graph.node? filling.frame = some made
  isFrame : made.frame? = some props
  shows : filling.stage.graph.ShowsChildren filling.frame

section Filled

variable {σ : Type} (context : RenderContext Rat σ) {filling : Filling Rat σ}
  {made : SceneNode Rat} {props : FrameProps Rat}

theorem Ready.within (ready : filling.Ready made props) :
    filling.frame < filling.stage.graph.size := by
  rw [ready.size_eq]
  exact Nat.lt_succ_self _

/-- Filling a frame adds trees below it. -/
theorem Ready.grows (ready : filling.Ready made props) :
    ∃ sketches, Stage.Grows (some filling.frame) sketches filling.stage (filling.filled context) := by
  obtain ⟨sketches, -, grown⟩ :=
    Stage.grows_renderItems context filling.items filling.path 0 ready.sound ready.within
  exact ⟨sketches, grown⟩

/-- A filled frame leaves the graph well formed. -/
theorem Ready.sound_filled (ready : filling.Ready made props) :
    WellFormed (filling.filled context).graph.outline := by
  obtain ⟨sketches, grown⟩ := ready.grows context
  exact grown.wellFormed ready.sound (Stage.hasParent_some ready.within)

/-- The frame and its items are a family before the frame is arranged. -/
theorem Ready.family (ready : filling.Ready made props) :
    ∃ frame, (∃ children, frame = made.addChildren children) ∧ frame.frame? = some props ∧
      (filling.filled context).graph.Family filling.frame frame
        ((filling.filled context).graph.childNodes filling.frame) := by
  obtain ⟨sketches, grown⟩ := ready.grows context
  have found := grown.node?_eq filling.frame ready.within
  rw [ready.found, Option.map_some, if_pos rfl] at found
  have shows := Stage.showsChildren_renderItems context filling.items filling.path 0 ready.sound
    ready.within ready.shows
  exact ⟨_, ⟨_, rfl⟩, ready.isFrame, shows.family (ready.sound_filled context) found⟩

/-- Arranging the frame settles its family and changes no other node. -/
theorem Ready.turns (ready : filling.Ready made props) {frame : SceneNode Rat}
    {children : List (SceneNode Rat)} (isFrame : frame.frame? = some props)
    (family : (filling.filled context).graph.Family filling.frame frame children) :
    (filling.filled context).graph.Turns (filling.arranged context).graph filling.frame
      (Stage.settled context.host props frame children).1
      (Stage.settled context.host props frame children).2 :=
  Stage.turns_arrangeGraph (ready.sound_filled context) family isFrame

/-- Arranging a filled frame keeps what stands before it. -/
theorem Ready.keeps_arranged (ready : filling.Ready made props) :
    Stage.Keeps filling.frame (filling.filled context) (filling.arranged context) :=
  Stage.keeps_arrangeFrame context (ready.sound_filled context)

theorem Ready.size_arranged (ready : filling.Ready made props) :
    (filling.arranged context).graph.size = (filling.filled context).graph.size :=
  (ready.keeps_arranged context).graph.size_eq

/-- Every node of the arranged graph was there when the frame was filled. -/
theorem Ready.exists_filled (ready : filling.Ready made props) {id : Nat} {node : SceneNode Rat}
    (found : (filling.arranged context).graph.node? id = some node) :
    ∃ old, (filling.filled context).graph.node? id = some old ∧ old.outline = node.outline := by
  have atPlace := outline_of_node? found
  rw [(ready.keeps_arranged context).graph.outline_eq, getElem?_outline,
    Option.map_eq_some_iff] at atPlace
  exact atPlace

/-- What is inside a frame hangs below it or below what is inside. -/
theorem Ready.exists_parent (ready : filling.Ready made props) {id : Nat}
    (behind : filling.frame < id) {node : SceneNode Rat}
    (found : (filling.filled context).graph.node? id = some node) :
    ∃ above, node.parent = some above ∧ filling.frame ≤ above := by
  obtain ⟨sketches, grown⟩ := ready.grows context
  have notBefore : filling.stage.graph.size ≤ id := by
    rw [ready.size_eq]
    exact behind
  rcases grown.parent_eq_or_le notBefore found with root | ⟨above, isAbove, later⟩
  · exact ⟨_, root, Nat.le_refl _⟩
  · refine ⟨above, isAbove, ?_⟩
    rw [ready.size_eq] at later
    omega

/-- Arranging a frame changes no node behind it that is not a child of it. -/
theorem Ready.node?_arranged (ready : filling.Ready made props) {id : Nat}
    (behind : filling.frame < id)
    (inner : ∀ node, (filling.filled context).graph.node? id = some node →
      node.parent ≠ some filling.frame) :
    (filling.arranged context).graph.node? id = (filling.filled context).graph.node? id := by
  have sound := ready.sound_filled context
  obtain ⟨frame, -, isFrame, family⟩ := ready.family context
  have turned := ready.turns context isFrame family
  refine turned.elsewhere id (Nat.ne_of_gt behind) ?_
  rw [Stage.map_id_settled, family.map_id_eq sound]
  intro isChild
  obtain ⟨outline, atPlace, above⟩ :=
    (sound.mem_children_iff (outline_of_node? family.found)).mp isChild
  rw [getElem?_outline, Option.map_eq_some_iff] at atPlace
  obtain ⟨node, found, rfl⟩ := atPlace
  exact inner node found above

variable (siblings : Siblings Rat)

/-- The place of an item is well formed. -/
theorem Ready.sound_site (ready : filling.Ready made props) :
    WellFormed (filling.site context siblings).stage.graph.outline :=
  Stage.wellFormed_siteOf context filling.path ready.sound ready.within siblings

theorem Ready.lt_start (ready : filling.Ready made props) :
    filling.frame < (filling.site context siblings).start :=
  Stage.lt_start_siteOf context filling.path ready.sound ready.within siblings

/-- The frame of a container is ready when it was made. -/
theorem Ready.inner (ready : filling.Ready made props) (spec : ContainerSpec Rat)
    (items : List (LayoutItem Rat)) : ∃ made props,
      (filling.inner context siblings spec items).Ready made props ∧
        Stage.Makes context filling.frame (filling.site context siblings).stage
          (.container spec items) made := by
  have sound := ready.sound_site context siblings
  have held := Stage.hasParent_some (ready.lt_start context siblings)
  have grown := Stage.grows_addFrame context spec held
  obtain ⟨fills, found⟩ := Stage.node?_addFrame context spec held
  refine ⟨_, _, ⟨grown.wellFormed sound held, ?_, found, rfl,
    Stage.showsChildren_addFrame context spec sound held⟩, .container spec items fills⟩
  have size_eq := grown.size_eq
  simp only [Sketch.sizeAll, Sketch.size] at size_eq
  exact size_eq

end Filled

section Root

variable {σ : Type} (context : RenderContext Rat σ)

/-- A root without a width and without auto layout gets the default width. -/
def widened (spec : ContainerSpec Rat) (node : SceneNode Rat) : SceneNode Rat :=
  if spec.width.isNone && spec.layoutMode == .none then
    { node with width := context.config.render.defaultRootWidth, fixedWidth := true }
  else node

/-- A root with an authored width is not widened. -/
theorem widened_of_width {spec : ContainerSpec Rat} {width : Rat} (authored : spec.width = some width)
    (node : SceneNode Rat) : widened context spec node = node := by
  rw [widened, authored, Option.isNone_some, Bool.false_and, if_neg Bool.false_ne_true]

/-- A widened root has the same settings. -/
theorem frame?_widened (spec : ContainerSpec Rat) (node : SceneNode Rat) :
    (widened context spec node).frame? = node.frame? := by
  rw [widened]
  split <;> rfl

/-- The root of a document is ready to be filled. -/
theorem ready_ofDocument (document : LayoutDocument Rat) (hostState : σ) :
    ∃ fills props, (ofDocument context document hostState).Ready
      (widened context document.root
        (Stage.newFrame none document.root fills (Stage.start hostState))) props := by
  have held : HasParent (Stage.start (α := Rat) hostState).graph.outline none := nofun
  have empty : WellFormed (Stage.start (α := Rat) hostState).graph.outline := .nil
  have grown := Stage.grows_addFrame context document.root held
  obtain ⟨fills, found⟩ := Stage.node?_addFrame context document.root held
  have framed := grown.wellFormed empty held
  have shows := Stage.showsChildren_addFrame context document.root empty held
  have kept := Stage.keeps_widenRoot context document.root 0
    ((Stage.start hostState).addFrame context none document.root)
  have size_eq := grown.size_eq
  simp only [Sketch.sizeAll, Sketch.size] at size_eq
  refine ⟨fills, _, kept.wellFormed framed, kept.graph.size_eq.trans size_eq, ?_,
    frame?_widened context document.root _, ?_⟩
  · change (Stage.widenRoot context document.root 0 _).graph.node? 0 = _
    rw [Stage.widenRoot, widened]
    split
    · exact node?_update_self found _
    · exact found
  · change (Stage.widenRoot context document.root 0 _).graph.ShowsChildren 0
    rw [Stage.widenRoot]
    split
    · intro id node foundNode below
      rw [Stage.updateNode, node?_update, Option.map_eq_some_iff] at foundNode
      obtain ⟨old, wasFound, rfl⟩ := foundNode
      have visible := shows id old wasFound
      split at below <;> split <;> exact visible below
    · exact shows

end Root

section Items

variable {σ : Type} {context : RenderContext Rat σ} {filling : Filling Rat σ}
  {made : SceneNode Rat} {props : FrameProps Rat} {siblings : Siblings Rat} {item : LayoutItem Rat}

/-- An item adds one tree below the frame. -/
theorem Ready.grows_item (ready : filling.Ready made props) (context : RenderContext Rat σ)
    (siblings : Siblings Rat) (item : LayoutItem Rat) :
    ∃ form children, Stage.Grows (some filling.frame) [.node form children]
      (filling.site context siblings).stage
      (Stage.renderAt context filling.frame item (filling.site context siblings)) := by
  obtain ⟨⟨form, children⟩, -, grown⟩ := Stage.grows_renderItem context item
    (filling.site context siblings).path (ready.sound_site context siblings)
    (ready.lt_start context siblings)
  exact ⟨form, children, grown⟩

/-- What comes after an item only adds nodes behind it. -/
theorem Ready.grows_after (ready : filling.Ready made props)
    (here : filling.items = siblings.around item) :
    ∃ sketches, Stage.Grows (some filling.frame) sketches
      (Stage.renderAt context filling.frame item (filling.site context siblings))
      (filling.filled context) := by
  obtain ⟨form, children, grown⟩ := ready.grows_item context siblings item
  have sound := grown.wellFormed (ready.sound_site context siblings)
    (Stage.hasParent_some (ready.lt_start context siblings))
  obtain ⟨sketches, -, later⟩ := Stage.grows_renderItems context siblings.after filling.path
    (siblings.before.length + 1) sound (Nat.lt_trans (ready.lt_start context siblings) grown.lt_size)
  refine ⟨sketches, ?_⟩
  rw [filled, here, Stage.renderItems_around]
  exact later

/-- Later siblings leave the nodes of an item. -/
theorem Ready.node?_filled (ready : filling.Ready made props)
    (here : filling.items = siblings.around item) {id : Nat} (behind : filling.frame < id)
    (inside : id < (Stage.renderAt context filling.frame item
      (filling.site context siblings)).graph.size) :
    (filling.filled context).graph.node? id =
      (Stage.renderAt context filling.frame item (filling.site context siblings)).graph.node? id := by
  obtain ⟨sketches, later⟩ := ready.grows_after here
  have different : some filling.frame ≠ some id := by
    intro same
    cases same
    exact Nat.lt_irrefl _ behind
  rw [later.node?_eq id inside]
  simp only [different, if_false, Option.map_id']

theorem Ready.size_le_filled (ready : filling.Ready made props)
    (here : filling.items = siblings.around item) :
    (Stage.renderAt context filling.frame item (filling.site context siblings)).graph.size ≤
      (filling.filled context).graph.size := by
  obtain ⟨sketches, later⟩ := ready.grows_after here
  rw [later.size_eq]
  exact Nat.le_add_right _ _

/-- The node of an item is a child of the frame. -/
theorem Ready.exists_own (ready : filling.Ready made props) (context : RenderContext Rat σ)
    (here : filling.items = siblings.around item) :
    ∃ own, (Stage.renderAt context filling.frame item
        (filling.site context siblings)).graph.node? (filling.site context siblings).start = some own ∧
      own.id = (filling.site context siblings).start ∧
        own ∈ (filling.filled context).graph.childNodes filling.frame := by
  have sound := ready.sound_filled context
  obtain ⟨form, children, grown⟩ := ready.grows_item context siblings item
  obtain ⟨own, found, -⟩ := grown.exists_root
  have inFilled := ready.node?_filled here (ready.lt_start context siblings) grown.lt_size
  have foundFilled := inFilled.trans found
  have above := grown.parent_root found
  obtain ⟨frame, -, -, family⟩ := ready.family context
  refine ⟨own, found, id_eq_of_node? sound foundFilled, ?_⟩
  rw [childNodes, List.mem_filterMap]
  refine ⟨_, ?_, foundFilled⟩
  rw [children_of_node? family.found]
  exact (sound.mem_children_iff (outline_of_node? family.found)).mpr
    ⟨_, outline_of_node? foundFilled, above⟩

end Items

end Filling

section Final

variable {σ : Type} {context : RenderContext Rat σ} {document : LayoutDocument Rat} {hostState : σ}
  {above : List (ContainerSpec Rat)} {filling : Filling Rat σ}

/-- Every filling of a document begins with a frame that is ready. -/
theorem Fills.ready (fills : Fills context document hostState above filling) :
    ∃ made props, filling.Ready made props := by
  induction fills with
  | root =>
      obtain ⟨fills, props, ready⟩ := Filling.ready_ofDocument context document hostState
      exact ⟨_, props, ready⟩
  | inside _ _ ih =>
      obtain ⟨outerMade, outerProps, outer⟩ := ih
      obtain ⟨made, props, ready, -⟩ := outer.inner context _ _ _
      exact ⟨made, props, ready⟩

/-- The nodes of a rendered layout, with its root on the canvas. -/
def finalGraph (context : RenderContext Rat σ) (document : LayoutDocument Rat)
    (cursor : CanvasCursor Rat) (hostState : σ) : SceneGraph Rat :=
  ((Scene.ofDocument context document hostState).1.placeRoot context.config.render cursor).1.graph

/-- The scene of a text is the final graph of its document. -/
theorem graph_ofText {text : String} (cursor : CanvasCursor Rat)
    (read : Scene.readDocument context.registry text = .ok document) :
    (Scene.ofText context text cursor hostState).1.1.graph =
      finalGraph context document cursor hostState := by
  rw [Scene.ofText, read]
  rfl

/-- When the root is fitted and placed, only its sizes and its place change, and no fixed width of it. -/
theorem exists_finalGraph_eq (context : RenderContext Rat σ) (document : LayoutDocument Rat)
    (cursor : CanvasCursor Rat) (hostState : σ) :
    ∃ fit, finalGraph context document cursor hostState =
        ((Filling.ofDocument context document hostState).arranged context).graph.update 0 fit ∧
      ∀ node, (fit node).outline = node.outline ∧ (fit node).fixedWidth = node.fixedWidth ∧
        (node.fixedWidth = true → (fit node).width = node.width) := by
  refine ⟨_, SceneGraph.update_update_self _ 0 _ _,
    fun node => ⟨rfl, rfl, fun isFixed => if_neg ?_⟩⟩
  rw [isFixed]
  exact Bool.false_ne_true

/-- The final graph is well formed. -/
theorem wellFormed_finalGraph (cursor : CanvasCursor Rat) :
    WellFormed (finalGraph context document cursor hostState).outline := by
  obtain ⟨fills, props, ready⟩ := Filling.ready_ofDocument context document hostState
  have sound := (ready.keeps_arranged context).wellFormed (ready.sound_filled context)
  obtain ⟨fit, final_eq, keeps⟩ := exists_finalGraph_eq context document cursor hostState
  have kept : ((Filling.ofDocument context document hostState).arranged context).graph.Keeps 0
      (finalGraph context document cursor hostState) := by
    rw [final_eq]
    exact keeps_update (Nat.le_refl 0) fun node _ => (keeps node).1
  exact kept.wellFormed sound

/-- Fitting and placing the root changes no other node. -/
theorem node?_finalGraph_of_pos (cursor : CanvasCursor Rat) {id : Nat} (behind : 0 < id) :
    (finalGraph context document cursor hostState).node? id =
      ((Filling.ofDocument context document hostState).arranged context).graph.node? id := by
  obtain ⟨fit, final_eq, -⟩ := exists_finalGraph_eq context document cursor hostState
  rw [final_eq, node?_update_of_ne (Nat.ne_of_lt behind)]

/-- Once a frame was arranged, the nodes behind it stay as they are. -/
theorem Fills.node?_final (fills : Fills context document hostState above filling)
    (cursor : CanvasCursor Rat) {id : Nat} (behind : filling.frame < id)
    (inside : id < (filling.filled context).graph.size) :
    (finalGraph context document cursor hostState).node? id =
      (filling.arranged context).graph.node? id := by
  induction fills with
  | root => exact node?_finalGraph_of_pos cursor behind
  | @inside above filling siblings spec items outer here ih =>
      obtain ⟨outerMade, outerProps, outerReady⟩ := outer.ready
      obtain ⟨made, props, ready, -⟩ := outerReady.inner context siblings spec items
      have inFront := outerReady.lt_start context siblings
      have within := ready.size_arranged context
      have kept := outerReady.node?_filled here (Nat.lt_trans inFront behind)
        (Nat.lt_of_lt_of_eq inside within.symm)
      have later : _ ≤ (filling.filled context).graph.size := outerReady.size_le_filled here
      have last := ih (Nat.lt_trans inFront behind)
        (Nat.lt_of_lt_of_le (Nat.lt_of_lt_of_eq inside within.symm) later)
      rw [last, outerReady.node?_arranged, kept]
      · rfl
      · exact Nat.lt_trans inFront behind
      · intro node found
        obtain ⟨inner, foundInner, sameOutline⟩ :=
          ready.exists_filled context (kept.symm.trans found)
        obtain ⟨place, isAbove, notBefore⟩ := ready.exists_parent context behind foundInner
        have sameParent : inner.parent = node.parent := congrArg NodeOutline.parent sameOutline
        rw [← sameParent, isAbove]
        intro same
        cases same
        exact Nat.not_lt.mpr notBefore inFront

end Final

end DesignScene
