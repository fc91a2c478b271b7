/-
This file says where the final sizes of an item come from.
-/
import DesignScene.Proofs.Render.Fillings

namespace DesignScene

open Outlines SceneGraph

namespace SceneGraph

section Definitions

variable {α : Type} [Scalar α] (graph : SceneGraph α)

/-- The width that a frame gives to one of its children, before the bounds of the child apply. -/
def widthFor? (frame child : Nat) : Option α :=
  (graph.node? frame).bind fun node => node.frame?.bind fun props =>
    (graph.node? child).bind (Arrange.widthFor? props node (graph.visibleChildren frame))

def heightFor? (frame child : Nat) : Option α :=
  (graph.node? frame).bind fun node => node.frame?.bind fun props =>
    (graph.node? child).bind (Arrange.heightFor? props node (graph.visibleChildren frame))

/-- The width at which a frame hugs its children, where it does so. -/
def hugWidth? (frame : Nat) : Option α :=
  (graph.node? frame).bind fun node => node.frame?.bind fun props =>
    Arrange.hugWidth? props node (graph.visibleChildren frame)

def hugHeight? (frame : Nat) : Option α :=
  (graph.node? frame).bind fun node => node.frame?.bind fun props =>
    Arrange.hugHeight? props node (graph.visibleChildren frame)

end Definitions

section Families

variable {α : Type} [Scalar α] {graph : SceneGraph α} {id : Nat} {frame : SceneNode α}
  {props : FrameProps α} {children : List (SceneNode α)}

/-- The hugged width of a graph is that of the frame and its children. -/
theorem Family.hugWidth?_eq (family : graph.Family id frame children)
    (isFrame : frame.frame? = some props) :
    graph.hugWidth? id = Arrange.hugWidth? props frame children := by
  rw [hugWidth?, family.found, Option.bind_some, isFrame, Option.bind_some,
    family.visibleChildren_eq]

/-- The hugged height of a graph is that of the frame and its children. -/
theorem Family.hugHeight?_eq (family : graph.Family id frame children)
    (isFrame : frame.frame? = some props) :
    graph.hugHeight? id = Arrange.hugHeight? props frame children := by
  rw [hugHeight?, family.found, Option.bind_some, isFrame, Option.bind_some,
    family.visibleChildren_eq]

/-- The width a graph gives a child is the one its frame gives it. -/
theorem Family.widthFor?_eq (sound : WellFormed graph.outline)
    (family : graph.Family id frame children) (isFrame : frame.frame? = some props)
    {child : SceneNode α} (member : child ∈ children) :
    graph.widthFor? id child.id = Arrange.widthFor? props frame children child := by
  rw [widthFor?, family.found, Option.bind_some, isFrame, Option.bind_some,
    family.node?_child sound member, Option.bind_some, family.visibleChildren_eq]

/-- The height a graph gives a child is the one its frame gives it. -/
theorem Family.heightFor?_eq (sound : WellFormed graph.outline)
    (family : graph.Family id frame children) (isFrame : frame.frame? = some props)
    {child : SceneNode α} (member : child ∈ children) :
    graph.heightFor? id child.id = Arrange.heightFor? props frame children child := by
  rw [heightFor?, family.found, Option.bind_some, isFrame, Option.bind_some,
    family.node?_child sound member, Option.bind_some, family.visibleChildren_eq]

end Families

end SceneGraph

namespace Filling

section Definitions

variable {α σ : Type} [Scalar α] (context : RenderContext α σ) (filling : Filling α σ)
  (siblings : Siblings α)

/-- The width that the frame gives to the item between these siblings. -/
def widthFor? : Option α :=
  (filling.filled context).graph.widthFor? filling.frame (filling.site context siblings).start

def heightFor? : Option α :=
  (filling.filled context).graph.heightFor? filling.frame (filling.site context siblings).start

/-- The width at which the frame hugs its items. -/
def hugWidth? : Option α := (filling.filled context).graph.hugWidth? filling.frame

def hugHeight? : Option α := (filling.filled context).graph.hugHeight? filling.frame

/-- The node of the item between these siblings, right after it was made. -/
def made? (item : LayoutItem α) : Option (SceneNode α) :=
  ((filling.site context siblings).stage.make context filling.frame
    (filling.site context siblings).path item).graph.node? (filling.site context siblings).start

/-- The width at which an item hugs what is inside it; only a container can do so. -/
def ownWidth? : LayoutItem α → Option α
  | .container spec items => (filling.inner context siblings spec items).hugWidth? context
  | _ => none

def ownHeight? : LayoutItem α → Option α
  | .container spec items => (filling.inner context siblings spec items).hugHeight? context
  | _ => none

end Definitions

section Own

variable {σ : Type}

/-- What the node of an item comes to before the frame around it is arranged. -/
structure Owns (context : RenderContext Rat σ) (filling : Filling Rat σ) (siblings : Siblings Rat)
    (item : LayoutItem Rat) (made own : SceneNode Rat) : Prop where
  makes : Stage.Makes context filling.frame (filling.site context siblings).stage item made
  found : filling.made? context siblings item = some made
  kind_eq : own.kind = made.kind
  constraints_eq : own.constraints = made.constraints
  fixedWidth_eq : own.fixedWidth = made.fixedWidth
  layout_eq : own.layout = made.layout
  width_eq : own.width =
    (filling.ownWidth? context siblings item).elim made.width made.constraints.clampWidth
  height_eq : filling.ownHeight? context siblings item = none → own.height = made.height
  exists_height : filling.ownHeight? context siblings item ≠ none →
    ∃ height, own.height = made.constraints.clampHeight height

variable {context : RenderContext Rat σ} {filling : Filling Rat σ} {siblings : Siblings Rat}
  {made : SceneNode Rat} {props : FrameProps Rat}

theorem Ready.exists_owns_leaf (ready : filling.Ready made props) {item : LayoutItem Rat}
    (sameStage : (filling.site context siblings).stage.make context filling.frame
      (filling.site context siblings).path item =
        Stage.renderAt context filling.frame item (filling.site context siblings))
    (noWidth : filling.ownWidth? context siblings item = none)
    (noHeight : filling.ownHeight? context siblings item = none) :
    ∃ made own, (Stage.renderAt context filling.frame item
        (filling.site context siblings)).graph.node? (filling.site context siblings).start =
          some own ∧ Owns context filling siblings item made own := by
  obtain ⟨made, found, makes⟩ := Stage.exists_made context (filling.site context siblings).path item
    (ready.sound_site context siblings) (ready.lt_start context siblings)
  have foundSame := found
  rw [sameStage] at foundSame
  refine ⟨made, made, foundSame, makes, found, rfl, rfl, rfl, rfl, ?_, fun _ => rfl, ?_⟩
  · rw [noWidth, Option.elim_none]
  · exact fun given => absurd noHeight given

variable (context siblings)

/-- Only the frame of a container changes between its making and the arranging around it. -/
theorem Ready.exists_owns (ready : filling.Ready made props) (item : LayoutItem Rat) :
    ∃ made own, (Stage.renderAt context filling.frame item
        (filling.site context siblings)).graph.node? (filling.site context siblings).start =
          some own ∧ Owns context filling siblings item made own := by
  cases item with
  | container spec items =>
      obtain ⟨made, props, inner, makes⟩ := ready.inner context siblings spec items
      obtain ⟨frame, ⟨children, rfl⟩, isFrame, family⟩ := inner.family context
      have turned := inner.turns context isFrame family
      refine ⟨made, _, turned.family.found, makes, inner.found, rfl, rfl, rfl, rfl, ?_, ?_, ?_⟩
      · rw [ownWidth?, hugWidth?, family.hugWidth?_eq isFrame]
        exact Stage.width_settled
      · intro notHugged
        rw [ownHeight?, hugHeight?, family.hugHeight?_eq isFrame] at notHugged
        exact Stage.height_settled notHugged
      · intro isHugged
        rw [ownHeight?, hugHeight?, family.hugHeight?_eq isFrame] at isHugged
        exact Stage.exists_height_settled isHugged
  | text spec => exact ready.exists_owns_leaf rfl rfl rfl
  | shape spec => exact ready.exists_owns_leaf rfl rfl rfl
  | component spec => exact ready.exists_owns_leaf rfl rfl rfl
  | malformed path reason => exact ready.exists_owns_leaf rfl rfl rfl

end Own

section Final

variable {σ : Type}

/-- What hugs is no text. -/
theorem text?_of_ownHeight {context : RenderContext Rat σ} {filling : Filling Rat σ}
    {siblings : Siblings Rat} {item : LayoutItem Rat} {made : SceneNode Rat}
    (makes : Stage.Makes context filling.frame (filling.site context siblings).stage item made)
    (hugs : filling.ownHeight? context siblings item ≠ none) : made.text? = none := by
  cases makes with
  | container => rfl
  | placeholder => rfl
  | _ => exact absurd rfl hugs

/-- What the node of an item comes to in the final scene. -/
structure Becomes (context : RenderContext Rat σ) (filling : Filling Rat σ) (siblings : Siblings Rat)
    (item : LayoutItem Rat) (made node : SceneNode Rat) : Prop where
  makes : Stage.Makes context filling.frame (filling.site context siblings).stage item made
  found : filling.made? context siblings item = some made
  kind_eq : node.kind = made.kind
  constraints_eq : node.constraints = made.constraints
  fixedWidth_eq : node.fixedWidth = made.fixedWidth
  width_eq : node.width = ((filling.widthFor? context siblings).or
    (filling.ownWidth? context siblings item)).elim made.width made.constraints.clampWidth
  height_eq : (filling.heightFor? context siblings).or (filling.ownHeight? context siblings item) =
    none → node.height = (Stage.measured context.host { made with width := node.width }).height
  exists_height : (filling.heightFor? context siblings).or
    (filling.ownHeight? context siblings item) ≠ none →
      ∃ height, node.height = made.constraints.clampHeight height

variable {context : RenderContext Rat σ} {filling : Filling Rat σ} {siblings : Siblings Rat}
  {item : LayoutItem Rat} {made own node frame : SceneNode Rat} {props : FrameProps Rat}
  {children : List (SceneNode Rat)}

/-- A child that settles with the given width and height becomes what its frame says. -/
theorem Owns.becomes (owns : Owns context filling siblings item made own)
    (settles : Stage.Settles context.host props frame children own node)
    (width_eq : filling.widthFor? context siblings = Arrange.widthFor? props frame children own)
    (height_eq : filling.heightFor? context siblings = Arrange.heightFor? props frame children own) :
    Becomes context filling siblings item made node := by
  have same := settles.same
  constructor
  · exact owns.makes
  · exact owns.found
  · obtain ⟨_, _, _, _, rfl⟩ := same
    exact owns.kind_eq
  · obtain ⟨_, _, _, _, rfl⟩ := same
    exact owns.constraints_eq
  · obtain ⟨_, _, _, _, rfl⟩ := same
    exact owns.fixedWidth_eq
  · rw [settles.width_eq, owns.width_eq, owns.constraints_eq, width_eq]
    cases Arrange.widthFor? props frame children own <;> rfl
  · intro notGiven
    rw [Option.or_eq_none_iff, height_eq] at notGiven
    have ownHeight := owns.height_eq notGiven.2
    have sameMeasure : Stage.remeasuredHeight context.host { own with width := node.width } =
        Stage.remeasuredHeight context.host { made with width := node.width } :=
      Stage.remeasuredHeight_congr _ owns.kind_eq rfl ownHeight
    rw [settles.height_eq notGiven.1, Stage.height_measured, Stage.height_measured, sameMeasure]
    exact congrArg _ ownHeight
  · intro given
    rw [← owns.constraints_eq]
    cases fromFrame : Arrange.heightFor? props frame children own with
    | some height => exact settles.exists_height (by rw [fromFrame]; exact Option.some_ne_none _)
    | none =>
        rw [height_eq, fromFrame, Option.none_or] at given
        have noText : own.text? = none := by
          rw [SceneNode.text?, owns.kind_eq]
          exact text?_of_ownHeight owns.makes given
        have unmeasured : Stage.remeasuredHeight context.host { own with width := node.width } =
            none := by
          have sameText : SceneNode.text? { own with width := node.width } = own.text? := rfl
          rw [Stage.remeasuredHeight, sameText, noText]
        obtain ⟨height, ownHeight⟩ := owns.exists_height given
        refine ⟨height, ?_⟩
        rw [settles.height_eq fromFrame, Stage.height_measured, unmeasured, Option.getD_none,
          ownHeight, owns.constraints_eq]

/-- The node of an item settles once more when the frame around it is arranged, and is final then. -/
theorem exists_settles {document : LayoutDocument Rat} {hostState : σ}
    {above : List (ContainerSpec Rat)} (fills : Fills context document hostState above filling)
    (cursor : CanvasCursor Rat) (here : filling.items = siblings.around item) :
    ∃ props frame children own node, (Stage.renderAt context filling.frame item
        (filling.site context siblings)).graph.node? (filling.site context siblings).start = some own ∧
      (finalGraph context document cursor hostState).node? (filling.site context siblings).start =
        some node ∧
      Stage.Settles context.host props frame children own node ∧
        filling.widthFor? context siblings = Arrange.widthFor? props frame children own ∧
          filling.heightFor? context siblings = Arrange.heightFor? props frame children own := by
  obtain ⟨frameMade, props, ready⟩ := fills.ready
  have sound := ready.sound_filled context
  obtain ⟨own, found, named, isChild⟩ := ready.exists_own context here
  obtain ⟨frame, -, isFrame, family⟩ := ready.family context
  have turned := ready.turns context isFrame family
  obtain ⟨node, isNode, settles⟩ :=
    Arrange.exists_of_forall₂_left Stage.settles_settled isChild
  have start_eq : node.id = (filling.site context siblings).start := by
    obtain ⟨_, _, _, _, rfl⟩ := settles.same
    exact named
  have foundArranged := turned.family.node?_child
    ((ready.keeps_arranged context).wellFormed sound) isNode
  rw [start_eq] at foundArranged
  have inFinal : (finalGraph context document cursor hostState).node?
      (filling.site context siblings).start = some node := by
    obtain ⟨form, _, grown⟩ := ready.grows_item context siblings item
    have within := Nat.lt_of_lt_of_le grown.lt_size (ready.size_le_filled here)
    rw [fills.node?_final cursor (ready.lt_start context siblings) within, foundArranged]
  refine ⟨props, frame, _, own, node, found, inFinal, settles, ?_, ?_⟩
  · rw [widthFor?, ← named, family.widthFor?_eq sound isFrame isChild]
  · rw [heightFor?, ← named, family.heightFor?_eq sound isFrame isChild]

/-- Every item of a frame comes to its node in the final scene. -/
theorem exists_becomes {document : LayoutDocument Rat} {hostState : σ}
    {above : List (ContainerSpec Rat)} (fills : Fills context document hostState above filling)
    (cursor : CanvasCursor Rat) (here : filling.items = siblings.around item) :
    ∃ made node, (finalGraph context document cursor hostState).node?
        (filling.site context siblings).start = some node ∧
      Becomes context filling siblings item made node := by
  obtain ⟨frameMade, props, ready⟩ := fills.ready
  obtain ⟨made, same, foundSame, owns⟩ := ready.exists_owns context siblings item
  obtain ⟨_, _, _, own, node, found, inFinal, settles, width_eq, height_eq⟩ :=
    exists_settles fills cursor here
  rw [found] at foundSame
  obtain rfl := Option.some.inj foundSame
  exact ⟨made, node, inFinal, owns.becomes settles width_eq height_eq⟩

/-- A root of a fixed width keeps the width of its making, unless it hugs its items. -/
theorem exists_root (context : RenderContext Rat σ) (document : LayoutDocument Rat)
    (cursor : CanvasCursor Rat) (hostState : σ) :
    ∃ fills made node, made = widened context document.root
        (Stage.newFrame none document.root fills (Stage.start hostState)) ∧
      (finalGraph context document cursor hostState).node? 0 = some node ∧
        node.fixedWidth = made.fixedWidth ∧
          (made.fixedWidth = true → node.width =
            ((ofDocument context document hostState).hugWidth? context).elim made.width
              made.constraints.clampWidth) := by
  obtain ⟨fills, props, ready⟩ := ready_ofDocument context document hostState
  obtain ⟨frame, ⟨children, rfl⟩, isFrame, family⟩ := ready.family context
  have turned := ready.turns context isFrame family
  obtain ⟨fit, final_eq, keeps⟩ := exists_finalGraph_eq context document cursor hostState
  have found := node?_update_self turned.family.found fit
  rw [final_eq]
  refine ⟨fills, _, _, rfl, found, (keeps _).2.1, fun isFixed => ?_⟩
  rw [hugWidth?, family.hugWidth?_eq isFrame]
  refine ((keeps _).2.2 ?_).trans Stage.width_settled
  exact isFixed

end Final

/-- A column without a name of its own. -/
def columnOf (width : Option Rat) (directive : LayoutDirective Rat) : ContainerSpec Rat :=
  { ContainerSpec.standard with name := none, width := width, directive := directive }

end Filling

end DesignScene
