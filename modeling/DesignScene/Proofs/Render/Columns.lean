/-
This file says how wide filling items end in columns that fill each other.
-/
import DesignScene.Proofs.Render.FinalSizes
import DesignScene.Proofs.Scene.Bounds

namespace DesignScene

open Outlines SceneGraph

section Specs

variable {α : Type}

/-- The directive asks for no more than a horizontal sizing. -/
structure LayoutDirective.IsPlain (directive : LayoutDirective α) : Prop where
  layoutAlign_eq : directive.layoutAlign = none
  layoutGrow_eq : directive.layoutGrow = none
  constraints_eq : directive.constraints = {}

/-- The directive asks for no more than to fill the parent. -/
structure LayoutDirective.Fills (directive : LayoutDirective α) : Prop extends
    LayoutDirective.IsPlain directive where
  fills : directive.horizontalSizing = some .fill

/-- A column without sizing modes. -/
structure ContainerSpec.IsPlainColumn (spec : ContainerSpec α) : Prop where
  mode_eq : spec.layoutMode = .vertical
  primary_eq : spec.primaryAxisSizingMode = none
  counter_eq : spec.counterAxisSizingMode = none
  plain : spec.directive.IsPlain

/-- A column that fills its parent and has no width of its own. -/
structure ContainerSpec.IsLink (spec : ContainerSpec α) : Prop extends
    ContainerSpec.IsPlainColumn spec where
  width_eq : spec.width = none
  fills : spec.directive.Fills

/-- A further column of a chain, or a text or a shape that fills the last one. -/
def LayoutItem.IsLink : LayoutItem α → Prop
  | container spec _ => spec.IsLink
  | text spec => spec.directive.Fills
  | shape spec => spec.directive.Fills
  | _ => False

/-- A filling directive does not hug. -/
theorem LayoutDirective.Fills.hugs_eq {directive : LayoutDirective α} (fills : directive.Fills) :
    directive.hugs = false := by
  simp [LayoutDirective.hugs, fills.fills]

/-- Fixing the width of a column fixes its counter axis. -/
theorem FrameProps.fixWidth_of_vertical {props : FrameProps α}
    (isColumn : props.layoutMode = .vertical) :
    props.fixWidth = { props with counterSizing := .fixed } := by
  simp only [FrameProps.fixWidth, isColumn]

variable [Scalar α] {spec : ContainerSpec α} {directive : LayoutDirective α}

/-- A filling child of a column is stretched. -/
theorem LayoutDirective.Fills.layoutAlign_forParent (fills : directive.Fills) :
    (directive.forParent .vertical).layoutAlign = .stretch := by
  simp [LayoutDirective.forParent, LayoutDirective.fillsUnder, fills.layoutAlign_eq, fills.fills,
    LayoutMode.isAutoLayout]

/-- A filling child of a column fills its width. -/
theorem LayoutDirective.Fills.fillsWidth_forParent (fills : directive.Fills) :
    (directive.forParent .vertical).fillsWidth = true := by
  simp [LayoutDirective.forParent, LayoutDirective.fillsUnder, fills.fills, LayoutMode.isAutoLayout]

/-- The frame of a column is vertical. -/
theorem ContainerSpec.layoutMode_frameProps (isColumn : spec.layoutMode = .vertical) (hugs : Bool)
    (fills : List Paint) : (spec.frameProps hugs fills).layoutMode = .vertical := by
  simp [ContainerSpec.frameProps, isColumn, LayoutMode.isAutoLayout]

/-- The frame of a column has its padding. -/
theorem ContainerSpec.padding_frameProps (isColumn : spec.layoutMode = .vertical) (hugs : Bool)
    (fills : List Paint) : (spec.frameProps hugs fills).padding = spec.padding := by
  simp [ContainerSpec.frameProps, isColumn, LayoutMode.isAutoLayout]

/-- A plain column is fixed across just when a width is given. -/
theorem ContainerSpec.IsPlainColumn.counterSizing_frameProps (column : spec.IsPlainColumn)
    (hugs : Bool) (fills : List Paint) :
    (spec.frameProps hugs fills).counterSizing = sizingOf (!hugs && spec.width.isSome) := by
  cases hugs <;>
    simp [ContainerSpec.frameProps, ContainerSpec.sizing, ContainerSpec.authoredSizes, sizingOf,
      column.mode_eq, column.counter_eq, LayoutMode.isAutoLayout]

end Specs

namespace Stage

variable {α σ : Type} [Scalar α] {context : RenderContext α σ} {parent : Nat} {stage : Stage α σ}
  {item : LayoutItem α} {made : SceneNode α} {spec : ContainerSpec α}

/-- An authored width stays as it is, whatever the parent is. -/
theorem frame?_newFrame_of_width (parent : Option Nat) {width : α}
    (authored : spec.width = some width) (fills : List Paint) : (stage.newFrame parent spec fills).frame? =
      some (spec.frameProps spec.directive.hugs fills) := by
  simp only [newFrame, newNode, SceneNode.frame?, authored, Option.isNone_some, Bool.and_false,
    Bool.false_eq_true, if_false]
  rfl

section Links

variable (link : spec.IsLink) (inColumn : stage.layoutModeOf (some parent) = .vertical)
  (fills : List Paint)

include link inColumn

/-- A link of a chain takes the inner width of its parent. -/
theorem fillWidth_of_link :
    stage.fillWidth (spec.directive.forParent .vertical) (some parent) =
      stage.graph.innerWidth parent := by
  rw [fillWidth, link.fills.fillsWidth_forParent, inColumn]
  rfl

/-- The new frame of a link is as wide as the inside of its parent. -/
theorem width_newFrame_of_link : (stage.newFrame (some parent) spec fills).width =
    (stage.graph.innerWidth parent).getD (Scalar.ofNat 0) := by
  simp only [newFrame, newNode, inColumn, fillWidth_of_link link inColumn, link.width_eq,
    Option.none_or]

/-- The new frame of a link fills its width. -/
theorem fillsWidth_newFrame_of_link :
    (stage.newFrame (some parent) spec fills).layout.fillsWidth = true := by
  simp only [newFrame, inColumn, link.fills.fillsWidth_forParent]

/-- A column takes its width from its parent where the width of the parent is authored. -/
theorem frame?_newFrame_of_link : (stage.newFrame (some parent) spec fills).frame? = some
    (if (stage.graph.innerWidth parent).isSome then
      { spec.frameProps false fills with counterSizing := .fixed }
    else spec.frameProps false fills) := by
  have hugs_eq : (spec.directive.forParent LayoutMode.vertical).hugContents = false :=
    link.fills.hugs_eq
  have isColumn := ContainerSpec.layoutMode_frameProps link.mode_eq false fills
  simp only [newFrame, newNode, SceneNode.frame?, inColumn, hugs_eq, link.width_eq,
    fillWidth_of_link link inColumn, Option.isNone_none, Bool.and_true,
    FrameProps.fixWidth_of_vertical isColumn]

/-- A column that takes its width from its parent is sized like one with an authored width. -/
theorem props_newFrame_of_link {props : FrameProps α}
    (isFrame : (stage.newFrame (some parent) spec fills).frame? = some props) :
    props.layoutMode = .vertical ∧ props.padding = spec.padding ∧
      props.counterSizing = sizingOf (stage.graph.innerWidth parent).isSome := by
  have isColumn := ContainerSpec.layoutMode_frameProps link.mode_eq false fills
  have samePadding := ContainerSpec.padding_frameProps link.mode_eq false fills
  rw [frame?_newFrame_of_link link inColumn] at isFrame
  obtain rfl := Option.some.inj isFrame
  cases (stage.graph.innerWidth parent).isSome with
  | true => exact ⟨isColumn, samePadding, rfl⟩
  | false =>
      refine ⟨isColumn, samePadding, ?_⟩
      rw [if_neg Bool.false_ne_true, link.toIsPlainColumn.counterSizing_frameProps, link.width_eq]
      rfl

end Links

/-- A column stretches what fills it. -/
theorem Makes.layoutAlign_eq (makes : Makes context parent stage item made)
    (inColumn : stage.layoutModeOf (some parent) = .vertical) (link : item.IsLink)
    (built : made.isPlaceholder = false) : made.layout.layoutAlign = .stretch := by
  cases makes with
  | container spec items fills =>
      have link : spec.IsLink := link
      simp only [newFrame, inColumn]
      exact link.fills.layoutAlign_forParent
  | text spec props =>
      have fills : spec.directive.Fills := link
      simp only [newText, inColumn]
      exact fills.layoutAlign_forParent
  | shape spec paints =>
      have fills : spec.directive.Fills := link
      simp only [newShape, inColumn]
      exact fills.layoutAlign_forParent
  | component => exact link.elim
  | placeholder => cases built

/-- A link has no size constraints. -/
theorem Makes.constraints_of_link (makes : Makes context parent stage item made)
    (link : item.IsLink) (built : made.isPlaceholder = false) : made.constraints = {} := by
  rw [makes.constraints_eq built]
  cases item with
  | container spec items => exact link.plain.constraints_eq
  | text spec => exact link.constraints_eq
  | shape spec => exact link.constraints_eq
  | component => exact link.elim
  | malformed => exact link.elim

end Stage

/-- Every node is still there, perhaps with more children. -/
def SceneGraph.Extends {α : Type} (graph later : SceneGraph α) : Prop :=
  ∀ id node, graph.node? id = some node →
    ∃ children, later.node? id = some (node.addChildren children)

/-- Extending a graph is transitive. -/
theorem SceneGraph.Extends.trans {α : Type} {graph next later : SceneGraph α}
    (first : graph.Extends next) (second : next.Extends later) : graph.Extends later := by
  intro id node found
  obtain ⟨children, foundNext⟩ := first id node found
  obtain ⟨more, foundLater⟩ := second id _ foundNext
  refine ⟨children ++ more, ?_⟩
  rw [foundLater, SceneNode.addChildren, SceneNode.addChildren, SceneNode.addChildren,
    List.append_assoc]

section Climbing

variable {α : Type} [Scalar α] {graph : SceneGraph α} {id : Nat} {node : SceneNode α} {padding : α}

/-- The climb ends at the first node of a fixed width. -/
theorem SceneGraph.effectiveWidthFrom_of_fixed (found : graph.node? id = some node)
    (inset_eq : insetOf node = some padding) (isFixed : node.fixedWidth = true) (steps : Nat)
    (inset : α) : graph.effectiveWidthFrom (steps + 1) inset id =
      some (node.width, Scalar.atLeastZero (node.width - (inset + padding))) := by
  simp only [effectiveWidthFrom, found, inset_eq, Option.elim_some, isFixed, if_true]

/-- A node without a fixed width is climbed over where it fills its parent. -/
theorem SceneGraph.effectiveWidthFrom_of_fills {parent : Nat} (found : graph.node? id = some node)
    (inset_eq : insetOf node = some padding) (notFixed : node.fixedWidth = false)
    (fills : node.layout.fillsWidth = true) (isInside : node.parent = some parent) (steps : Nat)
    (inset : α) : graph.effectiveWidthFrom (steps + 1) inset id =
      graph.effectiveWidthFrom steps (inset + padding) parent := by
  simp only [effectiveWidthFrom, found, inset_eq, Option.elim_some, notFixed, Bool.false_eq_true,
    if_false, fills, if_true, isInside, Option.bind_some]

end Climbing

/-- A grown stage extends the graph. -/
theorem Stage.Grows.extended {α σ : Type} {parent : Option Nat} {sketches : List Sketch}
    {stage later : Stage α σ} (grown : Stage.Grows parent sketches stage later) :
    stage.graph.Extends later.graph := by
  intro id node found
  obtain ⟨within, -⟩ := Array.getElem?_eq_some_iff.mp found
  have kept := grown.node?_eq id within
  rw [found, Option.map_some] at kept
  split at kept
  · exact ⟨_, kept⟩
  · refine ⟨[], ?_⟩
    rw [kept, SceneNode.addChildren, List.append_nil]

namespace Filling

/-- What the padding of a column leaves of a width. -/
def inside (width : Rat) (spec : ContainerSpec Rat) : Rat :=
  Scalar.atLeastZero (width - spec.padding.horizontal)

/-- What the paddings of all columns leave of a width. -/
def insideAll (width : Rat) (above : List (ContainerSpec Rat)) : Rat :=
  Scalar.atLeastZero (width - (above.map fun spec => spec.padding.horizontal).sum)

/-- The width that the first of these columns gives to its items, where the last is the root. -/
def givenWidth (width : Rat) : List (ContainerSpec Rat) → Option Rat
  | [root] => if root.directive.hugs then none else some (inside width root)
  | [first, root] => some (inside (inside width root) first)
  | _ => none

variable {σ : Type} {context : RenderContext Rat σ} {filling : Filling Rat σ}
  {siblings : Siblings Rat} {made : SceneNode Rat} {props : FrameProps Rat} {width : Rat}
  {spec : ContainerSpec Rat} {outer : List (ContainerSpec Rat)}

/-- A ready frame insets its children by its horizontal padding. -/
theorem Ready.insetOf_eq (ready : filling.Ready made props) (children : List Nat) :
    insetOf (made.addChildren children) = some props.padding.horizontal := by
  rw [insetOf]
  exact congrArg (Option.map _) ready.isFrame

/-- The earlier siblings add children to a ready frame and nothing else. -/
theorem Ready.node?_site (ready : filling.Ready made props) (context : RenderContext Rat σ)
    (siblings : Siblings Rat) : ∃ children,
      (filling.site context siblings).stage.graph.node? filling.frame =
        some (made.addChildren children) := by
  obtain ⟨sketches, grown⟩ :=
    Stage.grows_siteOf context filling.path ready.sound ready.within siblings
  exact grown.extended _ _ ready.found

/-- The earlier siblings keep the direction of a ready frame. -/
theorem Ready.layoutModeOf_site (ready : filling.Ready made props) (context : RenderContext Rat σ)
    (siblings : Siblings Rat) :
    (filling.site context siblings).stage.layoutModeOf (some filling.frame) = props.layoutMode := by
  obtain ⟨children, found⟩ := ready.node?_site context siblings
  have isFrame : (made.addChildren children).frame? = some props := ready.isFrame
  rw [Stage.layoutModeOf, Option.bind_some, found, Option.bind_some, isFrame, Option.elim_some]

/-- A ready frame has an inner width just when its own width is fixed. -/
theorem Ready.innerWidth_site (ready : filling.Ready made props) (context : RenderContext Rat σ)
    (siblings : Siblings Rat) :
    (filling.site context siblings).stage.graph.innerWidth filling.frame =
      if made.fixedWidth then some (Scalar.atLeastZero (made.width - props.padding.horizontal))
      else none := by
  obtain ⟨children, found⟩ := ready.node?_site context siblings
  simp only [innerWidth, found, ready.insetOf_eq children, Option.getD_some]
  rfl

/-- The frame of the innermost of some columns, the last of which is a root of this width. -/
structure Column (width : Rat) (filling : Filling Rat σ) (spec : ContainerSpec Rat)
    (outer : List (ContainerSpec Rat)) (made : SceneNode Rat) (props : FrameProps Rat) : Prop where
  ready : filling.Ready made props
  mode_eq : props.layoutMode = .vertical
  padding_eq : props.padding = spec.padding
  fixedWidth_eq : made.fixedWidth = outer.isEmpty
  width_eq : outer = [] → made.width = width
  given_eq : (if props.counterSizing == .fixed then some (inside made.width spec) else none) =
    givenWidth width (spec :: outer)
  effectiveWidth_eq : ∀ later, filling.stage.graph.Extends later → ∀ steps inset,
    filling.frame < steps → later.effectiveWidthFrom steps inset filling.frame =
      some (width, Scalar.atLeastZero
        (width - (inset + ((spec :: outer).map fun spec => spec.padding.horizontal).sum)))

/-- The stage of a container inside a frame has all nodes of the stage of the frame. -/
theorem Ready.extended_inner (ready : filling.Ready made props) (context : RenderContext Rat σ)
    (siblings : Siblings Rat) (spec : ContainerSpec Rat) (items : List (LayoutItem Rat)) :
    filling.stage.graph.Extends (filling.inner context siblings spec items).stage.graph := by
  obtain ⟨sketches, before⟩ :=
    Stage.grows_siteOf context filling.path ready.sound ready.within siblings
  have framed := Stage.grows_addFrame context spec
    (Stage.hasParent_some (ready.lt_start context siblings))
  exact before.extended.trans framed.extended

/-- A column inside a column. -/
theorem Column.inner {outerSpec : ContainerSpec Rat}
    (column : Column width filling outerSpec outer made props) (context : RenderContext Rat σ)
    (siblings : Siblings Rat) (link : spec.IsLink) (items : List (LayoutItem Rat)) :
    ∃ made props, Column width (filling.inner context siblings spec items) spec
      (outerSpec :: outer) made props := by
  obtain ⟨innerMade, innerProps, ready, makes⟩ := column.ready.inner context siblings spec items
  cases makes with
  | placeholder => cases ready.isFrame
  | container _ _ fills =>
      have inColumn := (column.ready.layoutModeOf_site context siblings).trans column.mode_eq
      have inner_eq := column.ready.innerWidth_site context siblings
      rw [column.fixedWidth_eq, column.padding_eq] at inner_eq
      obtain ⟨mode_eq, padding_eq, counter_eq⟩ :=
        Stage.props_newFrame_of_link link inColumn fills ready.isFrame
      have fixedWidth_eq : (Stage.newFrame (some filling.frame) spec fills
          (filling.site context siblings).stage).fixedWidth = false := by
        rw [Stage.fixedWidth_newFrame, link.width_eq, Option.isSome_none]
      refine ⟨_, innerProps, ready, mode_eq, padding_eq, fixedWidth_eq, nofun, ?_, ?_⟩
      · rw [Stage.width_newFrame_of_link link inColumn, counter_eq, inner_eq]
        cases outer with
        | nil =>
            rw [column.width_eq rfl]
            rfl
        | cons next more => rfl
      · intro later kept steps inset inFront
        obtain ⟨more, rfl⟩ := Nat.exists_eq_add_one_of_ne_zero (Nat.ne_zero_of_lt inFront)
        obtain ⟨children, found⟩ := kept _ _ ready.found
        have outside := (column.ready.extended_inner context siblings spec items).trans kept
        have behind := Nat.lt_of_lt_of_le (column.ready.lt_start context siblings)
          (Nat.le_of_lt_succ inFront)
        have climbed := column.effectiveWidth_eq later outside more
          (inset + spec.padding.horizontal) behind
        rw [effectiveWidthFrom_of_fills found (ready.insetOf_eq children) fixedWidth_eq
          (Stage.fillsWidth_newFrame_of_link link inColumn fills) rfl, padding_eq, List.map_cons,
          List.sum_cons, ← Rat.add_assoc]
        exact climbed

/-- A root with an authored width is a column that is inside no other. -/
theorem exists_root_column (context : RenderContext Rat σ) {document : LayoutDocument Rat}
    (hostState : σ) (isColumn : document.root.IsPlainColumn)
    (authored : document.root.width = some width) :
    ∃ made props, Column width (ofDocument context document hostState) document.root [] made
      props := by
  obtain ⟨fills, props, ready⟩ := ready_ofDocument context document hostState
  rw [widened_of_width context authored] at ready
  have mode_eq := ContainerSpec.layoutMode_frameProps isColumn.mode_eq
    document.root.directive.hugs fills
  have isFrame := ready.isFrame
  rw [Stage.frame?_newFrame_of_width none authored] at isFrame
  have props_eq := (Option.some.inj isFrame).symm
  have padding_eq : props.padding = document.root.padding := by
    rw [props_eq]
    exact ContainerSpec.padding_frameProps isColumn.mode_eq _ _
  have made_eq : (Stage.newFrame none document.root fills (Stage.start hostState)).width =
      width := Stage.width_newFrame_of_width _ _ _ authored
  have fixed : (Stage.newFrame none document.root fills (Stage.start hostState)).fixedWidth =
      true := by
    rw [Stage.fixedWidth_newFrame, authored, Option.isSome_some]
  refine ⟨_, props, ready, ?_, padding_eq, fixed, fun _ => made_eq, ?_, ?_⟩
  · rw [props_eq]
    exact mode_eq
  · rw [made_eq, props_eq, isColumn.counterSizing_frameProps, authored, givenWidth]
    cases document.root.directive.hugs <;> rfl
  · intro later kept steps inset inFront
    obtain ⟨more, rfl⟩ := Nat.exists_eq_add_one_of_ne_zero (Nat.ne_zero_of_lt inFront)
    obtain ⟨children, found⟩ := kept _ _ ready.found
    rw [effectiveWidthFrom_of_fixed found (ready.insetOf_eq children) fixed, padding_eq,
      List.map_cons, List.map_nil, List.sum_singleton]
    exact congrArg (fun size => some (size, Scalar.atLeastZero (size - _))) made_eq

/-- The frame of every chain of columns below a root with an authored width is a column. -/
theorem exists_column {document : LayoutDocument Rat} {hostState : σ}
    {above : List (ContainerSpec Rat)} (fills : Fills context document hostState above filling)
    (isColumn : document.root.IsPlainColumn) (authored : document.root.width = some width)
    (links : ∀ spec ∈ above.dropLast, spec.IsLink) :
    ∃ spec outer made props, above = spec :: outer ∧
      Column width filling spec outer made props := by
  induction fills with
  | root =>
      obtain ⟨made, props, column⟩ := exists_root_column context hostState isColumn authored
      exact ⟨_, _, made, props, rfl, column⟩
  | @inside above filling siblings spec items outerFills here ih =>
      have notEmpty : above ≠ [] := by cases outerFills <;> nofun
      rw [List.dropLast_cons_of_ne_nil notEmpty] at links
      obtain ⟨outerSpec, outer, made, props, rfl, column⟩ :=
        ih fun outerSpec member => links outerSpec (List.mem_cons_of_mem _ member)
      obtain ⟨innerMade, innerProps, inner⟩ :=
        column.inner context siblings (links spec List.mem_cons_self) items
      exact ⟨_, _, innerMade, innerProps, rfl, inner⟩

/-- One frame around insets a width once. -/
theorem insideAll_singleton (width : Rat) (root : ContainerSpec Rat) :
    insideAll width [root] = inside width root := by
  rw [insideAll, inside, List.map_cons, List.map_nil, List.sum_singleton]

/-- A width that is used up in the root is only missing where the next padding is negative. -/
theorem inside_inside_eq_iff (width : Rat) (first root : ContainerSpec Rat) :
    inside (inside width root) first = insideAll width [first, root] ↔
      root.padding.horizontal ≤ width ∨ 0 ≤ first.padding.horizontal := by
  simp only [inside, insideAll, List.map_cons, List.map_nil, List.sum_cons, List.sum_nil,
    Scalar.atLeastZero_eq_max]
  grind

/-- The effective width below a chain is its width less all paddings. -/
theorem Column.effectiveWidth_site (column : Column width filling spec outer made props)
    (context : RenderContext Rat σ) (siblings : Siblings Rat) :
    (filling.site context siblings).stage.graph.effectiveWidth filling.frame =
      some (width, insideAll width (spec :: outer)) := by
  obtain ⟨sketches, grown⟩ :=
    Stage.grows_siteOf context filling.path column.ready.sound column.ready.within siblings
  have climbed := column.effectiveWidth_eq _ grown.extended (filling.frame + 1) 0
    (Nat.lt_succ_self _)
  rw [Rat.zero_add] at climbed
  exact climbed

/-- A text that fills a chain of columns is measured at the width that the paddings leave. -/
theorem Column.width_text (column : Column width filling spec outer made props)
    {itemMade : SceneNode Rat} {textProps : TextProps Rat}
    (makes : Stage.Makes context filling.frame (filling.site context siblings).stage item itemMade)
    (link : item.IsLink) (isText : itemMade.text? = some textProps) :
    itemMade.width = (context.host.measureText textProps.characters textProps.fontSize
      (some (insideAll width (spec :: outer)))).1 := by
  have inColumn := (column.ready.layoutModeOf_site context siblings).trans column.mode_eq
  cases makes with
  | text spec props =>
      have fills : spec.directive.Fills := link
      obtain rfl := Option.some.inj isText
      simp only [Stage.newText, newNode, inColumn, fills.fillsWidth_forParent, Stage.wrapping,
        column.effectiveWidth_site]
      rfl
  | shape spec => cases spec with | mk shape => cases shape <;> cases isText
  | component isInstance => exact link.elim
  | container => cases isText
  | placeholder => cases isText

/-- An innermost column gives the same width to all that fills it. -/
theorem Column.widthFor?_eq (column : Column width filling spec outer made props)
    (here : filling.items = siblings.around item) (link : item.IsLink) {itemMade : SceneNode Rat}
    (isMade : filling.made? context siblings item = some itemMade)
    (built : itemMade.isPlaceholder = false) :
    filling.widthFor? context siblings = givenWidth width (spec :: outer) := by
  have ready := column.ready
  obtain ⟨own, found, named, isChild⟩ := ready.exists_own context here
  obtain ⟨sameMade, sameOwn, foundSame, owns⟩ := ready.exists_owns context siblings item
  obtain rfl : own = sameOwn := Option.some.inj (found.symm.trans foundSame)
  obtain rfl : itemMade = sameMade := Option.some.inj (isMade.symm.trans owns.found)
  have inColumn := (ready.layoutModeOf_site context siblings).trans column.mode_eq
  have stretched : own.layout.layoutAlign = .stretch := by
    rw [owns.layout_eq]
    exact owns.makes.layoutAlign_eq inColumn link built
  obtain ⟨frame, ⟨children, rfl⟩, isFrame, family⟩ := ready.family context
  have inner_eq : Arrange.innerCross props (made.addChildren children) = inside made.width spec := by
    simp only [Arrange.innerCross, Arrange.crossPadding, Arrange.isVertical, column.mode_eq,
      SceneNode.crossSize, column.padding_eq, inside]
    rfl
  rw [widthFor?, ← named, family.widthFor?_eq (ready.sound_filled context) isFrame isChild,
    ← column.given_eq]
  simp only [Arrange.widthFor?, column.mode_eq, Arrange.crossFor?, Arrange.stretches, stretched,
    inner_eq, beq_self_eq_true, Bool.and_true]

/-- A filling item with this width of its own ends with what the paddings of the columns leave. -/
def FillsAll (width own : Rat) : List (ContainerSpec Rat) → Prop
  | [root] => root.directive.hugs = false ∨ own = insideAll width [root]
  | [first, root] => root.padding.horizontal ≤ width ∨ 0 ≤ first.padding.horizontal
  | above => own = insideAll width above

/-- The width taken is the inner width of the chain just when every frame fills. -/
theorem getD_givenWidth_eq_iff (width own : Rat) (above : List (ContainerSpec Rat)) :
    (givenWidth width above).getD own = insideAll width above ↔ FillsAll width own above := by
  match above with
  | [] => exact Iff.rfl
  | [root] =>
      rw [givenWidth, FillsAll, insideAll_singleton]
      cases root.directive.hugs <;> simp
  | [first, root] => exact inside_inside_eq_iff width first root
  | _ :: _ :: _ :: _ => exact Iff.rfl

/-- A filling item ends with the width that all paddings leave exactly where it is given it. -/
theorem filling_width_iff {document : LayoutDocument Rat} {text : String} {hostState : σ}
    {above : List (ContainerSpec Rat)}
    (read : Scene.readDocument context.registry text = .ok document) (cursor : CanvasCursor Rat)
    (fills : Fills context document hostState above filling)
    (here : filling.items = siblings.around item) (isColumn : document.root.IsPlainColumn)
    (authored : document.root.width = some width) (links : ∀ spec ∈ above.dropLast, spec.IsLink)
    (link : item.IsLink) :
    ∃ made node, filling.made? context siblings item = some made ∧
      (Scene.ofText context text cursor hostState).1.1.graph.node?
        (filling.site context siblings).start = some node ∧
      (node.isPlaceholder = false →
        (∀ props, made.text? = some props →
          made.width = (context.host.measureText props.characters props.fontSize
            (some (insideAll width above))).1) ∧
        (node.width = insideAll width above ↔
          FillsAll width ((filling.ownWidth? context siblings item).getD made.width) above)) := by
  obtain ⟨made, node, found, becomes⟩ := exists_becomes fills cursor here
  obtain ⟨spec, outer, frameMade, frameProps, rfl, column⟩ :=
    exists_column fills isColumn authored links
  rw [graph_ofText cursor read]
  refine ⟨made, node, becomes.found, found, fun isBuilt => ?_⟩
  have built : made.isPlaceholder = false := by
    rwa [SceneNode.isPlaceholder, becomes.kind_eq] at isBuilt
  have unbounded : made.constraints.clampWidth = id := by
    rw [becomes.makes.constraints_of_link link built]
    rfl
  have width_eq := becomes.width_eq
  rw [unbounded, column.widthFor?_eq here link becomes.found built] at width_eq
  refine ⟨fun props isText => column.width_text becomes.makes link isText, ?_⟩
  have given_eq : node.width = (givenWidth width (spec :: outer)).getD
      ((filling.ownWidth? context siblings item).getD made.width) := by
    rw [width_eq]
    cases givenWidth width (spec :: outer) <;>
      cases filling.ownWidth? context siblings item <;> rfl
  rw [given_eq, getD_givenWidth_eq_iff]

section Chains

def fillDirective : LayoutDirective Rat := { horizontalSizing := some .fill }

/-- The sample directive fills. -/
theorem fills_fillDirective : fillDirective.Fills := ⟨⟨rfl, rfl, rfl⟩, rfl⟩

/-- The sample columns are plain. -/
theorem isPlainColumn_columnOf (width : Option Rat) : (columnOf width {}).IsPlainColumn :=
  ⟨rfl, rfl, rfl, rfl, rfl, rfl⟩

def fillingRectangle : LayoutItem Rat :=
  .shape ⟨.rectangle, none, none, none, none, none, fillDirective⟩

def rectangleDocument : LayoutDocument Rat := ⟨columnOf (some 9) {}, [fillingRectangle]⟩

def rectangleText : String :=
  "\x7b\"layoutContainer\":\x7b\"layoutMode\":\"VERTICAL\",\"width\":9\x7d,\"items\":[\x7b\"type\":\"native-rectangle\",\"horizontalSizing\":\"FILL\"\x7d]\x7d"

set_option maxRecDepth 20000 in
theorem read_rectangleText :
    Scene.readDocument Stage.plainContext.registry rectangleText = .ok rectangleDocument := by
  have parsed : Json.parse rectangleText = some (.object [("items", .array [.object
      [("horizontalSizing", .string "FILL"), ("type", .string "native-rectangle")]]),
        ("layoutContainer", .object
          [("layoutMode", .string "VERTICAL"), ("width", .number (.int 9))])]) := by
    simp only [rectangleText, Json.parse, Json.readText, String.reduceToList]
    rfl
  rw [Scene.readDocument, parsed]
  rfl

/-- A rectangle that fills the root gives up the width of its own. -/
theorem rectangle_fills_root :
    ∃ node, (Scene.ofText Stage.plainContext rectangleText .origin ()).1.1.graph.node? 1 =
      some node ∧ node.width = 9 := by
  let filling := ofDocument Stage.plainContext rectangleDocument ()
  have fills : Fills Stage.plainContext rectangleDocument () [rectangleDocument.root] filling :=
    .root
  have here : filling.items = Siblings.around ⟨[], []⟩ fillingRectangle := rfl
  have isColumn : rectangleDocument.root.IsPlainColumn := isPlainColumn_columnOf _
  have authored : rectangleDocument.root.width = some 9 := rfl
  have links : ∀ spec ∈ [rectangleDocument.root].dropLast, spec.IsLink :=
    fun spec member => absurd member List.not_mem_nil
  have link : fillingRectangle.IsLink := fills_fillDirective
  obtain ⟨made, node, -, found, ends⟩ :=
    filling_width_iff read_rectangleText .origin fills here isColumn authored links link
  have start_eq : (filling.site Stage.plainContext ⟨[], []⟩).start = 1 := by decide +kernel
  rw [start_eq] at found
  have built : ((Scene.ofText Stage.plainContext rectangleText .origin ()).1.1.graph.node? 1).map
      (·.isPlaceholder) = some false := by
    rw [graph_ofText .origin read_rectangleText]
    decide +kernel
  rw [found] at built
  have all_eq : insideAll 9 [rectangleDocument.root] = 9 := by decide +kernel
  refine ⟨node, found, ?_⟩
  rw [← all_eq]
  exact (ends (Option.some.inj built)).2.mpr (.inl rfl)

def linkSpec : ContainerSpec Rat := columnOf none fillDirective

/-- A rectangle in two columns inside a root that is 400 wide. -/
def chainDocument : LayoutDocument Rat :=
  ⟨columnOf (some 400) {}, [.container linkSpec [.container linkSpec [fillingRectangle]]]⟩

def chainText : String :=
  "\x7b\"layoutContainer\":\x7b\"layoutMode\":\"VERTICAL\",\"width\":400\x7d,\"items\":[\x7b\"type\":\"frame\",\"layoutMode\":\"VERTICAL\",\"horizontalSizing\":\"FILL\",\"items\":[\x7b\"type\":\"frame\",\"layoutMode\":\"VERTICAL\",\"horizontalSizing\":\"FILL\",\"items\":[\x7b\"type\":\"native-rectangle\",\"horizontalSizing\":\"FILL\"\x7d]\x7d]\x7d]\x7d"

set_option maxRecDepth 40000 in
theorem read_chainText :
    Scene.readDocument Stage.plainContext.registry chainText = .ok chainDocument := by
  have parsed : Json.parse chainText = some (.object [("items", .array [.object
      [("horizontalSizing", .string "FILL"), ("items", .array [.object
        [("horizontalSizing", .string "FILL"), ("items", .array [.object
          [("horizontalSizing", .string "FILL"), ("type", .string "native-rectangle")]]),
          ("layoutMode", .string "VERTICAL"), ("type", .string "frame")]]),
        ("layoutMode", .string "VERTICAL"), ("type", .string "frame")]]),
      ("layoutContainer", .object
        [("layoutMode", .string "VERTICAL"), ("width", .number (.int 400))])]) := by
    simp only [chainText, Json.parse, Json.readText, String.reduceToList]
    rfl
  rw [Scene.readDocument, parsed]
  rfl

/-- A rectangle keeps a width of its own where the column around it took its width from its parent. -/
theorem rectangle_in_chain_keeps_width :
    ¬∀ (context : RenderContext Rat Unit) (text : String) (document : LayoutDocument Rat)
        (cursor : CanvasCursor Rat) (above : List (ContainerSpec Rat)) (filling : Filling Rat Unit)
        (siblings : Siblings Rat) (item : LayoutItem Rat) (width : Rat) (node : SceneNode Rat),
      Scene.readDocument context.registry text = .ok document →
      Fills context document () above filling → filling.items = siblings.around item →
      document.root.IsPlainColumn → document.root.width = some width →
      (∀ spec ∈ above.dropLast, spec.IsLink) → item.IsLink →
      (Scene.ofText context text cursor ()).1.1.graph.node? (filling.site context siblings).start =
        some node →
      node.isPlaceholder = false → node.width = insideAll width above := by
  intro every
  let outer := (ofDocument Stage.plainContext chainDocument ()).inner Stage.plainContext ⟨[], []⟩
    linkSpec [.container linkSpec [fillingRectangle]]
  let filling := outer.inner Stage.plainContext ⟨[], []⟩ linkSpec [fillingRectangle]
  have fills : Fills Stage.plainContext chainDocument ()
      [linkSpec, linkSpec, chainDocument.root] filling :=
    .inside (.inside .root rfl) rfl
  have links : ∀ spec ∈ [linkSpec, linkSpec, chainDocument.root].dropLast, spec.IsLink := by
    intro spec member
    obtain rfl : spec = linkSpec := by simpa [List.dropLast] using member
    exact ⟨⟨rfl, rfl, rfl, fills_fillDirective.toIsPlain⟩, rfl, fills_fillDirective⟩
  have seen : ((Scene.ofText Stage.plainContext chainText .origin ()).1.1.graph.node?
      (filling.site Stage.plainContext ⟨[], []⟩).start).map (fun node =>
        (node.isPlaceholder, node.width)) = some (false, 100) := by
    rw [graph_ofText .origin read_chainText]
    decide +kernel
  obtain ⟨node, found, isSeen⟩ := Option.map_eq_some_iff.mp seen
  obtain ⟨built, width_eq⟩ := Prod.mk.inj isSeen
  have filled := every Stage.plainContext chainText chainDocument .origin _ filling ⟨[], []⟩
    fillingRectangle 400 node read_chainText fills rfl (isPlainColumn_columnOf _) rfl links
    fills_fillDirective found built
  rw [width_eq] at filled
  revert filled
  decide +kernel

end Chains

end Filling

end DesignScene
