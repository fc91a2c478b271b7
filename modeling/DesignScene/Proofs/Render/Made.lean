/-
This file says what the node of an item is when it is made, before its frame is arranged.
-/
import DesignScene.Proofs.Property.Conservation
import DesignScene.Proofs.Render.VariantValues

namespace DesignScene

open Outlines SceneGraph

/-- What the properties of a component ask of the layout. -/
def ComponentSpec.directive {α : Type} [Scalar α] (spec : ComponentSpec) : LayoutDirective α :=
  (ResolvedProperties.ofBag none (spec.properties.preprocess spec.typeName) :
    ResolvedProperties α).layoutProperties

namespace LayoutItem

variable {α : Type} [Scalar α]

/-- The bounds that an item authors for its own sizes. -/
def constraints : LayoutItem α → SizeConstraints α
  | container spec _ => spec.directive.constraints
  | text spec => spec.directive.constraints
  | shape spec => spec.directive.constraints
  | component spec => spec.directive.constraints
  | malformed .. => {}

/-- The width that is authored for a frame or a shape. -/
def width? : LayoutItem α → Option α
  | container spec _ => spec.width
  | shape spec => spec.width
  | _ => none

end LayoutItem

section Fills

variable {α : Type}

/-- The paint of a color, and none if its name is unknown. -/
def DesignStyles.paints (styles : DesignStyles α) : ColorRef → List Paint
  | .rgb color => [.ofColor color]
  | .named name => (styles.resolveColor name).toList.map fun found => .ofColor found.1

/-- The fills of the frame of a container. -/
def ContainerSpec.fills (styles : DesignStyles α) (spec : ContainerSpec α) : List Paint :=
  spec.fill.elim [] styles.paints

/-- The image of a shape counts before its color, and light gray where there is neither. -/
def ShapeSpec.fills (styles : DesignStyles α) (spec : ShapeSpec α) : List Paint :=
  spec.imageFill.elim (spec.fill.elim [.ofColor ⟨0.85, 0.85, 0.85⟩] styles.paints)
    fun image => [.image image]

/-- The paint of a colour does not depend on the stage. -/
theorem Stage.paintFor_fst {σ : Type} (styles : DesignStyles α) (path : String) (color : ColorRef)
    (stage : Stage α σ) : (stage.paintFor styles path color).1 = styles.paints color := by
  cases color with
  | rgb color => rfl
  | named name =>
      rw [paintFor, DesignStyles.paints]
      cases styles.resolveColor name <;> rfl

/-- The fills of a shape do not depend on the stage. -/
theorem Stage.shapeFills_fst {σ : Type} (context : RenderContext α σ) (name : String)
    (spec : ShapeSpec α) (stage : Stage α σ) :
    (stage.shapeFills context name spec).1 = spec.fills context.styles := by
  rw [shapeFills, ShapeSpec.fills]
  cases spec.imageFill with
  | some image => rfl
  | none =>
      cases spec.fill with
      | none => rfl
      | some color => exact paintFor_fst context.styles name color stage

end Fills

namespace Stage

variable {α σ : Type} [Scalar α]

/-- The node of a container without its items. -/
def newFrame (parent : Option Nat) (spec : ContainerSpec α) (fills : List Paint)
    (stage : Stage α σ) : SceneNode α :=
  let layout := spec.directive.forParent (stage.layoutModeOf parent)
  let fill := stage.fillWidth layout parent
  let props := spec.frameProps layout.hugContents fills
  { newNode stage.graph.size parent none (frameName parent spec)
      (.frame (if fill.isSome && spec.width.isNone then props.fixWidth else props))
      ((spec.width.or fill).getD (Scalar.ofNat 0)) (spec.height.getD (Scalar.ofNat 0)) with
    fixedWidth := spec.width.isSome
    layout := layout
    constraints := spec.directive.constraints }

/-- The node of a text, which is as large as the host measures it. -/
def newText (context : RenderContext α σ) (parent : Nat) (spec : TextSpec α) (props : TextProps α)
    (stage : Stage α σ) : SceneNode α :=
  let mode := stage.layoutModeOf (some parent)
  let layout := spec.directive.forParent mode
  let wrap := wrapping context.config.render.textWrapThreshold
    (layout.fillsWidth && mode.isAutoLayout) (stage.graph.effectiveWidth parent)
  let size := context.host.measureText spec.content props.fontSize wrap.2
  { newNode stage.graph.size (some parent) none
      (if spec.content.isEmpty then "Text" else textLabel spec.content)
      (.text { props with characters := spec.content, autoResize := wrap.1 }) size.1 size.2 with
    layout := layout
    constraints := spec.directive.constraints }

def newShape (parent : Nat) (spec : ShapeSpec α) (fills : List Paint) (stage : Stage α σ) :
    SceneNode α :=
  let layout := spec.directive.forParent (stage.layoutModeOf (some parent))
  { newNode stage.graph.size (some parent) none (shapeDefaults spec.shape).1
      (shapeKind spec.shape ⟨fills, spec.cornerRadius⟩)
      (spec.width.getD (Scalar.ofNat (shapeDefaults spec.shape).2))
      (spec.height.getD (Scalar.ofNat (shapeDefaults spec.shape).2)) with
    fixedWidth := spec.width.isSome && !layout.fillsWidth
    layout := layout
    constraints := spec.directive.constraints }

section Frames

variable (parent : Option Nat) {spec : ContainerSpec α} (fills : List Paint) (stage : Stage α σ)

/-- A new frame is fixed in width just when its width is authored. -/
theorem fixedWidth_newFrame :
    (stage.newFrame parent spec fills).fixedWidth = spec.width.isSome := rfl

/-- A new frame has its authored width. -/
theorem width_newFrame_of_width {width : α} (authored : spec.width = some width) :
    (stage.newFrame parent spec fills).width = width := by
  simp only [newFrame, newNode, authored, Option.some_or, Option.getD_some]

end Frames

/-- The node as which an item is made below a frame. -/
inductive Makes (context : RenderContext α σ) (parent : Nat) (stage : Stage α σ) :
    LayoutItem α → SceneNode α → Prop where
  | container (spec : ContainerSpec α) (items : List (LayoutItem α)) (fills : List Paint) :
      Makes context parent stage (.container spec items) (stage.newFrame (some parent) spec fills)
  | text (spec : TextSpec α) (props : TextProps α) :
      Makes context parent stage (.text spec) (stage.newText context parent spec props)
  | shape (spec : ShapeSpec α) (fills : List Paint) :
      Makes context parent stage (.shape spec) (stage.newShape parent spec fills)
  | component {spec : ComponentSpec} {node : SceneNode α} (isInstance : node.isInstance = true)
      (visible : node.visible = true)
      (constraints_eq : node.constraints = spec.directive.constraints) :
      Makes context parent stage (.component spec) node
  | placeholder {item : LayoutItem α} (reason : String) :
      Makes context parent stage item
        (newNode stage.graph.size (some parent) none ("Missing: " ++ item.source)
          (.placeholder ⟨reason, item.source⟩) context.config.render.placeholderWidth
          context.config.render.placeholderHeight)

/-- The stage with the node of an item, but without the items of a container. -/
def make (context : RenderContext α σ) (parent : Nat) (path : String) (item : LayoutItem α)
    (stage : Stage α σ) : Stage α σ :=
  match item with
  | .container spec _ => stage.addFrame context (some parent) spec
  | other => renderItem context parent path other stage

section Nodes

omit [Scalar α] in
/-- What changes no node before the end of the scene changes no node. -/
theorem Keeps.graph_eq {stage later : Stage α σ} (kept : Keeps stage.graph.size stage later) :
    later.graph = stage.graph := by
  apply ext_node?
  intro id
  by_cases before : id < stage.graph.size
  · exact kept.graph.node?_eq id before
  · have absent (graph : SceneGraph α) (same : graph.size = stage.graph.size) :
        graph.node? id = none := by
      rw [node?, Array.getElem?_eq_none]
      rw [SceneGraph.size] at same
      omega
    rw [absent _ kept.graph.size_eq, absent _ rfl]

omit [Scalar α] in
/-- Edits behind the last node change nothing. -/
theorem Edits.graph_eq {stage later : Stage α σ} (edits : Edits stage.graph.size stage later) :
    later.graph = stage.graph := edits.keeps.graph_eq

/-- A new node is found with the settings that it gets. -/
theorem node?_newNode {parent : Option Nat} (stage : Stage α σ)
    (held : HasParent stage.graph.outline parent) (hostId : Option String) (name : String)
    (kind : NodeKind α) (width height : α) (change : SceneNode α → SceneNode α) :
    ((stage.addNode parent hostId name kind width height).updateNode stage.graph.size
      change).graph.node? stage.graph.size =
        some (change (newNode stage.graph.size parent hostId name kind width height)) :=
  node?_update_self (node?_add_self held hostId name kind width height) change

/-- The frame of a container is made with the fills that its color stands for. -/
theorem node?_addFrame_fills (context : RenderContext α σ) {parent : Option Nat}
    (spec : ContainerSpec α) {stage : Stage α σ} (held : HasParent stage.graph.outline parent) :
    (stage.addFrame context parent spec).graph.node? stage.graph.size =
      some (stage.newFrame parent spec (spec.fills context.styles)) := by
  rw [ContainerSpec.fills]
  cases filled : spec.fill with
  | none =>
      simp only [addFrame, filled]
      exact node?_newNode stage held _ _ _ _ _ _
  | some color =>
      have painted : (stage.paintFor context.styles (frameName parent spec) color).2.graph =
          stage.graph := (edits_paintFor context.styles _ color stage).graph_eq
      rw [Option.elim_some, ← paintFor_fst context.styles (frameName parent spec) color stage]
      simp only [addFrame, filled]
      generalize stage.paintFor context.styles (frameName parent spec) color = result at painted ⊢
      obtain ⟨fills, graph, report, missingFonts, hostState⟩ := result
      obtain rfl : graph = stage.graph := painted
      exact node?_newNode ⟨stage.graph, report, missingFonts, hostState⟩ held _ _ _ _ _ _

/-- An added frame is the next node. -/
theorem node?_addFrame (context : RenderContext α σ) {parent : Option Nat}
    (spec : ContainerSpec α) {stage : Stage α σ} (held : HasParent stage.graph.outline parent) :
    ∃ fills, (stage.addFrame context parent spec).graph.node? stage.graph.size =
      some (stage.newFrame parent spec fills) :=
  ⟨_, node?_addFrame_fills context spec held⟩

/-- A rendered shape is the next node, with its fills. -/
theorem node?_renderShape_fills (context : RenderContext α σ) {parent : Nat} (spec : ShapeSpec α)
    {stage : Stage α σ} (within : parent < stage.graph.size) :
    (stage.renderShape context parent spec).graph.node? stage.graph.size =
      some (stage.newShape parent spec (spec.fills context.styles)) := by
  have filled : (stage.shapeFills context (shapeDefaults spec.shape).1 spec).2.graph =
      stage.graph := (edits_shapeFills context _ spec stage).graph_eq
  rw [← shapeFills_fst context (shapeDefaults spec.shape).1 spec stage]
  simp only [renderShape]
  generalize stage.shapeFills context (shapeDefaults spec.shape).1 spec = result at filled ⊢
  obtain ⟨fills, graph, report, missingFonts, hostState⟩ := result
  obtain rfl : graph = stage.graph := filled
  exact node?_newNode ⟨stage.graph, report, missingFonts, hostState⟩ (hasParent_some within)
    _ _ _ _ _ _

/-- A rendered shape is the next node. -/
theorem node?_renderShape (context : RenderContext α σ) {parent : Nat} (spec : ShapeSpec α)
    {stage : Stage α σ} (within : parent < stage.graph.size) :
    ∃ fills, (stage.renderShape context parent spec).graph.node? stage.graph.size =
      some (stage.newShape parent spec fills) :=
  ⟨_, node?_renderShape_fills context spec within⟩

/-- A rendered text is the next node. -/
theorem node?_renderText {context : RenderContext α σ} {parent : Nat} {spec : TextSpec α}
    {stage later : Stage α σ} {done : Unit} (within : parent < stage.graph.size)
    (rendered : stage.renderText context parent spec = (.ok done, later)) :
    ∃ props, later.graph.node? stage.graph.size =
      some (stage.newText context parent spec props) := by
  unfold renderText at rendered
  dsimp only at rendered
  split at rendered
  · cases rendered
  · next fonts loadedStage loaded =>
      obtain rfl := (Prod.mk.inj rendered).2
      have loadedGraph : loadedStage.graph = stage.graph := (edits_of_loadFonts loaded).graph_eq
      have styled := (edits_textStyleFor context (textLabel spec.content)
        (spec.fontSize.getD context.config.render.defaultFontSize) spec.textStyleRef
        loadedStage).graph_eq
      generalize loadedStage.textStyleFor context (textLabel spec.content)
        (spec.fontSize.getD context.config.render.defaultFontSize) spec.textStyleRef = style at styled ⊢
      obtain ⟨textStyleId, fontSize, styledStage⟩ := style
      have colored := (edits_textColorFor context (textLabel spec.content) spec styledStage).graph_eq
      dsimp only at styled ⊢
      generalize styledStage.textColorFor context (textLabel spec.content) spec = color at colored ⊢
      obtain ⟨fills, fillStyleId, graph, report, missingFonts, hostState⟩ := color
      obtain rfl : graph = stage.graph := colored.trans (styled.trans loadedGraph)
      refine ⟨⟨"", fonts, fontSize, spec.alignment, .none, fills, fillStyleId, textStyleId⟩, ?_⟩
      exact node?_newNode ⟨stage.graph, report, missingFonts, hostState⟩ (hasParent_some within)
        _ _ _ _ _ _

omit [Scalar α] in
/-- The variants of an instance change nothing else about it. -/
theorem node?_applyVariants (blueprint : Blueprint α) {id : Nat} (path : String)
    (variants : Dict String) {stage : Stage α σ} {node : SceneNode α} {props : InstanceProps}
    (found : stage.graph.node? id = some node) (isInstance : node.kind = .instance props) :
    ∃ props, (stage.applyVariants blueprint id path variants).graph.node? id =
      some { node with kind := .instance props } := by
  rw [applyVariants]
  induction variants generalizing stage node props with
  | nil => exact ⟨props, by rw [List.foldl_nil, found, ← isInstance]⟩
  | cons choice more ih =>
      rw [List.foldl_cons, applyVariant]
      split_ifs with allowed
      · have changed := node?_update_self found (updateInstance fun props =>
          { props with variantValues := props.variantValues.insert choice.1 choice.2 })
        simp only [updateInstance, isInstance] at changed
        obtain ⟨last, whole⟩ := @ih (stage.updateNode id _) _ _ changed rfl
        exact ⟨last, whole⟩
      · exact ih found isInstance

/-- Applying a layout changes the layout and width of a node. -/
theorem node?_applyLayout (parent : Nat) (directive : LayoutDirective α) {stage : Stage α σ}
    {id : Nat} {node : SceneNode α} (found : stage.graph.node? id = some node) :
    ∃ layout width, (stage.applyLayout id parent directive).graph.node? id =
      some { node with
        layout := layout
        constraints := directive.constraints
        width := width } :=
  ⟨_, _, node?_update_self found _⟩

/-- A new instance is the next node. -/
theorem node?_instantiate (blueprint : Blueprint α) {parent : Nat} (name : Option String)
    {stage : Stage α σ} (within : parent < stage.graph.size) :
    ∃ children, (stage.instantiate blueprint parent name).graph.node? stage.graph.size =
      some ((newNode stage.graph.size (some parent) none (name.getD blueprint.name)
        (.instance ⟨blueprint.componentId, blueprint.defaultVariant⟩) blueprint.width
        blueprint.height).addChildren children) := by
  let made : Stage α σ := stage.addNode (some parent) none (name.getD blueprint.name)
    (.instance ⟨blueprint.componentId, blueprint.defaultVariant⟩) blueprint.width blueprint.height
  have size : made.graph.size = stage.graph.size + 1 := size_add ..
  have behind : stage.graph.size < made.graph.size := by omega
  have found : made.graph.node? stage.graph.size = some _ :=
    node?_add_self (hasParent_some within) none _ _ _ _
  obtain ⟨sketches, below⟩ := grows_addBlueprintNodes (generatedHostId stage.graph.size)
    blueprint.children behind
  have kept := below.node?_eq stage.graph.size behind
  rw [found, Option.map_some, if_pos rfl] at kept
  exact ⟨_, kept⟩

/-- Whatever else the properties of a component say, its instance takes the bounds that they give. -/
theorem node?_renderBlueprint (context : RenderContext α σ) {parent : Nat} (path : String)
    (spec : ComponentSpec) (componentId : String) (blueprint : Blueprint α) {stage : Stage α σ}
    (sound : WellFormed stage.graph.outline) (within : parent < stage.graph.size) :
    ∃ node, (stage.renderBlueprint context parent path spec componentId blueprint).graph.node?
        stage.graph.size = some node ∧
      node.isInstance = true ∧ node.visible = true ∧
        node.constraints = spec.directive.constraints := by
  have sameGraph : (stage.announce context path spec componentId blueprint).graph = stage.graph :=
    graph_announce ..
  have used : spec.directive =
      (stage.resolvedFor context spec componentId blueprint).layoutProperties :=
    ResolvedProperties.layoutProperties_ofBag none _ _
  rw [used, renderBlueprint_eq, ← sameGraph, applyProperties_eq]
  rw [← sameGraph] at sound within
  generalize stage.announce context path spec componentId blueprint = announced at sound within ⊢
  generalize stage.resolvedFor context spec componentId blueprint = resolved
  obtain ⟨sketches, grown⟩ := grows_instantiate blueprint spec.name within
  have made := grown.wellFormed sound (hasParent_some within)
  obtain ⟨children, found⟩ := node?_instantiate blueprint spec.name within
  obtain ⟨props, varied⟩ := node?_applyVariants blueprint path resolved.variants found rfl
  obtain ⟨layout, width, laidOut⟩ := node?_applyLayout parent resolved.layoutProperties varied
  have furnished := edits_furnish context spec resolved announced.graph.size path
    ((edits_dress blueprint resolved announced.graph.size parent path made).wellFormed made)
  have kept := furnished.keeps.graph.node?_eq _ (Nat.lt_succ_self announced.graph.size)
  exact ⟨_, kept.trans laidOut, rfl, rfl, rfl⟩

/-- A placeholder that is added after steps that add nothing. -/
theorem node?_placeholder {context : RenderContext α σ} {parent : Nat} {stage next : Stage α σ}
    (within : parent < stage.graph.size) (kept : Keeps stage.graph.size stage next)
    (source reason : String) :
    (next.addPlaceholder context.config.render parent source reason).graph.node?
        stage.graph.size =
      some (newNode stage.graph.size (some parent) none ("Missing: " ++ source)
        (.placeholder ⟨reason, source⟩) context.config.render.placeholderWidth
        context.config.render.placeholderHeight) := by
  obtain ⟨graph, report, missingFonts, hostState⟩ := next
  obtain rfl : graph = stage.graph := kept.graph_eq
  exact node?_add_self (hasParent_some within) none _ _ _ _

/-- Every item is made as a node at the end of the scene. -/
theorem exists_made (context : RenderContext α σ) {parent : Nat} (path : String)
    (item : LayoutItem α) {stage : Stage α σ} (sound : WellFormed stage.graph.outline)
    (within : parent < stage.graph.size) :
    ∃ node, (stage.make context parent path item).graph.node? stage.graph.size = some node ∧
      Makes context parent stage item node := by
  cases item with
  | container spec items =>
      obtain ⟨fills, found⟩ := node?_addFrame context spec (hasParent_some within)
      exact ⟨_, found, .container spec items fills⟩
  | shape spec =>
      obtain ⟨fills, found⟩ := node?_renderShape context spec within
      exact ⟨_, found, .shape spec fills⟩
  | malformed place reason =>
      exact ⟨_, node?_placeholder within (keeps_warn stage _ _) _ _, .placeholder _⟩
  | text spec =>
      have attempted := attempts_renderText context spec within
      simp only [make, renderItem]
      cases result : stage.renderText context parent spec with
      | mk outcome later =>
          rw [result] at attempted
          cases outcome with
          | ok _ =>
              obtain ⟨props, found⟩ := node?_renderText within result
              exact ⟨_, found, .text spec props⟩
          | error error =>
              have warned : Keeps stage.graph.size stage (later.warn path error.message) :=
                Keeps.trans attempted (keeps_warn _ _ _)
              exact ⟨_, node?_placeholder within warned _ _, .placeholder _⟩
  | component spec =>
      have attempted := attempts_renderComponent context path spec sound within
      simp only [make, renderItem]
      cases result : stage.renderComponent context parent path spec with
      | mk outcome later =>
          rw [result] at attempted
          cases outcome with
          | ok _ =>
              obtain ⟨componentId, blueprint, asked, -, answered, rfl⟩ :=
                blueprint_of_renderComponent result
              have kept : Keeps stage.graph.size stage asked := (edits_of_ask answered).keeps
              have stillWithin := within
              rw [← kept.graph.size_eq] at stillWithin
              obtain ⟨node, found, isInstance, visible, constraints_eq⟩ := node?_renderBlueprint
                context path spec componentId blueprint (kept.wellFormed sound) stillWithin
              rw [kept.graph.size_eq] at found
              exact ⟨node, found, .component isInstance visible constraints_eq⟩
          | error error =>
              have warned : Keeps stage.graph.size stage (later.warn path error.message) :=
                Keeps.trans attempted (keeps_warn _ _ _)
              exact ⟨_, node?_placeholder within warned _ _, .placeholder _⟩

section Makes

variable {context : RenderContext α σ} {parent : Nat} {stage : Stage α σ} {item : LayoutItem α}
  {node : SceneNode α}

/-- Every node made for an item is visible. -/
theorem Makes.visible (makes : Makes context parent stage item node) : node.visible = true := by
  cases makes with
  | component _ visible _ => exact visible
  | _ => rfl

/-- Only a placeholder is made without the bounds of its item. -/
theorem Makes.constraints_eq (makes : Makes context parent stage item node)
    (built : node.isPlaceholder = false) : node.constraints = item.constraints := by
  cases makes with
  | component _ _ constraints_eq => exact constraints_eq
  | placeholder => cases built
  | _ => rfl

/-- No placeholder has a fixed width. -/
theorem Makes.isPlaceholder_eq (makes : Makes context parent stage item node)
    (isFixed : node.fixedWidth = true) : node.isPlaceholder = false := by
  cases makes with
  | container => rfl
  | text => rfl
  | shape spec fills => cases spec with | mk shape => cases shape <;> rfl
  | component isInstance =>
      rw [SceneNode.isInstance, SceneNode.instance?] at isInstance
      rw [SceneNode.isPlaceholder]
      split
      · next isPlaceholder => simp [isPlaceholder] at isInstance
      · rfl
  | placeholder => cases isFixed

/-- A node made for an item of authored width has this width. -/
theorem Makes.width_eq (makes : Makes context parent stage item node)
    (built : node.isPlaceholder = false) {width : α} (authored : item.width? = some width) :
    node.width = width := by
  cases makes with
  | container spec items fills => exact width_newFrame_of_width _ _ _ authored
  | shape spec fills =>
      rw [LayoutItem.width?] at authored
      simp only [newShape, newNode, authored, Option.getD_some]
  | text => cases authored
  | component => cases authored
  | placeholder => cases built

end Makes

end Nodes

end Stage

end DesignScene
