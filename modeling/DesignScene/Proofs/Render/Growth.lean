/-
This file shows that rendering an item adds one tree of nodes to the scene.
-/
import DesignScene.Proofs.Render.Edits
import DesignScene.Proofs.Scene.Sketch
import Mathlib.Data.List.Forall2

namespace DesignScene

open Outlines

/-- The kind of node that a shape becomes. -/
def Shape.form : Shape → NodeForm
  | rectangle => .rectangle
  | ellipse => .ellipse

/-- What an item without items of its own may become. -/
def LayoutItem.leafForms {α : Type} (item : LayoutItem α) : List NodeForm :=
  match item with
  | container .. => []
  | text _ => [.text, .placeholder item.source]
  | shape spec => [spec.shape.form]
  | component _ => [.component, .placeholder item.source]
  | malformed .. => [.placeholder item.source]

/-- The tree has a frame for every container, which has one tree for every item in it. -/
inductive Sketched {α : Type} : LayoutItem α → Sketch → Prop where
  | container {spec : ContainerSpec α} {items : List (LayoutItem α)} {sketches : List Sketch}
      (inside : List.Forall₂ Sketched items sketches) :
      Sketched (.container spec items) (.node .frame sketches)
  | leaf {item : LayoutItem α} {form : NodeForm} {children : List Sketch}
      (listed : form ∈ item.leafForms) : Sketched item (.node form children)

namespace Stage

variable {α σ : Type}

/-- The trees were added behind all nodes as children of the parent, and their placeholders were reported. -/
structure Grows (parent : Option Nat) (sketches : List Sketch) (stage later : Stage α σ) :
    Prop where
  outline_eq : later.graph.outline = Sketch.grow parent sketches stage.graph.outline
  node?_eq : ∀ id, id < stage.graph.size → later.graph.node? id =
    (stage.graph.node? id).map fun node =>
      if parent = some id then node.addChildren (Sketch.starts stage.graph.size sketches)
      else node
  report : stage.report.Extends later.report
  placeholders_eq : later.report.placeholders =
    stage.report.placeholders ++ Sketch.sources parent stage.graph.size sketches

namespace Grows

variable {parent : Option Nat} {sketches more children : List Sketch} {form : NodeForm}
  {stage next later : Stage α σ}

theorem refl (parent : Option Nat) (stage : Stage α σ) : Grows parent [] stage stage where
  outline_eq := Sketch.grow_nil.symm
  node?_eq id _ := by simp [Sketch.starts, SceneNode.addChildren]
  report := .refl stage.report
  placeholders_eq := by rw [Sketch.sources_nil, List.append_nil]

theorem size_eq (grown : Grows parent sketches stage later) :
    later.graph.size = stage.graph.size + Sketch.sizeAll sketches := by
  rw [← SceneGraph.length_outline, grown.outline_eq, Sketch.length_grow, SceneGraph.length_outline]

/-- A tree has at least its root. -/
theorem lt_size (grown : Grows parent [.node form children] stage later) :
    stage.graph.size < later.graph.size := by
  rw [grown.size_eq, Sketch.sizeAll, Sketch.size]
  omega

/-- A graph stays well formed as trees grow. -/
theorem wellFormed (grown : Grows parent sketches stage later)
    (sound : WellFormed stage.graph.outline) (held : HasParent stage.graph.outline parent) :
    WellFormed later.graph.outline := by
  rw [grown.outline_eq]
  exact Sketch.wellFormed_grow sound held sketches

/-- What comes after the trees may change them. -/
theorem keeps (grown : Grows parent sketches stage next)
    (kept : Keeps stage.graph.size next later) : Grows parent sketches stage later where
  outline_eq := kept.graph.outline_eq.trans grown.outline_eq
  node?_eq id before := (kept.graph.node?_eq id before).trans (grown.node?_eq id before)
  report := grown.report.trans kept.report
  placeholders_eq := kept.placeholders_eq.trans grown.placeholders_eq

end Grows

/-- Trees that grow after some edits grow from the stage before them. -/
theorem Keeps.grows {parent : Option Nat} {sketches : List Sketch} {stage next later : Stage α σ}
    (kept : Keeps stage.graph.size stage next) (grown : Grows parent sketches next later) :
    Grows parent sketches stage later where
  outline_eq := by rw [grown.outline_eq, kept.graph.outline_eq]
  node?_eq id before := by
    have within : id < next.graph.size := by rwa [kept.graph.size_eq]
    rw [grown.node?_eq id within, kept.graph.node?_eq id before, kept.graph.size_eq]
  report := kept.report.trans grown.report
  placeholders_eq := by
    rw [grown.placeholders_eq, kept.placeholders_eq, kept.graph.size_eq]

namespace Grows

variable {parent : Option Nat} {sketches more children : List Sketch} {form : NodeForm}
  {stage next later : Stage α σ}

/-- Trees that are added one after the other. -/
theorem append (held : HasParent stage.graph.outline parent)
    (first : Grows parent sketches stage next) (second : Grows parent more next later) :
    Grows parent (sketches ++ more) stage later where
  outline_eq := by
    rw [second.outline_eq, first.outline_eq, Sketch.grow_append held]
  node?_eq id before := by
    have within : id < next.graph.size := by
      rw [first.size_eq]
      omega
    rw [second.node?_eq id within, first.node?_eq id before, Option.map_map, first.size_eq,
      Sketch.starts_append]
    by_cases same : parent = some id
    · simp [same, Function.comp_def, SceneNode.addChildren]
    · simp [same, Function.comp_def]
  report := first.report.trans second.report
  placeholders_eq := by
    rw [second.placeholders_eq, first.placeholders_eq, first.size_eq, Sketch.sources_append,
      List.append_assoc]

/-- A root and then the trees below it. -/
theorem inside (root : Grows parent [.node form []] stage next)
    (below : Grows (some stage.graph.size) children next later) :
    Grows parent [.node form children] stage later where
  outline_eq := by
    rw [below.outline_eq, root.outline_eq, ← SceneGraph.length_outline, Sketch.grow_inside]
  node?_eq id before := by
    have within : id < next.graph.size := by
      rw [root.size_eq]
      omega
    have different : some stage.graph.size ≠ some id := by
      intro same
      cases same
      omega
    rw [below.node?_eq id within, root.node?_eq id before]
    simp only [different, if_false, Option.map_id', Sketch.starts]
  report := root.report.trans below.report
  placeholders_eq := by
    have nextSize : next.graph.size = stage.graph.size + 1 := by
      rw [root.size_eq]
      simp [Sketch.sizeAll, Sketch.size]
    rw [below.placeholders_eq, root.placeholders_eq, nextSize, Sketch.sources_inside,
      Sketch.sources_inside _ _ children, Sketch.sources_nil, List.append_nil, List.append_assoc]

end Grows

/-- A step adds one tree with a root of this kind, or it fails without adding any node. -/
def Attempts (parent : Nat) (form : NodeForm) (stage : Stage α σ)
    (result : Except RenderError Unit × Stage α σ) : Prop :=
  match result with
  | (.ok _, later) => ∃ children, Grows (some parent) [.node form children] stage later
  | (.error _, later) => Keeps stage.graph.size stage later

/-- A node that is there can be a parent. -/
theorem hasParent_some {parent : Nat} {stage : Stage α σ} (within : parent < stage.graph.size) :
    HasParent stage.graph.outline (some parent) := by
  intro place same
  cases same
  rwa [SceneGraph.length_outline]

variable [Scalar α]

/-- A node that is no placeholder needs no report. -/
theorem grows_addNode {parent : Option Nat} {form : NodeForm} {stage : Stage α σ}
    (held : HasParent stage.graph.outline parent) (hostId : Option String) (name : String)
    {kind : NodeKind α} (same : kind.form = form) (present : form.source? = none)
    (width height : α) :
    Grows parent [.node form []] stage
      (stage.addNode parent hostId name kind width height) where
  outline_eq := by
    rw [Sketch.grow_leaf, ← same]
    exact SceneGraph.outline_add held hostId name kind width height
  node?_eq _ before := SceneGraph.node?_add hostId name kind width height before
  report := .refl stage.report
  placeholders_eq := by simp [Sketch.sources_inside, present, addNode]

/-- A node that gets its settings after it was added, when steps that add nothing came before. -/
theorem grows_newNode {parent : Option Nat} {form : NodeForm} {stage next : Stage α σ}
    (kept : Keeps stage.graph.size stage next) (held : HasParent stage.graph.outline parent)
    (hostId : Option String) (name : String) {kind : NodeKind α} (same : kind.form = form)
    (present : form.source? = none) (width height : α) {change : SceneNode α → SceneNode α}
    (unchanged : ∀ node, (change node).outline = node.outline) :
    Grows parent [.node form []] stage
      ((next.addNode parent hostId name kind width height).updateNode next.graph.size change) := by
  have stillHeld : HasParent next.graph.outline parent := by rwa [kept.graph.outline_eq]
  have added := kept.grows (grows_addNode stillHeld hostId name same present width height)
  have behind : stage.graph.size ≤ next.graph.size := Nat.le_of_eq kept.graph.size_eq.symm
  exact added.keeps (keeps_updateNode _ behind unchanged)

/-- A placeholder adds one node and its report. -/
theorem grows_addPlaceholder (config : RenderConfig α) {parent : Nat} {stage : Stage α σ}
    (within : parent < stage.graph.size) (source reason : String) :
    Grows (some parent) [.node (.placeholder source) []] stage
      (stage.addPlaceholder config parent source reason) where
  outline_eq := by
    rw [Sketch.grow_leaf]
    exact SceneGraph.outline_add (hasParent_some within) none _ _ _ _
  node?_eq _ before := SceneGraph.node?_add none _ _ _ _ before
  report :=
    { RenderReport.Extends.refl stage.report with placeholders := List.prefix_append _ _ }
  placeholders_eq := by
    simp [Sketch.sources_inside, NodeForm.source?, addPlaceholder, addNode]

/-- A placeholder that is added after something that adds no node. -/
theorem Keeps.grows_placeholder {parent : Nat} {stage next : Stage α σ}
    (kept : Keeps stage.graph.size stage next) (config : RenderConfig α)
    (within : parent < stage.graph.size) (source reason : String) :
    Grows (some parent) [.node (.placeholder source) []] stage
      (next.addPlaceholder config parent source reason) :=
  kept.grows (grows_addPlaceholder config
    (Nat.lt_of_lt_of_eq within kept.graph.size_eq.symm) source reason)

/-- An item that fails leaves a placeholder and nothing else. -/
theorem grows_orPlaceholder (context : RenderContext α σ) {parent : Nat} {form : NodeForm}
    {stage : Stage α σ} {result : Except RenderError Unit × Stage α σ}
    (within : parent < stage.graph.size) (attempted : Attempts parent form stage result)
    (path source : String) :
    ∃ made children, made ∈ [form, .placeholder source] ∧
      Grows (some parent) [.node made children] stage
        (orPlaceholder context parent path source result) := by
  obtain ⟨outcome, later⟩ := result
  cases outcome with
  | ok _ =>
      obtain ⟨children, grown⟩ := attempted
      exact ⟨form, children, List.mem_cons_self, grown⟩
  | error error =>
      have kept : Keeps stage.graph.size stage (later.warn path error.message) :=
        Keeps.trans attempted (keeps_warn _ _ _)
      exact ⟨.placeholder source, [], by simp,
        kept.grows_placeholder context.config.render within source _⟩

/-- A frame adds one node. -/
theorem grows_addFrame (context : RenderContext α σ) {parent : Option Nat}
    (spec : ContainerSpec α) {stage : Stage α σ} (held : HasParent stage.graph.outline parent) :
    Grows parent [.node .frame []] stage (stage.addFrame context parent spec) := by
  cases filled : spec.fill with
  | none =>
      simp only [addFrame, filled]
      apply grows_newNode (.refl _ stage) held
      · rfl
      · rfl
      · exact fun _ => rfl
  | some color =>
      have painted : Keeps stage.graph.size stage
          (stage.paintFor context.styles (frameName parent spec) color).2 :=
        (edits_paintFor context.styles _ color stage).keeps
      simp only [addFrame, filled]
      apply grows_newNode painted held
      · rfl
      · rfl
      · exact fun _ => rfl

/-- A text adds one node, or fails and adds none. -/
theorem attempts_renderText (context : RenderContext α σ) {parent : Nat} (spec : TextSpec α)
    {stage : Stage α σ} (within : parent < stage.graph.size) :
    Attempts parent .text stage (stage.renderText context parent spec) := by
  unfold renderText
  dsimp only
  split
  · next loaded => exact (edits_of_loadFonts loaded).keeps
  · next fonts loadedStage loaded =>
      have loadedFonts : Keeps stage.graph.size stage loadedStage :=
        (edits_of_loadFonts loaded).keeps
      have styled := loadedFonts.trans
        (edits_textStyleFor context (textLabel spec.content)
          (spec.fontSize.getD context.config.render.defaultFontSize) spec.textStyleRef
          loadedStage).keeps
      have colored := styled.trans
        (edits_textColorFor context (textLabel spec.content) spec _).keeps
      refine ⟨[], ?_⟩
      apply grows_newNode colored (hasParent_some within)
      · rfl
      · rfl
      · exact fun _ => rfl

/-- A shape adds one node. -/
theorem grows_renderShape (context : RenderContext α σ) {parent : Nat} (spec : ShapeSpec α)
    {stage : Stage α σ} (within : parent < stage.graph.size) :
    Grows (some parent) [.node spec.shape.form []] stage
      (stage.renderShape context parent spec) := by
  have filled : Keeps stage.graph.size stage
      (stage.shapeFills context (shapeDefaults spec.shape).1 spec).2 :=
    (edits_shapeFills context _ spec stage).keeps
  have same (props : ShapeProps α) : (shapeKind spec.shape props).form = spec.shape.form := by
    cases spec.shape <;> rfl
  have present : spec.shape.form.source? = none := by cases spec.shape <;> rfl
  apply grows_newNode filled (hasParent_some within)
  · exact same _
  · exact present
  · exact fun _ => rfl

theorem source?_blueprintNodeKind (kind : BlueprintKind α) :
    (blueprintNodeKind kind).form.source? = none := by cases kind <;> rfl

mutual

/-- A node of a blueprint adds its tree. -/
theorem grows_addBlueprintNode (hostId : String) {parent : Nat} :
    ∀ (node : BlueprintNode α) {stage : Stage α σ}, parent < stage.graph.size →
      ∃ sketch, Grows (some parent) [sketch] stage (addBlueprintNode hostId parent node stage)
  | .node nodeId name visible width height kind children, stage, within => by
      have added := grows_addNode (hasParent_some within) (some (nestedHostId hostId nodeId)) name
        rfl (source?_blueprintNodeKind kind) width height
      have shown := added.keeps (keeps_setVisible _ visible (Nat.le_refl _))
      rw [addBlueprintNode]
      split
      · have noted := shown.keeps (keeps_noteFont _ stage.graph.size)
        obtain ⟨sketches, below⟩ := grows_addBlueprintNodes hostId children noted.lt_size
        exact ⟨_, noted.inside below⟩
      · obtain ⟨sketches, below⟩ := grows_addBlueprintNodes hostId children shown.lt_size
        exact ⟨_, shown.inside below⟩

/-- The nodes of a blueprint become trees without placeholders. -/
theorem grows_addBlueprintNodes (hostId : String) {parent : Nat} :
    ∀ (nodes : List (BlueprintNode α)) {stage : Stage α σ}, parent < stage.graph.size →
      ∃ sketches, Grows (some parent) sketches stage
        (addBlueprintNodes hostId parent nodes stage)
  | [], stage, _ => ⟨[], .refl (some parent) stage⟩
  | node :: more, stage, within => by
      obtain ⟨sketch, first⟩ := grows_addBlueprintNode hostId node within
      have stillWithin : parent < (addBlueprintNode hostId parent node stage).graph.size := by
        rw [first.size_eq]
        omega
      obtain ⟨sketches, others⟩ := grows_addBlueprintNodes hostId more stillWithin
      exact ⟨sketch :: sketches, first.append (hasParent_some within) others⟩

end

/-- An instance adds one tree with the component at its root. -/
theorem grows_instantiate (blueprint : Blueprint α) {parent : Nat} (name : Option String)
    {stage : Stage α σ} (within : parent < stage.graph.size) :
    ∃ children, Grows (some parent) [.node .component children] stage
      (stage.instantiate blueprint parent name) := by
  have root : Grows (some parent) [.node .component []] stage
      (stage.addNode (some parent) none (name.getD blueprint.name)
        (.instance ⟨blueprint.componentId, blueprint.defaultVariant⟩) blueprint.width
        blueprint.height) := by
    apply grows_addNode (hasParent_some within)
    · rfl
    · rfl
  have behind := root.lt_size
  obtain ⟨children, below⟩ := grows_addBlueprintNodes
    (SceneGraph.generatedHostId stage.graph.size) blueprint.children behind
  exact ⟨children, root.inside below⟩

/-- So does a component that is rendered. -/
theorem grows_renderBlueprint (context : RenderContext α σ) {parent : Nat} (path : String)
    (spec : ComponentSpec) (componentId : String) (blueprint : Blueprint α) {stage : Stage α σ}
    (sound : WellFormed stage.graph.outline) (within : parent < stage.graph.size) :
    ∃ children, Grows (some parent) [.node .component children] stage
      (stage.renderBlueprint context parent path spec componentId blueprint) := by
  have announced : Keeps stage.graph.size stage
      (stage.announce context path spec componentId blueprint) :=
    keeps_announce context path spec componentId blueprint sound
  have stillWithin := within
  rw [← announced.graph.size_eq] at stillWithin
  obtain ⟨children, made⟩ := grows_instantiate blueprint spec.name stillWithin
  have grown := announced.grows made
  have edited := edits_applyProperties context blueprint spec
    (stage.resolvedFor context spec componentId blueprint) stage.graph.size parent path
    (grown.wellFormed sound (hasParent_some within))
  rw [renderBlueprint_eq]
  exact ⟨children, grown.keeps edited.keeps⟩

/-- Every failure of a component comes before its instance is made. -/
theorem attempts_renderComponent (context : RenderContext α σ) {parent : Nat} (path : String)
    (spec : ComponentSpec) {stage : Stage α σ} (sound : WellFormed stage.graph.outline)
    (within : parent < stage.graph.size) :
    Attempts parent .component stage (stage.renderComponent context parent path spec) := by
  unfold renderComponent
  split
  · exact .refl _ stage
  · next componentId named =>
      split
      · next asked => exact (edits_of_ask asked).keeps
      · next asked => exact (edits_of_ask asked).keeps
      · next blueprint askedStage asked =>
          have answered : Keeps stage.graph.size stage askedStage := (edits_of_ask asked).keeps
          have stillWithin := within
          rw [← answered.graph.size_eq] at stillWithin
          obtain ⟨children, grown⟩ := grows_renderBlueprint context path spec componentId blueprint
            (answered.wellFormed sound) stillWithin
          exact ⟨children, answered.grows grown⟩

mutual

/-- Rendering an item adds one tree for it, whatever the host answers. -/
theorem grows_renderItem (context : RenderContext α σ) {parent : Nat} :
    ∀ (item : LayoutItem α) (path : String) {stage : Stage α σ},
      WellFormed stage.graph.outline → parent < stage.graph.size →
        ∃ sketch, Sketched item sketch ∧
          Grows (some parent) [sketch] stage (renderItem context parent path item stage)
  | .container spec children, path, stage, sound, within => by
      have held := hasParent_some within
      have framed := grows_addFrame context spec held
      obtain ⟨sketches, sketched, below⟩ := grows_renderItems context children (itemsPath path) 0
        (framed.wellFormed sound held) framed.lt_size
      have whole := framed.inside below
      exact ⟨_, .container sketched,
        whole.keeps (keeps_arrangeFrame context (whole.wellFormed sound held))⟩
  | .text spec, path, stage, _, within => by
      obtain ⟨made, children, listed, grown⟩ := grows_orPlaceholder context within
        (attempts_renderText context spec within) path (LayoutItem.text spec).source
      exact ⟨_, .leaf listed, grown⟩
  | .shape spec, _, stage, _, within =>
      ⟨_, .leaf List.mem_cons_self, grows_renderShape context spec within⟩
  | .component spec, path, stage, sound, within => by
      obtain ⟨made, children, listed, grown⟩ := grows_orPlaceholder context within
        (attempts_renderComponent context path spec sound within) path
        (LayoutItem.component (α := α) spec).source
      exact ⟨_, .leaf listed, grown⟩
  | .malformed place reason, path, stage, _, within => by
      have kept : Keeps stage.graph.size stage
          (stage.warn path (RenderError.structural place reason).message) := keeps_warn stage _ _
      exact ⟨_, .leaf List.mem_cons_self,
        kept.grows_placeholder context.config.render within _ _⟩

/-- Rendering the items of a list adds one tree for each, in their order. -/
theorem grows_renderItems (context : RenderContext α σ) {parent : Nat} :
    ∀ (items : List (LayoutItem α)) (path : String) (index : Nat) {stage : Stage α σ},
      WellFormed stage.graph.outline → parent < stage.graph.size →
        ∃ sketches, List.Forall₂ Sketched items sketches ∧
          Grows (some parent) sketches stage (renderItems context parent path index items stage)
  | [], _, _, stage, _, _ => ⟨[], .nil, .refl (some parent) stage⟩
  | item :: more, path, index, stage, sound, within => by
      have held := hasParent_some within
      obtain ⟨sketch, sketched, first⟩ :=
        grows_renderItem context item (elementPath path index) sound within
      have stillWithin :
          parent < (renderItem context parent (elementPath path index) item stage).graph.size := by
        rw [first.size_eq]
        omega
      obtain ⟨sketches, others, later⟩ := grows_renderItems context more path (index + 1)
        (first.wellFormed sound held) stillWithin
      exact ⟨sketch :: sketches, .cons sketched others, first.append held later⟩

end

/-- Rendering a document makes one frame with a tree for every item. -/
theorem grows_renderDocument (context : RenderContext α σ) (document : LayoutDocument α)
    {stage : Stage α σ} (sound : WellFormed stage.graph.outline) :
    ∃ sketch, Sketched (.container document.root document.items) sketch ∧
      Grows none [sketch] stage (stage.renderDocument context document) := by
  have held : HasParent stage.graph.outline none := nofun
  have framed := grows_addFrame context document.root held
  have widened := framed.keeps (keeps_widenRoot context document.root stage.graph.size _)
  obtain ⟨sketches, sketched, below⟩ := grows_renderItems context document.items "items" 0
    (widened.wellFormed sound held) widened.lt_size
  have whole := widened.inside below
  have arranged := whole.keeps (keeps_arrangeFrame context (whole.wellFormed sound held))
  exact ⟨_, .container sketched, arranged.keeps (keeps_fitRoot context document.root _ _)⟩

end Stage

end DesignScene
