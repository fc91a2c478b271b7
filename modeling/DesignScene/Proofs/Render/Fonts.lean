/-
This file shows that fonts are noted as missing only for nodes that are there.
-/
import DesignScene.Proofs.Render.Labels

namespace DesignScene.Stage

open Outlines

variable {α σ : Type}

/-- Every node whose font is missing is a node of the scene. -/
def FontsWithin (stage : Stage α σ) : Prop := ∀ id ∈ stage.missingFonts, id < stage.graph.size

/-- No font is missing at the start. -/
theorem fontsWithin_start (hostState : σ) : FontsWithin (start (α := α) hostState) := nofun

namespace FontsWithin

variable {stage later : Stage α σ}

/-- More nodes do no harm. -/
theorem of_le (fonts : FontsWithin stage) (same : later.missingFonts = stage.missingFonts)
    (atLeast : stage.graph.size ≤ later.graph.size) : FontsWithin later := by
  intro id noted
  rw [same] at noted
  exact Nat.lt_of_lt_of_le (fonts id noted) atLeast

/-- A font may be noted as missing for a node that is there. -/
theorem noteFont (fonts : FontsWithin stage) {id : Nat} (within : id < stage.graph.size) :
    FontsWithin { stage with missingFonts := stage.missingFonts ++ [id] } := by
  intro other noted
  rcases List.mem_append.mp noted with early | new
  · exact fonts other early
  · rwa [List.mem_singleton.mp new]

/-- Edits leave the missing fonts within the scene. -/
theorem edits {bound : Nat} (fonts : FontsWithin stage) (edited : Edits bound stage later) :
    FontsWithin later :=
  fonts.of_le edited.missingFonts_eq (Nat.le_of_eq edited.keeps.graph.size_eq.symm)

/-- A changed node leaves the missing fonts within the scene. -/
theorem updateNode (fonts : FontsWithin stage) (id : Nat) (change : SceneNode α → SceneNode α) :
    FontsWithin (stage.updateNode id change) :=
  fonts.of_le rfl (by simp [Stage.updateNode])

theorem reportResolution (fonts : FontsWithin stage) (path : String)
    (resolved : ResolvedProperties α) : FontsWithin (stage.reportResolution path resolved) := by
  rw [Stage.reportResolution]
  induction resolved.errors generalizing stage with
  | nil => exact fonts
  | cons error more ih => exact ih fonts

variable [Scalar α]

/-- A new node leaves the missing fonts within the scene. -/
theorem addNode (fonts : FontsWithin stage) (parent : Option Nat) (hostId : Option String)
    (name : String) (kind : NodeKind α) (width height : α) :
    FontsWithin (stage.addNode parent hostId name kind width height) :=
  fonts.of_le rfl (by simp [Stage.addNode, SceneGraph.size_add])

end FontsWithin

variable [Scalar α]

theorem fontsWithin_addFrame (context : RenderContext α σ) (parent : Option Nat)
    (spec : ContainerSpec α) {stage : Stage α σ} (fonts : FontsWithin stage) :
    FontsWithin (stage.addFrame context parent spec) := by
  cases filled : spec.fill with
  | none =>
      simp only [addFrame, filled]
      exact (fonts.addNode _ _ _ _ _ _).updateNode _ _
  | some color =>
      have painted : Edits 0 stage
          (stage.paintFor context.styles (frameName parent spec) color).2 :=
        edits_paintFor context.styles _ color stage
      simp only [addFrame, filled]
      exact ((fonts.edits painted).addNode _ _ _ _ _ _).updateNode _ _

theorem fontsWithin_renderText (context : RenderContext α σ) (parent : Nat) (spec : TextSpec α)
    {stage : Stage α σ} (fonts : FontsWithin stage) :
    FontsWithin (stage.renderText context parent spec).2 := by
  unfold renderText
  dsimp only
  split
  · next loaded => exact fonts.edits (edits_of_loadFonts loaded : Edits 0 _ _)
  · next loadedFonts loadedStage loaded =>
      have loadedEdits : Edits 0 stage loadedStage := edits_of_loadFonts loaded
      have styled := loadedEdits.trans
        (edits_textStyleFor context (textLabel spec.content)
          (spec.fontSize.getD context.config.render.defaultFontSize) spec.textStyleRef loadedStage)
      have colored := styled.trans (edits_textColorFor context (textLabel spec.content) spec _)
      exact ((fonts.edits colored).addNode _ _ _ _ _ _).updateNode _ _

theorem fontsWithin_renderShape (context : RenderContext α σ) (parent : Nat) (spec : ShapeSpec α)
    {stage : Stage α σ} (fonts : FontsWithin stage) :
    FontsWithin (stage.renderShape context parent spec) := by
  have filled : Edits 0 stage (stage.shapeFills context (shapeDefaults spec.shape).1 spec).2 :=
    edits_shapeFills context _ spec stage
  exact ((fonts.edits filled).addNode _ _ _ _ _ _).updateNode _ _

mutual

theorem fontsWithin_addBlueprintNode (hostId : String) (parent : Nat) :
    ∀ (node : BlueprintNode α) {stage : Stage α σ}, FontsWithin stage →
      FontsWithin (addBlueprintNode hostId parent node stage)
  | .node nodeId name visible width height kind children, stage, fonts => by
      have added := (fonts.addNode (some parent) (some (nestedHostId hostId nodeId)) name
        (blueprintNodeKind kind) width height).updateNode stage.graph.size
          fun node => { node with visible := visible }
      rw [addBlueprintNode]
      split
      · refine fontsWithin_addBlueprintNodes hostId stage.graph.size children
          (added.noteFont ?_)
        simp [updateNode, addNode, SceneGraph.size_add]
      · exact fontsWithin_addBlueprintNodes hostId stage.graph.size children added

theorem fontsWithin_addBlueprintNodes (hostId : String) (parent : Nat) :
    ∀ (nodes : List (BlueprintNode α)) {stage : Stage α σ}, FontsWithin stage →
      FontsWithin (addBlueprintNodes hostId parent nodes stage)
  | [], _, fonts => fonts
  | node :: more, _, fonts =>
      fontsWithin_addBlueprintNodes hostId parent more
        (fontsWithin_addBlueprintNode hostId parent node fonts)

end

theorem fontsWithin_instantiate (blueprint : Blueprint α) (parent : Nat) (name : Option String)
    {stage : Stage α σ} (fonts : FontsWithin stage) :
    FontsWithin (stage.instantiate blueprint parent name) :=
  fontsWithin_addBlueprintNodes _ _ blueprint.children (fonts.addNode _ _ _ _ _ _)

theorem fontsWithin_renderBlueprint (context : RenderContext α σ) {parent : Nat} (path : String)
    (spec : ComponentSpec) (componentId : String) (blueprint : Blueprint α) {stage : Stage α σ}
    (sound : WellFormed stage.graph.outline) (within : parent < stage.graph.size)
    (fonts : FontsWithin stage) :
    FontsWithin (stage.renderBlueprint context parent path spec componentId blueprint) := by
  have chosen : FontsWithin (stage.schemaFor context spec componentId blueprint).2 := by
    rw [schemaFor]
    split
    · exact fonts
    · exact fonts
  have announced : FontsWithin (stage.announce context path spec componentId blueprint) :=
    chosen.reportResolution path _
  have same := graph_announce context path spec componentId blueprint stage
  rw [← same] at sound within
  obtain ⟨_, made⟩ := grows_instantiate blueprint spec.name within
  have edited := edits_applyProperties context blueprint spec
    (stage.resolvedFor context spec componentId blueprint) stage.graph.size parent path
    (made.wellFormed sound (hasParent_some within))
  rw [renderBlueprint_eq]
  exact (fontsWithin_instantiate blueprint parent spec.name announced).edits edited

theorem fontsWithin_orPlaceholder (context : RenderContext α σ) (parent : Nat)
    (path source : String) (result : Except RenderError Unit × Stage α σ)
    (fonts : FontsWithin result.2) :
    FontsWithin (orPlaceholder context parent path source result) := by
  obtain ⟨error | _, later⟩ := result
  · have warned : FontsWithin (later.warn path error.message) := fonts
    exact warned.addNode _ _ _ _ _ _
  · exact fonts

theorem fontsWithin_renderComponent (context : RenderContext α σ) {parent : Nat} (path : String)
    (spec : ComponentSpec) {stage : Stage α σ} (sound : WellFormed stage.graph.outline)
    (within : parent < stage.graph.size) (fonts : FontsWithin stage) :
    FontsWithin (stage.renderComponent context parent path spec).2 := by
  unfold renderComponent
  split
  · exact fonts
  · next componentId named =>
      split
      · next asked => exact fonts.edits (edits_of_ask asked : Edits 0 _ _)
      · next asked => exact fonts.edits (edits_of_ask asked : Edits 0 _ _)
      · next blueprint askedStage asked =>
          have answered : Edits 0 stage askedStage := edits_of_ask asked
          have stillWithin := within
          rw [← answered.keeps.graph.size_eq] at stillWithin
          exact fontsWithin_renderBlueprint context path spec componentId blueprint
            (answered.wellFormed sound) stillWithin (fonts.edits answered)

mutual

theorem fontsWithin_renderItem (context : RenderContext α σ) {parent : Nat} :
    ∀ (item : LayoutItem α) (path : String) {stage : Stage α σ},
      WellFormed stage.graph.outline → parent < stage.graph.size → FontsWithin stage →
        FontsWithin (renderItem context parent path item stage)
  | .container spec children, path, stage, sound, within, fonts => by
      have held := hasParent_some within
      have framed := grows_addFrame context spec held
      have inside := fontsWithin_renderItems context children (itemsPath path) 0
        (framed.wellFormed sound held) framed.lt_size (fontsWithin_addFrame context _ spec fonts)
      obtain ⟨_, -, below⟩ := grows_renderItems context children (itemsPath path) 0
        (framed.wellFormed sound held) framed.lt_size
      have arranged : Keeps stage.graph.size _ _ :=
        keeps_arrangeFrame context ((framed.inside below).wellFormed sound held)
      exact inside.of_le rfl (Nat.le_of_eq arranged.graph.size_eq.symm)
  | .text spec, path, _, _, _, fonts =>
      fontsWithin_orPlaceholder context parent path _ _
        (fontsWithin_renderText context parent spec fonts)
  | .shape spec, _, stage, _, _, fonts => fontsWithin_renderShape context parent spec fonts
  | .component spec, path, _, sound, within, fonts =>
      fontsWithin_orPlaceholder context parent path _ _
        (fontsWithin_renderComponent context path spec sound within fonts)
  | .malformed place reason, path, stage, _, _, fonts => by
      rw [renderItem]
      exact fontsWithin_orPlaceholder context parent path _ _ fonts

theorem fontsWithin_renderItems (context : RenderContext α σ) {parent : Nat} :
    ∀ (items : List (LayoutItem α)) (path : String) (index : Nat) {stage : Stage α σ},
      WellFormed stage.graph.outline → parent < stage.graph.size → FontsWithin stage →
        FontsWithin (renderItems context parent path index items stage)
  | [], _, _, _, _, _, fonts => fonts
  | item :: more, path, index, stage, sound, within, fonts => by
      obtain ⟨sketch, -, first⟩ :=
        grows_renderItem context item (elementPath path index) sound within
      have stillWithin :
          parent < (renderItem context parent (elementPath path index) item stage).graph.size := by
        rw [first.size_eq]
        omega
      exact fontsWithin_renderItems context more path (index + 1)
        (first.wellFormed sound (hasParent_some within)) stillWithin
        (fontsWithin_renderItem context item (elementPath path index) sound within fonts)

end

end DesignScene.Stage
