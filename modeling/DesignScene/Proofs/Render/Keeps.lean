/-
This file shows that the steps of rendering that add no node leave the nodes where they are.
-/
import DesignScene.Proofs.Render.Locate
import DesignScene.Proofs.Scene.Arrange
import DesignScene.Render.Item

namespace DesignScene

open Outlines

/-- The lists of the report only become longer, and no message to the user is added. -/
structure RenderReport.Extends (report later : RenderReport) : Prop where
  warnings : report.warnings <+: later.warnings
  propertyWarnings : report.propertyWarnings <+: later.propertyWarnings
  placeholders : report.placeholders <+: later.placeholders
  basicModeComponents : report.basicModeComponents <+: later.basicModeComponents
  notification : later.notification = report.notification

namespace RenderReport.Extends

variable {report next later : RenderReport}

theorem refl (report : RenderReport) : Extends report report :=
  ⟨List.prefix_rfl, List.prefix_rfl, List.prefix_rfl, List.prefix_rfl, rfl⟩

theorem trans (first : Extends report next) (second : Extends next later) :
    Extends report later where
  warnings := first.warnings.trans second.warnings
  propertyWarnings := first.propertyWarnings.trans second.propertyWarnings
  placeholders := first.placeholders.trans second.placeholders
  basicModeComponents := first.basicModeComponents.trans second.basicModeComponents
  notification := second.notification.trans first.notification

/-- If nothing was reported on the whole, nothing was reported in between. -/
theorem quiet_between (first : Extends report next) (second : Extends next later)
    (quiet : later.warnings = report.warnings) : next.warnings = report.warnings := by
  have atMost := second.warnings.length_le
  rw [quiet] at atMost
  have atLeast := first.warnings.length_le
  exact (first.warnings.eq_of_length (by omega)).symm

end RenderReport.Extends

namespace Stage

variable {α σ : Type}

/-- No node comes or goes, and those before `bound` do not change; no placeholder is reported. -/
structure Keeps (bound : Nat) (stage later : Stage α σ) : Prop where
  graph : stage.graph.Keeps bound later.graph
  report : stage.report.Extends later.report
  placeholders_eq : later.report.placeholders = stage.report.placeholders

namespace Keeps

variable {bound : Nat} {stage next later : Stage α σ}

theorem refl (bound : Nat) (stage : Stage α σ) : Keeps bound stage stage :=
  ⟨.refl bound stage.graph, .refl stage.report, rfl⟩

theorem trans (first : Keeps bound stage next) (second : Keeps bound next later) :
    Keeps bound stage later where
  graph := first.graph.trans second.graph
  report := first.report.trans second.report
  placeholders_eq := second.placeholders_eq.trans first.placeholders_eq

/-- Keeping the nodes before a place keeps those before any earlier one. -/
theorem mono {least : Nat} (kept : Keeps bound stage later) (smaller : least ≤ bound) :
    Keeps least stage later := ⟨kept.graph.mono smaller, kept.report, kept.placeholders_eq⟩

/-- A graph stays well-formed when its outline is kept. -/
theorem wellFormed (kept : Keeps bound stage later) (sound : WellFormed stage.graph.outline) :
    WellFormed later.graph.outline := kept.graph.wellFormed sound

/-- What every step keeps is kept by all of them. -/
theorem foldl {β : Type} {step : Stage α σ → β → Stage α σ} (entries : List β)
    (each : ∀ stage : Stage α σ, WellFormed stage.graph.outline →
      ∀ entry ∈ entries, Keeps bound stage (step stage entry))
    (stage : Stage α σ) (sound : WellFormed stage.graph.outline) :
    Keeps bound stage (entries.foldl step stage) := by
  induction entries generalizing stage with
  | nil => exact .refl bound stage
  | cons entry more ih =>
      have first := each stage sound entry List.mem_cons_self
      exact first.trans (ih (fun stage sound other member =>
        each stage sound other (List.mem_cons_of_mem _ member)) _ (first.wellFormed sound))

end Keeps

section Basic

variable {bound : Nat} (stage : Stage α σ)

theorem keeps_warn (path message : String) : Keeps bound stage (stage.warn path message) where
  graph := .refl bound stage.graph
  report :=
    { RenderReport.Extends.refl stage.report with warnings := List.prefix_append _ _ }
  placeholders_eq := rfl

/-- A change that keeps the outline of a node keeps the nodes before it. -/
theorem keeps_updateNode {id : Nat} {change : SceneNode α → SceneNode α} (behind : bound ≤ id)
    (kept : ∀ node, (change node).outline = node.outline) :
    Keeps bound stage (stage.updateNode id change) where
  graph := SceneGraph.keeps_update behind fun node _ => kept node
  report := .refl stage.report
  placeholders_eq := rfl

theorem keeps_setVisible (visible : Bool) {id : Nat} (behind : bound ≤ id) :
    Keeps bound stage (stage.setVisible visible id) :=
  stage.keeps_updateNode behind fun _ => rfl

/-- Which fonts are missing is noted beside the scene. -/
theorem keeps_noteFont (id : Nat) :
    Keeps bound stage { stage with missingFonts := stage.missingFonts ++ [id] } :=
  ⟨.refl bound stage.graph, .refl stage.report, rfl⟩

theorem keeps_ask {β : Type} (question : σ → β × σ) : Keeps bound stage (stage.ask question).2 :=
  ⟨.refl bound stage.graph, .refl stage.report, rfl⟩

end Basic

section Asking

variable {bound : Nat}

theorem keeps_schemaFor (context : RenderContext α σ) (spec : ComponentSpec)
    (componentId : String) (blueprint : Blueprint α) (stage : Stage α σ) :
    Keeps bound stage (stage.schemaFor context spec componentId blueprint).2 := by
  rw [schemaFor]
  split
  · exact .refl bound stage
  · exact ⟨.refl bound stage.graph,
      { RenderReport.Extends.refl stage.report with
        basicModeComponents := List.prefix_append _ _ }, rfl⟩

theorem keeps_reportResolution (path : String) (resolved : ResolvedProperties α)
    {stage : Stage α σ} (sound : WellFormed stage.graph.outline) :
    Keeps bound stage (stage.reportResolution path resolved) := by
  have warned : Keeps bound stage (resolved.errors.foldl
      (fun stage error => stage.warn path (error.property ++ ": " ++ error.message)) stage) :=
    Keeps.foldl _ (fun _ _ _ _ => keeps_warn _ _ _) stage sound
  exact warned.trans ⟨.refl bound _,
    { RenderReport.Extends.refl _ with propertyWarnings := List.prefix_append _ _ }, rfl⟩

end Asking

section Announcing

theorem graph_reportResolution (path : String) (resolved : ResolvedProperties α)
    (stage : Stage α σ) : (stage.reportResolution path resolved).graph = stage.graph := by
  rw [reportResolution]
  induction resolved.errors generalizing stage with
  | nil => rfl
  | cons error more ih => exact ih (stage.warn path _)

variable (context : RenderContext α σ) (path : String) (spec : ComponentSpec)
  (componentId : String) (blueprint : Blueprint α)

theorem graph_schemaFor (stage : Stage α σ) :
    (stage.schemaFor context spec componentId blueprint).2.graph = stage.graph := by
  rw [schemaFor]
  split <;> rfl

variable [Scalar α]

/-- What the properties of a component come to. -/
def resolvedFor (stage : Stage α σ) : ResolvedProperties α :=
  ResolvedProperties.ofBag (some (stage.schemaFor context spec componentId blueprint).1)
    (spec.properties.preprocess spec.typeName)

/-- The stage right before the instance of a component is made. -/
def announce (stage : Stage α σ) : Stage α σ :=
  (stage.schemaFor context spec componentId blueprint).2.reportResolution path
    (stage.resolvedFor context spec componentId blueprint)

/-- Announcing an instance changes no node. -/
theorem keeps_announce {bound : Nat} {stage : Stage α σ} (sound : WellFormed stage.graph.outline) :
    Keeps bound stage (stage.announce context path spec componentId blueprint) := by
  have chosen : Keeps bound stage (stage.schemaFor context spec componentId blueprint).2 :=
    keeps_schemaFor context spec componentId blueprint stage
  exact chosen.trans (keeps_reportResolution path _ (chosen.wellFormed sound))

/-- Announcing an instance keeps the graph. -/
@[simp] theorem graph_announce (stage : Stage α σ) :
    (stage.announce context path spec componentId blueprint).graph = stage.graph := by
  rw [announce, graph_reportResolution, graph_schemaFor]

/-- The instance is made, and then the properties are applied to it. -/
theorem renderBlueprint_eq (parent : Nat) (stage : Stage α σ) :
    stage.renderBlueprint context parent path spec componentId blueprint =
      ((stage.announce context path spec componentId blueprint).instantiate blueprint parent
        spec.name).applyProperties context blueprint spec
          (stage.resolvedFor context spec componentId blueprint) stage.graph.size parent path := by
  have same := congrArg SceneGraph.size (graph_announce context path spec componentId blueprint stage)
  rw [← same]
  rfl

end Announcing

section Arranging

/-- Widening the root keeps the nodes before it. -/
theorem keeps_widenRoot (context : RenderContext α σ) (spec : ContainerSpec α) (root : Nat)
    (stage : Stage α σ) : Keeps root stage (stage.widenRoot context spec root) := by
  rw [widenRoot]
  split
  · exact stage.keeps_updateNode (Nat.le_refl root) fun _ => rfl
  · exact .refl root stage

variable [Scalar α] {frame : Nat}

/-- Measuring a frame only moves nodes. -/
theorem moves_remeasure (host : Host α σ) {graph later : SceneGraph α}
    (sound : WellFormed graph.outline) (changed : remeasure host frame graph = some later) :
    graph.Moves frame later := by
  simp only [remeasure] at changed
  split at changed
  · cases changed
  · cases changed
    apply SceneGraph.moves_putAll
    intro other member
    obtain ⟨node, isChild, measured⟩ := List.mem_filterMap.mp member
    obtain ⟨height, -, rfl⟩ := Option.map_eq_some_iff.mp measured
    exact ((SceneGraph.fits_of_mem_childNodes sound isChild).mono (Nat.le_succ frame)).of_nature_eq
      rfl

/-- Arranging a frame only moves nodes. -/
theorem moves_arrangeGraph (host : Host α σ) {graph : SceneGraph α}
    (sound : WellFormed graph.outline) : graph.Moves frame (arrangeGraph host frame graph) := by
  have arranged := SceneGraph.moves_arrange sound frame
  rw [arrangeGraph]
  split
  · exact arranged
  · next changed =>
      have measured := moves_remeasure host (arranged.wellFormed sound) changed
      exact (arranged.trans measured).trans
        (SceneGraph.moves_arrange (measured.wellFormed (arranged.wellFormed sound)) frame)

/-- Arranging a frame keeps the nodes before it. -/
theorem keeps_arrangeFrame (context : RenderContext α σ) {stage : Stage α σ}
    (sound : WellFormed stage.graph.outline) :
    Keeps frame stage (stage.arrangeFrame context frame) :=
  ⟨(moves_arrangeGraph context.host sound).toKeeps, .refl stage.report, rfl⟩

/-- Fitting the root only moves nodes. -/
theorem moves_fitRoot (context : RenderContext α σ) (spec : ContainerSpec α) (root : Nat)
    (stage : Stage α σ) : stage.graph.Moves root (stage.fitRoot context spec root).graph :=
  SceneGraph.moves_update (Nat.le_refl root) fun _ _ => rfl

/-- Fitting the root keeps the nodes before it. -/
theorem keeps_fitRoot (context : RenderContext α σ) (spec : ContainerSpec α) (root : Nat)
    (stage : Stage α σ) : Keeps root stage (stage.fitRoot context spec root) :=
  ⟨(moves_fitRoot context spec root stage).toKeeps, .refl stage.report, rfl⟩

end Arranging

end Stage

end DesignScene
