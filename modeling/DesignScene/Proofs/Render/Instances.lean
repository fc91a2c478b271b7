/-
This file shows that the properties of a component do the same to two instances of one blueprint if
their lookups lead to the same nodes of the blueprint.
-/
import DesignScene.Proofs.Render.Delivery
import DesignScene.Proofs.Render.Leads
import DesignScene.Proofs.Render.Twins

namespace DesignScene

open Outlines SceneGraph

/-- The answers of the host depend on nothing but the questions. -/
structure Host.Stateless {α σ : Type} (host : Host α σ) : Prop where
  blueprint : ∀ componentId state other,
    (host.blueprint componentId state).1 = (host.blueprint componentId other).1
  loadFont : ∀ font state other, (host.loadFont font state).1 = (host.loadFont font other).1
  paintStyle : ∀ name state other, (host.paintStyle name state).1 = (host.paintStyle name other).1
  textStyle : ∀ name state other, (host.textStyle name state).1 = (host.textStyle name other).1
  icon : ∀ name state other, (host.icon name state).1 = (host.icon name other).1

namespace Stage

variable {α σ : Type}

section Answers

variable {context : RenderContext α σ}

/-- Without a state the host loads fonts alike at any time. -/
theorem loadAll_of_stateless {host : Host α σ} (stateless : host.Stateless) (fonts : List FontName)
    (stage twin : Stage α σ) : (loadAll host fonts stage).1 = (loadAll host fonts twin).1 := by
  induction fonts generalizing stage twin with
  | nil => rfl
  | cons font more ih =>
      have first := stateless.loadFont font stage.hostState twin.hostState
      have others := ih (stage.ask (host.loadFont font)).2 (twin.ask (host.loadFont font)).2
      exact congrArg₂ (fun one others => Except.bind one fun _ => others) first others

variable (stateless : context.host.Stateless)

include stateless

/-- Without a state the host loads the fonts of a text alike at any time. -/
theorem loadFonts_of_stateless (fonts : List FontName) (stage twin : Stage α σ) :
    (stage.loadFonts context fonts).1 = (twin.loadFonts context fonts).1 := by
  have all := loadAll_of_stateless stateless (distinct fonts) stage twin
  rw [loadFonts, loadFonts]
  generalize loadAll context.host (distinct fonts) stage = result at all
  generalize loadAll context.host (distinct fonts) twin = twinResult at all
  obtain ⟨answer, after⟩ := result
  obtain ⟨twinAnswer, twinAfter⟩ := twinResult
  cases all
  cases answer with
  | ok _ => rfl
  | error _ =>
      have fallback := stateless.loadFont context.config.render.defaultFont after.hostState
        twinAfter.hostState
      exact congrArg (Except.map fun _ => [context.config.render.defaultFont]) fallback

/-- Without a state the host answers a text alike at any time. -/
theorem textOutcome_of_stateless (lacksFont : Bool) (node : Option (SceneNode α))
    (hostState twinState : σ) :
    (textOutcome context lacksFont node hostState).1 =
      (textOutcome context lacksFont node twinState).1 := by
  cases node with
  | none => rfl
  | some node =>
      rw [textOutcome, textOutcome]
      split
      · rfl
      · cases node.text? with
        | none => rfl
        | some props =>
            have loaded := loadFonts_of_stateless stateless props.fonts
              (start (α := α) hostState) (start twinState)
            dsimp only
            generalize (start (α := α) hostState).loadFonts context props.fonts = result at loaded
            generalize (start (α := α) twinState).loadFonts context props.fonts = twinResult at loaded
            obtain ⟨answer, after⟩ := result
            obtain ⟨twinAnswer, twinAfter⟩ := twinResult
            cases loaded
            cases answer <;> rfl

/-- Both stages find the same component, and nothing but the state of the host changes. -/
theorem exists_resolveReference (reference : String) (stage twin : Stage α σ) :
    ∃ answer after twinAfter,
      stage.resolveReference context reference = (answer, { stage with hostState := after }) ∧
        twin.resolveReference context reference = (answer, { twin with hostState := twinAfter }) := by
  rw [resolveReference, resolveReference]
  split
  · exact ⟨some reference, stage.hostState, twin.hostState, rfl, rfl⟩
  · split
    · next schema _ => exact ⟨some schema.componentId, stage.hostState, twin.hostState, rfl, rfl⟩
    · have same := stateless.icon reference stage.hostState twin.hostState
      refine ⟨(context.host.icon reference stage.hostState).1,
        (context.host.icon reference stage.hostState).2,
        (context.host.icon reference twin.hostState).2, rfl, ?_⟩
      rw [same]
      rfl

end Answers

/-- Instances of one blueprint at two places, with lookups that find the nodes of the blueprint. -/
structure Instances (blueprint : Blueprint α) (site other : Site α σ) (stage twin : Stage α σ) :
    Prop where
  twins : Twins site other (blueprint.walk.length + 1) stage twin
  labels : stage.graph.labelsBelow site.start = blueprint.labels site.start
  twinLabels : twin.graph.labelsBelow other.start = blueprint.labels other.start

namespace Instances

variable {blueprint : Blueprint α} {site other : Site α σ} {stage twin : Stage α σ}

/-- Questions to the host keep two instances alike. -/
theorem ask (instances : Instances blueprint site other stage twin) (hostState twinState : σ) :
    Instances blueprint site other { stage with hostState := hostState }
      { twin with hostState := twinState } :=
  ⟨instances.twins.ask hostState twinState, instances.labels, instances.twinLabels⟩

/-- One warning at both places keeps two instances alike. -/
theorem warn (instances : Instances blueprint site other stage twin) (message : String) :
    Instances blueprint site other (stage.warn site.path message) (twin.warn other.path message) :=
  ⟨instances.twins.warn (.same message), instances.labels, instances.twinLabels⟩

/-- One setting at one offset keeps two instances alike. -/
theorem set (instances : Instances blueprint site other stage twin) {id place : Nat}
    (beside : Beside site.start other.start id place) {change : SceneNode α → SceneNode α}
    (setting : SceneNode.IsSetting change) :
    Instances blueprint site other (stage.updateNode id change) (twin.updateNode place change) := by
  obtain ⟨offset, rfl, rfl⟩ := beside
  have edited (stage : Stage α σ) (id : Nat) : Edits 0 stage (stage.updateNode id change) :=
    Edits.refl.set (Nat.zero_le id) setting
  exact ⟨instances.twins.set offset setting,
    ((edited stage _).labelsBelow_eq site.start).trans instances.labels,
    ((edited twin _).labelsBelow_eq other.start).trans instances.twinLabels⟩

/-- Steps that all do the same at both places do the same together. -/
theorem foldl {β : Type} {step twinStep : Stage α σ → β → Stage α σ}
    (instances : Instances blueprint site other stage twin) (entries : List β)
    (each : ∀ stage twin, Instances blueprint site other stage twin → ∀ entry ∈ entries,
      Instances blueprint site other (step stage entry) (twinStep twin entry)) :
    Instances blueprint site other (entries.foldl step stage) (entries.foldl twinStep twin) := by
  induction entries generalizing stage twin with
  | nil => exact instances
  | cons entry more ih =>
      exact ih (each stage twin instances entry List.mem_cons_self)
        fun stage twin instances other member =>
          each stage twin instances other (List.mem_cons_of_mem _ member)

section Texts

variable {context : RenderContext α σ} (stateless : context.host.Stateless)

include stateless

/-- One text at one offset keeps two instances alike. -/
theorem setText (instances : Instances blueprint site other stage twin) {id place : Nat}
    (beside : Beside site.start other.start id place) (text : String) :
    Instances blueprint site other (stage.setText context site.path id text)
      (twin.setText context other.path place text) := by
  obtain ⟨offset, rfl, rfl⟩ := beside
  have sameOutcome : (textOutcome context (twin.missingFonts.contains (other.start + offset))
      (twin.graph.node? (other.start + offset)) twin.hostState).1 =
        (textOutcome context (stage.missingFonts.contains (site.start + offset))
          (stage.graph.node? (site.start + offset)) stage.hostState).1 := by
    rw [instances.twins.fonts offset, textOutcome_of_stateless stateless _ _ _ stage.hostState]
    rcases rel_cases (instances.twins.nodes offset) with
      ⟨node, twinNode, found, twinFound, moved⟩ | ⟨missing, twinMissing⟩
    · rw [found, twinFound,
        textOutcome_congr context _ moved.name_eq (congrArg (Option.map _) moved.text?_eq)]
    · rw [missing, twinMissing]
  rw [setText_eq, setText_eq, sameOutcome]
  generalize (textOutcome context (stage.missingFonts.contains (site.start + offset))
    (stage.graph.node? (site.start + offset)) stage.hostState).2 = after
  generalize (textOutcome context (twin.missingFonts.contains (other.start + offset))
    (twin.graph.node? (other.start + offset)) twin.hostState).2 = twinAfter
  have asked := instances.ask after twinAfter
  cases (textOutcome context (stage.missingFonts.contains (site.start + offset))
      (stage.graph.node? (site.start + offset)) stage.hostState).1 with
  | nothing => exact asked
  | report message => exact asked.warn message
  | write fonts => exact asked.set ⟨offset, rfl, rfl⟩ (isSetting_writeText text fonts)

/-- One spreading of texts keeps two instances alike. -/
theorem spreadOver {nodes twinNodes : List Nat}
    (beside : List.Forall₂ (Beside site.start other.start) nodes twinNodes) (limit : Nat)
    (texts : List String) (instances : Instances blueprint site other stage twin) :
    Instances blueprint site other (stage.spreadOver context site.path limit nodes texts)
      (twin.spreadOver context other.path limit twinNodes texts) := by
  induction beside generalizing limit texts stage twin with
  | nil => exact instances
  | cons first _ ih =>
      unfold Stage.spreadOver
      split
      · exact ih _ _ (instances.setText stateless first _)
      · exact ih _ _ (instances.set first (SceneNode.isSetting_visible false))

/-- A binding that leads alike keeps two instances alike. -/
theorem applyBinding (instances : Instances blueprint site other stage twin)
    {binding : SlotBinding} (leads : blueprint.LeadsAlike site.start other.start
      binding.slot.nodeId binding.slot.slotName) :
    Instances blueprint site other (stage.applyBinding context site.start site.path binding)
      (twin.applyBinding context other.start other.path binding) := by
  rw [Stage.applyBinding, Stage.applyBinding]
  cases binding.value with
  | single text =>
      dsimp only [locateSlot]
      rcases rel_cases (rel_locate instances.labels instances.twinLabels leads) with
        ⟨id, place, found, twinFound, beside⟩ | ⟨missing, twinMissing⟩
      · rw [found, twinFound]
        exact instances.setText stateless beside text
      · rw [missing, twinMissing]
        exact instances.warn _
  | multiple texts =>
      have nodes := forall₂_slotTexts instances.labels instances.twinLabels leads
      dsimp only
      rw [nodes.length_eq]
      exact instances.spreadOver stateless nodes _ texts

end Texts

section Lookups

/-- Hiding a slot that leads alike keeps two instances alike. -/
theorem hideSlot (instances : Instances blueprint site other stage twin) {slot : SlotRef}
    (leads : blueprint.LeadsAlike site.start other.start slot.nodeId slot.slotName) :
    Instances blueprint site other (stage.hideSlot site.start slot)
      (twin.hideSlot other.start slot) := by
  rw [Stage.hideSlot, Stage.hideSlot, locateSlot, locateSlot]
  rcases rel_cases (rel_locate instances.labels instances.twinLabels leads) with
    ⟨id, place, found, twinFound, beside⟩ | ⟨missing, twinMissing⟩
  · rw [found, twinFound]
    exact instances.set beside (SceneNode.isSetting_visible false)
  · rw [missing, twinMissing]
    exact instances

/-- An override that leads alike keeps two instances alike. -/
theorem applyVisibility (instances : Instances blueprint site other stage twin)
    {override : String × Bool}
    (leads : blueprint.LeadsAlike site.start other.start override.1 override.1) :
    Instances blueprint site other (stage.applyVisibility site.start site.path override)
      (twin.applyVisibility other.start other.path override) := by
  obtain ⟨key, visible⟩ := override
  simp only [Stage.applyVisibility]
  rcases rel_cases (rel_locate instances.labels instances.twinLabels leads) with
    ⟨id, place, found, twinFound, beside⟩ | ⟨missing, twinMissing⟩
  · rw [found, twinFound]
    exact instances.set beside (SceneNode.isSetting_visible visible)
  · rw [missing, twinMissing]
    exact instances.warn _

variable {context : RenderContext α σ} (stateless : context.host.Stateless)

include stateless

/-- A text assignment that leads alike keeps two instances alike. -/
theorem applyText (instances : Instances blueprint site other stage twin)
    {assignment : TextAssignment}
    (bound : ∀ binding ∈ assignment.bindings, blueprint.LeadsAlike site.start other.start
      binding.slot.nodeId binding.slot.slotName)
    (hidden : ∀ slot ∈ assignment.hiddenSlots,
      blueprint.LeadsAlike site.start other.start slot.nodeId slot.slotName) :
    Instances blueprint site other (stage.applyText context site.start site.path assignment)
      (twin.applyText context other.start other.path assignment) := by
  have written : Instances blueprint site other
      (assignment.bindings.foldl (Stage.applyBinding context site.start site.path) stage)
      (assignment.bindings.foldl (Stage.applyBinding context other.start other.path) twin) :=
    instances.foldl _ fun _ _ instances binding member =>
      instances.applyBinding stateless (bound binding member)
  exact written.foldl _ fun _ _ instances slot member => instances.hideSlot (hidden slot member)

/-- A media assignment that leads alike keeps two instances alike. -/
theorem applyMedia (instances : Instances blueprint site other stage twin)
    {media : MediaAssignment} (leads : blueprint.LeadsAlike site.start other.start
      media.slot.nodeId media.slot.slotName) :
    Instances blueprint site other (stage.applyMedia context site.start site.path media)
      (twin.applyMedia context other.start other.path media) := by
  rw [Stage.applyMedia, Stage.applyMedia, locateSlot, locateSlot]
  rcases rel_cases (rel_locate instances.labels instances.twinLabels leads) with
    ⟨id, place, found, twinFound, beside⟩ | ⟨missing, twinMissing⟩
  · rw [found, twinFound]
    cases media.value with
    | visible isVisible => exact instances.set beside (SceneNode.isSetting_visible isVisible)
    | reference reference =>
        obtain ⟨answer, after, twinAfter, resolved, twinResolved⟩ :=
          exists_resolveReference stateless reference stage twin
        dsimp only
        split
        · rw [resolved, twinResolved]
          exact (instances.ask after twinAfter).set beside (isSetting_writeMedia reference answer)
        · exact instances.set beside (isSetting_writeMedia reference none)
  · rw [missing, twinMissing]
    exact instances.warn _

/-- An icon swap that leads alike keeps two instances alike. -/
theorem applyIconSwap (instances : Instances blueprint site other stage twin)
    {swap : String × String} (leads : blueprint.IconLeadsAlike site.start other.start swap.1) :
    Instances blueprint site other (stage.applyIconSwap context site.start site.path swap)
      (twin.applyIconSwap context other.start other.path swap) := by
  obtain ⟨key, icon⟩ := swap
  simp only [Stage.applyIconSwap]
  rcases rel_cases (rel_iconTarget instances.labels instances.twinLabels leads) with
    ⟨id, place, found, twinFound, beside⟩ | ⟨missing, twinMissing⟩
  · obtain ⟨answer, after, twinAfter, resolved, twinResolved⟩ :=
      exists_resolveReference stateless icon stage twin
    rw [found, twinFound, resolved, twinResolved]
    have asked := instances.ask after twinAfter
    cases answer with
    | none => exact asked.warn _
    | some componentId => exact asked.set beside (isSetting_updateInstance _)
  · rw [missing, twinMissing]
    exact instances.warn _

end Lookups

section Dressing

/-- One variant keeps two instances alike. -/
theorem applyVariant (instances : Instances blueprint site other stage twin)
    (variant : String × String) :
    Instances blueprint site other (stage.applyVariant blueprint site.start site.path variant)
      (twin.applyVariant blueprint other.start other.path variant) := by
  simp only [Stage.applyVariant]
  split
  · exact instances.set ⟨0, rfl, rfl⟩ (isSetting_updateInstance _)
  · exact instances.warn _

variable [Scalar α]

/-- The layout of an instance follows from that of the frame. -/
theorem applyLayout (instances : Instances blueprint site other stage twin) {frame : Nat}
    (sameMode : twin.layoutModeOf (some frame) = stage.layoutModeOf (some frame))
    (sameWidth : twin.graph.innerWidth frame = stage.graph.innerWidth frame)
    (directive : LayoutDirective α) :
    Instances blueprint site other (stage.applyLayout site.start frame directive)
      (twin.applyLayout other.start frame directive) := by
  rw [Stage.applyLayout, Stage.applyLayout]
  simp only [fillWidth, sameMode, Option.bind_some, sameWidth]
  exact instances.set ⟨0, rfl, rfl⟩ (isSetting_layOut _ _ _)

end Dressing

end Instances

/-- The frame is the same at both stages, whatever children it has. -/
def SameFrame (frame : Nat) (stage twin : Stage α σ) : Prop :=
  (twin.graph.node? frame).map (fun node => { node with children := [] }) =
    (stage.graph.node? frame).map fun node => { node with children := [] }

section Frames

variable {frame : Nat} {stage twin later : Stage α σ}

theorem SameFrame.trans (first : SameFrame frame stage twin) (second : SameFrame frame twin later) :
    SameFrame frame stage later := Eq.trans second first

theorem SameFrame.symm (same : SameFrame frame stage twin) : SameFrame frame twin stage := Eq.symm same

/-- Nothing but the children of the frame may have changed. -/
theorem SameFrame.read_eq {β : Type} (same : SameFrame frame stage twin) (read : SceneNode α → β)
    (blind : ∀ node, read { node with children := [] } = read node) :
    (twin.graph.node? frame).map read = (stage.graph.node? frame).map read := by
  have reads := congrArg (Option.map read) same
  simpa only [Option.map_map, Function.comp_def, blind] using reads

/-- One frame has one direction. -/
theorem SameFrame.layoutModeOf_eq (same : SameFrame frame stage twin) :
    twin.layoutModeOf (some frame) = stage.layoutModeOf (some frame) := by
  have modeOf (stage : Stage α σ) : stage.layoutModeOf (some frame) =
      ((stage.graph.node? frame).map fun node =>
        node.frame?.elim LayoutMode.none (·.layoutMode)).getD .none := by
    rw [layoutModeOf, Option.bind_some]
    cases stage.graph.node? frame <;> rfl
  rw [modeOf, modeOf, same.read_eq _ fun _ => rfl]

/-- One frame has one inner width. -/
theorem SameFrame.innerWidth_eq [Scalar α] (same : SameFrame frame stage twin) :
    twin.graph.innerWidth frame = stage.graph.innerWidth frame := by
  have widthOf (stage : Stage α σ) : stage.graph.innerWidth frame =
      ((stage.graph.node? frame).map fun node =>
        if node.fixedWidth then
          some (Scalar.atLeastZero (node.width - (insetOf node).getD (Scalar.ofNat 0)))
        else none).getD none := by
    rw [innerWidth]
    cases stage.graph.node? frame <;> rfl
  rw [widthOf, widthOf, same.read_eq _ fun _ => rfl]

/-- A frame before the kept bound stays the same. -/
theorem Keeps.sameFrame {bound : Nat} (kept : Keeps bound stage later) (before : frame < bound) :
    SameFrame frame stage later := congrArg (Option.map _) (kept.graph.node?_eq frame before)

/-- A frame that gets further children is still the same. -/
theorem Grows.sameFrame {parent : Option Nat} {sketches : List Sketch}
    (grown : Grows parent sketches stage later) (before : frame < stage.graph.size) :
    SameFrame frame stage later := by
  rw [SameFrame, grown.node?_eq frame before, Option.map_map]
  congr 1
  funext node
  rw [Function.comp_apply]
  split <;> rfl

end Frames

/-- The lookups for the content of a component lead to the same blueprint nodes in two instances. -/
structure ContentLeadsAlike (blueprint : Blueprint α) (start other : Nat)
    (resolved : ResolvedProperties α) (swaps : List (String × String)) : Prop where
  bound : ∀ assignment ∈ resolved.textProperties, ∀ binding ∈ assignment.bindings,
    blueprint.LeadsAlike start other binding.slot.nodeId binding.slot.slotName
  hidden : ∀ assignment ∈ resolved.textProperties, ∀ slot ∈ assignment.hiddenSlots,
    blueprint.LeadsAlike start other slot.nodeId slot.slotName
  media : ∀ media ∈ resolved.mediaProperties,
    blueprint.LeadsAlike start other media.slot.nodeId media.slot.slotName
  icons : ∀ swap ∈ swaps, blueprint.IconLeadsAlike start other swap.1

section Rendering

variable [Scalar α] {context : RenderContext α σ} {blueprint : Blueprint α} {site other : Site α σ}
  {stage twin : Stage α σ} {frame : Nat} {spec : ComponentSpec}

/-- All properties that lead alike keep two instances alike. -/
theorem Instances.applyProperties (stateless : context.host.Stateless)
    (sound : WellFormed stage.graph.outline) (twinSound : WellFormed twin.graph.outline)
    (inFront : frame < site.start) (twinInFront : frame < other.start)
    (sameFrame : SameFrame frame stage twin) {resolved : ResolvedProperties α}
    (content : ContentLeadsAlike blueprint site.start other.start resolved spec.iconSwaps)
    (overrides : ∀ override ∈ spec.visibilityOverrides,
      blueprint.LeadsAlike site.start other.start override.1 override.1)
    (instances : Instances blueprint site other stage twin) :
    Instances blueprint site other
      (stage.applyProperties context blueprint spec resolved site.start frame site.path)
      (twin.applyProperties context blueprint spec resolved other.start frame other.path) := by
  have varied : Instances blueprint site other
      (stage.applyVariants blueprint site.start site.path resolved.variants)
      (twin.applyVariants blueprint other.start other.path resolved.variants) :=
    instances.foldl _ fun _ _ instances variant _ => instances.applyVariant variant
  have edited : Keeps site.start stage _ :=
    (edits_applyVariants blueprint site.path resolved.variants sound).keeps
  have twinEdited : Keeps other.start twin _ :=
    (edits_applyVariants blueprint other.path resolved.variants twinSound).keeps
  have stillSame := ((edited.sameFrame inFront).symm.trans sameFrame).trans
    (twinEdited.sameFrame twinInFront)
  have laidOut := varied.applyLayout stillSame.layoutModeOf_eq stillSame.innerWidth_eq
    resolved.layoutProperties
  have written : Instances blueprint site other
      (resolved.textProperties.foldl (Stage.applyText context site.start site.path) _)
      (resolved.textProperties.foldl (Stage.applyText context other.start other.path) _) :=
    laidOut.foldl _ fun _ _ instances assignment member =>
      instances.applyText stateless (content.bound assignment member)
        (content.hidden assignment member)
  have filled : Instances blueprint site other
      (resolved.mediaProperties.foldl (Stage.applyMedia context site.start site.path) _)
      (resolved.mediaProperties.foldl (Stage.applyMedia context other.start other.path) _) :=
    written.foldl _ fun _ _ instances media member =>
      instances.applyMedia stateless (content.media media member)
  have shown : Instances blueprint site other
      (spec.visibilityOverrides.foldl (Stage.applyVisibility site.start site.path) _)
      (spec.visibilityOverrides.foldl (Stage.applyVisibility other.start other.path) _) :=
    filled.foldl _ fun _ _ instances override member =>
      instances.applyVisibility (overrides override member)
  exact shown.foldl _ fun _ _ instances swap member =>
    instances.applyIconSwap stateless (content.icons swap member)

/-- The schema of a component does not depend on the stage. -/
theorem resolvedFor_eq (context : RenderContext α σ) (spec : ComponentSpec) (componentId : String)
    (blueprint : Blueprint α) (stage twin : Stage α σ) :
    stage.resolvedFor context spec componentId blueprint =
      twin.resolvedFor context spec componentId blueprint := by
  rw [resolvedFor, resolvedFor, schemaFor, schemaFor]
  split <;> rfl

/-- Announcing one component at both places keeps them alike. -/
theorem twins_announce (context : RenderContext α σ) (spec : ComponentSpec) (componentId : String)
    (blueprint : Blueprint α) (twins : Twins site other 0 stage twin) :
    Twins site other 0 (stage.announce context site.path spec componentId blueprint)
      (twin.announce context other.path spec componentId blueprint) := by
  rw [announce, announce, resolvedFor_eq context spec componentId blueprint stage twin]
  exact (twins.schemaFor context spec componentId blueprint).reportResolution _

/-- Instances made of one blueprint at two places are alike. -/
theorem instances_instantiate (blueprint : Blueprint α) (inFront : frame < site.start)
    (twinInFront : frame < other.start) (name : Option String)
    (twins : Twins site other 0 stage twin) :
    Instances blueprint site other (stage.instantiate blueprint frame name)
      (twin.instantiate blueprint frame name) := by
  have labels {start : Nat} {stage : Stage α σ} (size : stage.graph.size = start)
      (before : frame < start) :
      (stage.instantiate blueprint frame name).graph.labelsBelow start = blueprint.labels start := by
    subst size
    exact labelsBelow_instantiate blueprint name before
  exact ⟨twins_instantiate blueprint inFront twinInFront name twins, labels twins.size_eq inFront,
    labels twins.twin_size_eq twinInFront⟩

/-- The same component becomes corresponding instances. -/
theorem instances_renderBlueprint (twins : Twins site other 0 stage twin)
    (stateless : context.host.Stateless) (sound : WellFormed stage.graph.outline)
    (twinSound : WellFormed twin.graph.outline) (inFront : frame < site.start)
    (twinInFront : frame < other.start) (sameFrame : SameFrame frame stage twin)
    (componentId : String) {origin : Stage α σ}
    (content : ContentLeadsAlike blueprint site.start other.start
      (origin.resolvedFor context spec componentId blueprint) spec.iconSwaps)
    (overrides : ∀ override ∈ spec.visibilityOverrides,
      blueprint.LeadsAlike site.start other.start override.1 override.1) :
    Instances blueprint site other
      (stage.renderBlueprint context frame site.path spec componentId blueprint)
      (twin.renderBlueprint context frame other.path spec componentId blueprint) := by
  have size : stage.graph.size = site.start := twins.size_eq
  have twinSize : twin.graph.size = other.start := twins.twin_size_eq
  have resolved := resolvedFor_eq context spec componentId blueprint stage origin
  have twinResolved := resolvedFor_eq context spec componentId blueprint twin origin
  have announced := twins_announce context spec componentId blueprint twins
  rw [renderBlueprint_eq, renderBlueprint_eq, size, twinSize, resolved, twinResolved]
  have graph := graph_announce context site.path spec componentId blueprint stage
  have twinGraph := graph_announce context other.path spec componentId blueprint twin
  generalize stage.announce context site.path spec componentId blueprint = fresh at announced graph ⊢
  generalize twin.announce context other.path spec componentId blueprint = twinFresh
    at announced twinGraph ⊢
  have held : frame < fresh.graph.size := by rwa [graph, size]
  have twinHeld : frame < twinFresh.graph.size := by rwa [twinGraph, twinSize]
  rw [← graph] at sound
  rw [← twinGraph] at twinSound
  rw [SameFrame, ← graph, ← twinGraph] at sameFrame
  obtain ⟨_, grown⟩ := grows_instantiate blueprint spec.name held
  obtain ⟨_, twinGrown⟩ := grows_instantiate blueprint spec.name twinHeld
  have stillSame := ((grown.sameFrame held).symm.trans sameFrame).trans
    (twinGrown.sameFrame twinHeld)
  exact (instances_instantiate blueprint inFront twinInFront spec.name announced).applyProperties
    stateless (grown.wellFormed sound (hasParent_some held))
    (twinGrown.wellFormed twinSound (hasParent_some twinHeld)) inFront twinInFront stillSame content
    overrides

end Rendering

end Stage

end DesignScene
