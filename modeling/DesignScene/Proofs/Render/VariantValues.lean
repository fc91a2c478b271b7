/-
This file shows that the variant values of an instance are those of its blueprint or legal ones.
-/
import DesignScene.Proofs.Property.Legal
import DesignScene.Proofs.Render.Depiction

namespace DesignScene

open Outlines

variable {α σ : Type}

/-- The schema that properties are resolved with, the scanned one or else one read off the blueprint. -/
def RenderContext.schemaUsed (context : RenderContext α σ) (spec : ComponentSpec)
    (componentId : String) (blueprint : Blueprint α) : ComponentSchema :=
  (context.registry.get? componentId).getD (blueprint.basicSchema spec.typeName)

/-- The live component has the value among its options, if it lists any. -/
def Blueprint.Allows (blueprint : Blueprint α) (choice : String × String) : Prop :=
  blueprint.variantOptions ≠ [] →
    ∃ values, blueprint.variantOptions.get? choice.1 = some values ∧ choice.2 ∈ values

/-- What a variant value of an instance may be. -/
def RenderContext.MayWear (context : RenderContext α σ) (spec : ComponentSpec)
    (componentId : String) (blueprint : Blueprint α) (choice : String × String) : Prop :=
  choice ∈ blueprint.defaultVariant ∨
    (context.schemaUsed spec componentId blueprint).IsLegal choice ∧ blueprint.Allows choice

/-- The node is an instance all of whose variant values pass. -/
def SceneGraph.Wears (graph : SceneGraph α) (id : Nat) (passes : String × String → Prop) : Prop :=
  ∃ node props, graph.node? id = some node ∧ node.kind = .instance props ∧
    ∀ choice ∈ props.variantValues, passes choice

namespace Stage

section Instance

variable {passes : String × String → Prop} {id : Nat}

/-- A choice that passes the test of the blueprint is allowed. -/
theorem allows_of_allowsVariant {blueprint : Blueprint α} {choice : String × String}
    (allowed : allowsVariant blueprint choice.1 choice.2 = true) : blueprint.Allows choice := by
  intro listed
  rw [allowsVariant, Bool.or_eq_true, List.isEmpty_iff] at allowed
  have found := allowed.resolve_left listed
  cases options : blueprint.variantOptions.get? choice.1 with
  | none =>
      rw [options] at found
      cases found
  | some values =>
      rw [options] at found
      exact ⟨values, rfl, List.contains_iff_mem.mp found⟩

/-- A choice that is not allowed is reported and changes nothing. -/
theorem wears_applyVariant {blueprint : Blueprint α} {choice : String × String} (path : String)
    {stage : Stage α σ} (wears : stage.graph.Wears id passes)
    (fine : blueprint.Allows choice → passes choice) :
    (stage.applyVariant blueprint id path choice).graph.Wears id passes := by
  obtain ⟨node, props, found, isInstance, each⟩ := wears
  rw [applyVariant]
  split_ifs with allowed
  · refine ⟨_, ⟨props.mainComponentId, props.variantValues.insert choice.1 choice.2⟩,
      SceneGraph.node?_update_self found _, ?_, fun other member => ?_⟩
    · simp only [updateInstance, isInstance]
    · rcases Dict.mem_insert member with rfl | old
      · exact fine (allows_of_allowsVariant allowed)
      · exact each other old
  · exact ⟨node, props, found, isInstance, each⟩

/-- An instance given allowed choices wears passing values. -/
theorem wears_applyVariants {blueprint : Blueprint α} (path : String) {variants : Dict String}
    (fine : ∀ choice ∈ variants, blueprint.Allows choice → passes choice) {stage : Stage α σ}
    (wears : stage.graph.Wears id passes) :
    (stage.applyVariants blueprint id path variants).graph.Wears id passes := by
  rw [applyVariants]
  induction variants generalizing stage with
  | nil => exact wears
  | cons choice more ih =>
      exact ih (fun other member => fine other (List.mem_cons_of_mem _ member))
        (wears_applyVariant path wears (fine choice List.mem_cons_self))

/-- What does not touch the instance leaves its variant values. -/
theorem Keeps.wears {bound : Nat} {stage later : Stage α σ} (kept : Keeps bound stage later)
    (inFront : id < bound) (wears : stage.graph.Wears id passes) :
    later.graph.Wears id passes := by
  obtain ⟨node, props, found, rest⟩ := wears
  exact ⟨node, props, (kept.graph.node?_eq id inFront).trans found, rest⟩

/-- An answer of the host comes from its state at the time. -/
theorem answer_of_ask {β : Type} {question : σ → β × σ} {answer : β} {stage later : Stage α σ}
    (asked : stage.ask question = (answer, later)) :
    question stage.hostState = (answer, later.hostState) := by
  cases asked
  rfl

/-- The schema found for a component is the one the context uses. -/
theorem fst_schemaFor (context : RenderContext α σ) (spec : ComponentSpec) (componentId : String)
    (blueprint : Blueprint α) (stage : Stage α σ) :
    (stage.schemaFor context spec componentId blueprint).1 =
      context.schemaUsed spec componentId blueprint := by
  rw [schemaFor, RenderContext.schemaUsed]
  cases context.registry.get? componentId <;> rfl

variable [Scalar α]

/-- Applying a layout keeps the worn values. -/
theorem wears_applyLayout (parent : Nat) (directive : LayoutDirective α) {stage : Stage α σ}
    (wears : stage.graph.Wears id passes) :
    (stage.applyLayout id parent directive).graph.Wears id passes := by
  obtain ⟨node, props, found, isInstance, each⟩ := wears
  exact ⟨_, props, SceneGraph.node?_update_self found _, isInstance, each⟩

/-- An instance begins with the default variant. -/
theorem wears_instantiate (blueprint : Blueprint α) {parent : Nat} (name : Option String)
    {stage : Stage α σ} (within : parent < stage.graph.size) :
    (stage.instantiate blueprint parent name).graph.Wears stage.graph.size
      (· ∈ blueprint.defaultVariant) := by
  let props : InstanceProps := ⟨blueprint.componentId, blueprint.defaultVariant⟩
  let made : Stage α σ := stage.addNode (some parent) none (name.getD blueprint.name)
    (.instance props) blueprint.width blueprint.height
  have size : made.graph.size = stage.graph.size + 1 := SceneGraph.size_add ..
  have behind : stage.graph.size < made.graph.size := by omega
  have found : made.graph.node? stage.graph.size = some _ :=
    SceneGraph.node?_add_self (hasParent_some within) none _ _ _ _
  obtain ⟨sketches, below⟩ := grows_addBlueprintNodes
    (SceneGraph.generatedHostId stage.graph.size) blueprint.children behind
  have kept := below.node?_eq stage.graph.size behind
  rw [found, Option.map_some, if_pos rfl] at kept
  exact ⟨_, props, kept, rfl, fun _ member => member⟩

/-- Whatever properties a component has, its instance wears what it may. -/
theorem wears_renderBlueprint (context : RenderContext α σ) {parent : Nat} (path : String)
    (spec : ComponentSpec) (componentId : String) (blueprint : Blueprint α) {stage : Stage α σ}
    (sound : WellFormed stage.graph.outline) (within : parent < stage.graph.size) :
    (stage.renderBlueprint context parent path spec componentId blueprint).graph.Wears
      stage.graph.size (context.MayWear spec componentId blueprint) := by
  let announced := stage.announce context path spec componentId blueprint
  let resolved := stage.resolvedFor context spec componentId blueprint
  have sameGraph : announced.graph = stage.graph := graph_announce ..
  rw [← sameGraph] at sound within
  obtain ⟨children, made⟩ := grows_instantiate blueprint spec.name within
  have start := made.wellFormed sound (hasParent_some within)
  obtain ⟨node, props, found, isInstance, defaults⟩ := wears_instantiate blueprint spec.name within
  have fine : ∀ choice ∈ resolved.variants, blueprint.Allows choice →
      context.MayWear spec componentId blueprint choice := by
    intro choice member allowed
    refine .inr ⟨?_, allowed⟩
    rw [← fst_schemaFor context spec componentId blueprint stage]
    exact ResolvedProperties.isLegal_of_mem_variants _ _ member
  have varied := wears_applyVariants path fine
    ⟨node, props, found, isInstance, fun choice member => .inl (defaults choice member)⟩
  have dressed := wears_applyLayout parent resolved.layoutProperties varied
  have furnished := edits_furnish context spec resolved announced.graph.size path
    ((edits_dress blueprint resolved announced.graph.size parent path start).wellFormed start)
  rw [renderBlueprint_eq, ← sameGraph, applyProperties_eq]
  exact furnished.keeps.wears (Nat.lt_succ_self _) dressed

/-- A component is rendered only after the host has given its blueprint. -/
theorem blueprint_of_renderComponent {context : RenderContext α σ} {parent : Nat} {path : String}
    {spec : ComponentSpec} {stage later : Stage α σ} {done : Unit}
    (rendered : stage.renderComponent context parent path spec = (.ok done, later)) :
    ∃ componentId blueprint asked, spec.componentId = some componentId ∧
      stage.ask (context.host.blueprint componentId) = (.ok (some blueprint), asked) ∧
        later = asked.renderBlueprint context parent path spec componentId blueprint := by
  unfold renderComponent at rendered
  split at rendered
  · cases rendered
  · next componentId named =>
      split at rendered
      · cases rendered
      · cases rendered
      · next blueprint asked answered =>
          cases rendered
          exact ⟨componentId, blueprint, asked, named, answered, rfl⟩

end Instance

end Stage

/-- The node shows the item, and each instance below it wears only what it may. -/
inductive Dressed (context : RenderContext α σ) (graph : SceneGraph α) :
    LayoutItem α → Nat → Prop where
  | container {spec : ContainerSpec α} {items : List (LayoutItem α)} {id : Nat}
      {node : SceneNode α} (found : graph.node? id = some node)
      (inside : List.Forall₂ (Dressed context graph) items node.children) :
      Dressed context graph (.container spec items) id
  | component {spec : ComponentSpec} {id : Nat} {componentId : String} {blueprint : Blueprint α}
      {before after : σ} (named : spec.componentId = some componentId)
      (given : context.host.blueprint componentId before = (.ok (some blueprint), after))
      (wears : graph.Wears id (context.MayWear spec componentId blueprint)) :
      Dressed context graph (.component spec) id
  | other {item : LayoutItem α} {id : Nat} {node : SceneNode α}
      (found : graph.node? id = some node) (listed : node.kind.form ∈ item.leafForms)
      (plain : node.kind.form ≠ .component) : Dressed context graph item id

/-- The nodes from `low` on are still there, with their children and their settings. -/
def SceneGraph.Persists (low : Nat) (graph later : SceneGraph α) : Prop :=
  ∀ id node, low ≤ id → graph.node? id = some node →
    ∃ after, later.node? id = some after ∧ after.children = node.children ∧ after.kind = node.kind

/-- A graph whose nodes only moved keeps everything from any place on. -/
theorem SceneGraph.Moves.persists {bound : Nat} {graph later : SceneGraph α}
    (moved : graph.Moves bound later) (low : Nat) : graph.Persists low later := by
  intro id node _ found
  have same := moved.map_nature_eq id
  rw [found, Option.map_some] at same
  obtain ⟨after, isThere, nature⟩ := Option.map_eq_some_iff.mp same
  exact ⟨after, isThere, congrArg (·.1.children) nature, congrArg Prod.snd nature⟩

/-- Further trees change no node behind their parent. -/
theorem Stage.Grows.persists {parent low : Nat} {sketches : List Sketch} {stage later : Stage α σ}
    (grown : Grows (some parent) sketches stage later) (behind : parent < low) :
    stage.graph.Persists low later.graph := by
  intro id node after found
  have within : id < stage.graph.size := (Array.getElem?_eq_some_iff.mp found).1
  have different : some parent ≠ some id := by
    intro same
    cases same
    omega
  have kept := grown.node?_eq id within
  rw [found, Option.map_some, if_neg different] at kept
  exact ⟨node, kept, rfl, rfl⟩

mutual

/-- What persists stays dressed. -/
theorem Dressed.mono {context : RenderContext α σ} {low : Nat} {graph later : SceneGraph α}
    (sound : WellFormed graph.outline) (kept : graph.Persists low later) :
    ∀ {item : LayoutItem α} {id : Nat}, Dressed context graph item id → low ≤ id →
      Dressed context later item id
  | _, id, .container found inside, behind => by
      obtain ⟨after, isThere, sameChildren, -⟩ := kept id _ behind found
      refine .container isThere (sameChildren ▸ ?_)
      have above : ∀ child ∈ _, low ≤ child := fun child member =>
        Nat.le_trans behind (Nat.le_of_lt
          (sound.lt_of_mem_children (SceneGraph.outline_of_node? found) member))
      exact Dressed.mono_all sound kept inside above
  | _, id, .component named given ⟨node, props, found, isInstance, each⟩, behind => by
      obtain ⟨after, isThere, -, sameKind⟩ := kept id node behind found
      exact .component named given ⟨after, props, isThere, sameKind.trans isInstance, each⟩
  | _, id, .other found listed plain, behind => by
      obtain ⟨after, isThere, -, sameKind⟩ := kept id _ behind found
      exact .other isThere (sameKind ▸ listed) (sameKind ▸ plain)

/-- Dressed items stay dressed in any later graph that keeps them. -/
theorem Dressed.mono_all {context : RenderContext α σ} {low : Nat} {graph later : SceneGraph α}
    (sound : WellFormed graph.outline) (kept : graph.Persists low later) :
    ∀ {items : List (LayoutItem α)} {ids : List Nat},
      List.Forall₂ (Dressed context graph) items ids → (∀ id ∈ ids, low ≤ id) →
        List.Forall₂ (Dressed context later) items ids
  | _, _, .nil, _ => .nil
  | _, _, .cons first others, behind =>
      .cons (Dressed.mono sound kept first (behind _ List.mem_cons_self))
        (Dressed.mono_all sound kept others fun id member =>
          behind id (List.mem_cons_of_mem _ member))

end

namespace Stage

/-- The root of a tree that was added stands where the scene ended. -/
theorem Grows.exists_root {parent : Option Nat} {form : NodeForm} {children : List Sketch}
    {stage later : Stage α σ} (grown : Grows parent [.node form children] stage later) :
    ∃ node, later.graph.node? stage.graph.size = some node ∧ node.kind.form = form ∧
      node.children = Sketch.starts (stage.graph.size + 1) children := by
  have planned := grown.outline_eq
  rw [Sketch.grow, Sketch.outlinesAll, Sketch.outlines, List.cons_append,
    SceneGraph.length_outline] at planned
  obtain ⟨node, found, same⟩ := SceneGraph.exists_node_of_outline_eq
    (by rw [length_adopt, SceneGraph.length_outline]) planned
  exact ⟨node, found, congrArg NodeOutline.form same, congrArg NodeOutline.children same⟩

/-- An item that is no component becomes no instance. -/
theorem Grows.dressed {parent : Option Nat} {form : NodeForm} {children : List Sketch}
    {stage later : Stage α σ} (grown : Grows parent [.node form children] stage later)
    (context : RenderContext α σ) {item : LayoutItem α} (listed : form ∈ item.leafForms)
    (plain : form ≠ .component) : Dressed context later.graph item stage.graph.size := by
  obtain ⟨node, found, rfl, -⟩ := grown.exists_root
  exact .other found listed plain

variable [Scalar α]

/-- A component becomes an instance or a placeholder. -/
theorem dressed_renderComponent (context : RenderContext α σ) {parent : Nat} (path : String)
    (spec : ComponentSpec) {stage : Stage α σ} (sound : WellFormed stage.graph.outline)
    (within : parent < stage.graph.size) :
    Dressed context
      (orPlaceholder context parent path (LayoutItem.component (α := α) spec).source
        (stage.renderComponent context parent path spec)).graph
      (.component spec) stage.graph.size := by
  have attempted := attempts_renderComponent context path spec sound within
  cases result : stage.renderComponent context parent path spec with
  | mk outcome later =>
      cases outcome with
      | ok _ =>
          obtain ⟨componentId, blueprint, asked, named, answered, rfl⟩ :=
            blueprint_of_renderComponent result
          have kept : Keeps stage.graph.size stage asked := (edits_of_ask answered).keeps
          have wears := wears_renderBlueprint context path spec componentId blueprint
            (kept.wellFormed sound) (Nat.lt_of_lt_of_eq within kept.graph.size_eq.symm)
          rw [kept.graph.size_eq] at wears
          exact .component named (answer_of_ask answered) wears
      | error error =>
          rw [result] at attempted
          have warned : Keeps stage.graph.size stage (later.warn path error.message) :=
            Keeps.trans attempted (keeps_warn _ _ _)
          have placed := warned.grows_placeholder context.config.render within
            (LayoutItem.component (α := α) spec).source error.message
          exact placed.dressed context (List.mem_cons_of_mem _ List.mem_cons_self) nofun

mutual

/-- Whatever the host answers, the node of an item is dressed as it may be. -/
theorem dressed_renderItem (context : RenderContext α σ) {parent : Nat} :
    ∀ (item : LayoutItem α) (path : String) {stage : Stage α σ},
      WellFormed stage.graph.outline → parent < stage.graph.size →
        Dressed context (renderItem context parent path item stage).graph item stage.graph.size
  | .container spec items, path, stage, sound, within => by
      have held := hasParent_some within
      have framed := grows_addFrame context spec held
      obtain ⟨sketches, below, inside⟩ := dressed_renderItems context items (itemsPath path) 0
        (framed.wellFormed sound held) framed.lt_size
      have whole := framed.inside below
      have settled := whole.wellFormed sound held
      obtain ⟨node, found, -, children⟩ := whole.exists_root
      have next : (stage.addFrame context (some parent) spec).graph.size =
          stage.graph.size + 1 := framed.size_eq
      rw [next, ← children] at inside
      exact (Dressed.container found inside).mono settled
        ((moves_arrangeGraph context.host settled).persists 0) (Nat.zero_le _)
  | .text spec, path, stage, _, within => by
      obtain ⟨made, children, listed, grown⟩ := grows_orPlaceholder context within
        (attempts_renderText context spec within) path (LayoutItem.text spec).source
      refine grown.dressed context listed ?_
      rintro rfl
      simp at listed
  | .shape spec, _, stage, _, within =>
      (grows_renderShape context spec within).dressed context List.mem_cons_self
        (by cases spec.shape <;> nofun)
  | .component spec, path, stage, sound, within =>
      dressed_renderComponent context path spec sound within
  | .malformed place reason, path, stage, _, within => by
      have kept : Keeps stage.graph.size stage
          (stage.warn path (RenderError.structural place reason).message) := keeps_warn stage _ _
      have placed := kept.grows_placeholder context.config.render within
        (LayoutItem.malformed (α := α) place reason).source
        (RenderError.structural place reason).message
      exact placed.dressed context List.mem_cons_self nofun

/-- Rendering a list of items dresses each of them. -/
theorem dressed_renderItems (context : RenderContext α σ) {parent : Nat} :
    ∀ (items : List (LayoutItem α)) (path : String) (index : Nat) {stage : Stage α σ},
      WellFormed stage.graph.outline → parent < stage.graph.size →
        ∃ sketches,
          Grows (some parent) sketches stage (renderItems context parent path index items stage) ∧
          List.Forall₂ (Dressed context (renderItems context parent path index items stage).graph)
            items (Sketch.starts stage.graph.size sketches)
  | [], _, _, stage, _, _ => ⟨[], .refl (some parent) stage, .nil⟩
  | item :: more, path, index, stage, sound, within => by
      have held := hasParent_some within
      obtain ⟨sketch, -, first⟩ :=
        grows_renderItem context item (elementPath path index) sound within
      have here := dressed_renderItem context item (elementPath path index) sound within
      have stillSound := first.wellFormed sound held
      have stillWithin :
          parent < (renderItem context parent (elementPath path index) item stage).graph.size := by
        rw [first.size_eq]
        omega
      obtain ⟨sketches, later, others⟩ :=
        dressed_renderItems context more path (index + 1) stillSound stillWithin
      refine ⟨sketch :: sketches, first.append held later, .cons ?_ ?_⟩
      · exact here.mono stillSound (later.persists within) (Nat.le_refl _)
      · rwa [first.size_eq] at others

end

/-- The frame of a document is dressed as it may be. -/
theorem dressed_renderDocument (context : RenderContext α σ) (document : LayoutDocument α)
    {stage : Stage α σ} (sound : WellFormed stage.graph.outline) :
    Dressed context (stage.renderDocument context document).graph
      (.container document.root document.items) stage.graph.size := by
  have held : HasParent stage.graph.outline none := nofun
  have framed := grows_addFrame context document.root held
  have widened := framed.keeps (keeps_widenRoot context document.root stage.graph.size _)
  obtain ⟨sketches, below, inside⟩ := dressed_renderItems context document.items "items" 0
    (widened.wellFormed sound held) widened.lt_size
  have whole := widened.inside below
  have settled := whole.wellFormed sound held
  obtain ⟨node, found, -, children⟩ := whole.exists_root
  have next : ((stage.addFrame context none document.root).widenRoot context document.root
      stage.graph.size).graph.size = stage.graph.size + 1 := widened.size_eq
  rw [next, ← children] at inside
  have arranged : SceneGraph.Moves stage.graph.size _ _ :=
    moves_arrangeGraph context.host settled
  have fitted := arranged.trans (moves_fitRoot context document.root stage.graph.size
    (arrangeFrame context stage.graph.size _))
  exact (Dressed.container found inside).mono settled (fitted.persists 0) (Nat.zero_le _)

end Stage

namespace Scene

variable [Scalar α]

/-- Every item of a rendered document is dressed. -/
theorem dressed_ofDocument (context : RenderContext α σ) (document : LayoutDocument α)
    (hostState : σ) :
    WellFormed (ofDocument context document hostState).1.graph.outline ∧
      Dressed context (ofDocument context document hostState).1.graph
        (.container document.root document.items) 0 := by
  have empty : WellFormed (Stage.start (α := α) hostState).graph.outline := .nil
  have held : HasParent (Stage.start (α := α) hostState).graph.outline none := nofun
  obtain ⟨_, -, grown⟩ := Stage.grows_renderDocument context document empty
  have same : (ofDocument context document hostState).1.graph =
      ((Stage.start hostState).renderDocument context document).graph := by rw [ofDocument]
  have first : (Stage.start (α := α) hostState).graph.size = 0 := rfl
  rw [same, ← first]
  exact ⟨grown.wellFormed empty held, Stage.dressed_renderDocument context document empty⟩

/-- Only legal values are chosen for variants, so that instances wear these or those of their blueprints. -/
theorem instances_wear_legal_values (schema : ComponentSchema) (bag : PropertyBag)
    (context : RenderContext α σ) (document : LayoutDocument α) (cursor : CanvasCursor α)
    (hostState : σ) :
    (ResolvedProperties.ofBag (α := α) (some schema) bag).LegalFor schema
        (variantCandidates schema bag.sanitize) ∧
      Dressed context
        ((ofDocument context document hostState).1.placeRoot context.config.render cursor).1.graph
        (.container document.root document.items) 0 := by
  refine ⟨ResolvedProperties.legalFor_ofBag schema bag, ?_⟩
  have placed : (ofDocument context document hostState).1.graph.Moves 0
      ((ofDocument context document hostState).1.placeRoot context.config.render cursor).1.graph :=
    SceneGraph.moves_update (Nat.zero_le _) fun _ _ => rfl
  obtain ⟨sound, dressed⟩ := dressed_ofDocument context document hostState
  exact dressed.mono sound (placed.persists 0) (Nat.zero_le _)

end Scene

end DesignScene
