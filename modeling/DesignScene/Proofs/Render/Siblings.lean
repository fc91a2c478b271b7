/-
This file shows when a component comes to the same wherever it stands among the items of a frame.
-/
import DesignScene.Proofs.Render.Instances
import DesignScene.Proofs.Render.Visibility

namespace DesignScene

open Outlines SceneGraph

/-- The host gives this component whenever it is asked for it. -/
def Host.Gives {α σ : Type} (host : Host α σ) (componentId : String) (blueprint : Blueprint α) :
    Prop := ∀ hostState, (host.blueprint componentId hostState).1 = .ok (some blueprint)

/-- A node and all nodes below it. -/
def SceneGraph.subtree {α : Type} (graph : SceneGraph α) (id : Nat) : List (SceneNode α) :=
  (id :: graph.descendants id).filterMap graph.node?

/-- The other node is the same one at the other place; the reason of a placeholder may name the path. -/
inductive SceneNode.Twin {α σ : Type} (site other : Site α σ) : SceneNode α → SceneNode α → Prop where
  | moved {node twin : SceneNode α} (moved : Moved site.start other.start node twin) :
      Twin site other node twin
  | placeholder {node twin : SceneNode α} {reason otherReason source : String}
      (isPlaceholder : node.kind = .placeholder ⟨reason, source⟩)
      (same : SameMessage site.path other.path reason otherReason)
      (moved : Moved site.start other.start
        { node with kind := .placeholder ⟨otherReason, source⟩ } twin) : Twin site other node twin

/-- Twin nodes are visible together. -/
theorem SceneNode.Twin.visible_eq {α σ : Type} {site other : Site α σ} {node twin : SceneNode α}
    (twins : Twin site other node twin) : twin.visible = node.visible := by
  cases twins with
  | moved moved => exact moved.visible_eq
  | placeholder _ _ moved => exact moved.visible_eq

/-- What is looked up for a component are identifiers of two numbers, or names alone. -/
structure ComponentSpec.LooksUpPlainIds {α : Type} (spec : ComponentSpec)
    (resolved : ResolvedProperties α) : Prop where
  bound : ∀ assignment ∈ resolved.textProperties, ∀ binding ∈ assignment.bindings,
    IsPlainId binding.slot.nodeId
  hidden : ∀ assignment ∈ resolved.textProperties, ∀ slot ∈ assignment.hiddenSlots,
    IsPlainId slot.nodeId
  media : ∀ media ∈ resolved.mediaProperties, IsPlainId media.slot.nodeId
  overrides : ∀ override ∈ spec.visibilityOverrides, IsPlainId override.1
  icons : ∀ swap ∈ spec.iconSwaps, ';' ∉ swap.1.toList

/-- What stands before an item in its frame and what stands after it. -/
structure Siblings (α : Type) where
  before : List (LayoutItem α)
  after : List (LayoutItem α)

def Siblings.around {α : Type} (siblings : Siblings α) (item : LayoutItem α) :
    List (LayoutItem α) := siblings.before ++ item :: siblings.after

/-- Two total readings with one list of results agree at every offset. -/
theorem eq_of_filterMap_range'_eq {β : Type} {read twinRead : Nat → Option β} {count : Nat}
    {start other : Nat} (all : ∀ offset < count, (read (start + offset)).isSome)
    (twinAll : ∀ offset < count, (twinRead (other + offset)).isSome)
    (same : (List.range' start count).filterMap read = (List.range' other count).filterMap twinRead)
    {offset : Nat} (inside : offset < count) : read (start + offset) = twinRead (other + offset) := by
  induction count generalizing start other offset with
  | zero => omega
  | succ count ih =>
      obtain ⟨first, found⟩ := Option.isSome_iff_exists.mp (all 0 (by omega))
      obtain ⟨twinFirst, twinFound⟩ := Option.isSome_iff_exists.mp (twinAll 0 (by omega))
      rw [Nat.add_zero] at found twinFound
      rw [List.range'_succ, List.range'_succ, List.filterMap_cons_some found,
        List.filterMap_cons_some twinFound, List.cons.injEq] at same
      have shifted (base : Nat) (offset : Nat) : base + 1 + offset = base + (offset + 1) := by omega
      cases offset with
      | zero => exact found.trans (same.1 ▸ twinFound.symm)
      | succ offset =>
          have rest : ∀ offset < count, (read (start + 1 + offset)).isSome := by
            intro offset inside
            rw [shifted]
            exact all (offset + 1) (Nat.succ_lt_succ inside)
          have twinRest : ∀ offset < count, (twinRead (other + 1 + offset)).isSome := by
            intro offset inside
            rw [shifted]
            exact twinAll (offset + 1) (Nat.succ_lt_succ inside)
          have later := ih rest twinRest same.2 (Nat.lt_of_succ_lt_succ inside)
          rwa [shifted, shifted] at later

/-- Every place within the counted range holds a node. -/
theorem isSome_node?_of_size_eq {α : Type} {graph : SceneGraph α} {start count offset : Nat}
    (size_eq : graph.size = start + count) (inside : offset < count) :
    (graph.node? (start + offset)).isSome := by
  have within : start + offset < graph.nodes.size := by
    rw [SceneGraph.size] at size_eq
    omega
  rw [node?, Array.getElem?_eq_getElem within]
  rfl

namespace Stage

variable {α σ : Type} [Scalar α]

/-- An override shows or hides the node to which it leads, and leaves the others as they are. -/
theorem visible_renderBlueprint_override (context : RenderContext α σ) {parent : Nat} (path : String)
    (spec : ComponentSpec) (componentId : String) (blueprint : Blueprint α) {stage : Stage α σ}
    (sound : WellFormed stage.graph.outline) (within : parent < stage.graph.size) (key : String)
    (visible : Bool) (place : Nat) :
    ((stage.renderBlueprint context parent path
          { spec with visibilityOverrides := [(key, visible)] } componentId blueprint).graph.node?
        (stage.graph.size + 1 + place)).map (·.visible) =
      (((stage.renderBlueprint context parent path
          { spec with visibilityOverrides := [] } componentId blueprint).graph.node?
        (stage.graph.size + 1 + place)).map (·.visible)).map fun shown =>
          if blueprint.leads stage.graph.size key key = some place then visible else shown := by
  have labels := labelsBelow_renderBlueprint context path (spec.shownBy []) componentId blueprint
    sound within
  have leads := locate_eq_leads labels key key
  have changed := renderBlueprint_overrides context parent path spec componentId blueprint stage []
    [(key, visible)]
  have plain := renderBlueprint_overrides context parent path spec componentId blueprint stage [] []
  rw [List.nil_append] at changed plain
  rw [changed, plain, finishInstance_cons, visible_finishInstance, visible_finishInstance]
  generalize stage.renderBlueprint context parent path (spec.shownBy []) componentId blueprint =
    shown at leads
  split
  · next atPlace =>
      rw [atPlace, Option.map_some] at leads
      simp only [applyVisibility, leads]
      rw [setVisible, updateNode, node?_update, Option.map_map, Option.map_map]
      simp only [Function.comp_def, if_pos]
  · next elsewhere =>
      have notFound : shown.graph.locate stage.graph.size key key ≠
          some (stage.graph.size + 1 + place) := by
        intro found
        rw [leads, Option.map_eq_some_iff] at found
        obtain ⟨other, atOther, same⟩ := found
        exact elsewhere (Nat.add_left_cancel same ▸ atOther)
      rw [visible_applyVisibility_of_ne path notFound, Option.map_id']

section Items

variable {context : RenderContext α σ} {site other : Site α σ} {frame : Nat} {spec : ComponentSpec}

/-- Both failures leave a placeholder. -/
theorem alike_orPlaceholder_error {stage twin : Stage α σ} (inFront : frame < site.start)
    (twinInFront : frame < other.start) {error twinError : RenderError}
    (same : SameMessage site.path other.path error.message twinError.message) (source : String)
    (twins : Twins site other 0 stage twin) :
    Alike (SceneNode.Twin site other) site other 1
      (orPlaceholder context frame site.path source (.error error, stage))
      (orPlaceholder context frame other.path source (.error twinError, twin)) := by
  have warned : Alike (SceneNode.Twin site other) site other 0 _ _ :=
    (twins.warn same).mono fun _ _ moved => .moved moved
  have held : frame < stage.graph.size := by rwa [twins.size_eq]
  have twinHeld : frame < twin.graph.size := by rwa [twins.twin_size_eq]
  have elsewhere (start offset : Nat) (before : frame < start) :
      some frame ≠ some (start + offset) := by
    intro here
    cases here
    omega
  have fresh : SceneNode.Twin site other
      (newNode site.start (some frame) none ("Missing: " ++ source)
        (.placeholder ⟨error.message, source⟩) context.config.render.placeholderWidth
        context.config.render.placeholderHeight)
      (newNode other.start (some frame) none ("Missing: " ++ source)
        (.placeholder ⟨twinError.message, source⟩) context.config.render.placeholderWidth
        context.config.render.placeholderHeight) :=
    .placeholder rfl same (SceneNode.moved_root _ _ inFront _ _ _ _)
  have made := warned.addNode (hasParent_some held) (hasParent_some twinHeld) fresh
    fun offset node twinNode twins => by
      rwa [if_neg (elsewhere _ offset inFront), if_neg (elsewhere _ offset twinInFront)]
  exact ⟨made.size_eq, made.twin_size_eq, made.nodes, made.fonts,
    { made.report with placeholders := made.report.placeholders.append (.cons rfl .nil) }⟩

/-- A component comes to the same at two places if its lookups lead to the same nodes of its blueprint. -/
theorem alike_renderItem (stateless : context.host.Stateless)
    (sound : WellFormed site.stage.graph.outline) (twinSound : WellFormed other.stage.graph.outline)
    (inFront : frame < site.start) (twinInFront : frame < other.start)
    (sameFrame : SameFrame frame site.stage other.stage) (fonts : site.stage.FontsWithin)
    (twinFonts : other.stage.FontsWithin) {origin : Stage α σ}
    (content : ∀ componentId blueprint, spec.componentId = some componentId →
      context.host.Gives componentId blueprint →
        ContentLeadsAlike blueprint site.start other.start
          (origin.resolvedFor context spec componentId blueprint) spec.iconSwaps)
    (overrides : ∀ componentId blueprint, spec.componentId = some componentId →
      context.host.Gives componentId blueprint → ∀ override ∈ spec.visibilityOverrides,
        blueprint.LeadsAlike site.start other.start override.1 override.1) :
    ∃ count, Alike (SceneNode.Twin site other) site other count
      (renderItem context frame site.path (.component spec) site.stage)
      (renderItem context frame other.path (.component spec) other.stage) := by
  have before : Twins site other 0 site.stage other.stage := .refl fonts twinFonts
  rw [renderItem, renderItem]
  cases named : spec.componentId with
  | none =>
      simp only [renderComponent, named]
      exact ⟨1, alike_orPlaceholder_error inFront twinInFront (.structural _) _ before⟩
  | some componentId =>
      have asked := before.ask (context.host.blueprint componentId site.stage.hostState).2
        (context.host.blueprint componentId other.stage.hostState).2
      have answers (stage : Stage α σ) : stage.ask (context.host.blueprint componentId) =
          ((context.host.blueprint componentId site.stage.hostState).1,
            { stage with
              hostState := (context.host.blueprint componentId stage.hostState).2 }) := by
        rw [stateless.blueprint componentId site.stage.hostState stage.hostState]
        rfl
      simp only [renderComponent, named, answers]
      cases given : (context.host.blueprint componentId site.stage.hostState).1 with
      | error error => exact ⟨1, alike_orPlaceholder_error inFront twinInFront (.same _) _ asked⟩
      | ok found =>
          cases found with
          | none => exact ⟨1, alike_orPlaceholder_error inFront twinInFront (.same _) _ asked⟩
          | some blueprint =>
              have gives : context.host.Gives componentId blueprint := fun hostState =>
                (stateless.blueprint componentId hostState _).trans given
              have lookups := content componentId blueprint named gives
              have instances := instances_renderBlueprint asked stateless sound twinSound inFront
                twinInFront sameFrame componentId lookups
                (overrides componentId blueprint named gives)
              exact ⟨_, instances.twins.mono fun _ _ moved => .moved moved⟩

end Items

section Between

variable (context : RenderContext α σ) (frame : Nat) (path : String)

/-- Two lists in a row are rendered one after the other. -/
theorem renderItems_append (items more : List (LayoutItem α)) (index : Nat) (stage : Stage α σ) :
    renderItems context frame path index (items ++ more) stage =
      renderItems context frame path (index + items.length) more
        (renderItems context frame path index items stage) := by
  induction items generalizing index stage with
  | nil => rfl
  | cons item rest ih =>
      have further : index + 1 + rest.length = index + (rest.length + 1) := by omega
      rw [List.cons_append, renderItems, renderItems, ih, List.length_cons, further]

/-- The place of an item between its siblings, which are rendered from this stage on. -/
def siteOf (stage : Stage α σ) (siblings : Siblings α) : Site α σ where
  stage := renderItems context frame path 0 siblings.before stage
  path := elementPath path siblings.before.length

/-- The stage right after an item. -/
def renderAt (item : LayoutItem α) (site : Site α σ) : Stage α σ :=
  renderItem context frame site.path item site.stage

/-- An item is rendered after the siblings before it and before those after it. -/
theorem renderItems_around (item : LayoutItem α) (siblings : Siblings α) (stage : Stage α σ) :
    renderItems context frame path 0 (siblings.around item) stage =
      renderItems context frame path (siblings.before.length + 1) siblings.after
        (renderAt context frame item (siteOf context frame path stage siblings)) := by
  rw [Siblings.around, renderItems_append, renderItems, Nat.zero_add]
  rfl

/-- Between both groups of siblings the item becomes the same tree, and the same is reported for it. -/
structure ComesAlike (stage : Stage α σ) (item : LayoutItem α) (siblings others : Siblings α) :
    Prop where
  tree : List.Forall₂
    (SceneNode.Twin (siteOf context frame path stage siblings) (siteOf context frame path stage others))
    ((renderItems context frame path 0 (siblings.around item) stage).graph.subtree
      (siteOf context frame path stage siblings).start)
    ((renderItems context frame path 0 (others.around item) stage).graph.subtree
      (siteOf context frame path stage others).start)
  report : ReportsAlike (siteOf context frame path stage siblings)
    (siteOf context frame path stage others)
    (renderAt context frame item (siteOf context frame path stage siblings)).report
    (renderAt context frame item (siteOf context frame path stage others)).report

variable {frame} {stage : Stage α σ} (sound : WellFormed stage.graph.outline)
  (within : frame < stage.graph.size)

include sound within

/-- The siblings before an item only grow the graph. -/
theorem grows_siteOf (siblings : Siblings α) :
    ∃ sketches, Grows (some frame) sketches stage (siteOf context frame path stage siblings).stage := by
  obtain ⟨sketches, -, grown⟩ := grows_renderItems context siblings.before path 0 sound within
  exact ⟨sketches, grown⟩

/-- The graph an item starts from is well-formed. -/
theorem wellFormed_siteOf (siblings : Siblings α) :
    WellFormed (siteOf context frame path stage siblings).stage.graph.outline := by
  obtain ⟨_, grown⟩ := grows_siteOf context path sound within siblings
  exact grown.wellFormed sound (hasParent_some within)

/-- The frame stands before the place an item starts at. -/
theorem lt_start_siteOf (siblings : Siblings α) :
    frame < (siteOf context frame path stage siblings).start := by
  obtain ⟨_, grown⟩ := grows_siteOf context path sound within siblings
  rw [Site.start, grown.size_eq]
  omega

/-- Later siblings change nothing about the tree of an item. -/
theorem subtree_renderItems (item : LayoutItem α) (siblings : Siblings α) {count : Nat}
    (size_eq : (renderAt context frame item (siteOf context frame path stage siblings)).graph.size =
      (siteOf context frame path stage siblings).start + count) :
    (renderItems context frame path 0 (siblings.around item) stage).graph.subtree
        (siteOf context frame path stage siblings).start =
      (List.range' (siteOf context frame path stage siblings).start count).filterMap
        (renderAt context frame item (siteOf context frame path stage siblings)).graph.node? := by
  have siteSound := wellFormed_siteOf context path sound within siblings
  have inFront := lt_start_siteOf context path sound within siblings
  rw [renderItems_around]
  generalize siteOf context frame path stage siblings = site at size_eq siteSound inFront ⊢
  obtain ⟨⟨form, children⟩, -, made⟩ : ∃ sketch, Sketched item sketch ∧
      Grows (some frame) [sketch] site.stage (renderAt context frame item site) :=
    grows_renderItem context item site.path siteSound inFront
  have held := hasParent_some inFront
  have stillInFront : frame < (renderAt context frame item site).graph.size := by
    rw [size_eq]
    omega
  obtain ⟨sketches, -, later⟩ := grows_renderItems context siblings.after path
    (siblings.before.length + 1) (made.wellFormed siteSound held) stillInFront
  have whole : Grows (some frame) (.node form children :: sketches) site.stage _ :=
    made.append held later
  have counted : count = Sketch.sizeAll children + 1 := by
    have grown := made.size_eq
    simp only [Sketch.sizeAll, Sketch.size, Nat.add_zero] at grown
    rw [grown] at size_eq
    exact (Nat.add_left_cancel size_eq).symm
  have below := whole.descendants_eq
  rw [subtree, Site.start, below, counted, ← List.range'_succ]
  apply List.filterMap_congr
  intro id member
  obtain ⟨behind, inside⟩ := List.mem_range'_1.mp member
  have different : some frame ≠ some id := by
    intro same
    cases same
    exact Nat.not_lt.mpr behind inFront
  have before : id < (renderAt context frame item site).graph.size := by
    rw [size_eq, counted]
    exact inside
  rw [later.node?_eq id before]
  simp only [different, if_false, Option.map_id']

omit sound within in
/-- Two ranges of one length pair up by offset. -/
theorem forall₂_range' (start other count : Nat) :
    List.Forall₂ (Beside start other) (List.range' start count) (List.range' other count) := by
  have behind (offset : Nat) : List.Forall₂ (Beside start other)
      (List.range' (start + offset) count) (List.range' (other + offset) count) := by
    induction count generalizing offset with
    | zero => exact .nil
    | succ count ih =>
        rw [List.range'_succ, List.range'_succ]
        exact .cons ⟨offset, rfl, rfl⟩ (ih (offset + 1))
  exact behind 0

variable {context}

/-- What the siblings are does not matter if the lookups lead to the same nodes of the blueprint. -/
theorem comesAlike_of_leadsAlike (stateless : context.host.Stateless) (fonts : stage.FontsWithin)
    (spec : ComponentSpec) (siblings others : Siblings α)
    (content : ∀ componentId blueprint, spec.componentId = some componentId →
      context.host.Gives componentId blueprint →
        ContentLeadsAlike blueprint (siteOf context frame path stage siblings).start
          (siteOf context frame path stage others).start
          (stage.resolvedFor context spec componentId blueprint) spec.iconSwaps)
    (overrides : ∀ componentId blueprint, spec.componentId = some componentId →
      context.host.Gives componentId blueprint → ∀ override ∈ spec.visibilityOverrides,
        blueprint.LeadsAlike (siteOf context frame path stage siblings).start
          (siteOf context frame path stage others).start override.1 override.1) :
    ComesAlike context frame path stage (.component spec) siblings others := by
  have siteFonts (siblings : Siblings α) :
      (siteOf context frame path stage siblings).stage.FontsWithin :=
    fontsWithin_renderItems context siblings.before path 0 sound within fonts
  obtain ⟨_, grown⟩ := grows_siteOf context path sound within siblings
  obtain ⟨_, otherGrown⟩ := grows_siteOf context path sound within others
  obtain ⟨count, alike⟩ := alike_renderItem stateless (wellFormed_siteOf context path sound within siblings)
    (wellFormed_siteOf context path sound within others) (lt_start_siteOf context path sound within siblings)
    (lt_start_siteOf context path sound within others)
    ((grown.sameFrame within).symm.trans (otherGrown.sameFrame within)) (siteFonts siblings)
    (siteFonts others) content overrides
  refine ⟨?_, alike.report⟩
  rw [subtree_renderItems context path sound within _ siblings alike.size_eq,
    subtree_renderItems context path sound within _ others alike.twin_size_eq]
  refine List.rel_filterMap (fun id place beside => ?_) (forall₂_range' _ _ count)
  obtain ⟨offset, rfl, rfl⟩ := beside
  exact alike.nodes offset

omit sound within in
/-- Corresponding nodes are both shown or both hidden. -/
theorem ComesAlike.map_visible_eq {item : LayoutItem α} {siblings others : Siblings α}
    (alike : ComesAlike context frame path stage item siblings others) :
    ((renderItems context frame path 0 (siblings.around item) stage).graph.subtree
        (siteOf context frame path stage siblings).start).map (·.visible) =
      ((renderItems context frame path 0 (others.around item) stage).graph.subtree
        (siteOf context frame path stage others).start).map (·.visible) := by
  rw [← List.forall₂_eq_eq_eq, List.forall₂_map_left_iff, List.forall₂_map_right_iff]
  exact alike.tree.imp fun _ _ twins => twins.visible_eq.symm

/-- An item that comes alike has the same visible nodes. -/
theorem ComesAlike.visible_eq {item : LayoutItem α} {siblings others : Siblings α} {count : Nat}
    (alike : ComesAlike context frame path stage item siblings others)
    (size_eq : (renderAt context frame item (siteOf context frame path stage siblings)).graph.size =
      (siteOf context frame path stage siblings).start + count)
    (twin_size_eq : (renderAt context frame item (siteOf context frame path stage others)).graph.size =
      (siteOf context frame path stage others).start + count) {offset : Nat} (inside : offset < count) :
    ((renderAt context frame item (siteOf context frame path stage others)).graph.node?
          ((siteOf context frame path stage others).start + offset)).map (·.visible) =
      ((renderAt context frame item (siteOf context frame path stage siblings)).graph.node?
          ((siteOf context frame path stage siblings).start + offset)).map (·.visible) := by
  have flags := alike.map_visible_eq
  rw [subtree_renderItems context path sound within item siblings size_eq,
    subtree_renderItems context path sound within item others twin_size_eq, List.map_filterMap,
    List.map_filterMap] at flags
  refine (eq_of_filterMap_range'_eq (fun offset inside => ?_) (fun offset inside => ?_) flags
    inside).symm
  · rw [Option.isSome_map]
    exact isSome_node?_of_size_eq size_eq inside
  · rw [Option.isSome_map]
    exact isSome_node?_of_size_eq twin_size_eq inside

section Overriding

variable (spec : ComponentSpec) {componentId : String} {blueprint : Blueprint α}
  (named : spec.componentId = some componentId) (gives : context.host.Gives componentId blueprint)

include named gives

omit sound within in
/-- A component that the host gives becomes an instance of its blueprint. -/
theorem renderAt_component (site : Site α σ) :
    renderAt context frame (.component spec) site =
      (site.stage.ask (context.host.blueprint componentId)).2.renderBlueprint context frame
        site.path spec componentId blueprint := by
  have answer : (site.stage.ask (context.host.blueprint componentId)).1 = .ok (some blueprint) :=
    gives site.stage.hostState
  rw [renderAt, renderItem, renderComponent, named]
  dsimp only
  generalize site.stage.ask (context.host.blueprint componentId) = asked at answer ⊢
  obtain ⟨_, after⟩ := asked
  subst answer
  rfl

/-- An instance adds one node and those of its blueprint. -/
theorem size_renderAt (siblings : Siblings α) :
    (renderAt context frame (.component spec) (siteOf context frame path stage siblings)).graph.size =
      (siteOf context frame path stage siblings).start + (blueprint.walk.length + 1) := by
  rw [renderAt_component spec named gives]
  exact size_renderBlueprint context _ spec componentId blueprint
    (wellFormed_siteOf context path sound within siblings)
    (lt_start_siteOf context path sound within siblings)

/-- One override decides visibility at the nodes its key locates. -/
theorem visible_renderAt_override (siblings : Siblings α) (key : String) (visible : Bool)
    (place : Nat) :
    ((renderAt context frame (.component { spec with visibilityOverrides := [(key, visible)] })
          (siteOf context frame path stage siblings)).graph.node?
        ((siteOf context frame path stage siblings).start + (1 + place))).map (·.visible) =
      (((renderAt context frame (.component { spec with visibilityOverrides := [] })
          (siteOf context frame path stage siblings)).graph.node?
        ((siteOf context frame path stage siblings).start + (1 + place))).map (·.visible)).map
          fun shown =>
            if blueprint.leads (siteOf context frame path stage siblings).start key key = some place
            then visible else shown := by
  have siteSound := wellFormed_siteOf context path sound within siblings
  have inFront := lt_start_siteOf context path sound within siblings
  generalize siteOf context frame path stage siblings = site at siteSound inFront ⊢
  have asked : (site.stage.ask (context.host.blueprint componentId)).2.graph = site.stage.graph := rfl
  rw [renderAt_component { spec with visibilityOverrides := [(key, visible)] } named gives,
    renderAt_component { spec with visibilityOverrides := [] } named gives, ← Nat.add_assoc]
  rw [Site.start, ← asked] at inFront ⊢
  rw [← asked] at siteSound
  exact visible_renderBlueprint_override context site.path spec componentId blueprint siteSound
    inFront key visible place

/-- What a key of an override leads to can be seen at what is shown and what is hidden. -/
theorem leadsAlike_of_comesAlike {siblings others : Siblings α} {key : String}
    (alike : ∀ overrides : List (String × Bool), (∀ override ∈ overrides, override.1 = key) →
      ComesAlike context frame path stage
        (.component { spec with visibilityOverrides := overrides }) siblings others) :
    blueprint.LeadsAlike (siteOf context frame path stage siblings).start
      (siteOf context frame path stage others).start key key := by
  have same (overrides : List (String × Bool)) (sameKey : ∀ override ∈ overrides, override.1 = key)
      {place : Nat} (inside : place < blueprint.walk.length) :=
    (alike overrides sameKey).visible_eq path sound within
      (size_renderAt path sound within { spec with visibilityOverrides := overrides } named gives
        siblings)
      (size_renderAt path sound within { spec with visibilityOverrides := overrides } named gives
        others) (show 1 + place < blueprint.walk.length + 1 by omega)
  refine Option.ext fun place => ?_
  by_cases inside : place < blueprint.walk.length
  · have held := isSome_node?_of_size_eq
      (size_renderAt path sound within { spec with visibilityOverrides := [] } named gives siblings)
      (show 1 + place < blueprint.walk.length + 1 by omega)
    obtain ⟨node, found⟩ := Option.isSome_iff_exists.mp held
    have flipped := same [(key, !node.visible)]
      (fun override member => congrArg Prod.fst (List.mem_singleton.mp member)) inside
    rw [visible_renderAt_override path sound within spec named gives,
      visible_renderAt_override path sound within spec named gives, same [] nofun inside, found,
      Option.map_some, Option.map_some, Option.map_some, Option.some.injEq] at flipped
    by_cases here : blueprint.leads (siteOf context frame path stage siblings).start key key =
        some place
    · simpa [here] using flipped
    · simpa [here] using flipped
  · exact iff_of_false (fun found => inside (Blueprint.leads_lt found))
      fun found => inside (Blueprint.leads_lt found)

end Overriding

/-- Overrides come to the same beside all siblings exactly if their keys lead to the same blueprint nodes. -/
theorem comesAlike_iff_leadsAlike (stateless : context.host.Stateless) (fonts : stage.FontsWithin)
    (spec : ComponentSpec) (siblings others : Siblings α) (keys : List String)
    (content : ∀ componentId blueprint, spec.componentId = some componentId →
      context.host.Gives componentId blueprint →
        ContentLeadsAlike blueprint (siteOf context frame path stage siblings).start
          (siteOf context frame path stage others).start
          (stage.resolvedFor context spec componentId blueprint) spec.iconSwaps) :
    (∀ overrides : List (String × Bool), (∀ override ∈ overrides, override.1 ∈ keys) →
      ComesAlike context frame path stage
        (.component { spec with visibilityOverrides := overrides }) siblings others) ↔
      ∀ componentId blueprint, spec.componentId = some componentId →
        context.host.Gives componentId blueprint → ∀ key ∈ keys,
          blueprint.LeadsAlike (siteOf context frame path stage siblings).start
            (siteOf context frame path stage others).start key key := by
  constructor
  · intro alike componentId blueprint named gives key member
    apply leadsAlike_of_comesAlike path sound within spec named gives
    intro overrides sameKey
    exact alike overrides fun override inside => (sameKey override inside).symm ▸ member
  · intro leads overrides keyed
    apply comesAlike_of_leadsAlike path sound within stateless fonts
      { spec with visibilityOverrides := overrides } siblings others content
    intro componentId blueprint named gives override member
    exact leads componentId blueprint named gives override.1 (keyed override member)

/-- Beside any siblings a component comes to the same if only plain identifiers and names are looked up. -/
theorem comesAlike_of_plain (stateless : context.host.Stateless) (fonts : stage.FontsWithin)
    (spec : ComponentSpec) (siblings others : Siblings α)
    (plain : ∀ componentId blueprint, spec.componentId = some componentId →
      context.host.Gives componentId blueprint →
        spec.LooksUpPlainIds (stage.resolvedFor context spec componentId blueprint)) :
    ComesAlike context frame path stage (.component spec) siblings others := by
  have alike (blueprint : Blueprint α) {nodeId : String} (isPlain : IsPlainId nodeId)
      (name : String) := blueprint.leadsAlike_of_isPlainId isPlain name
        (siteOf context frame path stage siblings).start
        (siteOf context frame path stage others).start
  apply comesAlike_of_leadsAlike path sound within stateless fonts
  · intro componentId blueprint named gives
    have ids := plain componentId blueprint named gives
    exact {
      bound assignment member binding inside :=
        alike blueprint (ids.bound assignment member binding inside) _
      hidden assignment member slot inside :=
        alike blueprint (ids.hidden assignment member slot inside) _
      media media member := alike blueprint (ids.media media member) _
      icons swap member := blueprint.iconLeadsAlike_of_not_mem _ _ (ids.icons swap member) }
  · intro componentId blueprint named gives override member
    exact alike blueprint ((plain componentId blueprint named gives).overrides override member) _

end Between

section Pages

/-- A host that gives this blueprint for its component. -/
def contextOf (blueprint : Blueprint Rat) : RenderContext Rat Unit :=
  { plainContext with
    host :=
      { Host.empty with
        blueprint := fun componentId state =>
          (.ok (if componentId = blueprint.componentId then some blueprint else none), state) } }

/-- The sample host keeps no state. -/
theorem stateless_contextOf (blueprint : Blueprint Rat) : (contextOf blueprint).host.Stateless where
  blueprint _ _ _ := rfl
  loadFont _ _ _ := rfl
  paintStyle _ _ _ := rfl
  textStyle _ _ _ := rfl
  icon _ _ _ := rfl

/-- The sample host gives its one blueprint only. -/
theorem eq_of_gives_contextOf {blueprint given : Blueprint Rat} {componentId : String}
    (gives : (contextOf blueprint).host.Gives componentId given) : given = blueprint := by
  have answer := gives ()
  simp only [contextOf, Except.ok.injEq, Option.ite_none_right_eq_some, Option.some.injEq] at answer
  exact answer.2.symm

/-- The sample stage has no text with a missing font. -/
theorem fontsWithin_framed : framed.FontsWithin :=
  (fontsWithin_start ()).addNode none none "Generated Layout" (.frame FrameProps.plain) 400 300

/-- Another component of the same kind comes next. -/
def beforeAnother (spec : ComponentSpec) : Siblings Rat := ⟨[], [.component spec]⟩

/-- Another component of the same kind came before. -/
def afterAnother (spec : ComponentSpec) : Siblings Rat := ⟨[.component spec], []⟩

def captioned : Blueprint Rat := badgeOf [textNode "1:1" "Label"]

def captionSpec : ComponentSpec :=
  ⟨"badge", some "80:1", none, [("Label", .string "New")], [], []⟩

/-- The second of two badges with one text comes to the same, hidden by its identifier or not. -/
theorem captions_come_alike :
    (contextOf captioned).host.Stateless ∧ WellFormed framed.graph.outline ∧
      0 < framed.graph.size ∧ framed.FontsWithin ∧
        ComesAlike (contextOf captioned) 0 "items" framed
          (.component { captionSpec with visibilityOverrides := [("1:1", false)] })
          (beforeAnother captionSpec) (afterAnother captionSpec) := by
  have stateless := stateless_contextOf captioned
  have within : 0 < framed.graph.size := by decide
  refine ⟨stateless, wellFormed_framed, within, fontsWithin_framed, ?_⟩
  have alike := (comesAlike_iff_leadsAlike "items" wellFormed_framed within stateless
    fontsWithin_framed captionSpec (beforeAnother captionSpec) (afterAnother captionSpec) ["1:1"]
    ?content).mpr ?leads
  · exact alike [("1:1", false)] (by decide)
  case content =>
    intro componentId blueprint named gives
    obtain rfl := eq_of_gives_contextOf gives
    obtain rfl := Option.some.inj named
    have plain : ∀ assignment ∈ (framed.resolvedFor (contextOf captioned) captionSpec "80:1"
        captioned).textProperties, ∀ binding ∈ assignment.bindings,
          isWellFormedId binding.slot.nodeId = true := by
      decide +kernel
    refine ⟨fun assignment member binding inside => ?_, ?_, nofun, nofun⟩
    · exact captioned.leadsAlike_of_isPlainId (.inl (plain assignment member binding inside)) _ _ _
    · have noneHidden : ∀ assignment ∈ (framed.resolvedFor (contextOf captioned) captionSpec "80:1"
          captioned).textProperties, assignment.hiddenSlots = [] := by
        decide +kernel
      intro assignment member slot inside
      rw [noneHidden assignment member] at inside
      cases inside
  case leads =>
    intro componentId blueprint _ _ key member
    obtain rfl := List.mem_singleton.mp member
    exact blueprint.leadsAlike_of_isPlainId (.inl (by decide)) _ _ _

/-- Two pages that are named by their numbers. -/
def pager : Blueprint Rat :=
  badgeOf [.node "5:6" "3" true 0 0 .vector [], .node "5:7" "4" true 0 0 .vector []]

/-- The page with this name is hidden. -/
def pagerWithout (page : String) : ComponentSpec :=
  ⟨"pager", some "80:1", none, [], [], [(page, false)]⟩

/-- The name of a page hides another page in the second pager, whose host identifiers contain that number. -/
theorem page_name_hides_other_page :
    ¬∀ (context : RenderContext Rat Unit) (frame : Nat) (path : String) (stage : Stage Rat Unit)
        (spec : ComponentSpec) (siblings others : Siblings Rat),
      context.host.Stateless → WellFormed stage.graph.outline → frame < stage.graph.size →
        stage.FontsWithin →
          ComesAlike context frame path stage (.component spec) siblings others := by
  intro every
  have alike := every (contextOf pager) 0 "items" framed (pagerWithout "4")
    (beforeAnother (pagerWithout "4")) (afterAnother (pagerWithout "4")) (stateless_contextOf pager)
    wellFormed_framed (by decide) fontsWithin_framed
  have flags := alike.map_visible_eq
  revert flags
  decide +kernel

end Pages

end Stage

end DesignScene
