/-
This file compares what is rendered at one place of a scene with what is rendered at another one.
-/
import DesignScene.Proofs.Render.Fonts

namespace DesignScene

open Outlines SceneGraph

/-- The numbers from `start` on become those from `other` on. -/
def renumber (start other id : Nat) : Nat := if id < start then id else id - start + other

/-- Identifiers before the start keep their number. -/
theorem renumber_of_lt {start id : Nat} (other : Nat) (before : id < start) :
    renumber start other id = id := if_pos before

/-- An identifier keeps its offset from the start. -/
@[simp] theorem renumber_add (start other offset : Nat) :
    renumber start other (start + offset) = other + offset := by
  rw [renumber, if_neg (by omega)]
  omega

/-- Apart from the generated part the host identifiers are the same. -/
inductive SameHostId (start other : Nat) : String → String → Prop where
  | own : SameHostId start other (generatedHostId start) (generatedHostId other)
  | nested (nodeId : String) :
      SameHostId start other (Stage.nestedHostId (generatedHostId start) nodeId)
        (Stage.nestedHostId (generatedHostId other) nodeId)

namespace SceneNode

variable {α : Type} {start other : Nat} {node twin : SceneNode α}

/-- The twin is the same node in a tree that begins elsewhere. -/
structure Moved (start other : Nat) (node twin : SceneNode α) : Prop where
  behind : start ≤ node.id
  hostId : SameHostId start other node.hostId twin.hostId
  eq_placedAt : twin = node.placedAt (renumber start other node.id) twin.hostId
    (node.parent.map (renumber start other)) (node.children.map (renumber start other))

namespace Moved

/-- Moved nodes have one name. -/
theorem name_eq (moved : Moved start other node twin) : twin.name = node.name := by
  rw [moved.eq_placedAt]
  rfl

/-- Moved nodes are of one kind. -/
theorem kind_eq (moved : Moved start other node twin) : twin.kind = node.kind := by
  rw [moved.eq_placedAt]
  rfl

/-- Moved nodes are visible together. -/
theorem visible_eq (moved : Moved start other node twin) : twin.visible = node.visible := by
  rw [moved.eq_placedAt]
  rfl

/-- Moved nodes have the same text properties. -/
theorem text?_eq (moved : Moved start other node twin) : twin.text? = node.text? := by
  rw [text?, text?, moved.kind_eq]

/-- Settings that do not look at the place of a node keep twins alike. -/
theorem set {change : SceneNode α → SceneNode α} (moved : Moved start other node twin)
    (setting : IsSetting change) : Moved start other (change node) (change twin) where
  behind := by
    rw [setting.id_eq]
    exact moved.behind
  hostId := by
    rw [setting.hostId_eq, setting.hostId_eq]
    exact moved.hostId
  eq_placedAt := by
    have changed := congrArg change moved.eq_placedAt
    rw [setting.placedAt_eq] at changed
    rw [setting.id_eq, setting.hostId_eq, setting.parent_eq, setting.children_eq]
    exact changed

/-- Children at one offset keep moved nodes moved. -/
theorem addChild (moved : Moved start other node twin) (offset : Nat) :
    Moved start other (node.addChildren [start + offset]) (twin.addChildren [other + offset]) where
  behind := moved.behind
  hostId := moved.hostId
  eq_placedAt := by
    have changed := congrArg (addChildren [other + offset]) moved.eq_placedAt
    refine changed.trans ?_
    simp [addChildren, placedAt]

end Moved

section Making

variable [Scalar α] {frame : Nat}

/-- The root of a tree stands below a frame that does not move. -/
theorem moved_root (start other : Nat) (inFront : frame < start) (name : String) (kind : NodeKind α)
    (width height : α) :
    Moved start other (newNode start (some frame) none name kind width height)
      (newNode other (some frame) none name kind width height) where
  behind := Nat.le_refl start
  hostId := .own
  eq_placedAt := by
    have stays := renumber_of_lt other inFront
    have moves := renumber_add start other 0
    simp only [Nat.add_zero] at moves
    simp [newNode, placedAt, stays, moves]

/-- Nested nodes made at one offset of two instances are moved nodes. -/
theorem moved_nested (start other offset above : Nat) (nodeId name : String) (kind : NodeKind α)
    (width height : α) :
    Moved start other
      (newNode (start + offset) (some (start + above))
        (some (Stage.nestedHostId (generatedHostId start) nodeId)) name kind width height)
      (newNode (other + offset) (some (other + above))
        (some (Stage.nestedHostId (generatedHostId other) nodeId)) name kind width height) where
  behind := Nat.le_add_right start offset
  hostId := .nested nodeId
  eq_placedAt := by simp [newNode, placedAt]

end Making

end SceneNode

/-- Where an item is rendered: the stage right before it, and its path. -/
structure Site (α σ : Type) where
  stage : Stage α σ
  path : String

/-- The place of the first node of the item. -/
def Site.start {α σ : Type} (site : Site α σ) : Nat := site.stage.graph.size

/-- A message may name the path of the item. -/
inductive SameMessage (path other : String) : String → String → Prop where
  | same (message : String) : SameMessage path other message message
  | structural (reason : String) :
      SameMessage path other (RenderError.structural path reason).message
        (RenderError.structural other reason).message

structure SameWarning (path other : String) (warning twin : RenderWarning) : Prop where
  path_eq : warning.path = path
  twin_path_eq : twin.path = other
  message : SameMessage path other warning.message twin.message

/-- Both lists became longer by members that correspond to each other. -/
def AddsAlike {β : Type} (same : β → β → Prop) (before after twinBefore twinAfter : List β) : Prop :=
  ∃ added twinAdded, after = before ++ added ∧ twinAfter = twinBefore ++ twinAdded ∧
    List.Forall₂ same added twinAdded

namespace AddsAlike

variable {β : Type} {same : β → β → Prop} {before after twinBefore twinAfter more twinMore : List β}

theorem refl (same : β → β → Prop) (before twinBefore : List β) :
    AddsAlike same before before twinBefore twinBefore :=
  ⟨[], [], (List.append_nil _).symm, (List.append_nil _).symm, .nil⟩

/-- Further equal additions keep two lists alike. -/
theorem append (adds : AddsAlike same before after twinBefore twinAfter)
    (further : List.Forall₂ same more twinMore) :
    AddsAlike same before (after ++ more) twinBefore (twinAfter ++ twinMore) := by
  obtain ⟨added, twinAdded, rfl, rfl, alike⟩ := adds
  exact ⟨added ++ more, twinAdded ++ twinMore, List.append_assoc _ _ _, List.append_assoc _ _ _,
    List.rel_append alike further⟩

end AddsAlike

/-- At both places the same was reported. -/
structure ReportsAlike {α σ : Type} (site other : Site α σ) (report twin : RenderReport) : Prop where
  warnings : AddsAlike (SameWarning site.path other.path) site.stage.report.warnings report.warnings
    other.stage.report.warnings twin.warnings
  propertyWarnings : AddsAlike Eq site.stage.report.propertyWarnings report.propertyWarnings
    other.stage.report.propertyWarnings twin.propertyWarnings
  placeholders : AddsAlike Eq site.stage.report.placeholders report.placeholders
    other.stage.report.placeholders twin.placeholders
  basicModeComponents : AddsAlike Eq site.stage.report.basicModeComponents
    report.basicModeComponents other.stage.report.basicModeComponents twin.basicModeComponents

theorem ReportsAlike.refl {α σ : Type} (site other : Site α σ) :
    ReportsAlike site other site.stage.report other.stage.report :=
  ⟨.refl _ _ _, .refl _ _ _, .refl _ _ _, .refl _ _ _⟩

namespace Stage

variable {α σ : Type}

/-- At both places as many nodes were made, they correspond to each other, and the same was reported. -/
structure Alike (same : SceneNode α → SceneNode α → Prop) (site other : Site α σ) (count : Nat)
    (stage twin : Stage α σ) : Prop where
  size_eq : stage.graph.size = site.start + count
  twin_size_eq : twin.graph.size = other.start + count
  nodes : ∀ offset, Option.Rel same (stage.graph.node? (site.start + offset))
    (twin.graph.node? (other.start + offset))
  fonts : ∀ offset, stage.missingFonts.contains (site.start + offset) =
    twin.missingFonts.contains (other.start + offset)
  report : ReportsAlike site other stage.report twin.report

namespace Alike

variable {same : SceneNode α → SceneNode α → Prop} {site other : Site α σ} {count : Nat}
  {stage twin : Stage α σ}

theorem refl (fonts : site.stage.FontsWithin) (twinFonts : other.stage.FontsWithin) :
    Alike same site other 0 site.stage other.stage where
  size_eq := rfl
  twin_size_eq := rfl
  nodes offset := by
    have nothing (scene : SceneGraph α) : scene.node? (scene.size + offset) = none :=
      Array.getElem?_eq_none (Nat.le_add_right _ _)
    rw [Site.start, Site.start, nothing, nothing]
    exact .none
  fonts offset := by
    have unnoted {scene : Stage α σ} (within : scene.FontsWithin) :
        scene.missingFonts.contains (scene.graph.size + offset) = false := by
      apply Bool.eq_false_iff.mpr
      intro noted
      have before := within _ (List.contains_iff_mem.mp noted)
      omega
    rw [Site.start, Site.start, unnoted fonts, unnoted twinFonts]
  report := .refl site other

/-- Two stages alike in a strong sense are alike in a weaker one. -/
theorem mono {weaker : SceneNode α → SceneNode α → Prop}
    (alike : Alike same site other count stage twin)
    (weakens : ∀ node twin, same node twin → weaker node twin) :
    Alike weaker site other count stage twin where
  size_eq := alike.size_eq
  twin_size_eq := alike.twin_size_eq
  nodes offset := by
    have corresponds := alike.nodes offset
    revert corresponds
    generalize stage.graph.node? (site.start + offset) = node
    generalize twin.graph.node? (other.start + offset) = twinNode
    rintro (⟨here⟩ | _)
    · exact .some (weakens _ _ here)
    · exact .none
  fonts := alike.fonts
  report := alike.report

/-- The state of the host does not matter to likeness. -/
theorem ask (alike : Alike same site other count stage twin) (hostState twinState : σ) :
    Alike same site other count { stage with hostState := hostState }
      { twin with hostState := twinState } :=
  ⟨alike.size_eq, alike.twin_size_eq, alike.nodes, alike.fonts, alike.report⟩

/-- Matching warnings keep two stages alike. -/
theorem warn (alike : Alike same site other count stage twin) {message twinMessage : String}
    (sameMessage : SameMessage site.path other.path message twinMessage) :
    Alike same site other count (stage.warn site.path message)
      (twin.warn other.path twinMessage) where
  size_eq := alike.size_eq
  twin_size_eq := alike.twin_size_eq
  nodes := alike.nodes
  fonts := alike.fonts
  report :=
    { alike.report with
      warnings := alike.report.warnings.append (.cons ⟨rfl, rfl, sameMessage⟩ .nil) }

/-- Errors and warnings of the properties name no place. -/
theorem reportResolution (alike : Alike same site other count stage twin)
    (resolved : ResolvedProperties α) :
    Alike same site other count (stage.reportResolution site.path resolved)
      (twin.reportResolution other.path resolved) := by
  rw [Stage.reportResolution, Stage.reportResolution]
  induction resolved.errors generalizing stage twin with
  | nil =>
      have warned := alike.report.propertyWarnings.append
        (List.forall₂_same.mpr fun warning (_ : warning ∈ resolved.warnings) => rfl)
      exact ⟨alike.size_eq, alike.twin_size_eq, alike.nodes, alike.fonts,
        { alike.report with propertyWarnings := warned }⟩
  | cons error more ih => exact ih (alike.warn (.same _))

/-- Looking up one schema keeps two stages alike. -/
theorem schemaFor (alike : Alike same site other count stage twin) (context : RenderContext α σ)
    (spec : ComponentSpec) (componentId : String) (blueprint : Blueprint α) :
    Alike same site other count (stage.schemaFor context spec componentId blueprint).2
      (twin.schemaFor context spec componentId blueprint).2 := by
  rw [Stage.schemaFor, Stage.schemaFor]
  split
  · exact alike
  · exact ⟨alike.size_eq, alike.twin_size_eq, alike.nodes, alike.fonts,
      { alike.report with
        basicModeComponents := alike.report.basicModeComponents.append (.cons rfl .nil) }⟩

/-- The font of a node is missing at both places. -/
theorem noteFont (alike : Alike same site other count stage twin) (offset : Nat) :
    Alike same site other count
      { stage with missingFonts := stage.missingFonts ++ [site.start + offset] }
      { twin with missingFonts := twin.missingFonts ++ [other.start + offset] } where
  size_eq := alike.size_eq
  twin_size_eq := alike.twin_size_eq
  nodes := alike.nodes
  fonts place := by
    have same := alike.fonts place
    simp only [List.contains_append, same]
    simp
  report := alike.report

/-- The nodes of an instance are set up in the same way. -/
theorem set (alike : Alike (SceneNode.Moved site.start other.start) site other count stage twin)
    (offset : Nat) {change : SceneNode α → SceneNode α} (setting : SceneNode.IsSetting change) :
    Alike (SceneNode.Moved site.start other.start) site other count
      (stage.updateNode (site.start + offset) change)
      (twin.updateNode (other.start + offset) change) where
  size_eq := (size_update _ _ _).trans alike.size_eq
  twin_size_eq := (size_update _ _ _).trans alike.twin_size_eq
  nodes place := by
    simp only [updateNode, node?_update, Nat.add_left_cancel_iff]
    have here := alike.nodes place
    revert here
    generalize stage.graph.node? (site.start + place) = node
    generalize twin.graph.node? (other.start + place) = twinNode
    rintro (⟨moved⟩ | _)
    · refine .some ?_
      by_cases atPlace : offset = place
      · simpa [atPlace] using moved.set setting
      · simpa [atPlace] using moved
    · exact .none
  fonts := alike.fonts
  report := alike.report

section Adding

variable [Scalar α]

/-- Corresponding nodes are added, whose parents may be among the nodes. -/
theorem addNode (alike : Alike same site other count stage twin) {parent twinParent : Option Nat}
    (held : HasParent stage.graph.outline parent) (twinHeld : HasParent twin.graph.outline twinParent)
    {hostId twinHostId : Option String} {name : String} {kind twinKind : NodeKind α}
    {width height : α}
    (fresh : same (newNode (site.start + count) parent hostId name kind width height)
      (newNode (other.start + count) twinParent twinHostId name twinKind width height))
    (adopts : ∀ offset node twinNode, same node twinNode →
      same (if parent = some (site.start + offset) then node.addChildren [site.start + count]
          else node)
        (if twinParent = some (other.start + offset) then
          twinNode.addChildren [other.start + count] else twinNode)) :
    Alike same site other (count + 1) (stage.addNode parent hostId name kind width height)
      (twin.addNode twinParent twinHostId name twinKind width height) where
  size_eq := (size_add _ _ _ _ _ _ _).trans (congrArg (· + 1) alike.size_eq)
  twin_size_eq := (size_add _ _ _ _ _ _ _).trans (congrArg (· + 1) alike.twin_size_eq)
  nodes offset := by
    have size := alike.size_eq
    have twinSize := alike.twin_size_eq
    rcases Nat.lt_trichotomy offset count with before | rfl | behind
    · rw [Stage.addNode, Stage.addNode, node?_add _ _ _ _ _ (by omega),
        node?_add _ _ _ _ _ (by omega), size, twinSize]
      have here := alike.nodes offset
      revert here
      generalize stage.graph.node? (site.start + offset) = node
      generalize twin.graph.node? (other.start + offset) = twinNode
      rintro (⟨corresponds⟩ | _)
      · exact .some (adopts offset _ _ corresponds)
      · exact .none
    · have last := node?_add_self held hostId name kind width height
      have twinLast := node?_add_self twinHeld twinHostId name twinKind width height
      rw [size] at last
      rw [twinSize] at twinLast
      rw [Stage.addNode, Stage.addNode, last, twinLast]
      exact .some fresh
    · have nothing (scene : SceneGraph α) {start : Nat} (size : scene.size = start + count)
          (parent : Option Nat) (hostId : Option String) (kind : NodeKind α) :
          (scene.add parent hostId name kind width height).node? (start + offset) = none := by
        apply Array.getElem?_eq_none
        have grown := size_add scene parent hostId name kind width height
        rw [SceneGraph.size] at grown
        omega
      rw [Stage.addNode, Stage.addNode, nothing _ size, nothing _ twinSize]
      exact .none
  fonts := alike.fonts
  report := alike.report

end Adding

end Alike

/-- The nodes of an instance correspond to those of another one. -/
abbrev Twins (site other : Site α σ) (count : Nat) (stage twin : Stage α σ) : Prop :=
  Alike (SceneNode.Moved site.start other.start) site other count stage twin

section Instantiating

variable {site other : Site α σ} {count above : Nat} {stage twin : Stage α σ}

variable [Scalar α]

/-- The nodes of a blueprint hang below nodes of the same instance. -/
theorem Twins.addNested (twins : Twins site other count stage twin) (within : above < count)
    (nodeId name : String) (kind : NodeKind α) (width height : α) :
    Twins site other (count + 1)
      (stage.addNode (some (site.start + above))
        (some (nestedHostId (generatedHostId site.start) nodeId)) name kind width height)
      (twin.addNode (some (other.start + above))
        (some (nestedHostId (generatedHostId other.start) nodeId)) name kind width height) := by
  have held : site.start + above < stage.graph.size := by
    rw [twins.size_eq]
    omega
  have twinHeld : other.start + above < twin.graph.size := by
    rw [twins.twin_size_eq]
    omega
  apply twins.addNode (hasParent_some held) (hasParent_some twinHeld)
  · exact SceneNode.moved_nested _ _ _ _ _ _ _ _ _
  · intro offset node twinNode moved
    by_cases here : above = offset
    · simpa [here] using moved.addChild count
    · simpa [here] using moved

mutual

/-- One blueprint node, added at two sites, gives twin subtrees. -/
theorem twins_addBlueprintNode : ∀ (node : BlueprintNode α) {count above : Nat}
    {stage twin : Stage α σ}, above < count → Twins site other count stage twin →
      Twins site other (count + node.walk.length)
        (addBlueprintNode (generatedHostId site.start) (site.start + above) node stage)
        (addBlueprintNode (generatedHostId other.start) (other.start + above) node twin)
  | .node nodeId name visible width height kind children, count, above, stage, twin, within,
      twins => by
      have added := (twins.addNested within nodeId name (blueprintNodeKind kind) width height).set
        count (SceneNode.isSetting_visible visible)
      have longer : count + (BlueprintNode.walkAll children).length.succ =
          count + 1 + (BlueprintNode.walkAll children).length := by omega
      rw [addBlueprintNode, addBlueprintNode, twins.size_eq, twins.twin_size_eq, BlueprintNode.walk,
        List.length_cons, longer]
      split
      · exact twins_addBlueprintNodes children (Nat.lt_succ_self count) (added.noteFont count)
      · exact twins_addBlueprintNodes children (Nat.lt_succ_self count) added

/-- The nodes of one blueprint, added at two sites, give twin subtrees. -/
theorem twins_addBlueprintNodes : ∀ (nodes : List (BlueprintNode α)) {count above : Nat}
    {stage twin : Stage α σ}, above < count → Twins site other count stage twin →
      Twins site other (count + (BlueprintNode.walkAll nodes).length)
        (addBlueprintNodes (generatedHostId site.start) (site.start + above) nodes stage)
        (addBlueprintNodes (generatedHostId other.start) (other.start + above) nodes twin)
  | [], _, _, _, _, _, twins => twins
  | node :: more, count, above, stage, twin, within, twins => by
      have first := twins_addBlueprintNode node within twins
      have others := twins_addBlueprintNodes more (Nat.lt_add_right _ within) first
      rw [BlueprintNode.walkAll, List.length_append, ← Nat.add_assoc]
      exact others

end

/-- The same blueprint becomes corresponding nodes. -/
theorem twins_instantiate (blueprint : Blueprint α) {frame : Nat} (inFront : frame < site.start)
    (twinInFront : frame < other.start) (name : Option String)
    (twins : Twins site other 0 stage twin) :
    Twins site other (blueprint.walk.length + 1) (stage.instantiate blueprint frame name)
      (twin.instantiate blueprint frame name) := by
  have held : frame < stage.graph.size := by rwa [twins.size_eq]
  have twinHeld : frame < twin.graph.size := by rwa [twins.twin_size_eq]
  have root : Twins site other 1 _ _ := twins.addNode (hasParent_some held)
    (hasParent_some twinHeld) (SceneNode.moved_root site.start other.start inFront
      (name.getD blueprint.name) (.instance ⟨blueprint.componentId, blueprint.defaultVariant⟩)
      blueprint.width blueprint.height) (fun offset node twinNode moved => by
        have elsewhere (start : Nat) (before : frame < start) : frame ≠ start + offset := by omega
        simpa [elsewhere _ inFront, elsewhere _ twinInFront] using moved)
  have nodes := twins_addBlueprintNodes blueprint.children Nat.zero_lt_one root
  rw [Nat.add_comm 1] at nodes
  rw [instantiate, instantiate, twins.size_eq, twins.twin_size_eq]
  exact nodes

end Instantiating

end Stage

end DesignScene
