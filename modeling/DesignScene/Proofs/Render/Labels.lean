/-
This file shows what the lookups in an instance depend on, and that its properties do not change it.
-/
import DesignScene.Proofs.Render.Growth
import DesignScene.Proofs.Scene.Walk
import DesignScene.Scalar.Exact

namespace DesignScene

open Outlines

/-- What a lookup reads of a node. -/
structure NodeLabel where
  id : Nat
  hostId : String
  name : String
  form : NodeForm

def SceneNode.label {α : Type} (node : SceneNode α) : NodeLabel :=
  ⟨node.id, node.hostId, node.name, node.kind.form⟩

theorem SceneNode.isText_eq {α : Type} (node : SceneNode α) :
    node.isText = (node.kind.form == .text) := by
  cases kind : node.kind <;> simp [isText, text?, NodeKind.form, kind]

theorem SceneNode.isInstance_eq {α : Type} (node : SceneNode α) :
    node.isInstance = (node.kind.form == .component) := by
  cases kind : node.kind <;> simp [isInstance, instance?, NodeKind.form, kind]

theorem SceneNode.IsSetting.label_eq {α : Type} {change : SceneNode α → SceneNode α}
    (setting : IsSetting change) (node : SceneNode α) : (change node).label = node.label := by
  have sameForm : (change node).kind.form = node.kind.form :=
    congrArg NodeOutline.form (setting.outline_eq node)
  rw [label, label, setting.id_eq, setting.hostId_eq, setting.name_eq, sameForm]

namespace SceneGraph

variable {α : Type} {graph later : SceneGraph α} {instanceId : Nat}

def labels (graph : SceneGraph α) : List NodeLabel := graph.nodes.toList.map SceneNode.label

@[simp] theorem length_labels (graph : SceneGraph α) : graph.labels.length = graph.size := by
  simp [labels, size]

theorem getElem?_labels (graph : SceneGraph α) (id : Nat) :
    graph.labels[id]? = (graph.node? id).map SceneNode.label := by
  simp [labels, node?]

/-- The labels of the nodes below a node. -/
def labelsBelow (graph : SceneGraph α) (id : Nat) : List NodeLabel :=
  (graph.descendantNodes id).map SceneNode.label

/-- The labels below a node are those that the walk comes to. -/
theorem labelsBelow_eq (graph : SceneGraph α) (id : Nat) :
    graph.labelsBelow id = (graph.descendants id).filterMap fun place => graph.labels[place]? := by
  rw [labelsBelow, descendantNodes, List.map_filterMap]
  exact List.filterMap_congr fun place _ => (graph.getElem?_labels place).symm

/-- Labels below a node depend on the outline and the labels only. -/
theorem labelsBelow_congr (sameOutline : later.outline = graph.outline)
    (sameLabels : later.labels = graph.labels) (id : Nat) :
    later.labelsBelow id = graph.labelsBelow id := by
  rw [labelsBelow_eq, labelsBelow_eq, descendants_congr sameOutline, sameLabels]

/-- A label below a node is that of a node. -/
theorem exists_node_of_mem_labelsBelow (sound : WellFormed graph.outline) {id : Nat}
    {label : NodeLabel} (member : label ∈ graph.labelsBelow id) :
    ∃ node, graph.node? label.id = some node ∧ node.label = label := by
  obtain ⟨node, below, rfl⟩ := List.mem_map.mp member
  obtain ⟨place, -, found⟩ := List.mem_filterMap.mp below
  have atPlace : node.label.id = place := id_eq_of_node? sound found
  exact ⟨node, by rwa [atPlace], rfl⟩

/-- An update that keeps the label of each node keeps all labels. -/
theorem labels_update {change : SceneNode α → SceneNode α} {id : Nat}
    (kept : ∀ node, (change node).label = node.label) : (graph.update id change).labels = graph.labels := by
  apply List.ext_getElem?
  intro place
  rw [getElem?_labels, getElem?_labels, node?_update, Option.map_map]
  congr 1
  funext node
  by_cases same : id = place <;> simp [same, kept]

section Lookups

/-- A search by labels finds the first label below the node. -/
theorem findBelow_eq (test : NodeLabel → Bool) :
    graph.findBelow instanceId (fun node => test node.label) =
      ((graph.labelsBelow instanceId).find? test).map (·.id) := by
  rw [findBelow, labelsBelow, List.find?_map, Option.map_map]
  rfl

variable (same : later.labelsBelow instanceId = graph.labelsBelow instanceId)

include same

/-- It finds the same where the labels are the same. -/
theorem findBelow_congr (test : NodeLabel → Bool) :
    later.findBelow instanceId (fun node => test node.label) =
      graph.findBelow instanceId (fun node => test node.label) := by
  rw [findBelow_eq, findBelow_eq, same]

/-- Every way to find a node reads labels only. -/
theorem locate_congr (nodeId name : String) :
    later.locate instanceId nodeId name = graph.locate instanceId nodeId name := by
  have byId := findBelow_congr same fun label => label.hostId == nodeId
  have bySuffix := findBelow_congr same fun label =>
    nodeId != "" && Text.endsWith label.hostId (";" ++ nodeId)
  have byPart := findBelow_congr same fun label =>
    nodeId != "" && Text.contains label.hostId nodeId
  have byName := findBelow_congr same fun label =>
    Text.normalizeKey label.name == Text.normalizeKey name
  exact congrArg₂ Option.or (congrArg₂ Option.or (congrArg₂ Option.or byId bySuffix) byPart) byName

/-- A slot is located alike where the labels are the same. -/
theorem locateSlot_congr (slot : SlotRef) :
    later.locateSlot instanceId slot = graph.locateSlot instanceId slot :=
  locate_congr same slot.nodeId slot.slotName

/-- Its texts are found alike. -/
theorem slotTexts_congr (slot : SlotRef) :
    later.slotTexts instanceId slot = graph.slotTexts instanceId slot := by
  have read (scene : SceneGraph α) (first : Option Nat) :
      ((scene.descendantNodes instanceId).filter fun node =>
          node.isText && (some node.id == first || hasName slot.slotName node)).map (·.id) =
        ((scene.labelsBelow instanceId).filter fun label => label.form == .text &&
          (some label.id == first ||
            Text.normalizeKey label.name == Text.normalizeKey slot.slotName)).map (·.id) := by
    rw [labelsBelow, List.filter_map, List.map_map]
    congr 1
    apply List.filter_congr
    intro node _
    rw [SceneNode.isText_eq]
    rfl
  simp only [slotTexts, read, same, locateSlot_congr same]

end Lookups

section Adding

variable [Scalar α]

/-- A node that is added has the last label. -/
theorem labels_add (graph : SceneGraph α) (parent : Option Nat) (hostId : Option String)
    (name : String) (kind : NodeKind α) (width height : α) :
    (graph.add parent hostId name kind width height).labels =
      graph.labels ++ [⟨graph.size, hostId.getD (generatedHostId graph.size), name, kind.form⟩] := by
  have pushed : (⟨graph.nodes.push (newNode graph.size parent hostId name kind width height)⟩ :
      SceneGraph α).labels =
        graph.labels ++ [⟨graph.size, hostId.getD (generatedHostId graph.size), name, kind.form⟩] := by
    simp [labels, newNode, SceneNode.label]
  cases parent with
  | none => exact pushed
  | some place =>
      rw [← pushed]
      exact labels_update fun _ => rfl

end Adding

end SceneGraph

/-- What kind of node it becomes. -/
def BlueprintKind.form {α : Type} : BlueprintKind α → NodeForm
  | .frame => .frame
  | .text .. => .text
  | .instance _ => .component
  | .vector => .vector
  | .image => .image

theorem Stage.form_blueprintNodeKind {α : Type} [Scalar α] (kind : BlueprintKind α) :
    (blueprintNodeKind kind).form = kind.form := by cases kind <;> rfl

/-- The label of the node that a blueprint node becomes at a place. -/
def BlueprintNode.labelAt {α : Type} (hostId : String) (place : Nat) (node : BlueprintNode α) :
    NodeLabel := ⟨place, Stage.nestedHostId hostId node.id, node.name, node.kind.form⟩

/-- The labels of the nodes that a list of blueprint nodes becomes, the first of which is at `start`. -/
def BlueprintNode.labelsFrom {α : Type} (hostId : String) (start : Nat)
    (nodes : List (BlueprintNode α)) : List NodeLabel :=
  nodes.mapIdx fun index => labelAt hostId (start + index)

/-- The labels of the nodes below an instance of the blueprint. -/
def Blueprint.labels {α : Type} (blueprint : Blueprint α) (instanceId : Nat) : List NodeLabel :=
  BlueprintNode.labelsFrom (SceneGraph.generatedHostId instanceId) (instanceId + 1) blueprint.walk

namespace Stage

open BlueprintNode

variable {α σ : Type}

/-- Edits leave all labels. -/
theorem Edits.labels_eq {bound : Nat} {stage later : Stage α σ}
    (edits : Edits bound stage later) : later.graph.labels = stage.graph.labels := by
  induction edits with
  | refl => rfl
  | warn _ _ _ ih => exact ih
  | ask _ _ ih => exact ih
  | set _ _ setting ih => exact (SceneGraph.labels_update setting.label_eq).trans ih

/-- Setting up nodes changes no lookup. -/
theorem Edits.labelsBelow_eq {bound : Nat} {stage later : Stage α σ}
    (edits : Edits bound stage later) (id : Nat) :
    later.graph.labelsBelow id = stage.graph.labelsBelow id :=
  SceneGraph.labelsBelow_congr edits.keeps.graph.outline_eq edits.labels_eq id

theorem labelsFrom_cons (hostId : String) (start : Nat) (node : BlueprintNode α)
    (more : List (BlueprintNode α)) :
    labelsFrom hostId start (node :: more) =
      node.labelAt hostId start :: labelsFrom hostId (start + 1) more := by
  simp [labelsFrom, List.mapIdx_cons, Nat.add_assoc, Nat.add_comm 1]

theorem labelsFrom_append (hostId : String) (start : Nat) (nodes more : List (BlueprintNode α)) :
    labelsFrom hostId start (nodes ++ more) =
      labelsFrom hostId start nodes ++ labelsFrom hostId (start + nodes.length) more := by
  simp [labelsFrom, List.mapIdx_append, Nat.add_assoc, Nat.add_comm nodes.length]

theorem size_of_labels_eq {stage later : Stage α σ} {added : List NodeLabel}
    (grown : later.graph.labels = stage.graph.labels ++ added) :
    later.graph.size = stage.graph.size + added.length := by
  rw [← SceneGraph.length_labels, grown, List.length_append, SceneGraph.length_labels]

@[simp] theorem length_labelsFrom (hostId : String) (start : Nat)
    (nodes : List (BlueprintNode α)) : (labelsFrom hostId start nodes).length = nodes.length := by
  simp [labelsFrom]

theorem map_id_labelsFrom (hostId : String) (start : Nat) (nodes : List (BlueprintNode α)) :
    (labelsFrom hostId start nodes).map (·.id) = List.range' start nodes.length := by
  induction nodes generalizing start with
  | nil => rfl
  | cons node more ih =>
      rw [labelsFrom_cons, List.map_cons, ih, List.length_cons, List.range'_succ]
      rfl

/-- A label of a blueprint is that of one of its nodes, numbered from the start. -/
theorem mem_labelsFrom {hostId : String} {start : Nat} {label : NodeLabel}
    {nodes : List (BlueprintNode α)} :
    label ∈ labelsFrom hostId start nodes ↔
      ∃ index other, nodes[index]? = some other ∧ labelAt hostId (start + index) other = label := by
  rw [labelsFrom, List.mem_mapIdx]
  constructor
  · rintro ⟨index, within, rfl⟩
    exact ⟨index, nodes[index], List.getElem?_eq_getElem within, rfl⟩
  · rintro ⟨index, other, found, rfl⟩
    obtain ⟨within, rfl⟩ := List.getElem?_eq_some_iff.mp found
    exact ⟨index, within, rfl⟩

/-- The nodes of a tree that was added before others. -/
theorem Grows.descendants_eq {parent : Option Nat} {form : NodeForm} {children more : List Sketch}
    {stage later : Stage α σ} (grown : Grows parent (.node form children :: more) stage later) :
    later.graph.descendants stage.graph.size =
      List.range' (stage.graph.size + 1) (Sketch.sizeAll children) := by
  have split := grown.outline_eq
  rw [Sketch.grow, Sketch.outlinesAll, SceneGraph.length_outline] at split
  exact SceneGraph.descendants_of_outlines (by simp) split

variable [Scalar α]

mutual

/-- A node of a blueprint adds the labels of its walk. -/
theorem labels_addBlueprintNode (hostId : String) (parent : Nat) :
    ∀ (node : BlueprintNode α) (stage : Stage α σ),
      (addBlueprintNode hostId parent node stage).graph.labels =
        stage.graph.labels ++ labelsFrom hostId stage.graph.size node.walk
  | .node nodeId name visible width height kind children, stage => by
      have shown : ((stage.addNode (some parent) (some (nestedHostId hostId nodeId)) name
          (blueprintNodeKind kind) width height).setVisible visible stage.graph.size).graph.labels =
            stage.graph.labels ++
              [⟨stage.graph.size, nestedHostId hostId nodeId, name, kind.form⟩] := by
        rw [← form_blueprintNodeKind]
        exact (SceneGraph.labels_update (SceneNode.isSetting_visible visible).label_eq).trans
          (stage.graph.labels_add (some parent) _ name (blueprintNodeKind kind) width height)
      have below {next : Stage α σ} (same : next.graph.labels = stage.graph.labels ++
          [⟨stage.graph.size, nestedHostId hostId nodeId, name, kind.form⟩]) :
          (addBlueprintNodes hostId stage.graph.size children next).graph.labels =
            stage.graph.labels ++ ⟨stage.graph.size, nestedHostId hostId nodeId, name, kind.form⟩ ::
              labelsFrom hostId (stage.graph.size + 1) (walkAll children) := by
        rw [labels_addBlueprintNodes hostId stage.graph.size children next, size_of_labels_eq same,
          same]
        simp
      rw [addBlueprintNode, walk, labelsFrom_cons]
      split
      · exact below shown
      · exact below shown

/-- The nodes of a blueprint stand behind the others in the order of its walk. -/
theorem labels_addBlueprintNodes (hostId : String) (parent : Nat) :
    ∀ (nodes : List (BlueprintNode α)) (stage : Stage α σ),
      (addBlueprintNodes hostId parent nodes stage).graph.labels =
        stage.graph.labels ++ labelsFrom hostId stage.graph.size (walkAll nodes)
  | [], stage => by simp [addBlueprintNodes, walkAll, labelsFrom]
  | first :: more, stage => by
      have one := labels_addBlueprintNode hostId parent first stage
      have others := labels_addBlueprintNodes hostId parent more
        (addBlueprintNode hostId parent first stage)
      rw [one, size_of_labels_eq one, length_labelsFrom] at others
      rw [addBlueprintNodes, others, walkAll, labelsFrom_append, List.append_assoc]

end

/-- An instance adds its own label and those of its blueprint. -/
theorem labels_instantiate (blueprint : Blueprint α) (parent : Nat) (name : Option String)
    (stage : Stage α σ) :
    (stage.instantiate blueprint parent name).graph.labels =
      stage.graph.labels ++
        ⟨stage.graph.size, SceneGraph.generatedHostId stage.graph.size, name.getD blueprint.name,
          .component⟩ :: blueprint.labels stage.graph.size := by
  rw [instantiate, labels_addBlueprintNodes]
  simp [addNode, SceneGraph.labels_add, SceneGraph.size_add, Blueprint.labels, Blueprint.walk,
    NodeKind.form]

theorem filterMap_getElem?_range' {β : Type} (front behind : List β) :
    (List.range' front.length behind.length).filterMap (fun place => (front ++ behind)[place]?) =
      behind := by
  induction behind generalizing front with
  | nil => rfl
  | cons first more ih =>
      have others := ih (front ++ [first])
      rw [List.length_append, List.append_assoc] at others
      rw [List.length_cons, List.range'_succ, List.filterMap_cons]
      simpa using others

/-- The lookups in a new instance find the nodes of its blueprint. -/
theorem labelsBelow_instantiate (blueprint : Blueprint α) {parent : Nat} (name : Option String)
    {stage : Stage α σ} (within : parent < stage.graph.size) :
    (stage.instantiate blueprint parent name).graph.labelsBelow stage.graph.size =
      blueprint.labels stage.graph.size := by
  obtain ⟨children, grown⟩ := grows_instantiate blueprint name within
  have labels := labels_instantiate blueprint parent name stage
  have size : Sketch.sizeAll children = (blueprint.labels stage.graph.size).length := by
    have bySketch := grown.size_eq
    have byLabels := size_of_labels_eq labels
    simp only [Sketch.sizeAll, Sketch.size] at bySketch
    rw [List.length_cons] at byLabels
    omega
  rw [SceneGraph.labelsBelow_eq, grown.descendants_eq, labels, size]
  have listed := filterMap_getElem?_range' (stage.graph.labels ++
    [⟨stage.graph.size, SceneGraph.generatedHostId stage.graph.size, name.getD blueprint.name,
      .component⟩]) (blueprint.labels stage.graph.size)
  rw [List.length_append, SceneGraph.length_labels, List.append_assoc] at listed
  exact listed

/-- This holds whatever properties the component has. -/
theorem labelsBelow_renderBlueprint (context : RenderContext α σ) {parent : Nat} (path : String)
    (spec : ComponentSpec) (componentId : String) (blueprint : Blueprint α) {stage : Stage α σ}
    (sound : WellFormed stage.graph.outline) (within : parent < stage.graph.size) :
    (stage.renderBlueprint context parent path spec componentId blueprint).graph.labelsBelow
      stage.graph.size = blueprint.labels stage.graph.size := by
  have same := graph_announce context path spec componentId blueprint stage
  have stillWithin := within
  rw [← same] at stillWithin
  have stillSound := sound
  rw [← same] at stillSound
  obtain ⟨_, made⟩ := grows_instantiate blueprint spec.name stillWithin
  have listed := labelsBelow_instantiate blueprint spec.name stillWithin
  have edited := edits_applyProperties context blueprint spec
    (stage.resolvedFor context spec componentId blueprint) stage.graph.size parent path
    (made.wellFormed stillSound (hasParent_some stillWithin))
  rw [same] at listed
  rw [renderBlueprint_eq, ← listed]
  exact edited.labelsBelow_eq stage.graph.size

/-- A component becomes one node more than its blueprint has. -/
theorem size_renderBlueprint (context : RenderContext α σ) {parent : Nat} (path : String)
    (spec : ComponentSpec) (componentId : String) (blueprint : Blueprint α) {stage : Stage α σ}
    (sound : WellFormed stage.graph.outline) (within : parent < stage.graph.size) :
    (stage.renderBlueprint context parent path spec componentId blueprint).graph.size =
      stage.graph.size + (blueprint.walk.length + 1) := by
  have same := graph_announce context path spec componentId blueprint stage
  rw [← same] at sound within
  obtain ⟨_, made⟩ := grows_instantiate blueprint spec.name within
  have edited := edits_applyProperties context blueprint spec
    (stage.resolvedFor context spec componentId blueprint) stage.graph.size parent path
    (made.wellFormed sound (hasParent_some within))
  rw [renderBlueprint_eq, edited.keeps.graph.size_eq,
    size_of_labels_eq (labels_instantiate blueprint parent spec.name _), same, List.length_cons,
    Blueprint.labels, length_labelsFrom]

/-- A host that knows nothing, and no components and styles. -/
def plainContext : RenderContext Rat Unit := ⟨{}, {}, Config.standard, Host.empty⟩

/-- A component that consists of these nodes. -/
def badgeOf (children : List (BlueprintNode Rat)) : Blueprint Rat where
  componentId := "80:1"
  name := "Badge"
  width := 20
  height := 20
  children := children

def textNode (id name : String) : BlueprintNode Rat :=
  .node id name true 0 0 (.text "" [⟨"Inter", "Regular"⟩] 12 false) []

/-- A scene that is one frame. -/
def framed : Stage Rat Unit :=
  (Stage.start ()).addNode none none "Generated Layout" (.frame FrameProps.plain) 400 300

theorem wellFormed_framed : WellFormed framed.graph.outline := by
  have held : HasParent (Stage.start (α := Rat) ()).graph.outline none := nofun
  have grown : Grows none [.node .frame []] (Stage.start ()) framed := by
    apply grows_addNode held
    · rfl
    · rfl
  exact grown.wellFormed .nil held

end Stage

end DesignScene
