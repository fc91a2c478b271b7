/-
This file shows what the nodes of an instance take over from the blueprint.
-/
import DesignScene.Proofs.Render.Labels

namespace DesignScene

namespace SceneGraph

variable {α : Type}

def kinds (graph : SceneGraph α) : List (NodeKind α) := graph.nodes.toList.map (·.kind)

/-- The kind at a place is that of its node. -/
theorem getElem?_kinds (graph : SceneGraph α) (id : Nat) :
    graph.kinds[id]? = (graph.node? id).map (·.kind) := by
  simp [kinds, node?]

/-- There is one kind for every node. -/
@[simp] theorem length_kinds (graph : SceneGraph α) : graph.kinds.length = graph.size := by
  simp [kinds, size]

theorem kinds_update (graph : SceneGraph α) (id : Nat) {change : SceneNode α → SceneNode α}
    (kept : ∀ node, (change node).kind = node.kind) : (graph.update id change).kinds = graph.kinds := by
  apply List.ext_getElem?
  intro place
  rw [getElem?_kinds, getElem?_kinds, node?_update, Option.map_map]
  congr 1
  funext node
  by_cases same : id = place <;> simp [same, kept]

theorem kinds_add [Scalar α] (graph : SceneGraph α) (parent : Option Nat)
    (hostId : Option String) (name : String) (kind : NodeKind α) (width height : α) :
    (graph.add parent hostId name kind width height).kinds = graph.kinds ++ [kind] := by
  have pushed : (⟨graph.nodes.push (newNode graph.size parent hostId name kind width height)⟩ :
      SceneGraph α).kinds = graph.kinds ++ [kind] := by
    simp [kinds, newNode]
  cases parent with
  | none => exact pushed
  | some place =>
      rw [← pushed]
      exact kinds_update _ _ fun _ => rfl

end SceneGraph

/-- The places of the nodes whose font is missing, the first of which comes to stand at `start`. -/
def BlueprintNode.unlettered {α : Type} (start : Nat) (nodes : List (BlueprintNode α)) : List Nat :=
  (nodes.zipIdx start).filterMap fun entry =>
    if Stage.lacksFont entry.1.kind then some entry.2 else none

namespace Stage

open BlueprintNode

variable {α σ : Type}

/-- The copies without a font are found list by list. -/
theorem unlettered_append (start : Nat) (nodes more : List (BlueprintNode α)) :
    unlettered start (nodes ++ more) =
      unlettered start nodes ++ unlettered (start + nodes.length) more := by
  rw [unlettered, List.zipIdx_append, List.filterMap_append]
  rfl

/-- A copy of a node that lacks its font lacks it too. -/
theorem mem_unlettered {start : Nat} {nodes : List (BlueprintNode α)} {index : Nat}
    {node : BlueprintNode α} (found : nodes[index]? = some node)
    (lacking : lacksFont node.kind = true) : start + index ∈ unlettered start nodes := by
  refine List.mem_filterMap.mpr ⟨(node, start + index), ?_, if_pos lacking⟩
  rw [List.mk_mem_zipIdx_iff_le_and_getElem?_sub]
  refine ⟨Nat.le_add_right start index, ?_⟩
  rwa [Nat.add_sub_cancel_left]

variable [Scalar α]

/-- What a stage has of the nodes that it took over: their kinds, and which of them lack a font. -/
structure TakesOver (nodes : List (BlueprintNode α)) (stage later : Stage α σ) : Prop where
  kinds_eq : later.graph.kinds =
    stage.graph.kinds ++ nodes.map fun node => blueprintNodeKind node.kind
  missingFonts_eq : later.missingFonts =
    stage.missingFonts ++ unlettered stage.graph.size nodes
  hostState_eq : later.hostState = stage.hostState

namespace TakesOver

variable {nodes more : List (BlueprintNode α)} {stage next later : Stage α σ}

theorem refl (stage : Stage α σ) : TakesOver [] stage stage where
  kinds_eq := by simp
  missingFonts_eq := by simp [unlettered]
  hostState_eq := rfl

/-- Taking over nodes adds one node for each. -/
theorem size_eq (taken : TakesOver nodes stage later) :
    later.graph.size = stage.graph.size + nodes.length := by
  rw [← SceneGraph.length_kinds, taken.kinds_eq, List.length_append, SceneGraph.length_kinds,
    List.length_map]

theorem append (first : TakesOver nodes stage next) (second : TakesOver more next later) :
    TakesOver (nodes ++ more) stage later where
  kinds_eq := by
    rw [second.kinds_eq, first.kinds_eq, List.map_append, List.append_assoc]
  missingFonts_eq := by
    rw [second.missingFonts_eq, first.missingFonts_eq, first.size_eq, unlettered_append,
      List.append_assoc]
  hostState_eq := second.hostState_eq.trans first.hostState_eq

end TakesOver

mutual

/-- Adding a blueprint node takes over its whole subtree. -/
theorem takesOver_addBlueprintNode (hostId : String) (parent : Nat) :
    ∀ (node : BlueprintNode α) (stage : Stage α σ),
      TakesOver node.walk stage (addBlueprintNode hostId parent node stage)
  | .node nodeId name visible width height kind children, stage => by
      have shown : ((stage.addNode (some parent) (some (nestedHostId hostId nodeId)) name
          (blueprintNodeKind kind) width height).setVisible visible stage.graph.size).graph.kinds =
            stage.graph.kinds ++ [blueprintNodeKind kind] := by
        rw [← SceneGraph.kinds_add stage.graph (some parent) (some (nestedHostId hostId nodeId)) name
          (blueprintNodeKind kind) width height]
        exact SceneGraph.kinds_update _ _ fun _ => rfl
      have below {next : Stage α σ}
          (first : TakesOver [.node nodeId name visible width height kind children] stage next) :
          TakesOver (.node nodeId name visible width height kind children :: walkAll children) stage
            (addBlueprintNodes hostId stage.graph.size children next) :=
        first.append (takesOver_addBlueprintNodes hostId stage.graph.size children next)
      rw [addBlueprintNode, walk]
      split
      · next lacking =>
          refine below ⟨shown, ?_, rfl⟩
          simp [unlettered, BlueprintNode.kind, lacking, setVisible, updateNode, addNode]
      · next present =>
          refine below ⟨shown, ?_, rfl⟩
          simp [unlettered, BlueprintNode.kind, present, setVisible, updateNode, addNode]

/-- The nodes of a blueprint keep their kinds, in the order of its walk. -/
theorem takesOver_addBlueprintNodes (hostId : String) (parent : Nat) :
    ∀ (nodes : List (BlueprintNode α)) (stage : Stage α σ),
      TakesOver (walkAll nodes) stage (addBlueprintNodes hostId parent nodes stage)
  | [], stage => .refl stage
  | first :: more, stage =>
      (takesOver_addBlueprintNode hostId parent first stage).append
        (takesOver_addBlueprintNodes hostId parent more _)

end

section Instances

variable (blueprint : Blueprint α) (parent : Nat) (name : Option String) (stage : Stage α σ)

theorem kinds_instantiate :
    (stage.instantiate blueprint parent name).graph.kinds =
      stage.graph.kinds ++ .instance ⟨blueprint.componentId, blueprint.defaultVariant⟩ ::
        blueprint.walk.map fun node => blueprintNodeKind node.kind := by
  rw [instantiate, (takesOver_addBlueprintNodes _ _ blueprint.children _).kinds_eq, addNode,
    SceneGraph.kinds_add, List.append_assoc]
  rfl

/-- Every node behind an instance is of the kind of a node of its blueprint. -/
theorem exists_kind_of_node?_instantiate {id : Nat} {node : SceneNode α}
    (found : (stage.instantiate blueprint parent name).graph.node? id = some node)
    (behind : stage.graph.size < id) :
    ∃ other ∈ blueprint.walk, node.kind = blueprintNodeKind other.kind := by
  have kind := SceneGraph.getElem?_kinds (stage.instantiate blueprint parent name).graph id
  obtain ⟨offset, rfl⟩ := Nat.exists_eq_add_of_lt behind
  rw [found, kinds_instantiate, List.getElem?_append_right (by simp; omega)] at kind
  have place : stage.graph.size + offset + 1 - stage.graph.kinds.length = offset + 1 := by
    rw [SceneGraph.length_kinds]
    omega
  rw [place, List.getElem?_cons_succ, List.getElem?_map] at kind
  obtain ⟨other, listed, same⟩ := Option.map_eq_some_iff.mp kind
  exact ⟨other, List.mem_of_getElem? listed, same.symm⟩

/-- An instance adds the missing fonts of its blueprint. -/
theorem missingFonts_instantiate :
    (stage.instantiate blueprint parent name).missingFonts =
      stage.missingFonts ++ unlettered (stage.graph.size + 1) blueprint.walk := by
  rw [instantiate, (takesOver_addBlueprintNodes _ _ blueprint.children _).missingFonts_eq, addNode,
    SceneGraph.size_add]
  rfl

theorem hostState_instantiate :
    (stage.instantiate blueprint parent name).hostState = stage.hostState :=
  (takesOver_addBlueprintNodes _ _ blueprint.children _).hostState_eq

/-- An instance adds itself and the nodes of its blueprint. -/
theorem size_instantiate :
    (stage.instantiate blueprint parent name).graph.size =
      stage.graph.size + (blueprint.walk.length + 1) := by
  rw [← SceneGraph.length_kinds, kinds_instantiate]
  simp

end Instances

end Stage

end DesignScene
