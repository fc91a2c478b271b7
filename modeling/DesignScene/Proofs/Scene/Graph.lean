/-
This file says what the operations on a scene keep of its nodes.
-/
import DesignScene.Proofs.Scene.Outline

namespace DesignScene

def SceneNode.addChildren {α : Type} (children : List Nat) (node : SceneNode α) : SceneNode α :=
  { node with children := node.children ++ children }

namespace SceneGraph

open Outlines

variable {α : Type}

/-- All nodes stay where they are, and those before `bound` do not change at all. -/
structure Keeps (bound : Nat) (graph later : SceneGraph α) : Prop where
  outline_eq : later.outline = graph.outline
  node?_eq : ∀ id, id < bound → later.node? id = graph.node? id

namespace Keeps

variable {bound : Nat} {graph next later : SceneGraph α}

theorem refl (bound : Nat) (graph : SceneGraph α) : Keeps bound graph graph :=
  ⟨rfl, fun _ _ => rfl⟩

theorem trans (first : Keeps bound graph next) (second : Keeps bound next later) :
    Keeps bound graph later where
  outline_eq := second.outline_eq.trans first.outline_eq
  node?_eq id before := (second.node?_eq id before).trans (first.node?_eq id before)

/-- What is kept from a place on is kept from an earlier one on. -/
theorem mono {least : Nat} (kept : Keeps bound graph later) (smaller : least ≤ bound) :
    Keeps least graph later where
  outline_eq := kept.outline_eq
  node?_eq id before := kept.node?_eq id (by omega)

theorem size_eq (kept : Keeps bound graph later) : later.size = graph.size := by
  rw [← length_outline, kept.outline_eq, length_outline]

/-- A graph stays well formed if its outline is kept. -/
theorem wellFormed (kept : Keeps bound graph later) (sound : WellFormed graph.outline) :
    WellFormed later.outline := by
  rw [kept.outline_eq]
  exact sound

end Keeps

/-- An update changes the node at its place only. -/
theorem node?_update (graph : SceneGraph α) (id place : Nat)
    (change : SceneNode α → SceneNode α) :
    (graph.update id change).node? place =
      (graph.node? place).map fun node => if id = place then change node else node := by
  simp only [node?, update, Array.getElem?_modify]
  by_cases same : id = place <;> simp [same]

theorem node?_update_self {graph : SceneGraph α} {id : Nat} {node : SceneNode α}
    (found : graph.node? id = some node) (change : SceneNode α → SceneNode α) :
    (graph.update id change).node? id = some (change node) := by
  rw [node?_update, found, Option.map_some, if_pos rfl]

/-- Scenes with the same nodes are the same. -/
theorem ext_node? {graph later : SceneGraph α} (same : ∀ id, later.node? id = graph.node? id) :
    later = graph := by
  obtain ⟨nodes⟩ := graph
  obtain ⟨others⟩ := later
  congr 1
  exact Array.ext_getElem? same

theorem node?_update_of_ne {graph : SceneGraph α} {id place : Nat} (different : id ≠ place)
    (change : SceneNode α → SceneNode α) :
    (graph.update id change).node? place = graph.node? place := by
  rw [node?_update]
  simp [different]

@[simp] theorem size_update (graph : SceneGraph α) (id : Nat)
    (change : SceneNode α → SceneNode α) : (graph.update id change).size = graph.size := by
  simp [size, update]

/-- A change of settings of the node at or behind the bound. -/
theorem keeps_update {bound id : Nat} {graph : SceneGraph α}
    {change : SceneNode α → SceneNode α} (behind : bound ≤ id)
    (kept : ∀ node, graph.node? id = some node → (change node).outline = node.outline) :
    Keeps bound graph (graph.update id change) where
  outline_eq := by
    apply List.ext_getElem?
    intro place
    rw [getElem?_outline, getElem?_outline, node?_update]
    cases found : graph.node? place with
    | none => rfl
    | some node =>
        by_cases same : id = place
        · subst same
          simp [kept node found]
        · simp [same]
  node?_eq place before := by
    have different : id ≠ place := by omega
    rw [node?_update]
    simp [different]

/-- The nodes are moved and resized only. -/
structure Moves (bound : Nat) (graph later : SceneGraph α) : Prop
    extends Keeps bound graph later where
  kind_eq : ∀ id, (later.node? id).map (·.kind) = (graph.node? id).map (·.kind)

namespace Moves

variable {bound : Nat} {graph next later : SceneGraph α}

theorem refl (bound : Nat) (graph : SceneGraph α) : Moves bound graph graph :=
  ⟨.refl bound graph, fun _ => rfl⟩

theorem trans (first : Moves bound graph next) (second : Moves bound next later) :
    Moves bound graph later :=
  ⟨first.toKeeps.trans second.toKeeps, fun id => (second.kind_eq id).trans (first.kind_eq id)⟩

/-- Everything but its place and its size is found again at a node. -/
theorem map_nature_eq (moved : Moves bound graph later) (id : Nat) :
    (later.node? id).map SceneNode.nature = (graph.node? id).map SceneNode.nature := by
  have outlines := congrArg (·[id]?) moved.outline_eq
  have kinds := moved.kind_eq id
  simp only [getElem?_outline] at outlines
  cases found : graph.node? id <;> cases later : later.node? id <;>
    simp_all [SceneNode.nature]

end Moves

/-- A node is moved or resized at or behind the bound. -/
theorem moves_update {bound id : Nat} {graph : SceneGraph α}
    {change : SceneNode α → SceneNode α} (behind : bound ≤ id)
    (kept : ∀ node, graph.node? id = some node → (change node).nature = node.nature) :
    Moves bound graph (graph.update id change) where
  toKeeps := keeps_update behind fun node found => congrArg Prod.fst (kept node found)
  kind_eq place := by
    rw [node?_update]
    cases found : graph.node? place with
    | none => rfl
    | some node =>
        by_cases same : id = place
        · subst same
          have sameKind : (change node).kind = node.kind := congrArg Prod.snd (kept node found)
          simp [sameKind]
        · simp [same]

/-- The node does not stand before `bound` and is one of the graph, apart from its place and its size. -/
def Fits (bound : Nat) (graph : SceneGraph α) (node : SceneNode α) : Prop :=
  bound ≤ node.id ∧ (graph.node? node.id).map SceneNode.nature = some node.nature

/-- A node fits its own graph. -/
theorem fits_of_node? {graph : SceneGraph α} (sound : WellFormed graph.outline) {id : Nat}
    {node : SceneNode α} (found : graph.node? id = some node) : graph.Fits id node := by
  rw [Fits, id_eq_of_node? sound found, found]
  exact ⟨Nat.le_refl id, rfl⟩

/-- The children of a node stand behind it. -/
theorem fits_of_mem_childNodes {graph : SceneGraph α} (sound : WellFormed graph.outline) {id : Nat}
    {node : SceneNode α} (member : node ∈ graph.childNodes id) : graph.Fits (id + 1) node := by
  obtain ⟨child, isChild, found⟩ := List.mem_filterMap.mp member
  have behind := lt_of_mem_children sound isChild
  obtain ⟨-, fits⟩ := fits_of_node? sound found
  rw [← id_eq_of_node? sound found] at behind
  exact ⟨behind, fits⟩

theorem Fits.of_nature_eq {bound : Nat} {graph : SceneGraph α} {node other : SceneNode α}
    (fits : graph.Fits bound node) (same : other.nature = node.nature) :
    graph.Fits bound other := by
  have sameId : other.id = node.id := congrArg (fun nature => nature.1.id) same
  rw [Fits, sameId, same]
  exact fits

theorem Fits.mono {bound least : Nat} {graph : SceneGraph α} {node : SceneNode α}
    (fits : graph.Fits bound node) (smaller : least ≤ bound) : graph.Fits least node :=
  ⟨Nat.le_trans smaller fits.1, fits.2⟩

/-- Putting back a node that fits moves it at most. -/
theorem moves_put {bound : Nat} {graph : SceneGraph α} {node : SceneNode α}
    (fits : graph.Fits bound node) : Moves bound graph (graph.put node) := by
  apply moves_update fits.1
  intro old found
  have same := fits.2
  rw [found] at same
  exact (Option.some.inj same).symm

/-- Putting back nodes that fit moves them at most. -/
theorem moves_putAll {bound : Nat} {nodes : List (SceneNode α)} (graph : SceneGraph α)
    (fit : ∀ node ∈ nodes, graph.Fits bound node) : Moves bound graph (graph.putAll nodes) := by
  rw [putAll]
  induction nodes generalizing graph with
  | nil => exact .refl bound graph
  | cons node more ih =>
      have first := moves_put (fit node List.mem_cons_self)
      refine first.trans (ih _ fun other member => ?_)
      rw [Fits, first.map_nature_eq]
      exact fit other (List.mem_cons_of_mem _ member)

/-- Nodes with the natures of nodes that fit do fit as well. -/
theorem fits_of_map_nature_eq {bound : Nat} {graph : SceneGraph α}
    {nodes others : List (SceneNode α)} (fit : ∀ node ∈ nodes, graph.Fits bound node)
    (same : others.map SceneNode.nature = nodes.map SceneNode.nature) :
    ∀ other ∈ others, graph.Fits bound other := by
  intro other member
  have listed := List.mem_map_of_mem (f := SceneNode.nature) member
  rw [same] at listed
  obtain ⟨node, isNode, sameNature⟩ := List.mem_map.mp listed
  exact (fit node isNode).of_nature_eq sameNature.symm

section Adding

variable [Scalar α] {graph : SceneGraph α} {parent : Option Nat}

/-- A new node changes no earlier one but its parent. -/
theorem node?_add (hostId : Option String) (name : String) (kind : NodeKind α) (width height : α)
    {id : Nat} (before : id < graph.size) :
    (graph.add parent hostId name kind width height).node? id =
      (graph.node? id).map fun node =>
        if parent = some id then node.addChildren [graph.size] else node := by
  have pushed (fresh : SceneNode α) :
      (⟨graph.nodes.push fresh⟩ : SceneGraph α).node? id = graph.node? id := by
    have different : id ≠ graph.nodes.size := Nat.ne_of_lt before
    simp [node?, Array.getElem?_push, different]
  cases parent with
  | none => simp [add, pushed]
  | some place =>
      simp only [add, node?_update, pushed, Option.some.injEq]
      rfl

theorem size_add (graph : SceneGraph α) (parent : Option Nat) (hostId : Option String)
    (name : String) (kind : NodeKind α) (width height : α) :
    (graph.add parent hostId name kind width height).size = graph.size + 1 := by
  cases parent <;> simp [add, size, update]

/-- The new node stands behind the others. -/
theorem node?_add_self (held : HasParent graph.outline parent) (hostId : Option String)
    (name : String) (kind : NodeKind α) (width height : α) :
    (graph.add parent hostId name kind width height).node? graph.size =
      some (newNode graph.size parent hostId name kind width height) := by
  have pushed (fresh : SceneNode α) :
      (⟨graph.nodes.push fresh⟩ : SceneGraph α).node? graph.size = some fresh := by
    simp [node?, size]
  cases parent with
  | none => exact pushed _
  | some place =>
      have different : place ≠ graph.size := by
        have within := held place rfl
        rw [length_outline] at within
        omega
      rw [add, node?_update, pushed]
      simp [different]

/-- A node that is added extends the outline. -/
theorem outline_add (held : HasParent graph.outline parent) (hostId : Option String)
    (name : String) (kind : NodeKind α) (width height : α) :
    (graph.add parent hostId name kind width height).outline =
      extend parent kind.form graph.outline := by
  have pushed : (⟨graph.nodes.push (newNode graph.size parent hostId name kind width height)⟩ :
      SceneGraph α).outline = graph.outline ++ [⟨graph.size, parent, [], kind.form⟩] := by
    simp [outline, newNode, SceneNode.outline]
  rw [extend, ← adopt_append held, length_outline, ← pushed]
  cases parent with
  | none => rfl
  | some place =>
      apply List.ext_getElem?
      intro index
      rw [getElem?_adopt, getElem?_outline, getElem?_outline, add, node?_update, Option.map_map,
        Option.map_map]
      by_cases same : place = index
      · simp [same, Function.comp_def, SceneNode.outline, addChild, NodeOutline.addChildren]
      · simp [same, Function.comp_def]

end Adding

end SceneGraph

end DesignScene
