/-
This file holds the nodes of a scene in the order in which they are made.
-/
import DesignScene.Scene.Node

namespace DesignScene

/-- The identifier of a node is its place in the array. -/
structure SceneGraph (α : Type) where
  nodes : Array (SceneNode α) := #[]

namespace SceneGraph

variable {α : Type}

def size (graph : SceneGraph α) : Nat := graph.nodes.size

def node? (graph : SceneGraph α) (id : Nat) : Option (SceneNode α) := graph.nodes[id]?

/-- A node that is not there stays away. -/
def update (graph : SceneGraph α) (id : Nat) (change : SceneNode α → SceneNode α) :
    SceneGraph α :=
  ⟨graph.nodes.modify id change⟩

/-- The node is written to the place that it names. -/
def put (graph : SceneGraph α) (node : SceneNode α) : SceneGraph α :=
  graph.update node.id fun _ => node

def putAll (graph : SceneGraph α) (nodes : List (SceneNode α)) : SceneGraph α :=
  nodes.foldl put graph

/-- The host identifier of a node that the host does not know yet. -/
def generatedHostId (id : Nat) : String := "gen:" ++ toString id

section Adding

variable [Scalar α]

def newNode (id : Nat) (parent : Option Nat) (hostId : Option String) (name : String)
    (kind : NodeKind α) (width height : α) : SceneNode α where
  id := id
  hostId := hostId.getD (generatedHostId id)
  name := name
  parent := parent
  children := []
  visible := true
  x := Scalar.ofNat 0
  y := Scalar.ofNat 0
  width := width
  height := height
  fixedWidth := false
  layout := ChildLayout.plain
  constraints := {}
  mediaRef := none
  kind := kind

def addChild (child : Nat) (node : SceneNode α) : SceneNode α :=
  { node with children := node.children ++ [child] }

/-- The graph with a new last node, which is also the last child of its parent. -/
def add (graph : SceneGraph α) (parent : Option Nat) (hostId : Option String) (name : String)
    (kind : NodeKind α) (width height : α) : SceneGraph α :=
  let id := graph.size
  let grown : SceneGraph α := ⟨graph.nodes.push (newNode id parent hostId name kind width height)⟩
  match parent with
  | none => grown
  | some place => grown.update place (addChild id)

end Adding

def children (graph : SceneGraph α) (id : Nat) : List Nat :=
  (graph.node? id).elim [] (·.children)

def childNodes (graph : SceneGraph α) (id : Nat) : List (SceneNode α) :=
  (graph.children id).filterMap graph.node?

def roots (graph : SceneGraph α) : List Nat :=
  (graph.nodes.toList.filter (·.parent.isNone)).map (·.id)

/-- This function visits the nodes of a stack, each one before its children. -/
def visit (graph : SceneGraph α) : Nat → List Nat → List Nat
  | 0, _ => []
  | _, [] => []
  | steps + 1, next :: stack => next :: visit graph steps (graph.children next ++ stack)

/-- The nodes below a node, each one before the nodes below it. -/
def descendants (graph : SceneGraph α) (id : Nat) : List Nat :=
  graph.visit graph.size (graph.children id)

def descendantNodes (graph : SceneGraph α) (id : Nat) : List (SceneNode α) :=
  (graph.descendants id).filterMap graph.node?

def findByHostId (graph : SceneGraph α) (hostId : String) : Option Nat :=
  (graph.nodes.toList.find? fun node => node.hostId == hostId).map (·.id)

def findByName (graph : SceneGraph α) (name : String) : List Nat :=
  (graph.nodes.toList.filter fun node => node.name == name).map (·.id)

end SceneGraph

end DesignScene
