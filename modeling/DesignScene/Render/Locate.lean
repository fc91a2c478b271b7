/-
This file finds the nodes of an instance that a slot or a key means.
-/
import DesignScene.Matching.Basic
import DesignScene.Property.Resolved
import DesignScene.Scene.Graph

namespace DesignScene.SceneGraph

variable {α : Type}

/-- The first node below an instance for which a test holds. -/
def findBelow (graph : SceneGraph α) (instanceId : Nat) (holds : SceneNode α → Bool) :
    Option Nat :=
  ((graph.descendantNodes instanceId).find? holds).map (·.id)

def hasHostSuffix (nodeId : String) (node : SceneNode α) : Bool :=
  nodeId != "" && Text.endsWith node.hostId (";" ++ nodeId)

def hasHostPart (nodeId : String) (node : SceneNode α) : Bool :=
  nodeId != "" && Text.contains node.hostId nodeId

def hasName (name : String) (node : SceneNode α) : Bool :=
  Text.normalizeKey node.name == Text.normalizeKey name

/-- A node is found by its identifier, by the end of it, by a part of it, and by its name. -/
def locate (graph : SceneGraph α) (instanceId : Nat) (nodeId name : String) : Option Nat :=
  (((graph.findBelow instanceId fun node => node.hostId == nodeId).or
        (graph.findBelow instanceId (hasHostSuffix nodeId))).or
      (graph.findBelow instanceId (hasHostPart nodeId))).or
    (graph.findBelow instanceId (hasName name))

def locateSlot (graph : SceneGraph α) (instanceId : Nat) (slot : SlotRef) : Option Nat :=
  graph.locate instanceId slot.nodeId slot.slotName

/-- The text nodes of a slot: its own node and all nodes that have its name. -/
def slotTexts (graph : SceneGraph α) (instanceId : Nat) (slot : SlotRef) : List Nat :=
  let first := graph.locateSlot instanceId slot
  ((graph.descendantNodes instanceId).filter fun node =>
    node.isText && (some node.id == first || hasName slot.slotName node)).map (·.id)

def lowerName (node : SceneNode α) : String := Text.lower node.name

def hasHostIdOrSuffix (key : String) (node : SceneNode α) : Bool :=
  node.hostId == key || Text.endsWith node.hostId (";" ++ key)

/-- The first nested instance for which a test holds. -/
def findNested (nested : List (SceneNode α)) (holds : SceneNode α → Bool) : Option Nat :=
  (nested.find? holds).map (·.id)

/-- The name contains the key or is contained in it, and it is not empty. -/
def nameNear (key : String) (node : SceneNode α) : Bool :=
  let name := Text.normalizeKey node.name
  name != "" && (Text.contains name key || Text.contains key name)

/-- Words for a place count before the name, and any icon will do in the end. -/
def iconByName (key : String) (nested : List (SceneNode α)) : Option Nat :=
  let lowered := Text.lower key
  if asksLeading lowered then
    (findNested nested fun node => Text.containsAny (lowerName node) leadingWords).or
      (nested.head?.map (·.id))
  else if asksTrailing lowered then
    (findNested nested fun node => Text.containsAny (lowerName node) trailingWords).or
      (nested.getLast?.map (·.id))
  else
    (findNested nested (nameNear (Text.normalizeKey key))).or
      (findNested nested fun node => Text.contains (lowerName node) "icon")

/-- The nested instance that an icon key means. -/
def iconTarget (graph : SceneGraph α) (instanceId : Nat) (key : String) : Option Nat :=
  let nested := (graph.descendantNodes instanceId).filter (·.isInstance)
  if nested.isEmpty then none
  else (findNested nested (hasHostIdOrSuffix key)).or (iconByName key nested)

end DesignScene.SceneGraph
