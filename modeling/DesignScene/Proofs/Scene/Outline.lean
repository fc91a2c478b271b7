/-
This file follows which nodes a scene has and how they hang together.
-/
import DesignScene.Scene.Graph

namespace DesignScene

/-- What kind of node it is, apart from its settings. -/
inductive NodeForm where
  | frame
  | text
  | rectangle
  | ellipse
  | image
  | component
  | vector
  | placeholder (source : String)
deriving DecidableEq

def NodeForm.source? : NodeForm → Option String
  | placeholder source => some source
  | _ => none

def NodeKind.form {α : Type} : NodeKind α → NodeForm
  | .frame _ => .frame
  | .text _ => .text
  | .rectangle _ => .rectangle
  | .ellipse _ => .ellipse
  | .image _ => .image
  | .instance _ => .component
  | .vector => .vector
  | .placeholder props => .placeholder props.source

/-- The place of a node among the others, and its kind. -/
structure NodeOutline where
  id : Nat
  parent : Option Nat
  children : List Nat
  form : NodeForm

def SceneNode.outline {α : Type} (node : SceneNode α) : NodeOutline :=
  ⟨node.id, node.parent, node.children, node.kind.form⟩

/-- What is left of a node that is moved and resized. -/
def SceneNode.nature {α : Type} (node : SceneNode α) : NodeOutline × NodeKind α :=
  (node.outline, node.kind)

def NodeOutline.addChildren (children : List Nat) (outline : NodeOutline) : NodeOutline :=
  { outline with children := outline.children ++ children }

namespace Outlines

/-- The parent, if there is one, is among the nodes. -/
def HasParent (outlines : List NodeOutline) (parent : Option Nat) : Prop :=
  ∀ place, parent = some place → place < outlines.length

/-- The parent takes further children behind its others. -/
def adopt (parent : Option Nat) (children : List Nat) (outlines : List NodeOutline) :
    List NodeOutline :=
  parent.elim outlines fun place => outlines.modify place (NodeOutline.addChildren children)

/-- A new node without children stands behind the others and is the last child of its parent. -/
def extend (parent : Option Nat) (form : NodeForm) (outlines : List NodeOutline) :
    List NodeOutline :=
  adopt parent [outlines.length] outlines ++ [⟨outlines.length, parent, [], form⟩]

/-- Every node names its own place, stands behind its parent, and lists the nodes that name it as theirs. -/
structure WellFormed (outlines : List NodeOutline) : Prop where
  id_eq : ∀ {place : Nat} {outline : NodeOutline}, outlines[place]? = some outline →
    outline.id = place
  parent_lt : ∀ {place above : Nat} {outline : NodeOutline}, outlines[place]? = some outline →
    outline.parent = some above → above < place
  mem_children_iff : ∀ {place child : Nat} {outline : NodeOutline},
    outlines[place]? = some outline → (child ∈ outline.children ↔
      ∃ inside : NodeOutline, outlines[child]? = some inside ∧ inside.parent = some place)
  children_ordered : ∀ {place : Nat} {outline : NodeOutline}, outlines[place]? = some outline →
    outline.children.Pairwise (· < ·)

section Adopting

variable {parent : Option Nat} {children : List Nat} {outlines : List NodeOutline}

@[simp] theorem length_adopt : (adopt parent children outlines).length = outlines.length := by
  cases parent <;> simp [adopt]

/-- Only the parent changes. -/
theorem getElem?_adopt (place : Nat) :
    (adopt parent children outlines)[place]? = outlines[place]?.map fun outline =>
      if parent = some place then outline.addChildren children else outline := by
  cases parent with
  | none => simp [adopt]
  | some above => simp [adopt, List.getElem?_modify]

@[simp] theorem adopt_nil : adopt parent [] outlines = outlines := by
  apply List.ext_getElem?
  intro place
  simp [getElem?_adopt, NodeOutline.addChildren]

/-- Children that come one after the other can come together. -/
theorem adopt_adopt (more : List Nat) :
    adopt parent more (adopt parent children outlines) =
      adopt parent (children ++ more) outlines := by
  apply List.ext_getElem?
  intro place
  simp only [getElem?_adopt, Option.map_map]
  by_cases same : parent = some place
  · simp [same, Function.comp_def, NodeOutline.addChildren]
  · simp [same, Function.comp_def]

/-- A parent that stands in front takes children whatever stands behind. -/
theorem adopt_append (held : HasParent outlines parent) (behind : List NodeOutline) :
    adopt parent children (outlines ++ behind) = adopt parent children outlines ++ behind := by
  apply List.ext_getElem?
  intro place
  simp only [getElem?_adopt, List.getElem?_append, length_adopt]
  by_cases inFront : place < outlines.length
  · simp [inFront]
  · have different : parent ≠ some place := fun same => inFront (held place same)
    simp [inFront, different]

/-- The node behind the others takes children. -/
theorem adopt_last {last : Nat} (behind : outlines.length = last) (outline : NodeOutline) :
    adopt (some last) children (outlines ++ [outline]) =
      outlines ++ [outline.addChildren children] := by
  subst behind
  apply List.ext_getElem?
  intro place
  simp only [getElem?_adopt, List.getElem?_append]
  by_cases inFront : place < outlines.length
  · have different : outlines.length ≠ place := by omega
    simp [inFront, different]
  · by_cases same : outlines.length = place
    · simp [← same]
    · have beyond : place - outlines.length ≠ 0 := by omega
      simp [inFront, beyond]

@[simp] theorem length_extend (form : NodeForm) :
    (extend parent form outlines).length = outlines.length + 1 := by simp [extend]

/-- What stands at a place after a node was added. -/
theorem getElem?_extend {form : NodeForm} {place : Nat} {outline : NodeOutline} :
    (extend parent form outlines)[place]? = some outline ↔
      (∃ old, outlines[place]? = some old ∧
        outline = if parent = some place then old.addChildren [outlines.length] else old) ∨
      place = outlines.length ∧ outline = ⟨outlines.length, parent, [], form⟩ := by
  rw [extend, List.getElem?_append, length_adopt]
  by_cases inFront : place < outlines.length
  · have different : place ≠ outlines.length := by omega
    rw [if_pos inFront, getElem?_adopt]
    simp only [Option.map_eq_some_iff, different, false_and, or_false, eq_comm (a := outline)]
  · by_cases same : place = outlines.length
    · subst same
      simp [eq_comm]
    · have beyond : place - outlines.length ≠ 0 := by omega
      simp [inFront, same, beyond]

end Adopting

namespace WellFormed

theorem nil : WellFormed [] := ⟨nofun, nofun, nofun, nofun⟩

variable {parent : Option Nat} {outlines : List NodeOutline}

/-- A child stands behind its parent. -/
theorem lt_of_mem_children (sound : WellFormed outlines) {place child : Nat}
    {outline : NodeOutline} (found : outlines[place]? = some outline)
    (member : child ∈ outline.children) : place < child := by
  obtain ⟨inside, atChild, above⟩ := (sound.mem_children_iff found).mp member
  exact sound.parent_lt atChild above

/-- Every child that is listed is there. -/
theorem child_lt_length (sound : WellFormed outlines) {place child : Nat}
    {outline : NodeOutline} (found : outlines[place]? = some outline)
    (member : child ∈ outline.children) : child < outlines.length := by
  obtain ⟨inside, atChild, -⟩ := (sound.mem_children_iff found).mp member
  exact (List.getElem?_eq_some_iff.mp atChild).1

/-- The nodes that name a parent are those that named it before, and perhaps the new one. -/
theorem exists_child_extend {form : NodeForm} {place child : Nat} :
    (∃ inside : NodeOutline, (Outlines.extend parent form outlines)[child]? = some inside ∧
        inside.parent = some place) ↔
      (∃ inside : NodeOutline, outlines[child]? = some inside ∧ inside.parent = some place) ∨
        child = outlines.length ∧ parent = some place := by
  constructor
  · rintro ⟨inside, found, above⟩
    rcases getElem?_extend.mp found with ⟨old, atChild, rfl⟩ | ⟨last, rfl⟩
    · refine .inl ⟨old, atChild, ?_⟩
      split at above <;> exact above
    · exact .inr ⟨last, above⟩
  · rintro (⟨inside, atChild, above⟩ | ⟨last, above⟩)
    · refine ⟨_, getElem?_extend.mpr (.inl ⟨inside, atChild, rfl⟩), ?_⟩
      split <;> exact above
    · exact ⟨_, getElem?_extend.mpr (.inr ⟨last, rfl⟩), above⟩

/-- A new node below a node that is there breaks nothing. -/
theorem extend (sound : WellFormed outlines) (held : HasParent outlines parent)
    (form : NodeForm) : WellFormed (Outlines.extend parent form outlines) where
  id_eq found := by
    rcases getElem?_extend.mp found with ⟨old, atPlace, rfl⟩ | ⟨last, rfl⟩
    · have named := sound.id_eq atPlace
      split <;> exact named
    · exact last.symm
  parent_lt found above := by
    rcases getElem?_extend.mp found with ⟨old, atPlace, rfl⟩ | ⟨last, rfl⟩
    · refine sound.parent_lt atPlace ?_
      split at above <;> exact above
    · rw [last]
      exact held _ above
  mem_children_iff {place child} outline found := by
    rw [exists_child_extend]
    rcases getElem?_extend.mp found with ⟨old, atPlace, rfl⟩ | ⟨last, rfl⟩
    · rw [← sound.mem_children_iff atPlace]
      by_cases adopts : parent = some place <;> simp [adopts, NodeOutline.addChildren]
    · have noChild : ¬∃ inside : NodeOutline, outlines[child]? = some inside ∧
          inside.parent = some place := by
        rintro ⟨inside, atChild, above⟩
        have after := sound.parent_lt atChild above
        have within := (List.getElem?_eq_some_iff.mp atChild).1
        omega
      have notParent : parent ≠ some place := by
        intro same
        have within := held place same
        omega
      simp [noChild, notParent]
  children_ordered {place} outline found := by
    rcases getElem?_extend.mp found with ⟨old, atPlace, rfl⟩ | ⟨last, rfl⟩
    · have ordered := sound.children_ordered atPlace
      by_cases adopts : parent = some place
      · simp only [adopts, if_true, NodeOutline.addChildren, List.pairwise_append]
        refine ⟨ordered, List.pairwise_singleton _ _, fun child member other last => ?_⟩
        rw [List.mem_singleton.mp last]
        exact sound.child_lt_length atPlace member
      · simpa only [adopts, if_false] using ordered
    · exact List.Pairwise.nil

end WellFormed

end Outlines

namespace SceneGraph

open Outlines

variable {α : Type}

def outline (graph : SceneGraph α) : List NodeOutline := graph.nodes.toList.map SceneNode.outline

@[simp] theorem length_outline (graph : SceneGraph α) : graph.outline.length = graph.size := by
  simp [outline, size]

/-- At each place stands the outline of the node. -/
theorem getElem?_outline (graph : SceneGraph α) (id : Nat) :
    graph.outline[id]? = (graph.node? id).map SceneNode.outline := by
  simp [outline, node?]

theorem outline_of_node? {graph : SceneGraph α} {id : Nat} {node : SceneNode α}
    (found : graph.node? id = some node) : graph.outline[id]? = some node.outline := by
  rw [getElem?_outline, found, Option.map_some]

/-- A node that is there names its own place. -/
theorem id_eq_of_node? {graph : SceneGraph α} (sound : WellFormed graph.outline) {id : Nat}
    {node : SceneNode α} (found : graph.node? id = some node) : node.id = id :=
  sound.id_eq (outline_of_node? found)

/-- A child of a node stands behind it. -/
theorem lt_of_mem_children {graph : SceneGraph α} (sound : WellFormed graph.outline)
    {id child : Nat} (member : child ∈ graph.children id) : id < child := by
  rw [children] at member
  cases found : graph.node? id with
  | none => simp [found] at member
  | some node =>
      rw [found] at member
      exact sound.lt_of_mem_children (outline_of_node? found) member

end SceneGraph

end DesignScene
