/-
This file plans a scene as a tree and says where the nodes of the tree come to stand.
-/
import DesignScene.Proofs.Scene.Outline

namespace DesignScene

/-- A tree of nodes of which only the kinds are known. -/
inductive Sketch where
  | node (form : NodeForm) (children : List Sketch)

namespace Sketch

mutual

def size : Sketch → Nat
  | node _ children => sizeAll children + 1

def sizeAll : List Sketch → Nat
  | [] => 0
  | first :: more => size first + sizeAll more

end

/-- Where the trees of a list begin, the first of which begins at `start`. -/
def starts (start : Nat) : List Sketch → List Nat
  | [] => []
  | first :: more => start :: starts (start + first.size) more

mutual

/-- The nodes of a tree that begins at `start`, each one before the nodes below it. -/
def outlines (parent : Option Nat) (start : Nat) : Sketch → List NodeOutline
  | node form children =>
      ⟨start, parent, starts (start + 1) children, form⟩ ::
        outlinesAll (some start) (start + 1) children

def outlinesAll (parent : Option Nat) (start : Nat) : List Sketch → List NodeOutline
  | [] => []
  | first :: more => outlines parent start first ++ outlinesAll parent (start + first.size) more

end

/-- The trees stand behind the nodes, and their roots are further children of the parent. -/
def grow (parent : Option Nat) (sketches : List Sketch) (before : List NodeOutline) :
    List NodeOutline :=
  Outlines.adopt parent (starts before.length sketches) before ++
    outlinesAll parent before.length sketches

/-- What the placeholders of the trees stand in for. -/
def sources (parent : Option Nat) (start : Nat) (sketches : List Sketch) : List String :=
  (outlinesAll parent start sketches).filterMap fun outline => outline.form.source?

mutual

/-- A sketch has as many outlines as nodes. -/
theorem length_outlines (parent : Option Nat) (start : Nat) : ∀ sketch : Sketch,
    (outlines parent start sketch).length = sketch.size
  | node _ children => by
      rw [outlines, size, List.length_cons, length_outlinesAll (some start) (start + 1) children]

theorem length_outlinesAll (parent : Option Nat) (start : Nat) : ∀ sketches : List Sketch,
    (outlinesAll parent start sketches).length = sizeAll sketches
  | [] => rfl
  | first :: more => by
      rw [outlinesAll, sizeAll, List.length_append, length_outlines parent start first,
        length_outlinesAll parent (start + first.size) more]

end

theorem starts_append (start : Nat) (sketches more : List Sketch) :
    starts start (sketches ++ more) =
      starts start sketches ++ starts (start + sizeAll sketches) more := by
  induction sketches generalizing start with
  | nil => simp [starts, sizeAll]
  | cons first rest ih => simp [starts, sizeAll, ih, Nat.add_assoc]

/-- Further sketches stand behind the others. -/
theorem outlinesAll_append (parent : Option Nat) (start : Nat) (sketches more : List Sketch) :
    outlinesAll parent start (sketches ++ more) =
      outlinesAll parent start sketches ++
        outlinesAll parent (start + sizeAll sketches) more := by
  induction sketches generalizing start with
  | nil => simp [outlinesAll, sizeAll]
  | cons first rest ih => simp [outlinesAll, sizeAll, ih, Nat.add_assoc]

mutual

/-- Every node of a tree hangs below the parent of the tree or below another node of the tree. -/
theorem parent_of_mem_outlines {parent start : Nat} : ∀ (sketch : Sketch) {outline : NodeOutline},
    outline ∈ outlines (some parent) start sketch →
      outline.parent = some parent ∨ ∃ above, outline.parent = some above ∧ start ≤ above
  | node _ children, outline, member => by
      rw [outlines] at member
      rcases List.mem_cons.mp member with rfl | below
      · exact .inl rfl
      · rcases parent_of_mem_outlinesAll children below with root | ⟨above, isAbove, behind⟩
        · exact .inr ⟨start, root, Nat.le_refl start⟩
        · exact .inr ⟨above, isAbove, by omega⟩

/-- A new node hangs below the parent or below another new node. -/
theorem parent_of_mem_outlinesAll {parent start : Nat} : ∀ (sketches : List Sketch)
    {outline : NodeOutline}, outline ∈ outlinesAll (some parent) start sketches →
      outline.parent = some parent ∨ ∃ above, outline.parent = some above ∧ start ≤ above
  | [], _, member => by cases member
  | first :: more, outline, member => by
      rw [outlinesAll] at member
      rcases List.mem_append.mp member with inFirst | later
      · exact parent_of_mem_outlines first inFirst
      · rcases parent_of_mem_outlinesAll more later with root | ⟨above, isAbove, behind⟩
        · exact .inl root
        · exact .inr ⟨above, isAbove, by omega⟩

end

section Growing

open Outlines

variable {parent : Option Nat} {before : List NodeOutline}

/-- Growing adds all nodes of the sketches. -/
@[simp] theorem length_grow (sketches : List Sketch) :
    (grow parent sketches before).length = before.length + sizeAll sketches := by
  simp [grow, length_outlinesAll]

theorem hasParent_grow (held : HasParent before parent) (sketches : List Sketch) :
    HasParent (grow parent sketches before) parent := by
  intro place same
  have within := held place same
  rw [length_grow]
  omega

@[simp] theorem grow_nil : grow parent [] before = before := by simp [grow, starts, outlinesAll]

/-- A tree without inner nodes is one new node. -/
theorem grow_leaf (form : NodeForm) :
    grow parent [node form []] before = extend parent form before := by
  simp [grow, starts, outlinesAll, outlines, extend]

/-- Trees that come one after the other can come together. -/
theorem grow_append (held : HasParent before parent) (sketches more : List Sketch) :
    grow parent more (grow parent sketches before) = grow parent (sketches ++ more) before := by
  rw [grow, length_grow]
  rw [grow, adopt_append, adopt_adopt, grow, starts_append, outlinesAll_append, List.append_assoc]
  intro place same
  rw [length_adopt]
  exact held place same

/-- A tree comes with its inner nodes, or these come after its root. -/
theorem grow_inside (form : NodeForm) (children : List Sketch) :
    grow (some before.length) children (grow parent [node form []] before) =
      grow parent [node form children] before := by
  rw [grow_leaf, grow, length_extend, extend, adopt_last length_adopt]
  simp [grow, starts, outlinesAll, outlines, NodeOutline.addChildren]

@[simp] theorem sources_nil (start : Nat) : sources parent start [] = [] := rfl

/-- The sources of a sketch are its own one and those of its children. -/
theorem sources_inside (start : Nat) (form : NodeForm) (children : List Sketch) :
    sources parent start [node form children] =
      form.source?.toList ++ sources (some start) (start + 1) children := by
  cases source : form.source? <;> simp [sources, outlinesAll, outlines, source]

theorem sources_append (start : Nat) (sketches more : List Sketch) :
    sources parent start (sketches ++ more) =
      sources parent start sketches ++ sources parent (start + sizeAll sketches) more := by
  rw [sources, outlinesAll_append, List.filterMap_append]
  rfl

end Growing

open Outlines

mutual

/-- A tree that grows from a well-formed outline leaves it so. -/
theorem wellFormed_grow_one {parent : Option Nat} {before : List NodeOutline}
    (sound : WellFormed before) (held : HasParent before parent) : ∀ sketch : Sketch,
    WellFormed (grow parent [sketch] before)
  | node form children => by
      rw [← grow_inside, grow_leaf]
      refine wellFormed_grow (sound.extend held form) (fun place same => ?_) children
      cases same
      rw [length_extend]
      omega

/-- Trees below a node that is there break nothing. -/
theorem wellFormed_grow {parent : Option Nat} {before : List NodeOutline}
    (sound : WellFormed before) (held : HasParent before parent) : ∀ sketches : List Sketch,
    WellFormed (grow parent sketches before)
  | [] => by
      rw [grow_nil]
      exact sound
  | first :: more => by
      have oneMore := wellFormed_grow (wellFormed_grow_one sound held first)
        (hasParent_grow held [first]) more
      rwa [grow_append held] at oneMore

end

end Sketch

end DesignScene
