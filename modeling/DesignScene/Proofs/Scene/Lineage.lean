/-
This file shows that the width for the content of a frame comes from the nearest node with a fixed width
on the way to the root, less the paddings of all frames on that way.
-/
import DesignScene.Proofs.Render.Forest
import DesignScene.Scene.Width

namespace DesignScene.SceneGraph

open Outlines

variable {α : Type} {graph : SceneGraph α} {id : Nat} {path below : List (SceneNode α)}
  {first node : SceneNode α}

/-- The nodes on the way from a place to a root, both included. -/
inductive IsLineage (graph : SceneGraph α) : Nat → List (SceneNode α) → Prop where
  | root {id : Nat} {node : SceneNode α} (found : graph.node? id = some node)
      (isRoot : node.parent = none) : IsLineage graph id [node]
  | child {id above : Nat} {node : SceneNode α} {path : List (SceneNode α)}
      (found : graph.node? id = some node) (isParent : node.parent = some above)
      (further : IsLineage graph above path) : IsLineage graph id (node :: path)

/-- In a forest the way up from a node ends, because every parent stands in front of its children. -/
theorem IsForest.exists_isLineage (forest : graph.IsForest) (within : id < graph.size) :
    ∃ path, graph.IsLineage id path ∧ path.length ≤ id + 1 := by
  induction id using Nat.strongRecOn with
  | ind id ih =>
      have found : graph.node? id = some graph.nodes[id] := Array.getElem?_eq_getElem within
      cases isParent : graph.nodes[id].parent with
      | none => exact ⟨_, .root found isParent, Nat.succ_le_succ (Nat.zero_le id)⟩
      | some above =>
          have before := forest.parent_lt found isParent
          obtain ⟨path, further, short⟩ := ih above before (Nat.lt_trans before within)
          exact ⟨_, .child found isParent further, Nat.succ_le_succ (Nat.le_trans short before)⟩

/-- The node on the path has a fixed width, and all nodes in front of it fill their parents. -/
structure Constrains (path below : List (SceneNode α)) (node : SceneNode α) : Prop where
  onPath : below ++ [node] <+: path
  isFixed : node.fixedWidth = true
  fills : ∀ other ∈ below, other.layout.fillsWidth = true

/-- No other node that constrains the width comes earlier on the path. -/
structure IsNearest (path below : List (SceneNode α)) (node : SceneNode α) : Prop extends
    Constrains path below node where
  le_length : ∀ others other, Constrains path others other → below.length ≤ others.length

/-- A node further up constrains the width if the first one fills its parent. -/
theorem constrains_cons_cons {other : SceneNode α} :
    Constrains (first :: path) (other :: below) node ↔
      other = first ∧ first.layout.fillsWidth = true ∧ Constrains path below node := by
  constructor
  · rintro ⟨onPath, isFixed, fills⟩
    obtain ⟨same, further⟩ := List.cons_prefix_cons.mp onPath
    obtain ⟨firstFills, fills⟩ := List.forall_mem_cons.mp fills
    exact ⟨same, same ▸ firstFills, further, isFixed, fills⟩
  · rintro ⟨rfl, firstFills, onPath, isFixed, fills⟩
    exact ⟨List.cons_prefix_cons.mpr ⟨rfl, onPath⟩, isFixed, List.forall_mem_cons.mpr ⟨firstFills, fills⟩⟩

/-- The first node constrains the width if its own is fixed. -/
theorem constrains_cons_nil :
    Constrains (first :: path) [] node ↔ node = first ∧ first.fixedWidth = true := by
  constructor
  · rintro ⟨onPath, isFixed, -⟩
    obtain ⟨rfl, -⟩ := List.cons_prefix_cons.mp onPath
    exact ⟨rfl, isFixed⟩
  · rintro ⟨rfl, isFixed⟩
    exact ⟨List.cons_prefix_cons.mpr ⟨rfl, List.nil_prefix⟩, isFixed, fun _ member => nomatch member⟩

theorem not_constrains_nil : ¬Constrains [] below node :=
  fun constrains => by simpa using constrains.onPath.length_le

/-- A node with a fixed width is the nearest one to itself. -/
theorem isNearest_cons_of_fixed (isFixed : first.fixedWidth = true) :
    IsNearest (first :: path) below node ↔ below = [] ∧ node = first := by
  have constrains : Constrains (first :: path) [] first := constrains_cons_nil.mpr ⟨rfl, isFixed⟩
  constructor
  · intro nearest
    obtain rfl := List.length_eq_zero_iff.mp (Nat.le_zero.mp (nearest.le_length [] first constrains))
    exact ⟨rfl, (constrains_cons_nil.mp nearest.toConstrains).1⟩
  · rintro ⟨rfl, rfl⟩
    exact ⟨constrains, fun others _ _ => Nat.zero_le others.length⟩

/-- Where the first node has no fixed width, the width comes from the nodes above it or not at all. -/
theorem constrains_cons_of_not_fixed (notFixed : first.fixedWidth = false) :
    Constrains (first :: path) below node ↔
      first.layout.fillsWidth = true ∧ ∃ rest, below = first :: rest ∧ Constrains path rest node := by
  constructor
  · intro constrains
    cases below with
    | nil =>
        rw [(constrains_cons_nil.mp constrains).2] at notFixed
        cases notFixed
    | cons other rest =>
        obtain ⟨rfl, fills, constrains⟩ := constrains_cons_cons.mp constrains
        exact ⟨fills, rest, rfl, constrains⟩
  · rintro ⟨fills, rest, rfl, constrains⟩
    exact constrains_cons_cons.mpr ⟨rfl, fills, constrains⟩

/-- If the first node is not fixed, the nearest one is found further up, as long as it fills. -/
theorem isNearest_cons_of_not_fixed (notFixed : first.fixedWidth = false) :
    IsNearest (first :: path) below node ↔
      first.layout.fillsWidth = true ∧ ∃ rest, below = first :: rest ∧ IsNearest path rest node := by
  constructor
  · rintro ⟨constrains, le_length⟩
    obtain ⟨fills, rest, rfl, beyond⟩ := (constrains_cons_of_not_fixed notFixed).mp constrains
    refine ⟨fills, rest, rfl, beyond, fun others further also => ?_⟩
    have longer := le_length (first :: others) further
      ((constrains_cons_of_not_fixed notFixed).mpr ⟨fills, others, rfl, also⟩)
    exact Nat.le_of_succ_le_succ longer
  · rintro ⟨fills, rest, rfl, nearest⟩
    refine ⟨(constrains_cons_of_not_fixed notFixed).mpr ⟨fills, rest, rfl, nearest.toConstrains⟩,
      fun others further also => ?_⟩
    obtain ⟨-, others, rfl, beyond⟩ := (constrains_cons_of_not_fixed notFixed).mp also
    exact Nat.succ_le_succ (nearest.le_length others further beyond)

/-- If any node constrains the width, there is a nearest one. -/
theorem exists_isNearest_iff :
    (∃ below node, IsNearest path below node) ↔ ∃ below node, Constrains path below node := by
  refine ⟨fun ⟨below, node, nearest⟩ => ⟨below, node, nearest.toConstrains⟩, ?_⟩
  rintro ⟨below, node, constrains⟩
  induction path generalizing below with
  | nil => exact absurd constrains not_constrains_nil
  | cons first path ih =>
      cases isFixed : first.fixedWidth with
      | true => exact ⟨[], first, (isNearest_cons_of_fixed isFixed).mpr ⟨rfl, rfl⟩⟩
      | false =>
          obtain ⟨fills, rest, rfl, beyond⟩ := (constrains_cons_of_not_fixed isFixed).mp constrains
          obtain ⟨nearer, nearest, isNearest⟩ := ih rest beyond
          exact ⟨first :: nearer, nearest,
            (isNearest_cons_of_not_fixed isFixed).mpr ⟨fills, nearer, rfl, isNearest⟩⟩

variable [Scalar α]

/-- The horizontal paddings of the frames among these nodes, on top of what is there before. -/
def insetAlong (inset : α) (nodes : List (SceneNode α)) : α :=
  (nodes.filterMap insetOf).foldl (· + ·) inset

/-- Each step adds the padding of one node. -/
theorem insetAlong_cons (inset : α) (node : SceneNode α) (more : List (SceneNode α)) :
    insetAlong inset (node :: more) = insetAlong ((insetOf node).elim inset (inset + ·)) more := by
  cases isFrame : insetOf node with
  | none => rw [insetAlong, List.filterMap_cons_none isFrame, insetAlong, Option.elim_none]
  | some padding =>
      rw [insetAlong, List.filterMap_cons_some isFrame, insetAlong, List.foldl_cons, Option.elim_some]

theorem insetAlong_nil (inset : α) : insetAlong inset [] = inset := rfl

/-- The width is that of the nearest node that constrains it, less all paddings up to there. -/
structure IsWidthAlong (path : List (SceneNode α)) (inset : α) (result : Option (α × α)) : Prop where
  isSome_iff : result.isSome ↔ ∃ below node, Constrains path below node
  eq_some_iff : ∀ width available, result = some (width, available) ↔
    ∃ below node, IsNearest path below node ∧ width = node.width ∧
      available = Scalar.atLeastZero (node.width - insetAlong inset (below ++ [node]))

/-- A path has one width. -/
theorem IsWidthAlong.unique {inset : α} {result other : Option (α × α)}
    (isResult : IsWidthAlong path inset result) (isOther : IsWidthAlong path inset other) :
    result = other := by
  refine Option.ext fun ⟨width, available⟩ => ?_
  rw [isResult.eq_some_iff, isOther.eq_some_iff]

/-- It is enough to say which width is found, because a width is found where any node constrains it. -/
theorem isWidthAlong_of_eq_some_iff {inset : α} {result : Option (α × α)}
    (eq_some_iff : ∀ width available, result = some (width, available) ↔
      ∃ below node, IsNearest path below node ∧ width = node.width ∧
        available = Scalar.atLeastZero (node.width - insetAlong inset (below ++ [node]))) :
    IsWidthAlong path inset result := by
  refine ⟨?_, eq_some_iff⟩
  rw [← exists_isNearest_iff, Option.isSome_iff_exists]
  constructor
  · rintro ⟨⟨width, available⟩, found⟩
    obtain ⟨below, node, nearest, -⟩ := (eq_some_iff width available).mp found
    exact ⟨below, node, nearest⟩
  · rintro ⟨below, node, nearest⟩
    exact ⟨_, (eq_some_iff _ _).mpr ⟨below, node, nearest, rfl, rfl⟩⟩

/-- One step up: a node decides alone, or leaves the width to the nodes above it. -/
theorem IsWidthAlong.cons (first : SceneNode α) (inset : α) {result : Option (α × α)}
    (further : IsWidthAlong path ((insetOf first).elim inset (inset + ·)) result) :
    IsWidthAlong (first :: path) inset
      (if first.fixedWidth then
        some (first.width, Scalar.atLeastZero (first.width - (insetOf first).elim inset (inset + ·)))
      else if first.layout.fillsWidth then result else none) := by
  refine isWidthAlong_of_eq_some_iff fun width available => ?_
  cases isFixed : first.fixedWidth with
  | true =>
      simp only [isNearest_cons_of_fixed isFixed, if_true]
      constructor
      · intro same
        obtain ⟨rfl, rfl⟩ := Prod.mk.inj (Option.some.inj same)
        refine ⟨[], first, ⟨rfl, rfl⟩, rfl, ?_⟩
        rw [List.nil_append, insetAlong_cons, insetAlong_nil]
      · rintro ⟨_, _, ⟨rfl, rfl⟩, rfl, rfl⟩
        rw [List.nil_append, insetAlong_cons, insetAlong_nil]
  | false =>
      simp only [isNearest_cons_of_not_fixed isFixed, Bool.false_eq_true, if_false]
      cases fills : first.layout.fillsWidth with
      | false => simp
      | true =>
          rw [if_pos rfl, further.eq_some_iff]
          constructor
          · rintro ⟨rest, node, nearest, rfl, rfl⟩
            refine ⟨first :: rest, node, ⟨rfl, rest, rfl, nearest⟩, rfl, ?_⟩
            rw [List.cons_append, insetAlong_cons]
          · rintro ⟨_, node, ⟨-, rest, rfl, nearest⟩, rfl, rfl⟩
            refine ⟨rest, node, nearest, rfl, ?_⟩
            rw [List.cons_append, insetAlong_cons]

theorem isWidthAlong_nil (inset : α) : IsWidthAlong ([] : List (SceneNode α)) inset none :=
  isWidthAlong_of_eq_some_iff fun _ _ =>
    iff_of_false nofun fun ⟨_, _, nearest, _⟩ => not_constrains_nil nearest.toConstrains

/-- The climb needs no more steps than there are nodes on the way to the root. -/
theorem IsLineage.isWidthAlong (lineage : graph.IsLineage id path) {steps : Nat}
    (enough : path.length ≤ steps) (inset : α) :
    IsWidthAlong path inset (graph.effectiveWidthFrom steps inset id) := by
  induction lineage generalizing steps inset with
  | @root _ node found isRoot =>
      cases steps with
      | zero => cases enough
      | succ steps =>
          have step := (isWidthAlong_nil _).cons node inset
          simpa only [effectiveWidthFrom, found, isRoot, Option.bind_none] using step
  | @child _ _ node _ found isParent _ ih =>
      cases steps with
      | zero => cases enough
      | succ steps =>
          have step := (ih (Nat.le_of_succ_le_succ enough) _).cons node inset
          simpa only [effectiveWidthFrom, found, isParent, Option.bind_some] using step

/-- In a forest the climb from a node ends and gives the width of the nearest node that constrains it. -/
theorem isWidthAlong_effectiveWidth (forest : graph.IsForest) {parent : Nat}
    (within : parent < graph.size) :
    ∃ path, graph.IsLineage parent path ∧ path.length ≤ parent + 1 ∧
      (∀ steps, path.length ≤ steps →
        graph.effectiveWidthFrom steps (Scalar.ofNat 0) parent = graph.effectiveWidth parent) ∧
      IsWidthAlong path (Scalar.ofNat 0) (graph.effectiveWidth parent) := by
  obtain ⟨path, lineage, short⟩ := forest.exists_isLineage within
  have climbed := lineage.isWidthAlong short (Scalar.ofNat 0)
  exact ⟨path, lineage, short, fun steps enough => (lineage.isWidthAlong enough _).unique climbed, climbed⟩

/-- A page without a fixed width, a column that is 400 wide inside it, and a column that fills this one. -/
def columnsOnPage : List (Addition Rat) :=
  [⟨none, none, "Page", .frame { FrameProps.plain with padding := ⟨1, 1, 1, 1⟩ }, 900, 900⟩,
    ⟨some 0, none, "Outer", .frame { FrameProps.plain with padding := ⟨0, 20, 0, 10⟩ }, 400, 0⟩,
    ⟨some 1, none, "Inner", .frame { FrameProps.plain with padding := ⟨3, 5, 3, 5⟩ }, 0, 0⟩]

def filledColumns : SceneGraph Rat :=
  ((addAll columnsOnPage).update 1 fun node => { node with fixedWidth := true }).update 2
    fun node => { node with layout := { node.layout with fillsWidth := true } }

theorem isForest_filledColumns : filledColumns.IsForest := by
  have added : WellFormed (addAll columnsOnPage).outline := by
    refine wellFormed_addAll _ fun {index place addition} found isParent => ?_
    match index with
    | 0 => cases found; cases isParent
    | 1 => cases found; cases isParent; exact Nat.zero_lt_one
    | 2 => cases found; cases isParent; exact Nat.one_lt_two
  have fixed : Keeps 0 (addAll columnsOnPage) _ := keeps_update (Nat.zero_le 1) fun _ _ => rfl
  have filled : Keeps 0 _ filledColumns := keeps_update (Nat.zero_le 2) fun _ _ => rfl
  exact isForest_iff_wellFormed.mpr (filled.wellFormed (fixed.wellFormed added))

/-- The outer column gives the width, and its padding and that of the inner one are taken from it. -/
theorem inner_column_within_outer :
    filledColumns.IsForest ∧ 2 < filledColumns.size ∧
      filledColumns.effectiveWidth 2 = some (400, 360) ∧
      ∃ path below node, filledColumns.IsLineage 2 path ∧ IsNearest path below node ∧
        node.width = 400 ∧
        Scalar.atLeastZero (400 - insetAlong (Scalar.ofNat 0) (below ++ [node])) = 360 := by
  have within : 2 < filledColumns.size := by decide +kernel
  have isWidth : filledColumns.effectiveWidth 2 = some (400, 360) := by decide +kernel
  obtain ⟨path, lineage, -, -, widthAlong⟩ :=
    isWidthAlong_effectiveWidth isForest_filledColumns within
  obtain ⟨below, node, nearest, width_eq, available_eq⟩ := (widthAlong.eq_some_iff 400 360).mp isWidth
  rw [← width_eq] at available_eq
  exact ⟨isForest_filledColumns, within, isWidth, path, below, node, lineage, nearest, width_eq.symm,
    available_eq.symm⟩

end DesignScene.SceneGraph
