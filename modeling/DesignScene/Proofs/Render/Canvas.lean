/-
This file says where the root frames of several layouts stand on the canvas.
-/
import DesignScene.Proofs.Render.Forest
import DesignScene.Proofs.Render.Stable
import DesignScene.Proofs.Scene.Bounds
import DesignScene.Proofs.Scene.Boxes
import Mathlib.Tactic.GCongr
import Mathlib.Tactic.Linarith

namespace DesignScene

open SceneGraph

namespace CanvasCursor

/-- The root stands at the cursor, and the next cursor stands behind the root with a gap between. -/
structure Places (cursor : CanvasCursor Rat) (gap : Rat) (root : SceneNode Rat)
    (next : CanvasCursor Rat) : Prop where
  x_eq : root.x = cursor.nextX
  y_eq : root.y = cursor.y
  nextX_eq : next.nextX = root.x + max 0 root.width + gap
  y_kept : next.y = cursor.y

/-- Each root is placed by the cursor that the one before it left. -/
inductive PlacesAll (gap : Rat) :
    CanvasCursor Rat → List (SceneNode Rat) → List (CanvasCursor Rat) → Prop where
  | nil (cursor : CanvasCursor Rat) : PlacesAll gap cursor [] []
  | cons {cursor next : CanvasCursor Rat} {root : SceneNode Rat} {roots : List (SceneNode Rat)}
      {cursors : List (CanvasCursor Rat)} (first : cursor.Places gap root next)
      (more : PlacesAll gap next roots cursors) :
      PlacesAll gap cursor (root :: roots) (next :: cursors)

/-- The cursor moved to the right, or it stayed, and it is as high as before. -/
def Follows (cursor later : CanvasCursor Rat) : Prop :=
  cursor.nextX ≤ later.nextX ∧ later.y = cursor.y

section Placing

variable {gap : Rat} {cursor next : CanvasCursor Rat} {root : SceneNode Rat}
  {roots : List (SceneNode Rat)} {cursors : List (CanvasCursor Rat)}

/-- The cursor follows itself after a frame has been placed. -/
theorem Places.follows (places : cursor.Places gap root next) (wide : 0 ≤ gap) :
    cursor.Follows next := by
  refine ⟨?_, places.y_kept⟩
  calc cursor.nextX
      = root.x := places.x_eq.symm
    _ ≤ root.x + max 0 root.width := le_add_of_nonneg_right (le_max_left 0 root.width)
    _ ≤ root.x + max 0 root.width + gap := le_add_of_nonneg_right wide
    _ = next.nextX := places.nextX_eq.symm

/-- The cursor never moves back. -/
theorem PlacesAll.pairwise_follows (places : PlacesAll gap cursor roots cursors) (wide : 0 ≤ gap) :
    (cursor :: cursors).Pairwise Follows := by
  induction places with
  | nil => exact List.pairwise_singleton _ _
  | cons first _ ih =>
      have step := first.follows wide
      refine List.pairwise_cons.mpr ⟨fun later member => ?_, ih⟩
      rcases List.mem_cons.mp member with rfl | behind
      · exact step
      · obtain ⟨behindNext, sameHeight⟩ := (List.pairwise_cons.mp ih).1 later behind
        exact ⟨step.1.trans behindNext, sameHeight.trans step.2⟩

/-- No root stands before the cursor. -/
theorem PlacesAll.le_x (places : PlacesAll gap cursor roots cursors) (wide : 0 ≤ gap) :
    ∀ root ∈ roots, cursor.nextX ≤ root.x ∧ root.y = cursor.y := by
  induction places with
  | nil => exact fun _ member => absurd member List.not_mem_nil
  | cons first _ ih =>
      intro root member
      rcases List.mem_cons.mp member with rfl | behind
      · exact ⟨first.x_eq.ge, first.y_eq⟩
      · obtain ⟨step, sameHeight⟩ := first.follows wide
        obtain ⟨behindNext, asHigh⟩ := ih root behind
        exact ⟨step.trans behindNext, asHigh.trans sameHeight⟩

/-- Each root frame stands behind all earlier ones and the gap. -/
theorem PlacesAll.pairwise_apart (places : PlacesAll gap cursor roots cursors) (wide : 0 ≤ gap) :
    roots.Pairwise fun root later => root.x + max 0 root.width + gap ≤ later.x := by
  induction places with
  | nil => exact .nil
  | cons first more ih =>
      refine List.pairwise_cons.mpr ⟨fun later behind => ?_, ih⟩
      rw [← first.nextX_eq]
      exact (more.le_x wide later behind).1

end Placing

end CanvasCursor

namespace Scene

section Definitions

variable {α σ : Type} [Scalar α]

def rootNode? (scene : Scene α) : Option (SceneNode α) := scene.graph.node? scene.root

/-- The scenes of texts that are compiled one after another, each behind the last one. -/
def ofTexts (context : RenderContext α σ) :
    List String → CanvasCursor α → σ → List (Scene α × CanvasCursor α)
  | [], _, _ => []
  | text :: more, cursor, hostState =>
      let (compiled, hostState) := ofText context text cursor hostState
      compiled :: ofTexts context more compiled.2 hostState

end Definitions

variable {σ : Type}

/-- The root has its final width when it is placed. -/
theorem places_placeRoot (config : RenderConfig Rat) (cursor : CanvasCursor Rat)
    {scene : Scene Rat} {root : SceneNode Rat}
    (found : (scene.placeRoot config cursor).1.rootNode? = some root) :
    cursor.Places config.canvasGap root (scene.placeRoot config cursor).2 := by
  have placed : (scene.placeRoot config cursor).1.rootNode? =
      (scene.graph.node? scene.root).map (placeNode (cursor.nextX, cursor.y)) := by
    rw [rootNode?, placeRoot, CanvasCursor.place, node?_update]
    simp only [if_true]
  rw [placed] at found
  obtain ⟨node, isRoot, rfl⟩ := Option.map_eq_some_iff.mp found
  refine ⟨rfl, rfl, ?_, rfl⟩
  simp only [placeRoot, isRoot, CanvasCursor.place, Option.elim_some, Scalar.atLeastZero_eq_max,
    placeNode]
  exact (add_assoc _ _ _).symm

/-- Every scene has a root, which is a frame. -/
theorem exists_rootNode_ofText (context : RenderContext Rat σ) (text : String)
    (cursor : CanvasCursor Rat) (hostState : σ) :
    ∃ root, (ofText context text cursor hostState).1.1.rootNode? = some root ∧
      root.kind.form = .frame := by
  rw [ofText]
  cases readDocument (α := Rat) context.registry text with
  | ok document =>
      cases (shows_placeRoot_ofDocument context document cursor hostState).depicts with
      | container found isFrame => exact ⟨_, found, isFrame⟩
      | leaf _ listed => exact absurd listed List.not_mem_nil
  | error error =>
      have planned := (outline_placeRoot context.config.render cursor _).trans
        (outline_fallback context.config.render error)
      obtain ⟨root, found, same⟩ := exists_node_of_outline_eq List.length_nil planned
      exact ⟨root, found, congrArg NodeOutline.form same⟩

/-- A call places the root of its scene, be it that of a layout or the error frame. -/
theorem places_ofText (context : RenderContext Rat σ) (text : String) (cursor : CanvasCursor Rat)
    (hostState : σ) {root : SceneNode Rat}
    (found : (ofText context text cursor hostState).1.1.rootNode? = some root) :
    cursor.Places context.config.render.canvasGap root
      (ofText context text cursor hostState).1.2 := by
  rw [ofText] at found ⊢
  cases read : readDocument (α := Rat) context.registry text with
  | ok document =>
      rw [read] at found
      exact places_placeRoot _ cursor found
  | error error =>
      rw [read] at found
      exact places_placeRoot _ cursor found

theorem exists_placesAll_ofTexts (context : RenderContext Rat σ) (texts : List String)
    (cursor : CanvasCursor Rat) (hostState : σ) :
    ∃ roots, List.Forall₂ (fun compiled root => compiled.1.rootNode? = some root)
        (ofTexts context texts cursor hostState) roots ∧
      (∀ root ∈ roots, root.kind.form = .frame) ∧
        CanvasCursor.PlacesAll context.config.render.canvasGap cursor roots
          ((ofTexts context texts cursor hostState).map Prod.snd) := by
  induction texts generalizing cursor hostState with
  | nil => exact ⟨[], .nil, fun _ member => absurd member List.not_mem_nil, .nil cursor⟩
  | cons text more ih =>
      obtain ⟨root, found, isFrame⟩ := exists_rootNode_ofText context text cursor hostState
      obtain ⟨roots, listed, framed, places⟩ :=
        ih (ofText context text cursor hostState).1.2 (ofText context text cursor hostState).2
      refine ⟨root :: roots, .cons found listed, ?_, .cons ?_ places⟩
      · exact List.forall_mem_cons.mpr ⟨isFrame, framed⟩
      · exact places_ofText context text cursor hostState found

theorem ofTexts_cons (context : RenderContext Rat σ) (text : String) (more : List String)
    (cursor : CanvasCursor Rat) (hostState : σ) :
    ofTexts context (text :: more) cursor hostState =
      (ofText context text cursor hostState).1 ::
        ofTexts context more (ofText context text cursor hostState).1.2
          (ofText context text cursor hostState).2 := rfl

theorem length_ofTexts (context : RenderContext Rat σ) (texts : List String)
    (cursor : CanvasCursor Rat) (hostState : σ) :
    (ofTexts context texts cursor hostState).length = texts.length := by
  induction texts generalizing cursor hostState with
  | nil => rfl
  | cons text more ih => exact congrArg Nat.succ (ih _ _)

/-- The root frames of several texts stand at one height, each one behind the final width of the last. -/
theorem root_frames_apart (context : RenderContext Rat σ)
    (wide : 0 ≤ context.config.render.canvasGap) (texts : List String) (cursor : CanvasCursor Rat)
    (hostState : σ) :
    ∃ roots, roots.length = texts.length ∧
      List.Forall₂ (fun compiled root => compiled.1.rootNode? = some root)
        (ofTexts context texts cursor hostState) roots ∧
      (∀ root ∈ roots, root.kind.form = .frame ∧ root.y = cursor.y) ∧
      (roots.Pairwise fun root later =>
        root.x + max 0 root.width + context.config.render.canvasGap ≤ later.x ∧
          ¬root.Overlaps later) ∧
      (cursor :: (ofTexts context texts cursor hostState).map Prod.snd).Pairwise
        CanvasCursor.Follows := by
  obtain ⟨roots, listed, framed, places⟩ := exists_placesAll_ofTexts context texts cursor hostState
  refine ⟨roots, ?_, listed, fun root member => ?_, ?_, places.pairwise_follows wide⟩
  · rw [← listed.length_eq, length_ofTexts]
  · exact ⟨framed root member, (places.le_x wide root member).2⟩
  · refine (places.pairwise_apart wide).imp fun {root later} apart => ⟨apart, ?_⟩
    apply SceneNode.not_overlaps_of_le
    calc root.x + root.width
        ≤ root.x + max 0 root.width := by
          gcongr
          exact le_max_right 0 root.width
      _ ≤ root.x + max 0 root.width + context.config.render.canvasGap := le_add_of_nonneg_right wide
      _ ≤ later.x := apart

/-- A row 100 wide, and the error frame of an empty text behind it. -/
theorem error_frame_behind_row :
    0 ≤ Stage.plainContext.config.render.canvasGap ∧
      ∃ row error, List.Forall₂ (fun compiled root => compiled.1.rootNode? = some root)
          (ofTexts Stage.plainContext [Filling.rowText, ""] .origin ()) [row, error] ∧
        row.width = 100 ∧ row.x + 200 ≤ error.x ∧ ¬row.Overlaps error := by
  have gap_eq : Stage.plainContext.config.render.canvasGap = 100 := rfl
  have wide : 0 ≤ Stage.plainContext.config.render.canvasGap := by
    rw [gap_eq]
    norm_num
  refine ⟨wide, ?_⟩
  obtain ⟨roots, count, listed, -, apart, -⟩ :=
    root_frames_apart Stage.plainContext wide [Filling.rowText, ""] .origin ()
  obtain ⟨row, error, rfl⟩ := List.length_eq_two.mp count
  obtain ⟨behind, separate⟩ := List.rel_of_pairwise_cons apart List.mem_cons_self
  have width_eq : row.width = 100 := by
    have found : (ofText Stage.plainContext Filling.rowText .origin ()).1.1.rootNode? =
        some row := by
      rw [ofTexts_cons, List.forall₂_cons] at listed
      exact listed.1
    have computed : ((finalGraph Stage.plainContext Filling.rowDocument .origin ()).node? 0).map
        (·.width) = some 100 := by decide +kernel
    rw [rootNode?, root_ofText, graph_ofText .origin Filling.read_rowText] at found
    rw [found] at computed
    exact Option.some.inj computed
  refine ⟨row, error, listed, width_eq, ?_, separate⟩
  have wider : max 0 row.width = 100 := by
    rw [width_eq]
    norm_num
  rw [wider, gap_eq] at behind
  linarith

end Scene

end DesignScene
