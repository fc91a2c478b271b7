/-
This file shows that arranging a frame once more changes nothing.
-/
import DesignScene.Proofs.Scene.Sizes
import DesignScene.Scalar.Exact

namespace DesignScene

open Scalar

namespace Arrange

section Places

variable {α : Type} [Scalar α]

def Line.unplaced (line : Line α) : Line α :=
  { line with children := line.children.map SceneNode.unplaced }

@[simp] theorem mainSize_unplaced (vertical : Bool) (node : SceneNode α) :
    node.unplaced.mainSize vertical = node.mainSize vertical := rfl

theorem moveTo_unplaced (vertical : Bool) (main cross : α) (node : SceneNode α) :
    node.unplaced.moveTo vertical main cross = node.moveTo vertical main cross := by
  cases vertical <;> rfl

/-- Measuring does not look at places. -/
theorem measureLine_unplaced (vertical : Bool) (spacing : α) (children : List (SceneNode α)) :
    measureLine vertical spacing (children.map SceneNode.unplaced) =
      (measureLine vertical spacing children).unplaced := by
  simp only [measureLine, Line.unplaced, List.map_map, gapCount, List.length_map]
  rfl

/-- What keeps the sizes along the lines does not break them at other children. -/
theorem breakLinesAfter_map {vertical : Bool} {change : SceneNode α → SceneNode α}
    (kept : ∀ node, (change node).mainSize vertical = node.mainSize vertical) (spacing : α)
    (limit : Option α) (current : List (SceneNode α)) (used : α) (children : List (SceneNode α)) :
    breakLinesAfter vertical spacing limit (current.map change) used (children.map change) =
      (breakLinesAfter vertical spacing limit current used children).map fun line =>
        measureLine vertical spacing (line.children.map change) := by
  induction children generalizing current used with
  | nil => cases current <;> rfl
  | cons child more ih =>
      have alone := ih [child]
      have behind := ih (current ++ [child])
      rw [List.map_append] at behind
      simp only [List.map_cons, List.map_nil] at alone behind
      simp only [List.map_cons, breakLinesAfter, List.isEmpty_map, kept]
      split
      · rw [List.map_cons, alone]
        rfl
      · exact behind _

/-- A line is as long and as wide as its children make it. -/
theorem eq_measureLine_of_mem {vertical : Bool} {spacing : α} {limit : Option α}
    {current : List (SceneNode α)} {used : α} {children : List (SceneNode α)} {line : Line α}
    (member : line ∈ breakLinesAfter vertical spacing limit current used children) :
    line = measureLine vertical spacing line.children := by
  induction children generalizing current used with
  | nil =>
      rw [breakLinesAfter] at member
      split at member
      · cases member
      · obtain rfl := List.mem_singleton.mp member
        rfl
  | cons child more ih =>
      simp only [breakLinesAfter] at member
      split at member
      · rcases List.mem_cons.mp member with rfl | later
        · rfl
        · exact ih later
      · exact ih member

/-- Where children stand does not matter to the lines. -/
theorem linesOf_unplaced (props : FrameProps α) (frame : SceneNode α)
    (sized : List (SceneNode α)) :
    linesOf props frame (sized.map SceneNode.unplaced) =
      (linesOf props frame sized).map Line.unplaced := by
  have mapped := breakLinesAfter_map (mainSize_unplaced (isVertical props)) props.itemSpacing.gap
    (wrapLimit props frame) [] (ofNat 0) sized
  rw [List.map_nil] at mapped
  rw [linesOf, breakLines, mapped]
  apply List.map_congr_left
  intro line member
  conv => rhs; rw [eq_measureLine_of_mem member]
  exact measureLine_unplaced _ _ line.children

/-- Where children stood does not matter for their new places. -/
theorem placeChildren_unplaced (vertical : Bool) (align : String) (cross extent gap main : α)
    (children : List (SceneNode α)) :
    placeChildren vertical align cross extent gap main (children.map SceneNode.unplaced) =
      placeChildren vertical align cross extent gap main children := by
  induction children generalizing main with
  | nil => rfl
  | cons child more ih =>
      rw [List.map_cons, placeChildren, placeChildren, ih, moveTo_unplaced]
      rfl

/-- The same holds of lines. -/
theorem placeLines_unplaced (props : FrameProps α) (frame : SceneNode α) (single : Bool)
    (cross : α) (lines : List (Line α)) :
    placeLines props frame single cross (lines.map Line.unplaced) =
      placeLines props frame single cross lines := by
  induction lines generalizing cross with
  | nil => rfl
  | cons line more ih =>
      have sameGaps : (gapCount line.unplaced.children : α) = gapCount line.children := by
        rw [gapCount, gapCount, Line.unplaced, List.length_map]
      have sameStart (free : α) : lineStart props free line.unplaced = lineStart props free line := by
        simp only [lineStart]
        rw [sameGaps]
      simp only [List.map_cons, placeLines, ih, sameStart]
      simp only [Line.unplaced, placeChildren_unplaced]

variable {props : FrameProps α} {frame : SceneNode α} {children others : List (SceneNode α)}

/-- Children are placed by their sizes alone. -/
theorem placed_congr
    (same : others.map SceneNode.unplaced = children.map SceneNode.unplaced) :
    placed props frame others = placed props frame children := by
  have forget (sized : List (SceneNode α)) :
      placed props frame (sized.map SceneNode.unplaced) = placed props frame sized := by
    rw [placed, placed, linesOf_unplaced, placeLines_unplaced, List.length_map]
  rw [← forget others, same, forget]

/-- Places do not count for the size that lines need. -/
theorem hugMain_congr (same : others.map SceneNode.unplaced = children.map SceneNode.unplaced) :
    hugMain props (linesOf props frame others) = hugMain props (linesOf props frame children) := by
  have forget (sized : List (SceneNode α)) :
      hugMain props (linesOf props frame (sized.map SceneNode.unplaced)) =
        hugMain props (linesOf props frame sized) := by
    rw [linesOf_unplaced, hugMain, hugMain, List.map_map]
    rfl
  rw [← forget others, same, forget]

theorem hugCross_congr (same : others.map SceneNode.unplaced = children.map SceneNode.unplaced) :
    hugCross props (linesOf props frame others) = hugCross props (linesOf props frame children) := by
  have forget (sized : List (SceneNode α)) :
      hugCross props (linesOf props frame (sized.map SceneNode.unplaced)) =
        hugCross props (linesOf props frame sized) := by
    rw [linesOf_unplaced, hugCross, hugCross, List.map_map, gapCount, gapCount, List.length_map]
    rfl
  rw [← forget others, same, forget]

end Places

section Twice

variable {α : Type} [Scalar α] {props : FrameProps α} {frame : SceneNode α}
  {children : List (SceneNode α)}

/-- The width of a child does not change when the frame has hugged. -/
theorem widthFor?_hugged (isAuto : props.layoutMode.isAutoLayout = true) (child : SceneNode α) :
    widthFor? props (hugged props frame children) children child =
      widthFor? props frame children child := by
  have same : List.Forall₂ (SameShare props) children children :=
    List.forall₂_same.mpr fun _ _ => ⟨rfl, fun _ => rfl⟩
  rw [widthFor?, widthFor?, crossFor?_congr rfl (crossSize_hugged isAuto),
    mainFor?_congr same rfl (mainSize_hugged isAuto)]

/-- Neither does its height. -/
theorem heightFor?_hugged (isAuto : props.layoutMode.isAutoLayout = true) (child : SceneNode α) :
    heightFor? props (hugged props frame children) children child =
      heightFor? props frame children child := by
  have same : List.Forall₂ (SameShare props) children children :=
    List.forall₂_same.mpr fun _ _ => ⟨rfl, fun _ => rfl⟩
  rw [heightFor?, heightFor?, crossFor?_congr rfl (crossSize_hugged isAuto),
    mainFor?_congr same rfl (mainSize_hugged isAuto)]

/-- A frame that has hugged fits its children as before. -/
theorem fit_hugged (isAuto : props.layoutMode.isAutoLayout = true) :
    fit props (hugged props frame children) children = fit props frame children := by
  funext child
  rw [fit, fit, widthFor?_hugged isAuto, heightFor?_hugged isAuto]

/-- A frame that has hugged needs the width that it has. -/
theorem hugWidth?_hugged :
    hugWidth? props (hugged props frame children) children = hugWidth? props frame children := by
  rw [hugWidth?, hugWidth?]
  cases mode : props.layoutMode with
  | none => rfl
  | _ =>
      have isAuto : props.layoutMode.isAutoLayout = true := by rw [mode]; rfl
      simp only [fit_hugged isAuto, linesOf_hugged isAuto]

/-- It needs the height that it has. -/
theorem hugHeight?_hugged (isAuto : props.layoutMode.isAutoLayout = true) :
    hugHeight? props (hugged props frame children) children = hugHeight? props frame children := by
  rw [hugHeight?, hugHeight?]
  cases mode : props.layoutMode with
  | none => simp [mode, LayoutMode.isAutoLayout] at isAuto
  | _ => simp only [fit_hugged isAuto, linesOf_hugged isAuto]

/-- The height of a frame without auto layout is set at most once. -/
theorem height_hugged_of_none (noLayout : props.layoutMode = .none) :
    (hugHeight? props (hugged props frame children) children).elim
        (hugged props frame children).height frame.constraints.clampHeight =
      (hugged props frame children).height := by
  have height_eq : (hugged props frame children).height =
      if frame.height ≤ ofNat 0 then frame.constraints.clampHeight (contentExtent children).2
      else frame.height := by
    simp only [hugged, hugHeight?, noLayout]
    split <;> rfl
  simp only [hugHeight?, noLayout]
  rw [height_eq]
  split
  · split <;> rfl
  · rfl

/-- Giving a size once more does not change it. -/
theorem elim_elim {β : Type} (given : Option β) (size : β) (clamp : β → β) :
    given.elim (given.elim size clamp) clamp = given.elim size clamp := by cases given <;> rfl

/-- A frame that hugs its children does so at the same size again. -/
theorem hugged_hugged :
    hugged props (hugged props frame children) children = hugged props frame children := by
  have sameWidth : (hugWidth? props (hugged props frame children) children).elim
      (hugged props frame children).width frame.constraints.clampWidth =
        (hugged props frame children).width := by
    rw [hugWidth?_hugged, hugged, elim_elim]
  have sameHeight : (hugHeight? props (hugged props frame children) children).elim
      (hugged props frame children).height frame.constraints.clampHeight =
        (hugged props frame children).height := by
    cases mode : props.layoutMode with
    | none => exact height_hugged_of_none mode
    | _ => rw [hugHeight?_hugged (by rw [mode]; rfl), hugged, elim_elim]
  calc hugged props (hugged props frame children) children
      = { hugged props frame children with
          width := (hugged props frame children).width
          height := (hugged props frame children).height } := by
        conv => rhs; rw [← sameWidth, ← sameHeight]
        rfl
    _ = hugged props frame children := rfl

/-- Hugging first makes no difference. -/
theorem arranged_hugged :
    arranged props (hugged props frame children) children = arranged props frame children := by
  rw [arranged, arranged, hugged_hugged]
  split
  · next isAuto => rw [fit_hugged isAuto]
  · rfl

end Twice

section Moved

variable {α : Type} [Scalar α] {props : FrameProps α} {frame : SceneNode α}
  {children others : List (SceneNode α)} {child other : SceneNode α}

/-- Both nodes are the same but for their places and sizes. -/
def SameBut (child other : SceneNode α) : Prop :=
  ∃ x y width height, other = { child with x := x, y := y, width := width, height := height }

/-- Both nodes are the same but for their places. -/
def SameButPlace (child other : SceneNode α) : Prop :=
  ∃ x y, other = { child with x := x, y := y }

/-- The frame makes the same of both children. -/
structure SameFit (props : FrameProps α) (frame : SceneNode α) (children : List (SceneNode α))
    (child other : SceneNode α) : Prop where
  same : SameBut child other
  width_eq : widthFor? props frame children child = none → other.width = child.width
  height_eq : heightFor? props frame children child = none → other.height = child.height
  place_eq : props.layoutMode = .none → other.x = child.x ∧ other.y = child.y

theorem exists_of_forall₂_right {β γ : Type} {related : β → γ → Prop} {members : List β}
    {others : List γ} (alike : List.Forall₂ related members others) {other : γ}
    (member : other ∈ others) : ∃ member ∈ members, related member other := by
  induction alike with
  | nil => cases member
  | cons pair _ ih =>
      rcases List.mem_cons.mp member with rfl | later
      · exact ⟨_, List.mem_cons_self, pair⟩
      · obtain ⟨first, isMember, related⟩ := ih later
        exact ⟨first, List.mem_cons_of_mem _ isMember, related⟩

theorem exists_of_forall₂_left {β γ : Type} {related : β → γ → Prop} {members : List β}
    {others : List γ} (alike : List.Forall₂ related members others) {member : β}
    (isMember : member ∈ members) : ∃ other ∈ others, related member other :=
  exists_of_forall₂_right (List.Forall₂.flip alike) isMember

/-- Placed children differ in their places only. -/
theorem forall₂_placeChildren (vertical : Bool) (align : String) (cross extent gap main : α)
    (children : List (SceneNode α)) :
    List.Forall₂ SameButPlace children
      (placeChildren vertical align cross extent gap main children) := by
  induction children generalizing main with
  | nil => exact .nil
  | cons child more ih =>
      refine .cons ?_ (ih _)
      cases vertical with
      | true => exact ⟨_, main, rfl⟩
      | false => exact ⟨main, _, rfl⟩

/-- So do placed lines. -/
theorem forall₂_placeLines (props : FrameProps α) (frame : SceneNode α) (single : Bool) (cross : α)
    (lines : List (Line α)) :
    List.Forall₂ SameButPlace
      (lines.flatMap (·.children)) (placeLines props frame single cross lines) := by
  induction lines generalizing cross with
  | nil => exact .nil
  | cons line more ih =>
      rw [List.flatMap_cons]
      exact List.rel_append (forall₂_placeChildren _ _ _ _ _ _ line.children) (ih _)

/-- Each child is moved to its place. -/
theorem forall₂_placed (sized : List (SceneNode α)) :
    List.Forall₂ SameButPlace sized (placed props frame sized) := by
  have moved := forall₂_placeLines props frame ((linesOf props frame sized).length == 1)
    (crossStart props) (linesOf props frame sized)
  rwa [linesOf, flatMap_breakLines, ← linesOf] at moved

/-- A child comes to be as the frame fits it, at its place. -/
theorem forall₂_arranged :
    List.Forall₂ (fun child other => SameButPlace (fit props frame children child) other) children
      (arranged props frame children).2 := by
  rw [arranged]
  dsimp only
  split
  · exact List.forall₂_map_left_iff.mp (forall₂_placed _)
  · next noLayout =>
      have isNone : props.layoutMode = .none := by
        simpa [LayoutMode.isAutoLayout] using noLayout
      refine List.forall₂_same.mpr fun child _ => ⟨child.x, child.y, ?_⟩
      simp only [fit, widthFor?, heightFor?, isNone, Option.elim_none]

/-- What does not depend on places and sizes stays. -/
theorem map_arranged {β : Type} {read : SceneNode α → β}
    (kept : ∀ child other, SameBut child other → read other = read child) :
    (arranged props frame children).2.map read = children.map read := by
  rw [← List.forall₂_eq_eq_eq, List.forall₂_map_left_iff, List.forall₂_map_right_iff]
  refine forall₂_arranged.flip.imp fun other child => ?_
  rintro ⟨x, y, rfl⟩
  exact kept child _ ⟨x, y, _, _, rfl⟩

/-- Arranged children are the same ones in the same order. -/
theorem map_id_arranged :
    (arranged props frame children).2.map (·.id) = children.map (·.id) := by
  apply map_arranged
  rintro child _ ⟨x, y, width, height, rfl⟩
  rfl

/-- Arranged children stay visible. -/
theorem visible_arranged (shown : ∀ child ∈ children, child.visible = true) :
    ∀ child ∈ (arranged props frame children).2, child.visible = true := by
  have flags : (arranged props frame children).2.map (·.visible) = children.map (·.visible) := by
    apply map_arranged
    rintro child _ ⟨x, y, width, height, rfl⟩
    rfl
  intro other member
  have listed := List.mem_map_of_mem (f := (·.visible)) member
  rw [flags] at listed
  obtain ⟨child, isChild, same⟩ := List.mem_map.mp listed
  exact same.symm.trans (shown child isChild)

end Moved

section Exact

variable {props : FrameProps Rat} {frame : SceneNode Rat} {children others : List (SceneNode Rat)}
  {child other : SceneNode Rat}

/-- A child that does not grow is given no main size. -/
theorem mainFor?_eq_none (shrinks : child.layout.layoutGrow ≤ ofNat 0) :
    mainFor? props frame children child = none := by
  have stays : ¬ofNat 0 < child.layout.layoutGrow := Rat.not_lt.mpr shrinks
  simp [mainFor?, grows, stays]

/-- Children that fit alike share alike. -/
theorem SameFit.sameShare (isAuto : props.layoutMode.isAutoLayout = true)
    (alike : SameFit props frame children child other) : SameShare props child other where
  layout_eq := by
    obtain ⟨_, _, _, _, rfl⟩ := alike.same
    rfl
  mainSize_eq shrinks := by
    have notGiven : mainFor? props frame children child = none := mainFor?_eq_none shrinks
    cases mode : props.layoutMode with
    | none => simp [mode, LayoutMode.isAutoLayout] at isAuto
    | vertical =>
        simp only [isVertical, mode, SceneNode.mainSize]
        exact alike.height_eq (by rw [heightFor?, mode]; exact notGiven)
    | horizontal =>
        simp only [isVertical, mode, SceneNode.mainSize]
        exact alike.width_eq (by rw [widthFor?, mode]; exact notGiven)

/-- Children that fit alike are fitted to the same sizes. -/
theorem unplaced_fit_congr (isAuto : props.layoutMode.isAutoLayout = true)
    (same : List.Forall₂ (SameShare props) children others)
    (alike : SameFit props frame children child other) :
    (fit props frame others other).unplaced = (fit props frame children child).unplaced := by
  have sameLayout := (alike.sameShare isAuto).layout_eq
  have sameMain : mainFor? props frame others other = mainFor? props frame children child :=
    mainFor?_congr same sameLayout fun _ => rfl
  have sameCross : crossFor? props frame other = crossFor? props frame child :=
    crossFor?_congr sameLayout fun _ => rfl
  have sameWidth : widthFor? props frame others other = widthFor? props frame children child := by
    rw [widthFor?, widthFor?, sameMain, sameCross]
  have sameHeight : heightFor? props frame others other = heightFor? props frame children child := by
    rw [heightFor?, heightFor?, sameMain, sameCross]
  have width_eq := alike.width_eq
  have height_eq := alike.height_eq
  rw [fit, fit, sameWidth, sameHeight]
  obtain ⟨_, _, _, _, rfl⟩ := alike.same
  cases givenWidth : widthFor? props frame children child <;>
    cases givenHeight : heightFor? props frame children child <;>
      simp_all [SceneNode.unplaced]

theorem unplaced_map_fit_congr (isAuto : props.layoutMode.isAutoLayout = true)
    (alike : List.Forall₂ (SameFit props frame children) children others) :
    (others.map (fit props frame others)).map SceneNode.unplaced =
      (children.map (fit props frame children)).map SceneNode.unplaced := by
  have shares := alike.imp fun _ _ sameFit => sameFit.sameShare isAuto
  rw [List.map_map, List.map_map, ← List.forall₂_eq_eq_eq, List.forall₂_map_left_iff,
    List.forall₂_map_right_iff]
  exact alike.flip.imp fun _ _ sameFit => unplaced_fit_congr isAuto shares sameFit

/-- Without auto layout nothing but the children themselves counts. -/
theorem eq_of_sameFit (noLayout : props.layoutMode = .none)
    (alike : List.Forall₂ (SameFit props frame children) children others) : others = children := by
  rw [← List.forall₂_eq_eq_eq]
  refine alike.flip.imp fun other child sameFit => ?_
  obtain ⟨sameX, sameY⟩ := sameFit.place_eq noLayout
  have width_eq := sameFit.width_eq (by rw [widthFor?, noLayout])
  have height_eq := sameFit.height_eq (by rw [heightFor?, noLayout])
  obtain ⟨_, _, _, _, rfl⟩ := sameFit.same
  simp_all

/-- Children that fit alike need the same width. -/
theorem hugWidth?_of_sameFit (alike : List.Forall₂ (SameFit props frame children) children others) :
    hugWidth? props frame others = hugWidth? props frame children := by
  cases mode : props.layoutMode with
  | none => rw [eq_of_sameFit mode alike]
  | _ =>
      have fitted := unplaced_map_fit_congr (by rw [mode]; rfl) alike
      rw [hugWidth?, hugWidth?, mode]
      simp only [hugMain_congr fitted, hugCross_congr fitted]

/-- They need the same height. -/
theorem hugHeight?_of_sameFit
    (alike : List.Forall₂ (SameFit props frame children) children others) :
    hugHeight? props frame others = hugHeight? props frame children := by
  cases mode : props.layoutMode with
  | none => rw [eq_of_sameFit mode alike]
  | _ =>
      have fitted := unplaced_map_fit_congr (by rw [mode]; rfl) alike
      rw [hugHeight?, hugHeight?, mode]
      simp only [hugMain_congr fitted, hugCross_congr fitted]

/-- Children of which the frame makes the same are arranged alike. -/
theorem arranged_congr (alike : List.Forall₂ (SameFit props frame children) children others) :
    arranged props frame others = arranged props frame children := by
  have frames : hugged props frame others = hugged props frame children := by
    rw [hugged, hugged, hugWidth?_of_sameFit alike, hugHeight?_of_sameFit alike]
  rw [arranged, arranged, frames]
  split
  · next isAuto => rw [placed_congr (unplaced_map_fit_congr isAuto alike)]
  · next noLayout =>
      have isNone : props.layoutMode = .none := by
        simpa [LayoutMode.isAutoLayout] using noLayout
      rw [eq_of_sameFit isNone alike]

/-- Arranged children fit as they did before. -/
theorem sameFit_arranged :
    List.Forall₂ (SameFit props (hugged props frame children) children) children
      (arranged props frame children).2 := by
  cases mode : props.layoutMode with
  | none =>
      have unplaced : (arranged props frame children).2 = children := by
        simp [arranged, mode, LayoutMode.isAutoLayout]
      rw [unplaced]
      exact List.forall₂_same.mpr fun child _ =>
        ⟨⟨_, _, _, _, rfl⟩, fun _ => rfl, fun _ => rfl, fun _ => ⟨rfl, rfl⟩⟩
  | _ =>
      have isAuto : props.layoutMode.isAutoLayout = true := by rw [mode]; rfl
      refine forall₂_arranged.imp fun child other => ?_
      rintro ⟨x, y, rfl⟩
      refine ⟨⟨x, y, _, _, rfl⟩, fun notGiven => ?_, fun notGiven => ?_, fun noLayout => ?_⟩
      · rw [widthFor?_hugged isAuto] at notGiven
        simp only [fit, notGiven, Option.elim_none]
      · rw [heightFor?_hugged isAuto] at notGiven
        simp only [fit, notGiven, Option.elim_none]
      · simp [mode] at noLayout

/-- Arranging once more changes nothing. -/
theorem arranged_arranged :
    arranged props (arranged props frame children).1 (arranged props frame children).2 =
      arranged props frame children :=
  (arranged_congr sameFit_arranged).trans arranged_hugged

end Exact

end Arrange

end DesignScene
