/-
This file says what a frame comes to when its texts are measured again after it was arranged.
-/
import DesignScene.Proofs.Render.Keeps
import DesignScene.Proofs.Scene.Widths

namespace DesignScene

open Outlines Scalar

namespace Stage

open Arrange

section Measuring

variable {α σ : Type} [Scalar α] (host : Host α σ)

/-- The node with the height that its text has at its present width. -/
def measured (node : SceneNode α) : SceneNode α :=
  (remeasuredHeight host node).elim node fun height => { node with height := height }

/-- Measuring a node may change its height and nothing else. -/
theorem sameButHeight_measured (node : SceneNode α) : SameButHeight node (measured host node) := by
  rw [measured]
  cases remeasuredHeight host node with
  | none => exact ⟨node.height, rfl⟩
  | some height => exact ⟨height, rfl⟩

/-- The measured height depends on the kind and size of a node only. -/
theorem remeasuredHeight_congr {node other : SceneNode α} (kind_eq : other.kind = node.kind)
    (width_eq : other.width = node.width) (height_eq : other.height = node.height) :
    remeasuredHeight host other = remeasuredHeight host node := by
  rw [remeasuredHeight, remeasuredHeight, SceneNode.text?, SceneNode.text?, kind_eq, width_eq,
    height_eq]

/-- A frame and its children after they were arranged, measured again and arranged once more. -/
def settled (props : FrameProps α) (frame : SceneNode α) (children : List (SceneNode α)) :
    SceneNode α × List (SceneNode α) :=
  arranged props (arranged props frame children).1
    ((arranged props frame children).2.map (measured host))

theorem id_measured (child : SceneNode α) : (measured host child).id = child.id := by
  obtain ⟨height, same⟩ := sameButHeight_measured host child
  rw [same]

theorem map_id_measured (children : List (SceneNode α)) :
    (children.map (measured host)).map (·.id) = children.map (·.id) := by
  rw [List.map_map]
  exact List.map_congr_left fun child _ => id_measured host child

/-- Measuring keeps visibility. -/
theorem visible_measured_eq (child : SceneNode α) :
    (measured host child).visible = child.visible := by
  obtain ⟨height, same⟩ := sameButHeight_measured host child
  rw [same]

theorem visible_measured {children : List (SceneNode α)}
    (shown : ∀ child ∈ children, child.visible = true) :
    ∀ child ∈ children.map (measured host), child.visible = true := by
  intro other member
  obtain ⟨child, isChild, rfl⟩ := List.mem_map.mp member
  rw [visible_measured_eq]
  exact shown child isChild

theorem map_id_settled {props : FrameProps α} {frame : SceneNode α} {children : List (SceneNode α)} :
    (settled host props frame children).2.map (·.id) = children.map (·.id) := by
  rw [settled, map_id_arranged, map_id_measured, map_id_arranged]

variable {graph later : SceneGraph α} {id : Nat} {frame : SceneNode α}
  {children : List (SceneNode α)}

/-- The children whose heights change, with their new heights. -/
def changed (children : List (SceneNode α)) : List (SceneNode α) :=
  children.filterMap fun node =>
    (remeasuredHeight host node).map fun height => { node with height := height }

/-- The changed nodes are the measured children that have a new height. -/
theorem changed_eq : changed host children =
    (children.filter fun child => (remeasuredHeight host child).isSome).map (measured host) := by
  rw [changed]
  induction children with
  | nil => rfl
  | cons child more ih =>
      rw [List.filterMap_cons, List.filter_cons, ih]
      cases height : remeasuredHeight host child <;> simp [measured, height]

/-- A node is changed just when it is a measured child with a new height. -/
theorem mem_changed_iff {other : SceneNode α} : other ∈ changed host children ↔
    ∃ child ∈ children, (remeasuredHeight host child).isSome ∧ other = measured host child := by
  simp only [changed_eq, List.mem_map, List.mem_filter, and_assoc, eq_comm]

/-- Measuring the children changes no other node. -/
theorem node?_putAll_changed_of_not_mem {place : Nat} (elsewhere : place ∉ children.map (·.id)) :
    (graph.putAll (changed host children)).node? place = graph.node? place := by
  apply SceneGraph.node?_putAll_of_not_mem
  intro member
  obtain ⟨other, isChanged, rfl⟩ := List.mem_map.mp member
  obtain ⟨child, isChild, -, rfl⟩ := (mem_changed_iff host).mp isChanged
  rw [id_measured] at elsewhere
  exact elsewhere (List.mem_map_of_mem isChild)

/-- Writing the new heights turns each node into the measured one. -/
theorem node?_putAll_changed (foundAll : ∀ child ∈ children, graph.node? child.id = some child)
    (distinct : (children.map (·.id)).Nodup) {child : SceneNode α} (member : child ∈ children) :
    (graph.putAll (changed host children)).node? child.id = some (measured host child) := by
  cases height : remeasuredHeight host child with
  | some _ =>
      have isChanged := (mem_changed_iff host).mpr ⟨child, member, by rw [height]; rfl, rfl⟩
      have distinctChanged : ((changed host children).map (·.id)).Nodup := by
        rw [changed_eq, map_id_measured]
        exact distinct.sublist (List.filter_sublist.map _)
      rw [← id_measured host child]
      apply SceneGraph.node?_putAll_of_mem distinctChanged isChanged
      rw [id_measured]
      exact foundAll child member
  | none =>
      have same : measured host child = child := by rw [measured, height, Option.elim_none]
      rw [same, SceneGraph.node?_putAll_of_not_mem, foundAll child member]
      intro listed
      obtain ⟨other, isChanged, sameId⟩ := List.mem_map.mp listed
      obtain ⟨twin, isTwin, changes, rfl⟩ := (mem_changed_iff host).mp isChanged
      rw [id_measured] at sameId
      have twinFound := foundAll twin isTwin
      rw [sameId, foundAll child member] at twinFound
      obtain rfl := Option.some.inj twinFound
      rw [height] at changes
      cases changes

/-- Writing the new heights turns the children into the measured ones. -/
theorem turns_putAll_changed (sound : WellFormed graph.outline)
    (family : graph.Family id frame children) :
    graph.Turns (graph.putAll (changed host children)) id frame (children.map (measured host)) := by
  have foundAll : ∀ child ∈ children, graph.node? child.id = some child := fun _ =>
    family.node?_child sound
  have inFront : id ∉ children.map (·.id) := by
    intro member
    obtain ⟨child, isChild, same⟩ := List.mem_map.mp member
    exact absurd (family.lt_child sound isChild) (by omega)
  constructor
  · apply SceneGraph.Family.of_nodes
    · rw [node?_putAll_changed_of_not_mem host inFront, family.found]
    · rw [map_id_measured, family.map_id_eq sound]
    · intro other member
      obtain ⟨child, isChild, rfl⟩ := List.mem_map.mp member
      rw [id_measured]
      exact node?_putAll_changed host foundAll (family.nodup_ids sound) isChild
    · exact visible_measured host family.visible
  · intro other notFrame notChild
    rw [map_id_measured] at notChild
    exact node?_putAll_changed_of_not_mem host notChild

/-- A graph is measured again by replacing its changed children, if there are any. -/
theorem remeasure_eq (family : graph.Family id frame children) : remeasure host id graph =
    if (changed host children).isEmpty then none
    else some (graph.putAll (changed host children)) := by
  rw [remeasure, family.childNodes_eq]
  rfl

end Measuring

section Settling

variable {σ : Type} {host : Host Rat σ} {props : FrameProps Rat} {frame : SceneNode Rat}
  {children : List (SceneNode Rat)} {child other : SceneNode Rat}

/-- Rendering turns the family of a frame into what settling makes of it. -/
theorem turns_arrangeGraph {graph : SceneGraph Rat} {id : Nat} (sound : WellFormed graph.outline)
    (family : graph.Family id frame children) (isFrame : frame.frame? = some props) :
    graph.Turns (arrangeGraph host id graph) id (settled host props frame children).1
      (settled host props frame children).2 := by
  have first := family.turns_arrange sound isFrame
  have firstSound := (SceneGraph.moves_arrange sound id).wellFormed sound
  have stillFrame : (arranged props frame children).1.frame? = some props := isFrame
  have remeasured := remeasure_eq host first.family
  rw [arrangeGraph, remeasured, settled]
  cases none : (changed host (arranged props frame children).2).isEmpty with
  | true =>
      rw [List.isEmpty_iff, changed_eq, List.map_eq_nil_iff, List.filter_eq_nil_iff] at none
      have unchanged : (arranged props frame children).2.map (measured host) =
          (arranged props frame children).2 := by
        refine (List.map_congr_left fun child member => ?_).trans (List.map_id _)
        rw [measured, Option.not_isSome_iff_eq_none.mp (none child member)]
        rfl
      rw [unchanged, arranged_arranged]
      exact first
  | false =>
      rw [none, if_neg Bool.false_ne_true] at remeasured
      have again := turns_putAll_changed host firstSound first.family
      have againSound := (moves_remeasure host firstSound remeasured).wellFormed firstSound
      have last := again.family.turns_arrange againSound stillFrame
      exact (first.trans again (map_id_measured host _)).trans last map_id_arranged

/-- A height differs from itself by less than the tolerance. -/
theorem not_heightTolerance_lt_sub_self (height : Rat) : ¬heightTolerance < height - height := by
  rw [Rat.sub_self]
  decide +kernel

/-- A height that was measured is not measured otherwise. -/
theorem remeasuredHeight_measured (child : SceneNode Rat) :
    remeasuredHeight host (measured host child) = none := by
  cases given : remeasuredHeight host child with
  | none => rw [measured, given, Option.elim_none, given]
  | some height =>
      rw [measured, given, Option.elim_some, remeasuredHeight]
      rw [remeasuredHeight] at given
      have sameText : SceneNode.text? { child with height := height } = child.text? := rfl
      rw [sameText]
      cases isText : child.text? with
      | none => rfl
      | some props =>
          simp only [isText] at given
          simp only
          split at given
          · next wraps =>
              rw [if_pos wraps]
              split at given
              · obtain rfl := Option.some.inj given
                simp only [not_heightTolerance_lt_sub_self, decide_false, Bool.or_self,
                  Bool.false_eq_true, if_false]
              · cases given
          · cases given

/-- What a child comes to in its frame. -/
structure Settles (host : Host Rat σ) (props : FrameProps Rat) (frame : SceneNode Rat)
    (children : List (SceneNode Rat)) (child other : SceneNode Rat) : Prop where
  same : SameBut child other
  width_eq : other.width =
    (widthFor? props frame children child).elim child.width child.constraints.clampWidth
  height_eq : heightFor? props frame children child = none →
    other.height = (measured host { child with width := other.width }).height
  exists_height : heightFor? props frame children child ≠ none →
    ∃ height, other.height = child.constraints.clampHeight height

/-- A measured node has the new height if there is one. -/
theorem height_measured (child : SceneNode Rat) :
    (measured host child).height = (remeasuredHeight host child).getD child.height := by
  rw [measured]
  cases remeasuredHeight host child <;> rfl

/-- Measured children differ in height only. -/
theorem forall₂_measured (children : List (SceneNode Rat)) :
    List.Forall₂ SameButHeight children (children.map (measured host)) :=
  forall₂_map_self (sameButHeight_measured host) children

/-- Two relations of lists compose member by member. -/
theorem forall₂_trans {β γ δ : Type} {first : β → γ → Prop} {second : γ → δ → Prop}
    {both : β → δ → Prop} (compose : ∀ {b c d}, first b c → second c d → both b d) {bs : List β}
    {cs : List γ} {ds : List δ} (before : List.Forall₂ first bs cs)
    (after : List.Forall₂ second cs ds) : List.Forall₂ both bs ds := by
  induction before generalizing ds with
  | nil =>
      cases after
      exact .nil
  | cons pair _ ih =>
      cases after with
      | cons next rest => exact .cons (compose pair next) (ih rest)

/-- Measuring keeps the layout settings of the children. -/
theorem map_layout_measured :
    ((arranged props frame children).2.map (measured host)).map (·.layout) =
      children.map (·.layout) := by
  have kept : (arranged props frame children).2.map (·.layout) = children.map (·.layout) := by
    apply map_arranged
    rintro child _ ⟨x, y, width, height, rfl⟩
    rfl
  rw [← kept, List.map_map]
  apply List.map_congr_left
  intro child _
  obtain ⟨height, same⟩ := sameButHeight_measured host child
  rw [Function.comp_apply, same]

/-- Every child settles in its frame. -/
theorem settles_settled : List.Forall₂ (Settles host props frame children) children
    (settled host props frame children).2 := by
  have placed : List.Forall₂ _ children (arranged props frame children).2 := forall₂_arranged
  have first := List.Forall₂.mp (fun _ _ => And.intro) placed widthFor?_arranged
  have again : List.Forall₂ _ _ (settled host props frame children).2 := forall₂_arranged
  rw [List.forall₂_map_left_iff] at again
  refine forall₂_trans ?_ first again
  rintro child next other ⟨⟨x, y, isNext⟩, sameGiven⟩ ⟨left, top, rfl⟩
  have pair := sameButHeight_measured host next
  have given : widthFor? props (arranged props frame children).1
      ((arranged props frame children).2.map (measured host)) (measured host next) =
        widthFor? props frame children child :=
    (widthFor?_congr (forall₂_measured _) pair).trans sameGiven
  have layout_eq : (measured host next).layout = child.layout := by
    obtain ⟨height, same⟩ := pair
    rw [same, isNext, fit]
  have width_eq : (fit props (arranged props frame children).1
      ((arranged props frame children).2.map (measured host)) (measured host next)).width =
        (widthFor? props frame children child).elim child.width child.constraints.clampWidth := by
    obtain ⟨height, same⟩ := pair
    rw [fit, given, same, isNext]
    exact elim_elim _ _ _
  have noHeight : heightFor? props (arranged props frame children).1
      ((arranged props frame children).2.map (measured host)) (measured host next) = none ↔
        heightFor? props frame children child = none :=
    heightFor?_eq_none_congr map_layout_measured layout_eq
  refine ⟨?_, width_eq, fun notGiven => ?_, fun isGiven => ?_⟩
  · obtain ⟨height, same⟩ := pair
    rw [fit, same, isNext]
    exact ⟨left, top, _, _, rfl⟩
  · have nextHeight : next.height = child.height := by
      rw [isNext, fit, notGiven, Option.elim_none]
    have nextWidth : next.width =
        (widthFor? props frame children child).elim child.width child.constraints.clampWidth := by
      rw [isNext, fit]
    have sameMeasure : remeasuredHeight host next = remeasuredHeight host
        { child with width :=
            (widthFor? props frame children child).elim child.width child.constraints.clampWidth } := by
      apply remeasuredHeight_congr
      · rw [isNext, fit]
      · exact nextWidth
      · exact nextHeight
    change _ = (measured host { child with width := (fit props _ _ (measured host next)).width }).height
    rw [width_eq]
    simp only [fit, noHeight.mpr notGiven, Option.elim_none, height_measured, nextHeight, sameMeasure]
  · obtain ⟨height, given⟩ := Option.ne_none_iff_exists'.mp (mt noHeight.mp isGiven)
    obtain ⟨_, same⟩ := pair
    refine ⟨height, ?_⟩
    simp only [fit, given, Option.elim_some]
    rw [same, isNext, fit]

/-- A settled frame keeps its width unless it hugs. -/
theorem width_settled : (settled host props frame children).1.width =
    (hugWidth? props frame children).elim frame.width frame.constraints.clampWidth := by
  have measuredAlike : List.Forall₂ SameButHeight (arranged props frame children).2
      ((arranged props frame children).2.map (measured host)) := forall₂_measured _
  have again : hugWidth? props (arranged props frame children).1
      ((arranged props frame children).2.map (measured host)) = hugWidth? props frame children :=
    (hugWidth?_congr (flat_fit_congr measuredAlike) (extent_congr measuredAlike)).trans
      hugWidth?_arranged
  calc (settled host props frame children).1.width
      = (hugWidth? props (arranged props frame children).1
          ((arranged props frame children).2.map (measured host))).elim
            ((hugWidth? props frame children).elim frame.width frame.constraints.clampWidth)
            frame.constraints.clampWidth := rfl
    _ = _ := by rw [again, elim_elim]

/-- A settled frame keeps its height unless it hugs. -/
theorem height_settled (notHugged : hugHeight? props frame children = none) :
    (settled host props frame children).1.height = frame.height := by
  have first : (arranged props frame children).1.height = frame.height := by
    rw [arranged, hugged, notHugged]
    rfl
  have again : hugHeight? props (arranged props frame children).1
      ((arranged props frame children).2.map (measured host)) = none := by
    rw [hugHeight?] at notHugged ⊢
    cases mode : props.layoutMode with
    | none =>
        simp only [mode, ite_eq_right_iff, reduceCtorEq, imp_false] at notHugged ⊢
        rwa [first]
    | _ => simpa [mode] using notHugged
  rw [settled, arranged, hugged, again]
  exact first

/-- The hugged height of a settled frame is clamped. -/
theorem exists_height_settled (isHugged : hugHeight? props frame children ≠ none) :
    ∃ height, (settled host props frame children).1.height = frame.constraints.clampHeight height := by
  obtain ⟨first, given⟩ := Option.ne_none_iff_exists'.mp isHugged
  have firstHeight : (arranged props frame children).1.height = frame.constraints.clampHeight first := by
    rw [arranged, hugged, given]
    rfl
  rw [settled, arranged, hugged]
  cases again : hugHeight? props (arranged props frame children).1
      ((arranged props frame children).2.map (measured host)) with
  | none => exact ⟨first, firstHeight⟩
  | some second => exact ⟨second, rfl⟩

/-- No text whose height is its own would be measured otherwise. -/
def Quiet (host : Host Rat σ) (props : FrameProps Rat) (frame : SceneNode Rat)
    (children : List (SceneNode Rat)) : Prop :=
  ∀ child ∈ children, heightFor? props frame children child = none →
    remeasuredHeight host child = none

/-- A settled frame fits its children. -/
theorem fitted_settled : Fitted props (settled host props frame children).1
    (settled host props frame children).2 := arranged_eq_self_iff.mp arranged_arranged

/-- Settling keeps the layout settings of the children. -/
theorem map_layout_settled :
    (settled host props frame children).2.map (·.layout) = children.map (·.layout) := by
  have kept : (settled host props frame children).2.map (·.layout) =
      ((arranged props frame children).2.map (measured host)).map (·.layout) := by
    apply map_arranged
    rintro child _ ⟨x, y, width, height, rfl⟩
    rfl
  rw [kept, map_layout_measured]

/-- No child of a settled frame would be measured otherwise. -/
theorem quiet_settled : Quiet host props (settled host props frame children).1
    (settled host props frame children).2 := by
  intro other member notGiven
  obtain ⟨child, -, settles⟩ := exists_of_forall₂_right settles_settled member
  have same := settles.same
  have layout_eq : other.layout = child.layout := by
    obtain ⟨x, y, width, height, rfl⟩ := same
    rfl
  rw [heightFor?_eq_none_congr map_layout_settled layout_eq] at notGiven
  have height_eq := settles.height_eq notGiven
  obtain ⟨height, sameMeasured⟩ :=
    sameButHeight_measured host { child with width := other.width }
  rw [← remeasuredHeight_measured { child with width := other.width }]
  apply remeasuredHeight_congr
  · obtain ⟨_, _, _, _, rfl⟩ := same
    rw [sameMeasured]
  · rw [sameMeasured]
  · exact height_eq

/-- Measuring quiet children changes nothing about how they fit. -/
theorem sameFit_measured (quiet : Quiet host props frame children) :
    List.Forall₂ (SameFit props frame children) children (children.map (measured host)) := by
  rw [List.forall₂_map_right_iff, List.forall₂_same]
  intro child member
  obtain ⟨height, same⟩ := sameButHeight_measured host child
  refine ⟨⟨child.x, child.y, child.width, height, same⟩, fun _ => ?_, fun notGiven => ?_, fun _ => ?_⟩
  · rw [same]
  · rw [height_measured, quiet child member notGiven, Option.getD_none]
  · rw [same]
    exact ⟨rfl, rfl⟩

/-- Settling leaves exactly what fits and would not be measured otherwise. -/
theorem settled_eq_self_iff : settled host props frame children = (frame, children) ↔
    Fitted props frame children ∧ Quiet host props frame children := by
  constructor
  · intro stays
    have fitted : Fitted props (settled host props frame children).1
        (settled host props frame children).2 := fitted_settled
    have quiet : Quiet host props (settled host props frame children).1
        (settled host props frame children).2 := quiet_settled
    rw [stays] at fitted quiet
    exact ⟨fitted, quiet⟩
  · rintro ⟨fitted, quiet⟩
    have stays := arranged_eq_self_iff.mpr fitted
    rw [settled, stays]
    exact (arranged_congr (sameFit_measured quiet)).trans stays

/-- Arranging a frame of a scene once more changes nothing exactly if it fits already. -/
theorem arrangeGraph_eq_self_iff {graph : SceneGraph Rat} {id : Nat}
    (sound : WellFormed graph.outline) (family : graph.Family id frame children)
    (isFrame : frame.frame? = some props) :
    arrangeGraph host id graph = graph ↔
      Fitted props frame children ∧ Quiet host props frame children := by
  have turned : graph.Turns (arrangeGraph host id graph) id _ _ :=
    turns_arrangeGraph sound family isFrame
  have moved : graph.Moves id (arrangeGraph host id graph) := moves_arrangeGraph host sound
  have laterSound := moved.wellFormed sound
  rw [turned.eq_iff sound laterSound family]
  exact settled_eq_self_iff

end Settling

end Stage

end DesignScene
