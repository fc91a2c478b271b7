/-
This file says what the properties of a component can do to a scene: they only set up its nodes.
-/
import DesignScene.Proofs.Render.Keeps

namespace DesignScene

open Outlines

namespace SceneNode

variable {α : Type}

/-- The node as it would be at another place. -/
def placedAt (id : Nat) (hostId : String) (parent : Option Nat) (children : List Nat)
    (node : SceneNode α) : SceneNode α :=
  { node with id := id, hostId := hostId, parent := parent, children := children }

/-- The change keeps where the node stands and what it is called, and does not look at its place. -/
structure IsSetting (change : SceneNode α → SceneNode α) : Prop where
  outline_eq : ∀ node, (change node).outline = node.outline
  hostId_eq : ∀ node, (change node).hostId = node.hostId
  name_eq : ∀ node, (change node).name = node.name
  placedAt_eq : ∀ id hostId parent children node,
    change (node.placedAt id hostId parent children) =
      (change node).placedAt id hostId parent children

namespace IsSetting

variable {change : SceneNode α → SceneNode α}

/-- A setting keeps the identifier. -/
theorem id_eq (setting : IsSetting change) (node : SceneNode α) : (change node).id = node.id :=
  congrArg NodeOutline.id (setting.outline_eq node)

/-- A setting keeps the parent. -/
theorem parent_eq (setting : IsSetting change) (node : SceneNode α) :
    (change node).parent = node.parent := congrArg NodeOutline.parent (setting.outline_eq node)

/-- A setting keeps the children. -/
theorem children_eq (setting : IsSetting change) (node : SceneNode α) :
    (change node).children = node.children :=
  congrArg NodeOutline.children (setting.outline_eq node)

end IsSetting

theorem isSetting_visible (visible : Bool) :
    IsSetting fun node : SceneNode α => { node with visible := visible } :=
  ⟨fun _ => rfl, fun _ => rfl, fun _ => rfl, fun _ _ _ _ _ => rfl⟩

end SceneNode

namespace Stage

open SceneNode

variable {α σ : Type}

section Settings

theorem isSetting_updateInstance (change : InstanceProps → InstanceProps) :
    IsSetting (updateInstance (α := α) change) where
  outline_eq node := by cases kind : node.kind <;> simp [updateInstance, outline, NodeKind.form, kind]
  hostId_eq node := by cases kind : node.kind <;> simp [updateInstance, kind]
  name_eq node := by cases kind : node.kind <;> simp [updateInstance, kind]
  placedAt_eq _ _ _ _ node := by cases kind : node.kind <;> simp [updateInstance, placedAt, kind]

theorem isSetting_writeText (characters : String) (fonts : List FontName) :
    IsSetting (writeText (α := α) characters fonts) where
  outline_eq node := by cases kind : node.kind <;> simp [writeText, outline, NodeKind.form, kind]
  hostId_eq node := by cases kind : node.kind <;> simp [writeText, kind]
  name_eq node := by cases kind : node.kind <;> simp [writeText, kind]
  placedAt_eq _ _ _ _ node := by cases kind : node.kind <;> simp [writeText, placedAt, kind]

theorem isSetting_writeMedia (reference : String) (swap : Option String) :
    IsSetting (writeMedia (α := α) reference swap) where
  outline_eq node := by cases kind : node.kind <;> simp [writeMedia, outline, NodeKind.form, kind]
  hostId_eq _ := rfl
  name_eq _ := rfl
  placedAt_eq _ _ _ _ _ := rfl

/-- The change that lays out an instance. -/
def layOut [Scalar α] (layout : ChildLayout α) (constraints : SizeConstraints α) (fill : Option α)
    (node : SceneNode α) : SceneNode α :=
  { node with
    layout := layout
    constraints := constraints
    width := fill.elim node.width constraints.clampWidth }

theorem isSetting_layOut [Scalar α] (layout : ChildLayout α) (constraints : SizeConstraints α)
    (fill : Option α) : IsSetting (layOut layout constraints fill) :=
  ⟨fun _ => rfl, fun _ => rfl, fun _ => rfl, fun _ _ _ _ _ => rfl⟩

end Settings

/-- The later stage comes by reports, questions to the host and new settings of nodes from the bound on. -/
inductive Edits (bound : Nat) (stage : Stage α σ) : Stage α σ → Prop where
  | refl : Edits bound stage stage
  | warn {next : Stage α σ} (edits : Edits bound stage next) (path message : String) :
      Edits bound stage (next.warn path message)
  | ask {next : Stage α σ} (edits : Edits bound stage next) (hostState : σ) :
      Edits bound stage { next with hostState := hostState }
  | set {next : Stage α σ} (edits : Edits bound stage next) {id : Nat}
      {change : SceneNode α → SceneNode α} (behind : bound ≤ id) (setting : IsSetting change) :
      Edits bound stage (next.updateNode id change)

namespace Edits

variable {bound : Nat} {stage next later : Stage α σ}

theorem trans (first : Edits bound stage next) (second : Edits bound next later) :
    Edits bound stage later := by
  induction second with
  | refl => exact first
  | warn _ path message ih => exact ih.warn path message
  | ask _ hostState ih => exact ih.ask hostState
  | set _ behind setting ih => exact ih.set behind setting

/-- Edits behind a place are edits behind any earlier one. -/
theorem mono {least : Nat} (edits : Edits bound stage later) (smaller : least ≤ bound) :
    Edits least stage later := by
  induction edits with
  | refl => exact .refl
  | warn _ path message ih => exact ih.warn path message
  | ask _ hostState ih => exact ih.ask hostState
  | set _ behind setting ih => exact ih.set (Nat.le_trans smaller behind) setting

/-- Edits add and remove no node. -/
theorem keeps (edits : Edits bound stage later) : Keeps bound stage later := by
  induction edits with
  | refl => exact .refl bound stage
  | warn _ path message ih => exact ih.trans (keeps_warn _ path message)
  | ask _ hostState ih => exact ih.trans (keeps_ask _ fun _ => ((), hostState))
  | set _ behind setting ih => exact ih.trans (keeps_updateNode _ behind setting.outline_eq)

theorem wellFormed (edits : Edits bound stage later) (sound : WellFormed stage.graph.outline) :
    WellFormed later.graph.outline := edits.keeps.wellFormed sound

/-- Edits change nothing about missing fonts. -/
theorem missingFonts_eq (edits : Edits bound stage later) :
    later.missingFonts = stage.missingFonts := by
  induction edits with
  | refl => rfl
  | warn _ _ _ ih => exact ih
  | ask _ _ ih => exact ih
  | set _ _ _ ih => exact ih

/-- Steps that are all edits are an edit together. -/
theorem foldl {β : Type} {step : Stage α σ → β → Stage α σ} (entries : List β)
    (each : ∀ stage : Stage α σ, WellFormed stage.graph.outline →
      ∀ entry ∈ entries, Edits bound stage (step stage entry))
    (stage : Stage α σ) (sound : WellFormed stage.graph.outline) :
    Edits bound stage (entries.foldl step stage) := by
  induction entries generalizing stage with
  | nil => exact .refl
  | cons entry more ih =>
      have first := each stage sound entry List.mem_cons_self
      exact first.trans (ih (fun stage sound other member =>
        each stage sound other (List.mem_cons_of_mem _ member)) _ (first.wellFormed sound))

end Edits

section Asking

variable {bound : Nat}

theorem edits_setVisible (stage : Stage α σ) (visible : Bool) {id : Nat} (behind : bound ≤ id) :
    Edits bound stage (stage.setVisible visible id) :=
  Edits.refl.set behind (isSetting_visible visible)

theorem edits_of_ask {β : Type} {question : σ → β × σ} {answer : β} {stage later : Stage α σ}
    (asked : stage.ask question = (answer, later)) : Edits bound stage later := by
  cases asked
  exact Edits.refl.ask _

theorem edits_textStyleFor (context : RenderContext α σ) (path : String) (fontSize : α)
    (styleName : Option String) (stage : Stage α σ) :
    Edits bound stage (stage.textStyleFor context path fontSize styleName).2.2 := by
  unfold textStyleFor
  split
  · exact .refl
  · split
    · next asked => exact edits_of_ask asked
    · next asked =>
        split
        · exact edits_of_ask asked
        · exact (edits_of_ask asked).warn _ _

theorem edits_plainTextColor (context : RenderContext α σ) (path : String)
    (color : Option ColorRef) (stage : Stage α σ) :
    Edits bound stage (stage.plainTextColor context path color).2.2 := by
  unfold plainTextColor
  split
  · exact .refl
  · exact .refl
  · split
    · exact .refl
    · split
      · next asked => exact edits_of_ask asked
      · next asked => exact (edits_of_ask asked).warn _ _

theorem edits_textColorFor (context : RenderContext α σ) (path : String) (spec : TextSpec α)
    (stage : Stage α σ) : Edits bound stage (stage.textColorFor context path spec).2.2 := by
  rw [textColorFor]
  split
  · exact edits_plainTextColor context path spec.color stage
  · split
    · next asked => exact edits_of_ask asked
    · next asked =>
        split
        · exact edits_of_ask asked
        · exact ((edits_of_ask asked).warn _ _).trans
            (edits_plainTextColor context path spec.color _)

theorem edits_paintFor (styles : DesignStyles α) (path : String) (color : ColorRef)
    (stage : Stage α σ) : Edits bound stage (stage.paintFor styles path color).2 := by
  unfold paintFor
  split
  · exact .refl
  · split
    · exact .refl
    · exact Edits.refl.warn _ _

theorem edits_shapeFills (context : RenderContext α σ) (name : String) (spec : ShapeSpec α)
    (stage : Stage α σ) : Edits bound stage (stage.shapeFills context name spec).2 := by
  rw [shapeFills]
  split
  · exact .refl
  · exact edits_paintFor context.styles name _ stage
  · exact .refl

/-- No member is lost, and none is added. -/
theorem mem_distinct {β : Type} [DecidableEq β] {member : β} {members : List β} :
    member ∈ distinct members ↔ member ∈ members := by
  have gathered (found more : List β) : member ∈ more.foldl
      (fun found member => if member ∈ found then found else found ++ [member]) found ↔
        member ∈ found ∨ member ∈ more := by
    induction more generalizing found with
    | nil => simp
    | cons first more ih =>
        rw [List.foldl_cons, ih, List.mem_cons, ← or_assoc]
        by_cases known : first ∈ found
        · have already : member = first → member ∈ found := by
            rintro rfl
            exact known
          rw [if_pos known, or_iff_left_of_imp already]
        · rw [if_neg known, List.mem_append, List.mem_singleton]
  rw [distinct, gathered]
  exact or_iff_right List.not_mem_nil

theorem edits_loadAll (host : Host α σ) (fonts : List FontName) (stage : Stage α σ) :
    Edits bound stage (loadAll host fonts stage).2 := by
  induction fonts generalizing stage with
  | nil => exact .refl
  | cons font more ih => exact (Edits.refl.ask _).trans (ih _)

theorem edits_of_loadFonts {context : RenderContext α σ} {fonts : List FontName}
    {stage later : Stage α σ} {result : Except RenderError (List FontName)}
    (loaded : stage.loadFonts context fonts = (result, later)) : Edits bound stage later := by
  have edits : Edits bound stage (loadAll context.host (distinct fonts) stage).2 :=
    edits_loadAll context.host (distinct fonts) stage
  rw [loadFonts] at loaded
  split at loaded
  · next all =>
      cases loaded
      rwa [all] at edits
  · next all =>
      cases loaded
      rw [all] at edits
      exact edits.ask _

/-- To resolve a reference changes nothing but the state of the host. -/
theorem exists_hostState_of_resolveReference (context : RenderContext α σ) (reference : String)
    (stage : Stage α σ) :
    ∃ hostState, (stage.resolveReference context reference).2 =
      { stage with hostState := hostState } := by
  rw [resolveReference]
  split
  · exact ⟨stage.hostState, rfl⟩
  · split
    · exact ⟨stage.hostState, rfl⟩
    · exact ⟨_, rfl⟩

theorem edits_resolveReference (context : RenderContext α σ) (reference : String)
    (stage : Stage α σ) : Edits bound stage (stage.resolveReference context reference).2 := by
  obtain ⟨hostState, asked⟩ := exists_hostState_of_resolveReference context reference stage
  rw [asked]
  exact Edits.refl.ask hostState

end Asking

section Properties

variable {instanceId : Nat}

theorem edits_applyVariants (blueprint : Blueprint α) (path : String) (variants : Dict String)
    {stage : Stage α σ} (sound : WellFormed stage.graph.outline) :
    Edits instanceId stage (stage.applyVariants blueprint instanceId path variants) := by
  refine Edits.foldl variants (fun stage _ variant _ => ?_) stage sound
  simp only [applyVariant]
  split
  · exact Edits.refl.set (Nat.le_refl instanceId) (isSetting_updateInstance _)
  · exact Edits.refl.warn _ _

theorem edits_setText (context : RenderContext α σ) (path : String) {bound id : Nat}
    (behind : bound ≤ id) (characters : String) (stage : Stage α σ) :
    Edits bound stage (stage.setText context path id characters) := by
  rw [setText]
  split
  · exact .refl
  · split
    · exact Edits.refl.warn _ _
    · split
      · exact .refl
      · split
        · next loaded => exact (edits_of_loadFonts loaded).warn _ _
        · next loaded => exact (edits_of_loadFonts loaded).set behind (isSetting_writeText _ _)

theorem edits_spreadOver (context : RenderContext α σ) (path : String) {bound : Nat}
    {nodes : List Nat} (behind : ∀ id ∈ nodes, bound ≤ id) (limit : Nat) (texts : List String)
    (stage : Stage α σ) : Edits bound stage (stage.spreadOver context path limit nodes texts) := by
  induction nodes generalizing limit texts stage with
  | nil => exact .refl
  | cons id more ih =>
      have first := behind id List.mem_cons_self
      have later := fun other member => behind other (List.mem_cons_of_mem _ member)
      unfold spreadOver
      split
      · exact (edits_setText context path first _ stage).trans (ih later _ _ _)
      · exact (edits_setVisible stage false first).trans (ih later _ _ _)

theorem edits_hideSlot {stage : Stage α σ} (sound : WellFormed stage.graph.outline)
    (slot : SlotRef) : Edits (instanceId + 1) stage (stage.hideSlot instanceId slot) := by
  rw [hideSlot]
  split
  · next found => exact edits_setVisible stage false (SceneGraph.lt_of_locate sound found)
  · exact .refl

theorem edits_applyBinding (context : RenderContext α σ) (path : String) {stage : Stage α σ}
    (sound : WellFormed stage.graph.outline) (binding : SlotBinding) :
    Edits (instanceId + 1) stage (stage.applyBinding context instanceId path binding) := by
  rw [applyBinding]
  split
  · split
    · next found =>
        exact edits_setText context path (SceneGraph.lt_of_locate sound found) _ stage
    · exact Edits.refl.warn _ _
  · exact edits_spreadOver context path
      (fun id member => SceneGraph.lt_of_mem_slotTexts sound member) _ _ stage

theorem edits_applyBindings (context : RenderContext α σ) (path : String) {stage : Stage α σ}
    (sound : WellFormed stage.graph.outline) (bindings : List SlotBinding) :
    Edits (instanceId + 1) stage (bindings.foldl (applyBinding context instanceId path) stage) :=
  Edits.foldl bindings (fun _ sound binding _ => edits_applyBinding context path sound binding)
    stage sound

theorem edits_applyText (context : RenderContext α σ) (path : String) {stage : Stage α σ}
    (sound : WellFormed stage.graph.outline) (assignment : TextAssignment) :
    Edits (instanceId + 1) stage (stage.applyText context instanceId path assignment) := by
  have bound : Edits (instanceId + 1) stage
      (assignment.bindings.foldl (applyBinding context instanceId path) stage) :=
    edits_applyBindings context path sound assignment.bindings
  exact bound.trans
    (Edits.foldl _ (fun _ sound slot _ => edits_hideSlot sound slot) _ (bound.wellFormed sound))

theorem edits_applyTexts (context : RenderContext α σ) (path : String) {stage : Stage α σ}
    (sound : WellFormed stage.graph.outline) (assignments : List TextAssignment) :
    Edits (instanceId + 1) stage (assignments.foldl (applyText context instanceId path) stage) :=
  Edits.foldl assignments (fun _ sound assignment _ => edits_applyText context path sound assignment)
    stage sound

theorem edits_applyMedia (context : RenderContext α σ) (path : String) {stage : Stage α σ}
    (sound : WellFormed stage.graph.outline) (media : MediaAssignment) :
    Edits (instanceId + 1) stage (stage.applyMedia context instanceId path media) := by
  rw [applyMedia]
  split
  · exact Edits.refl.warn _ _
  · next found =>
      have behind := SceneGraph.lt_of_locate sound found
      split
      · exact edits_setVisible stage _ behind
      · dsimp only
        split
        · exact (edits_resolveReference context _ stage).set behind (isSetting_writeMedia _ _)
        · exact Edits.refl.set behind (isSetting_writeMedia _ _)

theorem edits_applyVisibility (path : String) {stage : Stage α σ}
    (sound : WellFormed stage.graph.outline) (override : String × Bool) :
    Edits (instanceId + 1) stage (stage.applyVisibility instanceId path override) := by
  simp only [applyVisibility]
  split
  · next found => exact edits_setVisible stage _ (SceneGraph.lt_of_locate sound found)
  · exact Edits.refl.warn _ _

theorem edits_applyIconSwap (context : RenderContext α σ) (path : String) {stage : Stage α σ}
    (sound : WellFormed stage.graph.outline) (swap : String × String) :
    Edits (instanceId + 1) stage (stage.applyIconSwap context instanceId path swap) := by
  have resolved : Edits (instanceId + 1) stage (stage.resolveReference context swap.2).2 :=
    edits_resolveReference context swap.2 stage
  simp only [applyIconSwap]
  split
  · exact Edits.refl.warn _ _
  · next found =>
      have behind := SceneGraph.lt_of_iconTarget sound found
      split
      · next asked =>
          rw [asked] at resolved
          exact resolved.warn _ _
      · next asked =>
          rw [asked] at resolved
          exact resolved.set behind (isSetting_updateInstance _)

/-- The media, the visibility and the icons of an instance, after its texts. -/
def adorn (context : RenderContext α σ) (spec : ComponentSpec) (resolved : ResolvedProperties α)
    (instanceId : Nat) (path : String) (stage : Stage α σ) : Stage α σ :=
  let stage := resolved.mediaProperties.foldl (applyMedia context instanceId path) stage
  let stage := spec.visibilityOverrides.foldl (applyVisibility instanceId path) stage
  spec.iconSwaps.foldl (applyIconSwap context instanceId path) stage

theorem edits_adorn (context : RenderContext α σ) (spec : ComponentSpec)
    (resolved : ResolvedProperties α) (instanceId : Nat) (path : String) {stage : Stage α σ}
    (sound : WellFormed stage.graph.outline) :
    Edits (instanceId + 1) stage (stage.adorn context spec resolved instanceId path) := by
  have filled : Edits (instanceId + 1) stage _ := Edits.foldl resolved.mediaProperties
    (fun _ sound media _ => edits_applyMedia context path sound media) _ sound
  have shown := filled.trans (Edits.foldl spec.visibilityOverrides
    (fun _ sound override _ => edits_applyVisibility path sound override) _
    (filled.wellFormed sound))
  exact shown.trans (Edits.foldl spec.iconSwaps
    (fun _ sound swap _ => edits_applyIconSwap context path sound swap) _
    (shown.wellFormed sound))

/-- What follows after the variants and the layout leaves the instance itself. -/
theorem edits_furnish (context : RenderContext α σ) (spec : ComponentSpec)
    (resolved : ResolvedProperties α) (instanceId : Nat) (path : String) {stage : Stage α σ}
    (sound : WellFormed stage.graph.outline) :
    Edits (instanceId + 1) stage
      ((resolved.textProperties.foldl (applyText context instanceId path) stage).adorn context spec
        resolved instanceId path) := by
  have written : Edits (instanceId + 1) stage _ :=
    edits_applyTexts context path sound resolved.textProperties
  exact written.trans (edits_adorn context spec resolved instanceId path (written.wellFormed sound))

variable [Scalar α]

theorem edits_applyLayout (parent : Nat) (directive : LayoutDirective α) (stage : Stage α σ) :
    Edits instanceId stage (stage.applyLayout instanceId parent directive) :=
  Edits.refl.set (Nat.le_refl instanceId) (isSetting_layOut _ _ _)

/-- The variants and the layout of an instance, before its texts. -/
def dress (blueprint : Blueprint α) (resolved : ResolvedProperties α) (instanceId parent : Nat)
    (path : String) (stage : Stage α σ) : Stage α σ :=
  (stage.applyVariants blueprint instanceId path resolved.variants).applyLayout instanceId parent
    resolved.layoutProperties

theorem applyProperties_eq (context : RenderContext α σ) (blueprint : Blueprint α)
    (spec : ComponentSpec) (resolved : ResolvedProperties α) (instanceId parent : Nat)
    (path : String) (stage : Stage α σ) :
    stage.applyProperties context blueprint spec resolved instanceId parent path =
      (resolved.textProperties.foldl (applyText context instanceId path)
        (stage.dress blueprint resolved instanceId parent path)).adorn context spec resolved
          instanceId path := rfl

theorem edits_dress (blueprint : Blueprint α) (resolved : ResolvedProperties α)
    (instanceId parent : Nat) (path : String) {stage : Stage α σ}
    (sound : WellFormed stage.graph.outline) :
    Edits instanceId stage (stage.dress blueprint resolved instanceId parent path) := by
  have varied : Edits instanceId stage _ :=
    edits_applyVariants blueprint path resolved.variants sound
  exact varied.trans (edits_applyLayout parent resolved.layoutProperties _)

/-- Whatever properties a component has, only its instance and the nodes behind it are set up. -/
theorem edits_applyProperties (context : RenderContext α σ) (blueprint : Blueprint α)
    (spec : ComponentSpec) (resolved : ResolvedProperties α) (instanceId parent : Nat)
    (path : String) {stage : Stage α σ} (sound : WellFormed stage.graph.outline) :
    Edits instanceId stage
      (stage.applyProperties context blueprint spec resolved instanceId parent path) := by
  have dressed : Edits instanceId stage _ :=
    edits_dress blueprint resolved instanceId parent path sound
  have furnished := edits_furnish context spec resolved instanceId path (dressed.wellFormed sound)
  exact dressed.trans (furnished.mono (Nat.le_succ instanceId))

end Properties

end Stage

end DesignScene
