/-
This file follows the texts of a scene from one step of its rendering to the next.
-/
import DesignScene.Proofs.Render.Depiction
import DesignScene.Proofs.Render.Lettering

namespace DesignScene

open Outlines

namespace SceneGraph

variable {α : Type} {graph later : SceneGraph α}

/-- The lettering of a node is read off its kind. -/
theorem lettering?_eq_kinds (graph : SceneGraph α) (id : Nat) :
    graph.lettering? id = (graph.kinds[id]?).bind NodeKind.lettering? := by
  rw [lettering?, getElem?_kinds, Option.bind_map]
  rfl

/-- A place without a node has no lettering. -/
theorem lettering?_eq_none {id : Nat} (absent : graph.size ≤ id) : graph.lettering? id = none := by
  rw [lettering?_eq_kinds, List.getElem?_eq_none (by rwa [length_kinds])]
  rfl

/-- A change that keeps the lettering of a node keeps it everywhere. -/
theorem lettering?_update {change : SceneNode α → SceneNode α}
    (kept : ∀ node, (change node).kind.lettering? = node.kind.lettering?) (id place : Nat) :
    (graph.update id change).lettering? place = graph.lettering? place := by
  rw [lettering?, lettering?, node?_update, Option.bind_map]
  congr 1
  funext node
  by_cases same : id = place
  · simp [same, kept]
  · simp [same]

/-- Moving and resizing nodes changes no text. -/
theorem Moves.lettering?_eq {bound : Nat} (moved : Moves bound graph later) (id : Nat) :
    later.lettering? id = graph.lettering? id := by
  have same := congrArg (·.bind NodeKind.lettering?) (moved.kind_eq id)
  simp only [Option.bind_map] at same
  exact same

/-- A new node adds its lettering at its place. -/
theorem lettering?_add [Scalar α] (graph : SceneGraph α) (parent : Option Nat)
    (hostId : Option String) (name : String) (kind : NodeKind α) (width height : α) (place : Nat) :
    (graph.add parent hostId name kind width height).lettering? place =
      if place = graph.size then kind.lettering? else graph.lettering? place := by
  rw [lettering?_eq_kinds, lettering?_eq_kinds, kinds_add]
  split
  · next last =>
      rw [last, ← length_kinds, List.getElem?_concat_length]
      rfl
  · next other =>
      rw [← length_kinds] at other
      rcases Nat.lt_or_gt_of_ne other with before | behind
      · rw [List.getElem?_append_left before]
      · have beyond : (graph.kinds ++ [kind]).length ≤ place := by
          rw [List.length_append, List.length_singleton]
          omega
        rw [List.getElem?_eq_none beyond, List.getElem?_eq_none (Nat.le_of_lt behind)]

end SceneGraph

/-- A copied node has the lettering of its blueprint. -/
theorem Stage.lettering?_blueprintNodeKind {α : Type} [Scalar α] (kind : BlueprintKind α) :
    (blueprintNodeKind kind).lettering? = kind.lettering? := by cases kind <;> rfl

namespace Stage

open SceneGraph

variable {α σ : Type}

/-- Some events tell what happened to the texts between two stages. -/
def Recounted (host : Host α σ) (stage later : Stage α σ) : Prop :=
  ∃ events, Recounts host stage events later

section Steps

variable {host : Host α σ} {stage next later : Stage α σ}

namespace Recounted

theorem refl (host : Host α σ) (stage : Stage α σ) : Recounted host stage stage :=
  ⟨[], (Asks.refl host stage).recounts⟩

theorem trans (first : Recounted host stage next) (second : Recounted host next later) :
    Recounted host stage later := by
  obtain ⟨events, recounts⟩ := first
  obtain ⟨more, further⟩ := second
  exact ⟨events ++ more, recounts.trans further⟩

/-- Steps that each have an account have one together. -/
theorem foldl {β : Type} {step : Stage α σ → β → Stage α σ}
    (each : ∀ stage entry, Recounted host stage (step stage entry)) (entries : List β)
    (stage : Stage α σ) : Recounted host stage (entries.foldl step stage) := by
  induction entries generalizing stage with
  | nil => exact .refl host stage
  | cons entry more ih => exact (each stage entry).trans (ih _)

/-- The nodes get settings that are no texts. -/
theorem update (host : Host α σ) (stage : Stage α σ) (id : Nat)
    {change : SceneNode α → SceneNode α}
    (kept : ∀ node, (change node).kind.lettering? = node.kind.lettering?) :
    Recounted host stage (stage.updateNode id change) :=
  ⟨[], .quiet rfl (lettering?_update kept id) (by simp [updateNode]) fun _ noted => noted⟩

theorem warn (host : Host α σ) (stage : Stage α σ) (path message : String) :
    Recounted host stage (stage.warn path message) :=
  ⟨[], ((Asks.refl host stage).warn path message).recounts⟩

/-- A new node is no text, or a place for one. -/
theorem addNode [Scalar α] (host : Host α σ) (stage : Stage α σ) (parent : Option Nat)
    (hostId : Option String) (name : String) {kind : NodeKind α} (empty : kind.lettering? = none)
    (width height : α) :
    Recounted host stage (stage.addNode parent hostId name kind width height) := by
  refine ⟨[], .quiet rfl (fun id => ?_) (by simp [Stage.addNode, size_add]) fun _ noted => noted⟩
  rw [Stage.addNode, lettering?_add]
  split
  · next last => rw [empty, last, lettering?_eq_none (Nat.le_refl _)]
  · rfl

end Recounted

end Steps

section Questions

variable (context : RenderContext α σ)

/-- The host is asked, perhaps several times, and then there may be a report. -/
def Asked (stage later : Stage α σ) : Prop := ∃ events, Asks context.host stage events later

variable {context}

/-- Questions to the host are an account of themselves. -/
theorem Asked.recounted {stage later : Stage α σ} (asked : Asked context stage later) :
    Recounted context.host stage later := by
  obtain ⟨events, asks⟩ := asked
  exact ⟨events, asks.recounts⟩

theorem Asked.trans {stage next later : Stage α σ} (first : Asked context stage next)
    (second : Asked context next later) : Asked context stage later := by
  obtain ⟨events, asks⟩ := first
  obtain ⟨more, further⟩ := second
  exact ⟨events ++ more, asks.trans further⟩

theorem Asked.warn {stage later : Stage α σ} (asked : Asked context stage later)
    (path message : String) : Asked context stage (later.warn path message) := by
  obtain ⟨events, asks⟩ := asked
  exact ⟨events, asks.warn path message⟩

variable (context)

theorem Asked.refl (stage : Stage α σ) : Asked context stage stage := ⟨[], .refl _ stage⟩

theorem asked_paintStyle {name : String} {answer : Option StyleRef} {stage later : Stage α σ}
    (asked : stage.ask (context.host.paintStyle name) = (answer, later)) :
    Asked context stage later := by
  cases asked
  exact ⟨[.paintStyle name], .ask stage _ (fun _ => rfl) rfl⟩

theorem asked_textStyleFor (path : String) (fontSize : α) (styleName : Option String)
    (stage : Stage α σ) :
    Asked context stage (stage.textStyleFor context path fontSize styleName).2.2 := by
  unfold textStyleFor
  split
  · exact .refl context stage
  · next name =>
      have asks : Asked context stage (stage.ask (context.host.textStyle name)).2 :=
        ⟨[.textStyle name], .ask stage _ (fun _ => rfl) rfl⟩
      split
      · next answered =>
          rw [answered] at asks
          exact asks
      · next answered =>
          rw [answered] at asks
          split
          · exact asks
          · exact asks.warn _ _

theorem asked_plainTextColor (path : String) (color : Option ColorRef) (stage : Stage α σ) :
    Asked context stage (stage.plainTextColor context path color).2.2 := by
  unfold plainTextColor
  split
  · exact .refl context stage
  · exact .refl context stage
  · split
    · exact .refl context stage
    · split
      · next answered => exact asked_paintStyle context answered
      · next answered => exact (asked_paintStyle context answered).warn _ _

theorem asked_textColorFor (path : String) (spec : TextSpec α) (stage : Stage α σ) :
    Asked context stage (stage.textColorFor context path spec).2.2 := by
  rw [textColorFor]
  split
  · exact asked_plainTextColor context path spec.color stage
  · split
    · next answered => exact asked_paintStyle context answered
    · next answered =>
        split
        · exact asked_paintStyle context answered
        · exact ((asked_paintStyle context answered).warn _ _).trans
            (asked_plainTextColor context path spec.color _)

theorem asked_paintFor (path : String) (color : ColorRef) (stage : Stage α σ) :
    Asked context stage (stage.paintFor context.styles path color).2 := by
  unfold paintFor
  split
  · exact .refl context stage
  · split
    · exact .refl context stage
    · exact (Asked.refl context stage).warn _ _

theorem asked_shapeFills (name : String) (spec : ShapeSpec α) (stage : Stage α σ) :
    Asked context stage (stage.shapeFills context name spec).2 := by
  rw [shapeFills]
  split
  · exact .refl context stage
  · exact asked_paintFor context name _ stage
  · exact .refl context stage

theorem asked_resolveReference (reference : String) (stage : Stage α σ) :
    Asked context stage (stage.resolveReference context reference).2 := by
  rw [resolveReference]
  split
  · exact .refl context stage
  · split
    · exact .refl context stage
    · exact ⟨[.icon reference], .ask stage _ (fun _ => rfl) rfl⟩

end Questions

section Properties

variable (context : RenderContext α σ) (instanceId : Nat) (path : String)

/-- Changing an instance keeps the lettering. -/
theorem lettering?_updateInstance (change : InstanceProps → InstanceProps) (node : SceneNode α) :
    (updateInstance change node).kind.lettering? = node.kind.lettering? := by
  cases kind : node.kind <;> simp [updateInstance, kind, NodeKind.lettering?]

/-- Writing a media reference keeps the lettering. -/
theorem lettering?_writeMedia (reference : String) (swap : Option String) (node : SceneNode α) :
    (writeMedia reference swap node).kind.lettering? = node.kind.lettering? := by
  cases kind : node.kind <;> simp [writeMedia, kind, NodeKind.lettering?]

/-- The fonts of a node are loaded before its text is written, unless its font is missing. -/
theorem recounted_setText (id : Nat) (characters : String) (stage : Stage α σ) :
    Recounted context.host stage (stage.setText context path id characters) := by
  rw [setText]
  split
  · exact .refl _ stage
  · next node found =>
      split
      · exact .warn _ stage _ _
      · next writable =>
          split
          · exact .refl _ stage
          · next props isText =>
              obtain ⟨events, asks, loaded⟩ := asks_loadFonts context props.fonts stage
              generalize stage.loadFonts context props.fonts = result at asks loaded
              obtain ⟨error | fonts, next⟩ := result
              · exact Recounted.trans ⟨events, asks.recounts⟩ (.warn _ next _ _)
              · have written (place : Nat) :
                    (next.updateNode id (writeText characters fonts)).graph.lettering? place =
                      if place = id then some ⟨characters, fonts⟩
                      else next.graph.lettering? place := by
                  rw [← asks.graph_eq] at found
                  split
                  · next same =>
                      have written := node?_update_self found (writeText characters fonts)
                      cases kind : node.kind with
                      | text _ => simp [same, lettering?, updateNode, written, writeText, kind,
                          NodeKind.lettering?]
                      | _ => simp [SceneNode.text?, kind] at isText
                  · next other =>
                      have untouched :
                          (next.graph.update id (writeText characters fonts)).node? place =
                            next.graph.node? place := node?_update_of_ne (Ne.symm other) _
                      simp only [lettering?, updateNode, untouched]
                refine ⟨_, asks.recounts.write (loaded rfl) (fun noted => ?_) rfl written
                  (by simp [updateNode]) rfl⟩
                rw [asks.missingFonts_eq] at noted
                exact absurd (List.contains_iff_mem.mpr noted) writable

theorem recounted_setVisible (visible : Bool) (id : Nat) (stage : Stage α σ) :
    Recounted context.host stage (stage.setVisible visible id) :=
  .update _ stage id fun _ => rfl

theorem recounted_spreadOver (nodes : List Nat) (limit : Nat) (texts : List String)
    (stage : Stage α σ) :
    Recounted context.host stage (stage.spreadOver context path limit nodes texts) := by
  induction nodes generalizing limit texts stage with
  | nil => exact .refl _ stage
  | cons id more ih =>
      unfold spreadOver
      split
      · exact (recounted_setText context path id _ stage).trans (ih _ _ _)
      · exact (recounted_setVisible context false id stage).trans (ih _ _ _)

theorem recounted_applyBinding (stage : Stage α σ) (binding : SlotBinding) :
    Recounted context.host stage (stage.applyBinding context instanceId path binding) := by
  rw [applyBinding]
  split
  · split
    · exact recounted_setText context path _ _ stage
    · exact .warn _ stage _ _
  · exact recounted_spreadOver context path _ _ _ stage

theorem recounted_hideSlot (stage : Stage α σ) (slot : SlotRef) :
    Recounted context.host stage (stage.hideSlot instanceId slot) := by
  rw [hideSlot]
  split
  · exact recounted_setVisible context false _ stage
  · exact .refl _ stage

theorem recounted_applyText (stage : Stage α σ) (assignment : TextAssignment) :
    Recounted context.host stage (stage.applyText context instanceId path assignment) :=
  (Recounted.foldl (recounted_applyBinding context instanceId path) assignment.bindings stage).trans
    (.foldl (recounted_hideSlot context instanceId) assignment.hiddenSlots _)

theorem recounted_applyMedia (stage : Stage α σ) (media : MediaAssignment) :
    Recounted context.host stage (stage.applyMedia context instanceId path media) := by
  rw [applyMedia]
  split
  · exact .warn _ stage _ _
  · split
    · exact recounted_setVisible context _ _ stage
    · dsimp only
      split
      · exact (asked_resolveReference context _ stage).recounted.trans
          (.update _ _ _ (lettering?_writeMedia _ _))
      · exact .update _ stage _ (lettering?_writeMedia _ _)

theorem recounted_applyVisibility (stage : Stage α σ) (override : String × Bool) :
    Recounted context.host stage (stage.applyVisibility instanceId path override) := by
  simp only [applyVisibility]
  split
  · exact recounted_setVisible context _ _ stage
  · exact .warn _ stage _ _

theorem recounted_applyIconSwap (stage : Stage α σ) (swap : String × String) :
    Recounted context.host stage (stage.applyIconSwap context instanceId path swap) := by
  have asked := asked_resolveReference context swap.2 stage
  simp only [applyIconSwap]
  split
  · exact .warn _ stage _ _
  · split
    · next answered =>
        rw [answered] at asked
        exact (asked.warn _ _).recounted
    · next answered =>
        rw [answered] at asked
        exact asked.recounted.trans (.update _ _ _ (lettering?_updateInstance _))

theorem recounted_applyVariant (blueprint : Blueprint α) (stage : Stage α σ)
    (variant : String × String) :
    Recounted context.host stage (stage.applyVariant blueprint instanceId path variant) := by
  simp only [applyVariant]
  split
  · exact .update _ stage _ (lettering?_updateInstance _)
  · exact .warn _ stage _ _

theorem recounted_applyProperties [Scalar α] (blueprint : Blueprint α) (spec : ComponentSpec)
    (resolved : ResolvedProperties α) (parent : Nat) (stage : Stage α σ) :
    Recounted context.host stage
      (stage.applyProperties context blueprint spec resolved instanceId parent path) := by
  have varied : Recounted context.host stage
      (stage.applyVariants blueprint instanceId path resolved.variants) :=
    .foldl (recounted_applyVariant context instanceId path blueprint) resolved.variants stage
  have laidOut : Recounted context.host stage
      (stage.dress blueprint resolved instanceId parent path) :=
    varied.trans (.update _ _ instanceId fun _ => rfl)
  have written := laidOut.trans
    (.foldl (recounted_applyText context instanceId path) resolved.textProperties _)
  have filled := written.trans
    (.foldl (recounted_applyMedia context instanceId path) resolved.mediaProperties _)
  have shown := filled.trans
    (.foldl (recounted_applyVisibility context instanceId path) spec.visibilityOverrides _)
  exact shown.trans (.foldl (recounted_applyIconSwap context instanceId path) spec.iconSwaps _)

end Properties

end Stage

end DesignScene
