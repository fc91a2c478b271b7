/-
This file shows that the last visibility override of a node decides whether it is shown in the end.
-/
import DesignScene.Proofs.Render.IconSwaps
import DesignScene.Proofs.Render.Staged
import DesignScene.Proofs.Render.Visibility

namespace DesignScene

open Outlines SceneGraph

namespace SceneGraph

variable {α : Type} {graph later : SceneGraph α} {instanceId id : Nat}

/-- Whether the node is shown, if there is one. -/
def visible? (graph : SceneGraph α) (id : Nat) : Option Bool := (graph.node? id).map (·.visible)

/-- What the last override says that leads to the node. -/
def lastOverride (graph : SceneGraph α) (instanceId id : Nat) (overrides : List (String × Bool)) :
    Option Bool :=
  ((overrides.filter fun override =>
    graph.locate instanceId override.1 override.1 == some id).getLast?).map (·.2)

/-- The overrides that lead to no node of the instance. -/
def lostOverrides (graph : SceneGraph α) (instanceId : Nat) (overrides : List (String × Bool)) :
    List (String × Bool) :=
  overrides.filter fun override => (graph.locate instanceId override.1 override.1).isNone

/-- A later override wins over the first one. -/
theorem lastOverride_cons (override : String × Bool) (more : List (String × Bool)) :
    graph.lastOverride instanceId id (override :: more) =
      (graph.lastOverride instanceId id more).or
        (if graph.locate instanceId override.1 override.1 = some id then some override.2
          else none) := by
  unfold lastOverride
  by_cases leads : graph.locate instanceId override.1 override.1 = some id
  · rw [List.filter_cons_of_pos (by simp [leads]), List.getLast?_cons, if_pos leads]
    cases (more.filter _).getLast? <;> rfl
  · rw [List.filter_cons_of_neg (by simp [leads]), if_neg leads, Option.or_none]

section Labels

variable (same : later.labelsBelow instanceId = graph.labelsBelow instanceId)

include same

/-- The last override for a node depends on the labels below the instance only. -/
theorem lastOverride_congr (overrides : List (String × Bool)) :
    later.lastOverride instanceId id overrides = graph.lastOverride instanceId id overrides := by
  simp only [lastOverride, locate_congr same]

/-- The lost overrides depend on the labels below the instance only. -/
theorem lostOverrides_congr (overrides : List (String × Bool)) :
    later.lostOverrides instanceId overrides = graph.lostOverrides instanceId overrides := by
  simp only [lostOverrides, locate_congr same]

end Labels

/-- A located node is below its instance. -/
theorem isBelow_of_locate (sound : WellFormed graph.outline) {nodeId name : String}
    (found : graph.locate instanceId nodeId name = some id) : graph.IsBelow instanceId id := by
  obtain ⟨node, member, rfl⟩ := exists_mem_of_locate found
  exact isBelow_of_mem_descendants sound (mem_descendants_of_mem_descendantNodes sound member)

/-- A node below an instance has a parent that is the instance or below it. -/
theorem IsBelow.exists_node (below : graph.IsBelow instanceId id) :
    ∃ node above, graph.node? id = some node ∧ node.parent = some above ∧
      (above = instanceId ∨ graph.IsBelow instanceId above) := by
  cases below with
  | child found isParent => exact ⟨_, _, found, isParent, .inl rfl⟩
  | deeper found isParent between => exact ⟨_, _, found, isParent, .inr between⟩

/-- What stands inside an instance that is spared is still shown or hidden. -/
theorem Spares.visible?_eq (spared : graph.Spares instanceId later)
    (sound : WellFormed graph.outline) (below : graph.IsBelow instanceId id) :
    later.visible? id = graph.visible? id := by
  obtain ⟨node, above, found, isParent, place⟩ := below.exists_node
  have inside : instanceId ≤ above := by
    rcases place with rfl | between
    · exact Nat.le_refl _
    · exact Nat.le_of_lt (between.lt sound)
  rw [visible?, visible?, spared.inner inside isParent found, found]

end SceneGraph

namespace Stage

variable {α σ : Type} {instanceId : Nat} {path : String} {stage later : Stage α σ}

/-- The warnings about overrides that lead nowhere. -/
def lostWarnings (path : String) (overrides : List (String × Bool)) : List RenderWarning :=
  overrides.map fun override =>
    ⟨path, "Visibility override target '" ++ override.1 ++ "' not found"⟩

section Overriding

/-- One override shows or hides the node to which it leads, and no other one. -/
theorem visible?_applyVisibility (sound : WellFormed stage.graph.outline)
    (override : String × Bool) (id : Nat) :
    (stage.applyVisibility instanceId path override).graph.visible? id =
      (if stage.graph.locate instanceId override.1 override.1 = some id then some override.2
        else none).or (stage.graph.visible? id) := by
  obtain ⟨nodeId, visible⟩ := override
  by_cases leads : stage.graph.locate instanceId nodeId nodeId = some id
  · obtain ⟨node, above, found, -⟩ := (isBelow_of_locate sound leads).exists_node
    rw [if_pos leads, Option.some_or, visible?]
    simp only [applyVisibility, leads, setVisible, updateNode]
    rw [node?_update_self found, Option.map_some]
  · rw [if_neg leads, Option.none_or]
    exact visible_applyVisibility_of_ne path leads visible

/-- An override is reported just when it leads nowhere. -/
theorem report_applyVisibility (override : String × Bool) :
    (stage.applyVisibility instanceId path override).report =
      { stage.report with
        warnings := stage.report.warnings ++
          lostWarnings path (stage.graph.lostOverrides instanceId [override]) } := by
  obtain ⟨nodeId, visible⟩ := override
  simp only [applyVisibility]
  cases located : stage.graph.locate instanceId nodeId nodeId with
  | none => simp [lostOverrides, lostWarnings, located, warn]
  | some id => simp [lostOverrides, lostWarnings, located, setVisible, updateNode]

theorem edits_applyVisibilities (instanceId : Nat) (path : String)
    (overrides : List (String × Bool)) (sound : WellFormed stage.graph.outline) :
    Edits (instanceId + 1) stage (overrides.foldl (applyVisibility instanceId path) stage) :=
  Edits.foldl overrides (fun _ sound override _ => edits_applyVisibility path sound override) stage
    sound

/-- Of all overrides that lead to a node the last one counts, and those that lead nowhere are reported. -/
theorem applyVisibilities (instanceId : Nat) (path : String) (overrides : List (String × Bool))
    (sound : WellFormed stage.graph.outline) :
    (∀ id, (overrides.foldl (applyVisibility instanceId path) stage).graph.visible? id =
      (stage.graph.lastOverride instanceId id overrides).or (stage.graph.visible? id)) ∧
      (overrides.foldl (applyVisibility instanceId path) stage).report =
        { stage.report with
          warnings := stage.report.warnings ++
            lostWarnings path (stage.graph.lostOverrides instanceId overrides) } := by
  induction overrides generalizing stage with
  | nil => exact ⟨fun _ => rfl, by simp [lostOverrides, lostWarnings]⟩
  | cons override more ih =>
      have edits : Edits (instanceId + 1) stage (stage.applyVisibility instanceId path override) :=
        edits_applyVisibility path sound override
      have same := edits.labelsBelow_eq instanceId
      obtain ⟨visible, report⟩ := ih (edits.wellFormed sound)
      constructor
      · intro id
        rw [List.foldl_cons, visible, visible?_applyVisibility sound, lastOverride_congr same,
          lastOverride_cons, Option.or_assoc]
      · rw [List.foldl_cons, report, report_applyVisibility, lostOverrides_congr same,
          List.append_assoc, lostWarnings, lostWarnings, ← List.map_append, lostOverrides,
          lostOverrides, ← List.filter_append]
        rfl

end Overriding

section Finishing

variable (context : RenderContext α σ) (instanceId : Nat) (path : String) (spec : ComponentSpec)
  (sound : WellFormed stage.graph.outline)

include sound

theorem edits_finishInstance :
    Edits (instanceId + 1) stage
      (stage.finishInstance context spec spec.visibilityOverrides instanceId path) := by
  have shown := edits_applyVisibilities instanceId path spec.visibilityOverrides sound
  exact shown.trans (Edits.foldl spec.iconSwaps
    (fun _ sound swap _ => edits_applyIconSwap context path sound swap) _ (shown.wellFormed sound))

/-- The icon swaps that come after the overrides neither show nor hide a node. -/
theorem visible?_finishInstance (id : Nat) :
    (stage.finishInstance context spec spec.visibilityOverrides instanceId path).graph.visible? id =
      (stage.graph.lastOverride instanceId id spec.visibilityOverrides).or
        (stage.graph.visible? id) := by
  rw [← (applyVisibilities instanceId path spec.visibilityOverrides sound).1]
  exact visible_finishInstance context instanceId path spec _ id

end Finishing

/-- The last override of a node decides whether it is shown, and overrides that lead nowhere are reported. -/
structure Overridden (instanceId : Nat) (path : String) (spec : ComponentSpec)
    (stage later : Stage α σ) : Prop where
  isBelow : ∀ nodeId id, later.graph.locate instanceId nodeId nodeId = some id →
    later.graph.IsBelow instanceId id
  visible?_eq : ∀ id, later.graph.visible? id =
    (later.graph.lastOverride instanceId id spec.visibilityOverrides).or (stage.graph.visible? id)
  report_eq : ∃ added, added.length ≤ spec.iconSwaps.length ∧
    later.report =
      { stage.report with
        warnings := stage.report.warnings ++
          lostWarnings path (later.graph.lostOverrides instanceId spec.visibilityOverrides) ++ added }

/-- Finishing an instance carries out its overrides. -/
theorem overridden_finishInstance (context : RenderContext α σ) (instanceId : Nat) (path : String)
    (spec : ComponentSpec) (sound : WellFormed stage.graph.outline) :
    Overridden instanceId path spec stage
      (stage.finishInstance context spec spec.visibilityOverrides instanceId path) := by
  have edits := edits_finishInstance context instanceId path spec sound
  have same := edits.labelsBelow_eq instanceId
  constructor
  · intro nodeId id found
    exact isBelow_of_locate (edits.wellFormed sound) found
  · intro id
    rw [lastOverride_congr same]
    exact visible?_finishInstance context instanceId path spec sound id
  · have shown := edits_applyVisibilities instanceId path spec.visibilityOverrides sound
    obtain ⟨chosen, added, swapped, atMost⟩ :=
      exists_swapsIcons context instanceId path spec.iconSwaps (shown.wellFormed sound)
    refine ⟨added, atMost, ?_⟩
    rw [lostOverrides_congr same]
    refine swapped.report_eq.trans ?_
    rw [(applyVisibilities instanceId path spec.visibilityOverrides sound).2]

section Rendering

variable [Scalar α] {context : RenderContext α σ} {parent : Nat} {spec : ComponentSpec}

/-- A component with a blueprint is rendered from it. -/
theorem renderComponent_of_blueprint {componentId : String} {blueprint : Blueprint α}
    {asked : Stage α σ} (named : spec.componentId = some componentId)
    (answered : stage.ask (context.host.blueprint componentId) = (.ok (some blueprint), asked)) :
    stage.renderComponent context parent path spec =
      (.ok (), asked.renderBlueprint context parent path spec componentId blueprint) := by
  simp only [renderComponent, named, answered]

/-- In a rendered component the last override that leads to a node decides whether the node is shown. -/
theorem overrides_decide_visibility (context : RenderContext α σ) (path : String)
    (spec : ComponentSpec) {parent : Nat} (forest : stage.graph.IsForest)
    (within : parent < stage.graph.size)
    (rendered : stage.renderComponent context parent path spec = (.ok (), later)) :
    (∃ plain, stage.renderComponent context parent path (spec.shownBy []) = (.ok (), plain) ∧
      Overridden stage.graph.size path spec plain later) ∧
      (∀ swaps : List (String × String), ∃ other,
        stage.renderComponent context parent path { spec with iconSwaps := swaps } =
            (.ok (), other) ∧
          ∀ id, other.graph.visible? id = later.graph.visible? id) ∧
      ∀ graph, later.graph.Spares stage.graph.size graph →
        ∀ id, later.graph.IsBelow stage.graph.size id →
          graph.visible? id = later.graph.visible? id := by
  have sound := isForest_iff_wellFormed.mp forest
  obtain ⟨componentId, blueprint, asked, named, answered, rfl⟩ :=
    blueprint_of_renderComponent rendered
  have sameGraph : asked.graph = stage.graph := congrArg (·.2.graph) answered.symm
  rw [← sameGraph] at sound within ⊢
  obtain ⟨_, grown⟩ := grows_renderBlueprint context path (spec.shownBy []) componentId blueprint
    sound within
  have plainSound := grown.wellFormed sound (hasParent_some within)
  have finished (swaps : List (String × String)) :
      asked.renderBlueprint context parent path { spec with iconSwaps := swaps } componentId
          blueprint =
        (asked.renderBlueprint context parent path (spec.shownBy []) componentId
          blueprint).finishInstance context { spec with iconSwaps := swaps }
            spec.visibilityOverrides asked.graph.size path :=
    renderBlueprint_overrides context parent path { spec with iconSwaps := swaps } componentId
      blueprint asked [] spec.visibilityOverrides
  have whole := finished spec.iconSwaps
  refine ⟨⟨_, renderComponent_of_blueprint named answered, ?_⟩, fun swaps =>
    ⟨_, renderComponent_of_blueprint named answered, fun id => ?_⟩, fun graph spared id below => ?_⟩
  · rw [whole]
    exact overridden_finishInstance context _ path spec plainSound
  · rw [whole, finished swaps, visible?_finishInstance context _ path spec plainSound]
    exact visible?_finishInstance context _ path { spec with iconSwaps := swaps } plainSound id
  · obtain ⟨_, laterGrown⟩ := grows_renderBlueprint context path spec componentId blueprint sound
      within
    exact spared.visible?_eq (laterGrown.wellFormed sound (hasParent_some within)) below

end Rendering

section Rows

/-- A host that has the row with a vector and a frame. -/
def rowContext : RenderContext Rat Unit :=
  { plainContext with
    host := { Host.empty with
      blueprint := fun _ state => (.ok (some (glyphAndLabel "10:60" "10:6")), state) } }

/-- The row with two overrides for its frame, one for no node, and an icon that it does not have. -/
def overriddenRow : ComponentSpec :=
  { rowItem with
    visibilityOverrides := [("10:6", true), ("10:6", false), ("99:9", false)]
    iconSwaps := [("Icon", "star")] }

/-- The last override hides the frame, and the one that leads nowhere is reported. -/
theorem frame_hidden_by_last_override :
    framed.graph.IsForest ∧ 0 < framed.graph.size ∧
      ∃ later, framed.renderComponent rowContext 0 "items[0]" overriddenRow = (.ok (), later) ∧
        later.graph.visible? 3 = some false ∧
          ⟨"items[0]", "Visibility override target '99:9' not found"⟩ ∈ later.report.warnings ∧
            ∀ graph, later.graph.Spares 1 graph → graph.visible? 3 = some false := by
  have forest := isForest_iff_wellFormed.mpr wellFormed_framed
  have within : 0 < framed.graph.size := by decide
  have atOne : framed.graph.size = 1 := rfl
  obtain ⟨later, rendered⟩ : ∃ later,
      framed.renderComponent rowContext 0 "items[0]" overriddenRow = (.ok (), later) := ⟨_, rfl⟩
  obtain ⟨⟨plain, -, overridden⟩, -, kept⟩ :=
    overrides_decide_visibility rowContext "items[0]" overriddenRow forest within rendered
  rw [atOne] at overridden kept
  have located : later.graph.locate 1 "10:6" "10:6" = some 3 := by
    cases rendered
    decide
  have last : later.graph.lastOverride 1 3 overriddenRow.visibilityOverrides = some false := by
    cases rendered
    decide
  have lost : later.graph.lostOverrides 1 overriddenRow.visibilityOverrides =
      [("99:9", false)] := by
    cases rendered
    decide
  have hidden : later.graph.visible? 3 = some false := by
    rw [overridden.visible?_eq, last, Option.some_or]
  have warned : ⟨"items[0]", "Visibility override target '99:9' not found"⟩ ∈
      later.report.warnings := by
    obtain ⟨added, -, report⟩ := overridden.report_eq
    rw [report, lost]
    exact List.mem_append_left _ (List.mem_append_right _ (List.mem_singleton.mpr rfl))
  exact ⟨forest, within, later, rendered, hidden, warned, fun graph spared =>
    (kept graph spared 3 (overridden.isBelow "10:6" 3 located)).trans hidden⟩

end Rows

end Stage

end DesignScene
