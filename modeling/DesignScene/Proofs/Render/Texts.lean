/-
This file shows that the texts of a component arrive unless a binding finds too few text nodes.
-/
import DesignScene.Proofs.Render.Delivery

namespace DesignScene

open Outlines

namespace Stage

variable {α σ : Type}

section Binding

variable (context : RenderContext α σ) (instanceId : Nat) (path : String) (binding : SlotBinding)
  {stage : Stage α σ} {id : Nat}

/-- The binding puts this text into the node, whatever the node said before. -/
def Puts (stage : Stage α σ) (id : Nat) (text : String) : Prop :=
  ∀ original : String, ((stage.updateNode id (SceneNode.retext original)).applyBinding context
    instanceId path binding).graph.characters? id = some text

/-- The binding puts each of its texts into a node of its own below the instance. -/
def Delivers (stage : Stage α σ) : Prop :=
  ∃ ids : List Nat, ids.Nodup ∧ ids ⊆ stage.graph.descendants instanceId ∧
    List.Forall₂ (Puts context instanceId path binding stage) ids binding.texts

/-- Only the text nodes that a binding means get a text from it. -/
theorem mem_receivers_of_puts {text : String}
    (puts : Puts context instanceId path binding stage id text) :
    id ∈ stage.graph.receivers instanceId binding := by
  have other : text ++ "." ≠ text := by
    intro same
    have lengths := congrArg String.length same
    rw [String.length_append] at lengths
    have dot : ".".length = 1 := rfl
    omega
  have retexted : Edits 0 stage (stage.updateNode id (SceneNode.retext (text ++ "."))) :=
    Edits.refl.set (Nat.zero_le id) (SceneNode.isSetting_retext _)
  have said := puts (text ++ ".")
  have bound := edits_bound context instanceId path binding
    (stage.updateNode id (SceneNode.retext (text ++ ".")))
  have isText : (stage.graph.characters? id).isSome := by
    rw [← SceneGraph.isSome_characters?_congr (retexted.trans bound).labels_eq, said]
    rfl
  refine List.mem_filter.mpr ⟨?_, isText⟩
  by_contra elsewhere
  rw [← SceneGraph.targets_congr (retexted.labelsBelow_eq instanceId)] at elsewhere
  rw [characters?_applyBinding_of_not_mem context instanceId path binding elsewhere] at said
  obtain ⟨characters, found⟩ := Option.isSome_iff_exists.mp isText
  rw [updateNode, SceneGraph.characters?_retext, found] at said
  exact other (Option.some.inj said)

/-- A binding that delivers all its texts has a receiver for each. -/
theorem enough_of_delivers (delivers : Delivers context instanceId path binding stage) :
    binding.texts.length ≤ (stage.graph.receivers instanceId binding).length := by
  obtain ⟨ids, distinct, -, puts⟩ := delivers
  rw [← puts.length_eq]
  apply distinct.length_le_of_subset
  intro id member
  obtain ⟨index, within, rfl⟩ := List.getElem_of_mem member
  have within' := within
  rw [puts.length_eq] at within'
  exact mem_receivers_of_puts context instanceId path binding (puts.get within within')

end Binding

/-- A binding that finds enough text nodes delivers its texts or reports. -/
theorem delivers_of_quiet (context : RenderContext α σ) {instanceId : Nat} (path : String)
    {binding : SlotBinding} {blueprint : Blueprint α} {stage : Stage α σ}
    (sound : WellFormed stage.graph.outline)
    (same : stage.graph.labelsBelow instanceId = blueprint.labels instanceId)
    (enough : binding.texts.length ≤ (stage.graph.receivers instanceId binding).length)
    (quiet : (stage.applyBinding context instanceId path binding).report.warnings =
      stage.report.warnings) : Delivers context instanceId path binding stage := by
  have distinct : (stage.graph.targets instanceId binding).Nodup := SceneGraph.nodup_targets same
  have listed : List.Sublist ((stage.graph.receivers instanceId binding).take binding.texts.length)
      (stage.graph.targets instanceId binding) :=
    (List.take_sublist _ _).trans List.filter_sublist
  refine ⟨(stage.graph.receivers instanceId binding).take binding.texts.length,
    distinct.sublist listed, fun id member =>
      SceneGraph.targets_subset_descendants sound (listed.subset member), ?_⟩
  rw [List.forall₂_iff_get]
  refine ⟨by rw [List.length_take, Nat.min_eq_left enough], fun index within within' original => ?_⟩
  simp only [List.get_eq_getElem, List.getElem_take]
  have isReceiver : (stage.graph.receivers instanceId binding)[index] ∈
      stage.graph.receivers instanceId binding := List.getElem_mem _
  have isText := (List.mem_filter.mp isReceiver).2
  have member := SceneGraph.mem_deliveries sound enough within'
  generalize (stage.graph.receivers instanceId binding)[index] = id at isText member
  have retexted : Edits 0 stage (stage.updateNode id (SceneNode.retext original)) :=
    Edits.refl.set (Nat.zero_le id) (SceneNode.isSetting_retext original)
  have stillQuiet : ((stage.updateNode id (SceneNode.retext original)).applyBinding context
      instanceId path binding).report.warnings = stage.report.warnings := by
    rcases applyBinding_retext context instanceId path binding original stage id with
      overwritten | kept
    · rw [overwritten, quiet]
    · rw [kept]
      exact quiet
  have sameBelow := retexted.labelsBelow_eq instanceId
  apply characters?_applyBinding_of_quiet context instanceId path binding
  · rwa [SceneGraph.targets_congr sameBelow]
  · exact stillQuiet
  · rwa [SceneGraph.deliveries_congr sameBelow]
  · rwa [SceneGraph.isSome_characters?_congr retexted.labels_eq]

end Stage

/-- A warning of either kind is new in the later report. -/
def RenderReport.Warns (report later : RenderReport) : Prop :=
  later.warnings ≠ report.warnings ∨ later.propertyWarnings ≠ report.propertyWarnings

namespace Stage

variable {α σ : Type} [Scalar α]

/-- The instance of a component whose properties have been resolved and reported. -/
def startInstance (parent : Nat) (path : String) (spec : ComponentSpec) (blueprint : Blueprint α)
    (resolved : ResolvedProperties α) (stage : Stage α σ) : Stage α σ :=
  (stage.reportResolution path resolved).instantiate blueprint parent spec.name

/-- A component is rendered with given properties. -/
def renderResolved (context : RenderContext α σ) (parent : Nat) (path : String)
    (spec : ComponentSpec) (blueprint : Blueprint α) (resolved : ResolvedProperties α)
    (stage : Stage α σ) : Stage α σ :=
  (stage.startInstance parent path spec blueprint resolved).applyProperties context blueprint spec
    resolved stage.graph.size parent path

/-- The stage right before a binding, after the assignments and bindings that come before it. -/
def beforeBinding (context : RenderContext α σ) (parent : Nat) (path : String)
    (spec : ComponentSpec) (blueprint : Blueprint α) (resolved : ResolvedProperties α)
    (done : List TextAssignment) (earlier : List SlotBinding) (stage : Stage α σ) : Stage α σ :=
  earlier.foldl (applyBinding context stage.graph.size path)
    (done.foldl (applyText context stage.graph.size path)
      ((stage.startInstance parent path spec blueprint resolved).dress blueprint resolved
        stage.graph.size parent path))

section Rendering

variable (context : RenderContext α σ) {parent : Nat} (path : String) (spec : ComponentSpec)
  (blueprint : Blueprint α) (resolved : ResolvedProperties α) {stage : Stage α σ}

/-- Components are rendered with the properties that theirs come to. -/
theorem renderBlueprint_eq_renderResolved (componentId : String) :
    stage.renderBlueprint context parent path spec componentId blueprint =
      (stage.schemaFor context spec componentId blueprint).2.renderResolved context parent path spec
        blueprint (stage.resolvedFor context spec componentId blueprint) := by
  rw [renderBlueprint_eq, renderResolved, graph_schemaFor]
  rfl

/-- Starting an instance grows one component node. -/
theorem grows_startInstance (sound : WellFormed stage.graph.outline)
    (within : parent < stage.graph.size) :
    ∃ children, Grows (some parent) [.node .component children] stage
      (stage.startInstance parent path spec blueprint resolved) := by
  have reported : Keeps stage.graph.size stage (stage.reportResolution path resolved) :=
    keeps_reportResolution path resolved sound
  rw [← reported.graph.size_eq] at within
  obtain ⟨children, made⟩ := grows_instantiate blueprint spec.name within
  exact ⟨children, reported.grows made⟩

/-- A fresh instance has the labels of its blueprint. -/
theorem labelsBelow_startInstance (within : parent < stage.graph.size) :
    (stage.startInstance parent path spec blueprint resolved).graph.labelsBelow stage.graph.size =
      blueprint.labels stage.graph.size := by
  have same := graph_reportResolution path resolved stage
  rw [← same] at within
  have listed := labelsBelow_instantiate blueprint spec.name within
  rwa [same] at listed

variable (sound : WellFormed stage.graph.outline) (within : parent < stage.graph.size)

include sound within

/-- Starting an instance keeps the graph well-formed. -/
theorem wellFormed_startInstance :
    WellFormed (stage.startInstance parent path spec blueprint resolved).graph.outline := by
  obtain ⟨_, grown⟩ := grows_startInstance path spec blueprint resolved sound within
  exact grown.wellFormed sound (hasParent_some within)

theorem edits_beforeBinding (done : List TextAssignment) (earlier : List SlotBinding) :
    Edits stage.graph.size (stage.startInstance parent path spec blueprint resolved)
      (stage.beforeBinding context parent path spec blueprint resolved done earlier) := by
  have start := wellFormed_startInstance path spec blueprint resolved sound within
  have dressed := edits_dress blueprint resolved stage.graph.size parent path start
  have written : Edits (stage.graph.size + 1) _ _ :=
    edits_applyTexts context path (dressed.wellFormed start) done
  have bound : Edits (stage.graph.size + 1) _ _ :=
    edits_applyBindings context path (written.wellFormed (dressed.wellFormed start)) earlier
  exact dressed.trans ((written.trans bound).mono (Nat.le_succ _))

theorem edits_afterBinding {done rest : List TextAssignment} {assignment : TextAssignment}
    {earlier later : List SlotBinding} {binding : SlotBinding}
    (listed : resolved.textProperties = done ++ assignment :: rest)
    (bound : assignment.bindings = earlier ++ binding :: later) :
    Edits stage.graph.size
      ((stage.beforeBinding context parent path spec blueprint resolved done earlier).applyBinding
        context stage.graph.size path binding)
      (stage.renderResolved context parent path spec blueprint resolved) := by
  have start := wellFormed_startInstance path spec blueprint resolved sound within
  have before := (edits_beforeBinding context path spec blueprint resolved sound within done
    earlier).wellFormed start
  have bindingHere : Edits (stage.graph.size + 1) _ _ :=
    edits_applyBinding context path before binding
  have here := bindingHere.wellFormed before
  rw [renderResolved, applyProperties_eq, listed, List.foldl_append, List.foldl_cons, applyText,
    bound, List.foldl_append, List.foldl_cons]
  have bindings : Edits (stage.graph.size + 1) _ _ :=
    edits_applyBindings context path here later
  have hidden := bindings.trans (Edits.foldl assignment.hiddenSlots
    (fun _ sound slot _ => edits_hideSlot sound slot) _ (bindings.wellFormed here))
  have written := hidden.trans
    (edits_applyTexts context path (hidden.wellFormed here) rest)
  have adorned := written.trans (edits_adorn context spec resolved stage.graph.size path
    (written.wellFormed here))
  exact adorned.mono (Nat.le_succ _)

/-- A binding delivers its texts or something is reported, as long as it finds enough text nodes. -/
theorem delivers_or_warns_iff {done rest : List TextAssignment} {assignment : TextAssignment}
    {earlier later : List SlotBinding} {binding : SlotBinding}
    (listed : resolved.textProperties = done ++ assignment :: rest)
    (bound : assignment.bindings = earlier ++ binding :: later) :
    Delivers context stage.graph.size path binding
          (stage.beforeBinding context parent path spec blueprint resolved done earlier) ∨
        stage.report.Warns
          (stage.renderResolved context parent path spec blueprint resolved).report ↔
      binding.texts.length ≤
          ((stage.renderResolved context parent path spec blueprint resolved).graph.receivers
            stage.graph.size binding).length ∨
        stage.report.Warns
          (stage.renderResolved context parent path spec blueprint resolved).report := by
  obtain ⟨_, grown⟩ := grows_startInstance path spec blueprint resolved sound within
  have start := grown.wellFormed sound (hasParent_some within)
  have before := edits_beforeBinding context path spec blueprint resolved sound within done earlier
  have here : Edits stage.graph.size _ _ :=
    (edits_applyBinding context path (before.wellFormed start) binding).mono (Nat.le_succ _)
  have after := edits_afterBinding context path spec blueprint resolved sound within listed bound
  rw [SceneGraph.receivers_congr ((here.trans after).labelsBelow_eq _) (here.trans after).labels_eq]
  apply or_congr_left'
  intro silent
  constructor
  · exact enough_of_delivers context stage.graph.size path binding
  · intro enough
    have labels := (before.labelsBelow_eq _).trans
      (labelsBelow_startInstance path spec blueprint resolved within)
    have quiet := not_not.mp (not_or.mp silent).1
    have upTo := grown.report.trans before.keeps.report
    have quietBefore := upTo.quiet_between (here.trans after).keeps.report quiet
    have quietAfter := (upTo.trans here.keeps.report).quiet_between after.keeps.report quiet
    exact delivers_of_quiet context path (before.wellFormed start) labels enough
      (quietAfter.trans quietBefore.symm)

/-- Each binding delivers its texts or something is reported, as long as too many texts are reported. -/
theorem texts_arrive_iff :
    (∀ (done rest : List TextAssignment) (assignment : TextAssignment)
        (earlier later : List SlotBinding) (binding : SlotBinding),
      resolved.textProperties = done ++ assignment :: rest →
        assignment.bindings = earlier ++ binding :: later →
          Delivers context stage.graph.size path binding
              (stage.beforeBinding context parent path spec blueprint resolved done earlier) ∨
            stage.report.Warns
              (stage.renderResolved context parent path spec blueprint resolved).report) ↔
      ∀ assignment ∈ resolved.textProperties, ∀ binding ∈ assignment.bindings,
        binding.texts.length ≤
            ((stage.renderResolved context parent path spec blueprint resolved).graph.receivers
              stage.graph.size binding).length ∨
          stage.report.Warns
            (stage.renderResolved context parent path spec blueprint resolved).report := by
  constructor
  · intro arrives assignment assigned binding member
    obtain ⟨done, rest, listed⟩ := List.append_of_mem assigned
    obtain ⟨earlier, later, bound⟩ := List.append_of_mem member
    exact (delivers_or_warns_iff context path spec blueprint resolved sound within listed bound).mp
      (arrives done rest assignment earlier later binding listed bound)
  · intro enough done rest assignment earlier later binding listed bound
    refine (delivers_or_warns_iff context path spec blueprint resolved sound within listed
      bound).mpr (enough assignment ?_ binding ?_)
    · simp [listed]
    · simp [bound]

end Rendering

section Badges

def badge : ComponentSpec := ⟨"badge", some "80:1", none, [], [], []⟩

/-- Only this text is bound. -/
def oneText (binding : SlotBinding) : ResolvedProperties Rat where
  variants := []
  textProperties := [⟨"Label", .exact, [binding], []⟩]
  mediaProperties := []
  layoutProperties := {}
  passthrough := []
  errors := []
  warnings := []

/-- Of three texts for at most two tags both tags get theirs. -/
theorem texts_arrive_at_tags :
    WellFormed framed.graph.outline ∧ 0 < framed.graph.size ∧
      ∀ (done rest : List TextAssignment) (assignment : TextAssignment)
          (earlier later : List SlotBinding) (binding : SlotBinding),
        (oneText ⟨⟨"Tag", "1:1"⟩, .multiple ["A", "B", "C"], some 2⟩).textProperties =
            done ++ assignment :: rest →
          assignment.bindings = earlier ++ binding :: later →
            Delivers plainContext framed.graph.size "items[0]" binding
                (framed.beforeBinding plainContext 0 "items[0]" badge
                  (badgeOf [textNode "1:1" "Tag", textNode "1:2" "Tag"])
                  (oneText ⟨⟨"Tag", "1:1"⟩, .multiple ["A", "B", "C"], some 2⟩) done earlier) ∨
              framed.report.Warns (framed.renderResolved plainContext 0 "items[0]" badge
                (badgeOf [textNode "1:1" "Tag", textNode "1:2" "Tag"])
                (oneText ⟨⟨"Tag", "1:1"⟩, .multiple ["A", "B", "C"], some 2⟩)).report := by
  have within : 0 < framed.graph.size := by decide
  refine ⟨wellFormed_framed, within, ?_⟩
  refine (texts_arrive_iff plainContext "items[0]" badge _ _ wellFormed_framed within).mpr ?_
  intro assignment assigned binding member
  rw [oneText, List.mem_singleton] at assigned
  subst assigned
  rw [List.mem_singleton] at member
  subst member
  left
  decide +kernel

/-- A text for a frame that is called like its slot is lost, and nothing is reported. -/
theorem text_for_frame_lost :
    ¬∀ (context : RenderContext Rat Unit) (parent : Nat) (path : String) (spec : ComponentSpec)
        (blueprint : Blueprint Rat) (resolved : ResolvedProperties Rat) (stage : Stage Rat Unit),
      WellFormed stage.graph.outline → parent < stage.graph.size →
        ∀ (done rest : List TextAssignment) (assignment : TextAssignment)
            (earlier later : List SlotBinding) (binding : SlotBinding),
          resolved.textProperties = done ++ assignment :: rest →
            assignment.bindings = earlier ++ binding :: later →
              Delivers context stage.graph.size path binding
                  (stage.beforeBinding context parent path spec blueprint resolved done earlier) ∨
                stage.report.Warns
                  (stage.renderResolved context parent path spec blueprint resolved).report := by
  intro every
  have within : 0 < framed.graph.size := by decide
  have arrives := every plainContext 0 "items[0]" badge
    (badgeOf [.node "1:1" "Label" true 0 0 .frame []])
    (oneText ⟨⟨"Label", "1:1"⟩, .single "New", none⟩) framed wellFormed_framed within [] [] _ [] []
    _ rfl rfl
  rcases arrives with delivers | warns | warns
  · have enough := enough_of_delivers plainContext framed.graph.size "items[0]" _ delivers
    revert enough
    decide +kernel
  · have silent : (framed.renderResolved plainContext 0 "items[0]" badge
        (badgeOf [.node "1:1" "Label" true 0 0 .frame []])
        (oneText ⟨⟨"Label", "1:1"⟩, .single "New", none⟩)).report.warnings = [] := by
      decide +kernel
    exact warns silent
  · exact warns rfl

end Badges

end Stage

end DesignScene
