/-
This file shows which node of an instance a visibility override changes.
-/
import DesignScene.Proofs.Render.HostId
import DesignScene.Proofs.Render.Labels

namespace DesignScene

open BlueprintNode Outlines SceneGraph Stage

/-- The identifier of a node leads to this node, which no whole or suffix match of another one precedes. -/
structure Blueprint.LeadsToOwn {α : Type} (blueprint : Blueprint α) (instanceId : Nat)
    (before : List (BlueprintNode α)) (key : String) : Prop where
  not_hostId : ∀ other ∈ blueprint.walk, nestedHostId (generatedHostId instanceId) other.id ≠ key
  not_earlier : ∀ other ∈ before, Text.endsWith other.id (";" ++ key) = false

section Finding

variable {α : Type} {blueprint : Blueprint α} {before after : List (BlueprintNode α)}
  {node : BlueprintNode α} {instanceId : Nat} {graph : SceneGraph α}

/-- The labels before a node of the blueprint, its own label, and those behind it. -/
theorem Blueprint.labels_split (split : blueprint.walk = before ++ node :: after) :
    blueprint.labels instanceId =
      labelsFrom (generatedHostId instanceId) (instanceId + 1) before ++
        node.labelAt (generatedHostId instanceId) (instanceId + 1 + before.length) ::
          labelsFrom (generatedHostId instanceId) (instanceId + 1 + before.length + 1) after := by
  rw [labels, split, labelsFrom_append, labelsFrom_cons]

section Lookup

variable (same : graph.labelsBelow instanceId = blueprint.labels instanceId) (test : String → Bool)

include same

/-- A search by host identifier is a search among the labels of the blueprint. -/
theorem findBelow_hostId :
    graph.findBelow instanceId (fun found => test found.hostId) =
      ((blueprint.labels instanceId).find? fun label => test label.hostId).map (·.id) := by
  rw [← same]
  exact findBelow_eq fun label => test label.hostId

/-- A search fails just when no nested identifier passes. -/
theorem findBelow_eq_none_iff :
    graph.findBelow instanceId (fun found => test found.hostId) = none ↔
      ∀ other ∈ blueprint.walk,
        test (nestedHostId (generatedHostId instanceId) other.id) = false := by
  rw [findBelow_hostId same, Option.map_eq_none_iff, List.find?_eq_none]
  constructor
  · intro fails other member
    obtain ⟨index, found⟩ := List.getElem?_of_mem member
    have failed := fails _ (mem_labelsFrom.mpr ⟨index, other, found, rfl⟩)
    simpa [labelAt] using failed
  · intro fails label member
    obtain ⟨index, other, found, rfl⟩ := mem_labelsFrom.mp member
    simpa [labelAt] using fails other (List.mem_of_getElem? found)

/-- A search by host identifiers finds a node that passes its test if no earlier one does. -/
theorem findBelow_eq_own_iff (split : blueprint.walk = before ++ node :: after) :
    graph.findBelow instanceId (fun found => test found.hostId) =
        some (instanceId + 1 + before.length) ↔
      test (nestedHostId (generatedHostId instanceId) node.id) = true ∧
        ∀ other ∈ before, test (nestedHostId (generatedHostId instanceId) other.id) = false := by
  rw [findBelow_hostId same, Blueprint.labels_split split, List.find?_append]
  cases first : (labelsFrom (generatedHostId instanceId) (instanceId + 1) before).find?
      fun label => test label.hostId with
  | some label =>
      obtain ⟨index, other, found, rfl⟩ := mem_labelsFrom.mp (List.mem_of_find?_eq_some first)
      obtain ⟨within, -⟩ := List.getElem?_eq_some_iff.mp found
      have passes : test (nestedHostId (generatedHostId instanceId) other.id) = true :=
        List.find?_some (p := fun label : NodeLabel => test label.hostId) first
      refine iff_of_false (fun sameId => ?_) (fun failed => ?_)
      · have sameIndex : instanceId + 1 + index = instanceId + 1 + before.length :=
          Option.some.inj sameId
        omega
      · rw [failed.2 other (List.mem_of_getElem? found)] at passes
        cases passes
  | none =>
      have failed : ∀ other ∈ before,
          test (nestedHostId (generatedHostId instanceId) other.id) = false := by
        intro other member
        obtain ⟨index, found⟩ := List.getElem?_of_mem member
        have passed := List.find?_eq_none.mp first _ (mem_labelsFrom.mpr ⟨index, other, found, rfl⟩)
        simpa [labelAt] using passed
      rw [Option.none_or, List.find?_cons]
      cases own : test (node.labelAt (generatedHostId instanceId)
          (instanceId + 1 + before.length)).hostId with
      | true => exact iff_of_true rfl ⟨own, failed⟩
      | false =>
          refine iff_of_false (fun sameId => ?_) (fun passed => ?_)
          · obtain ⟨label, found, atOwn⟩ := Option.map_eq_some_iff.mp sameId
            obtain ⟨index, other, -, rfl⟩ := mem_labelsFrom.mp (List.mem_of_find?_eq_some found)
            have behind : instanceId + 1 + before.length + 1 + index =
                instanceId + 1 + before.length := atOwn
            omega
          · cases own.symm.trans passed.1

end Lookup

/-- A key leads to its own node just when no earlier step finds another. -/
theorem locate_eq_own_iff (same : graph.labelsBelow instanceId = blueprint.labels instanceId)
    (split : blueprint.walk = before ++ node :: after)
    (distinct : (blueprint.walk.map BlueprintNode.id).Nodup) (named : node.id ≠ "") :
    graph.locate instanceId node.id node.id = some (instanceId + 1 + before.length) ↔
      blueprint.LeadsToOwn instanceId before node.id := by
  have others : ∀ other ∈ before, other.id ≠ node.id := by
    intro other member
    rw [split, List.map_append, List.map_cons, List.nodup_append] at distinct
    exact distinct.2.2 other.id (List.mem_map_of_mem member) node.id List.mem_cons_self
  have noWhole := findBelow_eq_none_iff same (· == node.id)
  simp only [beq_eq_false_iff_ne] at noWhole
  have notOwn := findBelow_eq_own_iff same (· == node.id) split
  simp only [beq_iff_eq, nestedHostId_ne_self, false_and, iff_false] at notOwn
  have suffix : hasHostSuffix (α := α) node.id =
      fun found => Text.endsWith found.hostId (";" ++ node.id) := by
    funext found
    rw [hasHostSuffix, bne_iff_ne.mpr named, Bool.true_and]
  have noEnding := findBelow_eq_none_iff same (Text.endsWith · (";" ++ node.id))
  have ending := findBelow_eq_own_iff same (Text.endsWith · (";" ++ node.id)) split
  simp only [endsWith_nestedHostId, true_or, true_and, ← Bool.not_eq_true, ← suffix]
    at noEnding ending
  have someEnding : graph.findBelow instanceId (hasHostSuffix node.id) ≠ none := by
    intro nothing
    have member : node ∈ blueprint.walk := by rw [split]; simp
    exact noEnding.mp nothing node member (.inl rfl)
  constructor
  · intro found
    cases whole : graph.findBelow instanceId fun found => found.hostId == node.id with
    | some id =>
        rw [locate, whole, Option.some_or, Option.some_or, Option.some_or] at found
        exact absurd (whole.trans found) notOwn
    | none =>
        obtain ⟨id, atEnding⟩ := Option.ne_none_iff_exists'.mp someEnding
        rw [locate, whole, atEnding, Option.none_or, Option.some_or, Option.some_or] at found
        have clear := ending.mp (atEnding.trans found)
        exact ⟨noWhole.mp whole, fun other member =>
          Bool.eq_false_iff.mpr fun ends => clear other member (.inr ends)⟩
  · intro leads
    have whole := noWhole.mpr leads.not_hostId
    have atEnding : graph.findBelow instanceId (hasHostSuffix node.id) =
        some (instanceId + 1 + before.length) := by
      refine ending.mpr fun other member ends => ?_
      rcases ends with sameId | ends
      · exact others other member sameId
      · exact Bool.false_ne_true ((leads.not_earlier other member).symm.trans ends)
    rw [locate, whole, atEnding, Option.none_or, Option.some_or, Option.some_or]

end Finding

/-- The component with these visibility overrides and without icon swaps. -/
def ComponentSpec.shownBy (spec : ComponentSpec) (overrides : List (String × Bool)) :
    ComponentSpec :=
  { spec with visibilityOverrides := overrides, iconSwaps := [] }

namespace Stage

variable {α σ : Type}

/-- What is left to do for a component after the first visibility overrides. -/
def finishInstance (context : RenderContext α σ) (spec : ComponentSpec)
    (later : List (String × Bool)) (instanceId : Nat) (path : String) (stage : Stage α σ) :
    Stage α σ :=
  spec.iconSwaps.foldl (applyIconSwap context instanceId path)
    (later.foldl (applyVisibility instanceId path) stage)

section Swapping

variable (context : RenderContext α σ) (instanceId : Nat) (path : String)

/-- Resolving an icon reference keeps the graph. -/
theorem graph_resolveReference (reference : String) (stage : Stage α σ) :
    (stage.resolveReference context reference).2.graph = stage.graph := by
  obtain ⟨hostState, asked⟩ := exists_hostState_of_resolveReference context reference stage
  rw [asked]

/-- An icon that is swapped is neither hidden nor shown. -/
theorem visible_applyIconSwap (stage : Stage α σ) (swap : String × String) (id : Nat) :
    ((stage.applyIconSwap context instanceId path swap).graph.node? id).map (·.visible) =
      (stage.graph.node? id).map (·.visible) := by
  have asked := graph_resolveReference context swap.2 stage
  have kept (change : InstanceProps → InstanceProps) (node : SceneNode α) :
      (updateInstance change node).visible = node.visible := by
    cases kind : node.kind <;> simp [updateInstance, kind]
  simp only [applyIconSwap]
  split
  · rfl
  · next target found =>
      split
      · next resolved =>
          rw [resolved] at asked
          rw [← asked]
          rfl
      · next resolved =>
          rw [resolved] at asked
          rw [← asked, updateNode, node?_update, Option.map_map]
          congr 1
          funext node
          by_cases here : target = id <;> simp [here, kept]

/-- Without overrides, finishing an instance keeps what is visible. -/
theorem visible_finishInstance (spec : ComponentSpec) (stage : Stage α σ) (id : Nat) :
    ((stage.finishInstance context spec [] instanceId path).graph.node? id).map (·.visible) =
      (stage.graph.node? id).map (·.visible) := by
  rw [finishInstance, List.foldl_nil]
  induction spec.iconSwaps generalizing stage with
  | nil => rfl
  | cons swap more ih =>
      rw [List.foldl_cons, ih, visible_applyIconSwap]

end Swapping

/-- The first override is carried out before the others. -/
theorem finishInstance_cons (context : RenderContext α σ) (spec : ComponentSpec)
    (override : String × Bool) (later : List (String × Bool)) (instanceId : Nat) (path : String)
    (stage : Stage α σ) :
    stage.finishInstance context spec (override :: later) instanceId path =
      (stage.applyVisibility instanceId path override).finishInstance context spec later instanceId
        path := rfl

/-- An override that leads to another node or to none does not show or hide a node. -/
theorem visible_applyVisibility_of_ne {instanceId id : Nat} (path : String) {nodeId : String}
    {stage : Stage α σ} (elsewhere : stage.graph.locate instanceId nodeId nodeId ≠ some id)
    (visible : Bool) :
    ((stage.applyVisibility instanceId path (nodeId, visible)).graph.node? id).map (·.visible) =
      (stage.graph.node? id).map (·.visible) := by
  simp only [applyVisibility]
  split
  · next target found =>
      have different : target ≠ id := fun same => elsewhere (same ▸ found)
      rw [setVisible, updateNode, node?_update, Option.map_map]
      simp [different, Function.comp_def]
  · rfl

variable [Scalar α]

/-- The first overrides are applied before all that is left to do. -/
theorem renderBlueprint_overrides (context : RenderContext α σ) (parent : Nat) (path : String)
    (spec : ComponentSpec) (componentId : String) (blueprint : Blueprint α) (stage : Stage α σ)
    (earlier later : List (String × Bool)) :
    stage.renderBlueprint context parent path
        { spec with visibilityOverrides := earlier ++ later } componentId blueprint =
      (stage.renderBlueprint context parent path (spec.shownBy earlier) componentId
        blueprint).finishInstance context spec later stage.graph.size path := by
  rw [renderBlueprint_eq, renderBlueprint_eq]
  simp only [applyProperties, List.foldl_append]
  rfl

/-- Whatever the other overrides are, one with this key shows or hides exactly the node at this place. -/
def OverrideSets (context : RenderContext α σ) (parent : Nat) (path : String) (spec : ComponentSpec)
    (componentId : String) (blueprint : Blueprint α) (stage : Stage α σ) (key : String) (id : Nat) :
    Prop :=
  ∀ (earlier later : List (String × Bool)) (visible : Bool),
    stage.renderBlueprint context parent path
        { spec with visibilityOverrides := earlier ++ (key, visible) :: later } componentId
        blueprint =
      ((stage.renderBlueprint context parent path (spec.shownBy earlier) componentId
        blueprint).setVisible visible id).finishInstance context spec later stage.graph.size path

section Overriding

variable {context : RenderContext α σ} {parent : Nat} {path : String} {spec : ComponentSpec}
  {componentId : String} {blueprint : Blueprint α} {stage : Stage α σ}
  {before after : List (BlueprintNode α)} {node : BlueprintNode α}

/-- An override whose key leads to its own node sets it. -/
theorem overrideSets_of_leadsToOwn (sound : WellFormed stage.graph.outline)
    (within : parent < stage.graph.size) (split : blueprint.walk = before ++ node :: after)
    (distinct : (blueprint.walk.map BlueprintNode.id).Nodup) (named : node.id ≠ "")
    (leads : blueprint.LeadsToOwn stage.graph.size before node.id) :
    OverrideSets context parent path spec componentId blueprint stage node.id
      (stage.graph.size + 1 + before.length) := by
  intro earlier later visible
  have labels := labelsBelow_renderBlueprint context path (spec.shownBy earlier) componentId
    blueprint sound within
  have found := (locate_eq_own_iff labels split distinct named).mpr leads
  rw [renderBlueprint_overrides, finishInstance_cons]
  simp only [applyVisibility, found]

/-- A node of the blueprint became the node at its place behind the instance. -/
theorem exists_own_node (context : RenderContext α σ) (path : String) (spec : ComponentSpec)
    (componentId : String) (sound : WellFormed stage.graph.outline)
    (within : parent < stage.graph.size) (split : blueprint.walk = before ++ node :: after) :
    ∃ own, (stage.renderBlueprint context parent path spec componentId blueprint).graph.node?
        (stage.graph.size + 1 + before.length) = some own ∧
      own.label = node.labelAt (generatedHostId stage.graph.size)
        (stage.graph.size + 1 + before.length) := by
  obtain ⟨_, grown⟩ := grows_renderBlueprint context path spec componentId blueprint sound within
  have member : node.labelAt (generatedHostId stage.graph.size)
      (stage.graph.size + 1 + before.length) ∈ blueprint.labels stage.graph.size := by
    rw [Blueprint.labels_split split]
    simp
  rw [← labelsBelow_renderBlueprint context path spec componentId blueprint sound within] at member
  exact exists_node_of_mem_labelsBelow (grown.wellFormed sound (hasParent_some within)) member

/-- An override that reaches its node always must lead to it. -/
theorem leadsToOwn_of_overrideSets (sound : WellFormed stage.graph.outline)
    (within : parent < stage.graph.size) (split : blueprint.walk = before ++ node :: after)
    (distinct : (blueprint.walk.map BlueprintNode.id).Nodup) (named : node.id ≠ "")
    (sets : OverrideSets context parent path spec componentId blueprint stage node.id
      (stage.graph.size + 1 + before.length)) :
    blueprint.LeadsToOwn stage.graph.size before node.id := by
  have labels := labelsBelow_renderBlueprint context path (spec.shownBy []) componentId blueprint
    sound within
  obtain ⟨own, found, -⟩ :=
    exists_own_node context path (spec.shownBy []) componentId sound within split
  rw [← locate_eq_own_iff labels split distinct named]
  by_contra elsewhere
  have flipped := sets [] [] !own.visible
  rw [renderBlueprint_overrides, finishInstance_cons] at flipped
  generalize stage.renderBlueprint context parent path (spec.shownBy []) componentId blueprint =
    shown at found elsewhere flipped
  have same := congrArg (fun later : Stage α σ =>
    (later.graph.node? (stage.graph.size + 1 + before.length)).map (·.visible)) flipped
  simp only [visible_finishInstance] at same
  rw [visible_applyVisibility_of_ne path elsewhere, setVisible, updateNode, node?_update,
    found] at same
  simp at same

/-- An override of a node sets exactly what this node became, as long as the identifier leads there. -/
theorem overrideSets_own_iff (sound : WellFormed stage.graph.outline)
    (within : parent < stage.graph.size) (split : blueprint.walk = before ++ node :: after)
    (distinct : (blueprint.walk.map BlueprintNode.id).Nodup) (named : node.id ≠ "") :
    (∃ own, (stage.renderBlueprint context parent path spec componentId blueprint).graph.node?
        (stage.graph.size + 1 + before.length) = some own ∧
      own.label = node.labelAt (generatedHostId stage.graph.size)
        (stage.graph.size + 1 + before.length)) ∧
      (OverrideSets context parent path spec componentId blueprint stage node.id
          (stage.graph.size + 1 + before.length) ↔
        blueprint.LeadsToOwn stage.graph.size before node.id) := by
  refine ⟨exists_own_node context path spec componentId sound within split, ?_, ?_⟩
  · exact leadsToOwn_of_overrideSets sound within split distinct named
  · exact overrideSets_of_leadsToOwn sound within split distinct named

end Overriding

section Rows

/-- A vector and a frame behind it. -/
def glyphAndLabel (glyphId labelId : String) : Blueprint Rat where
  componentId := "80:1"
  name := "Row Item"
  width := 200
  height := 40
  children :=
    [.node glyphId "Glyph" true 0 0 .vector [], .node labelId "Label" true 0 0 .frame []]

def rowItem : ComponentSpec := ⟨"row-item", some "80:1", none, [], [], []⟩

/-- An earlier identifier that only contains the one of the override does no harm. -/
theorem overrideSets_beside_longer_id :
    (glyphAndLabel "10:60" "10:6").walk =
        [.node "10:60" "Glyph" true 0 0 .vector []] ++
          .node "10:6" "Label" true 0 0 .frame [] :: [] ∧
      ((glyphAndLabel "10:60" "10:6").walk.map BlueprintNode.id).Nodup ∧
        WellFormed framed.graph.outline ∧ 0 < framed.graph.size ∧
          OverrideSets plainContext 0 "items[0]" rowItem "80:1"
            (glyphAndLabel "10:60" "10:6") framed "10:6" 3 := by
  have split : (glyphAndLabel "10:60" "10:6").walk =
      [.node "10:60" "Glyph" true 0 0 .vector []] ++
        .node "10:6" "Label" true 0 0 .frame [] :: [] := rfl
  have distinct : ((glyphAndLabel "10:60" "10:6").walk.map BlueprintNode.id).Nodup := by decide
  have within : 0 < framed.graph.size := by decide
  refine ⟨split, distinct, wellFormed_framed, within, ?_⟩
  refine (overrideSets_own_iff wellFormed_framed within split distinct (by decide)).2.mpr ⟨?_, ?_⟩
  · intro other _
    exact nestedHostId_ne_of_isWellFormedId _ _ (by decide)
  · decide

/-- A node that came from a nested instance takes the override of a node with the same last part. -/
theorem nested_part_takes_override :
    ¬∀ (context : RenderContext Rat Unit) (parent : Nat) (path : String) (spec : ComponentSpec)
        (componentId : String) (blueprint : Blueprint Rat) (stage : Stage Rat Unit)
        (before after : List (BlueprintNode Rat)) (node : BlueprintNode Rat),
      WellFormed stage.graph.outline → parent < stage.graph.size →
        (blueprint.walk.map BlueprintNode.id).Nodup →
          (∀ other ∈ blueprint.walk, other.id ≠ "") →
            blueprint.walk = before ++ node :: after →
              OverrideSets context parent path spec componentId blueprint stage node.id
                (stage.graph.size + 1 + before.length) := by
  intro every
  have split : (glyphAndLabel "I5:1;1:2" "1:2").walk =
      [.node "I5:1;1:2" "Glyph" true 0 0 .vector []] ++
        .node "1:2" "Label" true 0 0 .frame [] :: [] := rfl
  have distinct : ((glyphAndLabel "I5:1;1:2" "1:2").walk.map BlueprintNode.id).Nodup := by decide
  have named : ∀ other ∈ (glyphAndLabel "I5:1;1:2" "1:2").walk, other.id ≠ "" := by
    decide
  have within : 0 < framed.graph.size := by decide
  have sets := every plainContext 0 "items[0]" rowItem "80:1" _ framed
    _ _ _ wellFormed_framed within distinct named split
  have leads := leadsToOwn_of_overrideSets wellFormed_framed within split distinct (by decide) sets
  have clear := leads.not_earlier _ (List.mem_singleton.mpr rfl)
  revert clear
  decide

end Rows

end Stage

end DesignScene
