/-
This file shows which label nodes of an instance show the labels of a component, and which are hidden.
-/
import DesignScene.Proofs.Property.LabelLists
import DesignScene.Proofs.Render.Copies
import DesignScene.Proofs.Render.Fonts
import DesignScene.Proofs.Render.Hiding
import DesignScene.Proofs.Render.Texts

namespace DesignScene

open Outlines ResolvedProperties

variable {α σ : Type}

/-- All texts of the blueprint are called label and can be written, and there is one at least. -/
structure Blueprint.IsLabeled (host : Host α σ) (blueprint : Blueprint α) : Prop where
  exists_text : ∃ node ∈ blueprint.walk, node.kind.form = .text
  named : ∀ node ∈ blueprint.walk, node.kind.form = .text → Text.normalizeKey node.name = "label"
  writable : ∀ node ∈ blueprint.walk, Stage.lacksFont node.kind = false
  loads : ∀ node ∈ blueprint.walk, ∀ characters fonts fontSize missingFont,
    node.kind = .text characters fonts fontSize missingFont → ∀ font ∈ fonts, host.Loads font

namespace SceneGraph

/-- The text nodes below a node, each one before the nodes below it. -/
def textsBelow (graph : SceneGraph α) (id : Nat) : List (SceneNode α) :=
  (graph.descendantNodes id).filter (·.isText)

/-- The instance shows the first texts on its text nodes, at most eight, and hides its other text nodes. -/
structure ShowsLabels (graph : SceneGraph α) (id : Nat) (blueprint : Blueprint α)
    (texts : List String) : Prop where
  isInstance : ∃ node props, graph.node? id = some node ∧ node.kind = .instance props ∧
    props.mainComponentId = blueprint.componentId
  length_eq : (graph.textsBelow id).length =
    (blueprint.walk.filter (·.kind.form == .text)).length
  shown : ∀ (index : Nat) (node : SceneNode α) (text : String),
    (graph.textsBelow id)[index]? = some node → (texts.take 8)[index]? = some text → node.Shows text
  hidden : ∀ (index : Nat) (node : SceneNode α), (graph.textsBelow id)[index]? = some node →
    (texts.take 8)[index]? = none → node.visible = false

/-- The texts below a node are its labels of text form. -/
theorem textsBelow_eq (graph : SceneGraph α) (id : Nat) :
    (graph.textsBelow id).map SceneNode.label =
      (graph.labelsBelow id).filter (·.form == .text) := by
  rw [textsBelow, labelsBelow, List.filter_map]
  congr 1
  exact List.filter_congr fun node _ => node.isText_eq

end SceneGraph

section Slots

variable {hint : ArrayHint}

/-- Labels that were already seen give no further slot. -/
theorem inferTextSlots_of_seen (repeats : ∀ name, Text.normalizeKey name = "label" →
      holdsRepeated hint name = true) (index : Nat) {nodes : List (BlueprintNode α)}
    (named : ∀ node ∈ nodes, node.kind.form = .text → Text.normalizeKey node.name = "label") :
    inferTextSlots hint ["label"] index nodes = [] := by
  induction nodes with
  | nil => rfl
  | cons node more ih =>
      have others := ih fun other later => named other (List.mem_cons_of_mem _ later)
      rw [inferTextSlots]
      split
      · next isText =>
          have same := named node List.mem_cons_self (by rw [isText]; rfl)
          rw [if_pos (repeats _ same), same, if_pos (by decide), others]
      · exact others

/-- Texts that are all called label have one slot. -/
theorem exists_inferTextSlots (repeats : ∀ name, Text.normalizeKey name = "label" →
      holdsRepeated hint name = true) (index : Nat) {nodes : List (BlueprintNode α)}
    (named : ∀ node ∈ nodes, node.kind.form = .text → Text.normalizeKey node.name = "label")
    (present : ∃ node ∈ nodes, node.kind.form = .text) :
    ∃ node : BlueprintNode α, Text.normalizeKey node.name = "label" ∧
      inferTextSlots hint [] index nodes = [inferredSlot hint index node] := by
  induction nodes with
  | nil =>
      obtain ⟨node, member, -⟩ := present
      cases member
  | cons first more ih =>
      have later : ∀ node ∈ more, node.kind.form = .text → Text.normalizeKey node.name = "label" :=
        fun other member => named other (List.mem_cons_of_mem _ member)
      rw [inferTextSlots]
      split
      · next isText =>
          have same := named first List.mem_cons_self (by rw [isText]; rfl)
          refine ⟨first, same, ?_⟩
          rw [if_pos (repeats _ same), same, if_neg (by simp), inferTextSlots_of_seen repeats _ later]
      · next noText =>
          refine ih later ?_
          obtain ⟨node, member, isText⟩ := present
          rcases List.mem_cons.mp member with rfl | inMore
          · cases kind : node.kind with
            | text => exact absurd kind (noText _ _ _ _)
            | _ => rw [kind] at isText; cases isText
          · exact ⟨node, inMore, isText⟩

/-- The basic schema reads a label as no dimension when no option is named so. -/
theorem Blueprint.canonicalDimension_basicSchema {blueprint : Blueprint α}
    (free : ∀ name ∈ blueprint.variantOptions.keys, Text.normalizeKey name ≠ "label")
    (typeName : String) : (blueprint.basicSchema typeName).canonicalDimension "Label" = none := by
  have wanted : Text.normalizeKey "Label" = "label" := by decide
  have absent : blueprint.variantOptions.keys.find?
      (fun name => Text.normalizeKey name == Text.normalizeKey "Label") = none := by
    rw [List.find?_eq_none, wanted]
    exact fun name member => by simpa using free name member
  have noKey : blueprint.variantOptions.hasKey "Label" = false := by
    cases present : blueprint.variantOptions.hasKey "Label" with
    | false => rfl
    | true =>
        obtain ⟨value, found⟩ := Option.isSome_iff_exists.mp present
        exact absurd wanted
          (free "Label" (List.mem_map_of_mem (f := Prod.fst) (Dict.mem_of_get? found)))
  rw [ComponentSchema.canonicalDimension, Blueprint.basicSchema, noKey]
  exact absent

/-- A tab takes the labels of its blueprint, eight at most, if no variant is called label. -/
theorem Blueprint.IsLabeled.exists_takesLabels {host : Host α σ} {blueprint : Blueprint α}
    (labeled : blueprint.IsLabeled host)
    (free : ∀ name ∈ blueprint.variantOptions.keys, Text.normalizeKey name ≠ "label")
    {typeName : String} (tab : Text.lower typeName = "tab") :
    ∃ slot, TakesLabels (blueprint.basicSchema typeName) slot ∧ slot.maxItems = some 8 := by
  have hint : ArrayHint.ofType typeName = ⟨["label"], 8⟩ := by
    have first : (arrayHints.find? fun row => Text.contains "tab" row.1) =
        some ("tab", ⟨["label"], 8⟩) := List.find?_cons_of_pos (by decide)
    simp only [ArrayHint.ofType, tab, first, Option.map_some, Option.getD_some]
  have repeats (name : String) (same : Text.normalizeKey name = "label") :
      holdsRepeated ⟨["label"], 8⟩ name = true := by
    rw [holdsRepeated, same]
    decide
  obtain ⟨node, named, slots⟩ :=
    exists_inferTextSlots repeats 0 labeled.named labeled.exists_text
  have sameSlots : (blueprint.basicSchema typeName).textSlots =
      [inferredSlot ⟨["label"], 8⟩ 0 node] := by
    rw [Blueprint.basicSchema, hint]
    exact slots
  refine ⟨inferredSlot ⟨["label"], 8⟩ 0 node,
    ⟨sameSlots, named, ?_, Blueprint.canonicalDimension_basicSchema free typeName⟩, ?_⟩
  · simp [inferredSlot, repeats _ named]
  · simp [inferredSlot, repeats _ named]

end Slots

namespace SceneNode

variable {id : Nat} {node : SceneNode α}

/-- A node that no delivery names stays as it is. -/
theorem foldl_receiveFor_of_not_mem {deliveries : List (Nat × Option String)}
    (elsewhere : id ∉ deliveries.map Prod.fst) :
    deliveries.foldl (receiveFor id) node = node := by
  induction deliveries with
  | nil => rfl
  | cons delivery more ih =>
      rw [List.map_cons, List.mem_cons, not_or] at elsewhere
      rw [List.foldl_cons, receiveFor, if_neg (Ne.symm elsewhere.1), ih elsewhere.2]

/-- A node that is meant once receives what is meant for it. -/
theorem foldl_receiveFor_of_nodup {deliveries : List (Nat × Option String)}
    (distinct : (deliveries.map Prod.fst).Nodup) {received : Option String}
    (member : (id, received) ∈ deliveries) :
    deliveries.foldl (receiveFor id) node = node.receive received := by
  induction deliveries generalizing node with
  | nil => cases member
  | cons delivery more ih =>
      rw [List.map_cons, List.nodup_cons] at distinct
      rw [List.foldl_cons, receiveFor]
      rcases List.mem_cons.mp member with rfl | later
      · rw [if_pos rfl, foldl_receiveFor_of_not_mem distinct.1]
      · have different : delivery.1 ≠ id := fun same =>
          distinct.1 (same ▸ List.mem_map_of_mem (f := Prod.fst) later)
        rw [if_neg different, ih distinct.2 later]

end SceneNode

namespace Stage

section Dressing

variable {stage : Stage α σ} {instanceId id : Nat}

/-- Setting the variants of an instance leaves every other node alone. -/
theorem node?_applyVariants_of_ne (blueprint : Blueprint α) (path : String)
    (variants : Dict String) (different : instanceId ≠ id) :
    (stage.applyVariants blueprint instanceId path variants).graph.node? id =
      stage.graph.node? id := by
  rw [applyVariants]
  induction variants generalizing stage with
  | nil => rfl
  | cons choice more ih =>
      rw [List.foldl_cons, ih, applyVariant]
      split_ifs
      · exact SceneGraph.node?_update_of_ne different _
      · rfl

/-- An instance is still an instance after its variants are set. -/
theorem exists_instance_applyVariants (blueprint : Blueprint α) (path : String)
    (variants : Dict String) {node : SceneNode α} {props : InstanceProps}
    (found : stage.graph.node? instanceId = some node) (isInstance : node.kind = .instance props) :
    ∃ later laterProps,
      (stage.applyVariants blueprint instanceId path variants).graph.node? instanceId = some later ∧
        later.kind = .instance laterProps ∧ laterProps.mainComponentId = props.mainComponentId := by
  rw [applyVariants]
  induction variants generalizing stage node props with
  | nil => exact ⟨node, props, found, isInstance, rfl⟩
  | cons choice more ih =>
      rw [List.foldl_cons, applyVariant]
      split_ifs
      · have changed := SceneGraph.node?_update_self found (updateInstance fun props =>
          { props with variantValues := props.variantValues.insert choice.1 choice.2 })
        simp only [updateInstance, isInstance] at changed
        obtain ⟨later, laterProps, kept⟩ := @ih (stage.updateNode instanceId _) _ _ changed rfl
        exact ⟨later, laterProps, kept⟩
      · exact ih found isInstance

variable [Scalar α]

/-- Nothing inside an instance is dressed. -/
theorem node?_dress_of_ne (blueprint : Blueprint α) (resolved : ResolvedProperties α)
    (parent : Nat) (path : String) (different : instanceId ≠ id) :
    (stage.dress blueprint resolved instanceId parent path).graph.node? id =
      stage.graph.node? id :=
  (SceneGraph.node?_update_of_ne different _).trans
    (node?_applyVariants_of_ne blueprint path resolved.variants different)

/-- An instance stays one of its component when it is dressed. -/
theorem exists_instance_dress (blueprint : Blueprint α) (resolved : ResolvedProperties α)
    (parent : Nat) (path : String) {node : SceneNode α} {props : InstanceProps}
    (found : stage.graph.node? instanceId = some node) (isInstance : node.kind = .instance props) :
    ∃ later laterProps,
      (stage.dress blueprint resolved instanceId parent path).graph.node? instanceId = some later ∧
        later.kind = .instance laterProps ∧ laterProps.mainComponentId = props.mainComponentId := by
  obtain ⟨varied, variedProps, atPlace, stillInstance, sameMain⟩ :=
    exists_instance_applyVariants blueprint path resolved.variants found isInstance
  exact ⟨_, variedProps, SceneGraph.node?_update_self atPlace _, stillInstance, sameMain⟩

end Dressing

section Labeling

variable {stage : Stage α σ} {id : Nat} {blueprint : Blueprint α} {slot : SlotRef}

/-- A slot that is called label means all text nodes of an instance whose texts are called so. -/
theorem slotTexts_eq_textsBelow
    (named : ∀ node ∈ blueprint.walk, node.kind.form = .text → Text.normalizeKey node.name = "label")
    (below : stage.graph.labelsBelow id = blueprint.labels id)
    (called : Text.normalizeKey slot.slotName = "label") :
    stage.graph.slotTexts id slot = (stage.graph.textsBelow id).map (·.id) := by
  rw [SceneGraph.slotTexts, SceneGraph.textsBelow]
  congr 1
  refine List.filter_congr fun node member => ?_
  cases isText : node.isText with
  | false => rfl
  | true =>
      have listed : node.label ∈ blueprint.labels id := by
        rw [← below]
        exact List.mem_map_of_mem member
      obtain ⟨index, other, found, same⟩ := mem_labelsFrom.mp listed
      have form : other.kind.form = .text := by
        rw [node.isText_eq] at isText
        exact (congrArg NodeLabel.form same).trans (eq_of_beq isText)
      have sameName : other.name = node.name := congrArg NodeLabel.name same
      have name := named other (List.mem_of_getElem? found) form
      have hasName : SceneGraph.hasName slot.slotName node = true := by
        rw [SceneGraph.hasName, ← sameName, name, called]
        rfl
      rw [hasName, Bool.or_true, Bool.and_true]

/-- The labels of a blueprint have the forms of its nodes. -/
theorem map_form_labelsFrom (hostId : String) (start : Nat) (nodes : List (BlueprintNode α)) :
    (BlueprintNode.labelsFrom hostId start nodes).map (·.form) = nodes.map (·.kind.form) := by
  induction nodes generalizing start with
  | nil => rfl
  | cons node more ih => rw [labelsFrom_cons, List.map_cons, List.map_cons, ih]; rfl

/-- An instance has as many text nodes as its blueprint. -/
theorem length_textsBelow (below : stage.graph.labelsBelow id = blueprint.labels id) :
    (stage.graph.textsBelow id).length =
      (blueprint.walk.filter (·.kind.form == .text)).length := by
  have count {β : Type} (form : β → NodeForm) (list : List β) :
      (list.filter (form · == .text)).length = (list.map form).countP (· == .text) := by
    rw [List.countP_map, List.countP_eq_length_filter]
    rfl
  rw [← List.length_map, SceneGraph.textsBelow_eq, below, count NodeLabel.form,
    count (fun node : BlueprintNode α => node.kind.form), Blueprint.labels, map_form_labelsFrom]

variable [Scalar α] {context : RenderContext α σ} {parent : Nat} {path : String}
  {spec : ComponentSpec} {resolved : ResolvedProperties α} {texts : List String}

/-- The texts of an instance can be written if those of its blueprint can. -/
theorem ready_of_mem_textsBelow (sound : WellFormed stage.graph.outline)
    (within : parent < stage.graph.size) (fonts : stage.FontsWithin)
    (labeled : blueprint.IsLabeled context.host) {node : SceneNode α}
    (member : node ∈ ((stage.startInstance parent path spec blueprint resolved).dress blueprint
      resolved stage.graph.size parent path).graph.textsBelow stage.graph.size) :
    Ready context node.id
      ((stage.startInstance parent path spec blueprint resolved).dress blueprint resolved
        stage.graph.size parent path) node := by
  have start := wellFormed_startInstance path spec blueprint resolved sound within
  have dressed := edits_dress blueprint resolved stage.graph.size parent path start
  obtain ⟨below, isText⟩ := List.mem_filter.mp member
  have settled := dressed.wellFormed start
  have behind := SceneGraph.lt_of_mem_descendantNodes settled below
  obtain ⟨place, -, found⟩ := List.mem_filterMap.mp below
  rw [← SceneGraph.id_eq_of_node? settled found] at found
  have made : (stage.startInstance parent path spec blueprint resolved).graph.node? node.id =
      some node := (node?_dress_of_ne blueprint resolved parent path (Nat.ne_of_lt behind)).symm.trans
    found
  have sameSize := congrArg SceneGraph.size (graph_reportResolution path resolved stage)
  refine ⟨found, isText, ?_, ?_⟩
  · have none : BlueprintNode.unlettered ((stage.reportResolution path resolved).graph.size + 1)
        blueprint.walk = [] := by
      refine List.filterMap_eq_nil_iff.mpr fun entry listed => ?_
      have writable := labeled.writable entry.1 (List.fst_mem_of_mem_zipIdx listed)
      rw [if_neg (by simp [writable])]
    rw [dressed.missingFonts_eq, startInstance, missingFonts_instantiate, none, List.append_nil]
    rw [List.contains_eq_mem, decide_eq_false_iff_not]
    intro noted
    have inFront := fonts.reportResolution path resolved node.id noted
    omega
  · intro font listed
    obtain ⟨other, inWalk, kind⟩ := exists_kind_of_node?_instantiate blueprint parent spec.name
      (stage.reportResolution path resolved) made (by omega)
    cases otherKind : other.kind with
    | text characters names fontSize missingFont =>
        rw [otherKind] at kind
        refine labeled.loads other inWalk _ _ _ _ otherKind font ?_
        rw [SceneNode.fonts, SceneNode.text?, kind] at listed
        exact listed
    | _ =>
        rw [otherKind] at kind
        simp [SceneNode.isText, SceneNode.text?, kind, blueprintNodeKind] at isText

/-- The root of an instance is one of its component, also when it is dressed. -/
theorem exists_instance_dress_startInstance (parent : Nat) (path : String) (spec : ComponentSpec)
    (blueprint : Blueprint α) (resolved : ResolvedProperties α) (stage : Stage α σ) :
    ∃ node props,
      ((stage.startInstance parent path spec blueprint resolved).dress blueprint resolved
        stage.graph.size parent path).graph.node? stage.graph.size = some node ∧
        node.kind = .instance props ∧ props.mainComponentId = blueprint.componentId := by
  have kind := SceneGraph.getElem?_kinds
    (stage.startInstance parent path spec blueprint resolved).graph stage.graph.size
  have sameSize := congrArg SceneGraph.size (graph_reportResolution path resolved stage)
  rw [startInstance, kinds_instantiate, List.getElem?_append_right (by simp [sameSize])] at kind
  simp only [SceneGraph.length_kinds, sameSize, Nat.sub_self, List.getElem?_cons_zero] at kind
  obtain ⟨made, found, isInstance⟩ := Option.map_eq_some_iff.mp kind.symm
  exact exists_instance_dress blueprint resolved parent path found isInstance

omit [Scalar α] in
/-- If a binding means all text nodes, each one receives the value at its index or is hidden. -/
theorem exists_receive_applyBinding {limit : Nat} (settled : WellFormed stage.graph.outline)
    (below : stage.graph.labelsBelow id = blueprint.labels id)
    (all : stage.graph.slotTexts id slot = (stage.graph.textsBelow id).map (·.id))
    (ready : ∀ node ∈ stage.graph.textsBelow id, Ready context node.id stage node) {index : Nat}
    {node : SceneNode α}
    (found : ((stage.applyBinding context id path
      ⟨slot, .multiple (texts.take limit), some limit⟩).graph.textsBelow id)[index]? = some node) :
    ∃ before : SceneNode α, before.isText = true ∧
      node = before.receive (texts.take limit)[index]? := by
  let binding : SlotBinding := ⟨slot, .multiple (texts.take limit), some limit⟩
  have binds : Edits (id + 1) stage (stage.applyBinding context id path binding) :=
    edits_applyBinding context path settled binding
  have alike : ((stage.applyBinding context id path binding).graph.textsBelow id).map
      SceneNode.label = (stage.graph.textsBelow id).map SceneNode.label := by
    rw [SceneGraph.textsBelow_eq, SceneGraph.textsBelow_eq, binds.labelsBelow_eq id]
  have atIndex := congrArg (·[index]?) alike
  simp only [List.getElem?_map, binding, found, Option.map_some] at atIndex
  obtain ⟨before, listed, sameLabel⟩ := Option.map_eq_some_iff.mp atIndex.symm
  have sameId : before.id = node.id := congrArg NodeLabel.id sameLabel
  have isReady := ready before (List.mem_of_getElem? listed)
  refine ⟨before, isReady.isText, ?_⟩
  have targets : stage.graph.targets id binding = (stage.graph.textsBelow id).map (·.id) := all
  have distinct : ((stage.graph.deliveries id binding).map Prod.fst).Nodup := by
    rw [SceneGraph.map_fst_deliveries]
    exact SceneGraph.nodup_targets below
  have member : (before.id, (texts.take limit)[index]?) ∈ stage.graph.deliveries id binding := by
    refine List.mem_of_getElem? (i := index) ?_
    simp [SceneGraph.deliveries, binding, spread, targets, listed, List.take_take]
  have bound := (isReady.applyBindings id path [binding]).found
  rw [List.flatMap_singleton, SceneNode.foldl_receiveFor_of_nodup distinct member] at bound
  have inScene := (List.mem_filter.mp (List.mem_of_getElem? found)).1
  obtain ⟨place, -, atPlace⟩ := List.mem_filterMap.mp inScene
  rw [← SceneGraph.id_eq_of_node? (binds.wellFormed settled) atPlace, ← sameId] at atPlace
  exact Option.some.inj (atPlace.symm.trans bound)

/-- The label nodes show the labels of a component that has nothing else. -/
theorem showsLabels_renderResolved {slot : TextSlot} (sound : WellFormed stage.graph.outline)
    (within : parent < stage.graph.size) (fonts : stage.FontsWithin)
    (labeled : blueprint.IsLabeled context.host) (called : Text.normalizeKey slot.name = "label")
    (limit : slot.maxItems = some 8)
    (labels : resolved.textProperties = [labelsFor slot texts])
    (noMedia : resolved.mediaProperties = []) (noSwaps : spec.iconSwaps = [])
    (noOverrides : spec.visibilityOverrides = []) :
    (stage.renderResolved context parent path spec blueprint resolved).graph.ShowsLabels
      stage.graph.size blueprint texts := by
  let dressed := (stage.startInstance parent path spec blueprint resolved).dress blueprint resolved
    stage.graph.size parent path
  let binding : SlotBinding := ⟨slot.ref, .multiple (texts.take 8), some 8⟩
  have final : stage.renderResolved context parent path spec blueprint resolved =
      dressed.applyBinding context stage.graph.size path binding := by
    rw [renderResolved, applyProperties_eq, adorn, labels, noMedia, noSwaps, noOverrides]
    simp only [labelsFor, limit]
    rfl
  have start := wellFormed_startInstance path spec blueprint resolved sound within
  have dressing := edits_dress blueprint resolved stage.graph.size parent path start
  have settled := dressing.wellFormed start
  have binds : Edits (stage.graph.size + 1) dressed _ :=
    edits_applyBinding context path settled binding
  have below : dressed.graph.labelsBelow stage.graph.size = blueprint.labels stage.graph.size :=
    (dressing.labelsBelow_eq _).trans
      (labelsBelow_startInstance path spec blueprint resolved within)
  have received {index : Nat} {node : SceneNode α}
      (found : ((dressed.applyBinding context stage.graph.size path
        binding).graph.textsBelow stage.graph.size)[index]? = some node) :=
    exists_receive_applyBinding settled below (slotTexts_eq_textsBelow labeled.named below called)
      (fun _ member => ready_of_mem_textsBelow sound within fonts labeled member) found
  rw [final]
  refine ⟨?_, ?_, fun index node text found taken => ?_, fun index node found taken => ?_⟩
  · obtain ⟨node, props, atPlace, isInstance⟩ :=
      exists_instance_dress_startInstance parent path spec blueprint resolved stage
    have kept := binds.keeps.graph.node?_eq _ (Nat.lt_succ_self stage.graph.size)
    exact ⟨node, props, kept.trans atPlace, isInstance⟩
  · exact length_textsBelow ((binds.labelsBelow_eq stage.graph.size).trans below)
  · obtain ⟨before, isText, rfl⟩ := received found
    obtain ⟨props, isProps⟩ := Option.isSome_iff_exists.mp isText
    rw [SceneNode.Shows, SceneNode.visible_receive, SceneNode.text?_receive, isProps, taken]
    exact ⟨rfl, rfl⟩
  · obtain ⟨before, isText, rfl⟩ := received found
    rw [SceneNode.visible_receive, taken]
    rfl

/-- The label nodes show the labels of a tab whose component was not scanned. -/
theorem showsLabels_renderBlueprint {componentId : String} (sound : WellFormed stage.graph.outline)
    (within : parent < stage.graph.size) (fonts : stage.FontsWithin)
    (labeled : blueprint.IsLabeled context.host)
    (free : ∀ name ∈ blueprint.variantOptions.keys, Text.normalizeKey name ≠ "label")
    (tab : Text.lower spec.typeName = "tab") (unscanned : context.registry.get? componentId = none)
    (only : PropertyBag.OnlyLabels texts spec.properties) (noSwaps : spec.iconSwaps = [])
    (noOverrides : spec.visibilityOverrides = []) :
    (stage.renderBlueprint context parent path spec componentId blueprint).graph.ShowsLabels
      stage.graph.size blueprint texts := by
  obtain ⟨slot, takes, limit⟩ := labeled.exists_takesLabels free tab
  have schema : (stage.schemaFor context spec componentId blueprint).1 =
      blueprint.basicSchema spec.typeName := by rw [schemaFor, unscanned]
  have resolves : stage.resolvedFor context spec componentId blueprint =
      ofBag (some (blueprint.basicSchema spec.typeName)) spec.properties := by
    rw [resolvedFor, schema, only.preprocess_eq]
  obtain ⟨labels, noMedia⟩ := ofBag_onlyLabels (α := α) takes only
  rw [← resolves] at labels noMedia
  have sameGraph := graph_schemaFor context spec componentId blueprint stage
  have sameFonts : (stage.schemaFor context spec componentId blueprint).2.FontsWithin := by
    rw [schemaFor, unscanned]
    exact fonts
  rw [renderBlueprint_eq_renderResolved]
  rw [← sameGraph] at sound within ⊢
  exact showsLabels_renderResolved sound within sameFonts labeled takes.named limit labels noMedia
    noSwaps noOverrides

end Labeling

end Stage

end DesignScene
