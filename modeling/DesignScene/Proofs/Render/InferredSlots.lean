/-
This file shows that the slots that are read off a blueprint reach all its texts and its media.
-/
import DesignScene.Proofs.Render.Labels
import DesignScene.Property.Resolution
import Mathlib.Data.List.Forall2

namespace DesignScene

variable {α : Type} {hint : ArrayHint} {seen : List String} {index start place : Nat}
  {node : BlueprintNode α} {nodes : List (BlueprintNode α)} {entries : List (BlueprintNode α × Nat)}
  {placed : List (Nat × TextSlot)} {slot : TextSlot}

/-- The slot stands for the text at the place, by itself or for all texts of that name. -/
inductive ReachesText (placed : List (Nat × TextSlot)) (place : Nat) (node : BlueprintNode α) :
    TextSlot → Prop where
  | own {slot : TextSlot} (member : (place, slot) ∈ placed) (sameName : slot.name = node.name)
      (sameId : slot.nodeId = node.id) : ReachesText placed place node slot
  | shared {earlier : Nat} {slot : TextSlot} (member : (earlier, slot) ∈ placed)
      (before : earlier < place) (isArray : slot.dataType = .array)
      (sameName : Text.normalizeKey node.name = Text.normalizeKey slot.name) :
      ReachesText placed place node slot

/-- A further slot in front takes no text away. -/
theorem ReachesText.cons (first : Nat × TextSlot) (reaches : ReachesText placed place node slot) :
    ReachesText (first :: placed) place node slot := by
  cases reaches with
  | own member sameName sameId => exact .own (List.mem_cons_of_mem _ member) sameName sameId
  | shared member before isArray sameName =>
      exact .shared (List.mem_cons_of_mem _ member) before isArray sameName

/-- A text and the slot that reaches it have one normal form. -/
theorem ReachesText.normalizeKey_eq (reaches : ReachesText placed place node slot) :
    Text.normalizeKey node.name = Text.normalizeKey slot.name := by
  cases reaches with
  | own _ sameName => rw [sameName]
  | shared _ _ _ sameName => exact sameName

/-- The slots are those of texts in their order, one for each text whose name was not seen before. -/
structure ListsTexts (seen : List String) (entries : List (BlueprintNode α × Nat))
    (placed : List (Nat × TextSlot)) : Prop where
  ordered : placed.Pairwise fun one other => one.1 < other.1
  owned : ∀ place slot, (place, slot) ∈ placed → ∃ node, (node, place) ∈ entries ∧
    node.kind.form = .text ∧ slot.name = node.name ∧ slot.nodeId = node.id
  reached : ∀ node place, (node, place) ∈ entries → node.kind.form = .text →
    Text.normalizeKey node.name ∈ seen ∨ ∃ slot, ReachesText placed place node slot

/-- A node without a slot is no text, or its name has been seen. -/
theorem ListsTexts.skip (lists : ListsTexts seen entries placed)
    (skipped : node.kind.form = .text → Text.normalizeKey node.name ∈ seen) :
    ListsTexts seen ((node, place) :: entries) placed where
  ordered := lists.ordered
  owned other slot member := by
    obtain ⟨owner, listed, isOwner⟩ := lists.owned other slot member
    exact ⟨owner, List.mem_cons_of_mem _ listed, isOwner⟩
  reached other later member isText := by
    rcases List.mem_cons.mp member with same | inRest
    · obtain ⟨rfl, rfl⟩ := Prod.mk.inj same
      exact .inl (skipped isText)
    · exact lists.reached other later inRest isText

/-- A text with a slot takes care of the later ones of its name if the slot holds repeated values. -/
theorem ListsTexts.own {known : List String} (lists : ListsTexts known entries placed)
    (first : ∀ entry ∈ entries, place < entry.2) (isText : node.kind.form = .text)
    (sameName : slot.name = node.name) (sameId : slot.nodeId = node.id)
    (remembered : ∀ name ∈ known, name ∈ seen ∨
      slot.dataType = .array ∧ name = Text.normalizeKey node.name) :
    ListsTexts seen ((node, place) :: entries) ((place, slot) :: placed) where
  ordered := by
    refine List.pairwise_cons.mpr ⟨fun ⟨later, other⟩ member => ?_, lists.ordered⟩
    obtain ⟨owner, listed, -⟩ := lists.owned later other member
    exact first (owner, later) listed
  owned later other member := by
    rcases List.mem_cons.mp member with same | inRest
    · obtain ⟨rfl, rfl⟩ := Prod.mk.inj same
      exact ⟨node, List.mem_cons_self, isText, sameName, sameId⟩
    · obtain ⟨owner, listed, isOwner⟩ := lists.owned later other inRest
      exact ⟨owner, List.mem_cons_of_mem _ listed, isOwner⟩
  reached other later member isText := by
    rcases List.mem_cons.mp member with same | inRest
    · obtain ⟨rfl, rfl⟩ := Prod.mk.inj same
      exact .inr ⟨slot, .own List.mem_cons_self sameName sameId⟩
    · rcases lists.reached other later inRest isText with isKnown | ⟨reaching, reaches⟩
      · rcases remembered _ isKnown with isSeen | ⟨isArray, same⟩
        · exact .inl isSeen
        · refine .inr ⟨slot, .shared List.mem_cons_self (first _ inRest) isArray ?_⟩
          rw [same, sameName]
      · exact .inr ⟨reaching, reaches.cons _⟩

/-- A node that is no text gives no text slot. -/
theorem inferTextSlots_of_not_text (notText : node.kind.form ≠ .text) :
    inferTextSlots hint seen index (node :: nodes) = inferTextSlots hint seen index nodes := by
  rw [inferTextSlots]
  split
  · next isText => exact absurd (by rw [isText]; rfl) notText
  · rfl

/-- A text has no slot of its own exactly if its name holds repeated values and has been seen. -/
theorem inferTextSlots_of_text (isText : node.kind.form = .text) :
    inferTextSlots hint seen index (node :: nodes) =
      if holdsRepeated hint node.name = true ∧ Text.normalizeKey node.name ∈ seen then
        inferTextSlots hint seen index nodes
      else inferredSlot hint index node :: inferTextSlots hint
        (if holdsRepeated hint node.name then Text.normalizeKey node.name :: seen else seen)
        (index + 1) nodes := by
  rw [inferTextSlots]
  split
  · cases holdsRepeated hint node.name <;> simp
  · next noText =>
      cases kind : node.kind with
      | text => exact absurd kind (noText _ _ _ _)
      | _ => rw [kind] at isText; cases isText

/-- The slots of the nodes from a place on, when some names have been seen before. -/
theorem exists_listsTexts (hint : ArrayHint) (seen : List String) (index start : Nat)
    (nodes : List (BlueprintNode α)) :
    ∃ placed, placed.map Prod.snd = inferTextSlots hint seen index nodes ∧
      ListsTexts seen (nodes.zipIdx start) placed := by
  induction nodes generalizing seen index start with
  | nil => exact ⟨[], rfl, .nil, nofun, nofun⟩
  | cons node more ih =>
      rw [List.zipIdx_cons]
      by_cases isText : node.kind.form = .text
      · rw [inferTextSlots_of_text isText]
        split
        · next repeats =>
            obtain ⟨placed, slots_eq, lists⟩ := ih seen index (start + 1)
            exact ⟨placed, slots_eq, lists.skip fun _ => repeats.2⟩
        · obtain ⟨placed, slots_eq, lists⟩ := ih
            (if holdsRepeated hint node.name then Text.normalizeKey node.name :: seen else seen)
            (index + 1) (start + 1)
          refine ⟨(start, inferredSlot hint index node) :: placed, congrArg _ slots_eq,
            lists.own (fun entry member => List.le_snd_of_mem_zipIdx member) isText rfl rfl ?_⟩
          intro name member
          split at member
          · next repeats =>
              rcases List.mem_cons.mp member with same | isSeen
              · exact .inr ⟨by rw [inferredSlot, repeats]; rfl, same⟩
              · exact .inl isSeen
          · exact .inl member
      · rw [inferTextSlots_of_not_text isText]
        obtain ⟨placed, slots_eq, lists⟩ := ih seen index (start + 1)
        exact ⟨placed, slots_eq, lists.skip fun text => absurd text isText⟩

/-- The kind of node that a slot holds. -/
def MediaKind.form : MediaKind → NodeForm
  | componentInstance => .component
  | vector => .vector
  | image => .image

def BlueprintNode.isMedia (node : BlueprintNode α) : Bool :=
  [NodeForm.component, .vector, .image].contains node.kind.form

/-- The slot is that of the node. -/
structure HoldsMedia (node : BlueprintNode α) (slot : MediaSlot) : Prop where
  name_eq : slot.name = node.name
  nodeId_eq : slot.nodeId = node.id
  form_eq : slot.kind.form = node.kind.form

/-- A node gives a media slot just when it can hold media. -/
theorem inferMediaSlot_cases (node : BlueprintNode α) :
    (node.isMedia = false ∧ inferMediaSlot node = none) ∨
      (node.isMedia = true ∧ ∃ slot, inferMediaSlot node = some slot ∧ HoldsMedia node slot) := by
  rw [BlueprintNode.isMedia, inferMediaSlot]
  cases kind : node.kind with
  | frame => exact .inl ⟨rfl, rfl⟩
  | text => exact .inl ⟨rfl, rfl⟩
  | «instance» => exact .inr ⟨rfl, _, rfl, rfl, rfl, by rw [kind]; rfl⟩
  | vector => exact .inr ⟨rfl, _, rfl, rfl, rfl, by rw [kind]; rfl⟩
  | image => exact .inr ⟨rfl, _, rfl, rfl, rfl, by rw [kind]; rfl⟩

/-- There is one slot for each node that holds media, in the order of the nodes. -/
theorem forall₂_inferMediaSlot (nodes : List (BlueprintNode α)) :
    List.Forall₂ HoldsMedia (nodes.filter (·.isMedia)) (nodes.filterMap inferMediaSlot) := by
  induction nodes with
  | nil => exact .nil
  | cons node more ih =>
      rcases inferMediaSlot_cases node with ⟨noMedia, noSlot⟩ | ⟨isMedia, slot, isSlot, holds⟩
      · rwa [List.filter_cons_of_neg (by simp [noMedia]), List.filterMap_cons_none noSlot]
      · rw [List.filter_cons_of_pos isMedia, List.filterMap_cons_some isSlot]
        exact .cons holds ih

namespace SceneGraph

/-- A text of the name of a slot is one of the texts of the slot. -/
theorem mem_slotTexts_of_label {graph : SceneGraph α} {instanceId : Nat} {label : NodeLabel}
    {ref : SlotRef} (member : label ∈ graph.labelsBelow instanceId) (isText : label.form = .text)
    (sameName : Text.normalizeKey label.name = Text.normalizeKey ref.slotName) :
    label.id ∈ graph.slotTexts instanceId ref := by
  obtain ⟨node, below, rfl⟩ := List.mem_map.mp member
  have text : node.isText = true := by
    rw [node.isText_eq, beq_iff_eq]
    exact isText
  have named : hasName ref.slotName node = true := beq_iff_eq.mpr sameName
  refine List.mem_map.mpr ⟨node, List.mem_filter.mpr ⟨below, ?_⟩, rfl⟩
  rw [text, named, Bool.or_true, Bool.and_true]

end SceneGraph

/-- The schema lists texts and media in the order of the blueprint, and every text is reached by a slot. -/
structure Blueprint.IsListed (blueprint : Blueprint α) (schema : ComponentSchema)
    (placed : List (Nat × TextSlot)) : Prop where
  textSlots_eq : schema.textSlots = placed.map Prod.snd
  ordered : placed.Pairwise fun one other => one.1 < other.1
  owned : ∀ place slot, (place, slot) ∈ placed → ∃ node, blueprint.walk[place]? = some node ∧
    node.kind.form = .text ∧ slot.name = node.name ∧ slot.nodeId = node.id
  reached : ∀ place node, blueprint.walk[place]? = some node → node.kind.form = .text →
    ∃ slot, ReachesText placed place node slot
  media : List.Forall₂ HoldsMedia (blueprint.walk.filter (·.isMedia)) schema.mediaSlots

/-- The slots of a basic schema come from places of the blueprint. -/
theorem Blueprint.exists_isListed (blueprint : Blueprint α) (componentType : String) :
    ∃ placed, blueprint.IsListed (blueprint.basicSchema componentType) placed := by
  obtain ⟨placed, slots_eq, lists⟩ :=
    exists_listsTexts (ArrayHint.ofType componentType) [] 0 0 blueprint.walk
  refine ⟨placed, slots_eq.symm, lists.ordered, fun place slot member => ?_,
    fun place node found isText => ?_, forall₂_inferMediaSlot blueprint.walk⟩
  · obtain ⟨node, listed, isOwner⟩ := lists.owned place slot member
    exact ⟨node, List.mk_mem_zipIdx_iff_getElem?.mp listed, isOwner⟩
  · have listed := List.mk_mem_zipIdx_iff_getElem?.mpr found
    exact (lists.reached node place listed isText).resolve_left List.not_mem_nil

namespace Stage

variable {σ : Type} [Scalar α]

/-- A node of the blueprint has a copy in an instance, as far behind it as it stands in the walk. -/
theorem exists_copy_instantiate {blueprint : Blueprint α} (found : blueprint.walk[place]? = some node)
    (parent : Nat) (name : Option String) (stage : Stage α σ) :
    ∃ made,
      (stage.instantiate blueprint parent name).graph.node? (stage.graph.size + 1 + place) = some made ∧
      made.label = node.labelAt (SceneGraph.generatedHostId stage.graph.size)
        (stage.graph.size + 1 + place) := by
  have label := SceneGraph.getElem?_labels (stage.instantiate blueprint parent name).graph
    (stage.graph.size + 1 + place)
  have behind : stage.graph.labels.length ≤ stage.graph.size + 1 + place := by
    rw [SceneGraph.length_labels]
    omega
  have place_eq : stage.graph.size + 1 + place - stage.graph.labels.length = place + 1 := by
    rw [SceneGraph.length_labels]
    omega
  rw [labels_instantiate, List.getElem?_append_right behind, place_eq, List.getElem?_cons_succ,
    Blueprint.labels, BlueprintNode.labelsFrom, List.getElem?_mapIdx, found, Option.map_some] at label
  obtain ⟨made, isMade, label⟩ := Option.map_eq_some_iff.mp label.symm
  exact ⟨made, isMade, label⟩

/-- A slot that reaches a text finds its copy in an instance. -/
theorem mem_slotTexts_instantiate {blueprint : Blueprint α}
    (found : blueprint.walk[place]? = some node) (isText : node.kind.form = .text)
    (reaches : ReachesText placed place node slot) {parent : Nat} (name : Option String)
    {stage : Stage α σ} (within : parent < stage.graph.size) :
    stage.graph.size + 1 + place ∈
      (stage.instantiate blueprint parent name).graph.slotTexts stage.graph.size slot.ref := by
  have member : node.labelAt (SceneGraph.generatedHostId stage.graph.size)
      (stage.graph.size + 1 + place) ∈
        (stage.instantiate blueprint parent name).graph.labelsBelow stage.graph.size := by
    rw [labelsBelow_instantiate blueprint name within]
    exact mem_labelsFrom.mpr ⟨place, node, found, rfl⟩
  exact SceneGraph.mem_slotTexts_of_label member isText reaches.normalizeKey_eq

/-- Slots that are read off a blueprint list its texts and media in order and reach all their copies. -/
theorem inferred_slots_reach_all (blueprint : Blueprint α) (componentType : String) :
    ∃ placed, blueprint.IsListed (blueprint.basicSchema componentType) placed ∧
      ∀ {σ : Type} (stage : Stage α σ) (parent : Nat) (name : Option String),
        parent < stage.graph.size → ∀ place node slot, blueprint.walk[place]? = some node →
          node.kind.form = .text → ReachesText placed place node slot →
            (∃ made, (stage.instantiate blueprint parent name).graph.node?
                (stage.graph.size + 1 + place) = some made ∧
              made.label = node.labelAt (SceneGraph.generatedHostId stage.graph.size)
                (stage.graph.size + 1 + place)) ∧
            stage.graph.size + 1 + place ∈
              (stage.instantiate blueprint parent name).graph.slotTexts stage.graph.size slot.ref := by
  obtain ⟨placed, listed⟩ := blueprint.exists_isListed componentType
  refine ⟨placed, listed, ?_⟩
  intro σ stage parent name within place node slot found isText reaches
  exact ⟨exists_copy_instantiate found parent name stage,
    mem_slotTexts_instantiate found isText reaches name within⟩

/-- A bar of two tabs with an icon and a label each, and a title of its own. -/
def tabBar : Blueprint Rat :=
  badgeOf [.node "1" "Tab" true 0 0 .frame
      [.node "2" "Icon" true 0 0 .vector [], textNode "3" "Tab label"],
    textNode "4" "Title",
    .node "5" "Tab" true 0 0 .frame
      [.node "6" "Icon" true 0 0 (.instance "9:9") [], textNode "7" "tab-label"]]

/-- The label of the second tab has no slot of its own, and is one of the texts of the first label's. -/
theorem second_label_reached :
    0 < framed.graph.size ∧ tabBar.walk[6]? = some (textNode "7" "tab-label") ∧
      ∃ slot ∈ (tabBar.basicSchema "tab").textSlots, slot.nodeId ≠ "7" ∧ slot.dataType = .array ∧
        (∃ made, (framed.instantiate tabBar 0 none).graph.node? 8 = some made ∧
          made.name = "tab-label") ∧
        8 ∈ (framed.instantiate tabBar 0 none).graph.slotTexts 1 slot.ref := by
  have within : 0 < framed.graph.size := Nat.zero_lt_one
  have found : tabBar.walk[6]? = some (textNode "7" "tab-label") := rfl
  have owners : ∀ slot ∈ (tabBar.basicSchema "tab").textSlots, slot.nodeId ≠ "7" := by decide +kernel
  obtain ⟨placed, listed, copied⟩ := inferred_slots_reach_all tabBar "tab"
  obtain ⟨slot, reaches⟩ := listed.reached 6 _ found rfl
  obtain ⟨⟨made, isMade, label⟩, member⟩ := copied framed 0 none within 6 _ slot found rfl reaches
  have copy : (∃ made, (framed.instantiate tabBar 0 none).graph.node? 8 = some made ∧
      made.name = "tab-label") := ⟨made, isMade, congrArg NodeLabel.name label⟩
  rw [listed.textSlots_eq] at owners ⊢
  cases reaches with
  | own isPlaced _ sameId => exact absurd sameId (owners slot (List.mem_map_of_mem isPlaced))
  | shared isPlaced _ isArray =>
      have isSlot : slot ∈ placed.map Prod.snd := List.mem_map_of_mem isPlaced
      exact ⟨within, found, slot, isSlot, owners slot isSlot, isArray, copy, member⟩

end Stage

end DesignScene
