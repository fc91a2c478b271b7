/-
This file follows the lookups in an instance back to its blueprint.
-/
import DesignScene.Proofs.Render.HostId
import DesignScene.Proofs.Render.Labels
import Mathlib.Data.List.Forall2

namespace DesignScene

open BlueprintNode SceneGraph Stage

variable {α : Type} {blueprint : Blueprint α} {instanceId : Nat} {graph : SceneGraph α}

/-- The place in the walk of the blueprint to which a lookup in an instance of it leads. -/
def Blueprint.leads (blueprint : Blueprint α) (instanceId : Nat) (nodeId name : String) :
    Option Nat :=
  let hostId (node : BlueprintNode α) := nestedHostId (generatedHostId instanceId) node.id
  (((blueprint.walk.findIdx? fun node => hostId node == nodeId).or
        (blueprint.walk.findIdx? fun node =>
          nodeId != "" && Text.endsWith (hostId node) (";" ++ nodeId))).or
      (blueprint.walk.findIdx? fun node =>
        nodeId != "" && Text.contains (hostId node) nodeId)).or
    (blueprint.walk.findIdx? fun node => Text.normalizeKey node.name == Text.normalizeKey name)

/-- A place that is led to is one of the blueprint. -/
theorem Blueprint.leads_lt {nodeId name : String} {place : Nat}
    (found : blueprint.leads instanceId nodeId name = some place) :
    place < blueprint.walk.length := by
  simp only [leads, Option.or_eq_some_iff] at found
  rcases found with ((byId | ⟨-, bySuffix⟩) | ⟨-, byPart⟩) | ⟨-, byName⟩
  · exact (List.findIdx?_eq_some_iff_getElem.mp byId).1
  · exact (List.findIdx?_eq_some_iff_getElem.mp bySuffix).1
  · exact (List.findIdx?_eq_some_iff_getElem.mp byPart).1
  · exact (List.findIdx?_eq_some_iff_getElem.mp byName).1

/-- In two instances the lookup leads to nodes that became of the same node of the blueprint. -/
def Blueprint.LeadsAlike (blueprint : Blueprint α) (start other : Nat) (nodeId name : String) :
    Prop := blueprint.leads start nodeId name = blueprint.leads other nodeId name

theorem map_id_find?_labelsFrom (test : String → String → Bool) (hostId : String) (start : Nat)
    (nodes : List (BlueprintNode α)) :
    ((labelsFrom hostId start nodes).find? fun label => test label.hostId label.name).map (·.id) =
      (nodes.findIdx? fun node => test (nestedHostId hostId node.id) node.name).map (start + ·) := by
  induction nodes generalizing start with
  | nil => rfl
  | cons node more ih =>
      rw [labelsFrom_cons, List.find?_cons, List.findIdx?_cons]
      simp only [labelAt]
      cases test (nestedHostId hostId node.id) node.name with
      | true => rfl
      | false =>
          simp only [Bool.false_eq_true, if_false, ih, Option.map_map]
          congr 1
          funext place
          simp only [Function.comp_apply]
          omega

section Locating

variable (labels : graph.labelsBelow instanceId = blueprint.labels instanceId)

include labels

/-- A search below an instance is a search in its blueprint. -/
theorem findBelow_eq_findIdx? (test : String → String → Bool) :
    graph.findBelow instanceId (fun node => test node.hostId node.name) =
      (blueprint.walk.findIdx? fun node =>
        test (nestedHostId (generatedHostId instanceId) node.id) node.name).map
          (instanceId + 1 + ·) := by
  have read : graph.findBelow instanceId (fun node => test node.hostId node.name) = _ :=
    findBelow_eq fun label => test label.hostId label.name
  rw [labels, Blueprint.labels, map_id_find?_labelsFrom] at read
  exact read

/-- A lookup finds the node that stands as far behind the instance. -/
theorem locate_eq_leads (nodeId name : String) :
    graph.locate instanceId nodeId name =
      (blueprint.leads instanceId nodeId name).map (instanceId + 1 + ·) := by
  have byId := findBelow_eq_findIdx? labels fun hostId _ => hostId == nodeId
  have bySuffix := findBelow_eq_findIdx? labels
    fun hostId _ => nodeId != "" && Text.endsWith hostId (";" ++ nodeId)
  have byPart := findBelow_eq_findIdx? labels
    fun hostId _ => nodeId != "" && Text.contains hostId nodeId
  have byName := findBelow_eq_findIdx? labels
    fun _ other => Text.normalizeKey other == Text.normalizeKey name
  rw [Blueprint.leads, Option.map_or, Option.map_or, Option.map_or]
  exact congrArg₂ Option.or (congrArg₂ Option.or (congrArg₂ Option.or byId bySuffix) byPart) byName

end Locating

/-- An identifier of two numbers, or none at all. -/
def IsPlainId (nodeId : String) : Prop := isWellFormedId nodeId = true ∨ nodeId = ""

/-- Where such an identifier leads does not depend on the instance. -/
theorem Blueprint.leadsAlike_of_isPlainId (blueprint : Blueprint α) {nodeId : String}
    (plain : IsPlainId nodeId) (name : String) (start other : Nat) :
    blueprint.LeadsAlike start other nodeId name := by
  have whole (place : Nat) (node : BlueprintNode α) :
      (nestedHostId (generatedHostId place) node.id == nodeId) = false := by
    rw [beq_eq_false_iff_ne]
    rcases plain with wellFormed | rfl
    · exact nestedHostId_ne_of_isWellFormedId _ _ wellFormed
    · exact nestedHostId_ne_empty _ _
  have ending (node : BlueprintNode α) :
      Text.endsWith (nestedHostId (generatedHostId start) node.id) (";" ++ nodeId) =
        Text.endsWith (nestedHostId (generatedHostId other) node.id) (";" ++ nodeId) := by
    rw [Bool.eq_iff_iff, endsWith_nestedHostId, endsWith_nestedHostId]
  have inside (node : BlueprintNode α) :
      (nodeId != "" && Text.contains (nestedHostId (generatedHostId start) node.id) nodeId) =
        (nodeId != "" && Text.contains (nestedHostId (generatedHostId other) node.id) nodeId) := by
    rcases plain with wellFormed | rfl
    · rw [contains_nestedHostId _ _ wellFormed, contains_nestedHostId _ _ wellFormed]
    · simp
  simp only [LeadsAlike, leads, whole, ending, inside]

/-- Places that are equally far behind their starts. -/
def Beside (start other id place : Nat) : Prop :=
  ∃ offset, id = start + offset ∧ place = other + offset

section Related

variable {β γ : Type} {related : β → γ → Prop}

/-- Two related options are both filled or both empty. -/
theorem rel_cases {found : Option β} {twin : Option γ} (alike : Option.Rel related found twin) :
    (∃ member other, found = some member ∧ twin = some other ∧ related member other) ∨
      found = none ∧ twin = none := by
  cases alike with
  | some alike => exact .inl ⟨_, _, rfl, rfl, alike⟩
  | none => exact .inr ⟨rfl, rfl⟩

/-- Related alternatives give related choices. -/
theorem rel_or {first second : Option β} {twinFirst twinSecond : Option γ}
    (one : Option.Rel related first twinFirst) (two : Option.Rel related second twinSecond) :
    Option.Rel related (first.or second) (twinFirst.or twinSecond) := by
  cases one with
  | some alike => exact .some alike
  | none => exact two

/-- Related options have related results. -/
theorem rel_map {δ ε : Type} {result : δ → ε → Prop} {read : β → δ} {twinRead : γ → ε}
    (reads : ∀ member twin, related member twin → result (read member) (twinRead twin))
    {found : Option β} {twin : Option γ} (alike : Option.Rel related found twin) :
    Option.Rel result (found.map read) (twin.map twinRead) := by
  cases alike with
  | some alike => exact .some (reads _ _ alike)
  | none => exact .none

/-- Related lists have related heads. -/
theorem rel_head? {members : List β} {twins : List γ} (alike : List.Forall₂ related members twins) :
    Option.Rel related members.head? twins.head? := by
  cases alike with
  | nil => exact .none
  | cons first _ => exact .some first

/-- Related lists stay related when both are filtered alike. -/
theorem rel_filter {members : List β} {twins : List γ} (alike : List.Forall₂ related members twins)
    {holds : β → Bool} {twinHolds : γ → Bool}
    (same : ∀ member twin, related member twin → holds member = twinHolds twin) :
    List.Forall₂ related (members.filter holds) (twins.filter twinHolds) :=
  List.rel_filter (fun member twin first => iff_of_eq (congrArg (· = true) (same member twin first)))
    alike

/-- Like searches in related lists find related members. -/
theorem rel_find? {members : List β} {twins : List γ} (alike : List.Forall₂ related members twins)
    {holds : β → Bool} {twinHolds : γ → Bool}
    (same : ∀ member twin, related member twin → holds member = twinHolds twin) :
    Option.Rel related (members.find? holds) (twins.find? twinHolds) := by
  rw [← List.head?_filter, ← List.head?_filter]
  exact rel_head? (rel_filter alike same)

end Related

/-- The nodes became of the same node of the blueprint. -/
def Blueprint.Pairs (blueprint : Blueprint α) (start other : Nat) (node twin : SceneNode α) : Prop :=
  ∃ origin ∈ blueprint.walk, ∃ offset,
    node.label = origin.labelAt (generatedHostId start) (start + offset) ∧
      twin.label = origin.labelAt (generatedHostId other) (other + offset)

namespace Blueprint.Pairs

variable {start other : Nat} {node twin : SceneNode α}

/-- Paired nodes stand at one offset. -/
theorem beside (pair : blueprint.Pairs start other node twin) :
    Beside start other node.id twin.id := by
  obtain ⟨origin, -, offset, label, twinLabel⟩ := pair
  exact ⟨offset, congrArg NodeLabel.id label, congrArg NodeLabel.id twinLabel⟩

/-- Paired nodes have one name. -/
theorem name_eq (pair : blueprint.Pairs start other node twin) : node.name = twin.name := by
  obtain ⟨origin, -, offset, label, twinLabel⟩ := pair
  exact (congrArg NodeLabel.name label).trans (congrArg NodeLabel.name twinLabel).symm

/-- Paired nodes are of one form. -/
theorem form_eq (pair : blueprint.Pairs start other node twin) :
    node.kind.form = twin.kind.form := by
  obtain ⟨origin, -, offset, label, twinLabel⟩ := pair
  exact (congrArg NodeLabel.form label).trans (congrArg NodeLabel.form twinLabel).symm

end Blueprint.Pairs

section Pairing

variable {start other : Nat} {twinGraph : SceneGraph α}

/-- The labels of two instances come from the same nodes of the blueprint. -/
theorem forall₂_labelsFrom (blueprint : Blueprint α) (start other offset : Nat)
    {nodes : List (BlueprintNode α)} (walked : ∀ node ∈ nodes, node ∈ blueprint.walk) :
    List.Forall₂ (fun label twin => ∃ origin ∈ blueprint.walk, ∃ offset,
        label = origin.labelAt (generatedHostId start) (start + offset) ∧
          twin = origin.labelAt (generatedHostId other) (other + offset))
      (labelsFrom (generatedHostId start) (start + offset) nodes)
      (labelsFrom (generatedHostId other) (other + offset) nodes) := by
  induction nodes generalizing offset with
  | nil => exact .nil
  | cons node more ih =>
      rw [labelsFrom_cons, labelsFrom_cons]
      exact .cons ⟨node, walked node List.mem_cons_self, offset, rfl, rfl⟩
        (ih (offset + 1) fun later member => walked later (List.mem_cons_of_mem _ member))

variable (labels : graph.labelsBelow start = blueprint.labels start)
  (twinLabels : twinGraph.labelsBelow other = blueprint.labels other)

include labels twinLabels

/-- The nodes below two instances are paired. -/
theorem forall₂_descendantNodes :
    List.Forall₂ (blueprint.Pairs start other) (graph.descendantNodes start)
      (twinGraph.descendantNodes other) := by
  have pairs := forall₂_labelsFrom blueprint start other 1 (fun _ member => member)
  rw [← Blueprint.labels, ← Blueprint.labels, ← labels, ← twinLabels, labelsBelow, labelsBelow,
    List.forall₂_map_left_iff, List.forall₂_map_right_iff] at pairs
  exact pairs

/-- A key that leads alike locates nodes at one offset. -/
theorem rel_locate {nodeId name : String}
    (alike : blueprint.LeadsAlike start other nodeId name) :
    Option.Rel (Beside start other) (graph.locate start nodeId name)
      (twinGraph.locate other nodeId name) := by
  rw [locate_eq_leads labels, locate_eq_leads twinLabels, alike]
  cases blueprint.leads other nodeId name with
  | none => exact .none
  | some place => exact .some ⟨1 + place, Nat.add_assoc _ _ _, Nat.add_assoc _ _ _⟩

/-- A slot that leads alike has its texts at the same offsets. -/
theorem forall₂_slotTexts {slot : SlotRef}
    (alike : blueprint.LeadsAlike start other slot.nodeId slot.slotName) :
    List.Forall₂ (Beside start other) (graph.slotTexts start slot)
      (twinGraph.slotTexts other slot) := by
  have first : Option.Rel (Beside start other) (graph.locateSlot start slot)
      (twinGraph.locateSlot other slot) := rel_locate labels twinLabels alike
  have isFirst {id place : Nat} (beside : Beside start other id place) :
      (some id == graph.locateSlot start slot) = (some place == twinGraph.locateSlot other slot) := by
    obtain ⟨offset, rfl, rfl⟩ := beside
    rcases rel_cases first with ⟨_, _, found, twinFound, place, rfl, rfl⟩ | ⟨found, twinFound⟩
    · simp [found, twinFound]
    · rw [found, twinFound]
      rfl
  rw [slotTexts, slotTexts]
  refine List.rel_map (fun _ _ pair => pair.beside) (rel_filter
    (forall₂_descendantNodes labels twinLabels) fun node twin pair => ?_)
  rw [SceneNode.isText_eq, SceneNode.isText_eq, pair.form_eq, isFirst pair.beside, hasName, hasName,
    pair.name_eq]

end Pairing

section Icons

variable {start other : Nat} {twinGraph : SceneGraph α} {nested twinNested : List (SceneNode α)}
  (pairs : List.Forall₂ (blueprint.Pairs start other) nested twinNested)

include pairs

/-- Like searches among nested instances find nodes at one offset. -/
theorem rel_findNested {holds twinHolds : SceneNode α → Bool}
    (same : ∀ node twin, blueprint.Pairs start other node twin → holds node = twinHolds twin) :
    Option.Rel (Beside start other) (findNested nested holds) (findNested twinNested twinHolds) := by
  rw [findNested, findNested]
  exact rel_map (fun _ _ pair => pair.beside) (rel_find? pairs same)

/-- An icon is found by name at one offset. -/
theorem rel_iconByName (key : String) :
    Option.Rel (Beside start other) (iconByName key nested) (iconByName key twinNested) := by
  have byWord (words : List String) := rel_findNested pairs fun node twin pair =>
    congrArg (fun name => Text.containsAny (Text.lower name) words) pair.name_eq
  have first := rel_map (fun _ _ pair => Blueprint.Pairs.beside pair) (rel_head? pairs)
  have last := rel_map (fun _ _ pair => Blueprint.Pairs.beside pair)
    (rel_head? (List.forall₂_reverse_iff.mpr pairs))
  rw [List.head?_reverse, List.head?_reverse] at last
  have near := rel_findNested pairs fun node twin pair => show nameNear (Text.normalizeKey key) node =
      nameNear (Text.normalizeKey key) twin by rw [nameNear, nameNear, pair.name_eq]
  have anyIcon := rel_findNested pairs fun node twin pair =>
    congrArg (fun name => Text.contains (Text.lower name) "icon") pair.name_eq
  simp only [iconByName]
  split
  · exact rel_or (byWord leadingWords) first
  · split
    · exact rel_or (byWord trailingWords) last
    · exact rel_or near anyIcon

end Icons

/-- No host identifier of a node is the key at one place and is not at the other one. -/
def Blueprint.IconLeadsAlike (blueprint : Blueprint α) (start other : Nat) (key : String) : Prop :=
  ∀ node ∈ blueprint.walk, nestedHostId (generatedHostId start) node.id = key ↔
    nestedHostId (generatedHostId other) node.id = key

/-- A key without a semicolon leads to the same icon everywhere. -/
theorem Blueprint.iconLeadsAlike_of_not_mem (blueprint : Blueprint α) (start other : Nat)
    {key : String} (fresh : ';' ∉ key.toList) : blueprint.IconLeadsAlike start other key := by
  have differs (place : Nat) (node : BlueprintNode α) :
      nestedHostId (generatedHostId place) node.id ≠ key := by
    rintro rfl
    rw [toList_nestedHostId] at fresh
    exact fresh (List.mem_append_right _ List.mem_cons_self)
  exact fun node _ => iff_of_false (differs start node) (differs other node)

/-- A key that leads alike has its icon at one offset. -/
theorem rel_iconTarget {start other : Nat} {twinGraph : SceneGraph α}
    (labels : graph.labelsBelow start = blueprint.labels start)
    (twinLabels : twinGraph.labelsBelow other = blueprint.labels other) {key : String}
    (leadsAlike : blueprint.IconLeadsAlike start other key) :
    Option.Rel (Beside start other) (graph.iconTarget start key)
      (twinGraph.iconTarget other key) := by
  have nested := rel_filter (forall₂_descendantNodes labels twinLabels)
    fun node twin pair => show node.isInstance = twin.isInstance by
      rw [SceneNode.isInstance_eq, SceneNode.isInstance_eq, pair.form_eq]
  have byId := rel_findNested nested fun node twin pair =>
    show hasHostIdOrSuffix key node = hasHostIdOrSuffix key twin by
      obtain ⟨origin, member, offset, label, twinLabel⟩ := pair
      have hostId : node.hostId = _ := congrArg NodeLabel.hostId label
      have twinHostId : twin.hostId = _ := congrArg NodeLabel.hostId twinLabel
      rw [hasHostIdOrSuffix, hasHostIdOrSuffix, hostId, twinHostId, Bool.eq_iff_iff, Bool.or_eq_true,
        Bool.or_eq_true, beq_iff_eq, beq_iff_eq, labelAt, labelAt, endsWith_nestedHostId,
        endsWith_nestedHostId, leadsAlike origin member]
  have byName := rel_iconByName nested key
  have sameEmpty : ((graph.descendantNodes start).filter (·.isInstance)).isEmpty =
      ((twinGraph.descendantNodes other).filter (·.isInstance)).isEmpty := by
    rw [Bool.eq_iff_iff, List.isEmpty_iff_length_eq_zero, List.isEmpty_iff_length_eq_zero,
      nested.length_eq]
  simp only [iconTarget, sameEmpty]
  split
  · exact .none
  · exact rel_or byId byName

end DesignScene
