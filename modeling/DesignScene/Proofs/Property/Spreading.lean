/-
This file says which slots get which texts of a list. The slots of a group are filled in their order, and
nothing beyond the slots or the texts is read on the way.
-/
import DesignScene.Proofs.Matching.TextSlots
import DesignScene.Property.Resolution
import DesignScene.Scalar.Exact

namespace DesignScene

section Groups

/-- The places of the slots whose names differ from the name of this one by an index only. -/
def groupPlaces (slots : List TextSlot) (slot : TextSlot) : List Nat :=
  (slots.zipIdx.filter fun placed => baseSlotName placed.1.name == baseSlotName slot.name).map
    Prod.snd

/-- The list has the places of the slots of a group, each of them once and in the order of the slots. -/
structure IsGroup (slots : List TextSlot) (slot : TextSlot) (places : List Nat) : Prop where
  increasing : places.Pairwise (· < ·)
  mem_iff : ∀ place, place ∈ places ↔
    ∃ other, slots[place]? = some other ∧ baseSlotName other.name = baseSlotName slot.name

/-- The places of a group are those of the slots with one base name. -/
theorem isGroup_groupPlaces (slots : List TextSlot) (slot : TextSlot) :
    IsGroup slots slot (groupPlaces slots slot) := by
  rw [groupPlaces, map_snd_filter_zipIdx fun other : TextSlot =>
    baseSlotName other.name == baseSlotName slot.name]
  constructor
  · exact List.pairwise_findIdxs
  · intro place
    simp only [mem_findIdxs_iff, beq_iff_eq]

/-- The slots at these places are those of the group. -/
theorem map_getElem?_groupPlaces (slots : List TextSlot) (slot : TextSlot) :
    (groupPlaces slots slot).map (slots[·]?) = (slotGroup slots slot).map some := by
  have group : slotGroup slots slot =
      (slots.zipIdx.filter fun placed =>
        baseSlotName placed.1.name == baseSlotName slot.name).map Prod.fst :=
    calc slotGroup slots slot
      _ = (slots.zipIdx.map Prod.fst).filter fun other =>
          baseSlotName other.name == baseSlotName slot.name := by
        rw [List.zipIdx_map_fst, slotGroup]
      _ = _ := List.filter_map
  rw [groupPlaces, group, List.map_map, List.map_map]
  refine List.map_congr_left fun placed member => ?_
  exact List.mk_mem_zipIdx_iff_getElem?.mp (List.mem_of_mem_filter member)

theorem length_groupPlaces (slots : List TextSlot) (slot : TextSlot) :
    (groupPlaces slots slot).length = (slotGroup slots slot).length := by
  have same := congrArg List.length (map_getElem?_groupPlaces slots slot)
  rwa [List.length_map, List.length_map] at same

end Groups

section Reading

variable {slots : List TextSlot} {slot : TextSlot}

/-- The slots at the places, filled with texts in turn and hidden from the limit on, if all are in range. -/
def spreadFrom? (slots : List TextSlot) (texts : List String) (limit : Nat) :
    Nat → List Nat → Option (List SlotBinding × List SlotRef)
  | _, [] => some ([], [])
  | turn, place :: places => do
      let slot ← slots[place]?
      let (bindings, hidden) ← spreadFrom? slots texts limit (turn + 1) places
      if turn < limit then
        let text ← texts[turn]?
        some (⟨slot.ref, .single text, none⟩ :: bindings, hidden)
      else some (bindings, slot.ref :: hidden)

/-- What the slot at a place makes of texts, with every slot and every text read by its place. -/
def bindTextsAt? (slots : List TextSlot) (index : Nat) (texts : List String) :
    Option (List SlotBinding × List SlotRef) := do
  let slot ← slots[index]?
  let places := groupPlaces slots slot
  if 1 < places.length then
    spreadFrom? slots texts (min (slot.maxItems.getD places.length) texts.length) 0 places
  else if slot.dataType == .array then
    some ([⟨slot.ref, .multiple (texts.take (slot.maxItems.getD texts.length)), slot.maxItems⟩], [])
  else some ([⟨slot.ref, .single (Text.joinWith ", " texts), none⟩], [])

/-- From any turn on the texts are spread as the definition does, without a place out of range. -/
theorem spreadFrom?_eq {texts : List String} {limit : Nat} (bounded : limit ≤ texts.length)
    {group : List TextSlot} {places : List Nat} (turn : Nat)
    (read : places.map (slots[·]?) = group.map some) :
    spreadFrom? slots texts limit turn places =
      some (List.zipWith (fun (slot : TextSlot) text => ⟨slot.ref, .single text, none⟩)
          (group.take (limit - turn)) (texts.drop turn),
        (group.drop (limit - turn)).map TextSlot.ref) := by
  induction group generalizing places turn with
  | nil =>
      obtain rfl := List.map_eq_nil_iff.mp read
      rw [spreadFrom?, List.take_nil, List.drop_nil, List.zipWith_nil_left, List.map_nil]
  | cons slot more ih =>
      obtain ⟨place, rest, rfl, here, later⟩ := List.map_eq_cons_iff.mp read
      rw [spreadFrom?, here, ih (turn + 1) later]
      by_cases filled : turn < limit
      · have inRange : turn < texts.length := Nat.lt_of_lt_of_le filled bounded
        have left : limit - turn = limit - (turn + 1) + 1 := by omega
        rw [left, List.drop_eq_getElem_cons inRange, List.take_succ_cons, List.drop_succ_cons,
          List.zipWith_cons_cons]
        simp only [Option.bind_eq_bind, Option.bind_some, if_pos filled,
          List.getElem?_eq_getElem inRange]
      · have spent : limit - turn = 0 := by omega
        have stillSpent : limit - (turn + 1) = 0 := by omega
        rw [spent, stillSpent]
        simp only [Option.bind_eq_bind, Option.bind_some, if_neg filled, List.take_zero,
          List.drop_zero, List.zipWith_nil_left, List.map_cons]

/-- Neither a place beyond the slots nor a turn beyond the texts is read. -/
theorem bindTextsAt?_eq {index : Nat} (here : slots[index]? = some slot) (texts : List String) :
    bindTextsAt? slots index texts = some (bindTexts slots slot texts) := by
  have bounded := Nat.min_le_right (slot.maxItems.getD (slotGroup slots slot).length) texts.length
  have spread := spreadFrom?_eq bounded 0 (map_getElem?_groupPlaces slots slot)
  rw [Nat.sub_zero, List.drop_zero] at spread
  simp only [bindTextsAt?, here, Option.bind_eq_bind, Option.bind_some, length_groupPlaces,
    bindTexts]
  split_ifs
  · exact spread
  · rfl
  · rfl

end Reading

/-- The text of a string is the string, and the text of a number is the number as it was authored. -/
inductive HasText : Json → String → Prop where
  | string (text : String) : HasText (.string text) text
  | number (number : Number) : HasText (.number number) number.toText

/-- An element is read as its text. -/
theorem textOfElement_of_hasText {element : Json} {text : String} (read : HasText element text) :
    textOfElement element = some text := by
  cases read <;> rfl

/-- An array of strings and numbers is read as their texts. -/
theorem textValue_array {elements : List Json} {texts : List String}
    (read : List.Forall₂ HasText elements texts) :
    textValue (.array elements) = some (.multiple texts) := by
  have all : elements.mapM textOfElement = some texts := by
    induction read with
    | nil => rfl
    | cons first _ ih => simp [textOfElement_of_hasText first, ih]
  rw [textValue, all, Option.map_some]

/-- The count itself or the cap, whichever is smaller. -/
def capped (cap : Option Nat) (count : Nat) : Nat := cap.elim count (min count)

theorem capped_le (cap : Option Nat) (count : Nat) : capped cap count ≤ count := by
  cases cap with
  | none => exact Nat.le_refl count
  | some most => exact Nat.min_le_left count most

/-- The number of slots of a group that get a text. -/
def filledCount (slot : TextSlot) (group : List TextSlot) (texts : List String) : Nat :=
  capped slot.maxItems (min group.length texts.length)

section Filling

variable (slot : TextSlot) (group : List TextSlot) (texts : List String)

theorem length_take_slots : (group.take (filledCount slot group texts)).length =
    filledCount slot group texts :=
  List.length_take_of_le (Nat.le_trans (capped_le _ _) (Nat.min_le_left _ _))

theorem length_take_texts : (texts.take (filledCount slot group texts)).length =
    filledCount slot group texts :=
  List.length_take_of_le (Nat.le_trans (capped_le _ _) (Nat.min_le_right _ _))

/-- The first slots are paired with the first texts. -/
theorem spreadTexts_eq :
    spreadTexts slot group texts =
      (((group.take (filledCount slot group texts)).zip
          (texts.take (filledCount slot group texts))).map fun pair =>
            ⟨pair.1.ref, .single pair.2, none⟩,
        (group.drop (filledCount slot group texts)).map TextSlot.ref) := by
  have limit : min (min (slot.maxItems.getD group.length) texts.length) group.length =
      filledCount slot group texts := by
    rw [filledCount]
    cases slot.maxItems with
    | none => simp only [Option.getD_none, capped, Option.elim_none]; omega
    | some most => simp only [Option.getD_some, capped, Option.elim_some]; omega
  have short : (List.zipWith (fun (slot : TextSlot) text =>
      (⟨slot.ref, .single text, none⟩ : SlotBinding))
        (group.take (filledCount slot group texts)) texts).length ≤
      filledCount slot group texts := by
    rw [List.length_zipWith]
    exact Nat.le_trans (Nat.min_le_left _ _) (List.length_take_le _ group)
  rw [spreadTexts, List.take_eq_take_min, List.drop_eq_drop_min, limit,
    ← List.take_of_length_le short, List.take_zipWith, List.take_take, Nat.min_self,
    List.map_zip_eq_zipWith]
  rfl

/-- As many slots are bound as texts and the cap allow. -/
theorem length_spreadTexts :
    (spreadTexts slot group texts).1.length = filledCount slot group texts := by
  rw [spreadTexts_eq, List.length_map, List.length_zip, length_take_slots, length_take_texts,
    Nat.min_self]

/-- Every slot of the group is filled or hidden, in the order of the group. -/
theorem slots_spreadTexts :
    (spreadTexts slot group texts).1.map SlotBinding.slot ++ (spreadTexts slot group texts).2 =
      group.map TextSlot.ref := by
  have sameLength := (length_take_slots slot group texts).trans
    (length_take_texts slot group texts).symm
  have filled : (spreadTexts slot group texts).1.map SlotBinding.slot =
      (group.take (filledCount slot group texts)).map TextSlot.ref :=
    calc (spreadTexts slot group texts).1.map SlotBinding.slot
      _ = (((group.take (filledCount slot group texts)).zip
            (texts.take (filledCount slot group texts))).map Prod.fst).map TextSlot.ref := by
          rw [spreadTexts_eq, List.map_map, List.map_map]
          rfl
      _ = _ := by rw [List.map_fst_zip (Nat.le_of_eq sameLength)]
  rw [filled, spreadTexts_eq, ← List.map_append, List.take_append_drop]

/-- The slots are bound to the first texts in their order. -/
theorem values_spreadTexts :
    (spreadTexts slot group texts).1.map SlotBinding.value =
      (texts.take (filledCount slot group texts)).map .single := by
  have sameLength := (length_take_texts slot group texts).trans
    (length_take_slots slot group texts).symm
  calc (spreadTexts slot group texts).1.map SlotBinding.value
    _ = (((group.take (filledCount slot group texts)).zip
          (texts.take (filledCount slot group texts))).map Prod.snd).map .single := by
        rw [spreadTexts_eq, List.map_map, List.map_map]
        rfl
    _ = _ := by rw [List.map_snd_zip (Nat.le_of_eq sameLength)]

end Filling

/-- The first slots of the group at these places take one text each, and the other ones are hidden. -/
structure FillsGroup (slots : List TextSlot) (cap : Option Nat) (places : List Nat)
    (texts : List String) (assignment : TextAssignment) : Prop where
  slots_eq : (assignment.bindings.map SlotBinding.slot ++ assignment.hiddenSlots).map some =
    places.map fun place => slots[place]?.map TextSlot.ref
  length_eq : assignment.bindings.length = capped cap (min places.length texts.length)
  values_eq : assignment.bindings.map SlotBinding.value =
    (texts.take assignment.bindings.length).map .single

/-- What a slot without a group makes of several texts. -/
def bindingAlone (slot : TextSlot) (texts : List String) : SlotBinding :=
  match slot.dataType with
  | .array =>
      ⟨slot.ref, .multiple (texts.take (capped slot.maxItems texts.length)), slot.maxItems⟩
  | .scalar => ⟨slot.ref, .single (String.intercalate ", " texts), none⟩

/-- What the slot at an index, whose group is at these places, makes of several texts. -/
structure TakesTexts (slots : List TextSlot) (index : Nat) (slot : TextSlot) (places : List Nat)
    (texts : List String) (assignment : TextAssignment) : Prop where
  several : 1 < places.length → FillsGroup slots slot.maxItems places texts assignment
  alone : places.length ≤ 1 → places = [index] ∧
    assignment.bindings = [bindingAlone slot texts] ∧ assignment.hiddenSlots = []

section Taking

variable {slots : List TextSlot} {slot : TextSlot} {index : Nat} {texts : List String}

/-- Several slots of a group share the texts. -/
theorem bindTexts_of_several (several : 1 < (slotGroup slots slot).length) :
    bindTexts slots slot texts = spreadTexts slot (slotGroup slots slot) texts := if_pos several

/-- A slot without a group takes all texts. -/
theorem bindTexts_of_alone (alone : (slotGroup slots slot).length ≤ 1) :
    bindTexts slots slot texts = ([bindingAlone slot texts], []) := by
  have first : texts.take (slot.maxItems.getD texts.length) =
      texts.take (capped slot.maxItems texts.length) := by
    cases slot.maxItems with
    | none => rfl
    | some most =>
        rw [Option.getD_some, List.take_eq_take_min, Nat.min_comm]
        rfl
  rw [bindTexts, if_neg (Nat.not_lt.mpr alone), first, bindingAlone]
  cases slot.dataType <;> rfl

/-- A group of one slot is at the place of the slot. -/
theorem groupPlaces_of_alone (here : slots[index]? = some slot)
    (alone : (groupPlaces slots slot).length ≤ 1) : groupPlaces slots slot = [index] := by
  have member : index ∈ groupPlaces slots slot :=
    ((isGroup_groupPlaces slots slot).mem_iff index).mpr ⟨slot, here, rfl⟩
  have one : (groupPlaces slots slot).length = 1 :=
    Nat.le_antisymm alone (List.length_pos_of_mem member)
  obtain ⟨place, places⟩ := List.length_eq_one_iff.mp one
  rw [places, List.mem_singleton] at member
  rw [places, member]

theorem map_ref_groupPlaces (slots : List TextSlot) (slot : TextSlot) :
    (groupPlaces slots slot).map (fun place => slots[place]?.map TextSlot.ref) =
      ((slotGroup slots slot).map TextSlot.ref).map some := by
  have refs := congrArg (List.map (Option.map TextSlot.ref)) (map_getElem?_groupPlaces slots slot)
  rw [List.map_map, List.map_map] at refs
  rw [List.map_map]
  exact refs

/-- The texts go to the group of the slot, in the way of its type. -/
theorem takesTexts_bindTexts (here : slots[index]? = some slot) (texts : List String)
    (key : String) (strategy : MatchStrategy) :
    TakesTexts slots index slot (groupPlaces slots slot) texts
      ⟨key, strategy, (bindTexts slots slot texts).1, (bindTexts slots slot texts).2⟩ := by
  constructor
  · intro several
    rw [length_groupPlaces] at several
    rw [bindTexts_of_several several]
    constructor
    · have inOrder := congrArg (List.map some) (slots_spreadTexts slot (slotGroup slots slot) texts)
      exact inOrder.trans (map_ref_groupPlaces slots slot).symm
    · rw [length_groupPlaces]
      exact length_spreadTexts slot (slotGroup slots slot) texts
    · rw [length_spreadTexts]
      exact values_spreadTexts slot (slotGroup slots slot) texts
  · intro alone
    refine ⟨groupPlaces_of_alone here alone, ?_⟩
    rw [length_groupPlaces] at alone
    simp only [bindTexts_of_alone alone, and_self]

end Taking

/-- The value of a key goes to the text slot at this place, before which no other strategy takes it. -/
structure GoesToText (schema : ComponentSchema) (key : String) (value : Json)
    (place : SlotMatch) : Prop where
  noLayoutKey : LayoutKey.ofKey key = none
  noDimension : schema.canonicalDimension key = none
  matched : TextSlots.firstMatch key schema.textSlots = some place
  noMedia : place.strategy = .exact ∨
    findExact MediaSlot.name key schema.mediaSlots = none ∧ speaksOfMedia key value = false

section Resolving

variable {α : Type} {schema : ComponentSchema} {key : String} {value : Json} {place : SlotMatch}
  {slot : TextSlot}

/-- The content is bound to the slot that the value goes to. -/
theorem GoesToText.resolveContent_eq (goes : GoesToText schema key value place)
    (here : schema.textSlots[place.index]? = some slot) :
    (resolveContent schema key value : PropertyOutcome α) =
      bindText schema.textSlots slot place.strategy key value := by
  cases named : findExact TextSlot.name key schema.textSlots with
  | some index =>
      have same := (TextSlots.firstMatch_of_findExact named).symm.trans goes.matched
      obtain rfl := Option.some.inj same
      rw [resolveContent, exactSlot?, named, Option.bind_some, here]
  | none =>
      have otherStrategy := TextSlots.strategy_of_firstMatch named goes.matched
      obtain ⟨noName, silent⟩ := goes.noMedia.resolve_left otherStrategy
      have slotHere : slotAt? schema.textSlots (TextSlots.firstMatch key schema.textSlots) =
          some (slot, place.strategy) := by
        rw [slotAt?, goes.matched, Option.bind_some, here, Option.map_some]
      simp only [resolveContent, exactSlot?, named, noName, Option.bind_none, silent,
        Bool.false_eq_true, if_false, slotHere]

/-- So is the property. -/
theorem GoesToText.resolveProperty_eq [Scalar α] (goes : GoesToText schema key value place)
    (noObject : value.isObject = false) (here : schema.textSlots[place.index]? = some slot) :
    (resolveProperty (some schema) key value : PropertyOutcome α) =
      bindText schema.textSlots slot place.strategy key value := by
  rw [← goes.resolveContent_eq here]
  simp only [resolveProperty, goes.noLayoutKey, looseDimension, goes.noDimension, noObject,
    Bool.false_eq_true, if_false]

/-- An array is bound to the slots of a group in their order, and all slots and texts that are read exist. -/
theorem array_fills_group [Scalar α] {elements : List Json} {texts : List String}
    (goes : GoesToText schema key (.array elements) place)
    (read : List.Forall₂ HasText elements texts) :
    ∃ slot places assignment,
      schema.textSlots[place.index]? = some slot ∧
      IsGroup schema.textSlots slot places ∧
      bindTextsAt? schema.textSlots place.index texts =
        some (assignment.bindings, assignment.hiddenSlots) ∧
      (resolveProperty (some schema) key (.array elements) : PropertyOutcome α) =
        .text assignment ∧
      assignment.property = key ∧ assignment.strategy = place.strategy ∧
      TakesTexts schema.textSlots place.index slot places texts assignment := by
  have inside := TextSlots.lt_length_of_firstMatch goes.matched
  obtain ⟨slot, here⟩ : ∃ slot, schema.textSlots[place.index]? = some slot :=
    ⟨_, List.getElem?_eq_getElem inside⟩
  have bound : (resolveProperty (some schema) key (.array elements) : PropertyOutcome α) =
      .text ⟨key, place.strategy, (bindTexts schema.textSlots slot texts).1,
        (bindTexts schema.textSlots slot texts).2⟩ := by
    rw [goes.resolveProperty_eq rfl here, bindText, textValue_array read]
  exact ⟨slot, groupPlaces schema.textSlots slot, _, here, isGroup_groupPlaces _ _,
    bindTextsAt?_eq here texts, bound, rfl, rfl,
    takesTexts_bindTexts here texts key place.strategy⟩

end Resolving

/-- A component with three labels, of which at most two are filled. -/
def threeLabels : ComponentSchema where
  componentId := "90:1"
  textSlots := [
    ⟨"Label 1", "90:2", .primary, some 2, .scalar⟩,
    ⟨"Label 2", "90:3", .primary, none, .scalar⟩,
    ⟨"Label 3", "90:4", .primary, none, .scalar⟩]

/-- The last of three texts has no slot, and the last label is hidden. -/
theorem third_label_hidden :
    GoesToText threeLabels "label" (.array [.string "Home", .number (.int 2), .string "Search"])
        ⟨0, .substring⟩ ∧
      List.Forall₂ HasText [.string "Home", .number (.int 2), .string "Search"]
        ["Home", "2", "Search"] ∧
      ∃ assignment,
        (resolveProperty (some threeLabels) "label"
          (.array [.string "Home", .number (.int 2), .string "Search"]) : PropertyOutcome Rat) =
            .text assignment ∧
        assignment.bindings =
          [⟨⟨"Label 1", "90:2"⟩, .single "Home", none⟩, ⟨⟨"Label 2", "90:3"⟩, .single "2", none⟩] ∧
        assignment.hiddenSlots = [⟨"Label 3", "90:4"⟩] := by
  have goes : GoesToText threeLabels "label"
      (.array [.string "Home", .number (.int 2), .string "Search"]) ⟨0, .substring⟩ :=
    ⟨by decide, by decide, by decide, .inr (by decide)⟩
  have read : List.Forall₂ HasText [.string "Home", .number (.int 2), .string "Search"]
      ["Home", "2", "Search"] :=
    .cons (.string _) (.cons (.number (.int 2)) (.cons (.string _) .nil))
  have labels : bindTextsAt? threeLabels.textSlots 0 ["Home", "2", "Search"] =
      some ([⟨⟨"Label 1", "90:2"⟩, .single "Home", none⟩,
        ⟨⟨"Label 2", "90:3"⟩, .single "2", none⟩], [⟨"Label 3", "90:4"⟩]) := by decide +kernel
  obtain ⟨slot, places, assignment, -, -, spread, bound, -⟩ :=
    array_fills_group (α := Rat) goes read
  obtain ⟨filled, hidden⟩ := Prod.mk.inj (Option.some.inj (spread.symm.trans labels))
  exact ⟨goes, read, assignment, bound, filled, hidden⟩

end DesignScene
