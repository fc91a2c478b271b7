/-
This file follows a list of labels from the properties of a component to the slot that takes it.
-/
import DesignScene.Proofs.Property.Conservation
import DesignScene.Proofs.Property.Spreading
import DesignScene.Proofs.Text.Letters

namespace DesignScene

namespace PropertyBag

/-- The bag has a list of labels, and otherwise only keys that direct the layout. -/
structure OnlyLabels (texts : List String) (bag : PropertyBag) : Prop where
  sorted : bag.Sorted
  labels : bag.get? "Label" = some (.array (texts.map .string))
  rest : ∀ entry ∈ bag, entry.1 = "Label" ∨ ∃ key : LayoutKey, key.name = entry.1

namespace OnlyLabels

variable {texts : List String} {bag : PropertyBag}

/-- A bag of labels has nothing under other names. -/
theorem get?_eq_none (only : OnlyLabels texts bag) {name : String} (noLabel : name ≠ "Label")
    (noKey : ∀ key : LayoutKey, key.name ≠ name) : bag.get? name = none := by
  cases found : bag.get? name with
  | none => rfl
  | some value =>
      rcases only.rest _ (Dict.mem_of_get? found) with same | ⟨key, same⟩
      · exact absurd same noLabel
      · exact absurd same (noKey key)

/-- The labels are a list already, so they are not put into one. -/
theorem preprocess_eq (only : OnlyLabels texts bag) (componentType : String) :
    bag.preprocess componentType = bag := by
  have absent : bag.get? "label" = none := only.get?_eq_none (by decide) fun key => by
    cases key <;> decide
  have kept : wrapLabel "Label" bag = bag := by rw [wrapLabel, only.labels]
  rw [preprocess, kept, wrapLabel, absent]
  split <;> rfl

/-- None of the keys has blank characters or speaks of text. -/
theorem sanitize_eq (only : OnlyLabels texts bag) : bag.sanitize = bag := by
  have each : bag.map sanitizeEntry = bag.map id := by
    refine List.map_congr_left fun entry member => ?_
    have clean : sanitizeKey entry.1 = entry.1 ∧
        Text.contains (Text.lower entry.1) "text" = false := by
      rcases only.rest entry member with same | ⟨key, same⟩
      · rw [same]
        decide
      · rw [← same]
        cases key <;> decide
    obtain ⟨sameKey, noText⟩ := clean
    simp [sanitizeEntry, sanitizeValue, sameKey, noText]
  rw [sanitize, each, List.map_id]
  exact Dict.ofList_of_sorted only.sorted

/-- A layout key beside the labels does no harm. -/
theorem insertIfAbsent (only : OnlyLabels texts bag) (key : LayoutKey) (value : Json) :
    OnlyLabels texts (bag.insertIfAbsent key.name value) := by
  rw [PropertyBag.insertIfAbsent]
  split
  · exact only
  · refine ⟨only.sorted.insert _ _, ?_, fun entry member => ?_⟩
    · have different : key.name ≠ "Label" := by cases key <;> decide
      rw [Dict.get?_insert_of_ne different, only.labels]
    · rcases Dict.mem_insert member with rfl | old
      · exact .inr ⟨key, rfl⟩
      · exact only.rest entry old

end OnlyLabels

end PropertyBag

/-- A list of strings is read as its texts. -/
theorem textValue_strings (texts : List String) :
    textValue (.array (texts.map .string)) = some (.multiple texts) :=
  textValue_array <| List.forall₂_map_left_iff.mpr <|
    List.forall₂_same.mpr fun text _ => .string text

namespace ResolvedProperties

variable {α : Type} [Scalar α] {texts : List String} {bag : PropertyBag} {schema : ComponentSchema}
  {slot : TextSlot}

/-- The schema has one slot for texts, a list called label, and no variant is called like it. -/
structure TakesLabels (schema : ComponentSchema) (slot : TextSlot) : Prop where
  textSlots_eq : schema.textSlots = [slot]
  named : Text.normalizeKey slot.name = "label"
  isArray : slot.dataType = .array
  noVariant : schema.canonicalDimension "Label" = none

/-- The texts that the slot takes. -/
def labelsFor (slot : TextSlot) (texts : List String) : TextAssignment where
  property := "Label"
  strategy := .exact
  bindings :=
    [⟨slot.ref, .multiple (texts.take (slot.maxItems.getD texts.length)), slot.maxItems⟩]
  hiddenSlots := []

/-- The labels are bound to the slot that takes them. -/
theorem resolveProperty_labels (takes : TakesLabels schema slot) (texts : List String) :
    (resolveProperty (some schema) "Label" (.array (texts.map .string)) : PropertyOutcome α) =
      .text (labelsFor slot texts) := by
  have wanted : Text.normalizeKey "Label" = "label" := by decide
  have found : findExact TextSlot.name "Label" schema.textSlots = some 0 := by
    simp [findExact, takes.textSlots_eq, takes.named, wanted, List.findIdx?_cons]
  have goes : GoesToText schema "Label" (.array (texts.map .string)) ⟨0, .exact⟩ :=
    ⟨by decide, takes.noVariant, TextSlots.firstMatch_of_findExact found, .inl rfl⟩
  have here : schema.textSlots[0]? = some slot := by
    rw [takes.textSlots_eq]
    rfl
  have noGroup : ¬1 < (slotGroup [slot] slot).length := by
    have atMost := List.length_filter_le
      (fun other => baseSlotName other.name == baseSlotName slot.name) [slot]
    exact Nat.not_lt.mpr atMost
  rw [goes.resolveProperty_eq rfl here, bindText, textValue_strings, takes.textSlots_eq]
  simp only [bindTexts, if_neg noGroup, takes.isArray, beq_self_eq_true, if_true, labelsFor]

/-- A layout key gives neither a text nor a medium. -/
theorem resolveProperty_layoutKey (schema : Option ComponentSchema) (key : LayoutKey)
    (value : Json) :
    (resolveProperty schema key.name value : PropertyOutcome α).text? = none ∧
      (resolveProperty schema key.name value : PropertyOutcome α).media? = none := by
  have named : LayoutKey.ofKey key.name = some key := by cases key <;> decide
  simp only [resolveProperty, named, applyLayoutKey]
  split <;> exact ⟨rfl, rfl⟩

/-- A bag that has nothing but labels gives them to the slot. -/
theorem ofBag_onlyLabels (takes : TakesLabels schema slot)
    (only : PropertyBag.OnlyLabels texts bag) :
    (ofBag (some schema) bag : ResolvedProperties α).textProperties = [labelsFor slot texts] ∧
      (ofBag (some schema) bag : ResolvedProperties α).mediaProperties = [] := by
  have labels := resolveProperty_labels (α := α) takes texts
  have others (entry : String × Json) (member : entry ∈ bag) (noLabel : entry.1 ≠ "Label") :
      (resolveProperty (some schema) entry.1 entry.2 : PropertyOutcome α).text? = none ∧
        (resolveProperty (some schema) entry.1 entry.2 : PropertyOutcome α).media? = none := by
    obtain ⟨key, same⟩ := (only.rest entry member).resolve_left noLabel
    rw [← same]
    exact resolveProperty_layoutKey (some schema) key entry.2
  have noMedia (entry : String × Json) (member : entry ∈ bag) :
      (resolveProperty (some schema) entry.1 entry.2 : PropertyOutcome α).media? = none := by
    by_cases isLabel : entry.1 = "Label"
    · obtain ⟨name, value⟩ := entry
      subst isLabel
      have found := (Dict.get?_eq_some_iff only.sorted).mpr member
      cases only.labels.symm.trans found
      rw [labels]
      rfl
    · exact (others entry member isLabel).2
  have taken {β : Type} (part : PropertyOutcome α → Option β) :
      (outcomesOf (some schema) bag.sanitize).filterMap part =
        bag.filterMap fun entry => if entry.1 != "variants" && !entry.2.isNull then
          part (resolveProperty (some schema) entry.1 entry.2) else none := by
    rw [only.sanitize_eq, outcomesOf, looseProperties, List.filterMap_map, List.filterMap_filter]
    rfl
  constructor
  · refine (taken PropertyOutcome.text?).trans ?_
    refine Dict.filterMap_eq_singleton only.sorted only.labels ?_ fun entry member noLabel => ?_
    · simp only [labels]
      rfl
    · simp [(others entry member noLabel).1]
  · refine (taken PropertyOutcome.media?).trans (List.filterMap_eq_nil_iff.mpr ?_)
    intro entry member
    simp [noMedia entry member]

end ResolvedProperties

end DesignScene
