/-
This file says what becomes of every property that is resolved, and that nothing else is left.
-/
import Mathlib.Data.List.Forall2
import DesignScene.Proofs.Property.Offers

namespace DesignScene

namespace DirectiveSetting

variable {α : Type}

/-- The layout key whose field is written. -/
def target : DirectiveSetting α → LayoutKey
  | horizontalSizing _ => .horizontalSizing
  | layoutAlign _ => .layoutAlign
  | layoutGrow _ => .layoutGrow
  | minWidth _ => .minWidth
  | maxWidth _ => .maxWidth
  | minHeight _ => .minHeight
  | maxHeight _ => .maxHeight

end DirectiveSetting

/-- What is read for a layout key is a setting of its field. -/
theorem target_of_readSetting {α : Type} [Scalar α] {layoutKey : LayoutKey} {value : Json}
    {setting : DirectiveSetting α} (read : readSetting layoutKey value = some setting) :
    setting.target = layoutKey := by
  cases layoutKey <;>
    obtain ⟨_, -, rfl⟩ := Option.map_eq_some_iff.mp read <;>
    rfl

namespace PropertyOutcome

variable {α : Type}

/-- The outcome is one thing that a property with this key and value can leave. -/
inductive Contributes [Scalar α] (schema : Option ComponentSchema) (key : String) (value : Json) :
    PropertyOutcome α → Prop
  | setting (setting : DirectiveSetting α) (own : LayoutKey.ofKey key = some setting.target)
      (read : readSetting setting.target value = some setting) :
      Contributes schema key value (.setting setting)
  | failed (message : String) : Contributes schema key value (.failed ⟨key, message⟩)
  | kept (unread : ∀ given ∈ schema, value.isObject = true) :
      Contributes schema key value (.kept key value)
  | text (assignment : TextAssignment) (scanned : schema.isSome = true)
      (own : assignment.property = key) : Contributes schema key value (.text assignment)
  | media (assignment : MediaAssignment) (scanned : schema.isSome = true)
      (own : assignment.property = key) : Contributes schema key value (.media assignment)
  | unmatched (warning : PropertyWarning) (scanned : schema.isSome = true)
      (own : warning.property = key)
      (unmatched : warning.kind = .textSlotUnmatched ∨ warning.kind = .mediaSlotUnmatched) :
      Contributes schema key value (.unmatched warning)
  | candidate (dimension : String) (free : LayoutKey.ofKey key = none)
      (named : looseDimension schema key = some dimension) :
      Contributes schema key value (.candidate ⟨dimension, value⟩)

variable [Scalar α]

section Content

variable (given : ComponentSchema) (key : String) (value : Json)

/-- A value for a text slot leaves an assignment or an error. -/
theorem contributes_bindText (slots : List TextSlot) (slot : TextSlot) (strategy : MatchStrategy) :
    Contributes (some given) key value (bindText (α := α) slots slot strategy key value) := by
  rw [bindText]
  split
  · exact .failed _
  · exact .text _ rfl rfl
  · exact .text _ rfl rfl

/-- A value for a media slot leaves an assignment or an error. -/
theorem contributes_bindMedia (slot : MediaSlot) (strategy : MatchStrategy) :
    Contributes (some given) key value (bindMedia (α := α) slot strategy key value) := by
  rw [bindMedia]
  split
  · exact .failed _
  · exact .media _ rfl rfl

/-- Content leaves an assignment, an error or a warning. -/
theorem contributes_resolveContent :
    Contributes (some given) key value (resolveContent (α := α) given key value) := by
  rw [resolveContent]
  split
  · exact contributes_bindText ..
  · split
    · exact contributes_bindMedia ..
    · split
      · split
        · exact contributes_bindMedia ..
        · exact .unmatched _ rfl rfl (.inr rfl)
      · split
        · exact contributes_bindText ..
        · exact .unmatched _ rfl rfl (.inl rfl)

end Content

section Property

variable (schema : Option ComponentSchema) (key : String) (value : Json)

/-- A layout key leaves a setting or an error. -/
theorem contributes_applyLayoutKey {layoutKey : LayoutKey}
    (named : LayoutKey.ofKey key = some layoutKey) :
    Contributes schema key value (applyLayoutKey (α := α) layoutKey key value) := by
  rw [applyLayoutKey]
  split
  · next setting read =>
      obtain rfl := target_of_readSetting read
      exact .setting setting named read
  · exact .failed _

/-- Every property leaves one thing. -/
theorem contributes_resolveProperty :
    Contributes schema key value (resolveProperty (α := α) schema key value) := by
  unfold resolveProperty
  split
  · next named => exact contributes_applyLayoutKey schema key value named
  · next free =>
      split
      · next dimension named => exact .candidate dimension free named
      · split
        · exact .kept nofun
        · split_ifs with isObject
          · exact .kept fun _ _ => isObject
          · exact contributes_resolveContent ..

end Property

namespace Contributes

variable {schema : Option ComponentSchema} {key : String} {value : Json}
  {outcome : PropertyOutcome α}

/-- An assignment bears the key of its property. -/
theorem property_of_text? (contributes : Contributes schema key value outcome)
    {assignment : TextAssignment} (text : outcome.text? = some assignment) :
    assignment.property = key := by
  cases contributes with
  | text given _ own =>
      cases text
      exact own
  | _ => cases text

end Contributes

end PropertyOutcome

namespace VariantOutcome

end VariantOutcome

/-- The keys of the properties that are resolved one by one are strictly increasing. -/
theorem pairwise_looseProperties (bag : PropertyBag) :
    (looseProperties bag.sanitize).Pairwise fun first second => first.1 < second.1 := by
  have sorted : Dict.Sorted bag.sanitize := Dict.sorted_ofList _
  exact (List.pairwise_map.mp sorted).filter _

namespace ResolvedProperties

open PropertyBag

variable {α : Type}

variable [Scalar α]

/-- What is resolved of each property, in the order of the keys. -/
def outcomesOf (schema : Option ComponentSchema) (bag : PropertyBag) : List (PropertyOutcome α) :=
  (looseProperties bag).map fun property => resolveProperty schema property.1 property.2

/-- Whatever the schema is, a property gives a setting if its key directs the layout with a usable value. -/
theorem setting?_resolveProperty (schema : Option ComponentSchema) (key : String) (value : Json) :
    (resolveProperty (α := α) schema key value).setting? =
      (LayoutKey.ofKey key).bind (readSetting · value) := by
  cases named : LayoutKey.ofKey key with
  | some layoutKey =>
      simp only [resolveProperty, named, applyLayoutKey, Option.bind_some]
      cases (readSetting layoutKey value : Option (DirectiveSetting α)) <;> rfl
  | none =>
      have contributes := PropertyOutcome.contributes_resolveProperty (α := α) schema key value
      generalize resolveProperty (α := α) schema key value = outcome at contributes ⊢
      cases contributes with
      | setting setting own =>
          rw [named] at own
          cases own
      | _ => rfl

/-- The layout that is resolved does not depend on the schema. -/
theorem layoutProperties_ofBag (schema other : Option ComponentSchema) (bag : PropertyBag) :
    (ofBag schema bag : ResolvedProperties α).layoutProperties =
      (ofBag other bag).layoutProperties := by
  have same : (outcomesOf (α := α) schema bag.sanitize).filterMap PropertyOutcome.setting? =
      (outcomesOf other bag.sanitize).filterMap PropertyOutcome.setting? := by
    rw [outcomesOf, outcomesOf, List.filterMap_map, List.filterMap_map]
    refine List.filterMap_congr fun property _ => ?_
    rw [Function.comp_apply, Function.comp_apply, setting?_resolveProperty,
      setting?_resolveProperty]
  exact congrArg (List.foldl LayoutDirective.set {}) same

/-- What is taken from the outcomes stands in the order of the keys that it comes from. -/
theorem pairwise_filterMap_outcomesOf (schema : Option ComponentSchema) (bag : PropertyBag)
    {β : Type} {part : PropertyOutcome α → Option β} {keyOf : β → String}
    (own : ∀ {key value outcome result}, PropertyOutcome.Contributes schema key value outcome →
      part outcome = some result → keyOf result = key) :
    ((outcomesOf schema bag.sanitize).filterMap part).Pairwise fun first second =>
      keyOf first < keyOf second := by
  rw [outcomesOf, List.filterMap_map]
  refine (pairwise_looseProperties bag).filterMap _ ?_
  intro first second before earlier earlierTaken later laterTaken
  rw [own (PropertyOutcome.contributes_resolveProperty ..) earlierTaken,
    own (PropertyOutcome.contributes_resolveProperty ..) laterTaken]
  exact before

end ResolvedProperties

end DesignScene
