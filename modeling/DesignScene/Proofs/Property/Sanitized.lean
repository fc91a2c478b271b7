/-
This file says what is left of properties when they are sanitized. A second time changes nothing, and
a property is lost exactly if the key of a later one becomes the same.
-/
import DesignScene.Proofs.Property.Directives
import DesignScene.Proofs.Text.Words

namespace DesignScene

namespace PropertyBag

section Keys

variable {key : String}

/-- A clean key has the words of the key with hyphens between them. -/
theorem toList_sanitizeKey (key : String) :
    (sanitizeKey key).toList =
      ['-'].intercalate (Text.wordsBetween Text.isBlank key.toList) := by
  have separate : ("-" : String).toList = ['-'] := rfl
  rw [sanitizeKey, Text.joinWith, String.toList_intercalate, separate, Text.words, List.map_map]
  congr 1
  exact List.map_id'' (fun _ => String.toList_ofList) _

/-- Words of a key and hyphens are all that is left of it. -/
theorem isBlank_of_mem_sanitizeKey {character : Char}
    (member : character ∈ (sanitizeKey key).toList) : Text.isBlank character = false := by
  rw [toList_sanitizeKey] at member
  have ofWord {word : List Char} (listed : word ∈ Text.wordsBetween Text.isBlank key.toList)
      (inside : character ∈ word) : Text.isBlank character = false :=
    (Text.of_mem_wordsBetween listed).2 character inside
  cases words : Text.wordsBetween Text.isBlank key.toList with
  | nil =>
      rw [words] at member
      cases member
  | cons first more =>
      rw [words, Text.intercalate_cons_eq_append_flatMap] at member
      rw [words] at ofWord
      rcases List.mem_append.mp member with inFirst | later
      · exact ofWord List.mem_cons_self inFirst
      · obtain ⟨word, listed, inside⟩ := List.mem_flatMap.mp later
        rcases List.mem_cons.mp inside with rfl | inWord
        · decide
        · exact ofWord (List.mem_cons_of_mem _ listed) inWord

/-- A key stays as it is exactly if it has no blank characters. -/
theorem sanitizeKey_eq_self_iff :
    sanitizeKey key = key ↔ ∀ character ∈ key.toList, Text.isBlank character = false := by
  constructor
  · intro same character member
    rw [← same] at member
    exact isBlank_of_mem_sanitizeKey member
  · intro free
    apply String.toList_injective
    rw [toList_sanitizeKey]
    by_cases empty : key.toList = []
    · rw [empty]
      rfl
    · rw [Text.wordsBetween_of_free empty free, List.intercalate_singleton]

/-- A key keeps its words, since a hyphen separates words like blank characters do. -/
theorem normalizeKey_sanitizeKey (key : String) :
    Text.normalizeKey (sanitizeKey key) = Text.normalizeKey key := by
  have hyphen : Text.isSeparator '-' = true := by decide
  have blank (character : Char) (isBlank : Text.isBlank character = true) :
      Text.isSeparator character = true := by simp [Text.isSeparator, isBlank]
  apply Text.normalizeKey_congr
  rw [toList_sanitizeKey, Text.wordsBetween_intercalate hyphen, Text.flatMap_wordsBetween blank]

end Keys

/-- The key has no blanks, and a key that speaks of text has neither a number nor a truth value. -/
structure IsClean (property : String × Json) : Prop where
  noBlank : ∀ character ∈ property.1.toList, Text.isBlank character = false
  noScalar : Text.contains (Text.lower property.1) "text" = true →
    property.2.asNumber? = none ∧ property.2.asBool? = none

section Entries

variable {property : String × Json}

/-- A value stays unless its key speaks of text and it is a number or a truth value. -/
theorem sanitizeValue_eq_self_iff {key : String} {value : Json} :
    sanitizeValue key value = value ↔
      (Text.contains (Text.lower key) "text" = true →
        value.asNumber? = none ∧ value.asBool? = none) := by
  unfold sanitizeValue
  split_ifs with speaks
  · cases value <;> simp [speaks, Json.asNumber?, Json.asBool?]
  · simp [speaks]

/-- Exactly the clean properties stay as they are. -/
theorem sanitizeEntry_eq_self_iff : sanitizeEntry property = property ↔ IsClean property := by
  obtain ⟨key, value⟩ := property
  rw [sanitizeEntry, Prod.mk.injEq]
  constructor
  · rintro ⟨sameKey, sameValue⟩
    rw [sameKey] at sameValue
    exact ⟨sanitizeKey_eq_self_iff.mp sameKey, sanitizeValue_eq_self_iff.mp sameValue⟩
  · intro clean
    have sameKey : sanitizeKey key = key := sanitizeKey_eq_self_iff.mpr clean.noBlank
    refine ⟨sameKey, ?_⟩
    rw [sameKey]
    exact sanitizeValue_eq_self_iff.mpr clean.noScalar

/-- A sanitized property is clean. -/
theorem isClean_sanitizeEntry (property : String × Json) : IsClean (sanitizeEntry property) := by
  obtain ⟨key, value⟩ := property
  refine ⟨fun _ => isBlank_of_mem_sanitizeKey, fun speaks => ?_⟩
  have texts : Text.contains (Text.lower (sanitizeKey key)) "text" = true := speaks
  simp only [sanitizeEntry, sanitizeValue, if_pos texts]
  cases value <;> exact ⟨rfl, rfl⟩

end Entries

section Bags

variable {bag : PropertyBag}

theorem isClean_of_mem_sanitize {property : String × Json} (member : property ∈ bag.sanitize) :
    IsClean property := by
  obtain ⟨authored, -, rfl⟩ := List.mem_map.mp (Dict.mem_of_mem_ofList member)
  exact isClean_sanitizeEntry authored

/-- Sanitizing leaves a bag as it is exactly if the bag is a map of clean properties. -/
theorem sanitize_eq_self_iff :
    bag.sanitize = bag ↔ Dict.Sorted bag ∧ ∀ property ∈ bag, IsClean property := by
  constructor
  · intro same
    rw [← same]
    exact ⟨sorted_sanitize bag, fun _ => isClean_of_mem_sanitize⟩
  · rintro ⟨sorted, clean⟩
    have kept : bag.map sanitizeEntry = bag.map id := List.map_congr_left fun property member =>
      sanitizeEntry_eq_self_iff.mpr (clean property member)
    rw [sanitize, kept, List.map_id, Dict.ofList_of_sorted sorted]

/-- Sanitizing a second time changes nothing. -/
theorem sanitize_sanitize (bag : PropertyBag) : bag.sanitize.sanitize = bag.sanitize :=
  sanitize_eq_self_iff.mpr ⟨sorted_sanitize bag, fun _ => isClean_of_mem_sanitize⟩

end Bags

section Losses

variable {front back : PropertyBag} {property : String × Json}

/-- One property is left for each of the different clean keys. -/
theorem length_sanitize (bag : PropertyBag) :
    bag.sanitize.length = (bag.keys.map sanitizeKey).dedup.length := by
  rw [sanitize, Dict.length_ofList, Dict.keys, List.map_map, List.map_map]
  rfl

/-- A property leaves no trace if the key of a later one becomes the same. -/
theorem sanitize_of_replaced
    (replaced : ∃ later ∈ back, sanitizeKey later.1 = sanitizeKey property.1) :
    sanitize (front ++ property :: back) = sanitize (front ++ back) := by
  obtain ⟨later, member, sameKey⟩ := replaced
  have listed : ∃ other ∈ back.map sanitizeEntry, other.1 = (sanitizeEntry property).1 :=
    ⟨sanitizeEntry later, List.mem_map_of_mem member, sameKey⟩
  rw [sanitize, List.map_append, List.map_cons, Dict.ofList_append_cons_of_mem listed,
    ← List.map_append, sanitize]

/-- Otherwise it is found under its clean key. -/
theorem get?_sanitize_of_last
    (last : ∀ later ∈ back, sanitizeKey later.1 ≠ sanitizeKey property.1) :
    (sanitize (front ++ property :: back)).get? (sanitizeKey property.1) =
      some (sanitizeValue (sanitizeKey property.1) property.2) := by
  have different : ∀ other ∈ back.map sanitizeEntry, other.1 ≠ (sanitizeEntry property).1 := by
    intro other listed
    obtain ⟨later, member, rfl⟩ := List.mem_map.mp listed
    exact last later member
  rw [sanitize, List.map_append, List.map_cons, Dict.ofList_append_cons_of_ne different,
    sanitizeEntry, Dict.get?_insert_self]

/-- All properties are left exactly if no two keys become the same one, and the last of such keys wins. -/
theorem all_properties_left_iff (bag : PropertyBag) :
    (bag.sanitize.length = bag.length ↔ (bag.keys.map sanitizeKey).Nodup) ∧
      ∀ front property back, bag = front ++ property :: back →
        ((∀ later ∈ back, sanitizeKey later.1 ≠ sanitizeKey property.1) →
          bag.sanitize.get? (sanitizeKey property.1) =
            some (sanitizeValue (sanitizeKey property.1) property.2)) ∧
        ((∃ later ∈ back, sanitizeKey later.1 = sanitizeKey property.1) →
          bag.sanitize = sanitize (front ++ back)) := by
  constructor
  · have authored : bag.length = (bag.keys.map sanitizeKey).length := by
      rw [Dict.keys, List.length_map, List.length_map]
    rw [length_sanitize, authored, (List.dedup_sublist _).length_eq, List.dedup_eq_self]
  · rintro front property back rfl
    exact ⟨get?_sanitize_of_last, sanitize_of_replaced⟩

/-- Two spellings of one key, with a blank and with a hyphen, leave one property. -/
theorem blank_key_lost_to_hyphen :
    ¬∀ bag : PropertyBag, Dict.Sorted bag → bag.sanitize.length = bag.length := by
  intro every
  have sorted : ["Leading icon", "Leading-icon"].Pairwise (· < ·) := by decide
  have kept := every [("Leading icon", .string "star"), ("Leading-icon", .string "search")] sorted
  revert kept
  decide

end Losses

/-- The two keys are equal to the same names of slots and variant dimensions, up to case and separators. -/
structure NamesAlike (schema : ComponentSchema) (first second : String) : Prop where
  textSlot : findExact TextSlot.name first schema.textSlots =
    findExact TextSlot.name second schema.textSlots
  mediaSlot : findExact MediaSlot.name first schema.mediaSlots =
    findExact MediaSlot.name second schema.mediaSlots
  dimensions : ∀ dimension ∈ schema.variantDimensions.keys,
    (Text.normalizeKey dimension = Text.normalizeKey first ↔
      Text.normalizeKey dimension = Text.normalizeKey second)

/-- A key and its clean form are the same for all names that are normalized. -/
theorem namesAlike_sanitizeKey (schema : ComponentSchema) (key : String) :
    NamesAlike schema (sanitizeKey key) key := by
  constructor <;> simp only [findExact, normalizeKey_sanitizeKey, implies_true]

end PropertyBag

open PropertyBag

/-- Sanitizing again changes nothing, and neither does it change what is resolved from a bag. -/
theorem ResolvedProperties.sanitized_once_for_all {α : Type} [Scalar α] (bag : PropertyBag) :
    (∀ property ∈ bag.sanitize, IsClean property) ∧
      (bag.sanitize = bag ↔ Dict.Sorted bag ∧ ∀ property ∈ bag, IsClean property) ∧
      bag.sanitize.sanitize = bag.sanitize ∧
      (∀ schema : Option ComponentSchema,
        (ofBag schema bag.sanitize : ResolvedProperties α) = ofBag schema bag) ∧
      ∀ key : String, Text.normalizeKey (sanitizeKey key) = Text.normalizeKey key ∧
        ∀ schema : ComponentSchema, NamesAlike schema (sanitizeKey key) key := by
  refine ⟨fun _ => isClean_of_mem_sanitize, sanitize_eq_self_iff, sanitize_sanitize bag, ?_, ?_⟩
  · intro schema
    rw [ofBag, ofBag, sanitize_sanitize]
  · exact fun key =>
      ⟨normalizeKey_sanitizeKey key, fun schema => namesAlike_sanitizeKey schema key⟩

end DesignScene
