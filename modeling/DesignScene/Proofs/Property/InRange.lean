/-
This file says that properties are resolved without reading a slot or a text beyond the end of its list.
The resolution is written out once more with every element read by its place, and it always has a result.
-/
import DesignScene.Proofs.Matching.MediaSlots
import DesignScene.Proofs.Property.Spreading

namespace DesignScene

section Reading

variable {α : Type}

/-- What the text slot at a place makes of a value. There is no result if a place is out of range. -/
def bindTextAt? (slots : List TextSlot) (place : SlotMatch) (key : String) (value : Json) :
    Option (PropertyOutcome α) :=
  match textValue value with
  | none => some (.failed ⟨key, "Text properties must be strings, numbers or arrays of strings"⟩)
  | some (.single text) => do
      let slot ← slots[place.index]?
      some (.text ⟨key, place.strategy, [⟨slot.ref, .single text, none⟩], []⟩)
  | some (.multiple texts) => do
      let (bindings, hidden) ← bindTextsAt? slots place.index texts
      some (.text ⟨key, place.strategy, bindings, hidden⟩)

/-- The media slot is read before the value is looked at. -/
def bindMediaAt? (slots : List MediaSlot) (place : SlotMatch) (key : String) (value : Json) :
    Option (PropertyOutcome α) := do
  let slot ← slots[place.index]?
  some (bindMedia slot place.strategy key value)

/-- A place that a strategy answers with is read as it is. -/
def resolveContentAt? (schema : ComponentSchema) (key : String) (value : Json) :
    Option (PropertyOutcome α) :=
  match findExact TextSlot.name key schema.textSlots with
  | some index => bindTextAt? schema.textSlots ⟨index, .exact⟩ key value
  | none =>
      match findExact MediaSlot.name key schema.mediaSlots with
      | some index => bindMediaAt? schema.mediaSlots ⟨index, .exact⟩ key value
      | none =>
          if speaksOfMedia key value then
            match MediaSlots.firstMatch key schema.mediaSlots with
            | some place => bindMediaAt? schema.mediaSlots place key value
            | none => some (.unmatched (unmatchedMedia schema key))
          else
            match TextSlots.firstMatch key schema.textSlots with
            | some place => bindTextAt? schema.textSlots place key value
            | none => some (.unmatched (unmatchedText schema key))

def resolvePropertyAt? [Scalar α] (schema : Option ComponentSchema) (key : String) (value : Json) :
    Option (PropertyOutcome α) :=
  match LayoutKey.ofKey key with
  | some layoutKey => some (applyLayoutKey layoutKey key value)
  | none =>
      match looseDimension schema key with
      | some dimension => some (.candidate ⟨dimension, value⟩)
      | none =>
          match schema with
          | none => some (.kept key value)
          | some schema =>
              if value.isObject then some (.kept key value) else resolveContentAt? schema key value

/-- The resolution stops without a result at the first property that reads out of range. -/
def ResolvedProperties.ofBagAt? [Scalar α] (schema : Option ComponentSchema) (bag : PropertyBag) :
    Option (ResolvedProperties α) := do
  let bag := bag.sanitize
  let outcomes ← (looseProperties bag).mapM fun entry => resolvePropertyAt? schema entry.1 entry.2
  let candidates := groupedCandidates bag ++ outcomes.filterMap PropertyOutcome.candidate?
  some (ofOutcomes (variantsError bag) outcomes (candidates.map (·.resolve schema)))

end Reading

section Slots

variable {α : Type} {key : String} {value : Json} {place : SlotMatch}

/-- Where a slot stands, the checked reading binds its text. -/
theorem bindTextAt?_eq {slots : List TextSlot} {slot : TextSlot}
    (here : slots[place.index]? = some slot) :
    (bindTextAt? slots place key value : Option (PropertyOutcome α)) =
      some (bindText slots slot place.strategy key value) := by
  rw [bindTextAt?, bindText]
  cases textValue value with
  | none => rfl
  | some text =>
      cases text with
      | single text => simp only [here, Option.bind_eq_bind, Option.bind_some]
      | multiple texts =>
          simp only [bindTextsAt?_eq here texts, Option.bind_eq_bind, Option.bind_some]

/-- Where a slot stands, the checked reading binds its media. -/
theorem bindMediaAt?_eq {slots : List MediaSlot} {slot : MediaSlot}
    (here : slots[place.index]? = some slot) :
    (bindMediaAt? slots place key value : Option (PropertyOutcome α)) =
      some (bindMedia slot place.strategy key value) := by
  rw [bindMediaAt?, here]
  rfl

end Slots

section Resolving

variable {α : Type} (schema : ComponentSchema) (key : String) (value : Json)

/-- A slot is read at every place that a strategy answers with. -/
theorem slotAt?_of_getElem? {Slot : Type} {slots : List Slot} {slot : Slot} {place : SlotMatch}
    (here : slots[place.index]? = some slot) :
    slotAt? slots (some place) = some (slot, place.strategy) := by
  rw [slotAt?, Option.bind_some, here, Option.map_some]

/-- Content is resolved without a place out of range. -/
theorem resolveContentAt?_eq :
    (resolveContentAt? schema key value : Option (PropertyOutcome α)) =
      some (resolveContent schema key value) := by
  rw [resolveContentAt?, resolveContent, exactSlot?, exactSlot?]
  cases textNamed : findExact TextSlot.name key schema.textSlots with
  | some index =>
      have here := List.getElem?_eq_getElem (lt_length_of_findIdx? textNamed)
      simp only [Option.bind_some, here]
      exact bindTextAt?_eq here
  | none =>
      cases mediaNamed : findExact MediaSlot.name key schema.mediaSlots with
      | some index =>
          have here := List.getElem?_eq_getElem (lt_length_of_findIdx? mediaNamed)
          simp only [Option.bind_none, Option.bind_some, here]
          exact bindMediaAt?_eq here
      | none =>
          simp only [Option.bind_none]
          split_ifs with media
          · cases matched : MediaSlots.firstMatch key schema.mediaSlots with
            | none => rfl
            | some place =>
                have here := List.getElem?_eq_getElem (MediaSlots.lt_length_of_firstMatch matched)
                rw [slotAt?_of_getElem? here]
                exact bindMediaAt?_eq here
          · cases matched : TextSlots.firstMatch key schema.textSlots with
            | none => rfl
            | some place =>
                have here := List.getElem?_eq_getElem (TextSlots.lt_length_of_firstMatch matched)
                rw [slotAt?_of_getElem? here]
                exact bindTextAt?_eq here

/-- So is every property. -/
theorem resolvePropertyAt?_eq [Scalar α] (schema : Option ComponentSchema) :
    (resolvePropertyAt? schema key value : Option (PropertyOutcome α)) =
      some (resolveProperty schema key value) := by
  unfold resolvePropertyAt? resolveProperty
  cases LayoutKey.ofKey key with
  | some layoutKey => rfl
  | none =>
      cases looseDimension schema key with
      | some dimension => rfl
      | none =>
          cases schema with
          | none => rfl
          | some schema =>
              dsimp only
              split_ifs
              · rfl
              · exact resolveContentAt?_eq schema key value

/-- So is every bag. -/
theorem ResolvedProperties.ofBagAt?_eq [Scalar α] (schema : Option ComponentSchema)
    (bag : PropertyBag) :
    (ofBagAt? schema bag : Option (ResolvedProperties α)) = some (ofBag schema bag) := by
  have inRange : (fun entry : String × Json =>
      (resolvePropertyAt? schema entry.1 entry.2 : Option (PropertyOutcome α))) =
        fun entry => pure (resolveProperty schema entry.1 entry.2) :=
    funext fun entry => resolvePropertyAt?_eq entry.1 entry.2 schema
  rw [ofBagAt?, inRange]
  simp only [List.mapM_pure]
  rfl

end Resolving

/-- Every place that a chain of strategies answers with is that of a slot, so that all slots can be read. -/
theorem ResolvedProperties.reads_in_range {α : Type} [Scalar α] :
    (∀ key slots, ∀ found ∈ TextSlots.firstMatch key slots, found.index < slots.length) ∧
      (∀ key slots, ∀ found ∈ MediaSlots.firstMatch key slots, found.index < slots.length) ∧
      ∀ schema bag, (ofBagAt? schema bag : Option (ResolvedProperties α)) = some (ofBag schema bag) :=
  ⟨fun _ _ _ matched => TextSlots.lt_length_of_firstMatch matched,
    fun _ _ _ matched => MediaSlots.lt_length_of_firstMatch matched, ofBagAt?_eq⟩

/-- A component without slots. -/
def bareSchema : ComponentSchema where
  componentId := "60:1"

/-- The last of three slots is found by its place, and a component without slots has none to be read. -/
theorem last_label_in_range :
    TextSlots.firstMatch "tertiaryLine" threeLabels.textSlots = some ⟨2, .positional⟩ ∧
      2 < threeLabels.textSlots.length ∧
      (ResolvedProperties.ofBagAt? (some threeLabels)
          [("tertiaryLine", .array [.string "Home", .string "Search"])] :
        Option (ResolvedProperties Rat)) =
          some (ResolvedProperties.ofBag (some threeLabels)
            [("tertiaryLine", .array [.string "Home", .string "Search"])]) ∧
      (ResolvedProperties.ofBagAt? (some bareSchema) [("icon", .string "star")] :
        Option (ResolvedProperties Rat)) =
          some (ResolvedProperties.ofBag (some bareSchema) [("icon", .string "star")]) := by
  have matched : TextSlots.firstMatch "tertiaryLine" threeLabels.textSlots =
      some ⟨2, .positional⟩ := by decide +kernel
  obtain ⟨text, -, read⟩ := ResolvedProperties.reads_in_range (α := Rat)
  exact ⟨matched, text _ _ _ matched, read _ _, read _ _⟩

end DesignScene
