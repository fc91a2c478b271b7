/-
This file splits the properties of a component into variants, texts, media and layout.
-/
import DesignScene.Component.Registry
import DesignScene.Matching.MediaSlots
import DesignScene.Matching.TextSlots
import DesignScene.Property.Bag
import DesignScene.Property.Variant

namespace DesignScene

/-- What becomes of one property. -/
inductive PropertyOutcome (α : Type) where
  | setting (value : DirectiveSetting α)
  | failed (error : PropertyError)
  | kept (key : String) (value : Json)
  | text (assignment : TextAssignment)
  | media (assignment : MediaAssignment)
  | unmatched (warning : PropertyWarning)
  | candidate (variant : VariantCandidate)

def TextSlot.ref (slot : TextSlot) : SlotRef := ⟨slot.name, slot.nodeId⟩

def MediaSlot.ref (slot : MediaSlot) : SlotRef := ⟨slot.name, slot.nodeId⟩

/-- A normalized slot name without the index at its end. -/
def baseSlotName (name : String) : String :=
  String.ofList
    (Text.trimEndWhile (fun character => character.isDigit || character == '-')
      (Text.normalizeKey name).toList)

/-- The slots whose names differ from the name of this one by an index only. -/
def slotGroup (slots : List TextSlot) (slot : TextSlot) : List TextSlot :=
  slots.filter fun other => baseSlotName other.name == baseSlotName slot.name

def textOfElement : Json → Option String
  | .string text => some text
  | .number number => some number.toText
  | _ => none

def textValue : Json → Option TextValue
  | .string text => some (.single text)
  | .number number => some (.single number.toText)
  | .bool value => some (.single (if value then "true" else "false"))
  | .array elements => (elements.mapM textOfElement).map .multiple
  | _ => none

/-- The first texts go to the slots of the group, and the slots that are left are hidden. -/
def spreadTexts (slot : TextSlot) (group : List TextSlot) (texts : List String) :
    List SlotBinding × List SlotRef :=
  let limit := min (slot.maxItems.getD group.length) texts.length
  (List.zipWith (fun (slot : TextSlot) text => ⟨slot.ref, .single text, none⟩)
      (group.take limit) texts,
    (group.drop limit).map TextSlot.ref)

/-- One slot takes several texts as a list or, if it is a scalar one, joined together. -/
def bindTexts (slots : List TextSlot) (slot : TextSlot) (texts : List String) :
    List SlotBinding × List SlotRef :=
  let group := slotGroup slots slot
  if 1 < group.length then spreadTexts slot group texts
  else if slot.dataType == .array then
    ([⟨slot.ref, .multiple (texts.take (slot.maxItems.getD texts.length)), slot.maxItems⟩], [])
  else ([⟨slot.ref, .single (Text.joinWith ", " texts), none⟩], [])

def bindText {α : Type} (slots : List TextSlot) (slot : TextSlot) (strategy : MatchStrategy)
    (key : String) (value : Json) : PropertyOutcome α :=
  match textValue value with
  | none => .failed ⟨key, "Text properties must be strings, numbers or arrays of strings"⟩
  | some (.single text) => .text ⟨key, strategy, [⟨slot.ref, .single text, none⟩], []⟩
  | some (.multiple texts) =>
      let (bindings, hidden) := bindTexts slots slot texts
      .text ⟨key, strategy, bindings, hidden⟩

def mediaValue : Json → Option MediaValue
  | .string target => some (.reference target)
  | .bool isVisible => some (.visible isVisible)
  | _ => none

def bindMedia {α : Type} (slot : MediaSlot) (strategy : MatchStrategy) (key : String)
    (value : Json) : PropertyOutcome α :=
  match mediaValue value with
  | none => .failed ⟨key, "Media properties must be a reference string or a boolean"⟩
  | some media => .media ⟨key, strategy, slot.ref, slot.kind, media⟩

/-- The setting for a layout key, if the value can be used for it. -/
def readSetting {α : Type} [Scalar α] (layoutKey : LayoutKey) (value : Json) :
    Option (DirectiveSetting α) :=
  match layoutKey with
  | .horizontalSizing => (value.asString?.bind HorizontalSizing.ofText).map .horizontalSizing
  | .layoutAlign => (value.asString?.bind LayoutAlign.ofText).map .layoutAlign
  | .layoutGrow => (readSize value).map .layoutGrow
  | .minWidth => (readSize value).map .minWidth
  | .maxWidth => (readSize value).map .maxWidth
  | .minHeight => (readSize value).map .minHeight
  | .maxHeight => (readSize value).map .maxHeight

def applyLayoutKey {α : Type} [Scalar α] (layoutKey : LayoutKey) (key : String) (value : Json) :
    PropertyOutcome α :=
  match readSetting layoutKey value with
  | some setting => .setting setting
  | none => .failed ⟨key, "Invalid value for " ++ layoutKey.name ++ ": " ++ value.toText⟩

/-- Words in a key that speak of media. -/
def mediaWords : List String :=
  ["icon", "image", "avatar", "photo", "picture", "logo", "badge", "media", "thumbnail"]

def speaksOfMedia (key : String) (value : Json) : Bool :=
  value.isBool || Text.containsAny (Text.lower key) mediaWords

def unmatchedMedia (schema : ComponentSchema) (key : String) : PropertyWarning where
  kind := .mediaSlotUnmatched
  property := key
  message := "No media slot matches property '" ++ key ++ "'"
  severity := .medium
  suggestions := schema.mediaSlots.map (·.name)

def unmatchedText (schema : ComponentSchema) (key : String) : PropertyWarning where
  kind := .textSlotUnmatched
  property := key
  message := "No text slot matches property '" ++ key ++ "'"
  severity := .medium
  suggestions := schema.textSlots.map (·.name)

/-- The slot at the place of a match. -/
def slotAt? {Slot : Type} (slots : List Slot) (found : Option SlotMatch) :
    Option (Slot × MatchStrategy) :=
  found.bind fun place => (slots[place.index]?).map fun slot => (slot, place.strategy)

def exactSlot? {Slot : Type} (nameOf : Slot → String) (key : String) (slots : List Slot) :
    Option Slot :=
  (findExact nameOf key slots).bind fun index => slots[index]?

/-- A slot with the very name of the key is taken before media words and other strategies count. -/
def resolveContent {α : Type} (schema : ComponentSchema) (key : String) (value : Json) :
    PropertyOutcome α :=
  match exactSlot? TextSlot.name key schema.textSlots with
  | some slot => bindText schema.textSlots slot .exact key value
  | none =>
      match exactSlot? MediaSlot.name key schema.mediaSlots with
      | some slot => bindMedia slot .exact key value
      | none =>
          if speaksOfMedia key value then
            match slotAt? schema.mediaSlots (MediaSlots.firstMatch key schema.mediaSlots) with
            | some (slot, strategy) => bindMedia slot strategy key value
            | none => .unmatched (unmatchedMedia schema key)
          else
            match slotAt? schema.textSlots (TextSlots.firstMatch key schema.textSlots) with
            | some (slot, strategy) => bindText schema.textSlots slot strategy key value
            | none => .unmatched (unmatchedText schema key)

/-- The layout keys come first, then the variant dimensions, then the slots. -/
def resolveProperty {α : Type} [Scalar α] (schema : Option ComponentSchema) (key : String)
    (value : Json) : PropertyOutcome α :=
  match LayoutKey.ofKey key with
  | some layoutKey => applyLayoutKey layoutKey key value
  | none =>
      match looseDimension schema key with
      | some dimension => .candidate ⟨dimension, value⟩
      | none =>
          match schema with
          | none => .kept key value
          | some schema =>
              if value.isObject then .kept key value else resolveContent schema key value

/-- The properties that are resolved one by one. -/
def looseProperties (bag : PropertyBag) : List (String × Json) :=
  bag.filter fun entry => entry.1 != "variants" && !entry.2.isNull

/-- The candidates that are grouped under `variants`. -/
def groupedCandidates (bag : PropertyBag) : List VariantCandidate :=
  (((bag.get? "variants").bind Json.asObject?).getD []).map fun entry => ⟨entry.1, entry.2⟩

def variantsError (bag : PropertyBag) : List PropertyError :=
  match bag.get? "variants" with
  | none => []
  | some variants =>
      if variants.isNull || variants.isObject then []
      else [⟨"variants", "variants must be an object"⟩]

namespace PropertyOutcome

variable {α : Type}

def candidate? : PropertyOutcome α → Option VariantCandidate
  | candidate variant => some variant
  | _ => none

def setting? : PropertyOutcome α → Option (DirectiveSetting α)
  | setting value => some value
  | _ => none

def error? : PropertyOutcome α → Option PropertyError
  | failed error => some error
  | _ => none

def kept? : PropertyOutcome α → Option (String × Json)
  | kept key value => some (key, value)
  | _ => none

def text? : PropertyOutcome α → Option TextAssignment
  | text assignment => some assignment
  | _ => none

def media? : PropertyOutcome α → Option MediaAssignment
  | media assignment => some assignment
  | _ => none

def warning? : PropertyOutcome α → Option PropertyWarning
  | unmatched warning => some warning
  | _ => none

end PropertyOutcome

namespace VariantOutcome

def chosen? : VariantOutcome → Option (String × String)
  | chosen dimension value => some (dimension, value)
  | _ => none

def error? : VariantOutcome → Option PropertyError
  | failed error => some error
  | _ => none

def warning? : VariantOutcome → Option PropertyWarning
  | dropped warning => some warning
  | _ => none

end VariantOutcome

namespace ResolvedProperties

variable {α : Type}

/-- Later settings and later choices for one dimension win. -/
def ofOutcomes (first : List PropertyError) (properties : List (PropertyOutcome α))
    (variants : List VariantOutcome) : ResolvedProperties α where
  variants := Dict.ofList (variants.filterMap VariantOutcome.chosen?)
  textProperties := properties.filterMap PropertyOutcome.text?
  mediaProperties := properties.filterMap PropertyOutcome.media?
  layoutProperties := (properties.filterMap PropertyOutcome.setting?).foldl LayoutDirective.set {}
  passthrough := Dict.ofList (properties.filterMap PropertyOutcome.kept?)
  errors :=
    first ++ properties.filterMap PropertyOutcome.error? ++
      variants.filterMap VariantOutcome.error?
  warnings :=
    properties.filterMap PropertyOutcome.warning? ++ variants.filterMap VariantOutcome.warning?

variable [Scalar α]

/-- The resolution of properties that are sanitized already. -/
def ofSanitized (schema : Option ComponentSchema) (bag : PropertyBag) : ResolvedProperties α :=
  let outcomes := (looseProperties bag).map fun entry => resolveProperty schema entry.1 entry.2
  let candidates := groupedCandidates bag ++ outcomes.filterMap PropertyOutcome.candidate?
  ofOutcomes (variantsError bag) outcomes (candidates.map (·.resolve schema))

def ofBag (schema : Option ComponentSchema) (bag : PropertyBag) : ResolvedProperties α :=
  ofSanitized schema bag.sanitize

def missingSchema (componentId : String) : PropertyWarning where
  kind := .schemaMissing
  property := componentId
  message := "No schema for component " ++ componentId ++ "; resolving in basic mode"
  severity := .low
  suggestions := []

/-- A component that was not scanned is resolved without a schema, which is reported first. -/
def ofRegistry (registry : Registry) (componentId : String) (bag : PropertyBag) :
    ResolvedProperties α :=
  match registry.get? componentId with
  | some schema => ofBag (some schema) bag
  | none =>
      let resolved : ResolvedProperties α := ofBag none bag
      { resolved with warnings := missingSchema componentId :: resolved.warnings }

end ResolvedProperties

end DesignScene
