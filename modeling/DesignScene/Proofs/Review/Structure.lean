/-
This file says for which layouts the check of the structure reports a fault that blocks them.
-/
import DesignScene.Proofs.Document.Places
import DesignScene.Review.Basic

namespace DesignScene

open Relation

/-- One of the findings is an error that keeps a layout from being valid. -/
def Blocks (findings : List Finding) : Prop :=
  ∃ issue ∈ findings.filterMap Finding.error?, issue.severity.isBlocking = true

@[simp] theorem blocks_nil : ¬Blocks [] := by simp [Blocks]

/-- Findings block if one part of them does. -/
@[simp] theorem blocks_append (first second : List Finding) :
    Blocks (first ++ second) ↔ Blocks first ∨ Blocks second := by
  simp [Blocks, or_and_right, exists_or]

/-- An error blocks if its severity does. -/
@[simp] theorem blocks_error (issue : Issue) :
    Blocks [.error issue] ↔ issue.severity.isBlocking = true := by simp [Blocks, Finding.error?]

/-- A warning blocks nothing. -/
@[simp] theorem blocks_warning (issue : Issue) : ¬Blocks [.warning issue] := by
  simp [Blocks, Finding.error?]

theorem isSomewhere_blocks : Json.IsSomewhere Blocks := ⟨blocks_nil, blocks_append⟩

namespace Structure

/-- A text field of a value that is not empty. -/
def nonEmptyText? (name : String) (item : Json) : Option String :=
  ((item.field? name).bind Json.asString?).filter fun text => text != ""

/-- The item has no type, or its type names a component and it has no identifier. -/
def IsFaulty (item : Json) : Prop :=
  match nonEmptyText? "type" item with
  | none => True
  | some itemType =>
      isComponentType itemType = true ∧ nonEmptyText? "componentNodeId" item = none

/-- The check visits the elements of the field `items` of the root and of every visited item. -/
def Visits (layout item : Json) : Prop :=
  ∃ top, Json.Lists "items" layout top ∧ ReflTransGen (Json.Lists "items") top item

/-- The root has neither a container nor items, or a container without a layout mode. -/
def HasRootFault (layout : Json) : Prop :=
  (presentField "layoutContainer" layout = none ∧ presentField "items" layout = none) ∨
    ∃ container, presentField "layoutContainer" layout = some container ∧
      hasLayoutMode container = false

/-- An item without a type is faulty. -/
theorem isFaulty_of_untyped {item : Json} (untyped : nonEmptyText? "type" item = none) :
    IsFaulty item := by
  rw [IsFaulty, untyped]
  trivial

/-- Properties are never blocked by the structure, since what is wrong there gives warnings only. -/
theorem blocks_checkProperties (path : String) (properties : Json) :
    ¬Blocks (checkProperties path properties) := by
  simp only [checkProperties, blocks_append, not_or]
  constructor
  · cases presentField "variants" properties with
    | none => simp
    | some value => cases isObject : value.isObject <;> simp [isObject, invalidVariants]
  · split <;> simp [variantsNotGrouped]

/-- Of the faults of an item with a type only a missing identifier blocks the layout. -/
theorem blocks_checkFields (path itemType : String) (fields : Dict Json) :
    Blocks (checkFields path itemType fields) ↔
      isComponentType itemType = true ∧ nonEmptyField "componentNodeId" fields = none := by
  simp only [checkFields, blocks_append, or_assoc]
  rw [or_iff_left]
  · cases nonEmptyField "componentNodeId" fields <;> cases isComponentType itemType <;>
      simp [missingComponentId, Severity.isBlocking]
  · rintro (malformed | loose)
    · cases found : nonEmptyField "componentNodeId" fields with
      | none => simp [found] at malformed
      | some id => cases isWellFormed : isWellFormedId id <;>
          simp [found, isWellFormed, invalidComponentId] at malformed
    · split at loose
      · exact blocks_checkProperties _ _ loose
      · exact blocks_nil loose

/-- The items are checked if they are an array. -/
theorem checkItems_eq (path : String) (fields : Dict Json) :
    checkItems path fields =
      (fields.get? "items").elim [] fun value =>
        value.asArray?.elim [] (checkElements path 0) := by
  refine Dict.search_eq_elim_get? rfl (fun key value more => ?_) fields
  cases value <;> simp [checkItems, Json.asArray?]

/-- A list blocks the layout exactly if one of its elements does, whatever paths they have. -/
theorem blocks_checkItems {faulty : Json → Prop} {fields : Dict Json}
    (each : ∀ element, Json.Lists "items" (.object fields) element →
      ∀ path, Blocks (checkItem path element) ↔ faulty element) (path : String) :
    Blocks (checkItems path fields) ↔
      ∃ element, Json.Lists "items" (.object fields) element ∧ faulty element := by
  rw [checkItems_eq]
  refine isSomewhere_blocks.of_listed fun elements found => ?_
  exact isSomewhere_blocks.of_elements (fun _ => rfl) (fun _ _ _ => rfl)
    (fun element member _ => each element ⟨elements, found, member⟩ _) 0

/-- An item blocks the layout exactly if an item that is visited from it is faulty. -/
theorem blocks_checkItem (item : Json) : ∀ path, Blocks (checkItem path item) ↔
    ∃ value, ReflTransGen (Json.Lists "items") item value ∧ IsFaulty value := by
  induction item using Json.induction_sizeOf with
  | step item ih =>
      intro path
      rw [exists_reached_iff]
      cases item with
      | object fields =>
          have inside := blocks_checkItems
            (fun element listed => ih element listed.sizeOf_lt) (itemsPath path)
          have sameType : nonEmptyText? "type" (.object fields) = nonEmptyField "type" fields := rfl
          have sameId : nonEmptyText? "componentNodeId" (.object fields) =
            nonEmptyField "componentNodeId" fields := rfl
          rw [checkItem, IsFaulty, sameType, sameId]
          cases nonEmptyField "type" fields with
          | none => simp [missingType, Severity.isBlocking]
          | some itemType => rw [blocks_append, blocks_checkFields, inside]
      | _ =>
          have reported : Blocks [missingType path] := (blocks_error _).mpr rfl
          exact ⟨fun _ => .inl (isFaulty_of_untyped rfl), fun _ => reported⟩

/-- A container is blocked if it has no layout mode. -/
theorem blocks_checkContainer (container : Json) :
    Blocks (checkContainer container) ↔ hasLayoutMode container = false := by
  have quiet : ¬Blocks ((presentField "width" container).elim [] fun width =>
      if isPositive width then [] else [invalidWidth]) := by
    cases presentField "width" container with
    | none => simp
    | some width => cases positive : isPositive width <;> simp [positive, invalidWidth]
  rw [checkContainer, blocks_append, or_iff_left quiet]
  cases hasLayoutMode container <;> simp [invalidLayoutMode, Severity.isBlocking]

/-- The items of the root are blocked exactly if one that is visited is faulty. -/
theorem blocks_checkRootItems (layout : Json) :
    Blocks (checkRootItems layout) ↔ ∃ item, Visits layout item ∧ IsFaulty item := by
  have regroup : (∃ item, Visits layout item ∧ IsFaulty item) ↔
      ∃ top, Json.Lists "items" layout top ∧
        ∃ item, ReflTransGen (Json.Lists "items") top item ∧ IsFaulty item := by
    constructor
    · rintro ⟨item, ⟨top, listed, reached⟩, faulty⟩
      exact ⟨top, listed, item, reached, faulty⟩
    · rintro ⟨top, listed, item, reached, faulty⟩
      exact ⟨item, ⟨top, listed, reached⟩, faulty⟩
  rw [regroup]
  cases layout with
  | object fields => exact blocks_checkItems (fun element _ => blocks_checkItem element) _
  | _ => simp [checkRootItems, Json.Lists, Json.field?, Json.asObject?]

/-- The check blocks a layout exactly for a fault of its root or of an item that it visits. -/
theorem blocks_check (layout : Json) :
    Blocks (check layout) ↔
      HasRootFault layout ∨ ∃ item, Visits layout item ∧ IsFaulty item := by
  rw [check]
  rw [blocks_append, blocks_append, blocks_checkRootItems, HasRootFault]
  cases presentField "layoutContainer" layout with
  | none => cases presentField "items" layout <;> simp [missingRoot, Severity.isBlocking]
  | some container => simp [blocks_checkContainer]

end Structure

namespace Review

variable {α : Type} [Scalar α]

/-- The errors of a review are those among its findings. -/
theorem errors_ofText {config : ReviewConfig α} {registry : Option Registry} {text : String}
    {layout : Json} (parsed : Json.parse text = some layout) :
    (ofText config registry text).errors =
      (reviewFindings config registry layout).filterMap Finding.error? := by
  rw [ofText, parsed]
  rfl

/-- The settings that check the structure of a layout and nothing else. -/
def structureOnly : ReviewConfig α :=
  { ReviewConfig.standard with checkComponents := false, checkDesignSystem := false }

/-- With the structure alone enabled nothing else is found. -/
theorem reviewFindings_structureOnly (registry : Option Registry) (layout : Json) :
    reviewFindings (structureOnly : ReviewConfig α) registry layout = Structure.check layout := by
  simp [reviewFindings, structureOnly, ReviewConfig.standard]

/-- A layout is blocked whenever its structure is checked exactly if its structure blocks it. -/
theorem blocked_iff {text : String} {layout : Json} (parsed : Json.parse text = some layout) :
    (∀ (config : ReviewConfig α) (registry : Option Registry), config.checkStructure = true →
      ∃ issue ∈ (ofText config registry text).errors, issue.severity.isBlocking = true) ↔
      Blocks (Structure.check layout) := by
  constructor
  · intro every
    have blocked := every structureOnly none rfl
    rwa [errors_ofText parsed, reviewFindings_structureOnly] at blocked
  · intro blocked config registry checked
    rw [errors_ofText parsed]
    change Blocks (reviewFindings config registry layout)
    rw [reviewFindings, blocks_append, if_pos checked]
    exact .inl blocked

end Review

end DesignScene
