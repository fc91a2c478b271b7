/-
This file shows that the preparation of a layout changes neither whether it can be read nor why it cannot.
-/
import DesignScene.Proofs.Dict
import DesignScene.Proofs.Document.Tree
import DesignScene.Render.Scene

namespace DesignScene

/-- Whether the field `items` is an array, if it is present. -/
def itemsShape (fields : Dict Json) : Option Bool :=
  (fields.get? "items").map fun value => value.asArray?.isSome

/-- The shape of the items of the container of a root, if the root has a container. -/
def containerShape (fields : Dict Json) : Option (Option Bool) :=
  ((fields.get? "layoutContainer").bind Json.asObject?).map itemsShape

/-- Why a root is no document, by the shapes of its items and of those of its container. -/
def shapeFault? : (items : Option Bool) → (container : Option (Option Bool)) →
    Option DocumentError
  | some true, _ => none
  | some false, _ => some .itemsNotArray
  | none, none => some .noContent
  | none, some (some false) => some .itemsNotArray
  | none, some _ => none

/-- The fields are the same but for the field `items`, which is an array in both or in neither. -/
structure SameButItems (fields other : Dict Json) : Prop where
  items : itemsShape other = itemsShape fields
  rest : ∀ name, "items" ≠ name → other.get? name = fields.get? name

theorem SameButItems.refl (fields : Dict Json) : SameButItems fields fields :=
  ⟨rfl, fun _ _ => rfl⟩

/-- Another array in the field `items` leaves all other fields. -/
theorem SameButItems.insert {fields : Dict Json} {elements : List Json}
    (found : fields.get? "items" = some (.array elements)) (others : List Json) :
    SameButItems fields (fields.insert "items" (.array others)) where
  items := by simp [itemsShape, found, Json.asArray?]
  rest _ different := Dict.get?_insert_of_ne different _ _

/-- A container has the same shape whatever stands in its `items`. -/
theorem SameButItems.containerShape_eq {fields other : Dict Json}
    (same : SameButItems fields other) : containerShape other = containerShape fields := by
  rw [containerShape, same.rest "layoutContainer" (by decide), containerShape]

/-- Joining tabs changes nothing beside the first field `items` that is an array. -/
theorem Tabs.sameButItems_inItemsField (fields : Dict Json) :
    SameButItems fields (inItemsField fields).1 := by
  simp only [inItemsField]
  split
  · next found => exact .insert found _
  · exact .refl fields

/-- Filling in identifiers changes the fields `items` only. -/
theorem IdResolution.sameButItems_inItems (registry : Registry) (path : String)
    (fields : Dict Json) : SameButItems fields (inItems registry path fields).1 := by
  induction fields with
  | nil => exact .refl []
  | cons field more ih =>
      have later : SameButItems (field :: more) (field :: (inItems registry path more).1) := by
        obtain ⟨key, value⟩ := field
        refine ⟨?_, fun name different => ?_⟩
        · by_cases same : key = "items"
          · simp [itemsShape, Dict.get?, same]
          · simpa [itemsShape, Dict.get?, same] using ih.items
        · by_cases same : key = name
          · simp [Dict.get?, same]
          · simpa [Dict.get?, same] using ih.rest name different
      obtain ⟨key, value⟩ := field
      cases value with
      | array elements =>
          rw [inItems]
          split
          · next same =>
              subst same
              refine ⟨by simp [itemsShape, Dict.get?, Json.asArray?], fun name different => ?_⟩
              simp [Dict.get?, different]
          · exact later
      | _ => exact later

namespace LayoutDocument

variable (α : Type) [Scalar α]

/-- Why a layout cannot be read as a document. -/
def fault? (layout : Json) : Option DocumentError :=
  match (ofJson layout : Except DocumentError (LayoutDocument α)) with
  | .ok _ => none
  | .error error => some error

/-- A layout can be read exactly if it has no fault. -/
theorem exists_ofJson_iff (layout : Json) :
    (∃ document : LayoutDocument α, ofJson layout = .ok document) ↔ fault? α layout = none := by
  rw [fault?]
  cases (ofJson layout : Except DocumentError (LayoutDocument α)) <;> simp

/-- The fault of a layout is the error of reading it. -/
theorem fault?_eq_some_iff {layout : Json} {error : DocumentError} :
    fault? α layout = some error ↔
      (ofJson layout : Except DocumentError (LayoutDocument α)) = .error error := by
  rw [fault?]
  cases (ofJson layout : Except DocumentError (LayoutDocument α)) <;> simp

/-- The fault of a root depends only on these shapes. -/
theorem fault?_object (fields : Dict Json) :
    fault? α (.object fields) = shapeFault? (itemsShape fields) (containerShape fields) := by
  simp only [fault?, ofJson, itemsShape, containerShape]
  cases fields.get? "items" with
  | some value =>
      cases value <;> simp [shapeFault?, Json.asArray?]
  | none =>
      cases (fields.get? "layoutContainer").bind Json.asObject? with
      | none => rfl
      | some container =>
          simp only [Option.map_some, itemsShape]
          cases found : Dict.get? "items" container with
          | none => simp [shapeFault?, found]
          | some value => cases value <;> simp [shapeFault?, found, Json.asArray?]

/-- Layouts that differ in their items only have the same fault. -/
theorem fault?_congr {fields other : Dict Json} (same : SameButItems fields other) :
    fault? α (.object other) = fault? α (.object fields) := by
  rw [fault?_object, fault?_object, same.items, same.containerShape_eq]

/-- So do layouts that differ in the items of their container only. -/
theorem fault?_insert {fields container other : Dict Json}
    (found : fields.get? "layoutContainer" = some (.object container))
    (same : SameButItems container other) :
    fault? α (.object (fields.insert "layoutContainer" (.object other))) =
      fault? α (.object fields) := by
  have sameItems : itemsShape (fields.insert "layoutContainer" (.object other)) =
      itemsShape fields := by
    rw [itemsShape, Dict.get?_insert_of_ne (by decide), itemsShape]
  have sameContainer : containerShape (fields.insert "layoutContainer" (.object other)) =
      containerShape fields := by
    rw [containerShape, containerShape, Dict.get?_insert_self, found]
    exact congrArg some same.items
  rw [fault?_object, fault?_object, sameItems, sameContainer]

/-- Joining tabs leaves the fault of a layout. -/
theorem fault?_merge (layout : Json) : fault? α (Tabs.merge layout).1 = fault? α layout := by
  cases layout with
  | object fields =>
      have outer := fault?_congr α (Tabs.sameButItems_inItemsField fields)
      simp only [Tabs.merge]
      split
      · next container found =>
          exact (fault?_insert α found (Tabs.sameButItems_inItemsField container)).trans outer
      · exact outer
  | _ => rfl

/-- Filling in identifiers leaves the fault of a layout. -/
theorem fault?_resolve (registry : Registry) (layout : Json) :
    fault? α (IdResolution.resolve registry layout).1 = fault? α layout := by
  cases layout with
  | object fields =>
      have outer := fault?_congr α (IdResolution.sameButItems_inItems registry "items" fields)
      simp only [IdResolution.resolve]
      split
      · next container found =>
          have inner := IdResolution.sameButItems_inItems registry "layoutContainer.items" container
          exact (fault?_insert α found inner).trans outer
      · exact outer
  | _ => rfl

/-- The preparation neither makes nor mends a fault. -/
theorem fault?_prepare (registry : Registry) (layout : Json) :
    fault? α (Scene.prepare registry layout) = fault? α layout :=
  (fault?_resolve α registry _).trans (fault?_merge α layout)

variable {α}

/-- With identifiers filled in a layout can be read exactly if it could be before. -/
theorem ofJson_resolve_iff (registry : Registry) (layout : Json) :
    (∃ document : LayoutDocument α, ofJson (IdResolution.resolve registry layout).1 = .ok document) ↔
      ∃ document : LayoutDocument α, ofJson layout = .ok document := by
  rw [exists_ofJson_iff, exists_ofJson_iff, fault?_resolve]

/-- Neither joining tabs nor filling in identifiers makes a layout readable or unreadable. -/
theorem ofJson_prepare_iff (registry : Registry) (layout : Json) :
    (∃ document : LayoutDocument α, ofJson (Scene.prepare registry layout) = .ok document) ↔
      ∃ document : LayoutDocument α, ofJson layout = .ok document := by
  rw [exists_ofJson_iff, exists_ofJson_iff, fault?_prepare]

end LayoutDocument

namespace Scene

variable {α : Type} [Scalar α]

/-- A text is read as a document under every registry if its layout can be read. -/
theorem readDocument_eq_ok_iff {text : String} {layout : Json}
    (parsed : Json.parse text = some layout) (registry : Registry) :
    (∃ document : LayoutDocument α, readDocument registry text = .ok document) ↔
      ∃ document : LayoutDocument α, LayoutDocument.ofJson layout = .ok document := by
  rw [← LayoutDocument.ofJson_prepare_iff registry layout]
  simp only [readDocument, parsed]
  cases LayoutDocument.ofJson (α := α) (prepare registry layout) with
  | ok document => exact ⟨fun _ => ⟨document, rfl⟩, fun _ => ⟨document, rfl⟩⟩
  | error error =>
      constructor
      · rintro ⟨document, read⟩
        cases read
      · rintro ⟨document, read⟩
        cases read

/-- A document is read from its layout with the tabs joined and the identifiers filled in. -/
theorem ofJson_of_readDocument {text : String} {layout : Json} {registry : Registry}
    {document : LayoutDocument α} (parsed : Json.parse text = some layout)
    (read : readDocument registry text = .ok document) :
    LayoutDocument.ofJson (prepare registry layout) = .ok document := by
  rw [readDocument, parsed] at read
  cases prepared : LayoutDocument.ofJson (α := α) (prepare registry layout) with
  | ok other =>
      simp only [prepared, Except.mapError] at read
      cases read
      rfl
  | error fault =>
      simp only [prepared, Except.mapError] at read
      cases read

end Scene

end DesignScene
