/-
This file relates the items of a document to the places of the layout that they are read from.
-/
import DesignScene.Proofs.Document.Places

namespace DesignScene

open Relation

namespace LayoutDocument

/-- The field that holds the items of a layout: its own, or that of its container. -/
def itemsField? (layout : Json) : Option Json :=
  (layout.field? "items").or ((layout.field? "layoutContainer").bind (Json.field? "items"))

def rootValues (layout : Json) : List Json :=
  ((itemsField? layout).bind Json.asArray?).getD []

/-- The value stands at a place of the layout that is read as an item. -/
def IsItemOf (layout value : Json) : Prop :=
  ∃ top ∈ rootValues layout,
    ReflTransGen (fun outside inside => inside ∈ LayoutItem.innerValues outside) top value

/-- The items of a layout are an array if there are any. -/
def HasItemList (layout : Json) : Prop :=
  ∀ value, itemsField? layout = some value → ∃ elements, value = .array elements

/-- A layout has a container or a field for its items. -/
def HasContent (layout : Json) : Prop :=
  ((layout.field? "layoutContainer").bind Json.asObject?).isSome ∨ (layout.field? "items").isSome

variable {α : Type}

/-- The item stands in the document, at any depth. -/
def Holds (document : LayoutDocument α) (node : LayoutItem α) : Prop :=
  ∃ top ∈ document.items, ReflTransGen (fun outside inside => inside ∈ outside.inner) top node

variable [Scalar α]

/-- A layout without a container and without items is no document. -/
theorem hasContent_iff (fields : Dict Json) :
    HasContent (.object fields) ↔
      ¬((((fields.get? "layoutContainer").bind Json.asObject?).isNone &&
        (fields.get? "items").isNone) = true) := by
  simp only [HasContent, Json.field?, Json.asObject?, Option.bind_some]
  cases (fields.get? "layoutContainer").bind Json.asObject? <;> cases fields.get? "items" <;> simp

/-- The items of a layout stand in its own field, or else in that of its container. -/
theorem itemsField?_object (fields : Dict Json) :
    itemsField? (.object fields) =
      (fields.get? "items").or
        (((fields.get? "layoutContainer").bind Json.asObject?).bind (Dict.get? "items")) := by
  simp only [itemsField?, Json.field?, Json.asObject?, Option.bind_some]
  cases fields.get? "layoutContainer" <;> rfl

/-- A layout is read exactly if it is an object that has content and no items but in an array. -/
theorem ofJson_eq_ok_iff (layout : Json) :
    (∃ document : LayoutDocument α, ofJson layout = .ok document) ↔
      layout.isObject = true ∧ HasContent layout ∧ HasItemList layout := by
  cases layout with
  | object fields =>
      rw [hasContent_iff, HasItemList, itemsField?_object, ofJson]
      dsimp only
      split
      · next empty => simp [empty]
      · next content =>
          simp only [content, true_and, Json.isObject, Json.asObject?, Option.isSome_some]
          split
          · next elements found => simp [found]
          · next value notArray found =>
              simp only [found, reduceCtorEq, exists_false, Option.some.injEq, false_iff]
              rintro ⟨_, every⟩
              obtain ⟨elements, same⟩ := every value rfl
              exact notArray elements same
          · next found => simp [found]
  | _ => simp [ofJson, Json.isObject, Json.asObject?]

/-- The items of a document are read from the root values of its layout. -/
theorem items_eq_of_ofJson {layout : Json} {document : LayoutDocument α}
    (read : ofJson layout = .ok document) :
    document.items = LayoutItem.ofElements "items" 0 (rootValues layout) := by
  cases layout with
  | object fields =>
      rw [ofJson] at read
      rw [rootValues, itemsField?_object]
      dsimp only at read
      split at read
      · cases read
      · split at read
        · next elements found =>
            cases read
            simp [found, Json.asArray?]
        · cases read
        · next found =>
            cases read
            simp [found, LayoutItem.ofElements]
  | _ => cases read

/-- The root of a document is read from the container of its layout, if there is one. -/
theorem root_eq_of_ofJson {layout : Json} {document : LayoutDocument α}
    (read : ofJson layout = .ok document) :
    document.root = ((layout.field? "layoutContainer").bind Json.asObject?).elim
      ContainerSpec.standard ContainerSpec.ofFields := by
  cases layout with
  | object fields =>
      rw [ofJson] at read
      dsimp only at read
      split at read
      · cases read
      · split at read <;> cases read <;> rfl
  | _ => cases read

/-- Every item of a document is read from a place of its layout. -/
theorem exists_value_of_holds {layout : Json} {document : LayoutDocument α}
    (read : ofJson layout = .ok document) {node : LayoutItem α} (held : document.Holds node) :
    ∃ value path, IsItemOf layout value ∧ node = LayoutItem.ofJson path value := by
  obtain ⟨top, member, below⟩ := held
  rw [items_eq_of_ofJson read] at member
  obtain ⟨place, within, rfl⟩ := LayoutItem.mem_ofElements.mp member
  induction below with
  | refl => exact ⟨_, _, ⟨_, List.getElem_mem within, .refl⟩, rfl⟩
  | tail _ step ih =>
      obtain ⟨value, path, ⟨start, first, reached⟩, rfl⟩ := ih
      rw [LayoutItem.inner_ofJson] at step
      obtain ⟨place, within, rfl⟩ := LayoutItem.mem_ofElements.mp step
      exact ⟨_, _, ⟨start, first, reached.tail (List.getElem_mem within)⟩, rfl⟩

/-- Every place of a layout that is read as an item gives an item of its document. -/
theorem exists_path_of_isItemOf {layout : Json} {document : LayoutDocument α}
    (read : ofJson layout = .ok document) {value : Json} (placed : IsItemOf layout value) :
    ∃ path, document.Holds (LayoutItem.ofJson path value) := by
  obtain ⟨top, member, below⟩ := placed
  induction below with
  | refl =>
      obtain ⟨path, first⟩ := LayoutItem.exists_mem_ofElements (α := α) "items" 0 member
      rw [← items_eq_of_ofJson read] at first
      exact ⟨path, _, first, .refl⟩
  | tail _ step ih =>
      obtain ⟨path, start, first, reached⟩ := ih
      obtain ⟨place, inside⟩ :=
        LayoutItem.exists_mem_ofElements (α := α) (itemsPath path) 0 step
      rw [← LayoutItem.inner_ofJson] at inside
      exact ⟨place, start, first, reached.tail inside⟩

end LayoutDocument

end DesignScene
