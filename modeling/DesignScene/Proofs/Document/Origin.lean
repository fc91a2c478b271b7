/-
This file says from which place of a layout each item of its document is read.
-/
import DesignScene.Proofs.Document.Tree
import DesignScene.Proofs.Review.Variants

namespace DesignScene

open Json Variants

namespace Json

/-- Steps are taken one part after the other. -/
theorem at?_append (value : Json) (first second : List Step) :
    value.at? (first ++ second) = (value.at? first).bind (·.at? second) := by
  induction first generalizing value with
  | nil => rfl
  | cons step more ih =>
      rw [List.cons_append, at?, at?, Option.bind_assoc]
      exact congrArg _ (funext fun part => ih part)

theorem at?_element (list : Json) (index : Nat) :
    list.at? [.element index] = list.asArray?.bind (·[index]?) := by
  simp [at?, part?]

def Step.index? : Step → Option Nat
  | .field _ => none
  | .element index => some index

/-- The indices of the arrays on the way to a place. -/
def indicesOf (place : List Step) : List Nat := place.filterMap Step.index?

/-- The indices of joined steps are joined. -/
theorem indicesOf_append (first second : List Step) :
    indicesOf (first ++ second) = indicesOf first ++ indicesOf second :=
  List.filterMap_append

theorem indicesOf_stepsTo (place : List Nat) : indicesOf (stepsTo place) = place := by
  induction place with
  | nil => rfl
  | cons index more ih => exact congrArg (index :: ·) ih

end Json

namespace LayoutItem

/-- The step from a value to its list. -/
def listStep (value : Json) : Step :=
  .field (if (value.field? "items").isSome then "items" else "children")

/-- The steps from an item to the list of the items inside it; a text and a component have none. -/
def innerSteps? (item : Json) : Option (List Step) :=
  (typeOf? item).bind fun itemType =>
    if isContainerType itemType then
      if (ownList? item).isSome then some [listStep item]
      else (item.field? "layoutContainer").map fun container =>
        [.field "layoutContainer", listStep container]
    else if isShapeType itemType then some [listStep item]
    else none

/-- The steps from an item to the one with this index inside it. -/
def innerPlace? (item : Json) (index : Nat) : Option (List Step) :=
  (innerSteps? item).map (· ++ [.element index])

/-- The steps from an item to the value that is read as the item at these indices inside it. -/
def sourceIn? (item : Json) : List Nat → Option (List Step)
  | [] => some []
  | index :: more =>
      (innerPlace? item index).bind fun place =>
        (item.at? place).bind fun inner => (sourceIn? inner more).map (place ++ ·)

/-- The item at these indices inside an item that has been read. -/
def innerAt? {α : Type} (item : LayoutItem α) : List Nat → Option (LayoutItem α)
  | [] => some item
  | index :: more => item.inner[index]?.bind (·.innerAt? more)

/-- The step to its list leads to the list that an item has of its own. -/
theorem at?_listStep (value : Json) :
    (value.at? [listStep value]).bind Json.asArray? = ownList? value := by
  rw [listStep, ownList?]
  cases items : value.field? "items" <;> simp [Json.at?, Json.part?, items]

/-- The inner values of an item stand where its inner steps lead. -/
theorem innerValues_eq (item : Json) :
    innerValues item =
      ((innerSteps? item).bind fun steps => (item.at? steps).bind Json.asArray?).getD [] := by
  rw [innerValues, innerSteps?]
  cases typeOf? item with
  | none => rfl
  | some itemType =>
      rw [Option.bind_some]
      dsimp only
      split_ifs with isContainer own isShape
      · rw [Option.bind_some, at?_listStep, Option.or_of_isSome own]
      · have noList : ownList? item = none := Option.not_isSome_iff_eq_none.mp own
        rw [noList, Option.none_or]
        cases found : item.field? "layoutContainer" with
        | none => rfl
        | some container =>
            have inside : item.at? [.field "layoutContainer", listStep container] =
                container.at? [listStep container] := by
              simp [Json.at?, Json.part?, found]
            rw [Option.map_some, Option.bind_some, Option.bind_some, inside, at?_listStep]
      · rw [Option.bind_some, at?_listStep]
      · rfl

/-- The items inside an item are read from these places. -/
theorem getElem?_innerValues (item : Json) (index : Nat) :
    (innerValues item)[index]? = (innerPlace? item index).bind item.at? := by
  rw [innerValues_eq, innerPlace?]
  cases innerSteps? item with
  | none => rfl
  | some steps =>
      rw [Option.bind_some, Option.map_some, Option.bind_some, at?_append]
      cases item.at? steps with
      | none => rfl
      | some list =>
          rw [Option.bind_some, Option.bind_some, at?_element]
          cases list.asArray? <;> rfl

/-- An inner place ends with its index, and no array is on the way to it. -/
theorem indicesOf_innerPlace {item : Json} {index : Nat} {place : List Step}
    (inside : innerPlace? item index = some place) : indicesOf place = [index] := by
  obtain ⟨steps, found, rfl⟩ := Option.map_eq_some_iff.mp inside
  obtain ⟨itemType, -, steps?⟩ := Option.bind_eq_some_iff.mp found
  have fieldsOnly : indicesOf steps = [] := by
    split_ifs at steps?
    · cases steps?
      rfl
    · obtain ⟨container, -, rfl⟩ := Option.map_eq_some_iff.mp steps?
      rfl
    · cases steps?
      rfl
  rw [indicesOf_append, fieldsOnly]
  rfl

/-- A source has the indices of what is read from it. -/
theorem indicesOf_sourceIn {item : Json} {indices : List Nat} {place : List Step}
    (source : sourceIn? item indices = some place) : indicesOf place = indices := by
  induction indices generalizing item place with
  | nil =>
      cases source
      rfl
  | cons index more ih =>
      obtain ⟨front, first, rest⟩ := Option.bind_eq_some_iff.mp source
      obtain ⟨inner, -, later⟩ := Option.bind_eq_some_iff.mp rest
      obtain ⟨behind, found, rfl⟩ := Option.map_eq_some_iff.mp later
      rw [indicesOf_append, indicesOf_innerPlace first, ih found]
      rfl

variable {α : Type} [Scalar α]

/-- Each element is read under its own path. -/
theorem getElem?_ofElements (path : String) (elements : List Json) (index : Nat) :
    (ofElements path 0 elements : List (LayoutItem α))[index]? =
      elements[index]?.map (ofJson (elementPath path index)) := by
  rw [ofElements_eq_mapIdx, List.getElem?_mapIdx]
  simp only [Nat.zero_add]

/-- What stands inside an item is read from its source, and nothing stands where there is no source. -/
theorem innerAt?_ofJson (path : String) (item : Json) (indices : List Nat) :
    (ofJson path item : LayoutItem α).innerAt? indices =
      ((sourceIn? item indices).bind item.at?).map (ofJson (below path indices)) := by
  induction indices generalizing path item with
  | nil => rfl
  | cons index more ih =>
      rw [innerAt?, inner_ofJson, getElem?_ofElements, getElem?_innerValues, sourceIn?]
      cases innerPlace? item index with
      | none => rfl
      | some place =>
          rw [Option.bind_some, Option.bind_some]
          cases found : item.at? place with
          | none => rfl
          | some inner =>
              rw [Option.map_some, Option.bind_some, Option.bind_some, ih, below]
              cases sourceIn? inner more with
              | none => rfl
              | some rest =>
                  rw [Option.map_some, Option.bind_some, Option.bind_some, at?_append, found]
                  rfl

end LayoutItem

namespace LayoutDocument

/-- The steps from a layout to the value that is read as its item with this index. -/
def rootPlace (layout : Json) (index : Nat) : List Step :=
  (if (layout.field? "items").isSome then [.field "items"]
    else [.field "layoutContainer", .field "items"]) ++ [.element index]

/-- The steps from a layout to the value that is read as the item at these indices. -/
def sourceOf? (layout : Json) : List Nat → Option (List Step)
  | [] => none
  | index :: more =>
      (layout.at? (rootPlace layout index)).bind fun item =>
        (LayoutItem.sourceIn? item more).map (rootPlace layout index ++ ·)

/-- Each root value stands at its own place of the layout. -/
theorem getElem?_rootValues (layout : Json) (index : Nat) :
    (rootValues layout)[index]? = layout.at? (rootPlace layout index) := by
  have listed : (layout.at? (rootPlace layout index)) =
      (itemsField? layout).bind fun list => list.at? [.element index] := by
    rw [rootPlace, at?_append, itemsField?]
    cases items : layout.field? "items" with
    | some list => simp [Json.at?, Json.part?, items]
    | none => simp [Json.at?, Json.part?, Option.bind_assoc]
  rw [rootValues, listed]
  cases itemsField? layout with
  | none => rfl
  | some list =>
      rw [Option.bind_some, Option.bind_some, at?_element]
      cases list.asArray? <;> rfl

/-- No place is the source of two items. -/
theorem indicesOf_sourceOf {layout : Json} {indices : List Nat} {place : List Step}
    (source : sourceOf? layout indices = some place) : indicesOf place = indices := by
  cases indices with
  | nil => cases source
  | cons index more =>
      obtain ⟨item, -, later⟩ := Option.bind_eq_some_iff.mp source
      obtain ⟨behind, found, rfl⟩ := Option.map_eq_some_iff.mp later
      have root : indicesOf (rootPlace layout index) = [index] := by
        rw [rootPlace, indicesOf_append]
        split_ifs <;> rfl
      rw [indicesOf_append, root, LayoutItem.indicesOf_sourceIn found]
      rfl

variable {α : Type}

/-- The item at these indices of a document. -/
def item? (document : LayoutDocument α) : List Nat → Option (LayoutItem α)
  | [] => none
  | index :: more => document.items[index]?.bind (·.innerAt? more)

/-- The item at these indices is read from the value at this place of the layout. -/
structure IsReadAt [Scalar α] (document : LayoutDocument α) (layout : Json) (indices : List Nat)
    (place : List Step) : Prop where
  source : sourceOf? layout indices = some place
  read : ∃ value, layout.at? place = some value ∧
    document.item? indices = some (LayoutItem.ofJson (pathTo indices) value)

variable [Scalar α] {layout : Json} {document : LayoutDocument α}

/-- Every item of a document is read from its source, and there is none without a source. -/
theorem item?_of_ofJson (read : ofJson layout = .ok document) (indices : List Nat) :
    document.item? indices =
      ((sourceOf? layout indices).bind layout.at?).map (LayoutItem.ofJson (pathTo indices)) := by
  cases indices with
  | nil => rfl
  | cons index more =>
      rw [item?, items_eq_of_ofJson read, LayoutItem.getElem?_ofElements, getElem?_rootValues,
        sourceOf?]
      cases found : layout.at? (rootPlace layout index) with
      | none => rfl
      | some item =>
          rw [Option.map_some, Option.bind_some, Option.bind_some, LayoutItem.innerAt?_ofJson]
          cases LayoutItem.sourceIn? item more with
          | none => rfl
          | some rest =>
              rw [Option.map_some, Option.bind_some, Option.bind_some, at?_append, found]
              rfl

end LayoutDocument

end DesignScene
