/-
This file says by how much the lists of a layout become shorter when its tabs are joined, and which
part of that is counted.
-/
import Mathlib.Algebra.Order.BigOperators.Group.List
import Mathlib.Algebra.Order.Ring.Int
import DesignScene.Proofs.Document.Joining

namespace DesignScene.Tabs

section Lists

/-- The array in a field of the value, if there is one. -/
def listIn (name : String) (value : Json) : List (List Json) :=
  ((value.field? name).bind Json.asArray?).toList

/-- The items of the root and those of its container. -/
def outerLists (layout : Json) : List (List Json) :=
  listIn "items" layout ++ (layout.field? "layoutContainer").toList.flatMap (listIn "items")

mutual

/-- The lists inside an item that are joined, at any depth. -/
def listsInItem : Json → List (List Json)
  | .object fields => listsInFields fields
  | _ => []

def listsInFields : List (String × Json) → List (List Json)
  | [] => []
  | (key, .array elements) :: more =>
      if key = "items" || key = "children" then
        elements :: (listsInElements elements ++ listsInFields more)
      else listsInFields more
  | _ :: more => listsInFields more

def listsInElements : List Json → List (List Json)
  | [] => []
  | element :: more => listsInItem element ++ listsInElements more

end

/-- The lists inside the items of a layout. -/
def innerLists (layout : Json) : List (List Json) := (outerLists layout).flatMap listsInElements

/-- All lists of a layout that are joined. -/
def joinedLists (layout : Json) : List (List Json) := outerLists layout ++ innerLists layout

/-- By how much a list becomes shorter when it is joined. -/
def removedFrom (list : List Json) : Int := (list.length : Int) - (inList list).length

def removedFromAll (lists : List (List Json)) : Int := (lists.map removedFrom).sum

end Lists

section Lengths

variable {list : List Json}

/-- A list becomes shorter exactly if two tabs stand next to each other. -/
theorem Joined.length_le {list joined : List Json} (joins : Joined list joined) :
    joined.length ≤ list.length ∧ (joined.length = list.length → list.IsChain Apart) := by
  cases joins with
  | nil => exact ⟨Nat.le_refl 0, fun _ => .nil⟩
  | item _ alone rest =>
      obtain ⟨shorter, apart⟩ := rest.length_le
      constructor
      · simpa using shorter
      · intro same
        have sameRest := apart (by simpa using same)
        exact List.isChain_cons.mpr ⟨fun next isNext tab => alone tab next isNext, sameRest⟩
  | run _ _ _ _ rest =>
      obtain ⟨shorter, -⟩ := rest.length_le
      simp only [List.length_cons, List.length_append]
      constructor <;> omega

/-- Joining makes no list longer. -/
theorem removedFrom_nonneg (list : List Json) : 0 ≤ removedFrom list := by
  have shorter := (joined_inList list).length_le.1
  rw [removedFrom]
  omega

/-- A list loses nothing exactly if no two tabs stand next to each other. -/
theorem removedFrom_eq_zero_iff : removedFrom list = 0 ↔ list.IsChain Apart := by
  constructor
  · intro nothing
    apply (joined_inList list).length_le.2
    rw [removedFrom] at nothing
    omega
  · intro apart
    rw [removedFrom, length_inList, joinRuns_eq_self apart]
    omega

theorem removedFromAll_append (first second : List (List Json)) :
    removedFromAll (first ++ second) = removedFromAll first + removedFromAll second := by
  rw [removedFromAll, List.map_append, List.sum_append, removedFromAll, removedFromAll]

/-- Lists lose nothing together exactly if none of them does. -/
theorem removedFromAll_eq_zero_iff {lists : List (List Json)} :
    removedFromAll lists = 0 ↔ ∀ list ∈ lists, list.IsChain Apart := by
  induction lists with
  | nil => simp [removedFromAll]
  | cons list more ih =>
      have here := removedFrom_nonneg list
      have later : 0 ≤ removedFromAll more := by
        apply List.sum_nonneg
        intro removed member
        obtain ⟨other, -, rfl⟩ := List.mem_map.mp member
        exact removedFrom_nonneg other
      rw [List.forall_mem_cons, ← ih, ← removedFrom_eq_zero_iff]
      show removedFrom list + removedFromAll more = 0 ↔ _
      omega

end Lengths

section Count

theorem listIn_of_noArray {name : String} {value : Json}
    (noArray : ∀ elements, value.field? name ≠ some (.array elements)) :
    listIn name value = [] := by
  rw [listIn]
  cases found : value.field? name with
  | none => rfl
  | some inner =>
      cases inner with
      | array elements => exact absurd found (noArray elements)
      | _ => rfl

/-- Only an object has lists. -/
theorem listIn_of_noObject {value : Json} (noObject : ∀ fields, value ≠ .object fields)
    (name : String) : listIn name value = [] := by
  cases value with
  | object fields => exact absurd rfl (noObject fields)
  | _ => rfl

/-- What is counted for a value is what its own list loses. -/
theorem inItemsField_snd (fields : Dict Json) :
    ((inItemsField fields).2 : Int) = removedFromAll (listIn "items" (.object fields)) := by
  by_cases listed : ∃ elements, fields.get? "items" = some (.array elements)
  · obtain ⟨elements, found⟩ := listed
    have isField : (Json.object fields).field? "items" = some (.array elements) := found
    have shorter := (joined_inList elements).length_le.1
    rw [inItemsField_of_array found, listIn, isField]
    simp only [Option.bind_some, Json.asArray?, Option.toList_some, removedFromAll, List.map_cons,
      List.map_nil, List.sum_cons, List.sum_nil, removedFrom]
    omega
  · have noArray := not_exists.mp listed
    have nothing : listIn "items" (.object fields) = [] := listIn_of_noArray noArray
    rw [inItemsField_of_noArray noArray, nothing]
    rfl

/-- Only what the outer lists lose is counted. -/
theorem merge_object_snd (fields : Dict Json) :
    ((merge (.object fields)).2 : Int) = removedFromAll (outerLists (.object fields)) := by
  have outer := inItemsField_snd fields
  have same : (inItemsField fields).1.get? "layoutContainer" = fields.get? "layoutContainer" :=
    (sameButItems_inItemsField fields).rest "layoutContainer" (by decide)
  have isField : (Json.object fields).field? "layoutContainer" =
      fields.get? "layoutContainer" := rfl
  rw [outerLists, removedFromAll_append, ← outer, isField]
  by_cases holds : ∃ container, fields.get? "layoutContainer" = some (.object container)
  · obtain ⟨container, present⟩ := holds
    have inner := inItemsField_snd container
    rw [merge_of_container (same.trans present), present, Option.toList_some, List.flatMap_cons,
      List.flatMap_nil, List.append_nil, ← inner]
    exact Int.natCast_add _ _
  · have absent := not_exists.mp holds
    have nothing : (fields.get? "layoutContainer").toList.flatMap (listIn "items") = [] := by
      cases found : fields.get? "layoutContainer" with
      | none => rfl
      | some value =>
          rw [Option.toList_some, List.flatMap_singleton]
          exact listIn_of_noObject (fun container same => absent container (same ▸ found)) "items"
    rw [merge_of_noContainer fun container present => absent container (same.symm.trans present),
      nothing]
    exact (add_zero _).symm

/-- What is counted is what the outer lists lose. -/
theorem merge_snd (layout : Json) :
    ((merge layout).2 : Int) = removedFromAll (outerLists layout) := by
  cases layout with
  | object fields => exact merge_object_snd fields
  | _ => rfl

/-- The number of removals is right exactly if no list inside an item has two neighbouring tabs. -/
theorem removed_eq_iff (layout : Json) :
    ((merge layout).2 : Int) = ((joinedLists layout).map removedFrom).sum ↔
      ∀ list ∈ innerLists layout, list.IsChain Apart := by
  have whole : ((joinedLists layout).map removedFrom).sum =
      removedFromAll (outerLists layout) + removedFromAll (innerLists layout) :=
    removedFromAll_append _ _
  rw [whole, merge_snd, ← removedFromAll_eq_zero_iff]
  omega

/-- A frame with two tabs. -/
def frameOfTabs : Json :=
  .object
    [("items", .array [.object [("type", .string "tab")], .object [("type", .string "tab")]]),
      ("type", .string "frame")]

/-- A tab that is removed from a list inside an item is not counted. -/
theorem inner_tab_not_counted :
    ¬∀ layout : Json, ((merge layout).2 : Int) = ((joinedLists layout).map removedFrom).sum := by
  intro every
  have counted := every (.object [("items", .array [frameOfTabs])])
  exact absurd counted (by decide)

end Count

end DesignScene.Tabs
