/-
This file shows that filling in identifiers changes nothing else, and that doing it twice is doing
it once.
-/
import DesignScene.Proofs.Document.Filled

namespace DesignScene

namespace IdResolution

variable (registry : Registry)

section Twice

/-- The walk does not touch a field with another name. -/
theorem inItems_insert {name : String} (different : name ≠ "items") (value : Json) (path : String)
    (fields : Dict Json) : (inItems registry path (fields.insert name value)).1 =
      Dict.insert name value (inItems registry path fields).1 := by
  have passes (more : Dict Json) : (inItems registry path ((name, value) :: more)).1 =
      (name, value) :: (inItems registry path more).1 :=
    inItems_cons registry path (fun _ same => different (congrArg Prod.fst same)) more
  induction fields with
  | nil => exact passes []
  | cons field more ih =>
      by_cases isList : ∃ elements, field = ("items", .array elements)
      · obtain ⟨elements, rfl⟩ := isList
        simp only [Dict.insert, inItems, different.symm, if_true, if_false]
        split
        · rw [passes]
          simp only [inItems, if_true]
        · simp only [inItems, if_true]
      · have stays := inItems_cons registry path (not_exists.mp isList)
        obtain ⟨key, old⟩ := field
        rw [stays, Dict.insert, Dict.insert]
        split
        · exact passes more
        · split
          · rw [passes, stays]
          · rw [stays, ih]

/-- What is filled in at an item does not matter for its lists. -/
theorem inItems_fillFields (path : String) (fields : Dict Json) :
    (inItems registry path (fillFields registry fields)).1 =
      fillFields registry (inItems registry path fields).1 := by
  rw [fillFields, fillFields, replacement?_inItems]
  cases replacement? registry (.object fields) with
  | none => rfl
  | some id => exact inItems_insert registry (by decide) _ path fields

/-- An identifier that is still open is filled in with the same one again. -/
theorem fillFields_fillFields (fields : Dict Json) :
    fillFields registry (fillFields registry fields) = fillFields registry fields := by
  cases given : replacement? registry (.object fields) with
  | none =>
      have unchanged : fillFields registry fields = fields := by rw [fillFields, given]; rfl
      rw [unchanged, unchanged]
  | some id =>
      obtain ⟨itemType, typed, isComponent, known⟩ := exists_type_of_replacement? given
      have changed : fillFields registry fields = fields.insert "componentNodeId" (.string id) := by
        rw [fillFields, given]; rfl
      have stillTyped : LayoutItem.typeOf?
          (.object (fields.insert "componentNodeId" (.string id))) = some itemType := by
        rw [← typed]
        exact congrArg (·.bind Json.asString?)
          (Dict.get?_insert_of_ne (show "componentNodeId" ≠ "type" by decide) _ _)
      rw [changed, fillFields, replacement?_eq registry stillTyped isComponent, known]
      split
      · exact Dict.insert_insert _ _ _ _
      · rfl

mutual

/-- Filling in an item twice is doing it once. -/
theorem inItem_inItem (path other : String) : ∀ item : Json,
    (inItem registry path (inItem registry other item).1).1 = (inItem registry other item).1
  | .object fields => by
      rw [inItem_object_fst, inItem_object_fst, inItems_fillFields,
        inItems_inItems (itemsPath path) (itemsPath other) fields, fillFields_fillFields]
  | .null | .bool _ | .number _ | .string _ | .array _ => rfl

theorem inItems_inItems (path other : String) : ∀ fields : List (String × Json),
    (inItems registry path (inItems registry other fields).1).1 = (inItems registry other fields).1
  | [] => rfl
  | (key, value) :: more => by
      have later := inItems_inItems path other more
      cases value with
      | array elements =>
          have inside := inElements_inElements path other 0 0 elements
          rw [inItems]
          split
          · next isItems => simp only [inItems, isItems, if_true, inside]
          · next notItems => simp only [inItems, notItems, if_false, later]
      | _ => simp only [inItems, later]

theorem inElements_inElements (path other : String) (index place : Nat) : ∀ elements : List Json,
    (inElements registry path index (inElements registry other place elements).1).1 =
      (inElements registry other place elements).1
  | [] => rfl
  | element :: more => by
      have first := inItem_inItem (elementPath path index) (elementPath other place) element
      have later := inElements_inElements path other (index + 1) (place + 1) more
      simp only [inElements, first, later]

end

variable {registry} {fields container : Dict Json}

/-- A layout with a container is filled in its items and in those of the container. -/
theorem resolve_of_container
    (present : Dict.get? "layoutContainer" (inItems registry "items" fields).1 =
      some (.object container)) :
    resolve registry (.object fields) =
      (.object (Dict.insert "layoutContainer"
        (.object (inItems registry "layoutContainer.items" container).1)
        (inItems registry "items" fields).1),
        (inItems registry "items" fields).2 ++
          (inItems registry "layoutContainer.items" container).2) := by
  simp only [resolve, present]

/-- Any other layout is filled in its items. -/
theorem resolve_of_noContainer (absent : ∀ container,
    Dict.get? "layoutContainer" (inItems registry "items" fields).1 ≠ some (.object container)) :
    resolve registry (.object fields) =
      (.object (inItems registry "items" fields).1, (inItems registry "items" fields).2) := by
  simp only [resolve]

/-- Filling in the identifiers of a layout a second time changes nothing. -/
theorem resolve_resolve (registry : Registry) (layout : Json) :
    (resolve registry (resolve registry layout).1).1 = (resolve registry layout).1 := by
  cases layout with
  | object fields =>
      have again := inItems_inItems registry "items" "items" fields
      by_cases holds : ∃ container,
          Dict.get? "layoutContainer" (inItems registry "items" fields).1 = some (.object container)
      · obtain ⟨container, present⟩ := holds
        have outer := inItems_insert registry (show "layoutContainer" ≠ "items" by decide)
          (.object (inItems registry "layoutContainer.items" container).1) "items"
          (inItems registry "items" fields).1
        rw [again] at outer
        rw [resolve_of_container present]
        rw [resolve_of_container (outer.symm ▸ Dict.get?_insert_self _ _ _), outer, inItems_inItems,
          Dict.insert_insert]
      · have absent := not_exists.mp holds
        rw [resolve_of_noContainer absent, resolve_of_noContainer (by rwa [again]), again]
  | _ => rfl

end Twice

section Erasure

mutual

/-- The value without its fields `componentNodeId`, at any depth. -/
def withoutIds : Json → Json
  | .array elements => .array (withoutIdsAll elements)
  | .object fields => .object (withoutIdFields fields)
  | json => json

def withoutIdFields : List (String × Json) → List (String × Json)
  | [] => []
  | (key, value) :: more =>
      if key = "componentNodeId" then withoutIdFields more
      else (key, withoutIds value) :: withoutIdFields more

def withoutIdsAll : List Json → List Json
  | [] => []
  | element :: more => withoutIds element :: withoutIdsAll more

end

/-- Another identifier is seen by no one who leaves identifiers out. -/
theorem withoutIdFields_insert (id : Json) (fields : Dict Json) :
    withoutIdFields (fields.insert "componentNodeId" id) = withoutIdFields fields := by
  induction fields with
  | nil => rfl
  | cons field more ih =>
      obtain ⟨key, value⟩ := field
      rw [Dict.insert]
      split
      · next same => simp only [withoutIdFields, same, if_true]
      · split
        · simp only [withoutIdFields, if_true]
        · simp only [withoutIdFields, ih]

theorem withoutIdFields_append (front back : Dict Json) :
    withoutIdFields (front ++ back) = withoutIdFields front ++ withoutIdFields back := by
  induction front with
  | nil => rfl
  | cons field more ih =>
      obtain ⟨key, value⟩ := field
      rw [List.cons_append, withoutIdFields, withoutIdFields, ih]
      split <;> rfl

/-- What is filled in are identifiers only. -/
theorem withoutIdFields_fillFields (fields : Dict Json) :
    withoutIdFields (fillFields registry fields) = withoutIdFields fields := by
  rw [fillFields]
  cases replacement? registry (.object fields) with
  | none => rfl
  | some id => exact withoutIdFields_insert _ fields

mutual

/-- An item is the same before and after, but for identifiers. -/
theorem withoutIds_inItem (path : String) : ∀ item : Json,
    withoutIds (inItem registry path item).1 = withoutIds item
  | .object fields => by
      rw [inItem_object_fst, withoutIds, withoutIds, withoutIdFields_fillFields,
        withoutIdFields_inItems (itemsPath path) fields]
  | .null | .bool _ | .number _ | .string _ | .array _ => rfl

theorem withoutIdFields_inItems (path : String) : ∀ fields : List (String × Json),
    withoutIdFields (inItems registry path fields).1 = withoutIdFields fields
  | [] => rfl
  | (key, value) :: more => by
      have later := withoutIdFields_inItems path more
      cases value with
      | array elements =>
          have inside := withoutIdsAll_inElements path 0 elements
          rw [inItems]
          split
          · simp only [withoutIdFields, withoutIds, inside]
          · simp only [withoutIdFields, later]
      | _ => simp only [inItems, withoutIdFields, later]

theorem withoutIdsAll_inElements (path : String) (index : Nat) : ∀ elements : List Json,
    withoutIdsAll (inElements registry path index elements).1 = withoutIdsAll elements
  | [] => rfl
  | element :: more => by
      have first := withoutIds_inItem (elementPath path index) element
      have later := withoutIdsAll_inElements path (index + 1) more
      simp only [inElements, withoutIdsAll, first, later]

end

/-- The keys of the fields stay as they are. -/
theorem keys_inItems (path : String) (fields : Dict Json) :
    Dict.keys (inItems registry path fields).1 = fields.keys := by
  induction fields with
  | nil => rfl
  | cons field more ih =>
      by_cases isList : ∃ elements, field = ("items", .array elements)
      · obtain ⟨elements, rfl⟩ := isList
        simp only [inItems, if_true, Dict.keys, List.map_cons]
      · rw [inItems_cons registry path (not_exists.mp isList)]
        exact congrArg (field.1 :: ·) ih

/-- Apart from identifiers a layout with sorted fields stays as it is. -/
theorem withoutIds_resolve {layout : Json} (sorted : ∀ fields, layout = .object fields →
    Dict.Sorted fields) : withoutIds (resolve registry layout).1 = withoutIds layout := by
  cases layout with
  | object fields =>
      have outer := withoutIdFields_inItems registry "items" fields
      by_cases holds : ∃ container,
          Dict.get? "layoutContainer" (inItems registry "items" fields).1 = some (.object container)
      · obtain ⟨container, present⟩ := holds
        have stillSorted : Dict.Sorted (inItems registry "items" fields).1 := by
          rw [Dict.Sorted, keys_inItems]
          exact sorted fields rfl
        obtain ⟨front, back, here, inserted⟩ := Dict.insert_of_get? stillSorted present
        rw [here, withoutIdFields_append] at outer
        rw [resolve_of_container present, inserted, withoutIds, withoutIds, withoutIdFields_append,
          ← outer]
        simp only [withoutIdFields, withoutIds, withoutIdFields_inItems]
      · rw [resolve_of_noContainer (not_exists.mp holds), withoutIds, withoutIds, outer]
  | _ => rfl

end Erasure

end IdResolution

end DesignScene
