/-
This file says what the filling in of identifiers makes of one item and of the root of a layout.
-/
import DesignScene.Document.Identifiers
import DesignScene.Proofs.Document.Prepare
import Mathlib.Data.List.TakeWhile

namespace DesignScene

open LayoutItem

/-- A digit is no blank character. -/
theorem isBlank_eq_false_of_isDigit {character : Char} (isDigit : character.isDigit = true) :
    Text.isBlank character = false := by
  have code : 48 ≤ character.toNat ∧ character.toNat ≤ 57 := by
    simp only [Char.isDigit, Bool.and_eq_true, decide_eq_true_eq, ge_iff_le,
      UInt32.le_iff_toNat_le] at isDigit
    exact isDigit
  have apart : ∀ range ∈ Text.blankRanges, range.2 < 48 ∨ 57 < range.1 := by decide
  rw [Text.isBlank, Text.inRanges, List.any_eq_false]
  intro range member inside
  simp only [Bool.and_eq_true, decide_eq_true_eq] at inside
  have outside := apart range member
  omega

/-- An identifier that no author made up has digits, so it is not blank. -/
theorem isBlankText_of_not_isPlaceholderId {id : String} (authored : isPlaceholderId id = false) :
    Text.isBlankText id = false := by
  simp only [isPlaceholderId, Bool.or_eq_false_iff, Bool.not_eq_false'] at authored
  obtain ⟨-, wellFormed⟩ := authored
  rw [isWellFormedId] at wellFormed
  split at wellFormed
  · simp only [Bool.and_eq_true, Bool.not_eq_true', List.isEmpty_eq_false_iff] at wellFormed
    obtain ⟨⟨digits, -⟩, -⟩ := wellFormed
    obtain ⟨digit, member⟩ := List.exists_mem_of_ne_nil _ digits
    have isDigit : digit.isDigit = true := List.mem_takeWhile_imp member
    have present : digit ∈ id.toList := (List.takeWhile_sublist _).subset member
    rw [Text.isBlankText, List.all_eq_false]
    exact ⟨digit, present, by simp [isBlank_eq_false_of_isDigit isDigit]⟩
  · cases wellFormed

namespace IdResolution

/-- The identifier that an item receives: a component whose own one is open takes that of its type. -/
def replacement? (registry : Registry) (item : Json) : Option String :=
  (typeOf? item).bind fun itemType =>
    if isComponentType itemType && isOpen ((item.field? "componentNodeId").bind Json.asString?) then
      registry.resolveType itemType
    else none

/-- What becomes of an item, which does not depend on its path. -/
def filled (registry : Registry) (item : Json) : Json := (inItem registry "" item).1

/-- An array has its elements filled in; another value of a field `items` stays as it is. -/
def filledList (registry : Registry) : Json → Json
  | .array elements => .array (elements.map (filled registry))
  | json => json

def fillFields (registry : Registry) (fields : Dict Json) : Dict Json :=
  (replacement? registry (.object fields)).elim fields fun id =>
    fields.insert "componentNodeId" (.string id)

variable (registry : Registry)

/-- A resolution names the identifier that is filled in. -/
theorem bind_resolved_ofFields (path : String) (fields : Dict Json) :
    (ofFields registry path fields).bind (·.resolved) = replacement? registry (.object fields) := by
  simp only [ofFields, replacement?, typeOf?, Json.field?, Json.asObject?,
    Option.bind_some]
  cases (fields.get? "type").bind Json.asString? with
  | none => rfl
  | some itemType =>
      simp only [Option.bind_some]
      split
      · next needed => simp [needed]
      · next settled => simp [settled]

theorem resolveFields_fst (path : String) (fields : Dict Json) (inner : List IdResolution) :
    (resolveFields registry path fields inner).1 = .object (fillFields registry fields) := by
  rw [resolveFields, fillFields, ← bind_resolved_ofFields registry path]
  cases ofFields registry path fields with
  | none => rfl
  | some resolution =>
      simp only [Option.bind_some, apply]
      cases resolution.resolved <;> rfl

/-- The lists of an item are filled in before its own identifier. -/
theorem inItem_object_fst (path : String) (fields : Dict Json) :
    (inItem registry path (.object fields)).1 =
      .object (fillFields registry (inItems registry (itemsPath path) fields).1) := by
  rw [inItem]
  exact resolveFields_fst registry _ _ _

mutual

/-- What is filled in does not depend on the path. -/
theorem inItem_path (path other : String) : ∀ item : Json,
    (inItem registry path item).1 = (inItem registry other item).1
  | .object fields => by
      rw [inItem_object_fst, inItem_object_fst, inItems_path (itemsPath path) (itemsPath other)]
  | .null | .bool _ | .number _ | .string _ | .array _ => rfl

theorem inItems_path (path other : String) : ∀ fields : List (String × Json),
    (inItems registry path fields).1 = (inItems registry other fields).1
  | [] => rfl
  | (key, value) :: more => by
      have later := inItems_path path other more
      cases value with
      | array elements =>
          have inside := inElements_path path other 0 0 elements
          rw [inItems, inItems]
          split
          · simp only [inside]
          · simp only [later]
      | _ => simp only [inItems, later]

theorem inElements_path (path other : String) (index place : Nat) : ∀ elements : List Json,
    (inElements registry path index elements).1 = (inElements registry other place elements).1
  | [] => rfl
  | element :: more => by
      have first := inItem_path (elementPath path index) (elementPath other place) element
      have later := inElements_path path other (index + 1) (place + 1) more
      simp only [inElements, first, later]

end

/-- Each element of a list is filled in. -/
theorem inElements_fst (path : String) (index : Nat) (elements : List Json) :
    (inElements registry path index elements).1 = elements.map (filled registry) := by
  induction elements generalizing index with
  | nil => rfl
  | cons element more ih =>
      simp only [inElements, ih, List.map_cons, filled, inItem_path registry (elementPath path index) ""]

/-- The walk changes nothing before the first field `items` that is an array. -/
theorem inItems_cons {field : String × Json} (path : String)
    (notList : ∀ elements, field ≠ ("items", .array elements)) (more : Dict Json) :
    (inItems registry path (field :: more)).1 = field :: (inItems registry path more).1 := by
  obtain ⟨key, value⟩ := field
  cases value with
  | array elements =>
      have different : key ≠ "items" := fun same => notList elements (by rw [same])
      simp only [inItems, different, if_false]
  | _ => simp only [inItems]

/-- The items of an item are filled in. -/
theorem get?_items_inItems (path : String) (fields : Dict Json) :
    Dict.get? "items" (inItems registry path fields).1 =
      (fields.get? "items").map (filledList registry) := by
  induction fields with
  | nil => rfl
  | cons field more ih =>
      by_cases isList : ∃ elements, field = ("items", .array elements)
      · obtain ⟨elements, rfl⟩ := isList
        simp only [inItems, Dict.get?, if_true, Option.map_some, filledList, inElements_fst]
      · obtain ⟨key, value⟩ := field
        rw [inItems_cons registry path (not_exists.mp isList), Dict.get?, Dict.get?]
        split
        · next same =>
            have kept : filledList registry value = value := by
              cases value with
              | array elements => exact absurd ⟨elements, by rw [same]⟩ isList
              | _ => rfl
            rw [Option.map_some, kept]
        · exact ih

/-- All other fields stay as they are. -/
theorem get?_inItems {name : String} (path : String) (different : "items" ≠ name)
    (fields : Dict Json) :
    Dict.get? name (inItems registry path fields).1 = fields.get? name :=
  (sameButItems_inItems registry path fields).rest name different

/-- What is filled in inside does not change what an item is given. -/
theorem replacement?_inItems (path : String) (fields : Dict Json) :
    replacement? registry (.object (inItems registry path fields).1) =
      replacement? registry (.object fields) := by
  have sameField (name : String) (different : "items" ≠ name) :
      (Json.object (inItems registry path fields).1).field? name =
        (Json.object fields).field? name :=
    get?_inItems registry path different fields
  rw [replacement?, replacement?, typeOf?, typeOf?,
    sameField "type" (by decide), sameField "componentNodeId" (by decide)]

theorem filled_object (fields : Dict Json) :
    filled registry (.object fields) =
      .object (fillFields registry (inItems registry (itemsPath "") fields).1) :=
  inItem_object_fst registry "" fields

/-- Filling in changes no field but the identifier. -/
theorem get?_fillFields {name : String} (different : "componentNodeId" ≠ name)
    (fields : Dict Json) : (fillFields registry fields).get? name = fields.get? name := by
  rw [fillFields]
  cases replacement? registry (.object fields) with
  | none => rfl
  | some id => exact Dict.get?_insert_of_ne different _ _

/-- An item keeps all its fields but its inner items and its identifier. -/
theorem field?_filled {name : String} (notItems : "items" ≠ name)
    (notId : "componentNodeId" ≠ name) (item : Json) :
    (filled registry item).field? name = item.field? name := by
  cases item with
  | object fields =>
      rw [filled_object]
      exact (get?_fillFields registry notId _).trans (get?_inItems registry _ notItems fields)
  | _ => rfl

/-- The items of a filled item are filled. -/
theorem field?_filled_items (item : Json) :
    (filled registry item).field? "items" = (item.field? "items").map (filledList registry) := by
  cases item with
  | object fields =>
      rw [filled_object]
      exact (get?_fillFields registry (by decide) _).trans (get?_items_inItems registry _ fields)
  | _ => rfl

/-- A filled item has the identifier that it is given, or else its own. -/
theorem field?_filled_componentNodeId (item : Json) :
    (filled registry item).field? "componentNodeId" =
      ((replacement? registry item).map Json.string).or (item.field? "componentNodeId") := by
  cases item with
  | object fields =>
      rw [filled_object]
      simp only [Json.field?, Json.asObject?, Option.bind_some, fillFields, replacement?_inItems]
      cases replacement? registry (.object fields) with
      | none => exact get?_inItems registry _ (by decide) fields
      | some id => exact Dict.get?_insert_self _ _ _
  | _ => rfl

/-- A filled item has the type that it had. -/
theorem typeOf?_filled (item : Json) :
    typeOf? (filled registry item) = typeOf? item := by
  rw [typeOf?, typeOf?, field?_filled registry (by decide) (by decide)]

/-- A component is given the identifier of its type if its own field is open. -/
theorem replacement?_eq {item : Json} {itemType : String} (typed : typeOf? item = some itemType)
    (isComponent : isComponentType itemType = true) :
    replacement? registry item =
      if isOpen ((item.field? "componentNodeId").bind Json.asString?) then
        registry.resolveType itemType
      else none := by
  simp [replacement?, typed, isComponent]

/-- Only a component with an open identifier receives one, which is that of its type. -/
theorem exists_type_of_replacement? {registry : Registry} {item : Json} {id : String}
    (given : replacement? registry item = some id) :
    ∃ itemType, typeOf? item = some itemType ∧ isComponentType itemType = true ∧
      registry.resolveType itemType = some id := by
  obtain ⟨itemType, typed, found⟩ := Option.bind_eq_some_iff.mp given
  split at found
  · next needed => exact ⟨itemType, typed, (Bool.and_eq_true_iff.mp needed).1, found⟩
  · cases found

/-- An identifier that no author made up is the one that a component is read with. -/
theorem componentId?_of_not_isOpen {item : Json}
    (authored : isOpen ((item.field? "componentNodeId").bind Json.asString?) = false) :
    isOpen (componentId? item) = false := by
  cases found : item.field? "componentNodeId" with
  | none => rw [found] at authored; cases authored
  | some value =>
      rw [found] at authored
      rw [componentId?_eq, found]
      cases value with
      | string id =>
          have visible := isBlankText_of_not_isPlaceholderId authored
          have kept : (some id).filter (fun id => !Text.isBlankText id) = some id := by
            simp [visible]
          exact (congrArg isOpen kept).trans authored
      | _ => cases authored

/-- A filled component is read with the identifier that it is given, unless that is blank. -/
theorem componentId?_filled (item : Json) :
    componentId? (filled registry item) =
      (replacement? registry item).elim (componentId? item) fun id =>
        (some id).filter fun id => !Text.isBlankText id := by
  rw [componentId?_eq, componentId?_eq, field?_filled_componentNodeId,
    field?_filled registry (by decide) (by decide)]
  cases replacement? registry item <;> rfl

/-- What becomes of the container of the root. -/
def filledContainer (registry : Registry) : Json → Json
  | .object fields => .object (inItems registry "layoutContainer.items" fields).1
  | json => json

theorem field?_filledContainer_items (container : Json) :
    (filledContainer registry container).field? "items" =
      (container.field? "items").map (filledList registry) := by
  cases container with
  | object fields => exact get?_items_inItems registry _ fields
  | _ => rfl

/-- A filled container keeps all fields but its items. -/
theorem field?_filledContainer {name : String} (different : "items" ≠ name) (container : Json) :
    (filledContainer registry container).field? name = container.field? name := by
  cases container with
  | object fields => exact get?_inItems registry _ different fields
  | _ => rfl

/-- The root keeps all its fields but its items and its container. -/
theorem field?_resolve {name : String} (notItems : "items" ≠ name)
    (notContainer : "layoutContainer" ≠ name) (layout : Json) :
    (resolve registry layout).1.field? name = layout.field? name := by
  cases layout with
  | object fields =>
      have same := get?_inItems registry "items" notItems fields
      simp only [resolve]
      split
      · exact (Dict.get?_insert_of_ne notContainer _ _).trans same
      · exact same
  | _ => rfl

/-- The items of a layout are filled in. -/
theorem field?_resolve_items (layout : Json) :
    (resolve registry layout).1.field? "items" =
      (layout.field? "items").map (filledList registry) := by
  cases layout with
  | object fields =>
      have filled := get?_items_inItems registry "items" fields
      simp only [resolve]
      split
      · exact (Dict.get?_insert_of_ne (by decide) _ _).trans filled
      · exact filled
  | _ => rfl

/-- So are those of its container. -/
theorem field?_resolve_layoutContainer (layout : Json) :
    (resolve registry layout).1.field? "layoutContainer" =
      (layout.field? "layoutContainer").map (filledContainer registry) := by
  cases layout with
  | object fields =>
      have same := get?_inItems registry "items"
        (show "items" ≠ "layoutContainer" by decide) fields
      have outer : (Json.object fields).field? "layoutContainer" =
          Dict.get? "layoutContainer" fields := rfl
      simp only [resolve, same, outer]
      cases found : Dict.get? "layoutContainer" fields with
      | none => exact same.trans found
      | some value =>
          cases value with
          | object container => exact Dict.get?_insert_self _ _ _
          | _ => exact same.trans found
  | _ => rfl

/-- A registry that knows one button. -/
def buttonRegistry : Registry := Registry.ofList [{ componentId := "20:1", name := "Button" }]

end IdResolution

end DesignScene
