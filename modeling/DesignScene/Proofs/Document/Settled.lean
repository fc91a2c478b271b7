/-
This file says for which layouts every component with an open identifier gets the one of its type.
-/
import DesignScene.Proofs.Document.Filled
import DesignScene.Scalar.Exact

namespace DesignScene

open Relation LayoutDocument LayoutItem

namespace IdResolution

variable (registry : Registry) {layout item : Json}

/-- The field `items` of the value is an array, and the pass goes into it. -/
def HasItems (value : Json) : Prop := ∃ elements, value.field? "items" = some (.array elements)

/-- A filled list has the filled elements. -/
theorem asArray?_filledList (value : Json) :
    (filledList registry value).asArray? = value.asArray?.map (List.map (filled registry)) := by
  cases value <;> rfl

/-- An item with a field `items` has its filled elements in the end. -/
theorem ownList?_of_hasItems (listed : HasItems item) :
    ∃ elements, ownList? item = some elements ∧
      ownList? (filled registry item) = some (elements.map (filled registry)) := by
  obtain ⟨elements, found⟩ := listed
  refine ⟨elements, ?_, ?_⟩
  · simp [ownList?, found, Json.asArray?]
  · simp [ownList?, field?_filled_items, found, filledList, Json.asArray?]

/-- The list of any other item stays as it is. -/
theorem ownList?_of_not_hasItems (unlisted : ¬HasItems item) :
    ownList? (filled registry item) = ownList? item := by
  rw [ownList?, ownList?, field?_filled_items, field?_filled registry (by decide) (by decide)]
  cases found : item.field? "items" with
  | none => rfl
  | some value =>
      cases value with
      | array elements => exact absurd ⟨elements, found⟩ unlisted
      | _ => rfl

/-- The inner values of an item with a field `items` are filled. -/
theorem innerValues_of_hasItems (listed : HasItems item) :
    innerValues (filled registry item) = (innerValues item).map (filled registry) := by
  obtain ⟨elements, own, filledOwn⟩ := ownList?_of_hasItems registry listed
  rw [innerValues, innerValues, typeOf?_filled, own, filledOwn]
  cases typeOf? item with
  | none => rfl
  | some itemType =>
      simp only [Option.some_or, Option.getD_some]
      split_ifs <;> rfl

/-- The pass changes nothing inside an item whose items stand in another field. -/
theorem innerValues_of_not_hasItems (unlisted : ¬HasItems item) :
    innerValues (filled registry item) = innerValues item := by
  rw [innerValues, innerValues, typeOf?_filled, ownList?_of_not_hasItems registry unlisted,
    field?_filled registry (by decide) (by decide)]

/-- The items of a layout are filled. -/
theorem itemsField?_resolve (layout : Json) :
    itemsField? (resolve registry layout).1 = (itemsField? layout).map (filledList registry) := by
  rw [itemsField?, itemsField?, field?_resolve_items, field?_resolve_layoutContainer]
  cases layout.field? "items" <;> cases layout.field? "layoutContainer" <;>
    simp [field?_filledContainer_items]

/-- The root values of a layout are filled. -/
theorem rootValues_resolve (layout : Json) :
    rootValues (resolve registry layout).1 = (rootValues layout).map (filled registry) := by
  rw [rootValues, rootValues, itemsField?_resolve]
  cases itemsField? layout with
  | none => rfl
  | some value =>
      simp only [Option.map_some, Option.bind_some, asArray?_filledList]
      cases value.asArray? <;> rfl

/-- The pass fills in the item: every item around it has a field `items` that is an array. -/
def Visits (layout item : Json) : Prop :=
  ∃ top ∈ rootValues layout,
    ReflTransGen (fun outside inside => HasItems outside ∧ inside ∈ innerValues outside) top item

/-- The item is read, but it stands in an item whose own items the pass does not look for. -/
def Misses (layout item : Json) : Prop :=
  ∃ outside, Visits layout outside ∧ ¬HasItems outside ∧ ∃ inside ∈ innerValues outside,
    ReflTransGen (fun outside inside => inside ∈ innerValues outside) inside item

/-- A value that is visited is an item of the result, filled. -/
theorem isItemOf_of_visits (visited : Visits layout item) :
    IsItemOf (resolve registry layout).1 (filled registry item) := by
  obtain ⟨top, member, below⟩ := visited
  have first : filled registry top ∈ rootValues (resolve registry layout).1 := by
    rw [rootValues_resolve]
    exact List.mem_map_of_mem member
  refine ⟨_, first, ?_⟩
  induction below with
  | refl => exact .refl
  | tail _ step ih =>
      refine ih.tail ?_
      rw [innerValues_of_hasItems registry step.1]
      exact List.mem_map_of_mem step.2

/-- The items of the result are those that are visited, filled in, and those that are missed. -/
theorem isItemOf_resolve_iff {value : Json} :
    IsItemOf (resolve registry layout).1 value ↔
      (∃ item, Visits layout item ∧ filled registry item = value) ∨ Misses layout value := by
  constructor
  · rintro ⟨top, member, below⟩
    induction below with
    | refl =>
        rw [rootValues_resolve] at member
        obtain ⟨item, first, rfl⟩ := List.mem_map.mp member
        exact .inl ⟨item, ⟨item, first, .refl⟩, rfl⟩
    | tail _ step ih =>
        rcases ih with ⟨item, visited, rfl⟩ | ⟨outside, visited, unlisted, inside, inner, below⟩
        · by_cases listed : HasItems item
          · rw [innerValues_of_hasItems registry listed] at step
            obtain ⟨inside, inner, rfl⟩ := List.mem_map.mp step
            obtain ⟨start, first, reached⟩ := visited
            exact .inl ⟨inside, ⟨start, first, reached.tail ⟨listed, inner⟩⟩, rfl⟩
          · rw [innerValues_of_not_hasItems registry listed] at step
            exact .inr ⟨item, visited, listed, _, step, .refl⟩
        · exact .inr ⟨outside, visited, unlisted, inside, inner, below.tail step⟩
  · rintro (⟨item, visited, rfl⟩ | ⟨outside, visited, unlisted, inside, inner, below⟩)
    · exact isItemOf_of_visits registry visited
    · obtain ⟨top, first, reached⟩ := isItemOf_of_visits registry visited
      rw [← innerValues_of_not_hasItems registry unlisted] at inner
      exact ⟨top, first, (reached.tail inner).trans below⟩

/-- A component with an open identifier has the one of its type, if there is one. -/
def IsSettled (registry : Registry) (item : Json) : Prop :=
  ∀ itemType, typeOf? item = some itemType → isComponentType itemType = true →
    isOpen (componentId? item) = true →
      componentId? item = registry.resolveType itemType ∨ registry.resolveType itemType = none

/-- What the pass visits is settled unless the registry has a blank identifier for it. -/
theorem isSettled_filled_iff (item : Json) :
    IsSettled registry (filled registry item) ↔
      ∀ id, replacement? registry item = some id → Text.isBlankText id = false := by
  constructor
  · intro settled id given
    obtain ⟨itemType, typed, isComponent, known⟩ := exists_type_of_replacement? given
    cases blank : Text.isBlankText id with
    | false => rfl
    | true =>
        have unnamed : componentId? (filled registry item) = none := by
          simp [componentId?_filled, given, blank]
        rw [← typeOf?_filled registry] at typed
        rcases settled itemType typed isComponent (by rw [unnamed]; rfl) with same | unknown
        · rw [unnamed, known] at same
          cases same
        · rw [known] at unknown
          cases unknown
  · intro visible itemType typed isComponent opened
    rw [typeOf?_filled] at typed
    rw [componentId?_filled] at opened ⊢
    have known := replacement?_eq registry typed isComponent
    cases given : replacement? registry item with
    | some id =>
        left
        obtain ⟨otherType, sameType, -, found⟩ := exists_type_of_replacement? given
        cases typed.symm.trans sameType
        simp [visible id given, found]
    | none =>
        right
        rw [given] at opened known
        split at known
        · exact known.symm
        · next authored =>
            have closed := componentId?_of_not_isOpen (Bool.eq_false_iff.mpr authored)
            exact absurd (opened.symm.trans closed) (by decide)

end IdResolution

namespace LayoutDocument

open IdResolution

variable {α : Type} [Scalar α]

/-- The components of a document are settled exactly if the values that it is read from are. -/
theorem components_settled_iff (registry : Registry) {layout : Json}
    {document : LayoutDocument α} (read : ofJson layout = .ok document) :
    (∀ spec, document.Holds (.component spec) → isOpen spec.componentId = true →
      spec.componentId = registry.resolveType spec.typeName ∨
        registry.resolveType spec.typeName = none) ↔
      ∀ item, IsItemOf layout item → IsSettled registry item := by
  constructor
  · intro every item placed itemType typed isComponent opened
    obtain ⟨path, held⟩ := exists_path_of_isItemOf read placed
    obtain ⟨fields, rfl⟩ := eq_object_of_typeOf? typed
    rw [ofJson_component typed isComponent] at held
    exact every _ held opened
  · intro every spec held opened
    obtain ⟨item, path, placed, same⟩ := exists_value_of_holds read held
    obtain ⟨typed, isComponent, named⟩ := component_of_ofJson same.symm
    rw [← named] at opened ⊢
    exact every item placed _ typed isComponent opened

/-- All components have identifiers after the pass exactly if the missed ones had theirs before it. -/
theorem open_components_settled_iff (registry : Registry) {layout : Json}
    {original : LayoutDocument α} (read : ofJson layout = .ok original) :
    ∃ document : LayoutDocument α, ofJson (resolve registry layout).1 = .ok document ∧
      ((∀ spec, document.Holds (.component spec) → isOpen spec.componentId = true →
          spec.componentId = registry.resolveType spec.typeName ∨
            registry.resolveType spec.typeName = none) ↔
        (∀ item, Misses layout item → IsSettled registry item) ∧
          ∀ item id, Visits layout item → replacement? registry item = some id →
            Text.isBlankText id = false) := by
  obtain ⟨document, reread⟩ := (ofJson_resolve_iff (α := α) registry layout).mpr ⟨original, read⟩
  refine ⟨document, reread, (components_settled_iff registry reread).trans ?_⟩
  constructor
  · intro every
    refine ⟨fun item missed => every item ((isItemOf_resolve_iff registry).mpr (.inr missed)), ?_⟩
    intro item id visited
    exact (isSettled_filled_iff registry item).mp (every _ (isItemOf_of_visits registry visited)) id
  · rintro ⟨missed, visible⟩ value placed
    rcases (isItemOf_resolve_iff registry).mp placed with ⟨item, visited, rfl⟩ | unseen
    · exact (isSettled_filled_iff registry item).mpr fun id => visible item id visited
    · exact missed value unseen

/-- A button without an identifier. -/
def openButton : Json := .object [("type", .string "button")]

/-- A button in a field `items` gets its identifier. -/
theorem open_components_settled_button : ∃ original document : LayoutDocument Rat,
    ofJson (.object [("items", .array [openButton])]) = .ok original ∧
      ofJson (resolve buttonRegistry (.object [("items", .array [openButton])])).1 =
        .ok document ∧
      ∀ spec, document.Holds (.component spec) → isOpen spec.componentId = true →
        spec.componentId = buttonRegistry.resolveType spec.typeName ∨
          buttonRegistry.resolveType spec.typeName = none := by
  obtain ⟨original, read⟩ : ∃ original : LayoutDocument Rat,
      ofJson (.object [("items", .array [openButton])]) = .ok original := ⟨_, rfl⟩
  obtain ⟨document, reread, settled⟩ := open_components_settled_iff buttonRegistry read
  refine ⟨original, document, read, reread, settled.mpr ⟨?_, ?_⟩⟩
  · rintro item ⟨outside, ⟨top, member, below⟩, -, inside, inner, -⟩
    cases List.mem_singleton.mp member
    rcases ReflTransGen.cases_head below with rfl | ⟨next, ⟨-, step⟩, -⟩
    · cases inner
    · cases step
  · rintro item id ⟨top, member, below⟩ given
    cases List.mem_singleton.mp member
    rcases ReflTransGen.cases_head below with rfl | ⟨next, ⟨-, step⟩, -⟩
    · have known : replacement? buttonRegistry openButton = some "20:1" := by decide
      cases known.symm.trans given
      decide
    · cases step

/-- A frame that has a button without an identifier in its field `children`. -/
def openButtonBelowChildren : Json :=
  .object
    [("items", .array
      [.object [("children", .array [openButton]), ("type", .string "frame")]])]

/-- A button in a field `children` stays without its identifier. -/
theorem open_component_below_children_not_settled :
    ¬∀ (registry : Registry) (layout : Json) (original document : LayoutDocument Rat),
      ofJson layout = .ok original → ofJson (resolve registry layout).1 = .ok document →
        ∀ spec, document.Holds (.component spec) → isOpen spec.componentId = true →
          spec.componentId = registry.resolveType spec.typeName ∨
            registry.resolveType spec.typeName = none := by
  intro every
  have unchanged : (resolve buttonRegistry openButtonBelowChildren).1 = openButtonBelowChildren := rfl
  obtain ⟨document, read⟩ : ∃ document : LayoutDocument Rat,
      ofJson openButtonBelowChildren = .ok document := ⟨_, rfl⟩
  have settled := (components_settled_iff buttonRegistry read).mp
    (every _ _ _ _ read (unchanged.symm ▸ read))
  have placed : IsItemOf openButtonBelowChildren openButton :=
    ⟨_, List.mem_singleton.mpr rfl, .single (List.mem_singleton.mpr rfl)⟩
  rcases settled openButton placed "button" rfl (by decide) (by decide) with known | unknown
  · exact absurd known (by decide)
  · exact absurd unknown (by decide)

end LayoutDocument

end DesignScene
