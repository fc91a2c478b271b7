/-
This file says which documents have finite sizes.
-/
import DesignScene.Proofs.Decimal.Range
import DesignScene.Proofs.Document.SizeSources
import DesignScene.Proofs.Json.Numbers

namespace DesignScene

section Unbounded

/-- The text of a numeral that stands for no number, or for one that is out of range. -/
def IsUnbounded (source : Json) : Prop :=
  ∃ text numeral, source = .string text ∧ sizeNumeral? text = some numeral ∧ ¬numeral.IsBounded

/-- A text gives a finite size unless its numeral is out of range. -/
theorem givesFinite_iff {source : Json}
    (numbers : ∀ number, source = .number number →
      (Scalar.ofNumber number : Float).isFinite = true) :
    GivesFinite source ↔ ¬IsUnbounded source := by
  cases source with
  | number number =>
      refine iff_of_true ?_ (by simp [IsUnbounded])
      intro size isSize
      cases isSize
      exact numbers number rfl
  | string text =>
      rw [GivesFinite, readSize_string]
      cases read : sizeNumeral? text with
      | none => simp [IsUnbounded, read]
      | some numeral =>
          have unbounded : IsUnbounded (.string text) ↔ ¬numeral.IsBounded := by
            simp [IsUnbounded, read]
          rw [unbounded, not_not, ← Decimal.Numeral.isFinite_toFloat_iff]
          simp
  | null | bool | array | object =>
      refine iff_of_true ?_ (by simp [IsUnbounded])
      intro size isSize
      cases isSize

section Numbers

open Json

variable {number : Number} {source : Json} {fields own : Dict Json}

/-- The numbers in the source of a size are numbers of its object. -/
theorem hasNumber_of_sizeSource? {names : List String} (inside : HasNumber number source)
    (found : sizeSource? names fields = some source) : HasNumber number (.object fields) := by
  obtain ⟨name, -, isField⟩ := List.exists_of_findSome?_eq_some found
  exact inside.of_get? (Option.filter_eq_some_iff.mp isField).1

theorem hasNumber_of_mem_sizeSources {names : List (List String)}
    (inside : HasNumber number source) (member : source ∈ sizeSources names fields) :
    HasNumber number (.object fields) := by
  obtain ⟨field, -, found⟩ := List.mem_filterMap.mp member
  exact hasNumber_of_sizeSource? inside found

/-- Each source of a container is found in its own settings or in its item. -/
theorem hasNumber_of_mem_containerSources (inside : HasNumber number source)
    (member : source ∈ containerSources own fields) :
    HasNumber number (.object own) ∨ HasNumber number (.object fields) := by
  rcases List.mem_append.mp member with settings | directive
  · exact .inl (hasNumber_of_mem_sizeSources inside settings)
  · obtain ⟨names, -, found⟩ := List.mem_filterMap.mp directive
    rcases Option.or_eq_some_iff.mp found with first | ⟨-, second⟩
    · exact .inl (hasNumber_of_sizeSource? inside first)
    · exact .inr (hasNumber_of_sizeSource? inside second)

/-- Merged fields have no numbers of their own. -/
theorem hasNumber_of_mergedFields (inside : HasNumber number (.object (mergedFields fields))) :
    HasNumber number (.object fields) := by
  unfold mergedFields at inside
  split at inside
  · next properties found =>
      cases inside with
      | field member inside =>
          rcases Dict.mem_of_mem_overlay member with property | own
          · exact HasNumber.of_get? (.field property inside) found
          · exact .field own inside
  · exact inside

/-- The own settings of an item have no numbers of their own. -/
theorem hasNumber_of_ownSettings (inside : HasNumber number (.object (ownSettings fields))) :
    HasNumber number (.object fields) := by
  unfold ownSettings at inside
  cases found : fields.get? "layoutContainer" with
  | none =>
      rw [found] at inside
      exact inside
  | some value =>
      rw [found] at inside
      cases value with
      | object inner => exact inside.of_get? found
      | _ => exact inside

/-- The numbers that the sizes of an item are read from stand in the item. -/
theorem hasNumber_of_mem_itemSources {item : Json} (inside : HasNumber number source)
    (member : source ∈ itemSources item) : HasNumber number item := by
  cases typed : LayoutItem.typeOf? item with
  | none =>
      rw [itemSources, typed] at member
      cases member
  | some itemType =>
      obtain ⟨fields, rfl⟩ := LayoutItem.eq_object_of_typeOf? typed
      rw [itemSources, typed] at member
      have merged {names : List (List String)}
          (member : source ∈ sizeSources names (mergedFields fields)) :
          HasNumber number (.object fields) :=
        hasNumber_of_mergedFields (hasNumber_of_mem_sizeSources inside member)
      dsimp only at member
      split_ifs at member
      · rcases hasNumber_of_mem_containerSources inside member with ofOwn | ofFields
        · exact hasNumber_of_ownSettings ofOwn
        · exact ofFields
      · exact merged member
      · rw [List.append_nil] at member
        exact (List.mem_append.mp member).elim merged merged
      · rcases List.mem_append.mp member with boxed | directive
        · exact (List.mem_append.mp boxed).elim merged merged
        · exact merged directive
      · cases member

theorem hasNumber_of_mem_ownList? {value element : Json} {elements : List Json}
    (inside : HasNumber number element) (own : LayoutItem.ownList? value = some elements)
    (member : element ∈ elements) : HasNumber number value := by
  obtain ⟨list, isField, isArray⟩ := Option.bind_eq_some_iff.mp own
  have inList := inside.of_mem_asArray? isArray member
  rcases Option.or_eq_some_iff.mp isField with items | ⟨-, children⟩
  · exact inList.of_field? items
  · exact inList.of_field? children

/-- The numbers of an inner value are numbers of the item. -/
theorem hasNumber_of_mem_innerValues {item inner : Json} (inside : HasNumber number inner)
    (member : inner ∈ LayoutItem.innerValues item) : HasNumber number item := by
  have listed {found : Option (List Json)} (member : inner ∈ found.getD []) :
      ∃ elements, found = some elements ∧ inner ∈ elements := by
    cases found with
    | none => cases member
    | some elements => exact ⟨elements, rfl, member⟩
  unfold LayoutItem.innerValues at member
  split at member
  · cases member
  · split_ifs at member
    · obtain ⟨elements, found, among⟩ := listed member
      rcases Option.or_eq_some_iff.mp found with own | ⟨-, nested⟩
      · exact hasNumber_of_mem_ownList? inside own among
      · obtain ⟨container, isField, own⟩ := Option.bind_eq_some_iff.mp nested
        exact (hasNumber_of_mem_ownList? inside own among).of_field? isField
    · obtain ⟨elements, own, among⟩ := listed member
      exact hasNumber_of_mem_ownList? inside own among
    · cases member

/-- The numbers of a root value are numbers of the layout. -/
theorem hasNumber_of_mem_rootValues {layout top : Json} (inside : HasNumber number top)
    (member : top ∈ LayoutDocument.rootValues layout) : HasNumber number layout := by
  unfold LayoutDocument.rootValues at member
  cases found : (LayoutDocument.itemsField? layout).bind asArray? with
  | none =>
      rw [found] at member
      cases member
  | some elements =>
      rw [found, Option.getD_some] at member
      obtain ⟨list, isField, isArray⟩ := Option.bind_eq_some_iff.mp found
      have inList := inside.of_mem_asArray? isArray member
      rcases Option.or_eq_some_iff.mp isField with beside | ⟨-, nested⟩
      · exact inList.of_field? beside
      · obtain ⟨container, isContainer, inner⟩ := Option.bind_eq_some_iff.mp nested
        exact (inList.of_field? inner).of_field? isContainer

/-- The numbers of an item at any depth are numbers of the layout. -/
theorem hasNumber_of_isItemOf {layout item : Json} (inside : HasNumber number item)
    (placed : LayoutDocument.IsItemOf layout item) : HasNumber number layout := by
  obtain ⟨top, member, below⟩ := placed
  have inTop : HasNumber number top := by
    clear member
    induction below using Relation.ReflTransGen.head_induction_on with
    | refl => exact inside
    | head step _ ih => exact hasNumber_of_mem_innerValues ih step
  exact hasNumber_of_mem_rootValues inTop member

/-- The numbers that the sizes of a document are read from stand in its layout. -/
theorem hasNumber_of_isSizeSource {layout : Json} (inside : HasNumber number source)
    (isSource : LayoutDocument.IsSizeSource layout source) : HasNumber number layout := by
  rcases isSource with ofRoot | ⟨item, placed, ofItem⟩
  · unfold LayoutDocument.rootSources at ofRoot
    cases found : (layout.field? "layoutContainer").bind asObject? with
    | none =>
        rw [found] at ofRoot
        cases ofRoot
    | some own =>
        rw [found] at ofRoot
        obtain ⟨container, isField, isObject⟩ := Option.bind_eq_some_iff.mp found
        cases container with
        | object fields =>
            cases isObject
            have inOwn := (hasNumber_of_mem_containerSources inside ofRoot).elim id id
            exact inOwn.of_field? isField
        | _ => cases isObject
  · exact hasNumber_of_isItemOf (hasNumber_of_mem_itemSources inside ofItem) placed

end Numbers

namespace LayoutDocument

/-- All sizes of a document are finite exactly if none is read from the text of an unbounded numeral. -/
theorem sizes_finite_iff {text : String} {layout : Json} {document : LayoutDocument Float}
    (parsed : Json.parse text = some layout) (read : ofJson layout = .ok document) :
    (∀ size, document.HasSize size → size.isFinite = true) ↔
      ∀ source, IsSizeSource layout source → ¬IsUnbounded source := by
  rw [finite_document_iff read]
  refine forall₂_congr fun source isSource => givesFinite_iff fun number same => ?_
  subst same
  exact Json.isFinite_of_parse parsed (hasNumber_of_isSizeSource .self isSource)

/-- A frame that is as wide as a text says in pixels. -/
theorem sizes_finite_of_pixels :
    ∃ (layout : Json) (document : LayoutDocument Float),
      Json.parse "\x7b\"items\":[\x7b\"type\":\"frame\",\"width\":\"320px\"\x7d]\x7d" =
        some layout ∧ ofJson layout = .ok document ∧
      ∀ size, document.HasSize size → size.isFinite = true := by
  have parsed :
      Json.parse "\x7b\"items\":[\x7b\"type\":\"frame\",\"width\":\"320px\"\x7d]\x7d" =
        some (.object [("items", .array [.object
          [("type", .string "frame"), ("width", .string "320px")]])]) := by
    simp only [Json.parse, Json.readText, String.reduceToList]
    rfl
  obtain ⟨document, read⟩ : ∃ document : LayoutDocument Float, ofJson
      (.object [("items", .array [.object
          [("type", .string "frame"), ("width", .string "320px")]])]) = .ok document :=
    ⟨_, rfl⟩
  refine ⟨_, document, parsed, read, (sizes_finite_iff parsed read).mpr ?_⟩
  intro source isSource unbounded
  rcases isSource with ofRoot | ⟨item, ⟨top, member, below⟩, ofItem⟩
  · cases ofRoot
  · obtain rfl := List.mem_singleton.mp member
    rcases Relation.ReflTransGen.cases_head below with rfl | ⟨inner, step, -⟩
    · obtain rfl := List.mem_singleton.mp ofItem
      obtain ⟨text, numeral, same, read, outside⟩ := unbounded
      cases same
      have pixels : sizeNumeral? "320px" = some (.finite false 320 0) := by
        decide
      cases pixels.symm.trans read
      have small : ((320 : Nat) : Rat) * (10 : Rat) ^ (0 : Int) <
          2 ^ 53 * (2 : Rat) ^ (0 : Int) := by
        norm_num
      exact outside (lt_of_lt_of_le small (Decimal.mul_two_zpow_le_overflowFrom (by decide)))
    · cases step

/-- A padding that is written as infinite is kept. -/
theorem infinite_padding :
    ¬∀ (text : String) (layout : Json) (document : LayoutDocument Float),
      Json.parse text = some layout → ofJson layout = .ok document →
        ∀ size, document.HasSize size → size.isFinite = true := by
  intro every
  have parsed : Json.parse "\x7b\"layoutContainer\":\x7b\"paddingTop\":\"inf\"\x7d\x7d" =
      some (.object [("layoutContainer", .object [("paddingTop", .string "inf")])]) := by
    simp only [Json.parse, Json.readText, String.reduceToList]
    rfl
  obtain ⟨document, read⟩ : ∃ document : LayoutDocument Float, ofJson
      (.object [("layoutContainer", .object [("paddingTop", .string "inf")])]) = .ok document :=
    ⟨_, rfl⟩
  have finite := (finite_root_iff read).mp
    (fun size member => every _ _ document parsed read size (.inl member)) (.string "inf")
    List.mem_cons_self
  have infinite : sizeNumeral? "inf" = some (.infinite false) := by
    decide
  rw [GivesFinite, readSize_string, infinite] at finite
  exact absurd (finite _ rfl) (by decide)

end LayoutDocument

end Unbounded

end DesignScene
