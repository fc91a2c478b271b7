/-
This file compares the items that cannot be rendered with the faults that block a layout.
-/
import DesignScene.Proofs.Document.Tree
import DesignScene.Proofs.Review.Structure
import DesignScene.Scalar.Exact

namespace DesignScene

open LayoutDocument Structure

namespace LayoutItem

/-- The item could not be read, or it is a component without an identifier. -/
def IsDefective {α : Type} : LayoutItem α → Prop
  | malformed .. => True
  | component spec => spec.componentId = none
  | _ => False

/-- The value is read as a defective item. -/
def IsDefectiveValue (item : Json) : Prop :=
  match typeOf? item with
  | none => True
  | some itemType => isComponentType itemType = true ∧ componentId? item = none

/-- The identifier of the value is not empty, but it is nothing but white space. -/
def HasBlankId (item : Json) : Prop :=
  ∃ id, item.field? "componentNodeId" = some (.string id) ∧ id ≠ "" ∧ Text.isBlankText id = true

/-- The check does not visit the item, or it takes its blank identifier for one. -/
def Overlooks (layout item : Json) : Prop := ¬Visits layout item ∨ HasBlankId item

variable {α : Type} [Scalar α]

/-- A shape has no defect. -/
theorem isDefective_ofShape (shape : Shape) (fields : Dict Json) (children : List (LayoutItem α)) :
    ¬(ofShape shape fields children).IsDefective := by
  cases children <;> exact id

/-- Whether an item is defective follows from its value and not from its path. -/
theorem isDefective_ofJson (path : String) (item : Json) :
    (ofJson path item : LayoutItem α).IsDefective ↔ IsDefectiveValue item := by
  cases typed : typeOf? item with
  | none =>
      obtain ⟨reason, read⟩ := ofJson_untyped (α := α) path typed
      simp [read, IsDefective, IsDefectiveValue, typed]
  | some itemType =>
      obtain ⟨fields, rfl⟩ := eq_object_of_typeOf? typed
      simp only [IsDefectiveValue, typed]
      rcases type_cases itemType with isContainer | isText | isShape | isComponent
      · rw [ofJson_container typed isContainer]
        simp [IsDefective, isComponentType_eq, isContainer]
      · rw [ofJson_text typed isText]
        simp [IsDefective, isComponentType_eq, isText]
      · rw [ofJson_shape typed isShape]
        simp [isDefective_ofShape, isComponentType_eq, isShape]
      · rw [ofJson_component typed isComponent]
        simp [IsDefective, isComponent, componentId?, Json.asObject?, ComponentSpec.ofFields]

/-- The check takes every defect for a fault, unless the identifier is blank. -/
theorem isFaulty_of_isDefectiveValue {item : Json} (defective : IsDefectiveValue item)
    (notBlank : ¬HasBlankId item) : IsFaulty item := by
  cases typed : nonEmptyText? "type" item with
  | none => exact isFaulty_of_untyped typed
  | some itemType =>
      obtain ⟨sameType, -⟩ := Option.filter_eq_some_iff.mp typed
      obtain ⟨fields, rfl⟩ := eq_object_of_typeOf? sameType
      have sameType : typeOf? (.object fields) = some itemType := sameType
      rw [IsDefectiveValue, sameType] at defective
      obtain ⟨isComponent, unnamed⟩ := defective
      rw [IsFaulty, typed]
      refine ⟨isComponent, ?_⟩
      cases named : nonEmptyText? "componentNodeId" (.object fields) with
      | none => rfl
      | some id =>
          obtain ⟨isText, nonEmpty⟩ := Option.filter_eq_some_iff.mp named
          obtain ⟨value, found, text⟩ := Option.bind_eq_some_iff.mp isText
          cases value with
          | string text =>
              cases text
              have nonEmpty : id ≠ "" := by simpa using nonEmpty
              cases blank : Text.isBlankText id with
              | true => exact absurd ⟨id, found, nonEmpty, blank⟩ notBlank
              | false =>
                  have present : Dict.get? "componentNodeId" fields = some (Json.string id) := found
                  simp [componentId?, Json.asObject?, readComponentId, presentField,
                    DesignScene.presentField, present, Json.asString?, blank] at unnamed
          | _ => cases text

end LayoutItem

namespace LayoutDocument

variable {α : Type} [Scalar α]

/-- A document has a defect exactly if a place of its layout is read as one. -/
theorem holds_isDefective_iff {layout : Json} {document : LayoutDocument α}
    (read : ofJson layout = .ok document) :
    (∃ node, document.Holds node ∧ node.IsDefective) ↔
      ∃ item, IsItemOf layout item ∧ LayoutItem.IsDefectiveValue item := by
  constructor
  · rintro ⟨node, held, defective⟩
    obtain ⟨item, path, placed, rfl⟩ := exists_value_of_holds read held
    exact ⟨item, placed, (LayoutItem.isDefective_ofJson path item).mp defective⟩
  · rintro ⟨item, placed, defective⟩
    obtain ⟨path, held⟩ := exists_path_of_isItemOf read placed
    exact ⟨_, held, (LayoutItem.isDefective_ofJson path item).mpr defective⟩

/-- The review blocks a document with a defect exactly if a fault is seen beside every overlooked one. -/
theorem defects_block_iff {text : String} {layout : Json} {document : LayoutDocument α}
    (parsed : Json.parse text = some layout) (read : ofJson layout = .ok document) :
    ((∃ node, document.Holds node ∧ node.IsDefective) →
      ∀ (config : ReviewConfig α) (registry : Option Registry), config.checkStructure = true →
        ∃ issue ∈ (Review.ofText config registry text).errors,
          issue.severity.isBlocking = true) ↔
      ((∃ item, IsItemOf layout item ∧ LayoutItem.IsDefectiveValue item ∧
          LayoutItem.Overlooks layout item) →
        HasRootFault layout ∨ ∃ item, Visits layout item ∧ IsFaulty item) := by
  rw [holds_isDefective_iff read, Review.blocked_iff parsed, blocks_check]
  constructor
  · rintro blocked ⟨item, placed, defective, -⟩
    exact blocked ⟨item, placed, defective⟩
  · rintro overlooked ⟨item, placed, defective⟩
    by_cases seen : Visits layout item ∧ ¬LayoutItem.HasBlankId item
    · exact .inr ⟨item, seen.1, LayoutItem.isFaulty_of_isDefectiveValue defective seen.2⟩
    · refine overlooked ⟨item, placed, defective, ?_⟩
      simpa only [LayoutItem.Overlooks, Classical.not_and_iff_not_or_not, Classical.not_not] using seen

/-- An item without a type is seen where it stands in a field for items. -/
theorem defects_block_untyped : ∃ (layout : Json) (document : LayoutDocument Rat),
    Json.parse "\x7b\"items\":[\x7b\x7d]\x7d" = some layout ∧ ofJson layout = .ok document ∧
      ∀ (config : ReviewConfig Rat) (registry : Option Registry), config.checkStructure = true →
        ∃ issue ∈ (Review.ofText config registry "\x7b\"items\":[\x7b\x7d]\x7d").errors,
          issue.severity.isBlocking = true := by
  have parsed : Json.parse "\x7b\"items\":[\x7b\x7d]\x7d" =
      some (.object [("items", .array [.object []])]) := by
    simp only [Json.parse, Json.readText, String.reduceToList]
    rfl
  have read : ofJson (.object [("items", .array [.object []])]) =
      .ok (⟨ContainerSpec.standard, [.malformed "items[0]" "Item is missing a type"]⟩ :
        LayoutDocument Rat) := rfl
  have defective : ∃ node, LayoutDocument.Holds (α := Rat)
      ⟨ContainerSpec.standard, [.malformed "items[0]" "Item is missing a type"]⟩ node ∧
        node.IsDefective :=
    ⟨_, ⟨_, List.mem_singleton.mpr rfl, .refl⟩, trivial⟩
  have visited : Visits (.object [("items", .array [.object []])]) (.object []) :=
    ⟨_, ⟨_, rfl, List.mem_singleton.mpr rfl⟩, .refl⟩
  exact ⟨_, _, parsed, read,
    (defects_block_iff parsed read).mpr (fun _ => .inr ⟨_, visited, trivial⟩) defective⟩

/-- A container whose only child has no type and stands in the field `children`. -/
def childrenLayout : Json :=
  .object
    [("items", .array
      [.object [("children", .array [.object []]), ("type", .string "frame")]])]

/-- A defect in a field `children` blocks nothing. -/
theorem defect_below_children_not_blocked :
    ¬∀ (text : String) (layout : Json) (document : LayoutDocument Rat),
      Json.parse text = some layout → ofJson layout = .ok document →
        (∃ node, document.Holds node ∧ node.IsDefective) →
          ∀ (config : ReviewConfig Rat) (registry : Option Registry),
            config.checkStructure = true →
              ∃ issue ∈ (Review.ofText config registry text).errors,
                issue.severity.isBlocking = true := by
  intro every
  have parsed : Json.parse
      "\x7b\"items\":[\x7b\"type\":\"frame\",\"children\":[\x7b\x7d]\x7d]\x7d" =
        some childrenLayout := by
    simp only [Json.parse, Json.readText, String.reduceToList]
    rfl
  obtain ⟨document, read⟩ : ∃ document : LayoutDocument Rat,
      ofJson childrenLayout = .ok document := ⟨_, rfl⟩
  have placed : IsItemOf childrenLayout (.object []) :=
    ⟨_, List.mem_singleton.mpr rfl, .single (List.mem_singleton.mpr rfl)⟩
  have defective := (holds_isDefective_iff read).mpr ⟨_, placed, trivial⟩
  have blocked := (Review.blocked_iff parsed).mp (every _ _ _ parsed read defective)
  have quiet : Structure.check childrenLayout = [] := rfl
  rw [quiet] at blocked
  exact blocks_nil blocked

end LayoutDocument

end DesignScene
