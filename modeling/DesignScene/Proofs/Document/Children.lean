/-
This file says when the elements of a field `children` are read as the children of their item.
-/
import DesignScene.Proofs.Document.Places
import DesignScene.Scalar.Exact

namespace DesignScene.LayoutItem

variable {α : Type} [Scalar α] {path itemType : String} {item : Json} {elements list : List Json}

section Lists

/-- Without the field `items` the field `children` is the list of an item. -/
theorem ownList?_of_children (absent : item.field? "items" = none)
    (authored : item.field? "children" = some (.array elements)) :
    ownList? item = some elements := by
  rw [ownList?, absent, Option.none_or, authored]
  rfl

/-- A field `items` that is no array hides the field `children`. -/
theorem ownList?_of_unusable {value : Json} (present : item.field? "items" = some value)
    (unusable : ∀ list, value ≠ .array list) : ownList? item = none := by
  rw [ownList?, present, Option.some_or]
  cases value with
  | array list => exact absurd rfl (unusable list)
  | _ => rfl

/-- A container or a shape with a list of its own has the inner values of this list. -/
theorem innerValues_of_ownList? (typed : typeOf? item = some itemType)
    (isParent : isContainerType itemType = true ∨ isShapeType itemType = true)
    (own : ownList? item = some list) : innerValues item = list := by
  rw [innerValues, typed]
  show (if isContainerType itemType then _ else _) = list
  rw [own]
  split
  · rfl
  · next outside =>
      rw [if_pos (isParent.resolve_left outside)]
      rfl

/-- Without a list of its own only a container has inner values, in its field `layoutContainer`. -/
theorem innerValues_of_no_ownList? (typed : typeOf? item = some itemType)
    (nothing : ownList? item = none) :
    innerValues item =
      if isContainerType itemType then ((item.field? "layoutContainer").bind ownList?).getD []
      else [] := by
  rw [innerValues, typed]
  show (if isContainerType itemType then _ else _) = _
  rw [nothing]
  split
  · rfl
  · exact ite_self []

/-- An item is read as a container of these elements exactly if its inner values are read so. -/
theorem exists_container_iff (nonempty : elements ≠ []) :
    (∃ spec, (ofJson path item : LayoutItem α) =
        container spec (ofElements (itemsPath path) 0 elements)) ↔
      (ofElements (itemsPath path) 0 (innerValues item) : List (LayoutItem α)) =
        ofElements (itemsPath path) 0 elements := by
  constructor
  · intro ⟨spec, read⟩
    rw [← inner_ofJson, read, inner]
  · intro same
    have present : innerValues item ≠ [] := by
      intro nothing
      rw [nothing] at same
      exact nonempty (ofElements_eq_nil_iff.mp same.symm)
    obtain ⟨spec, read⟩ := exists_container_of_innerValues (α := α) path present
    exact ⟨spec, same ▸ read⟩

end Lists

/-- The field `children` is read exactly if there is no field `items`, or the container lists the same. -/
theorem children_read_iff (typed : typeOf? item = some itemType)
    (isParent : isContainerType itemType = true ∨ isShapeType itemType = true)
    (unusable : ∀ list, item.field? "items" ≠ some (.array list))
    (authored : item.field? "children" = some (.array elements)) (nonempty : elements ≠ []) :
    (∃ spec, (ofJson path item : LayoutItem α) =
        container spec (ofElements (itemsPath path) 0 elements)) ↔
      item.field? "items" = none ∨
        isContainerType itemType = true ∧ ∃ others,
          (item.field? "layoutContainer").bind ownList? = some others ∧
            (ofElements (itemsPath path) 0 others : List (LayoutItem α)) =
              ofElements (itemsPath path) 0 elements := by
  rw [exists_container_iff nonempty]
  cases present : item.field? "items" with
  | none =>
      rw [innerValues_of_ownList? typed isParent (ownList?_of_children present authored)]
      simp only [true_or]
  | some value =>
      have noArray : ∀ list, value ≠ .array list := fun list same =>
        unusable list (same ▸ present)
      rw [innerValues_of_no_ownList? typed (ownList?_of_unusable present noArray)]
      have empty : ([] : List (LayoutItem α)) ≠ ofElements (itemsPath path) 0 elements := by
        intro same
        exact nonempty (ofElements_eq_nil_iff.mp same.symm)
      cases isContainer : isContainerType itemType with
      | false => simpa [ofElements] using empty
      | true =>
          cases (item.field? "layoutContainer").bind ownList? with
          | none => simpa [ofElements] using empty
          | some others => simp

def greeting : Json := .object [("text", .string "Hi"), ("type", .string "text")]

/-- A circle with a text in its field `children`. -/
def circleWithGreeting : Json :=
  .object [("children", .array [greeting]), ("type", .string "native-circle")]

/-- The text in the circle is read. -/
theorem children_read_circle : ∃ spec, (ofJson "items[0]" circleWithGreeting : LayoutItem Rat) =
    container spec (ofElements "items[0].items" 0 [greeting]) :=
  (children_read_iff (show typeOf? circleWithGreeting = some "native-circle" from rfl)
    (.inr (by decide)) (fun _ listed => by cases listed) rfl (by decide)).mpr (.inl rfl)

/-- A frame with a text in its field `children` and a field `items` that is `null`. -/
def frameWithNullItems : Json :=
  .object [("children", .array [greeting]), ("items", .null), ("type", .string "frame")]

/-- A text in the field `children` is lost where the field `items` is `null`. -/
theorem null_items_hide_children :
    ¬∀ (path itemType : String) (item : Json) (elements : List Json), typeOf? item = some itemType →
      (isContainerType itemType = true ∨ isShapeType itemType = true) →
        (∀ list, item.field? "items" ≠ some (.array list)) →
          item.field? "children" = some (.array elements) → elements ≠ [] →
            ∃ spec, (ofJson path item : LayoutItem Rat) =
              container spec (ofElements (itemsPath path) 0 elements) := by
  intro every
  obtain ⟨spec, read⟩ := every "items[0]" "frame" frameWithNullItems [greeting] rfl
    (.inl (by decide)) (fun _ listed => by cases listed) rfl (by decide)
  have nothing : (ofJson "items[0]" frameWithNullItems : LayoutItem Rat).inner = [] := by
    rw [inner_ofJson]
    rfl
  rw [read] at nothing
  exact absurd (ofElements_eq_nil_iff.mp nothing) (by decide)

end DesignScene.LayoutItem
