/-
This file says which values of a layout are read as items, and as what.
-/
import DesignScene.Document.Ingest
import DesignScene.Proofs.Dict
import Mathlib.Logic.Relation

namespace DesignScene

namespace Json

/-- The element stands in the array that the value has under this name. -/
def Lists (name : String) (value element : Json) : Prop :=
  ∃ elements, value.field? name = some (.array elements) ∧ element ∈ elements

/-- What stands in a field is smaller than the object. -/
theorem sizeOf_get?_lt {name : String} {fields : Dict Json} {inner : Json}
    (found : fields.get? name = some inner) : sizeOf inner < sizeOf fields := by
  induction fields with
  | nil => cases found
  | cons field more ih =>
      obtain ⟨key, value⟩ := field
      simp only [Dict.get?] at found
      split at found
      · cases found
        simp only [List.cons.sizeOf_spec, Prod.mk.sizeOf_spec]
        omega
      · have smaller := ih found
        simp only [List.cons.sizeOf_spec]
        omega

/-- A field is smaller than its object. -/
theorem sizeOf_field?_lt {name : String} {value inner : Json}
    (found : value.field? name = some inner) : sizeOf inner < sizeOf value := by
  cases value with
  | object fields =>
      have smaller : sizeOf inner < sizeOf fields := sizeOf_get?_lt found
      simp only [object.sizeOf_spec]
      omega
  | _ => cases found

/-- A listed element is smaller than the value that lists it. -/
theorem Lists.sizeOf_lt {name : String} {value element : Json}
    (listed : Lists name value element) : sizeOf element < sizeOf value := by
  obtain ⟨elements, found, member⟩ := listed
  have inArray := sizeOf_field?_lt found
  have inList := List.sizeOf_lt_of_mem member
  simp only [array.sizeOf_spec] at inArray
  omega

/-- A property holds of every value if it passes from all smaller values to a value. -/
@[elab_as_elim] theorem induction_sizeOf {property : Json → Prop} (value : Json)
    (step : ∀ value, (∀ inner, sizeOf inner < sizeOf value → property inner) → property value) :
    property value :=
  (measure (sizeOf : Json → Nat)).wf.induction value step

/-- It holds of lists that are joined exactly if it holds of one of them. -/
structure IsSomewhere {β : Type} (holds : List β → Prop) : Prop where
  nil : ¬holds []
  append : ∀ first second, holds (first ++ second) ↔ holds first ∨ holds second

namespace IsSomewhere

variable {β : Type} {holds : List β → Prop} {given : Json → Prop}

/-- A walk over a list finds something exactly if the visit of an element does. -/
theorem of_elements (somewhere : IsSomewhere holds) {visit : Nat → Json → List β}
    {walk : Nat → List Json → List β} (empty : ∀ index, walk index [] = [])
    (step : ∀ index element more,
      walk index (element :: more) = visit index element ++ walk (index + 1) more)
    {elements : List Json}
    (each : ∀ element ∈ elements, ∀ index, holds (visit index element) ↔ given element)
    (index : Nat) : holds (walk index elements) ↔ ∃ element ∈ elements, given element := by
  induction elements generalizing index with
  | nil => simp [empty, somewhere.nil]
  | cons element more ih =>
      rw [step, somewhere.append, each element List.mem_cons_self,
        ih (fun other member => each other (List.mem_cons_of_mem _ member))]
      simp

/-- A walk over the array that a field may be. -/
theorem of_listed (somewhere : IsSomewhere holds) {walk : List Json → List β} {name : String}
    {fields : Dict Json}
    (each : ∀ elements, fields.get? name = some (.array elements) →
      (holds (walk elements) ↔ ∃ element ∈ elements, given element)) :
    holds ((fields.get? name).elim [] fun value => value.asArray?.elim [] walk) ↔
      ∃ element, Lists name (.object fields) element ∧ given element := by
  simp only [Lists, field?, asObject?, Option.bind_some]
  cases found : fields.get? name with
  | none => simp [somewhere.nil]
  | some value =>
      cases value with
      | array elements => simpa [asArray?] using each elements found
      | _ => simp [asArray?, somewhere.nil]

end IsSomewhere

end Json

/-- What is reached from a value is the value itself or is reached from the next one. -/
theorem exists_reached_iff {β : Type} {step : β → β → Prop} {holds : β → Prop} {start : β} :
    (∃ value, Relation.ReflTransGen step start value ∧ holds value) ↔
      holds start ∨ ∃ next, step start next ∧
        ∃ value, Relation.ReflTransGen step next value ∧ holds value := by
  constructor
  · rintro ⟨value, reached, held⟩
    rcases Relation.ReflTransGen.cases_head reached with rfl | ⟨next, first, later⟩
    · exact .inl held
    · exact .inr ⟨next, first, value, later, held⟩
  · rintro (held | ⟨next, first, value, later, held⟩)
    · exact ⟨start, .refl, held⟩
    · exact ⟨value, .head first later, held⟩

namespace LayoutItem

/-- The type of an item, if it is a text. -/
def typeOf? (item : Json) : Option String := (item.field? "type").bind Json.asString?

def isContainerType (itemType : String) : Bool :=
  itemType == "layoutContainer" || itemType == "frame"

def isTextType (itemType : String) : Bool := itemType == "native-text" || itemType == "text"

def isShapeType (itemType : String) : Bool :=
  itemType == "native-rectangle" || itemType == "native-circle"

/-- The list of a value is its field `items`, or `children` where it has no field `items`. -/
def ownList? (value : Json) : Option (List Json) :=
  ((value.field? "items").or (value.field? "children")).bind Json.asArray?

/-- The values that are read as the items inside an item. -/
def innerValues (item : Json) : List Json :=
  match typeOf? item with
  | none => []
  | some itemType =>
      if isContainerType itemType then
        ((ownList? item).or ((item.field? "layoutContainer").bind ownList?)).getD []
      else if isShapeType itemType then (ownList? item).getD []
      else []

/-- The identifier that a value is read with if it is a component. -/
def componentId? (item : Json) : Option String := item.asObject?.bind readComponentId

/-- An identifier stands in the first of two fields that is present. -/
theorem componentId?_eq (item : Json) :
    componentId? item =
      (((item.field? "componentNodeId").or (item.field? "componentId")).bind Json.asString?).filter
        fun id => !Text.isBlankText id := by
  cases item with
  | object fields =>
      simp only [componentId?, readComponentId, DesignScene.presentField, Json.field?, Json.asObject?,
        Option.bind_some, List.findSome?_cons, List.findSome?_nil]
      cases Dict.get? "componentNodeId" fields <;> cases Dict.get? "componentId" fields <;> rfl
  | _ => rfl

/-- The items inside an item that has been read. -/
def inner {α : Type} : LayoutItem α → List (LayoutItem α)
  | container _ children => children
  | _ => []

variable {α : Type} [Scalar α]

/-- The elements of an array are read one by one, each at its own path. -/
theorem ofElements_eq_mapIdx (path : String) (index : Nat) (elements : List Json) :
    (ofElements path index elements : List (LayoutItem α)) =
      elements.mapIdx fun place element => ofJson (elementPath path (index + place)) element := by
  induction elements generalizing index with
  | nil => rfl
  | cons element more ih =>
      rw [ofElements, ih, List.mapIdx_cons]
      simp only [Nat.add_zero, Nat.add_comm, Nat.add_left_comm]

/-- A node of a list is read from one of its elements. -/
theorem mem_ofElements {path : String} {index : Nat} {elements : List Json}
    {node : LayoutItem α} :
    node ∈ ofElements path index elements ↔
      ∃ place, ∃ within : place < elements.length,
        ofJson (elementPath path (index + place)) elements[place] = node := by
  rw [ofElements_eq_mapIdx]
  exact List.mem_mapIdx

theorem ofElements_eq_nil_iff {path : String} {index : Nat} {elements : List Json} :
    (ofElements path index elements : List (LayoutItem α)) = [] ↔ elements = [] := by
  rw [ofElements_eq_mapIdx, List.mapIdx_eq_nil_iff]

/-- Every element of an array is read at some path. -/
theorem exists_mem_ofElements {element : Json} {elements : List Json} (path : String) (index : Nat)
    (member : element ∈ elements) :
    ∃ place, (ofJson place element : LayoutItem α) ∈ ofElements path index elements := by
  obtain ⟨place, within, rfl⟩ := List.mem_iff_getElem.mp member
  exact ⟨_, mem_ofElements.mpr ⟨place, within, rfl⟩⟩

theorem listField_eq (name path : String) (fields : Dict Json) :
    (listField name path fields : Option (Option (List (LayoutItem α)))) =
      (Dict.get? name fields).map fun value => value.asArray?.map (ofElements path 0) := by
  have found : (listField name path fields : Option (Option (List (LayoutItem α)))) =
      (Dict.get? name fields).elim none fun value =>
        some (value.asArray?.map (ofElements path 0)) := by
    refine Dict.search_eq_elim_get? rfl (fun key value more => ?_) fields
    cases value <;> simp [listField, Json.asArray?]
  rw [found]
  cases Dict.get? name fields <;> rfl

/-- The own items of an object are read from its own list. -/
theorem chooseItems_listField (path : String) (fields : Dict Json) :
    chooseItems (listField "items" path fields) (listField "children" path fields) =
      (ownList? (.object fields)).map (ofElements (α := α) path 0) := by
  simp only [listField_eq, ownList?, Json.field?, Json.asObject?, Option.bind_some]
  cases Dict.get? "items" fields <;> cases Dict.get? "children" fields <;>
    simp [chooseItems]

/-- The nested items are those of the container in the item. -/
theorem nestedItems_eq (path : String) (fields : Dict Json) :
    (nestedItems path fields : Option (List (LayoutItem α))) =
      ((Dict.get? "layoutContainer" fields).bind ownList?).map (ofElements path 0) := by
  have found : (nestedItems path fields : Option (List (LayoutItem α))) =
      (Dict.get? "layoutContainer" fields).elim none fun value =>
        (ownList? value).map (ofElements path 0) := by
    refine Dict.search_eq_elim_get? rfl (fun key value more => ?_) fields
    cases value with
    | object inner => simp [nestedItems, chooseItems_listField]
    | _ => simp [nestedItems, ownList?, Json.field?, Json.asObject?]
  rw [found]
  cases Dict.get? "layoutContainer" fields <;> rfl

/-- A shape has the children that it is read with. -/
theorem inner_ofShape (shape : Shape) (fields : Dict Json) (children : List (LayoutItem α)) :
    (ofShape shape fields children).inner = children := by
  cases children <;> rfl

section Kinds

variable {path itemType : String} {fields : Dict Json}

/-- Only an object has a type. -/
theorem eq_object_of_typeOf? {item : Json} (typed : typeOf? item = some itemType) :
    ∃ fields, item = .object fields := by
  cases item with
  | object fields => exact ⟨fields, rfl⟩
  | _ => cases typed

/-- The types that name no component are those of containers, texts and shapes. -/
theorem isComponentType_eq (itemType : String) :
    isComponentType itemType =
      !(isContainerType itemType || (isTextType itemType || isShapeType itemType)) := by
  simp only [isComponentType, nativeTypes, isContainerType, isTextType, isShapeType,
    List.contains_cons, List.contains_nil]
  cases itemType == "native-text" <;> cases itemType == "text" <;>
    cases itemType == "native-rectangle" <;> cases itemType == "native-circle" <;>
    cases itemType == "layoutContainer" <;> cases itemType == "frame" <;> rfl

/-- No text is a container. -/
theorem isContainerType_of_isTextType (isText : isTextType itemType = true) :
    isContainerType itemType = false := by
  simp only [isTextType, Bool.or_eq_true, beq_iff_eq] at isText
  rcases isText with rfl | rfl <;> decide

/-- No shape is a container or a text. -/
theorem isContainerType_of_isShapeType (isShape : isShapeType itemType = true) :
    isContainerType itemType = false ∧ isTextType itemType = false := by
  simp only [isShapeType, Bool.or_eq_true, beq_iff_eq] at isShape
  rcases isShape with rfl | rfl <;> decide

/-- An item without a type is malformed. -/
theorem ofJson_untyped (path : String) {item : Json} (untyped : typeOf? item = none) :
    ∃ reason, (ofJson path item : LayoutItem α) = malformed path reason := by
  cases item with
  | object fields =>
      have untyped : (Dict.get? "type" fields).bind Json.asString? = none := untyped
      exact ⟨_, by rw [ofJson, untyped]⟩
  | _ => exact ⟨_, rfl⟩

/-- A container is read with all of its inner values. -/
theorem ofJson_container (typed : typeOf? (.object fields) = some itemType)
    (isContainer : isContainerType itemType = true) :
    (ofJson path (.object fields) : LayoutItem α) =
      container (ContainerSpec.ofItem fields)
        (ofElements (itemsPath path) 0 (innerValues (.object fields))) := by
  have sameType : (Dict.get? "type" fields).bind Json.asString? = some itemType := typed
  rw [ofJson, innerValues, typed, sameType]
  have chain : (itemType == "layoutContainer" || itemType == "frame") = true := isContainer
  simp only [chain, isContainer, if_true, chooseItems_listField, nestedItems_eq, Json.field?,
    Json.asObject?, Option.bind_some]
  cases ownList? (.object fields) with
  | some values => simp
  | none => cases (Dict.get? "layoutContainer" fields).bind ownList? <;> simp [ofElements]

/-- A text is read without inner values. -/
theorem ofJson_text (typed : typeOf? (.object fields) = some itemType)
    (isText : isTextType itemType = true) :
    (ofJson path (.object fields) : LayoutItem α) =
      text (TextSpec.ofFields (mergedFields fields)) := by
  have sameType : (Dict.get? "type" fields).bind Json.asString? = some itemType := typed
  have notContainer : (itemType == "layoutContainer" || itemType == "frame") = false :=
    isContainerType_of_isTextType isText
  have chain : (itemType == "native-text" || itemType == "text") = true := isText
  rw [ofJson, sameType]
  simp only [notContainer, chain, if_true, Bool.false_eq_true, if_false]

/-- A shape is read with all of its inner values. -/
theorem ofJson_shape (typed : typeOf? (.object fields) = some itemType)
    (isShape : isShapeType itemType = true) :
    (ofJson path (.object fields) : LayoutItem α) =
      ofShape (shapeOfType itemType) (mergedFields fields)
        (ofElements (itemsPath path) 0 (innerValues (.object fields))) := by
  have sameType : (Dict.get? "type" fields).bind Json.asString? = some itemType := typed
  have notContainer := (isContainerType_of_isShapeType isShape).1
  have notText : (itemType == "native-text" || itemType == "text") = false :=
    (isContainerType_of_isShapeType isShape).2
  have outside : (itemType == "layoutContainer" || itemType == "frame") = false := notContainer
  have chain : (itemType == "native-rectangle" || itemType == "native-circle") = true := isShape
  rw [ofJson, innerValues, typed, sameType]
  simp only [outside, notContainer, notText, chain, isShape, if_true, Bool.false_eq_true, if_false,
    chooseItems_listField]
  cases ownList? (.object fields) <;> simp [ofElements]

/-- A component is read without inner values. -/
theorem ofJson_component (typed : typeOf? (.object fields) = some itemType)
    (isComponent : isComponentType itemType = true) :
    (ofJson path (.object fields) : LayoutItem α) =
      component (ComponentSpec.ofFields itemType fields) := by
  have sameType : (Dict.get? "type" fields).bind Json.asString? = some itemType := typed
  rw [isComponentType_eq] at isComponent
  simp only [isContainerType, isTextType, isShapeType, Bool.not_eq_true', Bool.or_eq_false_iff]
    at isComponent
  rw [ofJson, sameType]
  simp only [isComponent, Bool.or_self, Bool.false_eq_true, if_false]

/-- A text and a component have no inner values. -/
theorem innerValues_eq_nil (typed : typeOf? (.object fields) = some itemType)
    (notContainer : isContainerType itemType = false) (notShape : isShapeType itemType = false) :
    innerValues (.object fields) = [] := by
  simp [innerValues, typed, notContainer, notShape]

/-- Every type is that of a container, a text, a shape or a component. -/
theorem type_cases (itemType : String) :
    isContainerType itemType = true ∨ isTextType itemType = true ∨
      isShapeType itemType = true ∨ isComponentType itemType = true := by
  rw [isComponentType_eq]
  cases isContainerType itemType <;> cases isTextType itemType <;>
    cases isShapeType itemType <;> decide

end Kinds

/-- The items inside an item are read from its inner values and from nothing else. -/
theorem inner_ofJson (path : String) (item : Json) :
    (ofJson path item : LayoutItem α).inner =
      ofElements (itemsPath path) 0 (innerValues item) := by
  cases typed : typeOf? item with
  | none =>
      obtain ⟨reason, read⟩ := ofJson_untyped (α := α) path typed
      simp [read, innerValues, typed, inner, ofElements]
  | some itemType =>
      obtain ⟨fields, rfl⟩ := eq_object_of_typeOf? typed
      rcases type_cases itemType with isContainer | isText | isShape | isComponent
      · rw [ofJson_container typed isContainer, inner]
      · have notShape : isShapeType itemType = false := by
          cases isShape : isShapeType itemType with
          | false => rfl
          | true => rw [(isContainerType_of_isShapeType isShape).2] at isText; cases isText
        rw [ofJson_text typed isText,
          innerValues_eq_nil typed (isContainerType_of_isTextType isText) notShape]
        rfl
      · rw [ofJson_shape typed isShape, inner_ofShape]
      · rw [ofJson_component typed isComponent]
        simp only [isComponentType_eq, Bool.not_eq_true', Bool.or_eq_false_iff] at isComponent
        rw [innerValues_eq_nil typed isComponent.1 isComponent.2.2]
        rfl

/-- Only a container has items inside it. -/
theorem exists_container_of_innerValues (path : String) {item : Json}
    (present : innerValues item ≠ []) :
    ∃ spec, (ofJson path item : LayoutItem α) =
      container spec (ofElements (itemsPath path) 0 (innerValues item)) := by
  have inside := inner_ofJson (α := α) path item
  have nonempty : (ofElements (itemsPath path) 0 (innerValues item) : List (LayoutItem α)) ≠ [] :=
    ofElements_eq_nil_iff.not.mpr present
  cases read : (ofJson path item : LayoutItem α) with
  | container spec children =>
      rw [read] at inside
      exact ⟨spec, congrArg (container spec) inside⟩
  | _ =>
      rw [read] at inside
      exact absurd inside.symm nonempty

/-- A malformed item has the path that it is read with, and what it is read from has no type. -/
theorem eq_of_ofJson_malformed {path place reason : String} {item : Json}
    (read : (ofJson path item : LayoutItem α) = .malformed place reason) :
    place = path ∧ typeOf? item = none := by
  cases typed : typeOf? item with
  | none =>
      obtain ⟨why, malformed⟩ := ofJson_untyped (α := α) path typed
      rw [malformed] at read
      cases read
      exact ⟨rfl, rfl⟩
  | some itemType =>
      obtain ⟨fields, rfl⟩ := eq_object_of_typeOf? typed
      rcases type_cases itemType with isContainer | isText | isShape | isComponent
      · rw [ofJson_container typed isContainer] at read
        cases read
      · rw [ofJson_text typed isText] at read
        cases read
      · rw [ofJson_shape typed isShape] at read
        cases found : ofElements (α := α) (itemsPath path) 0 (innerValues (.object fields)) <;>
          rw [found] at read <;> cases read
      · rw [ofJson_component typed isComponent] at read
        cases read

/-- A component is read from a value whose type it keeps and whose identifier it has. -/
theorem component_of_ofJson {path : String} {item : Json} {spec : ComponentSpec}
    (read : (ofJson path item : LayoutItem α) = .component spec) :
    typeOf? item = some spec.typeName ∧ isComponentType spec.typeName = true ∧
      componentId? item = spec.componentId := by
  cases typed : typeOf? item with
  | none =>
      obtain ⟨reason, malformed⟩ := ofJson_untyped (α := α) path typed
      rw [malformed] at read
      cases read
  | some itemType =>
      obtain ⟨fields, rfl⟩ := eq_object_of_typeOf? typed
      rcases type_cases itemType with isContainer | isText | isShape | isComponent
      · rw [ofJson_container typed isContainer] at read
        cases read
      · rw [ofJson_text typed isText] at read
        cases read
      · rw [ofJson_shape typed isShape] at read
        cases found : ofElements (α := α) (itemsPath path) 0 (innerValues (.object fields)) <;>
          rw [found] at read <;> cases read
      · rw [ofJson_component typed isComponent] at read
        cases read
        exact ⟨rfl, isComponent, rfl⟩

end LayoutItem

end DesignScene
