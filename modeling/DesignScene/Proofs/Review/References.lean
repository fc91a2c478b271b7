/-
This file compares the components that a document refers to with the identifiers that are checked.
-/
import DesignScene.Proofs.Document.Tree
import DesignScene.Review.References
import DesignScene.Scalar.Exact

namespace DesignScene

open Relation

namespace References

/-- The walk goes on from a value to the elements of its field `items` and to its container. -/
def LeadsTo (value next : Json) : Prop :=
  Json.Lists "items" value next ∨ value.field? "layoutContainer" = some next

def Reaches (layout value : Json) : Prop := ReflTransGen LeadsTo layout value

/-- The value has this identifier in its own field for it. -/
def Names (value : Json) (id : String) : Prop :=
  value.field? "componentNodeId" = some (.string id)

/-- The walk does not reach the item, or it does not read the field that its identifier is in. -/
def Overlooks (layout item : Json) : Prop :=
  ¬Reaches layout item ∨ item.field? "componentNodeId" = none

/-- A reference leads to something smaller. -/
theorem LeadsTo.sizeOf_lt {value next : Json} (leads : LeadsTo value next) :
    sizeOf next < sizeOf value := by
  rcases leads with listed | found
  · exact listed.sizeOf_lt
  · exact Json.sizeOf_field?_lt found

/-- The identifier is among those of the pairs. -/
def Gives (found : List (String × String)) (id : String) : Prop := id ∈ found.map Prod.fst

@[simp] theorem gives_nil (id : String) : ¬Gives [] id := by simp [Gives]

/-- An identifier is given by one of two parts. -/
@[simp] theorem gives_append (first second : List (String × String)) (id : String) :
    Gives (first ++ second) id ↔ Gives first id ∨ Gives second id := by
  simp only [Gives, List.map_append, List.mem_append]

theorem isSomewhere_gives (id : String) : Json.IsSomewhere fun found => Gives found id :=
  ⟨gives_nil id, fun first second => gives_append first second id⟩

/-- The items are walked through if they are an array. -/
theorem inItems_eq (path : String) (fields : Dict Json) :
    inItems path fields =
      (fields.get? "items").elim [] fun value =>
        value.asArray?.elim [] (inElements path 0) := by
  refine Dict.search_eq_elim_get? rfl (fun key value more => ?_) fields
  cases value <;> simp [inItems, Json.asArray?]

theorem inContainer_eq (path : String) (fields : Dict Json) :
    inContainer path fields = (fields.get? "layoutContainer").elim [] (collectFrom path) :=
  Dict.search_eq_elim_get? rfl (fun key value more => by simp [inContainer]) fields

/-- The item itself gives the identifier that it names. -/
theorem gives_own (path : String) (fields : Dict Json) (id : String) :
    Gives (((Dict.get? "componentNodeId" fields).bind Json.asString?).map fun found =>
      (found, path)).toList id ↔ Names (.object fields) id := by
  simp only [Names, Json.field?, Json.asObject?, Option.bind_some]
  cases Dict.get? "componentNodeId" fields with
  | none => simp
  | some value => cases value <;> simp [Gives, Json.asString?, eq_comm]

section Steps

variable {id : String} {given : Json → Prop}

/-- A list gives an identifier exactly if one of its elements does, whatever paths they have. -/
theorem gives_inItems {fields : Dict Json}
    (each : ∀ next, Json.Lists "items" (.object fields) next →
      ∀ path, Gives (collectFrom path next) id ↔ given next) (path : String) :
    Gives (inItems path fields) id ↔
      ∃ next, Json.Lists "items" (.object fields) next ∧ given next := by
  rw [inItems_eq]
  refine (isSomewhere_gives id).of_listed fun elements found => ?_
  exact (isSomewhere_gives id).of_elements (fun _ => rfl) (fun _ _ _ => rfl)
    (fun element member _ => each element ⟨elements, found, member⟩ _) 0

/-- The container gives what the walk through it gives. -/
theorem gives_inContainer {fields : Dict Json}
    (each : ∀ next, (Json.object fields).field? "layoutContainer" = some next →
      ∀ path, Gives (collectFrom path next) id ↔ given next) (path : String) :
    Gives (inContainer path fields) id ↔
      ∃ next, (Json.object fields).field? "layoutContainer" = some next ∧ given next := by
  rw [inContainer_eq]
  simp only [Json.field?, Json.asObject?, Option.bind_some] at each ⊢
  cases found : Dict.get? "layoutContainer" fields with
  | none => simp
  | some value => simpa using each value found path

end Steps

/-- The walk from a value gives the identifiers of all values that it reaches. -/
theorem gives_collectFrom (id : String) (value : Json) : ∀ path,
    Gives (collectFrom path value) id ↔ ∃ inner, Reaches value inner ∧ Names inner id := by
  induction value using Json.induction_sizeOf with
  | step value ih =>
      intro path
      rw [show (∃ inner, Reaches value inner ∧ Names inner id) ↔ _ from exists_reached_iff]
      cases value with
      | object fields =>
          rw [collectFrom, gives_append, gives_append, gives_own,
            gives_inItems (fun next listed => ih next (LeadsTo.sizeOf_lt (.inl listed))),
            gives_inContainer (fun next found => ih next (LeadsTo.sizeOf_lt (.inr found)))]
          simp only [LeadsTo, or_and_right, exists_or, Reaches]
      | _ => simp [collectFrom, Names, LeadsTo, Json.Lists, Json.field?, Json.asObject?]

/-- The identifiers of a layout are those of the values that the walk reaches from it. -/
theorem gives_collect {layout : Json} {id : String} :
    Gives (collect layout) id ↔ ∃ value, Reaches layout value ∧ Names value id :=
  gives_collectFrom id layout "root"

end References

namespace LayoutItem

/-- The value is read as a component with this identifier. -/
def RefersTo (item : Json) (id : String) : Prop :=
  (∃ itemType, typeOf? item = some itemType ∧ isComponentType itemType = true) ∧
    componentId? item = some id

variable {α : Type} [Scalar α]

/-- Which component an item refers to follows from its value and not from its path. -/
theorem refersTo_iff (path : String) (item : Json) (id : String) :
    (∃ spec, (ofJson path item : LayoutItem α) = .component spec ∧ spec.componentId = some id) ↔
      RefersTo item id := by
  constructor
  · rintro ⟨spec, read, named⟩
    obtain ⟨typed, isComponent, same⟩ := component_of_ofJson read
    exact ⟨⟨_, typed, isComponent⟩, same.trans named⟩
  · rintro ⟨⟨itemType, typed, isComponent⟩, named⟩
    obtain ⟨fields, rfl⟩ := eq_object_of_typeOf? typed
    exact ⟨_, ofJson_component typed isComponent, named⟩

/-- A component whose identifier the walk does not read has it under the other name. -/
theorem names_of_refersTo {item : Json} {id : String} (refers : RefersTo item id)
    (present : item.field? "componentNodeId" ≠ none) : References.Names item id := by
  obtain ⟨⟨itemType, typed, -⟩, named⟩ := refers
  obtain ⟨fields, rfl⟩ := eq_object_of_typeOf? typed
  obtain ⟨value, found⟩ := Option.ne_none_iff_exists'.mp present
  have found : Dict.get? "componentNodeId" fields = some value := found
  simp only [componentId?, Json.asObject?, Option.bind_some, readComponentId,
    DesignScene.presentField, List.findSome?_cons, found] at named
  obtain ⟨isText, -⟩ := Option.filter_eq_some_iff.mp named
  cases value with
  | string text =>
      cases isText
      exact found
  | _ => cases isText

end LayoutItem

namespace LayoutDocument

open References

variable {α : Type} [Scalar α]

/-- A document has a component with an identifier exactly if an item refers to it. -/
theorem holds_component_iff {layout : Json} {document : LayoutDocument α}
    (read : ofJson layout = .ok document) (id : String) :
    (∃ spec, document.Holds (.component spec) ∧ spec.componentId = some id) ↔
      ∃ item, IsItemOf layout item ∧ LayoutItem.RefersTo item id := by
  constructor
  · rintro ⟨spec, held, named⟩
    obtain ⟨item, path, placed, same⟩ := exists_value_of_holds read held
    exact ⟨item, placed, (LayoutItem.refersTo_iff path item id).mp ⟨spec, same.symm, named⟩⟩
  · rintro ⟨item, placed, refers⟩
    obtain ⟨path, held⟩ := exists_path_of_isItemOf read placed
    obtain ⟨spec, same, named⟩ := (LayoutItem.refersTo_iff (α := α) path item id).mpr refers
    exact ⟨spec, same ▸ held, named⟩

/-- Every component is checked exactly if the walk reaches the identifiers of those that it overlooks. -/
theorem references_collected_iff {layout : Json} {document : LayoutDocument α}
    (read : ofJson layout = .ok document) :
    (∀ spec id, document.Holds (.component spec) → spec.componentId = some id →
      id ∈ (collect layout).map Prod.fst) ↔
      ∀ item id, IsItemOf layout item → LayoutItem.RefersTo item id → Overlooks layout item →
        ∃ value, Reaches layout value ∧ Names value id := by
  constructor
  · intro collected item id placed refers _
    obtain ⟨spec, held, named⟩ := (holds_component_iff read id).mpr ⟨item, placed, refers⟩
    exact gives_collect.mp (collected spec id held named)
  · intro covered spec id held named
    obtain ⟨item, placed, refers⟩ := (holds_component_iff read id).mp ⟨spec, held, named⟩
    apply gives_collect.mpr
    by_cases overlooked : Overlooks layout item
    · exact covered item id placed refers overlooked
    · obtain ⟨reached, present⟩ := not_or.mp overlooked
      exact ⟨item, Classical.not_not.mp reached, LayoutItem.names_of_refersTo refers present⟩

/-- A button with an identifier. -/
def namedButton : Json :=
  .object [("componentNodeId", .string "1:2"), ("type", .string "button")]

/-- A button in the field `items` of the root is collected. -/
theorem references_collected_button : ∃ document : LayoutDocument Rat,
    ofJson (.object [("items", .array [namedButton])]) = .ok document ∧
      ∀ spec id, document.Holds (.component spec) → spec.componentId = some id →
        id ∈ (collect (.object [("items", .array [namedButton])])).map Prod.fst := by
  obtain ⟨document, read⟩ : ∃ document : LayoutDocument Rat,
      ofJson (.object [("items", .array [namedButton])]) = .ok document := ⟨_, rfl⟩
  refine ⟨document, read, (references_collected_iff read).mpr ?_⟩
  rintro item id ⟨top, member, below⟩ refers overlooked
  cases List.mem_singleton.mp member
  rcases ReflTransGen.cases_head below with rfl | ⟨next, inside, -⟩
  · exact ⟨_, .single (.inl ⟨_, rfl, member⟩), LayoutItem.names_of_refersTo refers nofun⟩
  · cases inside

/-- A frame that has a button in its field `children`. -/
def buttonBelowChildren : Json :=
  .object
    [("items", .array
      [.object [("children", .array [namedButton]), ("type", .string "frame")]])]

/-- A button in a field `children` is not collected. -/
theorem reference_below_children_not_collected :
    ¬∀ (layout : Json) (document : LayoutDocument Rat), ofJson layout = .ok document →
      ∀ spec id, document.Holds (.component spec) → spec.componentId = some id →
        id ∈ (collect layout).map Prod.fst := by
  intro every
  obtain ⟨document, read⟩ : ∃ document : LayoutDocument Rat,
      ofJson buttonBelowChildren = .ok document := ⟨_, rfl⟩
  have placed : IsItemOf buttonBelowChildren namedButton :=
    ⟨_, List.mem_singleton.mpr rfl, .single (List.mem_singleton.mpr rfl)⟩
  have refers : LayoutItem.RefersTo namedButton "1:2" := ⟨⟨"button", rfl, by decide⟩, by decide⟩
  obtain ⟨spec, held, named⟩ := (holds_component_iff read "1:2").mpr ⟨_, placed, refers⟩
  have collected := every _ _ read spec "1:2" held named
  have nothing : collect buttonBelowChildren = [] := rfl
  rw [nothing] at collected
  cases collected

end LayoutDocument

end DesignScene
