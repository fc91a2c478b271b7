/-
This file says which components keep the identifier that their author gave them.
-/
import DesignScene.Proofs.Document.Filled

namespace DesignScene

namespace Json

/-- A step from a value to one of its parts. -/
inductive Step where
  | field (name : String)
  | element (index : Nat)

def part? (json : Json) : Step → Option Json
  | .field name => json.field? name
  | .element index => json.asArray?.bind fun elements => elements[index]?

/-- The value at a place, which is given by the steps that lead to it. -/
def at? (json : Json) : List Step → Option Json
  | [] => some json
  | step :: more => (json.part? step).bind fun part => part.at? more

end Json

namespace IdResolution

open Json LayoutItem

variable (registry : Registry)

/-- The steps lead to an item through fields `items` only. -/
inductive ToItem : List Step → Prop
  | listed (index : Nat) : ToItem [.field "items", .element index]
  | deeper (index : Nat) {more : List Step} (inside : ToItem more) :
      ToItem (.field "items" :: .element index :: more)

/-- The pass fills in the items of the root and those of its container. -/
inductive IsFilledPlace : List Step → Prop
  | root {place : List Step} (inside : ToItem place) : IsFilledPlace place
  | container {place : List Step} (inside : ToItem place) :
      IsFilledPlace (.field "layoutContainer" :: place)

/-- The fields that hold no items are the same in both values. -/
def KeepsFields (value result : Json) : Prop :=
  ∀ name, "items" ≠ name → "layoutContainer" ≠ name → result.field? name = value.field? name

theorem KeepsFields.refl (value : Json) : KeepsFields value value := fun _ _ _ => rfl

/-- The pass leaves the filled item where `value` is filled in, and else the same fields. -/
def Leaves (isFilled : Prop) (value : Json) (result : Option Json) : Prop :=
  ∃ left, result = some left ∧ (isFilled → left = filled registry value) ∧
    (¬isFilled → KeepsFields value left)

variable {registry} {isFilled : Prop} {value : Json}

/-- The filled item is left where it is filled in. -/
theorem leaves_filled (here : isFilled) :
    Leaves registry isFilled value (some (filled registry value)) :=
  ⟨_, rfl, fun _ => rfl, fun elsewhere => absurd here elsewhere⟩

/-- Elsewhere a value with the same fields is left. -/
theorem leaves_kept (elsewhere : ¬isFilled) {left : Json} (kept : KeepsFields value left) :
    Leaves registry isFilled value (some left) :=
  ⟨left, rfl, fun here => absurd here elsewhere, fun _ => kept⟩

/-- An element of a list of items is an item, and further steps lead from it to other ones. -/
theorem toItem_element_iff {index : Nat} {more : List Step} :
    ToItem (.field "items" :: .element index :: more) ↔ more = [] ∨ ToItem more := by
  constructor
  · intro leads
    cases leads with
    | listed => exact .inl rfl
    | deeper _ inside => exact .inr inside
  · rintro (rfl | inside)
    · exact .listed index
    · exact .deeper index inside

/-- No other field leads to items. -/
theorem not_toItem_field {name : String} {more : List Step} (different : "items" ≠ name) :
    ¬ToItem (.field name :: more) := by
  intro leads
  cases leads <;> exact different rfl

/-- A filled list has no fields, as it had none before. -/
theorem keepsFields_filledList (value : Json) :
    KeepsFields value (filledList registry value) := by
  intro name _ _
  cases value <;> rfl

/-- A value with fields is no array, so it stays as it is under the name `items`. -/
theorem filledList_of_field? {name : String} {value inner : Json}
    (found : value.field? name = some inner) : filledList registry value = value := by
  cases value with
  | array elements => cases found
  | _ => rfl

theorem asArray?_filled (item : Json) : (filled registry item).asArray? = item.asArray? := by
  cases item with
  | object fields => rw [filled_object]; rfl
  | _ => rfl

/-- Only the field `items` is filled in, so all other places are left as they were. -/
theorem leaves_step {value other inner : Json} {step : Step} {more : List Step}
    (found : value.at? (step :: more) = some inner) (elements : other.asArray? = value.asArray?)
    (same : ∀ name, step = .field name → "items" ≠ name → other.field? name = value.field? name)
    (inside : step = .field "items" →
      Leaves registry (ToItem (step :: more)) inner (other.at? (step :: more))) :
    Leaves registry (ToItem (step :: more)) inner (other.at? (step :: more)) := by
  cases step with
  | element index =>
      have unchanged : other.at? (.element index :: more) = some inner := by
        rw [at?, part?, elements]
        exact found
      rw [unchanged]
      exact leaves_kept nofun (.refl inner)
  | field name =>
      by_cases here : "items" = name
      · exact inside (by rw [here])
      · have unchanged : other.at? (.field name :: more) = some inner := by
          rw [at?, part?, same name rfl here]
          exact found
        rw [unchanged]
        exact leaves_kept (not_toItem_field here) (.refl inner)

/-- Below a field `items` that is filled in, its elements are filled in, and so are their own items. -/
theorem leaves_items : ∀ (rest : List Step) {value other target : Json},
    other.field? "items" = (value.field? "items").map (filledList registry) →
      value.at? (.field "items" :: rest) = some target → Step.field "componentNodeId" ∉ rest →
        Leaves registry (ToItem (.field "items" :: rest)) target (other.at? (.field "items" :: rest))
  | [], value, other, target, same, found, _ => by
      obtain ⟨items, present, ended⟩ := Option.bind_eq_some_iff.mp found
      cases ended
      have present : value.field? "items" = some target := present
      have left : other.at? [.field "items"] = some (filledList registry target) := by
        simp [at?, part?, same, present]
      rw [left]
      exact leaves_kept nofun (keepsFields_filledList target)
  | .field name :: more, value, other, target, same, found, _ => by
      obtain ⟨items, present, inside⟩ := Option.bind_eq_some_iff.mp found
      obtain ⟨part, isField, -⟩ := Option.bind_eq_some_iff.mp inside
      have present : value.field? "items" = some items := present
      have unchanged : other.field? "items" = some items := by
        rw [same, present, Option.map_some, filledList_of_field? isField]
      have left : other.at? (.field "items" :: .field name :: more) = some target := by
        rw [at?, part?, unchanged]
        exact inside
      rw [left]
      exact leaves_kept nofun (.refl target)
  | .element index :: more, value, other, target, same, found, outside => by
      obtain ⟨items, present, inside⟩ := Option.bind_eq_some_iff.mp found
      obtain ⟨element, listed, below⟩ := Option.bind_eq_some_iff.mp inside
      obtain ⟨elements, isArray, member⟩ := Option.bind_eq_some_iff.mp listed
      have present : value.field? "items" = some items := present
      have left : other.at? (.field "items" :: .element index :: more) =
          (filled registry element).at? more := by
        cases items with
        | array elements =>
            cases isArray
            simp [at?, part?, same, present, filledList, asArray?, member]
        | _ => cases isArray
      rw [left, toItem_element_iff]
      cases more with
      | nil =>
          cases below
          exact leaves_filled (.inl rfl)
      | cons step deeper =>
          have notId (name : String) (isField : step = .field name) : "componentNodeId" ≠ name := by
            rintro rfl
            exact outside (by simp [isField])
          have deep := leaves_step below (asArray?_filled element)
            (fun name isField notItems => field?_filled registry notItems (notId name isField) element)
            (by
              rintro rfl
              exact leaves_items deeper (field?_filled_items registry element) below
                (fun member => outside (by simp [member])))
          simpa using deep

/-- The pass leaves what it should inside a container. -/
theorem leaves_container {container target : Json} {place : List Step}
    (found : container.at? place = some target) (outside : Step.field "componentNodeId" ∉ place) :
    Leaves registry (ToItem place) target ((filledContainer registry container).at? place) := by
  cases place with
  | nil =>
      cases found
      exact leaves_kept nofun fun name different _ => field?_filledContainer registry different container
  | cons step more =>
      have elements : (filledContainer registry container).asArray? = container.asArray? := by
        cases container <;> rfl
      refine leaves_step found elements (fun name _ => (field?_filledContainer registry · container)) ?_
      rintro rfl
      exact leaves_items more (field?_filledContainer_items registry container) found
        fun member => outside (by simp [member])

/-- A place in the container is filled in if it leads to an item there. -/
theorem isFilledPlace_container_iff {place : List Step} :
    IsFilledPlace (.field "layoutContainer" :: place) ↔ ToItem place := by
  constructor
  · intro filledPlace
    cases filledPlace with
    | root inside => exact absurd inside (not_toItem_field (by decide))
    | container inside => exact inside
  · exact .container

/-- Any other place is filled in if it leads to an item. -/
theorem isFilledPlace_iff {place : List Step}
    (different : ∀ more, place ≠ .field "layoutContainer" :: more) :
    IsFilledPlace place ↔ ToItem place := by
  constructor
  · intro filledPlace
    cases filledPlace with
    | root inside => exact inside
    | container inside => exact absurd rfl (different _)
  · exact .root

/-- Filling in the identifiers of a layout leaves something at every place outside them. -/
theorem leaves_resolve {layout inner : Json} {place : List Step}
    (found : layout.at? place = some inner) (outside : Step.field "componentNodeId" ∉ place) :
    Leaves registry (IsFilledPlace place) inner ((resolve registry layout).1.at? place) := by
  cases place with
  | nil =>
      cases found
      exact leaves_kept nofun fun name notItems notContainer =>
        field?_resolve registry notItems notContainer layout
  | cons step more =>
      have elements : (resolve registry layout).1.asArray? = layout.asArray? := by
        cases layout with
        | object fields => simp only [resolve]; split <;> rfl
        | _ => rfl
      by_cases isContainer : step = .field "layoutContainer"
      · subst isContainer
        obtain ⟨container, present, inside⟩ := Option.bind_eq_some_iff.mp found
        have present : layout.field? "layoutContainer" = some container := present
        have left : (resolve registry layout).1.at? (.field "layoutContainer" :: more) =
            (filledContainer registry container).at? more := by
          simp [at?, part?, field?_resolve_layoutContainer, present]
        rw [left, isFilledPlace_container_iff]
        exact leaves_container inside fun member => outside (by simp [member])
      · rw [isFilledPlace_iff (by rintro rest same; cases same; exact isContainer rfl)]
        refine leaves_step found elements ?_ ?_
        · rintro name rfl notItems
          have notContainer : "layoutContainer" ≠ name := by
            rintro rfl
            exact isContainer rfl
          exact field?_resolve registry notItems notContainer layout
        · rintro rfl
          exact leaves_items more (field?_resolve_items registry layout) found
            fun member => outside (by simp [member])

/-- A component with an identifier gets another one only if it is filled in and has it in the other field. -/
theorem componentId?_filled_iff {item : Json} {itemType id : String}
    (typed : typeOf? item = some itemType) (isComponent : isComponentType itemType = true)
    (named : componentId? item = some id) (authored : isPlaceholderId id = false) :
    componentId? (filled registry item) = some id ↔
      (item.field? "componentNodeId" = none →
        ∀ other, registry.resolveType itemType = some other → other = id) := by
  have received := replacement?_eq registry typed isComponent
  cases present : item.field? "componentNodeId" with
  | some value =>
      have closed : isOpen ((some value).bind asString?) = false := by
        rw [componentId?_eq, present] at named
        obtain ⟨isText, -⟩ := Option.filter_eq_some_iff.mp named
        rw [show (some value).bind asString? = some id from isText]
        exact authored
      rw [present, closed] at received
      rw [componentId?_filled, received]
      exact ⟨nofun, fun _ => named⟩
  | none =>
      have received : replacement? registry item = registry.resolveType itemType := by
        rw [received, present]
        rfl
      rw [componentId?_filled, received]
      cases registry.resolveType itemType with
      | none => exact ⟨nofun, fun _ => named⟩
      | some other =>
          have visible := isBlankText_of_not_isPlaceholderId authored
          rw [Option.elim_some]
          constructor
          · intro kept _ another same
            cases same
            exact Option.some.inj (Option.filter_eq_some_iff.mp kept).1
          · intro same
            rw [same rfl other rfl]
            simp [visible]

/-- An item keeps its identifier unless it stands in `componentId` only and the pass fills in another one. -/
theorem authored_id_kept_iff (registry : Registry) {layout item : Json} {place : List Step}
    {itemType id : String} (found : layout.at? place = some item)
    (outside : Step.field "componentNodeId" ∉ place) (typed : typeOf? item = some itemType)
    (isComponent : isComponentType itemType = true) (named : componentId? item = some id)
    (authored : isPlaceholderId id = false) :
    ∃ left, (resolve registry layout).1.at? place = some left ∧
      (componentId? left = some id ↔
        (IsFilledPlace place → item.field? "componentNodeId" = none →
          ∀ other, registry.resolveType itemType = some other → other = id)) := by
  have leaves : Leaves registry (IsFilledPlace place) item _ := leaves_resolve found outside
  obtain ⟨left, stands, here, elsewhere⟩ := leaves
  refine ⟨left, stands, ?_⟩
  by_cases isFilled : IsFilledPlace place
  · rw [here isFilled, componentId?_filled_iff typed isComponent named authored]
    simp only [isFilled, true_imp_iff]
  · have kept : componentId? left = componentId? item := by
      rw [componentId?_eq, componentId?_eq, elsewhere isFilled _ (by decide) (by decide),
        elsewhere isFilled _ (by decide) (by decide)]
    simp [kept, named, isFilled]

/-- A button whose identifier its author knows. -/
def authoredButton : Json :=
  .object [("componentNodeId", .string "99:1"), ("type", .string "button")]

/-- A button keeps its identifier although the registry has another one for buttons. -/
theorem authored_id_kept_button :
    ∃ left, (resolve buttonRegistry (.object [("items", .array [authoredButton])])).1.at?
        [.field "items", .element 0] = some left ∧ componentId? left = some "99:1" := by
  have found : (Json.object [("items", .array [authoredButton])]).at?
      [.field "items", .element 0] = some authoredButton := rfl
  obtain ⟨left, stands, kept⟩ := authored_id_kept_iff buttonRegistry found (by simp)
    (show typeOf? authoredButton = some "button" from rfl) (by decide)
    (show componentId? authoredButton = some "99:1" by decide) (by decide)
  exact ⟨left, stands, kept.mpr fun _ absent => absurd absent nofun⟩

/-- A button whose identifier stands in the field `componentId`. -/
def otherFieldButton : Json :=
  .object [("componentId", .string "99:1"), ("type", .string "button")]

/-- A button with its identifier in the field `componentId` loses it to the one of its type. -/
theorem id_in_other_field_not_kept :
    ¬∀ (registry : Registry) (layout item : Json) (place : List Step) (itemType id : String),
      layout.at? place = some item → Step.field "componentNodeId" ∉ place →
        typeOf? item = some itemType → isComponentType itemType = true →
          componentId? item = some id → isPlaceholderId id = false →
            ∃ left, (resolve registry layout).1.at? place = some left ∧
              componentId? left = some id := by
  intro every
  obtain ⟨left, stands, kept⟩ := every buttonRegistry (.object [("items", .array [otherFieldButton])])
    otherFieldButton [.field "items", .element 0] "button" "99:1" rfl (by simp) rfl (by decide)
    (by decide) (by decide)
  have stands : some (filled buttonRegistry otherFieldButton) = some left := stands
  cases stands
  exact absurd kept (by decide)

end IdResolution

end DesignScene
