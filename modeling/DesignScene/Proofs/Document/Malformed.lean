/-
This file follows the paths of malformed items to the values that could not be read.
-/
import DesignScene.Proofs.Document.Origin
import DesignScene.Proofs.Document.Paths
import DesignScene.Scalar.Exact

namespace DesignScene

open Json Variants

namespace LayoutItem

/-- The value has a list in its field `items`. -/
def ListsItems (value : Json) : Prop := ∃ elements, value.field? "items" = some (.array elements)

/-- The value stands at the source of fewer indices, in front of those that are left. -/
def Surrounds (source : List Nat → Option (List Step)) (value : Json) (indices : List Nat)
    (outside : Json) : Prop :=
  ∃ front back place, front ++ back = indices ∧ back ≠ [] ∧
    source front = some place ∧ value.at? place = some outside

/-- The value is `item` itself or is read as an item inside it, and the indices lead further inside. -/
def IsAroundIn (item : Json) : List Nat → Json → Prop := Surrounds (sourceIn? item) item

/-- The first index leads to an inner value, and the others lead on from there. -/
theorem surrounds_cons_iff {source inner : List Nat → Option (List Step)}
    {value item outside : Json} {index : Nat} {more : List Nat} {place : List Step}
    (split : ∀ front, source (index :: front) = (inner front).map (place ++ ·))
    (found : value.at? place = some item) :
    Surrounds source value (index :: more) outside ↔
      (∃ here, source [] = some here ∧ value.at? here = some outside) ∨
        Surrounds inner item more outside := by
  have behind (steps : List Step) : value.at? (place ++ steps) = item.at? steps := by
    rw [at?_append, found, Option.bind_some]
  constructor
  · rintro ⟨front, back, steps, joined, nonempty, isSource, stands⟩
    cases front with
    | nil => exact .inl ⟨steps, isSource, stands⟩
    | cons start front =>
        obtain ⟨rfl, rest⟩ := List.cons_eq_cons.mp joined
        rw [split] at isSource
        obtain ⟨deeper, inside, rfl⟩ := Option.map_eq_some_iff.mp isSource
        rw [behind] at stands
        exact .inr ⟨front, back, deeper, rest, nonempty, inside, stands⟩
  · intro around
    cases around with
    | inl here =>
        obtain ⟨steps, isSource, stands⟩ := here
        exact ⟨[], index :: more, steps, rfl, List.cons_ne_nil _ _, isSource, stands⟩
    | inr further =>
        obtain ⟨front, back, steps, joined, nonempty, inside, stands⟩ := further
        refine ⟨index :: front, back, place ++ steps, congrArg _ joined, nonempty, ?_, ?_⟩
        · rw [split, inside, Option.map_some]
        · rw [behind, stands]

section Sources

variable {item inner outside : Json} {index : Nat} {more indices : List Nat} {place : List Step}

/-- The source of an item further inside is reached through the first inner item. -/
theorem exists_inner_of_sourceIn? (source : sourceIn? item (index :: more) = some place) :
    ∃ front inner behind, innerPlace? item index = some front ∧ item.at? front = some inner ∧
      sourceIn? inner more = some behind ∧ place = front ++ behind := by
  obtain ⟨front, first, rest⟩ := Option.bind_eq_some_iff.mp source
  obtain ⟨inner, found, later⟩ := Option.bind_eq_some_iff.mp rest
  obtain ⟨behind, inside, rfl⟩ := Option.map_eq_some_iff.mp later
  exact ⟨front, inner, behind, first, found, inside, rfl⟩

/-- Something stands at every source. -/
theorem isSome_at?_of_sourceIn? (source : sourceIn? item indices = some place) :
    (item.at? place).isSome := by
  induction indices generalizing item place with
  | nil =>
      cases source
      rfl
  | cons index more ih =>
      obtain ⟨front, inner, behind, -, found, inside, rfl⟩ := exists_inner_of_sourceIn? source
      rw [at?_append, found, Option.bind_some]
      exact ih inside

theorem not_isAroundIn_nil : ¬IsAroundIn item [] outside := by
  intro ⟨front, back, _, joined, nonempty, _⟩
  exact nonempty (List.append_eq_nil_iff.mp joined).2

/-- Around an inner item stand the item itself and what is around it further inside. -/
theorem isAroundIn_cons_iff (first : innerPlace? item index = some place)
    (found : item.at? place = some inner) :
    IsAroundIn item (index :: more) outside ↔ outside = item ∨ IsAroundIn inner more outside := by
  have split (front : List Nat) :
      sourceIn? item (index :: front) = (sourceIn? inner front).map (place ++ ·) := by
    rw [sourceIn?, first, Option.bind_some, found, Option.bind_some]
  refine (surrounds_cons_iff split found).trans (or_congr_left ?_)
  constructor
  · rintro ⟨here, isSource, stands⟩
    cases isSource
    cases stands
    rfl
  · intro same
    exact ⟨[], rfl, same ▸ rfl⟩

/-- An inner item stands in the field `items` where this field is a list. -/
theorem innerPlace_eq_stepsTo (inside : innerPlace? item index = some place)
    (listed : ListsItems item) : place = stepsTo [index] := by
  obtain ⟨elements, isField⟩ := listed
  obtain ⟨steps, found, rfl⟩ := Option.map_eq_some_iff.mp inside
  obtain ⟨itemType, -, steps?⟩ := Option.bind_eq_some_iff.mp found
  have own : ownList? item = some elements := by
    rw [ownList?, isField, Option.some_or]
    rfl
  have step : listStep item = .field "items" := by
    rw [listStep, isField]
    rfl
  rw [own, step, Option.isSome_some, if_pos rfl] at steps?
  have fieldItems : steps = [.field "items"] := by
    split_ifs at steps? <;> exact (Option.some.inj steps?).symm
  rw [fieldItems]
  rfl

/-- An item lists its items if a further step through `items` leads somewhere. -/
theorem listsItems_of_at? (reached : (item.at? (stepsTo (index :: more))).isSome) :
    ListsItems item := by
  obtain ⟨value, found⟩ := Option.isSome_iff_exists.mp reached
  obtain ⟨items, isField, inside⟩ := Option.bind_eq_some_iff.mp found
  obtain ⟨_, listed, -⟩ := Option.bind_eq_some_iff.mp inside
  obtain ⟨elements, isArray, -⟩ := Option.bind_eq_some_iff.mp listed
  cases items with
  | array list => exact ⟨list, isField⟩
  | _ => cases isArray

/-- A source is reached through the fields `items` if every item around it lists its items there. -/
theorem source_eq_stepsTo (source : sourceIn? item indices = some place)
    (listed : ∀ outside, IsAroundIn item indices outside → ListsItems outside) :
    place = stepsTo indices := by
  induction indices generalizing item place with
  | nil =>
      cases source
      rfl
  | cons index more ih =>
      obtain ⟨front, inner, behind, first, found, inside, rfl⟩ := exists_inner_of_sourceIn? source
      have own : ListsItems item := listed item ((isAroundIn_cons_iff first found).mpr (.inl rfl))
      have here : front = stepsTo [index] := innerPlace_eq_stepsTo first own
      have further : behind = stepsTo more := ih inside fun outside around =>
        listed outside ((isAroundIn_cons_iff first found).mpr (.inr around))
      rw [here, further]
      rfl

/-- Fields `items` lead to something inside only if every item on the way lists its items there. -/
theorem listsItems_of_isAroundIn (source : sourceIn? item indices = some place)
    (reached : (item.at? (stepsTo indices)).isSome) (around : IsAroundIn item indices outside) :
    ListsItems outside := by
  induction indices generalizing item place with
  | nil => exact absurd around not_isAroundIn_nil
  | cons index more ih =>
      obtain ⟨front, inner, behind, first, found, inside, rfl⟩ := exists_inner_of_sourceIn? source
      have own := listsItems_of_at? reached
      cases (isAroundIn_cons_iff first found).mp around with
      | inl same => exact same ▸ own
      | inr further =>
          have here : front = stepsTo [index] := innerPlace_eq_stepsTo first own
          rw [at?_stepsTo_cons, ← here, found, Option.bind_some] at reached
          exact ih inside reached further

end Sources

end LayoutItem

namespace LayoutDocument

open LayoutItem

/-- The steps from a layout to the list of its items. -/
def rootSteps (layout : Json) : List Step :=
  if (layout.field? "items").isSome then [.field "items"]
  else [.field "layoutContainer", .field "items"]

/-- The place that a path names, where its first step stands for the list of the items of the layout. -/
def namedPlace (layout : Json) (path : String) : List Step :=
  rootSteps layout ++ (placeOf path).tail

/-- The value is read as an item around the one at these indices. -/
def IsAround (layout : Json) : List Nat → Json → Prop := Surrounds (sourceOf? layout) layout

section Paths

variable {layout item outside : Json} {index : Nat} {more : List Nat}

/-- The path to some indices names the place of these indices. -/
theorem placeOf_pathTo (index : Nat) (more : List Nat) :
    placeOf (pathTo (index :: more)) = stepsTo (index :: more) := by
  rw [pathTo, placeOf_below, placeOf_items]
  rfl

/-- The path of an item tells its indices. -/
theorem pathTo_injective {indices others : List Nat} (nonempty : indices ≠ [])
    (othersNonempty : others ≠ []) (same : pathTo indices = pathTo others) : indices = others := by
  obtain ⟨index, more, rfl⟩ := List.exists_cons_of_ne_nil nonempty
  obtain ⟨other, further, rfl⟩ := List.exists_cons_of_ne_nil othersNonempty
  have places := congrArg placeOf same
  rw [placeOf_pathTo, placeOf_pathTo] at places
  rw [← indicesOf_stepsTo (index :: more), places, indicesOf_stepsTo]

/-- The named place begins at the list of the items of the layout. -/
theorem namedPlace_pathTo (layout : Json) (index : Nat) (more : List Nat) :
    namedPlace layout (pathTo (index :: more)) = rootPlace layout index ++ stepsTo more := by
  rw [namedPlace, placeOf_pathTo]
  exact (List.append_assoc (rootSteps layout) [.element index] (stepsTo more)).symm

/-- What stands around an item stands around it inside the root item. -/
theorem isAround_cons_iff (found : layout.at? (rootPlace layout index) = some item) :
    IsAround layout (index :: more) outside ↔ IsAroundIn item more outside := by
  have split (front : List Nat) : sourceOf? layout (index :: front) =
      (sourceIn? item front).map (rootPlace layout index ++ ·) := by
    rw [sourceOf?, found, Option.bind_some]
  refine (surrounds_cons_iff split found).trans (or_iff_right ?_)
  rintro ⟨here, isSource, -⟩
  cases isSource

/-- The path of an item names its source if the items around it use `items`, and else it leads nowhere. -/
theorem namedPlace_eq_iff {place : List Step}
    (source : sourceOf? layout (index :: more) = some place) :
    (namedPlace layout (pathTo (index :: more)) = place ↔
        ∀ outside, IsAround layout (index :: more) outside → ListsItems outside) ∧
      ((layout.at? (namedPlace layout (pathTo (index :: more)))).isSome ↔
        ∀ outside, IsAround layout (index :: more) outside → ListsItems outside) := by
  obtain ⟨item, found, later⟩ := Option.bind_eq_some_iff.mp source
  obtain ⟨behind, inside, rfl⟩ := Option.map_eq_some_iff.mp later
  have reach (steps : List Step) :
      layout.at? (rootPlace layout index ++ steps) = item.at? steps := by
    rw [at?_append, found, Option.bind_some]
  have listed (reached : (item.at? (stepsTo more)).isSome) (outside : Json)
      (around : IsAroundIn item more outside) : ListsItems outside :=
    listsItems_of_isAroundIn inside reached around
  have stands := isSome_at?_of_sourceIn? inside
  simp only [namedPlace_pathTo, List.append_cancel_left_eq, reach, isAround_cons_iff found]
  constructor
  · constructor
    · intro same
      exact listed (same ▸ stands)
    · intro every
      exact (source_eq_stepsTo inside every).symm
  · constructor
    · exact listed
    · intro every
      rw [← source_eq_stepsTo inside every]
      exact stands

end Paths

section Malformed

variable {α : Type} [Scalar α] {layout : Json} {document : LayoutDocument α}
  {indices others : List Nat} {path reason : String}

/-- A malformed item names its own path and is read from a value without a type. -/
theorem exists_source_of_malformed (read : ofJson layout = .ok document)
    (malformed : document.item? indices = some (.malformed path reason)) :
    indices ≠ [] ∧ path = pathTo indices ∧ ∃ place value, document.IsReadAt layout indices place ∧
      layout.at? place = some value ∧ typeOf? value = none := by
  have found := (item?_of_ofJson read indices).symm.trans malformed
  obtain ⟨value, stands, made⟩ := Option.map_eq_some_iff.mp found
  obtain ⟨place, source, stands⟩ := Option.bind_eq_some_iff.mp stands
  obtain ⟨samePath, untyped⟩ := eq_of_ofJson_malformed made
  refine ⟨?_, samePath, place, value, ⟨source, value, stands, ?_⟩, stands, untyped⟩
  · intro empty
    subst empty
    cases source
  · rw [malformed, made]

/-- The path of a malformed item leads to its value exactly if all items around it use the field `items`. -/
theorem malformed_path_leads_iff (read : ofJson layout = .ok document)
    (malformed : document.item? indices = some (.malformed path reason)) :
    (∃ place value, document.IsReadAt layout indices place ∧ layout.at? place = some value ∧
        typeOf? value = none ∧
        (namedPlace layout path = place ↔
          ∀ outside, IsAround layout indices outside → ListsItems outside) ∧
        ((layout.at? (namedPlace layout path)).isSome ↔
          ∀ outside, IsAround layout indices outside → ListsItems outside)) ∧
      ∀ others why, document.item? others = some (.malformed path why) → others = indices := by
  obtain ⟨nonempty, rfl, place, value, isRead, stands, untyped⟩ :=
    exists_source_of_malformed read malformed
  constructor
  · obtain ⟨index, more, rfl⟩ := List.exists_cons_of_ne_nil nonempty
    obtain ⟨names, leads⟩ := namedPlace_eq_iff isRead.source
    exact ⟨place, value, isRead, stands, untyped, names, leads⟩
  · intro others why otherMalformed
    obtain ⟨othersNonempty, samePath, -⟩ := exists_source_of_malformed read otherMalformed
    exact pathTo_injective othersNonempty nonempty samePath.symm

/-- A container with a frame that has a text in the place of an item. -/
def frameInContainer (listName : String) : Json :=
  .object
    [("layoutContainer", .object
      [("items", .array
        [.object [(listName, .array [.string "just a text"]), ("type", .string "frame")]])])]

/-- What is read of the frame is malformed, whatever the name of its list is. -/
theorem exists_malformed_in_frame (listName : String) {place : List Step}
    (source : sourceOf? (frameInContainer listName) [0, 0] = some place)
    (stands : (frameInContainer listName).at? place = some (.string "just a text")) :
    ∃ document : LayoutDocument Rat, ofJson (frameInContainer listName) = .ok document ∧
      document.item? [0, 0] = some (.malformed "items[0].items[0]" "Item must be an object") := by
  obtain ⟨document, read⟩ : ∃ document : LayoutDocument Rat,
      ofJson (frameInContainer listName) = .ok document := ⟨_, rfl⟩
  refine ⟨document, read, ?_⟩
  rw [item?_of_ofJson read, source, Option.bind_some, stands]
  rfl

/-- The path of the text in the field `items` leads to it. -/
theorem malformed_path_leads_in_frame : ∃ (document : LayoutDocument Rat) (place : List Step),
    ofJson (frameInContainer "items") = .ok document ∧
      document.item? [0, 0] = some (.malformed "items[0].items[0]" "Item must be an object") ∧
      document.IsReadAt (frameInContainer "items") [0, 0] place ∧
      namedPlace (frameInContainer "items") "items[0].items[0]" = place := by
  obtain ⟨document, read, malformed⟩ := exists_malformed_in_frame "items" rfl rfl
  obtain ⟨⟨place, value, isRead, -, -, names, -⟩, -⟩ := malformed_path_leads_iff read malformed
  refine ⟨document, place, read, malformed, isRead, names.mpr ?_⟩
  intro outside around
  have found : (frameInContainer "items").at? (rootPlace (frameInContainer "items") 0) =
      some (.object [("items", .array [.string "just a text"]), ("type", .string "frame")]) := rfl
  cases (isAroundIn_cons_iff rfl rfl).mp ((isAround_cons_iff found).mp around) with
  | inl same =>
      subst same
      exact ⟨_, rfl⟩
  | inr further => exact absurd further not_isAroundIn_nil

/-- The path of the text in the field `children` leads nowhere. -/
theorem malformed_path_below_children :
    ¬∀ (layout : Json) (document : LayoutDocument Rat) (indices : List Nat) (path reason : String),
      ofJson layout = .ok document → document.item? indices = some (.malformed path reason) →
        ∃ place, document.IsReadAt layout indices place ∧ namedPlace layout path = place := by
  intro every
  obtain ⟨document, read, malformed⟩ := exists_malformed_in_frame "children" rfl rfl
  obtain ⟨place, isRead, names⟩ := every _ document _ _ _ read malformed
  obtain ⟨value, stands, -⟩ := isRead.read
  have nowhere : (frameInContainer "children").at?
      (namedPlace (frameInContainer "children") "items[0].items[0]") = none := by
    decide
  rw [names, stands] at nowhere
  cases nowhere

end Malformed

end LayoutDocument

end DesignScene
