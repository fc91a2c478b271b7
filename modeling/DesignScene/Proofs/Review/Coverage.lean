/-
This file says which of the items that the check of the structure looks into become items of the
document.
-/
import DesignScene.Proofs.Document.Origin
import DesignScene.Proofs.Review.Structure

namespace DesignScene.Structure

open Json LayoutItem Variants

/-- From a value the indices lead through the values around it to the last one, by fields `items`. -/
inductive Leads : Json → List Nat → List Json → Json → Prop
  | here (value : Json) : Leads value [] [] value
  | inside {value element last : Json} {index : Nat} {more : List Nat} {around : List Json}
      (found : value.at? (stepsTo [index]) = some element) (later : Leads element more around last) :
      Leads value (index :: more) (value :: around) last

def HasType (item : Json) : Prop := (nonEmptyText? "type" item).isSome = true

/-- The check comes to an item if all items around it have a type. -/
structure ComesTo (layout : Json) (place : List Nat) (around : List Json) (item : Json) : Prop where
  leads : Leads layout place (layout :: around) item
  typed : ∀ outside ∈ around, HasType outside

/-- The check looks into an item that it comes to if the item has a type as well. -/
structure LooksInto (layout : Json) (place : List Nat) (around : List Json) (item : Json) : Prop
    extends ComesTo layout place around item where
  hasType : HasType item

/-- What is found at an item itself. -/
def ownFindings (path : String) (item : Json) : List Finding :=
  (nonEmptyText? "type" item).elim [missingType path] fun itemType =>
    checkFields path itemType (item.asObject?.getD [])

/-- The indices lead to the value where they stand. -/
theorem Leads.at?_eq {value last : Json} {place : List Nat} {around : List Json}
    (leads : Leads value place around last) : value.at? (stepsTo place) = some last := by
  induction leads with
  | here => rfl
  | inside found _ ih => rw [at?_stepsTo_cons, found, Option.bind_some, ih]

section Walk

variable {finding : Finding}

/-- What is found in the items is found at one of them. -/
theorem mem_checkItems_iff {path : String} {fields : Dict Json} :
    finding ∈ checkItems path fields ↔
      ∃ index element, (Json.object fields).at? (stepsTo [index]) = some element ∧
        finding ∈ checkItem (elementPath path index) element := by
  rw [checkItems_eq]
  exact mem_listed_iff (fun _ => rfl) (fun _ _ _ => rfl) fields

/-- The check of an item finds what is wrong with it and, if it has a type, with the elements of its list. -/
theorem mem_checkItem_step_iff {path : String} {item : Json} :
    finding ∈ checkItem path item ↔
      finding ∈ ownFindings path item ∨
        HasType item ∧ ∃ index element, item.at? (stepsTo [index]) = some element ∧
          finding ∈ checkItem (elementPath (itemsPath path) index) element := by
  cases item with
  | object fields =>
      have sameType : nonEmptyText? "type" (.object fields) = nonEmptyField "type" fields := rfl
      rw [checkItem, ownFindings, HasType, sameType]
      cases nonEmptyField "type" fields with
      | none => simp
      | some itemType => simp [mem_checkItems_iff, Json.asObject?]
  | _ => simp [checkItem, ownFindings, HasType, nonEmptyText?, Json.field?, Json.asObject?]

/-- What is found from an item on is found at an item that the check comes to. -/
theorem mem_checkItem_iff (item : Json) : ∀ path, finding ∈ checkItem path item ↔
    ∃ place around last, Leads item place around last ∧ (∀ outside ∈ around, HasType outside) ∧
      finding ∈ ownFindings (below path place) last := by
  induction item using Json.induction_sizeOf with
  | step item ih =>
      intro path
      rw [mem_checkItem_step_iff]
      constructor
      · rintro (own | ⟨typed, index, element, found, later⟩)
        · exact ⟨[], [], item, .here item, nofun, own⟩
        · obtain ⟨more, around, last, leads, others, there⟩ :=
            (ih element (exists_fields_of_at? found).2 _).mp later
          exact ⟨index :: more, item :: around, last, .inside found leads,
            List.forall_mem_cons.mpr ⟨typed, others⟩, there⟩
      · rintro ⟨place, around, last, leads, typed, there⟩
        cases leads with
        | here => exact .inl there
        | inside found later =>
            obtain ⟨first, others⟩ := List.forall_mem_cons.mp typed
            exact .inr ⟨first, _, _, found,
              (ih _ (exists_fields_of_at? found).2 _).mpr ⟨_, _, _, later, others, there⟩⟩

/-- The check of the items of a layout finds what it finds at the items that it comes to. -/
theorem mem_checkRootItems_iff {layout : Json} :
    finding ∈ checkRootItems layout ↔
      ∃ place around item, ComesTo layout place around item ∧
        finding ∈ ownFindings (pathTo place) item := by
  constructor
  · intro member
    cases layout with
    | object fields =>
        obtain ⟨index, element, found, later⟩ := mem_checkItems_iff.mp member
        obtain ⟨more, around, item, leads, typed, there⟩ := (mem_checkItem_iff element _).mp later
        exact ⟨index :: more, around, item, ⟨.inside found leads, typed⟩, there⟩
    | _ => cases member
  · rintro ⟨place, around, item, ⟨leads, typed⟩, there⟩
    cases leads with
    | inside found later =>
        obtain ⟨⟨fields, rfl⟩, -⟩ := exists_fields_of_at? found
        exact mem_checkItems_iff.mpr
          ⟨_, _, found, (mem_checkItem_iff _ _).mpr ⟨_, _, _, later, typed, there⟩⟩

end Walk

/-- A text and a component have no items inside them. -/
def IsLeaf (item : Json) : Prop :=
  ∃ itemType, typeOf? item = some itemType ∧
    (isTextType itemType = true ∨ isComponentType itemType = true)

section Origin

variable {item element : Json} {index : Nat}

theorem exists_type_of_hasType (typed : HasType item) : ∃ itemType, typeOf? item = some itemType := by
  obtain ⟨itemType, found⟩ := Option.isSome_iff_exists.mp typed
  exact ⟨itemType, (Option.filter_eq_some_iff.mp found).1⟩

/-- Exactly the types of texts and components are not those of containers and shapes. -/
theorem leafType_iff (itemType : String) :
    isTextType itemType = true ∨ isComponentType itemType = true ↔
      isContainerType itemType = false ∧ isShapeType itemType = false := by
  have ofText : isTextType itemType = true → isContainerType itemType = false :=
    isContainerType_of_isTextType
  have ofShape : isShapeType itemType = true →
      isContainerType itemType = false ∧ isTextType itemType = false :=
    isContainerType_of_isShapeType
  rw [isComponentType_eq]
  revert ofText ofShape
  cases isContainerType itemType <;> cases isTextType itemType <;> cases isShapeType itemType <;>
    simp

/-- Nothing is read inside a text or a component. -/
theorem innerPlace?_of_isLeaf (leaf : IsLeaf item) : innerPlace? item index = none := by
  obtain ⟨itemType, typed, kind⟩ := leaf
  obtain ⟨notContainer, notShape⟩ := (leafType_iff itemType).mp kind
  simp [innerPlace?, innerSteps?, typed, notContainer, notShape]

/-- The elements of the field `items` are read as the items inside an item that is no leaf. -/
theorem innerPlace?_of_not_isLeaf (typed : HasType item) (notLeaf : ¬IsLeaf item)
    (found : item.at? (stepsTo [index]) = some element) :
    innerPlace? item index = some (stepsTo [index]) := by
  obtain ⟨itemType, hasType⟩ := exists_type_of_hasType typed
  obtain ⟨items, isField, inside⟩ := Option.bind_eq_some_iff.mp found
  obtain ⟨_, listed, -⟩ := Option.bind_eq_some_iff.mp inside
  obtain ⟨elements, isArray, -⟩ := Option.bind_eq_some_iff.mp listed
  have isField : item.field? "items" = some items := isField
  have ownList : ownList? item = some elements := by simp [ownList?, isField, isArray]
  have step : listStep item = .field "items" := by simp [listStep, isField]
  have steps : innerSteps? item = some [.field "items"] := by
    rw [innerSteps?, hasType, Option.bind_some]
    split_ifs with isContainer own isShape
    · rw [step]
    · exact absurd (by rw [ownList]; rfl) own
    · rw [step]
    · refine absurd ⟨itemType, hasType, (leafType_iff itemType).mpr ?_⟩ notLeaf
      exact ⟨Bool.eq_false_iff.mpr isContainer, Bool.eq_false_iff.mpr isShape⟩
  rw [innerPlace?, steps]
  rfl

/-- Where no leaf is around it, a value is its own source. -/
theorem sourceIn?_of_leads {place : List Nat} {around : List Json} {last : Json}
    (leads : Leads item place around last)
    (typed : ∀ outside ∈ around, HasType outside) (noLeaf : ∀ outside ∈ around, ¬IsLeaf outside) :
    sourceIn? item place = some (stepsTo place) := by
  induction leads with
  | here => rfl
  | inside found later ih =>
      obtain ⟨hasType, moreTyped⟩ := List.forall_mem_cons.mp typed
      obtain ⟨notLeaf, noMore⟩ := List.forall_mem_cons.mp noLeaf
      rw [sourceIn?, innerPlace?_of_not_isLeaf hasType notLeaf found, Option.bind_some, found,
        Option.bind_some, ih moreTyped noMore]
      rfl

/-- Inside a leaf nothing is read. -/
theorem sourceIn?_of_isLeaf {place : List Nat} {around : List Json} {last : Json}
    (leads : Leads item place around last) (typed : ∀ outside ∈ around, HasType outside)
    (leaf : ∃ outside ∈ around, IsLeaf outside) : sourceIn? item place = none := by
  induction leads with
  | here => simp at leaf
  | @inside item _ _ _ _ around found later ih =>
      obtain ⟨hasType, moreTyped⟩ := List.forall_mem_cons.mp typed
      by_cases isLeaf : IsLeaf item
      · rw [sourceIn?, innerPlace?_of_isLeaf isLeaf]
        rfl
      · have inner : ∃ outside ∈ around, IsLeaf outside := by
          obtain ⟨outside, member, leaf⟩ := leaf
          rcases List.mem_cons.mp member with rfl | member
          · exact absurd leaf isLeaf
          · exact ⟨outside, member, leaf⟩
        rw [sourceIn?, innerPlace?_of_not_isLeaf hasType isLeaf found, Option.bind_some, found,
          Option.bind_some, ih moreTyped inner]
        rfl

/-- The elements of the field `items` of a layout are read as its items. -/
theorem sourceOf?_of_leads {layout : Json} {more : List Nat}
    (found : layout.at? (stepsTo [index]) = some element) :
    LayoutDocument.sourceOf? layout (index :: more) =
      (sourceIn? element more).map (stepsTo [index] ++ ·) := by
  obtain ⟨items, isField, -⟩ := Option.bind_eq_some_iff.mp found
  have isField : layout.field? "items" = some items := isField
  have root : LayoutDocument.rootPlace layout index = stepsTo [index] := by
    simp [LayoutDocument.rootPlace, isField, stepsTo]
  rw [LayoutDocument.sourceOf?, root, found, Option.bind_some]

/-- An item with a type is not read as a malformed one. -/
theorem ofJson_ne_malformed {α : Type} [Scalar α] (typed : HasType item)
    (path place reason : String) :
    (LayoutItem.ofJson path item : LayoutItem α) ≠ .malformed place reason := by
  intro malformed
  obtain ⟨itemType, hasType⟩ := exists_type_of_hasType typed
  obtain ⟨-, untyped⟩ := eq_of_ofJson_malformed malformed
  cases hasType.symm.trans untyped

end Origin

section Document

variable {α : Type} [Scalar α] {layout item : Json} {document : LayoutDocument α}
  {place : List Nat} {around : List Json}

/-- Where no leaf is around it, an item is read at its own indices. -/
theorem isReadAt_of_comesTo (read : LayoutDocument.ofJson layout = .ok document)
    (comes : ComesTo layout place around item) (noLeaf : ∀ outside ∈ around, ¬IsLeaf outside) :
    document.IsReadAt layout place (stepsTo place) := by
  have found := comes.leads.at?_eq
  have source : LayoutDocument.sourceOf? layout place = some (stepsTo place) := by
    cases comes.leads with
    | inside first later =>
        rw [sourceOf?_of_leads first, sourceIn?_of_leads later comes.typed noLeaf]
        rfl
  refine ⟨source, item, found, ?_⟩
  rw [LayoutDocument.item?_of_ofJson read, source, Option.bind_some, found, Option.map_some]

/-- An item with a leaf around it is no source of anything. -/
theorem sourceOf?_of_isLeaf (comes : ComesTo layout place around item)
    (leaf : ∃ outside ∈ around, IsLeaf outside) : LayoutDocument.sourceOf? layout place = none := by
  cases comes.leads with
  | inside first later =>
      rw [sourceOf?_of_leads first, sourceIn?_of_isLeaf later comes.typed leaf]
      rfl

/-- An item that stands in a leaf is not read anywhere. -/
theorem not_isReadAt_of_isLeaf (comes : ComesTo layout place around item)
    (leaf : ∃ outside ∈ around, IsLeaf outside) (indices : List Nat) :
    ¬document.IsReadAt layout indices (stepsTo place) := by
  rintro ⟨source, -⟩
  have same : place = indices := by
    rw [← LayoutDocument.indicesOf_sourceOf source, indicesOf_stepsTo]
  rw [← same, sourceOf?_of_isLeaf comes leaf] at source
  cases source

/-- An item that is looked into is read as exactly one item if no text and no component is around it. -/
theorem looks_into_read_once_iff (read : LayoutDocument.ofJson layout = .ok document)
    (looks : LooksInto layout place around item) :
    ((∃! indices, document.IsReadAt layout indices (stepsTo place)) ↔
        ∀ outside ∈ around, ¬IsLeaf outside) ∧
      ((∃ outside ∈ around, IsLeaf outside) →
        ∀ indices, ¬document.IsReadAt layout indices (stepsTo place)) ∧
      ∀ path reason, document.item? place ≠ some (.malformed path reason) := by
  refine ⟨⟨?_, fun noLeaf => ?_⟩, not_isReadAt_of_isLeaf looks.toComesTo, ?_⟩
  · rintro ⟨indices, isRead, -⟩ outside member leaf
    exact not_isReadAt_of_isLeaf looks.toComesTo ⟨outside, member, leaf⟩ indices isRead
  · refine ⟨place, isReadAt_of_comesTo read looks.toComesTo noLeaf, fun indices other => ?_⟩
    rw [← LayoutDocument.indicesOf_sourceOf other.source, indicesOf_stepsTo]
  · intro path reason malformed
    by_cases leaf : ∃ outside ∈ around, IsLeaf outside
    · rw [LayoutDocument.item?_of_ofJson read, sourceOf?_of_isLeaf looks.toComesTo leaf] at malformed
      cases malformed
    · push Not at leaf
      obtain ⟨value, found, isRead⟩ := (isReadAt_of_comesTo read looks.toComesTo leaf).read
      rw [looks.leads.at?_eq] at found
      cases found
      rw [isRead] at malformed
      exact ofJson_ne_malformed looks.hasType _ _ _ (Option.some.inj malformed)

end Document

/-- A text inside an item of this type. -/
def textInside (itemType : String) : Json :=
  .object [("type", .string itemType), ("items", .array [.object [("type", .string "text")]])]

def textInsideLayout (itemType : String) : Json :=
  .object [("items", .array [textInside itemType])]

/-- The check looks into the items of a text or a component. -/
theorem looksInto_textInside (itemType : String) (named : itemType ≠ "") :
    LooksInto (textInsideLayout itemType) [0, 0] [textInside itemType]
      (.object [("type", .string "text")]) where
  leads := .inside rfl (.inside rfl (.here _))
  typed outside member := by
    rw [List.mem_singleton.mp member]
    simp [HasType, nonEmptyText?, textInside, Json.field?, Json.asObject?, Dict.get?,
      Json.asString?, named]
  hasType := rfl

/-- A text in a frame is read once. -/
theorem text_in_frame_read_once : ∃ document : LayoutDocument Rat,
    LayoutDocument.ofJson (textInsideLayout "frame") = .ok document ∧
      LooksInto (textInsideLayout "frame") [0, 0] [textInside "frame"]
        (.object [("type", .string "text")]) ∧
      ∃! indices, document.IsReadAt (textInsideLayout "frame") indices (stepsTo [0, 0]) := by
  obtain ⟨document, read⟩ : ∃ document : LayoutDocument Rat,
      LayoutDocument.ofJson (textInsideLayout "frame") = .ok document := ⟨_, rfl⟩
  have looks := looksInto_textInside "frame" (by decide)
  refine ⟨document, read, looks, (looks_into_read_once_iff read looks).1.mpr ?_⟩
  intro outside member
  rw [List.mem_singleton.mp member]
  rintro ⟨itemType, typed, kind⟩
  cases typed
  revert kind
  decide

/-- A text in a component is looked into, and it is not read. -/
theorem text_in_card_not_read :
    ¬∀ (layout : Json) (document : LayoutDocument Rat) (place : List Nat) (around : List Json)
      (item : Json), LayoutDocument.ofJson layout = .ok document →
        LooksInto layout place around item →
          ∃! indices, document.IsReadAt layout indices (stepsTo place) := by
  intro every
  obtain ⟨document, read⟩ : ∃ document : LayoutDocument Rat,
      LayoutDocument.ofJson (textInsideLayout "card") = .ok document := ⟨_, rfl⟩
  have looks := looksInto_textInside "card" (by decide)
  obtain ⟨indices, isRead, -⟩ := every _ document _ _ _ read looks
  refine not_isReadAt_of_isLeaf looks.toComesTo ⟨_, List.mem_singleton.mpr rfl, ?_⟩ indices isRead
  exact ⟨"card", rfl, .inr (by decide)⟩

end DesignScene.Structure
