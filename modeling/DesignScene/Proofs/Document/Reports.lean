/-
This file says what the report on the filled in identifiers lists.
-/
import Mathlib.Data.List.Nodup
import DesignScene.Proofs.Component.Types
import DesignScene.Proofs.Document.OnlyIds
import DesignScene.Proofs.Document.Paths
import DesignScene.Proofs.Review.Agreement

namespace DesignScene

open Json LayoutItem Variants

namespace IdResolution

/-- The item is a component, and its identifier is absent, no text or one that an author made up. -/
def IsOpenComponent (item : Json) : Prop :=
  ∃ itemType, typeOf? item = some itemType ∧ isComponentType itemType = true ∧
    isOpen ((item.field? "componentNodeId").bind asString?) = true

/-- The resolution says what an item is and what its identifier was and is. -/
structure IsAbout (registry : Registry) (item : Json) (resolution : IdResolution) : Prop where
  typed : typeOf? item = some resolution.itemType
  authored_eq : resolution.authored = (item.field? "componentNodeId").bind asString?
  resolved_eq : resolution.resolved = registry.resolveType resolution.itemType

variable {registry : Registry} {path : String} {fields : Dict Json} {resolution : IdResolution}

section Items

/-- A resolution is about the open component that it was made of. -/
theorem isAbout_of_ofFields (made : ofFields registry path fields = some resolution) :
    resolution.path = path ∧ IsOpenComponent (.object fields) ∧
      resolution.IsAbout registry (.object fields) := by
  rw [ofFields] at made
  split at made
  · cases made
  · next itemType typed =>
      have typed : typeOf? (.object fields) = some itemType := typed
      dsimp only at made
      split at made
      · next needed =>
          obtain ⟨isComponent, opened⟩ := Bool.and_eq_true_iff.mp needed
          cases made
          exact ⟨rfl, ⟨itemType, typed, isComponent, opened⟩, typed, rfl, rfl⟩
      · cases made

/-- Every open component is reported. -/
theorem exists_ofFields (registry : Registry) (path : String)
    (opened : IsOpenComponent (.object fields)) :
    ∃ resolution, ofFields registry path fields = some resolution := by
  obtain ⟨itemType, typed, isComponent, isOpened⟩ := opened
  have typed : (fields.get? "type").bind asString? = some itemType := typed
  have isOpened : isOpen ((fields.get? "componentNodeId").bind asString?) = true := isOpened
  rw [ofFields, typed]
  simp only [isComponent, isOpened, Bool.and_self, if_true]
  exact ⟨_, rfl⟩

/-- What is reported on an item does not depend on the items inside it. -/
theorem ofFields_inItems (inner : String) :
    ofFields registry path (inItems registry inner fields).1 = ofFields registry path fields := by
  rw [ofFields, ofFields, get?_inItems registry inner (by decide),
    get?_inItems registry inner (by decide)]

/-- What is reported on an item itself. -/
def ownReport (registry : Registry) (path : String) (fields : Dict Json) : List IdResolution :=
  (ofFields registry path fields).toList

/-- What is reported on an item and on the items inside it. -/
def itemReport (registry : Registry) (path : String) (item : Json) : List IdResolution :=
  (inItem registry path item).2

theorem mem_ownReport : resolution ∈ ownReport registry path fields ↔
    ofFields registry path fields = some resolution := Option.mem_toList

/-- The report of an item ends with the item itself. -/
theorem itemReport_object (path : String) (fields : Dict Json) :
    itemReport registry path (.object fields) =
      (inItems registry (itemsPath path) fields).2 ++ ownReport registry path fields := by
  simp only [itemReport, ownReport, inItem, resolveFields, ofFields_inItems]
  cases ofFields registry path fields with
  | none => exact (List.append_nil _).symm
  | some resolution => rfl

/-- The report on the items inside an object is the one on its list. -/
theorem inItems_snd (path : String) (sorted : fields.Sorted) :
    (inItems registry path fields).2 =
      (fields.get? "items").elim [] fun value =>
        value.asArray?.elim [] fun elements => (inElements registry path 0 elements).2 := by
  induction fields with
  | nil => rfl
  | cons field more ih =>
      obtain ⟨key, value⟩ := field
      have later := ih (List.pairwise_cons.mp sorted).2
      rw [Dict.get?]
      split
      · next isItems =>
          subst isItems
          rw [Dict.get?_of_sorted_cons sorted] at later
          cases value with
          | array elements => simp only [inItems, if_true, Option.elim_some, asArray?]
          | _ => exact later
      · next different =>
          rw [← later]
          cases value with
          | array elements => simp only [inItems, different, if_false]
          | _ => rfl

end Items

section Places

/-- What is reported of the lists of an item is reported of one of their elements. -/
theorem mem_inItems_iff (sorted : fields.Sorted) :
    resolution ∈ (inItems registry path fields).2 ↔
      ∃ index element, (Json.object fields).at? (stepsTo [index]) = some element ∧
        resolution ∈ itemReport registry (elementPath path index) element := by
  let walk (index : Nat) (elements : List Json) : List IdResolution :=
    (inElements registry path index elements).2
  have empty (index : Nat) : walk index [] = [] := rfl
  rw [inItems_snd path sorted]
  exact mem_listed_iff empty (fun _ _ _ => rfl) fields

/-- What is reported from an item on is reported on an item that indices lead to. -/
theorem mem_itemReport_iff {value : Json} (sorted : value.IsSorted) (path : String) :
    resolution ∈ itemReport registry path value ↔
      ∃ indices fields, value.at? (stepsTo indices) = some (.object fields) ∧
        resolution ∈ ownReport registry (below path indices) fields := by
  refine mem_visit_iff resolution (itemReport registry) (ownReport registry) IsSorted
    (fun sound listed => isSorted_of_at? sound listed) (fun path fields whole => ?_)
    (fun path value noObject => ?_) value sorted path
  · rw [itemReport_object, List.mem_append, or_comm, mem_inItems_iff (whole.of_asObject? rfl).1]
  · cases value with
    | object fields => cases noObject
    | _ => exact List.not_mem_nil

/-- What is reported on the items in the list of a value. -/
def listReport (registry : Registry) (path : String) (value : Json) : List IdResolution :=
  value.asObject?.elim [] fun fields => (inItems registry path fields).2

/-- What is reported on a list is reported on an item that indices lead to. -/
theorem mem_listReport_iff {value : Json} (sorted : value.IsSorted) :
    resolution ∈ listReport registry path value ↔
      ∃ index more inner, value.at? (stepsTo (index :: more)) = some (.object inner) ∧
        ofFields registry (below (elementPath path index) more) inner = some resolution := by
  have listed := exists_listed_iff resolution (itemReport registry) (ownReport registry) value
    (fun _ _ found => mem_itemReport_iff (isSorted_of_at? sorted found)) path
  simp only [mem_ownReport] at listed
  rw [← listed]
  constructor
  · intro member
    cases value with
    | object fields => exact (mem_inItems_iff (sorted.of_asObject? rfl).1).mp member
    | _ => cases member
  · intro inside
    obtain ⟨index, element, found, member⟩ := inside
    obtain ⟨⟨fields, rfl⟩, -⟩ := exists_fields_of_at? found
    exact (mem_inItems_iff (sorted.of_asObject? rfl).1).mpr ⟨index, element, found, member⟩

/-- Nothing is reported of a value that is no object. -/
theorem listReport_of_noObject {value : Json} (noObject : ∀ fields, value ≠ .object fields)
    (path : String) : listReport registry path value = [] := by
  cases value with
  | object fields => exact absurd rfl (noObject fields)
  | _ => rfl

/-- The report on a layout is the one on its own list and the one on the list of its container. -/
theorem resolve_snd (layout : Json) :
    (resolve registry layout).2 = listReport registry "items" layout ++
      (layout.field? "layoutContainer").elim [] (listReport registry "layoutContainer.items") := by
  cases layout with
  | object fields =>
      have same : Dict.get? "layoutContainer" (inItems registry "items" fields).1 =
          (Json.object fields).field? "layoutContainer" :=
        get?_inItems registry "items" (by decide) fields
      by_cases holds : ∃ container,
          (Json.object fields).field? "layoutContainer" = some (.object container)
      · obtain ⟨container, present⟩ := holds
        rw [resolve_of_container (same.trans present), present]
        rfl
      · have absent := not_exists.mp holds
        rw [resolve_of_noContainer fun container found => absent container (same.symm.trans found)]
        have nothing : ((Json.object fields).field? "layoutContainer").elim []
            (listReport registry "layoutContainer.items") = [] := by
          cases found : (Json.object fields).field? "layoutContainer" with
          | none => rfl
          | some value =>
              exact listReport_of_noObject (fun container isObject =>
                absent container (isObject ▸ found)) _
        rw [nothing, List.append_nil]
        rfl
  | _ => rfl

/-- The places that a report names. -/
def places (report : List IdResolution) : List (List Step) :=
  report.map fun resolution => placeOf resolution.path

theorem places_append (first second : List IdResolution) :
    places (first ++ second) = places first ++ places second := List.map_append

end Places

section Distinct

/-- The places of a walk are distinct if those of each element are and no two elements share one. -/
theorem nodup_walk {β : Type} (visit : Nat → Json → List β) (walk : Nat → List Json → List β)
    (empty : ∀ index, walk index [] = [])
    (step : ∀ index element more,
      walk index (element :: more) = visit index element ++ walk (index + 1) more)
    {elements : List Json} (each : ∀ element ∈ elements, ∀ index, (visit index element).Nodup)
    (apart : ∀ first ∈ elements, ∀ second ∈ elements, ∀ index other, index ≠ other →
      List.Disjoint (visit index first) (visit other second)) (index : Nat) :
    (walk index elements).Nodup := by
  induction elements generalizing index with
  | nil => simp [empty]
  | cons element more ih =>
      rw [step]
      apply List.Nodup.append (each element List.mem_cons_self index)
      · apply ih
        · intro other later
          exact each other (List.mem_cons_of_mem _ later)
        · intro first isFirst second isSecond
          exact apart first (List.mem_cons_of_mem _ isFirst) second
            (List.mem_cons_of_mem _ isSecond)
      · intro found here later
        obtain ⟨place, other, listed, there⟩ := (mem_walk_iff empty step).mp later
        have member := List.mem_cons_of_mem element (List.mem_of_getElem? listed)
        exact apart element List.mem_cons_self other member index (index + 1 + place) (by omega)
          here there

/-- Every path of a report on an item leads on from the path of the item. -/
theorem mem_places_itemReport {value : Json} (sorted : value.IsSorted) {place : List Step}
    (member : place ∈ places (itemReport registry path value)) :
    ∃ indices, place = placeOf path ++ stepsTo indices := by
  obtain ⟨resolution, reported, rfl⟩ := List.mem_map.mp member
  obtain ⟨indices, fields, -, made⟩ := (mem_itemReport_iff sorted path).mp reported
  refine ⟨indices, ?_⟩
  rw [(isAbout_of_ofFields (mem_ownReport.mp made)).1, placeOf_below]

/-- `base` is where the list with this path stands. -/
theorem nodup_places_inElements {base : List Step} {elements : List Json}
    (leads : ∀ index, placeOf (elementPath path index) = base ++ stepsTo [index])
    (sorted : ∀ element ∈ elements, element.IsSorted)
    (each : ∀ element ∈ elements, ∀ path, (places (itemReport registry path element)).Nodup) :
    (places (inElements registry path 0 elements).2).Nodup := by
  apply nodup_walk
    (fun index element => places (itemReport registry (elementPath path index) element))
    (fun index elements => places (inElements registry path index elements).2)
  · exact fun _ => rfl
  · exact fun _ _ _ => places_append _ _
  · intro element member index
    exact each element member _
  · intro first isFirst second isSecond index other different place here there
    obtain ⟨more, rfl⟩ := mem_places_itemReport (sorted first isFirst) here
    obtain ⟨further, same⟩ := mem_places_itemReport (sorted second isSecond) there
    rw [leads, leads, List.append_assoc, List.append_assoc] at same
    have steps := List.append_cancel_left same
    simp only [stepsTo, List.flatMap_cons, List.flatMap_nil, List.append_nil, List.cons_append,
      List.nil_append, List.cons.injEq, Step.element.injEq] at steps
    exact different steps.2.1

/-- The places in a list are distinct if those in each element are. -/
theorem nodup_places_listReport {base : List Step} {value : Json} (sorted : value.IsSorted)
    (leads : ∀ index, placeOf (elementPath path index) = base ++ stepsTo [index])
    (each : ∀ element, Json.Lists "items" value element → ∀ path,
      (places (itemReport registry path element)).Nodup) :
    (places (listReport registry path value)).Nodup := by
  cases value with
  | object fields =>
      show (places (inItems registry path fields).2).Nodup
      rw [inItems_snd path (sorted.of_asObject? rfl).1]
      cases found : Dict.get? "items" fields with
      | none => exact List.nodup_nil
      | some inner =>
          have isField : (Json.object fields).field? "items" = some inner := found
          have inside := sorted.of_field? isField
          cases inner with
          | array elements =>
              exact nodup_places_inElements leads (inside.of_asArray? rfl) fun element member =>
                each element ⟨elements, isField, member⟩
          | _ => exact List.nodup_nil
  | _ => exact List.nodup_nil

/-- No place is reported twice for an item. -/
theorem nodup_places_itemReport (value : Json) : value.IsSorted → ∀ path,
    (places (itemReport registry path value)).Nodup := by
  induction value using Json.induction_sizeOf with
  | step value ih =>
      intro sorted path
      cases value with
      | object fields =>
          rw [itemReport_object, places_append]
          apply List.Nodup.append
          · show (places (listReport registry (itemsPath path) (.object fields))).Nodup
            apply nodup_places_listReport sorted (placeOf_inner path)
            intro element listed
            obtain ⟨elements, found, member⟩ := listed
            exact ih element (Json.Lists.sizeOf_lt ⟨elements, found, member⟩)
              ((sorted.of_field? found).of_asArray? rfl element member)
          · rw [ownReport]
            cases ofFields registry path fields with
            | none => exact List.nodup_nil
            | some resolution => exact List.nodup_singleton _
          · intro place inside own
            obtain ⟨first, reported, rfl⟩ := List.mem_map.mp inside
            obtain ⟨second, here, same⟩ := List.mem_map.mp own
            obtain ⟨index, more, inner, -, made⟩ := (mem_listReport_iff sorted).mp reported
            have atPath := (isAbout_of_ofFields (mem_ownReport.mp here)).1
            rw [atPath, (isAbout_of_ofFields made).1, placeOf_below, placeOf_inner,
              List.append_assoc] at same
            have steps := List.self_eq_append_right.mp same
            simp [stepsTo] at steps
      | _ => exact List.nodup_nil

theorem nodup_places_of_leads {base : List Step} {value : Json} (sorted : value.IsSorted)
    (leads : ∀ index, placeOf (elementPath path index) = base ++ stepsTo [index]) :
    (places (listReport registry path value)).Nodup := by
  apply nodup_places_listReport sorted leads
  intro element listed
  obtain ⟨elements, found, member⟩ := listed
  exact nodup_places_itemReport element ((sorted.of_field? found).of_asArray? rfl element member)

end Distinct

section Layout

variable {layout : Json} {place : List Step}

/-- The path of one of the two lists of a layout, and where the value stands that has the list. -/
inductive IsRootList : String → List Step → Prop
  | own : IsRootList "items" []
  | container : IsRootList "layoutContainer.items" [.field "layoutContainer"]

/-- The path of a root list leads to its place. -/
theorem IsRootList.leads {base : List Step} (isRoot : IsRootList path base) (index : Nat) :
    placeOf (elementPath path index) = base ++ stepsTo [index] := by
  cases isRoot with
  | own => exact placeOf_items index
  | container => exact placeOf_container index

/-- So do longer paths. -/
theorem IsRootList.placeOf_below {base : List Step} (isRoot : IsRootList path base) (index : Nat)
    (more : List Nat) :
    placeOf (below (elementPath path index) more) = base ++ stepsTo (index :: more) := by
  rw [Json.placeOf_below, isRoot.leads, List.append_assoc]
  rfl

/-- Steps lead from item to item exactly if they are those of some indices. -/
theorem toItem_iff : ToItem place ↔ ∃ index more, place = stepsTo (index :: more) := by
  constructor
  · intro leads
    induction leads with
    | listed index => exact ⟨index, [], rfl⟩
    | deeper index _ ih =>
        obtain ⟨next, more, rfl⟩ := ih
        exact ⟨index, next :: more, rfl⟩
  · intro leads
    obtain ⟨index, more, rfl⟩ := leads
    induction more generalizing index with
    | nil => exact .listed index
    | cons next more ih => exact .deeper index (ih next)

/-- A place is filled in exactly if indices lead to it from a root list. -/
theorem isFilledPlace_iff_root : IsFilledPlace place ↔
    ∃ path base index more, IsRootList path base ∧ place = base ++ stepsTo (index :: more) := by
  constructor
  · intro isFilled
    cases isFilled with
    | root inside =>
        obtain ⟨index, more, rfl⟩ := toItem_iff.mp inside
        exact ⟨_, _, index, more, .own, rfl⟩
    | container inside =>
        obtain ⟨index, more, rfl⟩ := toItem_iff.mp inside
        exact ⟨_, _, index, more, .container, rfl⟩
  · intro leads
    obtain ⟨path, base, index, more, isRoot, rfl⟩ := leads
    cases isRoot with
    | own => exact .root (toItem_iff.mpr ⟨index, more, rfl⟩)
    | container => exact .container (toItem_iff.mpr ⟨index, more, rfl⟩)

/-- What is reported on a layout is reported on an item that one of its lists leads to. -/
theorem mem_resolve_iff (sorted : layout.IsSorted) :
    resolution ∈ (resolve registry layout).2 ↔
      ∃ path base index more fields, IsRootList path base ∧
        layout.at? (base ++ stepsTo (index :: more)) = some (.object fields) ∧
          ofFields registry (below (elementPath path index) more) fields = some resolution := by
  rw [resolve_snd, List.mem_append]
  constructor
  · intro reported
    rcases reported with own | inside
    · obtain ⟨index, more, fields, reached, made⟩ := (mem_listReport_iff sorted).mp own
      exact ⟨_, _, index, more, fields, .own, reached, made⟩
    · cases present : layout.field? "layoutContainer" with
      | none =>
          rw [present] at inside
          cases inside
      | some container =>
          rw [present] at inside
          obtain ⟨index, more, fields, reached, made⟩ :=
            (mem_listReport_iff (sorted.of_field? present)).mp inside
          refine ⟨_, _, index, more, fields, .container, ?_, made⟩
          rw [List.singleton_append, at?, part?, present]
          exact reached
  · intro leads
    obtain ⟨path, base, index, more, fields, isRoot, reached, made⟩ := leads
    cases isRoot with
    | own => exact .inl ((mem_listReport_iff sorted).mpr ⟨index, more, fields, reached, made⟩)
    | container =>
        obtain ⟨container, present, further⟩ := Option.bind_eq_some_iff.mp reached
        have present : layout.field? "layoutContainer" = some container := present
        rw [present]
        exact .inr ((mem_listReport_iff (sorted.of_field? present)).mpr
          ⟨index, more, fields, further, made⟩)

/-- No two entries of the report name one place. -/
theorem nodup_places_resolve (sorted : layout.IsSorted) :
    (places (resolve registry layout).2).Nodup := by
  rw [resolve_snd, places_append]
  apply List.Nodup.append (nodup_places_of_leads sorted IsRootList.own.leads)
  · cases present : layout.field? "layoutContainer" with
    | none => exact List.nodup_nil
    | some container =>
        exact nodup_places_of_leads (sorted.of_field? present) IsRootList.container.leads
  · intro place own inside
    obtain ⟨first, reported, rfl⟩ := List.mem_map.mp own
    obtain ⟨second, reportedToo, same⟩ := List.mem_map.mp inside
    obtain ⟨index, more, fields, -, made⟩ := (mem_listReport_iff sorted).mp reported
    cases present : layout.field? "layoutContainer" with
    | none =>
        rw [present] at reportedToo
        cases reportedToo
    | some container =>
        rw [present] at reportedToo
        obtain ⟨other, further, others, -, madeToo⟩ :=
          (mem_listReport_iff (sorted.of_field? present)).mp reportedToo
        rw [(isAbout_of_ofFields made).1, (isAbout_of_ofFields madeToo).1,
          IsRootList.own.placeOf_below, IsRootList.container.placeOf_below] at same
        simp [stepsTo] at same

end Layout

section Report

variable {layout item : Json} {place : List Step}

/-- The resolution says what became of an item, of which `left` is left. -/
structure Tells (registry : Registry) (item left : Json) (resolution : IdResolution) : Prop where
  typed : typeOf? left = some resolution.itemType
  authored_eq : resolution.authored = (item.field? "componentNodeId").bind asString?
  resolved_eq : resolution.resolved = registry.resolveType resolution.itemType
  received : ∀ id, resolution.resolved = some id →
    id ∈ registry.componentIds ∧ left.field? "componentNodeId" = some (.string id)
  unknown : resolution.resolved = none →
    left.field? "componentNodeId" = item.field? "componentNodeId"

/-- The report tells what became of each open component that is visited, and nothing else has changed. -/
structure IsReport (registry : Registry) (layout result : Json) (report : List IdResolution) :
    Prop where
  paths_nodup : (report.map (·.path)).Nodup
  places_nodup : (places report).Nodup
  lists_iff : ∀ place, place ∈ places report ↔
    IsFilledPlace place ∧ ∃ item, layout.at? place = some item ∧ IsOpenComponent item
  tells : ∀ resolution ∈ report, ∃ item left, layout.at? (placeOf resolution.path) = some item ∧
    result.at? (placeOf resolution.path) = some left ∧ resolution.Tells registry item left
  keeps_others : ∀ place item, layout.at? place = some item →
    Step.field "componentNodeId" ∉ place → place ∉ places report →
      ∃ left, result.at? place = some left ∧
        left.field? "componentNodeId" = item.field? "componentNodeId"

/-- A place that is filled in lies inside no identifier. -/
theorem not_mem_of_isFilledPlace (isFilled : IsFilledPlace place) :
    Step.field "componentNodeId" ∉ place := by
  obtain ⟨path, base, index, more, isRoot, rfl⟩ := isFilledPlace_iff_root.mp isFilled
  cases isRoot <;> simp [stepsTo]

/-- Only open components are given an identifier. -/
theorem isOpenComponent_of_replacement? {id : String}
    (given : replacement? registry item = some id) : IsOpenComponent item := by
  obtain ⟨itemType, typed, found⟩ := Option.bind_eq_some_iff.mp given
  split at found
  · next needed =>
      obtain ⟨isComponent, opened⟩ := Bool.and_eq_true_iff.mp needed
      exact ⟨itemType, typed, isComponent, opened⟩
  · cases found

/-- A resolution tells what became of its component. -/
theorem tells_filled (about : resolution.IsAbout registry item) (opened : IsOpenComponent item) :
    resolution.Tells registry item (filled registry item) := by
  obtain ⟨itemType, typed, isComponent, isOpened⟩ := opened
  have received := replacement?_eq registry typed isComponent
  obtain rfl : resolution.itemType = itemType := Option.some.inj (about.typed.symm.trans typed)
  rw [isOpened, if_pos rfl, ← about.resolved_eq] at received
  refine ⟨(typeOf?_filled registry item).trans about.typed, about.authored_eq, about.resolved_eq,
    ?_, ?_⟩
  · intro id known
    constructor
    · exact Registry.mem_componentIds_of_resolveType (about.resolved_eq.symm.trans known)
    · rw [field?_filled_componentNodeId, received, known]
      rfl
  · intro unknown
    rw [field?_filled_componentNodeId, received, unknown]
    rfl

/-- The report names exactly the places of the visited open components. -/
theorem mem_places_resolve_iff (sorted : layout.IsSorted) :
    place ∈ places (resolve registry layout).2 ↔
      IsFilledPlace place ∧ ∃ item, layout.at? place = some item ∧ IsOpenComponent item := by
  rw [isFilledPlace_iff_root]
  constructor
  · intro member
    obtain ⟨resolution, reported, rfl⟩ := List.mem_map.mp member
    obtain ⟨path, base, index, more, fields, isRoot, reached, made⟩ :=
      (mem_resolve_iff sorted).mp reported
    obtain ⟨atPath, opened, -⟩ := isAbout_of_ofFields made
    rw [atPath, isRoot.placeOf_below]
    exact ⟨⟨path, base, index, more, isRoot, rfl⟩, _, reached, opened⟩
  · intro visited
    obtain ⟨⟨path, base, index, more, isRoot, rfl⟩, item, reached, opened⟩ := visited
    have ⟨itemType, typed, _⟩ := opened
    obtain ⟨fields, rfl⟩ := eq_object_of_typeOf? typed
    obtain ⟨resolution, made⟩ :=
      exists_ofFields registry (below (elementPath path index) more) opened
    refine List.mem_map.mpr ⟨resolution, ?_, ?_⟩
    · exact (mem_resolve_iff sorted).mpr ⟨path, base, index, more, fields, isRoot, reached, made⟩
    · rw [(isAbout_of_ofFields made).1, isRoot.placeOf_below]

/-- Every entry of a report tells what became of the item at its path. -/
theorem exists_tells (sorted : layout.IsSorted)
    (reported : resolution ∈ (resolve registry layout).2) :
    ∃ item left, layout.at? (placeOf resolution.path) = some item ∧
      (resolve registry layout).1.at? (placeOf resolution.path) = some left ∧
        resolution.Tells registry item left := by
  obtain ⟨path, base, index, more, fields, isRoot, reached, made⟩ :=
    (mem_resolve_iff sorted).mp reported
  obtain ⟨atPath, opened, about⟩ := isAbout_of_ofFields made
  rw [← isRoot.placeOf_below, ← atPath] at reached
  have isFilled : IsFilledPlace (placeOf resolution.path) := by
    rw [atPath, isRoot.placeOf_below]
    exact isFilledPlace_iff_root.mpr ⟨path, base, index, more, isRoot, rfl⟩
  have leaves : Leaves registry (IsFilledPlace (placeOf resolution.path)) (.object fields) _ :=
    leaves_resolve reached (not_mem_of_isFilledPlace isFilled)
  obtain ⟨left, stands, here, -⟩ := leaves
  rw [here isFilled] at stands
  exact ⟨_, _, reached, stands, tells_filled about opened⟩

/-- An item that is not reported keeps what it has as its identifier. -/
theorem exists_kept_of_not_mem_places (sorted : layout.IsSorted)
    (found : layout.at? place = some item) (outside : Step.field "componentNodeId" ∉ place)
    (unreported : place ∉ places (resolve registry layout).2) :
    ∃ left, (resolve registry layout).1.at? place = some left ∧
      left.field? "componentNodeId" = item.field? "componentNodeId" := by
  have leaves : Leaves registry (IsFilledPlace place) item _ := leaves_resolve found outside
  obtain ⟨left, stands, here, elsewhere⟩ := leaves
  refine ⟨left, stands, ?_⟩
  by_cases isFilled : IsFilledPlace place
  · rw [here isFilled, field?_filled_componentNodeId]
    cases given : replacement? registry item with
    | none => rfl
    | some id =>
        exact absurd ((mem_places_resolve_iff sorted).mpr
          ⟨isFilled, item, found, isOpenComponent_of_replacement? given⟩) unreported
  · exact elsewhere isFilled _ (by decide) (by decide)

/-- The report of the pass is complete, and nothing else has changed. -/
theorem isReport_resolve (sorted : layout.IsSorted) :
    IsReport registry layout (resolve registry layout).1 (resolve registry layout).2 where
  paths_nodup := by
    apply List.Nodup.of_map placeOf
    rw [List.map_map]
    exact nodup_places_resolve sorted
  places_nodup := nodup_places_resolve sorted
  lists_iff _ := mem_places_resolve_iff sorted
  tells _ := exists_tells sorted
  keeps_others _ _ := exists_kept_of_not_mem_places sorted

/-- Filling in identifiers twice is doing it once, and each open component visited is reported. -/
theorem resolve_isReport (registry : Registry) (sorted : layout.IsSorted) :
    (resolve registry (resolve registry layout).1).1 = (resolve registry layout).1 ∧
      withoutIds (resolve registry layout).1 = withoutIds layout ∧
      IsReport registry layout (resolve registry layout).1 (resolve registry layout).2 :=
  ⟨resolve_resolve registry layout,
    withoutIds_resolve registry (fun _ same => (sorted.of_asObject? (same ▸ rfl)).1),
    isReport_resolve sorted⟩

/-- A frame with a button, and a gauge in the container. -/
def buttonAndGauge : Json :=
  .object
    [("items", .array
        [.object
          [("items", .array
              [.object [("componentNodeId", .string "BUTTON_ID"), ("type", .string "button")]]),
            ("type", .string "frame")]]),
      ("layoutContainer", .object [("items", .array [.object [("type", .string "gauge")]])])]

/-- The button is reported with the identifier that it gets, and the gauge without one. -/
theorem resolve_isReport_button_and_gauge :
    ((resolve buttonRegistry buttonAndGauge).2.map fun entry => (entry.path, entry.resolved)) =
        [("items[0].items[0]", some "20:1"), ("layoutContainer.items[0]", none)] ∧
      (resolve buttonRegistry (resolve buttonRegistry buttonAndGauge).1).1 =
        (resolve buttonRegistry buttonAndGauge).1 ∧
      withoutIds (resolve buttonRegistry buttonAndGauge).1 = withoutIds buttonAndGauge ∧
      IsReport buttonRegistry buttonAndGauge (resolve buttonRegistry buttonAndGauge).1
        (resolve buttonRegistry buttonAndGauge).2 :=
  ⟨by decide +kernel, resolve_isReport buttonRegistry (isSorted_normalize buttonAndGauge)⟩

end Report

end IdResolution

end DesignScene
