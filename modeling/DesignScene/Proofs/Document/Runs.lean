/-
This file says which items are left of a list when the runs of tabs in it are joined.
-/
import DesignScene.Proofs.Document.Settled
import DesignScene.Proofs.Json.Sorted
import DesignScene.Proofs.Property.LabelLists

namespace DesignScene

open LayoutItem LayoutDocument

namespace Tabs

section Joining

variable {before run after : List Json}

/-- Tabs at the start of a list join the open run. -/
theorem joinRunsAfter_append {tabs : List Json} (each : ∀ item ∈ tabs, isTab item = true)
    (run rest : List Json) : joinRunsAfter run (tabs ++ rest) = joinRunsAfter (run ++ tabs) rest := by
  induction tabs generalizing run with
  | nil => rw [List.nil_append, List.append_nil]
  | cons item more ih =>
      rw [List.cons_append, joinRunsAfter, if_pos (each item List.mem_cons_self),
        ih fun other later => each other (List.mem_cons_of_mem _ later), List.append_assoc,
        List.singleton_append]

/-- An item that is no tab stands between the runs before it and those behind it. -/
theorem joinRunsAfter_append_cons {item : Json} (noTab : isTab item = false)
    (run before after : List Json) :
    joinRunsAfter run (before ++ item :: after) =
      joinRunsAfter run before ++ item :: joinRuns after := by
  induction before generalizing run with
  | nil => simp [joinRuns, joinRunsAfter, noTab]
  | cons first more ih =>
      rw [List.cons_append, joinRunsAfter, joinRunsAfter]
      split
      · exact ih _
      · rw [ih, List.append_assoc, List.cons_append]

/-- The tabs stand next to each other, and neither before nor behind them stands another tab. -/
structure IsRun (before run after : List Json) : Prop where
  tabs : ∀ item ∈ run, isTab item = true
  first : ∀ item, before.getLast? = some item → isTab item = false
  last : ∀ item, after.head? = some item → isTab item = false

/-- A run is joined by itself. -/
theorem IsRun.joinRuns_eq (isRun : IsRun before run after) :
    joinRuns (before ++ (run ++ after)) = joinRuns before ++ (joinRun run ++ joinRuns after) := by
  have behind : joinRuns (run ++ after) = joinRun run ++ joinRuns after := by
    rw [joinRuns, joinRunsAfter_append isRun.tabs, List.nil_append]
    cases after with
    | nil => simp [joinRuns, joinRunsAfter, joinRun]
    | cons next more =>
        have noTab := isRun.last next rfl
        simp [joinRuns, joinRunsAfter, noTab, joinRun]
  rw [← behind]
  cases before using List.reverseRecOn with
  | nil => rfl
  | append_singleton front item =>
      have noTab := isRun.first item List.getLast?_concat
      have through := joinRunsAfter_append_cons noTab [] front
      rw [List.append_assoc, List.singleton_append, joinRuns, joinRuns, through, through]
      simp [joinRuns, joinRunsAfter, joinRun]

/-- A run leaves one tab, or none if it is empty. -/
theorem length_joinRun (run : List Json) : (joinRun run).length = min run.length 1 := by
  match run with
  | [] => rfl
  | [_] => rfl
  | _ :: _ :: _ => simp [joinRun]

/-- How many items are left depends only on which items are tabs. -/
theorem length_joinRuns_map {change : Json → Json}
    (same : ∀ item, isTab (change item) = isTab item) (list : List Json) :
    (joinRuns (list.map change)).length = (joinRuns list).length := by
  have general (run : List Json) : (joinRunsAfter (run.map change) (list.map change)).length =
      (joinRunsAfter run list).length := by
    induction list generalizing run with
    | nil => simp [joinRunsAfter, length_joinRun]
    | cons item more ih =>
        have alone := ih []
        rw [List.map_nil] at alone
        rw [List.map_cons, joinRunsAfter, joinRunsAfter, same]
        split
        · rw [← ih, List.map_append, List.map_singleton]
        · simp [alone, length_joinRun]
  exact general []

theorem joinRuns_ne_nil {list : List Json} (present : list ≠ []) : joinRuns list ≠ [] := by
  have kept (run list : List Json) (present : run ≠ [] ∨ list ≠ []) :
      joinRunsAfter run list ≠ [] := by
    induction list generalizing run with
    | nil =>
        have isRun := List.length_pos_iff.mpr (present.resolve_right fun other => other rfl)
        refine List.length_pos_iff.mp ?_
        rw [joinRunsAfter, length_joinRun]
        omega
    | cons item more ih =>
        rw [joinRunsAfter]
        split
        · exact ih _ (.inl (by simp))
        · simp
  exact kept [] list (.inr present)

end Joining

section Inside

/-- What becomes of a field of an item: its two lists are joined. -/
def joinedField (name : String) : Json → Json
  | .array elements =>
      if name = "items" || name = "children" then .array (inList elements) else .array elements
  | json => json

/-- The elements are joined inside one by one. -/
theorem inElements_eq_map (elements : List Json) : inElements elements = elements.map inItem := by
  induction elements with
  | nil => rfl
  | cons element more ih => rw [inElements, ih, List.map_cons]

theorem inFields_cons (name : String) (value : Json) (more : List (String × Json)) :
    inFields ((name, value) :: more) = (name, joinedField name value) :: inFields more := by
  cases value with
  | array elements =>
      rw [inFields, joinedField, inList]
      split <;> rfl
  | _ => rfl

/-- Inside an item only its lists of items are joined. -/
theorem get?_inFields (name : String) (fields : Dict Json) :
    Dict.get? name (inFields fields) = (fields.get? name).map (joinedField name) := by
  induction fields with
  | nil => rfl
  | cons field more ih =>
      obtain ⟨key, value⟩ := field
      rw [inFields_cons, Dict.get?, Dict.get?]
      split
      · next same => rw [same, Option.map_some]
      · exact ih

/-- A field of a joined item is the joined field. -/
theorem field?_inItem (name : String) (item : Json) :
    (inItem item).field? name = (item.field? name).map (joinedField name) := by
  cases item with
  | object fields => exact get?_inFields name fields
  | _ => rfl

/-- An item keeps all its fields but its lists. -/
theorem field?_inItem_of_ne {name : String} (notItems : name ≠ "items")
    (notChildren : name ≠ "children") (item : Json) :
    (inItem item).field? name = item.field? name := by
  have kept : joinedField name = id := by
    funext value
    cases value <;> simp [joinedField, notItems, notChildren]
  rw [field?_inItem, kept, Option.map_id, id]

/-- Joining inside an item leaves its type. -/
theorem typeOf?_inItem (item : Json) : typeOf? (inItem item) = typeOf? item := by
  rw [typeOf?, field?_inItem_of_ne (by decide) (by decide), typeOf?]

/-- A tab stays a tab. -/
theorem isTab_inItem (item : Json) : isTab (inItem item) = isTab item := by
  rw [isTab, field?_inItem_of_ne (by decide) (by decide), isTab]

/-- Its labels stay as they are. -/
theorem labels_inItem (item : Json) : labels (inItem item) = labels item := by
  have sameField : labelField (inItem item) = labelField item := by
    rw [labelField, field?_inItem_of_ne (by decide) (by decide),
      field?_inItem_of_ne (by decide) (by decide), labelField]
  rw [labels, sameField, labels]

/-- The list of an item is joined. -/
theorem ownList?_inItem (item : Json) :
    ownList? (inItem item) = (ownList? item).map inList := by
  have joined {name : String} (listed : name = "items" ∨ name = "children") (value : Json) :
      (joinedField name value).asArray? = value.asArray?.map inList := by
    rcases listed with rfl | rfl <;> cases value <;> rfl
  rw [ownList?, ownList?, field?_inItem, field?_inItem]
  cases item.field? "items" with
  | some value => exact joined (.inl rfl) value
  | none =>
      cases item.field? "children" with
      | some value => exact joined (.inr rfl) value
      | none => rfl

/-- An item that is read with its own list is read with the joined list. -/
theorem innerValues_inItem {item : Json} {inner : List Json} (own : ownList? item = some inner)
    (present : innerValues item ≠ []) : innerValues (inItem item) = inList inner := by
  rw [innerValues, typeOf?_inItem, ownList?_inItem, own]
  rw [innerValues] at present
  cases typed : typeOf? item with
  | none => simp [typed] at present
  | some itemType =>
      simp only [typed] at present ⊢
      split_ifs at present ⊢
      · rfl
      · rfl
      · exact absurd rfl present

/-- A joined list is as long as the list with its runs joined. -/
theorem length_inList (list : List Json) : (inList list).length = (joinRuns list).length := by
  rw [inList, inElements_eq_map, length_joinRuns_map isTab_inItem]

/-- A run is still a run after the joining inside its tabs. -/
theorem IsRun.map_inItem {before run after : List Json} (isRun : IsRun before run after) :
    IsRun (before.map inItem) (run.map inItem) (after.map inItem) where
  tabs item member := by
    obtain ⟨tab, listed, rfl⟩ := List.mem_map.mp member
    rw [isTab_inItem, isRun.tabs tab listed]
  first item isLast := by
    rw [List.getLast?_map] at isLast
    obtain ⟨other, listed, rfl⟩ := Option.map_eq_some_iff.mp isLast
    rw [isTab_inItem, isRun.first other listed]
  last item isFirst := by
    rw [List.head?_map] at isFirst
    obtain ⟨other, listed, rfl⟩ := Option.map_eq_some_iff.mp isFirst
    rw [isTab_inItem, isRun.last other listed]

/-- An item that is no tab stands between what is joined before and behind it. -/
theorem inList_append_cons {before after : List Json} {item : Json}
    (noTab : isTab item = false) :
    inList (before ++ item :: after) = joinRuns (before.map inItem) ++
      inItem item :: joinRuns (after.map inItem) := by
  rw [inList, inElements_eq_map, List.map_append, List.map_cons, joinRuns]
  exact joinRunsAfter_append_cons ((isTab_inItem item).trans noTab) _ _ _

/-- The first field `items` that is an array is joined. -/
theorem get?_items_inItemsField (fields : Dict Json) :
    Dict.get? "items" (inItemsField fields).1 = (fields.get? "items").map (joinedField "items") := by
  rw [inItemsField]
  split
  · next elements found =>
      rw [found]
      exact Dict.get?_insert_self _ _ _
  · next noArray =>
      cases found : fields.get? "items" with
      | none => rfl
      | some value =>
          cases value with
          | array elements => exact absurd found (noArray elements)
          | _ => rfl

/-- What becomes of the container of the root. -/
def joinedContainer : Json → Json
  | .object fields => .object (inItemsField fields).1
  | json => json

/-- The items of a merged layout are joined. -/
theorem field?_merge_items (layout : Json) :
    (merge layout).1.field? "items" = (layout.field? "items").map (joinedField "items") := by
  cases layout with
  | object fields =>
      have joined := get?_items_inItemsField fields
      simp only [merge]
      split
      · exact (Dict.get?_insert_of_ne (by decide) _ _).trans joined
      · exact joined
  | _ => rfl

/-- So are those of its container. -/
theorem field?_merge_layoutContainer (layout : Json) :
    (merge layout).1.field? "layoutContainer" =
      (layout.field? "layoutContainer").map joinedContainer := by
  cases layout with
  | object fields =>
      have same := (sameButItems_inItemsField fields).rest "layoutContainer" (by decide)
      have outer : (Json.object fields).field? "layoutContainer" =
          Dict.get? "layoutContainer" fields := rfl
      simp only [merge, same, outer]
      cases found : Dict.get? "layoutContainer" fields with
      | none => exact same.trans found
      | some value =>
          cases value with
          | object container => exact Dict.get?_insert_self _ _ _
          | _ => exact same.trans found
  | _ => rfl

/-- The items of the root of a layout are joined. -/
theorem rootValues_merge (layout : Json) :
    rootValues (merge layout).1 = inList (rootValues layout) := by
  have inner (container : Json) : (joinedContainer container).field? "items" =
      (container.field? "items").map (joinedField "items") := by
    cases container with
    | object fields => exact get?_items_inItemsField fields
    | _ => rfl
  have sameField : itemsField? (merge layout).1 = (itemsField? layout).map (joinedField "items") := by
    rw [itemsField?, itemsField?, field?_merge_items, field?_merge_layoutContainer]
    cases layout.field? "items" <;> cases layout.field? "layoutContainer" <;> simp [inner]
  rw [rootValues, rootValues, sameField]
  cases itemsField? layout with
  | none => rfl
  | some value => cases value <;> rfl

/-- The elements of the list of a sorted item are sorted. -/
theorem isSorted_of_mem_ownList {item value : Json} {inner : List Json} (sorted : item.IsSorted)
    (own : ownList? item = some inner) (member : value ∈ inner) : value.IsSorted := by
  obtain ⟨field, found, isArray⟩ := Option.bind_eq_some_iff.mp own
  refine Json.IsSorted.of_asArray? ?_ isArray value member
  rcases Option.or_eq_some_iff.mp found with items | ⟨-, children⟩
  · exact sorted.of_field? items
  · exact sorted.of_field? children

/-- The root values of a sorted layout are sorted. -/
theorem isSorted_of_mem_rootValues {layout item : Json} (sorted : layout.IsSorted)
    (member : item ∈ rootValues layout) : item.IsSorted := by
  obtain ⟨elements, listed, here⟩ : ∃ elements,
      (itemsField? layout).bind Json.asArray? = some elements ∧ item ∈ elements := by
    rw [rootValues] at member
    cases listed : (itemsField? layout).bind Json.asArray? with
    | none => simp [listed] at member
    | some elements => exact ⟨elements, rfl, by simpa [listed] using member⟩
  obtain ⟨field, found, isArray⟩ := Option.bind_eq_some_iff.mp listed
  refine Json.IsSorted.of_asArray? ?_ isArray item here
  rcases Option.or_eq_some_iff.mp found with own | ⟨-, contained⟩
  · exact sorted.of_field? own
  · obtain ⟨container, isThere, inside⟩ := Option.bind_eq_some_iff.mp contained
    exact (sorted.of_field? isThere).of_field? inside

end Inside

section Joined

/-- The item has no properties but its labels, and no variants, swaps or overrides. -/
structure IsBare (item : Json) : Prop where
  properties : ∀ value, item.field? "properties" = some value → ∃ fields, value = .object fields ∧
    ∀ key ∈ Dict.keys fields, key = "Label" ∨ key = "label" ∨ key = "text"
  variants : item.field? "variants" = none
  iconSwaps : item.field? "iconSwaps" = none
  visibilityOverrides : item.field? "visibilityOverrides" = none

/-- A bare tab is bare after the joining inside it. -/
theorem IsBare.inItem {item : Json} (bare : IsBare item) : IsBare (inItem item) where
  properties value found := by
    rw [field?_inItem_of_ne (by decide) (by decide)] at found
    exact bare.properties value found
  variants := by rw [field?_inItem_of_ne (by decide) (by decide), bare.variants]
  iconSwaps := by rw [field?_inItem_of_ne (by decide) (by decide), bare.iconSwaps]
  visibilityOverrides := by
    rw [field?_inItem_of_ne (by decide) (by decide), bare.visibilityOverrides]

/-- The labels take the place of all other label keys. -/
theorem setLabels_eq (list : List Json) {properties : Dict Json} (sorted : properties.Sorted)
    (bare : ∀ key ∈ properties.keys, key = "Label" ∨ key = "label" ∨ key = "text") :
    setLabels list properties = [("Label", .array list)] := by
  have once := sorted.erase "label"
  have twice := once.erase "text"
  refine Dict.insert_eq_singleton twice fun entry member => ?_
  have noText := once.ne_of_mem_erase member
  have earlier := (Dict.erase_sublist _ _).subset member
  have noLabel := sorted.ne_of_mem_erase earlier
  have key := List.mem_map_of_mem (f := Prod.fst) ((Dict.erase_sublist _ _).subset earlier)
  rcases bare entry.1 key with same | same | same
  · exact same
  · exact absurd same noLabel
  · exact absurd same noText

/-- An item keeps all its fields but its properties. -/
theorem field?_withLabels {name : String} (different : "properties" ≠ name) (list : List Json)
    (item : Json) : (withLabels list item).field? name = item.field? name := by
  cases item with
  | object fields =>
      rw [withLabels]
      split
      · exact Dict.get?_insert_of_ne different _ _
      · exact Dict.get?_insert_of_ne different _ _
      · rfl
  | _ => rfl

/-- A bare tab with labels has no property but its labels. -/
theorem field?_withLabels_properties (list : List Json) {fields : Dict Json}
    (bare : IsBare (.object fields)) (sorted : ∀ properties,
      fields.get? "properties" = some (.object properties) → Dict.Sorted properties) :
    (withLabels list (.object fields)).field? "properties" =
      some (.object [("Label", .array list)]) := by
  cases found : Dict.get? "properties" fields with
  | none =>
      have empty : setLabels list [] = [("Label", .array list)] := rfl
      simp only [withLabels, found, empty]
      exact Dict.get?_insert_self _ _ _
  | some value =>
      obtain ⟨properties, rfl, keys⟩ := bare.properties value found
      simp only [withLabels, found, setLabels_eq list (sorted properties found) keys]
      exact Dict.get?_insert_self _ _ _

/-- The fields of a component apart from its properties and from what directs its layout. -/
def componentFields : List String :=
  ["type", "componentNodeId", "componentId", "variants", "iconSwaps", "visibilityOverrides"]

/-- The value is the component with these texts as its only properties. -/
structure Relabels (texts : List String) (item value : Json) : Prop where
  properties : value.field? "properties" =
    some (.object [("Label", .array (texts.map .string))])
  kept : ∀ name ∈ componentFields, value.field? name = item.field? name

/-- A tab has the type of a component, which is called tab. -/
theorem exists_type_of_isTab {item : Json} (tab : isTab item = true) :
    ∃ itemType, typeOf? item = some itemType ∧ isComponentType itemType = true ∧
      Text.lower itemType = "tab" := by
  rw [isTab, ← typeOf?] at tab
  cases typed : typeOf? item with
  | none =>
      rw [typed] at tab
      cases tab
  | some itemType =>
      rw [typed] at tab
      have same : Text.equalIgnoringAsciiCase itemType "tab" = true := tab
      have lower := Text.lower_of_equalIgnoringAsciiCase same (by simp [Text.lowerAsciiChars])
      refine ⟨itemType, rfl, ?_, lower⟩
      rw [isComponentType, Bool.not_eq_true']
      have native : ∀ native ∈ nativeTypes, Text.equalIgnoringAsciiCase native "tab" = false := by
        decide
      rw [← Bool.not_eq_true, List.contains_iff_mem]
      intro member
      rw [native itemType member] at same
      cases same

/-- A tab has no items inside it. -/
theorem isTab_eq_false_of_innerValues {item : Json} (present : innerValues item ≠ []) :
    isTab item = false := by
  cases tab : isTab item with
  | false => rfl
  | true =>
      obtain ⟨itemType, typed, isComponent, -⟩ := exists_type_of_isTab tab
      obtain ⟨fields, rfl⟩ := eq_object_of_typeOf? typed
      rw [isComponentType_eq, Bool.not_eq_true', Bool.or_eq_false_iff, Bool.or_eq_false_iff]
        at isComponent
      exact absurd (innerValues_eq_nil typed isComponent.1 isComponent.2.2) present

/-- Such a tab is read as a bag of labels only. -/
theorem onlyLabels_readProperties {texts : List String} {fields : Dict Json}
    (properties : fields.get? "properties" =
      some (.object [("Label", .array (texts.map .string))]))
    (variants : fields.get? "variants" = none) :
    PropertyBag.OnlyLabels texts (readProperties fields) := by
  have start : PropertyBag.OnlyLabels texts [("Label", .array (texts.map .string))] := by
    refine ⟨List.pairwise_singleton _ _, rfl, fun entry member => .inl ?_⟩
    rw [List.mem_singleton.mp member]
  simp only [readProperties, properties, variants]
  refine List.foldlRecOn _ _ start fun bag only key _ => ?_
  split
  · exact only.insertIfAbsent key _
  · exact only

namespace Relabels

variable {texts : List String} {item value : Json}

/-- Labels leave the type of an item. -/
theorem typeOf?_eq (relabels : Relabels texts item value) : typeOf? value = typeOf? item := by
  rw [typeOf?, relabels.kept "type" (by decide), typeOf?]

/-- Labels leave the identifier of an item. -/
theorem componentId?_eq (relabels : Relabels texts item value) :
    componentId? value = componentId? item := by
  rw [LayoutItem.componentId?_eq, LayoutItem.componentId?_eq,
    relabels.kept "componentNodeId" (by decide), relabels.kept "componentId" (by decide)]

/-- The identifier of the component stays unless another one is filled in. -/
theorem filled {registry : Registry} (relabels : Relabels texts item value)
    (kept : IdResolution.replacement? registry item = none) :
    Relabels texts item (IdResolution.filled registry value) := by
  have unfilled : IdResolution.replacement? registry value = none := by
    rw [← kept, IdResolution.replacement?, IdResolution.replacement?, relabels.typeOf?_eq,
      relabels.kept "componentNodeId" (by decide)]
  refine ⟨?_, fun name member => ?_⟩
  · rw [IdResolution.field?_filled registry (by decide) (by decide), relabels.properties]
  · rw [← relabels.kept name member]
    by_cases isId : name = "componentNodeId"
    · rw [isId, IdResolution.field?_filled_componentNodeId, unfilled]
      rfl
    · have noItems : "items" ≠ name := by
        rintro rfl
        exact absurd member (by decide)
      exact IdResolution.field?_filled registry noItems (Ne.symm isId) value

/-- A component whose only properties are labels is read as one that has nothing else. -/
theorem exists_component {α : Type} [Scalar α] (relabels : Relabels texts item value)
    (bare : IsBare item) {itemType : String} (typed : typeOf? item = some itemType)
    (isComponent : isComponentType itemType = true) (path : String) :
    ∃ spec, (ofJson path value : LayoutItem α) = .component spec ∧ spec.typeName = itemType ∧
      spec.componentId = componentId? item ∧ spec.iconSwaps = [] ∧ spec.visibilityOverrides = [] ∧
        PropertyBag.OnlyLabels texts spec.properties := by
  rw [← relabels.typeOf?_eq] at typed
  obtain ⟨fields, rfl⟩ := eq_object_of_typeOf? typed
  have noVariants : Dict.get? "variants" fields = none :=
    (relabels.kept "variants" (by decide)).trans bare.variants
  have noSwaps : Dict.get? "iconSwaps" fields = none :=
    (relabels.kept "iconSwaps" (by decide)).trans bare.iconSwaps
  have noOverrides : Dict.get? "visibilityOverrides" fields = none :=
    (relabels.kept "visibilityOverrides" (by decide)).trans bare.visibilityOverrides
  refine ⟨ComponentSpec.ofFields itemType fields, ofJson_component typed isComponent, rfl,
    relabels.componentId?_eq, ?_, ?_, ?_⟩
  · simp [ComponentSpec.ofFields, entriesOf, noSwaps]
  · simp [ComponentSpec.ofFields, entriesOf, noOverrides]
  · exact onlyLabels_readProperties relabels.properties noVariants

end Relabels

/-- Two or more tabs become the first one with the labels of all. -/
theorem relabels_joinRun {texts : List String} {first second : Json} {more : List Json}
    (labeled : (first :: second :: more).map labels = texts.map fun text => [.string text])
    (sorted : first.IsSorted) (bare : IsBare first) (tab : isTab first = true) :
    ∃ value, joinRun ((first :: second :: more).map inItem) = [value] ∧
      Relabels texts first value := by
  have listed : ((first :: second :: more).map inItem).flatMap labels = texts.map .string := by
    have same : labels ∘ inItem = labels := funext labels_inItem
    rw [List.flatMap_def, List.map_map, same, labeled, ← List.flatMap_def]
    exact List.map_eq_flatMap.symm
  obtain ⟨itemType, typed, -⟩ := exists_type_of_isTab tab
  obtain ⟨fields, rfl⟩ := eq_object_of_typeOf? typed
  have properties : (inItem (.object fields)).field? "properties" =
      (Json.object fields).field? "properties" :=
    field?_inItem_of_ne (by decide) (by decide) _
  refine ⟨_, congrArg (fun list => [withLabels list _]) listed, ?_, fun name member => ?_⟩
  · refine field?_withLabels_properties _ bare.inItem fun inner found => ?_
    have authored := properties.symm.trans found
    exact ((sorted.of_field? authored).of_asObject? rfl).1
  · have apart : "properties" ≠ name ∧ name ≠ "items" ∧ name ≠ "children" := by
      refine ⟨?_, ?_, ?_⟩ <;> rintro rfl <;> exact absurd member (by decide)
    rw [field?_withLabels apart.1, field?_inItem_of_ne apart.2.1 apart.2.2]

end Joined

end Tabs

end DesignScene
