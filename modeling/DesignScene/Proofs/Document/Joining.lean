/-
This file says what becomes of every list of a layout when its tabs are joined.
-/
import Mathlib.Data.List.Chain
import DesignScene.Proofs.Document.Runs

namespace DesignScene

namespace Tabs

section Spec

/-- The values differ at most in these fields of an object. -/
inductive Agree (names : List String) : Json → Json → Prop where
  | object {fields others : Dict Json}
      (rest : others.filter (·.1 ∉ names) = fields.filter (·.1 ∉ names)) :
      Agree names (.object fields) (.object others)
  | atom {value : Json} (noObject : value.asObject? = none) : Agree names value value

mutual

/-- The lists of the item are joined. -/
inductive Processed : Json → Json → Prop where
  | object {fields processed : List (String × Json)} (inside : ProcessedFields fields processed) :
      Processed (.object fields) (.object processed)
  | atom {item : Json} (noObject : item.asObject? = none) : Processed item item

inductive ProcessedFields : List (String × Json) → List (String × Json) → Prop where
  | nil : ProcessedFields [] []
  | list {name : String} {elements joined : List Json} {more processed : List (String × Json)}
      (listed : name = "items" ∨ name = "children") (inside : Joined elements joined)
      (rest : ProcessedFields more processed) :
      ProcessedFields ((name, .array elements) :: more) ((name, .array joined) :: processed)
  | other {name : String} {value : Json} {more processed : List (String × Json)}
      (noList : name = "items" ∨ name = "children" → value.asArray? = none)
      (rest : ProcessedFields more processed) :
      ProcessedFields ((name, value) :: more) ((name, value) :: processed)

/-- Of tabs that stand next to each other only the first one is left, and all other items stay. -/
inductive Joined : List Json → List Json → Prop where
  | nil : Joined [] []
  | item {item processed : Json} {more joined : List Json} (inside : Processed item processed)
      (alone : isTab item = true → ∀ next, more.head? = some next → isTab next = false)
      (rest : Joined more joined) : Joined (item :: more) (processed :: joined)
  | run {first second processed result : Json} {tabs more joined : List Json}
      (each : ∀ tab ∈ first :: second :: tabs, isTab tab = true)
      (ends : ∀ next, more.head? = some next → isTab next = false)
      (inside : Processed first processed) (same : Agree ["properties"] processed result)
      (rest : Joined more joined) :
      Joined ((first :: second :: tabs) ++ more) (result :: joined)

end

/-- A field that is an array is joined. -/
inductive JoinedArray : Json → Json → Prop where
  | array {elements joined : List Json} (inside : Joined elements joined) :
      JoinedArray (.array elements) (.array joined)
  | other {value : Json} (noArray : value.asArray? = none) : JoinedArray value value

/-- The items of an object are joined, and nothing else changes. -/
structure JoinedItems (value result : Json) : Prop where
  same : Agree ["items"] value result
  items : Option.Rel JoinedArray (value.field? "items") (result.field? "items")

/-- The items of the root and those of its container are joined, and nothing else changes. -/
structure JoinedLayout (layout result : Json) : Prop where
  same : Agree ["items", "layoutContainer"] layout result
  items : Option.Rel JoinedArray (layout.field? "items") (result.field? "items")
  container : Option.Rel JoinedItems (layout.field? "layoutContainer")
    (result.field? "layoutContainer")

/-- The lists in which tabs are looked for. -/
inductive Visited (layout : Json) : List Json → Prop where
  | items {list : List Json} (found : layout.field? "items" = some (.array list)) :
      Visited layout list
  | container {container : Json} {list : List Json}
      (present : layout.field? "layoutContainer" = some container)
      (found : container.field? "items" = some (.array list)) : Visited layout list
  | inside {list inner : List Json} {item : Json} {name : String} (outer : Visited layout list)
      (member : item ∈ list) (listed : name = "items" ∨ name = "children")
      (found : item.field? name = some (.array inner)) : Visited layout inner

/-- Not both items are tabs. -/
def Apart (item next : Json) : Prop := isTab item = true → isTab next = false

end Spec

section Soundness

/-- Labels change the properties of a tab only. -/
theorem agree_withLabels (list : List Json) (item : Json) :
    Agree ["properties"] item (withLabels list item) := by
  cases item with
  | object fields =>
      have member : "properties" ∈ ["properties"] := List.mem_cons_self
      rw [withLabels]
      split
      · exact .object (Dict.filter_insert member _ _)
      · exact .object (Dict.filter_insert member _ _)
      · exact .object rfl
  | _ => exact .atom rfl

variable {run list rest joined : List Json}

/-- A run at the start becomes its first tab. -/
theorem joined_joinRun (inside : ∀ item ∈ run, Processed item (inItem item))
    (tabs : ∀ item ∈ run, isTab item = true)
    (ends : ∀ next, rest.head? = some next → isTab next = false) (behind : Joined rest joined) :
    Joined (run ++ rest) (joinRun (run.map inItem) ++ joined) := by
  match run with
  | [] => exact behind
  | [tab] => exact .item (inside tab List.mem_cons_self) (fun _ => ends) behind
  | first :: second :: more =>
      exact .run tabs ends (inside first List.mem_cons_self) (agree_withLabels _ _) behind

/-- Each run becomes its first tab, by induction over the list behind the run that is still open. -/
theorem joined_joinRunsAfter (run : List Json)
    (inside : ∀ item ∈ run ++ list, Processed item (inItem item))
    (tabs : ∀ item ∈ run, isTab item = true) :
    Joined (run ++ list) (joinRunsAfter (run.map inItem) (list.map inItem)) := by
  induction list generalizing run with
  | nil =>
      rw [List.append_nil] at inside
      simpa [joinRunsAfter] using joined_joinRun inside tabs (by simp) .nil
  | cons item more ih =>
      rw [List.map_cons, joinRunsAfter, isTab_inItem]
      split
      · next tab =>
          have longer := ih (run ++ [item]) (by simpa using inside) fun other member =>
            (List.mem_append.mp member).elim (tabs other) fun last =>
              List.mem_singleton.mp last ▸ tab
          simpa using longer
      · next noTab =>
          have here : Processed item (inItem item) := inside item (by simp)
          have behind : Joined more (joinRunsAfter [] (more.map inItem)) :=
            ih [] (fun other later => inside other (by simp_all)) (by simp)
          refine joined_joinRun (fun other member => inside other (List.mem_append_left _ member))
            tabs ?_ (.item here (fun tab => absurd tab noTab) behind)
          intro next isNext
          cases isNext
          exact Bool.not_eq_true _ ▸ noTab

/-- The runs of a list become their first tabs. -/
theorem joined_joinRuns (inside : ∀ item ∈ list, Processed item (inItem item)) :
    Joined list (joinRuns (list.map inItem)) :=
  joined_joinRunsAfter [] inside (by simp)

mutual

/-- The lists inside an item are joined at every depth. -/
theorem processed_inItem : ∀ item : Json, Processed item (inItem item)
  | .object fields => .object (processedFields_inFields fields)
  | .null | .bool _ | .number _ | .string _ | .array _ => .atom rfl

theorem processedFields_inFields : ∀ fields : List (String × Json),
    ProcessedFields fields (inFields fields)
  | [] => .nil
  | (name, .array elements) :: more => by
      rw [inFields]
      split
      · next listed =>
          rw [inElements_eq_map]
          exact .list (by simpa using listed) (joined_joinRuns (processed_of_mem elements))
            (processedFields_inFields more)
      · next other =>
          have notListed : ¬(name = "items" ∨ name = "children") := by simpa using other
          exact .other (fun listed => absurd listed notListed) (processedFields_inFields more)
  | (_, .null) :: more | (_, .bool _) :: more | (_, .number _) :: more | (_, .string _) :: more
  | (_, .object _) :: more => .other (fun _ => rfl) (processedFields_inFields more)

theorem processed_of_mem : ∀ elements : List Json, ∀ item ∈ elements, Processed item (inItem item)
  | [], _, member => nomatch member
  | first :: more, item, member => by
      rcases List.mem_cons.mp member with same | later
      · exact same ▸ processed_inItem first
      · exact processed_of_mem more item later

end

theorem joined_inList (elements : List Json) : Joined elements (inList elements) := by
  rw [inList, inElements_eq_map]
  exact joined_joinRuns fun item _ => processed_inItem item

/-- An array of items is joined, and any other value stays. -/
theorem joinedArray_joinedField (value : Json) : JoinedArray value (joinedField "items" value) := by
  cases value with
  | array elements => exact .array (joined_inList elements)
  | _ => exact .other rfl

theorem rel_map {relation : Json → Json → Prop} {change : Json → Json}
    (related : ∀ value, relation value (change value)) (value : Option Json) :
    Option.Rel relation value (value.map change) := by
  cases value with
  | none => exact .none
  | some value => exact .some (related value)

theorem filter_inItemsField {names : List String} (member : "items" ∈ names)
    (fields : Dict Json) : (inItemsField fields).1.filter (·.1 ∉ names) =
      fields.filter (·.1 ∉ names) := by
  rw [inItemsField]
  split
  · exact Dict.filter_insert member _ _
  · rfl

/-- In a container only the items are joined. -/
theorem joinedItems_joinedContainer (value : Json) : JoinedItems value (joinedContainer value) := by
  cases value with
  | object fields =>
      refine ⟨.object (filter_inItemsField List.mem_cons_self fields), ?_⟩
      have found : (joinedContainer (.object fields)).field? "items" = _ :=
        get?_items_inItemsField fields
      rw [found]
      exact rel_map joinedArray_joinedField _
  | _ => exact ⟨.atom rfl, .none⟩

/-- Merging changes nothing in a layout beside its items and its container. -/
theorem agree_merge (layout : Json) :
    Agree ["items", "layoutContainer"] layout (merge layout).1 := by
  cases layout with
  | object fields =>
      have first : "items" ∈ ["items", "layoutContainer"] := by decide
      have second : "layoutContainer" ∈ ["items", "layoutContainer"] := by decide
      simp only [merge]
      split
      · exact .object ((Dict.filter_insert second _ _).trans (filter_inItemsField first fields))
      · exact .object (filter_inItemsField first fields)
  | _ => exact .atom rfl

/-- The items of a layout and those of its container are joined. -/
theorem joinedLayout_merge (layout : Json) : JoinedLayout layout (merge layout).1 where
  same := agree_merge layout
  items := by
    rw [field?_merge_items]
    exact rel_map joinedArray_joinedField _
  container := by
    rw [field?_merge_layoutContainer]
    exact rel_map joinedItems_joinedContainer _

end Soundness

section Consequences

variable {value other item processed : Json} {list joined : List Json} {names : List String}
  {name : String}

theorem Agree.field?_eq (agree : Agree names value other) (apart : name ∉ names) :
    other.field? name = value.field? name := by
  cases agree with
  | @object fields others rest =>
      calc Dict.get? name others
          = Dict.get? name (others.filter (·.1 ∉ names)) := (Dict.get?_filter apart others).symm
        _ = Dict.get? name (fields.filter (·.1 ∉ names)) := by rw [rest]
        _ = Dict.get? name fields := Dict.get?_filter apart fields
  | atom => rfl

/-- Fields with other names stay as they are. -/
theorem ProcessedFields.get?_eq (notItems : name ≠ "items") (notChildren : name ≠ "children")
    {fields others : List (String × Json)} (inside : ProcessedFields fields others) :
    Dict.get? name others = Dict.get? name fields := by
  cases inside with
  | nil => rfl
  | list listed _ rest =>
      rw [Dict.get?, Dict.get?, rest.get?_eq notItems notChildren]
      rcases listed with rfl | rfl
      · rw [if_neg notItems.symm, if_neg notItems.symm]
      · rw [if_neg notChildren.symm, if_neg notChildren.symm]
  | other _ rest => rw [Dict.get?, Dict.get?, rest.get?_eq notItems notChildren]

/-- What is done inside an item leaves whether it is a tab. -/
theorem Processed.isTab_eq (inside : Processed item processed) : isTab processed = isTab item := by
  cases inside with
  | @object fields others inside =>
      have same : (Json.object others).field? "type" = (Json.object fields).field? "type" :=
        inside.get?_eq (by decide) (by decide)
      rw [isTab, isTab, same]
  | atom => rfl

theorem Agree.isTab_eq (agree : Agree ["properties"] value other) : isTab other = isTab value := by
  rw [isTab, isTab, agree.field?_eq (by decide)]

namespace Joined

/-- A joined list begins with a tab exactly if the list does. -/
theorem head?_eq (inside : Joined list joined) :
    joined.head?.map isTab = list.head?.map isTab := by
  cases inside with
  | nil => rfl
  | item inside => exact congrArg some inside.isTab_eq
  | run _ _ inside same => exact congrArg some (same.isTab_eq.trans inside.isTab_eq)

/-- If no tab comes first in the list, none comes first afterwards. -/
theorem noTab_head? (inside : Joined list joined)
    (ends : ∀ next, list.head? = some next → isTab next = false) :
    ∀ next ∈ joined.head?, isTab next = false := by
  intro next isNext
  have same := inside.head?_eq
  rw [isNext, Option.map_some] at same
  obtain ⟨first, isFirst, kind⟩ := Option.map_eq_some_iff.mp same.symm
  rw [← kind, ends first isFirst]

/-- In a joined list no two tabs stand next to each other. -/
theorem isChain : ∀ {list joined : List Json}, Joined list joined → joined.IsChain Apart
  | _, _, .nil => .nil
  | _, _, .item inside alone rest =>
      List.isChain_cons.mpr ⟨fun next isNext tab =>
        rest.noTab_head? (alone (inside.isTab_eq ▸ tab)) next isNext, rest.isChain⟩
  | _, _, .run _ ends _ _ rest =>
      List.isChain_cons.mpr ⟨fun next isNext _ => rest.noTab_head? ends next isNext, rest.isChain⟩

end Joined

/-- A list without neighbouring tabs is left alone. -/
theorem joinRuns_eq_self {list : List Json} (apart : list.IsChain Apart) :
    joinRuns list = list := by
  have general (list : List Json) : (list.IsChain Apart → joinRunsAfter [] list = list) ∧
      ∀ tab, isTab tab = true → (tab :: list).IsChain Apart →
        joinRunsAfter [tab] list = tab :: list := by
    induction list with
    | nil => exact ⟨fun _ => rfl, fun _ _ _ => rfl⟩
    | cons item more ih =>
        obtain ⟨alone, after⟩ := ih
        refine ⟨fun apart => ?_, fun tab isFirst apart => ?_⟩
        · rw [joinRunsAfter]
          split
          · next isNext => exact after item isNext apart
          · rw [alone apart.tail, joinRun, List.nil_append]
        · obtain ⟨between, behind⟩ := List.isChain_cons_cons.mp apart
          rw [joinRunsAfter, if_neg (by rw [between isFirst]; decide), alone behind.tail, joinRun,
            List.singleton_append]
  exact (general list).1 apart

/-- A list without neighbouring tabs stays as it is. -/
theorem inList_eq_self (settled : inElements list = list) (apart : list.IsChain Apart) :
    inList list = list := by
  rw [inList, settled, joinRuns_eq_self apart]

theorem joinedField_eq_self
    (noList : name = "items" ∨ name = "children" → value.asArray? = none) :
    joinedField name value = value := by
  cases value with
  | array elements =>
      have notListed : ¬(name = "items" ∨ name = "children") := fun listed => by
        cases noList listed
      simp only [joinedField, Bool.or_eq_true, decide_eq_true_eq, if_neg notListed]
  | _ => rfl

/-- The lists of an object are joined already if this holds of each of its fields. -/
theorem inFields_eq_self_iff {fields : List (String × Json)} :
    inFields fields = fields ↔ ∀ field ∈ fields, joinedField field.1 field.2 = field.2 := by
  induction fields with
  | nil => simp [inFields]
  | cons field more ih =>
      obtain ⟨name, value⟩ := field
      rw [inFields_cons, List.cons.injEq, ih, List.forall_mem_cons, Prod.mk.injEq,
        eq_self, true_and]

/-- Other properties bring no list that is not joined. -/
theorem Agree.inItem_eq_self (agree : Agree ["properties"] value other)
    (settled : inItem value = value) : inItem other = other := by
  cases agree with
  | @object fields others rest =>
      rw [inItem, Json.object.injEq, inFields_eq_self_iff] at settled ⊢
      intro field member
      by_cases isProperties : field.1 = "properties"
      · rw [isProperties]
        cases field.2 <;> rfl
      · have kept : field ∈ others.filter (·.1 ∉ ["properties"]) := by
          simpa [isProperties] using member
        rw [rest] at kept
        exact settled field (List.mem_of_mem_filter kept)
  | atom => exact settled

mutual

/-- An item whose lists are joined stays as it is. -/
theorem Processed.inItem_eq_self : ∀ {item processed : Json}, Processed item processed →
    inItem processed = processed
  | _, _, .object inside => congrArg Json.object inside.inFields_eq_self
  | item, _, .atom noObject => by
      cases item with
      | object => cases noObject
      | _ => rfl

theorem ProcessedFields.inFields_eq_self : ∀ {fields processed : List (String × Json)},
    ProcessedFields fields processed → inFields processed = processed
  | _, _, .nil => rfl
  | _, _, .list _ inside rest => by
      have same := inList_eq_self inside.inElements_eq_self inside.isChain
      rw [inFields_cons, joinedField, same, ite_self, rest.inFields_eq_self]
  | _, _, .other noList rest => by
      rw [inFields_cons, joinedField_eq_self noList, rest.inFields_eq_self]

theorem Joined.inElements_eq_self : ∀ {list joined : List Json}, Joined list joined →
    inElements joined = joined
  | _, _, .nil => rfl
  | _, _, .item inside _ rest => by
      rw [inElements, inside.inItem_eq_self, rest.inElements_eq_self]
  | _, _, .run _ _ inside same rest => by
      rw [inElements, same.inItem_eq_self inside.inItem_eq_self, rest.inElements_eq_self]

end

/-- Joining a list twice is joining it once. -/
theorem inList_inList (elements : List Json) : inList (inList elements) = inList elements :=
  inList_eq_self (joined_inList elements).inElements_eq_self (joined_inList elements).isChain

section Root

variable {fields : Dict Json}

/-- An array of items is joined, and the removed ones are counted. -/
theorem inItemsField_of_array {elements : List Json}
    (found : fields.get? "items" = some (.array elements)) :
    inItemsField fields = (fields.insert "items" (.array (inList elements)),
      elements.length - (inList elements).length) := by
  simp only [inItemsField, found]

/-- Without an array of items nothing is done. -/
theorem inItemsField_of_noArray
    (noArray : ∀ elements, fields.get? "items" ≠ some (.array elements)) :
    inItemsField fields = (fields, 0) := by
  rw [inItemsField]
  split
  · next found => exact absurd found (noArray _)
  · rfl

/-- Joining the items a second time changes and counts nothing. -/
theorem inItemsField_inItemsField (fields : Dict Json) :
    inItemsField (inItemsField fields).1 = ((inItemsField fields).1, 0) := by
  by_cases listed : ∃ elements, fields.get? "items" = some (.array elements)
  · obtain ⟨elements, found⟩ := listed
    rw [inItemsField_of_array found, inItemsField_of_array (Dict.get?_insert_self _ _ _),
      inList_inList, Dict.insert_insert, Nat.sub_self]
  · have other := inItemsField_of_noArray (not_exists.mp listed)
    rw [other, other]

/-- Another field has no part in what becomes of the items. -/
theorem inItemsField_insert {name : String} (apart : name ≠ "items") (value : Json)
    (fields : Dict Json) : inItemsField (fields.insert name value) =
      ((inItemsField fields).1.insert name value, (inItemsField fields).2) := by
  have same := Dict.get?_insert_of_ne apart value fields
  by_cases listed : ∃ elements, fields.get? "items" = some (.array elements)
  · obtain ⟨elements, found⟩ := listed
    rw [inItemsField_of_array (same.trans found), inItemsField_of_array found,
      Dict.insert_comm apart.symm]
  · have noArray := not_exists.mp listed
    rw [inItemsField_of_noArray noArray, inItemsField_of_noArray fun elements found =>
      noArray elements (same.symm.trans found)]

/-- A layout with a container is joined in its items and in those of the container. -/
theorem merge_of_container {container : Dict Json}
    (present : (inItemsField fields).1.get? "layoutContainer" = some (.object container)) :
    merge (.object fields) =
      (.object ((inItemsField fields).1.insert "layoutContainer"
        (.object (inItemsField container).1)),
        (inItemsField fields).2 + (inItemsField container).2) := by
  simp only [merge, present]

/-- Any other layout is joined in its items. -/
theorem merge_of_noContainer (absent : ∀ container,
    (inItemsField fields).1.get? "layoutContainer" ≠ some (.object container)) :
    merge (.object fields) = (.object (inItemsField fields).1, (inItemsField fields).2) := by
  simp only [merge]

/-- Merging a second time changes and counts nothing. -/
theorem merge_merge (layout : Json) : merge (merge layout).1 = ((merge layout).1, 0) := by
  cases layout with
  | object fields =>
      have again := inItemsField_inItemsField fields
      by_cases holds : ∃ container,
          (inItemsField fields).1.get? "layoutContainer" = some (.object container)
      · obtain ⟨container, present⟩ := holds
        have outer := inItemsField_insert (by decide : "layoutContainer" ≠ "items")
          (.object (inItemsField container).1) (inItemsField fields).1
        rw [again] at outer
        rw [merge_of_container present, merge_of_container (by rw [outer, Dict.get?_insert_self]),
          outer, inItemsField_inItemsField, Dict.insert_insert]
        rfl
      · have absent := not_exists.mp holds
        rw [merge_of_noContainer absent, merge_of_noContainer (by rwa [again]), again]
  | _ => rfl

end Root

/-- Every list inside an item was joined. -/
theorem ProcessedFields.exists_joined {inner : List Json} {fields others : List (String × Json)}
    (inside : ProcessedFields fields others) (listed : name = "items" ∨ name = "children")
    (found : Dict.get? name others = some (.array inner)) : ∃ original, Joined original inner := by
  cases inside with
  | nil => cases found
  | list _ here rest =>
      rw [Dict.get?] at found
      split at found
      · cases found
        exact ⟨_, here⟩
      · exact rest.exists_joined listed found
  | other noList rest =>
      rw [Dict.get?] at found
      split at found
      · next same =>
          cases found
          cases noList (same ▸ listed)
      · exact rest.exists_joined listed found

/-- Each list inside a processed item comes from joining another one. -/
theorem Processed.exists_joined {inner : List Json} (inside : Processed item processed)
    (listed : name = "items" ∨ name = "children")
    (found : processed.field? name = some (.array inner)) : ∃ original, Joined original inner := by
  cases inside with
  | object inside => exact inside.exists_joined listed found
  | atom noObject => simp [Json.field?, noObject] at found

theorem Joined.exists_joined {inner : List Json} (listed : name = "items" ∨ name = "children") :
    ∀ {list joined : List Json}, Joined list joined → item ∈ joined →
      item.field? name = some (.array inner) → ∃ original, Joined original inner
  | _, _, .item inside _ rest, member, found => by
      rcases List.mem_cons.mp member with rfl | later
      · exact inside.exists_joined listed found
      · exact rest.exists_joined listed later found
  | _, _, .run _ _ inside same rest, member, found => by
      rcases List.mem_cons.mp member with rfl | later
      · have apart : name ∉ ["properties"] := by rcases listed with rfl | rfl <;> decide
        rw [same.field?_eq apart] at found
        exact inside.exists_joined listed found
      · exact rest.exists_joined listed later found

theorem exists_of_rel {relation : Json → Json → Prop} {value : Option Json} {result : Json}
    (related : Option.Rel relation value (some result)) :
    ∃ source, relation source result := by
  cases related with
  | some here => exact ⟨_, here⟩

theorem exists_joined_of_rel {value : Option Json} {list : List Json}
    (joined : Option.Rel JoinedArray value (some (.array list))) :
    ∃ original, Joined original list := by
  obtain ⟨source, here⟩ := exists_of_rel joined
  cases here with
  | array inside => exact ⟨_, inside⟩
  | other noArray => cases noArray

/-- Every list that is visited was joined. -/
theorem JoinedLayout.exists_joined {layout result : Json} (joined : JoinedLayout layout result)
    {list : List Json} (visited : Visited result list) : ∃ original, Joined original list := by
  induction visited with
  | items found => exact exists_joined_of_rel (found ▸ joined.items)
  | container present found =>
      obtain ⟨value, inside⟩ := exists_of_rel (present ▸ joined.container)
      exact exists_joined_of_rel (found ▸ inside.items)
  | inside outer member listed found ih =>
      obtain ⟨original, inside⟩ := ih
      exact inside.exists_joined listed member found

/-- Runs of tabs are replaced everywhere in a layout, and a second time nothing changes. -/
theorem merge_joins (layout : Json) :
    JoinedLayout layout (merge layout).1 ∧
      (∀ list, Visited (merge layout).1 list → list.IsChain Apart) ∧
        merge (merge layout).1 = ((merge layout).1, 0) := by
  have joined := joinedLayout_merge layout
  refine ⟨joined, fun list visited => ?_, merge_merge layout⟩
  obtain ⟨original, inside⟩ := joined.exists_joined visited
  exact inside.isChain

end Consequences

end Tabs

end DesignScene
