/-
This file says what a registry answers after any registrations. It holds the last schema of each component,
and every answer follows from these schemas, whatever the order of the registrations was.
-/
import Mathlib.Data.List.Sort
import DesignScene.Component.Registry
import DesignScene.Proofs.Dict

namespace DesignScene.Registry

/-- The schema that was registered last with this identifier. -/
def latest (schemas : List ComponentSchema) (id : String) : Option ComponentSchema :=
  (schemas.filter (·.componentId = id)).getLast?

section Holding

/-- The last registration of a component is its latest one. -/
theorem latest_append_singleton (schemas : List ComponentSchema) (schema : ComponentSchema)
    (id : String) :
    latest (schemas ++ [schema]) id =
      if schema.componentId = id then some schema else latest schemas id := by
  rw [latest, List.filter_append]
  split_ifs with same
  · rw [List.filter_cons_of_pos (by simpa), List.filter_nil, List.getLast?_concat]
  · rw [List.filter_cons_of_neg (by simpa), List.filter_nil, List.append_nil, latest]

theorem ofList_append_singleton (schemas : List ComponentSchema) (schema : ComponentSchema) :
    ofList (schemas ++ [schema]) = (ofList schemas).register schema :=
  List.foldl_concat ..

/-- A registration is found under its own identifier and changes no other answer. -/
theorem get?_register (registry : Registry) (schema : ComponentSchema) (id : String) :
    (registry.register schema).get? id =
      if schema.componentId = id then some schema else registry.get? id := by
  split_ifs with same
  · subst same
    exact Dict.get?_insert_self _ _ _
  · exact Dict.get?_insert_of_ne same _ _

/-- Under each identifier its latest registration is found. -/
theorem get?_ofList (schemas : List ComponentSchema) (id : String) :
    (ofList schemas).get? id = latest schemas id := by
  induction schemas using List.reverseRecOn with
  | nil => rfl
  | append_singleton schemas schema ih =>
      rw [ofList_append_singleton, get?_register, latest_append_singleton, ih]

/-- The schemas stand in the order of their identifiers, each under its own. -/
structure IsKeyed (registry : Registry) : Prop where
  sorted : registry.schemas.Sorted
  own : ∀ entry ∈ registry.schemas, entry.1 = entry.2.componentId

/-- A registration is kept under its own identifier. -/
theorem IsKeyed.register {registry : Registry} (keyed : registry.IsKeyed)
    (schema : ComponentSchema) : (registry.register schema).IsKeyed := by
  refine ⟨keyed.sorted.insert _ _, fun entry member => ?_⟩
  rcases Dict.mem_insert member with rfl | old
  · rfl
  · exact keyed.own entry old

/-- Every schema of a registry is kept under its own identifier. -/
theorem isKeyed_ofList (schemas : List ComponentSchema) : (ofList schemas).IsKeyed := by
  induction schemas using List.reverseRecOn with
  | nil => exact ⟨.nil, nofun⟩
  | append_singleton schemas schema ih =>
      rw [ofList_append_singleton]
      exact ih.register schema

end Holding

section Keyed

variable {registry : Registry} {schema : ComponentSchema}

theorem IsKeyed.componentIds_eq (keyed : registry.IsKeyed) :
    registry.componentIds = registry.schemas.keys := by
  rw [componentIds, all, List.map_map]
  exact List.map_congr_left fun entry member => (keyed.own entry member).symm

/-- The identifiers of a registry are strictly increasing. -/
theorem IsKeyed.pairwise_componentIds (keyed : registry.IsKeyed) :
    registry.componentIds.Pairwise (· < ·) := by
  rw [keyed.componentIds_eq]
  exact keyed.sorted

/-- A schema is listed exactly if it is found under its identifier. -/
theorem IsKeyed.mem_all_iff (keyed : registry.IsKeyed) :
    schema ∈ registry.all ↔ registry.get? schema.componentId = some schema := by
  rw [get?, Dict.get?_eq_some_iff keyed.sorted, all, List.mem_map]
  constructor
  · rintro ⟨entry, member, rfl⟩
    rwa [← keyed.own entry member]
  · intro member
    exact ⟨_, member, rfl⟩

/-- Nothing is lost when the schemas are listed without their keys. -/
theorem IsKeyed.schemas_eq (keyed : registry.IsKeyed) :
    registry.schemas = registry.all.map fun schema => (schema.componentId, schema) := by
  have entries : registry.schemas.map (fun entry => (entry.2.componentId, entry.2)) =
      registry.schemas.map id :=
    List.map_congr_left fun entry member => by rw [← keyed.own entry member, id]
  rw [all, List.map_map]
  exact (entries.trans (List.map_id _)).symm

/-- Of the schemas that pass a test, the one with the least identifier is found. -/
theorem IsKeyed.find?_all_eq_some_iff (keyed : registry.IsKeyed) {test : ComponentSchema → Bool} :
    registry.all.find? test = some schema ↔
      schema ∈ registry.all ∧ test schema = true ∧
        ∀ other ∈ registry.all, test other = true → schema.componentId ≤ other.componentId := by
  have inOrder : registry.all.Pairwise (·.componentId < ·.componentId) :=
    List.pairwise_map.mp keyed.pairwise_componentIds
  constructor
  · intro found
    refine ⟨List.mem_of_find?_eq_some found, List.find?_some found, fun other member passes => ?_⟩
    obtain ⟨-, front, back, split, fails⟩ := List.find?_eq_some_iff_append.mp found
    rw [split] at inOrder member
    rcases List.mem_append.mp member with before | here
    · have fails := fails other before
      rw [passes] at fails
      cases fails
    · rcases List.mem_cons.mp here with rfl | after
      · exact String.le_refl _
      · have later := List.rel_of_pairwise_cons (List.pairwise_append.mp inOrder).2.1 after
        exact String.not_lt.mp (String.lt_asymm later)
  · rintro ⟨member, passes, least⟩
    obtain ⟨front, back, split⟩ := List.append_of_mem member
    refine List.find?_eq_some_iff_append.mpr ⟨passes, front, back, split, fun other before => ?_⟩
    rw [Bool.not_eq_true', Bool.eq_false_iff]
    intro otherPasses
    have notAfter := least other (split ▸ List.mem_append_left _ before) otherPasses
    rw [split] at inOrder
    have earlier := (List.pairwise_append.mp inOrder).2.2 other before schema List.mem_cons_self
    exact String.not_le.mpr earlier notAfter

end Keyed

section Tables

/-- The table holds the schemas of the registrations in some order, without those that were replaced. -/
inductive Tabulates : List ComponentSchema → List ComponentSchema → Prop where
  | empty : Tabulates [] []
  | register {schemas table next : List ComponentSchema} {schema : ComponentSchema}
      (earlier : Tabulates schemas table)
      (listed : next.Perm (schema :: table.filter (·.componentId ≠ schema.componentId))) :
      Tabulates (schemas ++ [schema]) next

/-- The list has the schema that was registered last for each component, once and in any order. -/
structure IsTable (schemas table : List ComponentSchema) : Prop where
  distinct : (table.map ComponentSchema.componentId).Nodup
  mem_iff : ∀ schema, schema ∈ table ↔ latest schemas schema.componentId = some schema

variable {schemas table next : List ComponentSchema} {schema : ComponentSchema}

/-- A table takes a registration in place of an earlier one of the same component. -/
theorem IsTable.register (isTable : IsTable schemas table)
    (listed : next.Perm (schema :: table.filter (·.componentId ≠ schema.componentId))) :
    IsTable (schemas ++ [schema]) next := by
  constructor
  · rw [(listed.map ComponentSchema.componentId).nodup_iff, List.map_cons, List.nodup_cons]
    constructor
    · intro member
      obtain ⟨other, kept, same⟩ := List.mem_map.mp member
      exact of_decide_eq_true (List.mem_filter.mp kept).2 same
    · exact isTable.distinct.sublist (List.filter_sublist.map _)
  · intro other
    rw [listed.mem_iff, List.mem_cons, List.mem_filter, isTable.mem_iff, latest_append_singleton,
      decide_eq_true_iff]
    split_ifs with same
    · rw [Option.some.injEq]
      exact ⟨fun either => either.elim Eq.symm fun other => absurd same.symm other.2,
        fun equal => .inl equal.symm⟩
    · constructor
      · rintro (rfl | ⟨earlier, -⟩)
        · exact absurd rfl same
        · exact earlier
      · exact fun earlier => .inr ⟨earlier, Ne.symm same⟩

/-- A table of registrations holds the latest schemas. -/
theorem isTable_of_tabulates (tabulates : Tabulates schemas table) : IsTable schemas table := by
  induction tabulates with
  | empty => exact ⟨.nil, fun _ => ⟨nofun, nofun⟩⟩
  | register _ listed ih => exact ih.register listed

theorem isTable_all (schemas : List ComponentSchema) : IsTable schemas (ofList schemas).all := by
  have keyed := isKeyed_ofList schemas
  constructor
  · have distinct : (ofList schemas).componentIds.Nodup := by
      rw [keyed.componentIds_eq]
      exact keyed.sorted.nodup_keys
    exact distinct
  · intro schema
    rw [keyed.mem_all_iff, get?_ofList]

/-- A table has one schema for each component. -/
theorem IsTable.eq_of_componentId_eq (isTable : IsTable schemas table)
    {first second : ComponentSchema} (firstMember : first ∈ table) (secondMember : second ∈ table)
    (same : first.componentId = second.componentId) : first = second := by
  have firstLatest := (isTable.mem_iff first).mp firstMember
  have secondLatest := (isTable.mem_iff second).mp secondMember
  rw [same, secondLatest] at firstLatest
  exact (Option.some.inj firstLatest).symm

/-- The schemas in the order of their identifiers. -/
def sortById (table : List ComponentSchema) : List ComponentSchema :=
  table.mergeSort fun first second => first.componentId ≤ second.componentId

/-- Sorting leaves nothing of the order of a table. -/
theorem sortById_eq_all (isTable : IsTable schemas table) : sortById table = (ofList schemas).all := by
  have whole : (ofList schemas).all.Perm table := by
    refine (List.perm_ext_iff_of_nodup (isTable_all schemas).distinct.of_map
      isTable.distinct.of_map).mpr fun schema => ?_
    rw [(isTable_all schemas).mem_iff, isTable.mem_iff]
  have sorted : (sortById table).Pairwise (·.componentId ≤ ·.componentId) := by
    refine (List.pairwise_mergeSort ?_ ?_ table).imp of_decide_eq_true
    · intro first second third
      simpa only [decide_eq_true_iff] using String.le_trans
    · intro first second
      simpa only [Bool.or_eq_true, decide_eq_true_iff] using String.le_total ..
  have strict : (ofList schemas).all.Pairwise (·.componentId ≤ ·.componentId) :=
    (List.pairwise_map.mp (isKeyed_ofList schemas).pairwise_componentIds).imp fun before =>
      String.not_lt.mp (String.lt_asymm before)
  refine List.Perm.eq_of_pairwise ?_ sorted strict ((List.mergeSort_perm table _).trans whole.symm)
  intro first second firstMember secondMember notAfter notBefore
  have inTable : first ∈ table := (List.mergeSort_perm table _).mem_iff.mp firstMember
  exact isTable.eq_of_componentId_eq inTable (whole.mem_iff.mp secondMember)
    (String.le_antisymm notAfter notBefore)

end Tables

section Answers

/-- The registry that lists the schemas of a table in the order of their identifiers. -/
def ofTable (table : List ComponentSchema) : Registry :=
  ⟨(sortById table).map fun schema => (schema.componentId, schema)⟩

/-- A table of the latest schemas makes the same registry as all registrations. -/
theorem ofTable_eq_ofList {schemas table : List ComponentSchema} (isTable : IsTable schemas table) :
    ofTable table = ofList schemas := by
  rw [ofTable, sortById_eq_all isTable, ← (isKeyed_ofList schemas).schemas_eq]

/-- Registrations that end with the same schemas leave the same registry behind. -/
theorem ofList_eq_ofList_iff {first second : List ComponentSchema} :
    ofList first = ofList second ↔ ∀ id, latest first id = latest second id := by
  constructor
  · intro same id
    rw [← get?_ofList, ← get?_ofList, same]
  · intro same
    have found (id : String) : (ofList first).schemas.get? id = (ofList second).schemas.get? id := by
      have ends := same id
      rwa [← get?_ofList, ← get?_ofList] at ends
    have schemas := Dict.eq_of_get?_eq (isKeyed_ofList first).sorted (isKeyed_ofList second).sorted
      found
    exact congrArg Registry.mk schemas

/-- Nothing that is asked tells the two registries apart. -/
structure SameAnswers (first second : Registry) : Prop where
  all : first.all = second.all
  componentIds : first.componentIds = second.componentIds
  get? : ∀ id, first.get? id = second.get? id
  findByName : ∀ name, first.findByName name = second.findByName name
  lookup : ∀ idOrName, first.lookup idOrName = second.lookup idOrName
  resolveType : ∀ typeName, first.resolveType typeName = second.resolveType typeName
  staleSchemas : ∀ now, first.staleSchemas now = second.staleSchemas now

theorem SameAnswers.refl (registry : Registry) : SameAnswers registry registry :=
  ⟨rfl, rfl, fun _ => rfl, fun _ => rfl, fun _ => rfl, fun _ => rfl, fun _ => rfl⟩

/-- The schema is current, has this name up to case, and no other such one has a lesser identifier. -/
structure IsFirstNamed (schemas : List ComponentSchema) (name : String)
    (schema : ComponentSchema) : Prop where
  registered : latest schemas schema.componentId = some schema
  named : Text.lower schema.name = Text.lower (Text.trim name)
  least : ∀ other, latest schemas other.componentId = some other →
    Text.lower other.name = Text.lower (Text.trim name) → schema.componentId ≤ other.componentId

/-- The first one by identifier is found of all current schemas with a name. -/
theorem findByName_ofList_eq_some_iff {schemas : List ComponentSchema} {name : String}
    {schema : ComponentSchema} :
    (ofList schemas).findByName name = some schema ↔ IsFirstNamed schemas name schema := by
  have known (other : ComponentSchema) :
      other ∈ (ofList schemas).all ↔ latest schemas other.componentId = some other :=
    (isTable_all schemas).mem_iff other
  rw [findByName, (isKeyed_ofList schemas).find?_all_eq_some_iff]
  simp only [known, beq_iff_eq]
  exact ⟨fun ⟨registered, named, least⟩ => ⟨registered, named, least⟩,
    fun first => ⟨first.registered, first.named, first.least⟩⟩

/-- All answers of a registry come from the last schemas, in whatever order a table lists them. -/
theorem determined_by_latest (schemas : List ComponentSchema) :
    (∀ id, (ofList schemas).get? id = latest schemas id) ∧
      (ofList schemas).all.Pairwise (·.componentId < ·.componentId) ∧
      (∀ schema, schema ∈ (ofList schemas).all ↔
        latest schemas schema.componentId = some schema) ∧
      (∀ table, Tabulates schemas table →
        sortById table = (ofList schemas).all ∧ ofTable table = ofList schemas) ∧
      (∀ name schema, (ofList schemas).findByName name = some schema ↔
        IsFirstNamed schemas name schema) ∧
      ∀ other, (∀ id, latest other id = latest schemas id) →
        SameAnswers (ofList other) (ofList schemas) := by
  refine ⟨get?_ofList schemas, ?_, (isTable_all schemas).mem_iff, fun table tabulates => ?_,
    fun name schema => findByName_ofList_eq_some_iff, fun other same => ?_⟩
  · exact List.pairwise_map.mp (isKeyed_ofList schemas).pairwise_componentIds
  · have isTable := isTable_of_tabulates tabulates
    exact ⟨sortById_eq_all isTable, ofTable_eq_ofList isTable⟩
  · rw [ofList_eq_ofList_iff.mpr same]
    exact .refl _

end Answers

def named (id name : String) : ComponentSchema where
  componentId := id
  name := name

/-- A knob is renamed after a button was registered, and then both have one name. -/
def renamedKnob : List ComponentSchema :=
  [named "20:1" "Knob", named "30:1" "Button", named "20:1" "Button"]

/-- The knob is gone, its new name is the first one, and a table in the other order is sorted. -/
theorem renamed_knob_forgotten :
    SameAnswers (ofList [named "20:1" "Button", named "30:1" "Button"]) (ofList renamedKnob) ∧
      Tabulates renamedKnob [named "30:1" "Button", named "20:1" "Button"] ∧
      sortById [named "30:1" "Button", named "20:1" "Button"] = (ofList renamedKnob).all ∧
      (ofList renamedKnob).get? "20:1" = some (named "20:1" "Button") ∧
      (ofList renamedKnob).findByName " BUTTON" = some (named "20:1" "Button") := by
  have tabulates : Tabulates renamedKnob [named "30:1" "Button", named "20:1" "Button"] := by
    have first : Tabulates [named "20:1" "Knob"] [named "20:1" "Knob"] :=
      .register .empty (.refl _)
    have second : Tabulates [named "20:1" "Knob", named "30:1" "Button"]
        [named "30:1" "Button", named "20:1" "Knob"] := .register first (.refl _)
    exact .register second (.swap _ _ [])
  have same (id : String) : latest [named "20:1" "Button", named "30:1" "Button"] id =
      latest renamedKnob id := by
    rw [← get?_ofList, ← get?_ofList]
    have registries : ofList [named "20:1" "Button", named "30:1" "Button"] =
        ofList renamedKnob := congrArg Registry.mk (by decide +kernel)
    rw [registries]
  obtain ⟨held, -, members, tables, byName, answers⟩ := determined_by_latest renamedKnob
  have registered : latest renamedKnob "20:1" = some (named "20:1" "Button") := by decide +kernel
  have first : IsFirstNamed renamedKnob " BUTTON" (named "20:1" "Button") := by
    refine ⟨registered, by decide +kernel, fun other last _ => ?_⟩
    have all : (ofList renamedKnob).all = [named "20:1" "Button", named "30:1" "Button"] := by
      decide +kernel
    have member := (members other).mpr last
    rw [all] at member
    rcases List.mem_pair.mp member with rfl | rfl
    · exact String.le_refl _
    · decide
  exact ⟨answers _ same, tabulates, (tables _ tabulates).1, (held _).trans registered,
    (byName _ _).mpr first⟩

end DesignScene.Registry
