/-
This file compares what the review of a layout says about variants with what their resolution says.
-/
import DesignScene.Proofs.Json.Sorted
import DesignScene.Proofs.Review.Variants

namespace DesignScene

namespace PropertyBag

theorem sorted_insertIfAbsent {bag : PropertyBag} (sorted : Dict.Sorted bag) (key : String)
    (value : Json) : Dict.Sorted (insertIfAbsent key value bag) := by
  rw [insertIfAbsent]
  split
  · exact sorted
  · exact sorted.insert key value

theorem get?_insertIfAbsent_of_ne {key other : String} (different : key ≠ other) (value : Json)
    (bag : PropertyBag) : (insertIfAbsent key value bag).get? other = bag.get? other := by
  rw [insertIfAbsent]
  split
  · rfl
  · exact Dict.get?_insert_of_ne different value bag

/-- The last property whose key becomes `variants` when it is sanitized. -/
def variantsProperty? (bag : PropertyBag) : Option (String × Json) :=
  (bag.filter fun property => sanitizeKey property.1 = "variants").getLast?

/-- A property with another key that takes the place of the variants when the keys are sanitized. -/
def displacing? (bag : PropertyBag) : Option (String × Json) :=
  bag.variantsProperty?.filter (·.1 ≠ "variants")

/-- The last property with this clean key is found under `variants`. -/
theorem get?_sanitize_variants (bag : PropertyBag) :
    bag.sanitize.get? "variants" = bag.variantsProperty?.map Prod.snd := by
  rw [get?_sanitize, variantsProperty?]
  exact Option.map_congr fun property _ => sanitizeValue_variants property.2

/-- A displacing property is found under `variants`. -/
theorem get?_sanitize_of_displacing {bag : PropertyBag} {property : String × Json}
    (displacing : bag.displacing? = some property) :
    bag.sanitize.get? "variants" = some property.2 := by
  obtain ⟨last, -⟩ := Option.filter_eq_some_iff.mp displacing
  rw [get?_sanitize_variants, last, Option.map_some]

/-- Otherwise the variants are the same before and after. -/
theorem get?_sanitize_of_not_displaced {bag : PropertyBag} (sorted : Dict.Sorted bag)
    (undisplaced : bag.displacing? = none) :
    bag.sanitize.get? "variants" = bag.get? "variants" := by
  rw [get?_sanitize_variants]
  cases last : bag.variantsProperty? with
  | none =>
      cases found : bag.get? "variants" with
      | none => rfl
      | some value =>
          have cleanKey : sanitizeKey "variants" = "variants" := by decide
          have listed : ("variants", value) ∈
              bag.filter fun property => sanitizeKey property.1 = "variants" :=
            List.mem_filter.mpr ⟨Dict.mem_of_get? found, decide_eq_true cleanKey⟩
          rw [List.getLast?_eq_none_iff.mp last] at listed
          cases listed
  | some property =>
      obtain ⟨key, value⟩ := property
      have own : key = "variants" := by
        simpa using Option.filter_eq_none_iff.mp undisplaced _ last
      subst own
      exact ((Dict.get?_eq_some_iff sorted).mpr
        (List.mem_filter.mp (List.mem_of_getLast? last)).1).symm

end PropertyBag

namespace Variants

open Json

/-- The variants beside the properties of an item. -/
def ownVariants (fields : Dict Json) : Dict Json :=
  ((fields.get? "variants").bind asObject?).getD []

/-- The variants among the properties of an item. -/
def propertyVariants (fields : Dict Json) : Dict Json :=
  (((fields.get? "properties").bind (·.field? "variants")).bind asObject?).getD []

/-- The variants that the item has when it is read. -/
def mergedVariants (fields : Dict Json) : Dict Json :=
  (propertyVariants fields).overlay (ownVariants fields)

section Reading

variable {fields : Dict Json}

/-- The properties of an item with the variants beside them. -/
def withVariants (fields : Dict Json) : PropertyBag :=
  let authored : PropertyBag := ((fields.get? "properties").bind asObject?).getD []
  match fields.get? "variants" with
  | some (.object variants) => PropertyBag.mergeVariants variants authored
  | _ => authored

/-- A layout key beside the properties counts where they do not have it. -/
def addLayoutKey (fields : Dict Json) (bag : PropertyBag) (key : LayoutKey) : PropertyBag :=
  match fields.get? key.name with
  | some value => PropertyBag.insertIfAbsent key.name value bag
  | none => bag

theorem readProperties_eq (fields : Dict Json) :
    readProperties fields = LayoutKey.all.foldl (addLayoutKey fields) (withVariants fields) := rfl

/-- A layout key beside the properties is found where they have nothing. -/
theorem get?_addLayoutKey (bag : PropertyBag) (key : LayoutKey) (name : String) :
    (addLayoutKey fields bag key).get? name =
      (bag.get? name).or (if key.name = name then fields.get? name else none) := by
  rw [addLayoutKey]
  by_cases same : key.name = name
  · subst same
    rw [if_pos rfl]
    cases own : fields.get? key.name with
    | none => exact Option.or_none.symm
    | some value =>
        dsimp only
        rw [PropertyBag.insertIfAbsent, Dict.hasKey]
        cases found : bag.get? key.name with
        | none => exact Dict.get?_insert_self _ _ _
        | some old => exact found
  · rw [if_neg same, Option.or_none]
    split
    · exact PropertyBag.get?_insertIfAbsent_of_ne same _ bag
    · rfl

/-- The layout keys beside the properties are found where the properties have nothing. -/
theorem get?_addLayoutKeys (keys : List LayoutKey) (bag : PropertyBag) (name : String) :
    (keys.foldl (addLayoutKey fields) bag).get? name =
      (bag.get? name).or (if ∃ key ∈ keys, key.name = name then fields.get? name else none) := by
  induction keys generalizing bag with
  | nil => simp
  | cons key more ih =>
      rw [List.foldl_cons, ih, get?_addLayoutKey, Option.or_assoc]
      congr 1
      by_cases here : key.name = name
      · simp only [here, if_true, List.exists_mem_cons_iff, true_or]
        split_ifs <;> simp
      · simp [here]

/-- No layout key changes the variants. -/
theorem get?_variants_addLayoutKeys (keys : List LayoutKey) (bag : PropertyBag) :
    (keys.foldl (addLayoutKey fields) bag).get? "variants" = bag.get? "variants" := by
  have different : ¬∃ key ∈ keys, key.name = "variants" := by
    rintro ⟨key, -, same⟩
    revert same
    cases key <;> decide
  rw [get?_addLayoutKeys, if_neg different, Option.or_none]

theorem sorted_addLayoutKeys (keys : List LayoutKey) {bag : PropertyBag}
    (sorted : Dict.Sorted bag) : Dict.Sorted (keys.foldl (addLayoutKey fields) bag) := by
  induction keys generalizing bag with
  | nil => exact sorted
  | cons key more ih =>
      refine ih ?_
      rw [addLayoutKey]
      split
      · exact PropertyBag.sorted_insertIfAbsent sorted _ _
      · exact sorted

theorem propertyVariants_eq (fields : Dict Json) :
    propertyVariants fields =
      (((((fields.get? "properties").bind asObject?).getD []).get? "variants").bind
        asObject?).getD [] := by
  rw [propertyVariants]
  cases fields.get? "properties" with
  | none => rfl
  | some properties => cases properties <;> rfl

/-- The item's own variants are laid over those among its properties. -/
theorem variants_readProperties (fields : Dict Json) :
    (((readProperties fields).get? "variants").bind asObject?).getD [] =
      mergedVariants fields := by
  rw [readProperties_eq, get?_variants_addLayoutKeys, withVariants, mergedVariants, ownVariants,
    propertyVariants_eq]
  split
  · next variants found =>
      rw [found, PropertyBag.mergeVariants, Dict.get?_insert_self]
      rfl
  · next other =>
      have absent : (fields.get? "variants").bind asObject? = none := by
        cases found : fields.get? "variants" with
        | none => rfl
        | some value =>
            cases value with
            | object variants => exact absurd found (other variants)
            | _ => rfl
      rw [absent]
      rfl

/-- The object in a field of an object is sorted. -/
theorem sorted_objectField (whole : (Json.object fields).IsSorted) (name : String) :
    (Json.object (((fields.get? name).bind asObject?).getD [])).IsSorted := by
  have empty : (Json.object []).IsSorted := .object .nil (by simp)
  cases found : fields.get? name with
  | none => exact empty
  | some value =>
      have inside := IsSorted.of_get? (whole.of_asObject? rfl).2 found
      cases value with
      | object inner => exact inside
      | _ => exact empty

variable (whole : (Json.object fields).IsSorted)

include whole

theorem sorted_ownVariants : (ownVariants fields).Sorted :=
  ((sorted_objectField whole "variants").of_asObject? rfl).1

theorem sorted_propertyVariants : (propertyVariants fields).Sorted := by
  rw [propertyVariants_eq]
  exact ((sorted_objectField (sorted_objectField whole "properties") "variants").of_asObject? rfl).1

/-- The properties of an item are sorted. -/
theorem sorted_readProperties : Dict.Sorted (readProperties fields) := by
  have authored := ((sorted_objectField whole "properties").of_asObject? rfl).1
  rw [readProperties_eq]
  refine sorted_addLayoutKeys _ ?_
  unfold withVariants
  split
  · exact authored.insert _ _
  · exact authored

/-- An entry is one of the item's own, or one among its properties that no own one replaces. -/
theorem mem_mergedVariants_iff {entry : String × Json} :
    entry ∈ mergedVariants fields ↔
      entry ∈ ownVariants fields ∨
        (ownVariants fields).get? entry.1 = none ∧ entry ∈ propertyVariants fields :=
  Dict.mem_overlay_iff (sorted_propertyVariants whole) (sorted_ownVariants whole)

/-- Unless they are displaced, the merged variants are the group of the properties. -/
theorem grouped_readProperties (undisplaced : (readProperties fields).displacing? = none) :
    (readProperties fields).sanitize.grouped = mergedVariants fields := by
  rw [PropertyBag.grouped_eq, PropertyBag.get?_sanitize_of_not_displaced
    (sorted_readProperties whole) undisplaced, variants_readProperties]

end Reading

/-- The dimension that the entry names lists no values, so that no value is legal there. -/
def LacksValues (schema : ComponentSchema) (entry : String × Json) : Prop :=
  ∃ dimension ∈ schema.canonicalDimension entry.1,
    (coerceVariantValue entry.2).isSome ∧ (schema.variantValues dimension).getD [] = []

/-- A merged entry gives an illegal value to a dimension that lists values, which both sides blame. -/
def SharedFault (schema : ComponentSchema) (fields : Dict Json) : Prop :=
  ∃ entry ∈ mergedVariants fields, Refuses schema entry

/-- Only the review blames an entry among the properties that the item's own variants replace. -/
def ReplacedFault (schema : ComponentSchema) (fields : Dict Json) : Prop :=
  ∃ entry ∈ propertyVariants fields,
    (ownVariants fields).get? entry.1 ≠ none ∧ Refuses schema entry

/-- Only the resolution blames an entry for a dimension that lists no values. -/
def UnlistedFault (schema : ComponentSchema) (fields : Dict Json) : Prop :=
  ∃ entry ∈ mergedVariants fields, LacksValues schema entry

/-- Only the resolution looks at an entry of a property that takes the place of the variants. -/
def DisplacingFault (schema : ComponentSchema) (bag : PropertyBag) : Prop :=
  ∃ property ∈ bag.displacing?, ∃ entry ∈ (asObject? property.2).getD [],
    VariantCandidate.IsIllegal schema ⟨entry.1, entry.2⟩

/-- Only the resolution looks at a property whose key names a dimension, once it is sanitized. -/
def LooseFault (schema : ComponentSchema) (bag : PropertyBag) : Prop :=
  ∃ property ∈ bag.sanitize, property.1 ≠ "variants" ∧ LayoutKey.ofKey property.1 = none ∧
    ∃ dimension ∈ schema.canonicalDimension property.1,
      ∃ value ∈ coerceVariantValue property.2,
        value ∉ (schema.variantValues dimension).getD []

instance (schema : ComponentSchema) (fields : Dict Json) : Decidable (SharedFault schema fields) :=
  inferInstanceAs (Decidable (∃ entry ∈ mergedVariants fields, _))

section Faults

variable {schema : ComponentSchema} {fields : Dict Json}

/-- The review refuses an entry exactly for a shared fault or one that is replaced. -/
theorem exists_group_refused_iff (whole : (Json.object fields).IsSorted) :
    (∃ entry ∈ groups fields, Refuses schema entry) ↔
      SharedFault schema fields ∨ ReplacedFault schema fields := by
  have split : groups fields = ownVariants fields ++ propertyVariants fields := rfl
  rw [split]
  constructor
  · rintro ⟨entry, listed, refused⟩
    rcases List.mem_append.mp listed with own | among
    · exact .inl ⟨entry, (mem_mergedVariants_iff whole).mpr (.inl own), refused⟩
    · by_cases free : (ownVariants fields).get? entry.1 = none
      · exact .inl ⟨entry, (mem_mergedVariants_iff whole).mpr (.inr ⟨free, among⟩), refused⟩
      · exact .inr ⟨entry, among, free, refused⟩
  · rintro (⟨entry, merged, refused⟩ | ⟨entry, among, -, refused⟩)
    · rcases (mem_mergedVariants_iff whole).mp merged with own | ⟨-, among⟩
      · exact ⟨entry, List.mem_append_left _ own, refused⟩
      · exact ⟨entry, List.mem_append_right _ among, refused⟩
    · exact ⟨entry, List.mem_append_right _ among, refused⟩

/-- A value is illegal if the review refuses it or its dimension lists no values. -/
theorem isIllegal_iff {entry : String × Json} :
    VariantCandidate.IsIllegal schema ⟨entry.1, entry.2⟩ ↔
      Refuses schema entry ∨ LacksValues schema entry := by
  constructor
  · rintro ⟨dimension, known, value, coerced, missing⟩
    by_cases empty : (schema.variantValues dimension).getD [] = []
    · exact .inr ⟨dimension, known, Option.isSome_of_mem coerced, empty⟩
    · exact .inl ⟨dimension, known, value, coerced, empty, missing⟩
  · rintro (⟨dimension, known, value, coerced, -, missing⟩ | ⟨dimension, known, readable, empty⟩)
    · exact ⟨dimension, known, value, coerced, missing⟩
    · obtain ⟨value, coerced⟩ := Option.isSome_iff_exists.mp readable
      exact ⟨dimension, known, value, coerced, by simp [empty]⟩

/-- The group has an illegal value for a fault of the merged variants or of what displaces them. -/
theorem exists_grouped_illegal_iff (whole : (Json.object fields).IsSorted) :
    (∃ entry ∈ (readProperties fields).sanitize.grouped,
        VariantCandidate.IsIllegal schema ⟨entry.1, entry.2⟩) ↔
      (readProperties fields).displacing? = none ∧
          (SharedFault schema fields ∨ UnlistedFault schema fields) ∨
        DisplacingFault schema (readProperties fields) := by
  cases displaced : (readProperties fields).displacing? with
  | none =>
      have none_displacing : ¬DisplacingFault schema (readProperties fields) := by
        rintro ⟨property, displacing, -⟩
        rw [displaced] at displacing
        cases displacing
      rw [grouped_readProperties whole displaced, or_iff_left none_displacing, and_iff_right rfl]
      simp only [isIllegal_iff, and_or_left, exists_or]
      rfl
  | some property =>
      rw [PropertyBag.grouped_eq, PropertyBag.get?_sanitize_of_displacing displaced,
        DisplacingFault, displaced, or_iff_right (by simp)]
      simp

/-- A loose property is offered to the dimension that its key names. -/
theorem exists_candidate_illegal_iff (bag : PropertyBag) :
    (∃ candidate ∈ variantCandidates schema bag.sanitize, candidate.IsIllegal schema) ↔
      (∃ entry ∈ bag.sanitize.grouped, VariantCandidate.IsIllegal schema ⟨entry.1, entry.2⟩) ∨
        LooseFault schema bag := by
  constructor
  · rintro ⟨candidate, member, named, known, value, coerced, missing⟩
    rcases mem_variantCandidates_iff.mp member with among | ⟨property, placed, offered⟩
    · exact .inl ⟨_, among, named, known, value, coerced, missing⟩
    · obtain ⟨loose, free, stands, same⟩ := PropertyBag.offer?_eq_some_iff.mp offered
      have own : named = candidate.dimension := Option.some.inj
        (known.symm.trans (ComponentSchema.canonicalDimension_self stands))
      exact .inr ⟨property, placed, loose.1, free, candidate.dimension, stands, value,
        same ▸ coerced, own ▸ missing⟩
  · rintro (⟨entry, among, illegal⟩ |
      ⟨property, placed, beside, free, dimension, stands, value, coerced, missing⟩)
    · exact ⟨_, mem_variantCandidates_iff.mpr (.inl among), illegal⟩
    · have loose : PropertyBag.IsLoose property := by
        refine ⟨beside, fun isNull => ?_⟩
        rw [isNull] at coerced
        cases coerced
      refine ⟨⟨dimension, property.2⟩,
        mem_variantCandidates_iff.mpr (.inr ⟨property, placed, ?_⟩), dimension,
        ComponentSchema.canonicalDimension_self stands, value, coerced, missing⟩
      exact PropertyBag.offer?_eq_some_iff.mpr ⟨loose, free, stands, rfl⟩

end Faults

/-- The resolution of the properties complains about an invalid variant value. -/
def Warns (α : Type) [Scalar α] (registry : Registry) (componentId : String)
    (bag : PropertyBag) : Prop :=
  ∃ warning ∈ (ResolvedProperties.ofRegistry (α := α) registry componentId bag).warnings,
    warning.kind = .variantInvalid

/-- What stands inside a sorted value is sorted. -/
theorem isSorted_of_at? {value inner : Json} (sorted : value.IsSorted) {steps : List Step}
    (found : value.at? steps = some inner) : inner.IsSorted := by
  induction steps generalizing value with
  | nil =>
      cases found
      exact sorted
  | cons step more ih =>
      obtain ⟨part, here, later⟩ := Option.bind_eq_some_iff.mp found
      refine ih ?_ later
      cases step with
      | field name => exact sorted.of_field? here
      | element index =>
          obtain ⟨elements, isArray, member⟩ := Option.bind_eq_some_iff.mp here
          exact sorted.of_asArray? isArray part (List.mem_of_getElem? member)

/-- A component is read with the properties of its item. -/
theorem properties_of_ofJson {α : Type} [Scalar α] {path : String} {fields : Dict Json}
    {spec : ComponentSpec}
    (read : (LayoutItem.ofJson path (.object fields) : LayoutItem α) = .component spec) :
    spec.properties = readProperties fields := by
  obtain ⟨typed, isComponent, -⟩ := LayoutItem.component_of_ofJson read
  rw [LayoutItem.ofJson_component typed isComponent] at read
  have same : ComponentSpec.ofFields spec.typeName fields = spec := LayoutItem.component.inj read
  exact congrArg ComponentSpec.properties same.symm

/-- Review and resolution of a component agree but for faults that only one of them looks for. -/
theorem reports_and_warns_iff {α : Type} [Scalar α] {text path id : String} {layout : Json}
    {registry : Registry} {schema : ComponentSchema} {index : Nat} {more : List Nat}
    {fields : Dict Json} {spec : ComponentSpec} (parsed : Json.parse text = some layout)
    (visited : layout.at? (stepsTo (index :: more)) = some (.object fields))
    (read : (LayoutItem.ofJson path (.object fields) : LayoutItem α) = .component spec)
    (named : fields.get? "componentNodeId" = some (.string id))
    (registered : registry.get? id = some schema) :
    (Reports registry layout (index :: more) ↔
        SharedFault schema fields ∨ ReplacedFault schema fields) ∧
      (Warns α registry id spec.properties ↔
        spec.properties.displacing? = none ∧
            (SharedFault schema fields ∨ UnlistedFault schema fields) ∨
          DisplacingFault schema spec.properties ∨ LooseFault schema spec.properties) := by
  have whole : (Json.object fields).IsSorted :=
    isSorted_of_at? (Json.isSorted_of_parse parsed) visited
  rw [properties_of_ofJson read]
  constructor
  · rw [reports_iff visited named registered, exists_group_refused_iff whole]
  · rw [Warns, ResolvedProperties.ofRegistry, registered]
    rw [ResolvedProperties.exists_variantInvalid_iff, exists_candidate_illegal_iff,
      exists_grouped_illegal_iff whole, or_assoc]

/-- A component with these values for its size. -/
def sizedSchema (values : List String) : ComponentSchema where
  componentId := "20:1"
  name := "Button"
  variantDimensions := [("Size", values)]

def largeButtonFields : Dict Json :=
  [("componentNodeId", .string "20:1"), ("type", .string "button"),
    ("variants", .object [("Size", .string "L")])]

/-- A layout of one large button. -/
def largeButtonLayout : Json := .object [("items", .array [.object largeButtonFields])]

def largeButtonText : String :=
  "\x7b\"items\":[\x7b\"type\":\"button\",\"componentNodeId\":\"20:1\",\"variants\":\x7b\"Size\":\"L\"\x7d\x7d]\x7d"

/-- The button as it is read. -/
def largeButtonSpec : ComponentSpec := ComponentSpec.ofFields "button" largeButtonFields

theorem parse_largeButtonText : Json.parse largeButtonText = some largeButtonLayout := by
  simp only [largeButtonText, Json.parse, Json.readText, String.reduceToList]
  rfl

/-- A size that is none of those that the component lists is found by both. -/
theorem reports_and_warns_largeButton :
    Reports (Registry.ofList [sizedSchema ["S"]]) largeButtonLayout [0] ∧
      Warns Rat (Registry.ofList [sizedSchema ["S"]]) "20:1" largeButtonSpec.properties := by
  have visited : largeButtonLayout.at? (stepsTo [0]) = some (.object largeButtonFields) := rfl
  have read : (LayoutItem.ofJson "items[0]" (.object largeButtonFields) : LayoutItem Rat) =
      .component largeButtonSpec := rfl
  have registered : (Registry.ofList [sizedSchema ["S"]]).get? "20:1" =
      some (sizedSchema ["S"]) := rfl
  have shared : SharedFault (sizedSchema ["S"]) largeButtonFields := by decide
  have undisplaced : largeButtonSpec.properties.displacing? = none := by decide
  obtain ⟨reports, warns⟩ := reports_and_warns_iff parse_largeButtonText visited read rfl registered
  exact ⟨reports.mpr (.inl shared), warns.mpr (.inl ⟨undisplaced, .inl shared⟩)⟩

/-- Where the component lists no sizes, only the resolution complains about a size. -/
theorem size_without_values_not_reported :
    ¬∀ (text path id : String) (layout : Json) (registry : Registry) (schema : ComponentSchema)
        (index : Nat) (more : List Nat) (fields : Dict Json) (spec : ComponentSpec),
      Json.parse text = some layout →
      layout.at? (stepsTo (index :: more)) = some (.object fields) →
      (LayoutItem.ofJson path (.object fields) : LayoutItem Rat) = .component spec →
      fields.get? "componentNodeId" = some (.string id) → registry.get? id = some schema →
        (Reports registry layout (index :: more) ↔ Warns Rat registry id spec.properties) := by
  intro every
  have visited : largeButtonLayout.at? (stepsTo [0]) = some (.object largeButtonFields) := rfl
  have registered : (Registry.ofList [sizedSchema []]).get? "20:1" = some (sizedSchema []) := rfl
  have agree := every largeButtonText "items[0]" "20:1" largeButtonLayout
    (Registry.ofList [sizedSchema []]) (sizedSchema []) 0 [] largeButtonFields largeButtonSpec
    parse_largeButtonText visited rfl rfl registered
  have warns : Warns Rat (Registry.ofList [sizedSchema []]) "20:1" largeButtonSpec.properties := by
    unfold Warns
    decide
  have unrefused : ¬∃ entry ∈ groups largeButtonFields, Refuses (sizedSchema []) entry := by
    decide
  exact unrefused ((reports_iff visited rfl registered).mp (agree.mpr warns))

end Variants

end DesignScene
