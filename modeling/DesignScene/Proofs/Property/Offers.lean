/-
This file says which values the entries of a sanitized bag offer for variant dimensions.
-/
import DesignScene.Proofs.Dict
import DesignScene.Property.Resolution

namespace DesignScene

theorem Json.isNull_eq_false_iff {value : Json} : value.isNull = false ↔ value ≠ .null := by
  cases value <;> simp [isNull]

namespace PropertyBag

/-- The property has a value and is not the group of the variants. -/
def IsLoose (property : String × Json) : Prop := property.1 ≠ "variants" ∧ property.2 ≠ .null

/-- Being loose is the test that the resolution makes. -/
theorem isLoose_iff {property : String × Json} :
    IsLoose property ↔ (property.1 != "variants" && !property.2.isNull) = true := by
  rw [IsLoose, ← Json.isNull_eq_false_iff, Bool.and_eq_true, bne_iff_ne, Bool.not_eq_true']

instance : DecidablePred IsLoose := fun _ => decidable_of_iff _ isLoose_iff.symm

/-- The entries of the variants that are grouped as an object. -/
def grouped (bag : PropertyBag) : Dict Json :=
  match bag.get? "variants" with
  | some (.object entries) => entries
  | _ => []

/-- The value that a loose property offers for the dimension that its key names. -/
def offer? (schema : Option ComponentSchema) (property : String × Json) :
    Option VariantCandidate :=
  if IsLoose property ∧ LayoutKey.ofKey property.1 = none then
    (looseDimension schema property.1).map (⟨·, property.2⟩)
  else none

/-- The group is the object under `variants`, or empty. -/
theorem grouped_eq (bag : PropertyBag) :
    bag.grouped = ((bag.get? "variants").bind Json.asObject?).getD [] := by
  rw [grouped]
  cases bag.get? "variants" with
  | none => rfl
  | some variants => cases variants <;> rfl

/-- An entry is grouped exactly if it stands in the object under `variants`. -/
theorem mem_grouped_iff {bag : PropertyBag} {entry : String × Json} :
    entry ∈ bag.grouped ↔
      ∃ entries, bag.get? "variants" = some (.object entries) ∧ entry ∈ entries := by
  rw [grouped]
  cases bag.get? "variants" with
  | none => simp
  | some variants => cases variants <;> simp

/-- A loose property offers its value if its key directs no layout and names a dimension. -/
theorem offer?_eq_some_iff {schema : Option ComponentSchema} {property : String × Json}
    {candidate : VariantCandidate} :
    offer? schema property = some candidate ↔
      IsLoose property ∧ LayoutKey.ofKey property.1 = none ∧
        looseDimension schema property.1 = some candidate.dimension ∧
          property.2 = candidate.value := by
  rw [offer?]
  constructor
  · intro offered
    split_ifs at offered with free
    obtain ⟨dimension, named, rfl⟩ := Option.map_eq_some_iff.mp offered
    exact ⟨free.1, free.2, named, rfl⟩
  · rintro ⟨loose, free, named, same⟩
    rw [if_pos ⟨loose, free⟩, named, Option.map_some, same]

end PropertyBag

open PropertyBag

/-- The values that a bag offers for dimensions: those of the group, and then those of loose properties. -/
def variantCandidates (schema : Option ComponentSchema) (bag : PropertyBag) :
    List VariantCandidate :=
  (bag.grouped.map fun entry => ⟨entry.1, entry.2⟩) ++ bag.filterMap (offer? schema)

/-- A candidate is an entry of the group or the offer of a property. -/
theorem mem_variantCandidates_iff {schema : Option ComponentSchema} {bag : PropertyBag}
    {candidate : VariantCandidate} :
    candidate ∈ variantCandidates schema bag ↔
      (candidate.dimension, candidate.value) ∈ bag.grouped ∨
        ∃ property ∈ bag, offer? schema property = some candidate := by
  rw [variantCandidates, List.mem_append, List.mem_filterMap, List.mem_map]
  refine or_congr_left ⟨?_, fun member => ⟨_, member, rfl⟩⟩
  rintro ⟨entry, member, rfl⟩
  exact member

/-- Exactly the loose properties are resolved one by one. -/
theorem looseProperties_eq (bag : PropertyBag) : looseProperties bag = bag.filter (IsLoose ·) :=
  List.filter_congr fun _ _ => Bool.eq_iff_iff.mpr (isLoose_iff.symm.trans decide_eq_true_iff.symm)

/-- Every entry of the group is a candidate. -/
theorem groupedCandidates_eq (bag : PropertyBag) :
    groupedCandidates bag = bag.grouped.map fun entry => ⟨entry.1, entry.2⟩ := by
  rw [grouped_eq, groupedCandidates]

namespace PropertyOutcome

variable {α : Type}

/-- The outcome offers no variant value and blames none. -/
def LeavesVariants (outcome : PropertyOutcome α) : Prop :=
  outcome.candidate? = none ∧
    ∀ warning, outcome.warning? = some warning → warning.kind ≠ .variantInvalid

/-- Binding a text offers no variant. -/
theorem leavesVariants_bindText (slots : List TextSlot) (slot : TextSlot)
    (strategy : MatchStrategy) (key : String) (value : Json) :
    LeavesVariants (bindText (α := α) slots slot strategy key value) := by
  rw [bindText]
  split <;> exact ⟨rfl, nofun⟩

/-- Binding media offers no variant. -/
theorem leavesVariants_bindMedia (slot : MediaSlot) (strategy : MatchStrategy) (key : String)
    (value : Json) : LeavesVariants (bindMedia (α := α) slot strategy key value) := by
  rw [bindMedia]
  split <;> exact ⟨rfl, nofun⟩

theorem leavesVariants_unmatched {warning : PropertyWarning}
    (other : warning.kind ≠ .variantInvalid) :
    LeavesVariants (unmatched (α := α) warning) :=
  ⟨rfl, fun _ same => Option.some.inj same ▸ other⟩

/-- Content offers no variant, whatever comes of it. -/
theorem leavesVariants_resolveContent (schema : ComponentSchema) (key : String) (value : Json) :
    LeavesVariants (resolveContent (α := α) schema key value) := by
  rw [resolveContent]
  split
  · exact leavesVariants_bindText ..
  · split
    · exact leavesVariants_bindMedia ..
    · split
      · split
        · exact leavesVariants_bindMedia ..
        · exact leavesVariants_unmatched (by simp [unmatchedMedia])
      · split
        · exact leavesVariants_bindText ..
        · exact leavesVariants_unmatched (by simp [unmatchedText])

variable [Scalar α]

/-- A layout key offers no variant. -/
theorem leavesVariants_applyLayoutKey (layoutKey : LayoutKey) (key : String) (value : Json) :
    LeavesVariants (applyLayoutKey (α := α) layoutKey key value) := by
  rw [applyLayoutKey]
  split <;> exact ⟨rfl, nofun⟩

/-- A property is offered to the dimension that its key names, unless it directs the layout. -/
theorem candidate?_resolveProperty (schema : Option ComponentSchema) (key : String)
    (value : Json) :
    (resolveProperty (α := α) schema key value).candidate? =
      if LayoutKey.ofKey key = none then (looseDimension schema key).map (⟨·, value⟩)
      else none := by
  unfold resolveProperty
  split
  · next found =>
      rw [found, if_neg (by simp)]
      exact (leavesVariants_applyLayoutKey ..).1
  · next absent =>
      rw [absent, if_pos rfl]
      cases looseDimension schema key with
      | some dimension => rfl
      | none =>
          dsimp only [Option.map_none]
          split
          · rfl
          · split_ifs
            · rfl
            · exact (leavesVariants_resolveContent ..).1

/-- No property is blamed for an invalid variant by itself. -/
theorem kind_of_resolveProperty {schema : Option ComponentSchema} {key : String} {value : Json}
    {warning : PropertyWarning}
    (warned : (resolveProperty (α := α) schema key value).warning? = some warning) :
    warning.kind ≠ .variantInvalid := by
  unfold resolveProperty at warned
  split at warned
  · exact (leavesVariants_applyLayoutKey ..).2 warning warned
  · split at warned
    · cases warned
    · split at warned
      · cases warned
      · split_ifs at warned
        · cases warned
        · exact (leavesVariants_resolveContent ..).2 warning warned

end PropertyOutcome

/-- The candidates among the outcomes are the offers of the loose properties. -/
theorem filterMap_candidate? {α : Type} [Scalar α] (schema : Option ComponentSchema)
    (bag : PropertyBag) :
    ((looseProperties bag).map fun property =>
        resolveProperty (α := α) schema property.1 property.2).filterMap
          PropertyOutcome.candidate? = bag.filterMap (offer? schema) := by
  rw [looseProperties_eq, List.filterMap_map, List.filterMap_filter]
  refine List.filterMap_congr fun property _ => ?_
  rw [Function.comp_apply, PropertyOutcome.candidate?_resolveProperty, offer?]
  by_cases loose : IsLoose property
  · simp only [loose, decide_true, if_true, true_and]
  · simp only [loose, decide_false, if_false, false_and, Bool.false_eq_true]

end DesignScene
