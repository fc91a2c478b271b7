/-
This file shows that only legal values are chosen for variant dimensions, and that every other one is
reported once.
-/
import Mathlib.Data.List.Forall2
import DesignScene.Proofs.Property.Variants

namespace DesignScene

/-- The component has the dimension, and the dimension has the value. -/
def ComponentSchema.IsLegal (schema : ComponentSchema) (choice : String × String) : Prop :=
  ∃ values, schema.variantValues choice.1 = some values ∧ choice.2 ∈ values

/-- A key stands for a dimension that the component has. -/
theorem ComponentSchema.exists_values_of_canonicalDimension {schema : ComponentSchema}
    {key dimension : String} (named : schema.canonicalDimension key = some dimension) :
    ∃ values, schema.variantValues dimension = some values := by
  rw [canonicalDimension] at named
  split at named
  · next present =>
      cases named
      exact Option.isSome_iff_exists.mp present
  · exact Option.isSome_iff_exists.mp (Dict.hasKey_of_mem_keys (List.mem_of_find?_eq_some named))

namespace VariantCandidate

/-- The dimension exists, and the value can be read but is none of its values. -/
def IsIllegal (schema : ComponentSchema) (candidate : VariantCandidate) : Prop :=
  ∃ dimension ∈ schema.canonicalDimension candidate.dimension,
    ∃ value ∈ coerceVariantValue candidate.value,
      value ∉ (schema.variantValues dimension).getD []

instance (schema : ComponentSchema) : DecidablePred (IsIllegal schema) := fun candidate =>
  inferInstanceAs (Decidable (∃ dimension ∈ schema.canonicalDimension candidate.dimension, _))

/-- The warning says that the value is invalid, and which values are legal. -/
structure Blames (schema : ComponentSchema) (candidate : VariantCandidate)
    (warning : PropertyWarning) : Prop where
  kind_eq : warning.kind = .variantInvalid
  severity_eq : warning.severity = .high
  named : schema.canonicalDimension candidate.dimension = some warning.property
  legal : schema.variantValues warning.property = some warning.suggestions

/-- The choice that comes of a candidate. -/
def choice? (schema : ComponentSchema) (candidate : VariantCandidate) : Option (String × String) :=
  (candidate.resolve (some schema)).chosen?

/-- The complaint about an invalid value that comes of a candidate. -/
def complaint? (schema : ComponentSchema) (candidate : VariantCandidate) : Option PropertyWarning :=
  (candidate.resolve (some schema)).warning?.filter (·.kind = .variantInvalid)

section Outcome

variable {schema : ComponentSchema} {candidate : VariantCandidate}

/-- An illegal value leaves a warning and nothing else. -/
theorem resolve_of_isIllegal (illegal : candidate.IsIllegal schema) :
    ∃ warning, candidate.resolve (some schema) = .dropped warning ∧
      Blames schema candidate warning := by
  obtain ⟨dimension, named, value, coerced, missing⟩ := illegal
  obtain ⟨values, listed⟩ := ComponentSchema.exists_values_of_canonicalDimension named
  refine ⟨illegalValue dimension value values, ?_, rfl, rfl, named, listed⟩
  rw [listed] at missing
  simp only [resolve, Option.mem_def.mp coerced, Option.mem_def.mp named, listed]
  exact if_neg fun contained => missing (List.contains_iff_mem.mp contained)

/-- An illegal value is not chosen. -/
theorem choice?_of_isIllegal (illegal : candidate.IsIllegal schema) :
    choice? schema candidate = none := by
  obtain ⟨warning, result, -⟩ := resolve_of_isIllegal illegal
  rw [choice?, result]
  rfl

/-- An illegal value is blamed. -/
theorem complaint?_of_isIllegal (illegal : candidate.IsIllegal schema) :
    ∃ warning, complaint? schema candidate = some warning ∧ Blames schema candidate warning := by
  obtain ⟨warning, result, blames⟩ := resolve_of_isIllegal illegal
  refine ⟨warning, ?_, blames⟩
  rw [complaint?, result]
  exact Option.filter_some_pos (by simpa using blames.kind_eq)

/-- Only an illegal value is called invalid. -/
theorem complaint?_of_not_isIllegal (fine : ¬candidate.IsIllegal schema) :
    complaint? schema candidate = none := by
  rw [complaint?, Option.filter_eq_none_iff]
  intro warning warned invalid
  obtain ⟨named, value, coerced, missing⟩ :=
    of_variantInvalid warned (of_decide_eq_true invalid)
  exact fine ⟨warning.property, named, value, coerced, missing⟩

end Outcome

/-- The choices that come of the candidates, a later one in place of an earlier one. -/
def choices (schema : ComponentSchema) (candidates : List VariantCandidate) : Dict String :=
  Dict.ofList (candidates.filterMap (choice? schema))

/-- An illegal value changes no choice, wherever it stands. -/
theorem choices_eq_of_isIllegal {schema : ComponentSchema} {candidate : VariantCandidate}
    (illegal : candidate.IsIllegal schema) (before after : List VariantCandidate) :
    choices schema (before ++ candidate :: after) = choices schema (before ++ after) := by
  rw [choices, choices, List.filterMap_append,
    List.filterMap_cons_none (choice?_of_isIllegal illegal), ← List.filterMap_append]

/-- There is one complaint for each illegal value, and there is no other one. -/
theorem forall₂_complaint? (schema : ComponentSchema) (candidates : List VariantCandidate) :
    List.Forall₂ (Blames schema) (candidates.filter (IsIllegal schema ·))
      (candidates.filterMap (complaint? schema)) := by
  induction candidates with
  | nil => exact .nil
  | cons candidate more ih =>
      by_cases illegal : candidate.IsIllegal schema
      · obtain ⟨warning, complaint, blames⟩ := complaint?_of_isIllegal illegal
        rw [List.filterMap_cons_some complaint, List.filter_cons_of_pos (by simpa)]
        exact .cons blames ih
      · rw [List.filterMap_cons_none (complaint?_of_not_isIllegal illegal),
          List.filter_cons_of_neg (by simpa)]
        exact ih

end VariantCandidate

open VariantCandidate

/-- Only legal values are chosen, and each illegal one gets one complaint and counts for nothing. -/
structure ResolvedProperties.LegalFor {α : Type} (schema : ComponentSchema)
    (candidates : List VariantCandidate) (resolved : ResolvedProperties α) : Prop where
  legal : ∀ choice ∈ resolved.variants, schema.IsLegal choice
  unmoved : ∀ before candidate after, candidates = before ++ candidate :: after →
    candidate.IsIllegal schema → resolved.variants = choices schema (before ++ after)
  blamed : List.Forall₂ (Blames schema) (candidates.filter (IsIllegal schema ·))
    (resolved.warnings.filter (·.kind = .variantInvalid))

namespace ResolvedProperties

variable {α : Type} [Scalar α] (schema : ComponentSchema) (bag : PropertyBag)

/-- The variants that are resolved are the choices among all candidates. -/
theorem variants_eq_choices :
    (ofBag (α := α) (some schema) bag).variants =
      choices schema (variantCandidates schema bag.sanitize) := by
  rw [variants_ofBag, variantOutcomes, List.filterMap_map]
  rfl

/-- Every variant that is chosen has a legal value. -/
theorem isLegal_of_mem_variants {choice : String × String}
    (member : choice ∈ (ofBag (α := α) (some schema) bag).variants) : schema.IsLegal choice := by
  rw [variants_ofBag] at member
  obtain ⟨candidate, -, named, -, listed⟩ :=
    (mem_chosen_iff schema bag).mp (Dict.mem_of_mem_ofList member)
  obtain ⟨values, found⟩ := ComponentSchema.exists_values_of_canonicalDimension named
  rw [found] at listed
  exact ⟨values, found, listed⟩

/-- Properties that are no values for dimensions cause no complaint about an invalid value. -/
theorem complaints_eq :
    (ofBag (α := α) (some schema) bag).warnings.filter (·.kind = .variantInvalid) =
      (variantCandidates schema bag.sanitize).filterMap (complaint? schema) := by
  have split : (ofBag (α := α) (some schema) bag).warnings =
      ((looseProperties bag.sanitize).map fun property =>
          resolveProperty (α := α) (some schema) property.1 property.2).filterMap
        PropertyOutcome.warning? ++
      (variantOutcomes schema bag).filterMap VariantOutcome.warning? := by
    rw [← resolve_candidates (α := α)]
    rfl
  have others : (((looseProperties bag.sanitize).map fun property =>
      resolveProperty (α := α) (some schema) property.1 property.2).filterMap
        PropertyOutcome.warning?).filter (·.kind = .variantInvalid) = [] := by
    rw [List.filter_eq_nil_iff]
    intro warning member
    obtain ⟨outcome, resolved, warned⟩ := List.mem_filterMap.mp member
    obtain ⟨property, -, rfl⟩ := List.mem_map.mp resolved
    simpa using PropertyOutcome.kind_of_resolveProperty warned
  rw [split, List.filter_append, others, List.nil_append, variantOutcomes, List.filterMap_map,
    List.filter_filterMap]
  rfl

/-- There is a complaint about an invalid value exactly if an illegal value is offered. -/
theorem exists_variantInvalid_iff :
    (∃ warning ∈ (ofBag (α := α) (some schema) bag).warnings, warning.kind = .variantInvalid) ↔
      ∃ candidate ∈ variantCandidates schema bag.sanitize, candidate.IsIllegal schema := by
  have listed : (∃ warning ∈ (ofBag (α := α) (some schema) bag).warnings,
      warning.kind = .variantInvalid) ↔
        ∃ warning, warning ∈ (ofBag (α := α) (some schema) bag).warnings.filter
          (·.kind = .variantInvalid) := by
    simp only [List.mem_filter, decide_eq_true_eq]
  rw [listed, complaints_eq]
  constructor
  · rintro ⟨warning, member⟩
    obtain ⟨candidate, offered, complaint⟩ := List.mem_filterMap.mp member
    refine ⟨candidate, offered, ?_⟩
    by_contra fine
    rw [complaint?_of_not_isIllegal fine] at complaint
    cases complaint
  · rintro ⟨candidate, offered, illegal⟩
    obtain ⟨warning, complaint, -⟩ := complaint?_of_isIllegal illegal
    exact ⟨warning, List.mem_filterMap.mpr ⟨candidate, offered, complaint⟩⟩

/-- What is resolved is legal for the schema. -/
theorem legalFor_ofBag :
    (ofBag (α := α) (some schema) bag).LegalFor schema
      (variantCandidates schema bag.sanitize) where
  legal _ member := isLegal_of_mem_variants schema bag member
  unmoved before candidate after split illegal := by
    rw [variants_eq_choices, split, choices_eq_of_isIllegal illegal]
  blamed := by
    rw [complaints_eq]
    exact forall₂_complaint? schema _

end ResolvedProperties

end DesignScene
