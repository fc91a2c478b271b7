/-
This file says which truth values that are authored for a variant dimension are chosen for it.
-/
import DesignScene.Proofs.Property.Offers
import DesignScene.Scalar.Exact

namespace DesignScene

namespace ComponentSchema

/-- A dimension that a key stands for stands for itself. -/
theorem canonicalDimension_self {schema : ComponentSchema} {key dimension : String}
    (named : schema.canonicalDimension key = some dimension) :
    schema.canonicalDimension dimension = some dimension := by
  have present : schema.variantDimensions.hasKey dimension = true := by
    rw [canonicalDimension] at named
    split at named
    · next same => exact Option.some.inj named ▸ same
    · exact Dict.hasKey_of_mem_keys (List.mem_of_find?_eq_some named)
  rw [canonicalDimension, if_pos present]

end ComponentSchema

/-- The group of the variants does not direct the layout. -/
theorem LayoutKey.ofKey_variants : LayoutKey.ofKey "variants" = none := by decide

namespace PropertyBag

/-- A property under the key that it is resolved with, with the value that was authored. -/
def underCleanKey (property : String × Json) : String × Json :=
  (sanitizeKey property.1, property.2)

/-- Of two properties with one clean key the later one is left. -/
def withCleanKeys (bag : PropertyBag) : PropertyBag := Dict.ofList (bag.map underCleanKey)

/-- The keys may be sanitized before the values. -/
theorem sanitize_eq (bag : PropertyBag) :
    bag.sanitize =
      bag.withCleanKeys.map fun property => (property.1, sanitizeValue property.1 property.2) := by
  rw [withCleanKeys, ← Dict.ofList_map sanitizeValue, List.map_map]
  rfl

/-- Sanitizing makes nothing null and nothing present. -/
theorem isNull_sanitizeValue (key : String) (value : Json) :
    (sanitizeValue key value).isNull = value.isNull := by
  unfold sanitizeValue
  split_ifs
  · cases value <;> rfl
  · rfl

/-- Under a clean key the last property is found whose key becomes that key. -/
theorem get?_sanitize (name : String) (bag : PropertyBag) :
    bag.sanitize.get? name =
      (bag.filter fun property => sanitizeKey property.1 = name).getLast?.map fun property =>
        sanitizeValue name property.2 := by
  have clean : (bag.map sanitizeEntry).filter (·.1 = name) =
      (bag.filter fun property => sanitizeKey property.1 = name).map sanitizeEntry := by
    rw [List.filter_map]
    rfl
  rw [sanitize, Dict.get?_ofList, clean, List.getLast?_map, Option.map_map]
  refine Option.map_congr fun property last => ?_
  have cleanKey : sanitizeKey property.1 = name :=
    of_decide_eq_true (List.mem_filter.mp (List.mem_of_getLast? last)).2
  rw [Function.comp_apply, sanitizeEntry, cleanKey]

/-- The variants are kept as they are authored. -/
theorem sanitizeValue_variants (value : Json) : sanitizeValue "variants" value = value :=
  if_neg (by decide)

end PropertyBag

namespace VariantCandidate

variable {schema : ComponentSchema} {candidate : VariantCandidate}

/-- A candidate fails, names no dimension or is held against the legal values of its dimension. -/
theorem resolve_cases (schema : ComponentSchema) (candidate : VariantCandidate) :
    (∃ error, candidate.resolve (some schema) = .failed error) ∨
      candidate.resolve (some schema) =
        .dropped (unknownDimension schema candidate.dimension) ∨
      ∃ dimension value, schema.canonicalDimension candidate.dimension = some dimension ∧
        coerceVariantValue candidate.value = some value ∧
          (value ∈ (schema.variantValues dimension).getD [] ∧
              candidate.resolve (some schema) = .chosen dimension value ∨
            value ∉ (schema.variantValues dimension).getD [] ∧
              candidate.resolve (some schema) =
                .dropped (illegalValue dimension value ((schema.variantValues dimension).getD []))) := by
  rw [resolve]
  cases coerceVariantValue candidate.value with
  | none => exact .inl ⟨_, rfl⟩
  | some value =>
      right
      dsimp only
      cases schema.canonicalDimension candidate.dimension with
      | none => exact .inl rfl
      | some dimension =>
          refine .inr ⟨dimension, value, rfl, rfl, ?_⟩
          by_cases legal : value ∈ (schema.variantValues dimension).getD []
          · exact .inl ⟨legal, if_pos (List.contains_iff_mem.mpr legal)⟩
          · exact .inr ⟨legal, if_neg fun contained => legal (List.contains_iff_mem.mp contained)⟩

/-- A candidate is chosen exactly if its dimension exists and lists its value. -/
theorem chosen?_resolve_iff {dimension value : String} :
    (candidate.resolve (some schema)).chosen? = some (dimension, value) ↔
      schema.canonicalDimension candidate.dimension = some dimension ∧
        coerceVariantValue candidate.value = some value ∧
          value ∈ (schema.variantValues dimension).getD [] := by
  constructor
  · intro chosen
    rcases resolve_cases schema candidate with
      ⟨_, result⟩ | result | ⟨_, _, named, coerced, ⟨legal, result⟩ | ⟨-, result⟩⟩
    · rw [result] at chosen
      cases chosen
    · rw [result] at chosen
      cases chosen
    · rw [result] at chosen
      cases chosen
      exact ⟨named, coerced, legal⟩
    · rw [result] at chosen
      cases chosen
  · rintro ⟨named, coerced, legal⟩
    simp only [resolve, coerced, named, if_pos (List.contains_iff_mem.mpr legal)]
    rfl

/-- A value is called invalid for the dimension that it is offered for if it is not legal there. -/
theorem of_variantInvalid {warning : PropertyWarning}
    (warned : (candidate.resolve (some schema)).warning? = some warning)
    (invalid : warning.kind = .variantInvalid) :
    schema.canonicalDimension candidate.dimension = some warning.property ∧
      ∃ value, coerceVariantValue candidate.value = some value ∧
        value ∉ (schema.variantValues warning.property).getD [] := by
  rcases resolve_cases schema candidate with
    ⟨_, result⟩ | result | ⟨_, given, named, coerced, ⟨-, result⟩ | ⟨illegal, result⟩⟩
  · rw [result] at warned
    cases warned
  · rw [result] at warned
    cases warned
    cases invalid
  · rw [result] at warned
    cases warned
  · rw [result] at warned
    cases warned
    exact ⟨named, given, coerced, illegal⟩

end VariantCandidate

/-- The values that a property under a clean key gives to its own dimension or those it lists. -/
def authoredVariants (schema : ComponentSchema) (property : String × Json) :
    List (String × Json) :=
  if property.1 = "variants" then
    (property.2.asObject?.getD []).filterMap fun variant =>
      (schema.canonicalDimension variant.1).map (·, variant.2)
  else if property.2.isNull then []
  else ((schema.canonicalDimension property.1).map (·, property.2)).toList

section Authored

variable {schema : ComponentSchema} {dimension key : String} {given value : Json}

/-- The group gives its entries to the dimensions that they name. -/
theorem mem_authoredVariants_of_grouped (grouped : key = "variants") :
    (dimension, value) ∈ authoredVariants schema (key, given) ↔
      ∃ name, (name, value) ∈ given.asObject?.getD [] ∧
        schema.canonicalDimension name = some dimension := by
  rw [authoredVariants, if_pos grouped, List.mem_filterMap]
  constructor
  · rintro ⟨⟨name, inner⟩, member, same⟩
    obtain ⟨found, named, pair⟩ := Option.map_eq_some_iff.mp same
    cases pair
    exact ⟨name, member, named⟩
  · rintro ⟨name, member, named⟩
    exact ⟨(name, value), member, by rw [named, Option.map_some]⟩

/-- A loose property gives its value to the dimension that its key names. -/
theorem mem_authoredVariants_of_loose (loose : key ≠ "variants") :
    (dimension, value) ∈ authoredVariants schema (key, given) ↔
      given.isNull = false ∧ schema.canonicalDimension key = some dimension ∧ given = value := by
  rw [authoredVariants, if_neg loose]
  cases given.isNull with
  | true => simp
  | false =>
      rw [if_neg (by decide), Option.mem_toList, Option.map_eq_some_iff]
      constructor
      · rintro ⟨name, named, pair⟩
        cases pair
        exact ⟨rfl, named, rfl⟩
      · rintro ⟨-, named, rfl⟩
        exact ⟨dimension, named, rfl⟩

open PropertyBag in
/-- A sanitized property gives the values that it gave before, sanitized with its key. -/
theorem mem_authoredVariants_sanitizeValue :
    (dimension, value) ∈ authoredVariants schema (key, sanitizeValue key given) ↔
      ∃ authored, (dimension, authored) ∈ authoredVariants schema (key, given) ∧
        sanitizeValue key authored = value := by
  by_cases grouped : key = "variants"
  · subst grouped
    simp only [sanitizeValue_variants, exists_eq_right]
  · simp only [mem_authoredVariants_of_loose grouped, isNull_sanitizeValue]
    constructor
    · rintro ⟨present, named, same⟩
      exact ⟨given, ⟨present, named, rfl⟩, same⟩
    · rintro ⟨authored, ⟨present, named, rfl⟩, same⟩
      exact ⟨present, named, same⟩

end Authored

section Candidates

variable (schema : ComponentSchema)

open PropertyBag in
/-- The properties give the offered values to a dimension, except where a key directs the layout. -/
theorem exists_candidate_iff_of_sorted {bag : PropertyBag} (sorted : Dict.Sorted bag)
    (dimension : String) (value : Json) :
    (∃ candidate ∈ variantCandidates schema bag,
        schema.canonicalDimension candidate.dimension = some dimension ∧
          candidate.value = value) ↔
      ∃ property ∈ bag, LayoutKey.ofKey property.1 = none ∧
        (dimension, value) ∈ authoredVariants schema property := by
  constructor
  · rintro ⟨candidate, member, named, rfl⟩
    rcases mem_variantCandidates_iff.mp member with among | ⟨property, placed, offered⟩
    · obtain ⟨entries, found, listed⟩ := mem_grouped_iff.mp among
      exact ⟨("variants", .object entries), Dict.mem_of_get? found, LayoutKey.ofKey_variants,
        (mem_authoredVariants_of_grouped rfl).mpr ⟨candidate.dimension, listed, named⟩⟩
    · obtain ⟨loose, free, stands, same⟩ := offer?_eq_some_iff.mp offered
      have own : candidate.dimension = dimension := Option.some.inj
        ((ComponentSchema.canonicalDimension_self stands).symm.trans named)
      exact ⟨property, placed, free, (mem_authoredVariants_of_loose loose.1).mpr
        ⟨Json.isNull_eq_false_iff.mpr loose.2, own ▸ stands, same⟩⟩
  · rintro ⟨property, placed, free, given⟩
    by_cases isGroup : property.1 = "variants"
    · obtain ⟨name, listed, named⟩ := (mem_authoredVariants_of_grouped isGroup).mp given
      have found : bag.get? "variants" = some property.2 :=
        (Dict.get?_eq_some_iff sorted).mpr (isGroup ▸ placed)
      refine ⟨⟨name, value⟩, mem_variantCandidates_iff.mpr (.inl ?_), named, rfl⟩
      cases isObject : property.2 with
      | object entries =>
          rw [isObject] at found listed
          exact mem_grouped_iff.mpr ⟨entries, found, listed⟩
      | _ =>
          rw [isObject] at listed
          cases listed
    · obtain ⟨present, stands, rfl⟩ := (mem_authoredVariants_of_loose isGroup).mp given
      have loose : IsLoose property := ⟨isGroup, Json.isNull_eq_false_iff.mp present⟩
      refine ⟨⟨dimension, property.2⟩, mem_variantCandidates_iff.mpr (.inr ⟨property, placed, ?_⟩),
        ComponentSchema.canonicalDimension_self stands, rfl⟩
      exact offer?_eq_some_iff.mpr ⟨loose, free, stands, rfl⟩

open PropertyBag in
/-- Of a whole bag the values are offered that its properties give, sanitized with their keys. -/
theorem exists_candidate_iff (bag : PropertyBag) (dimension : String) (value : Json) :
    (∃ candidate ∈ variantCandidates schema bag.sanitize,
        schema.canonicalDimension candidate.dimension = some dimension ∧
          candidate.value = value) ↔
      ∃ property ∈ bag.withCleanKeys, LayoutKey.ofKey property.1 = none ∧
        ∃ authored, (dimension, authored) ∈ authoredVariants schema property ∧
          sanitizeValue property.1 authored = value := by
  have sorted : Dict.Sorted bag.sanitize := Dict.sorted_ofList _
  rw [exists_candidate_iff_of_sorted schema sorted, sanitize_eq]
  constructor
  · rintro ⟨changed, member, free, given⟩
    obtain ⟨property, placed, rfl⟩ := List.mem_map.mp member
    exact ⟨property, placed, free, mem_authoredVariants_sanitizeValue.mp given⟩
  · rintro ⟨property, placed, free, given⟩
    exact ⟨_, List.mem_map_of_mem placed, free, mem_authoredVariants_sanitizeValue.mpr given⟩

end Candidates

namespace ResolvedProperties

variable {α : Type} [Scalar α] (schema : ComponentSchema) (bag : PropertyBag)

/-- The outcomes of the values that are offered for dimensions. -/
def variantOutcomes : List VariantOutcome :=
  (variantCandidates schema bag.sanitize).map (·.resolve (some schema))

/-- The outcomes that are resolved are those of the candidates. -/
theorem resolve_candidates :
    (groupedCandidates bag.sanitize ++ ((looseProperties bag.sanitize).map fun property =>
        resolveProperty (α := α) (some schema) property.1 property.2).filterMap
          PropertyOutcome.candidate?).map (·.resolve (some schema)) =
      variantOutcomes schema bag := by
  rw [filterMap_candidate?, groupedCandidates_eq, variantOutcomes, variantCandidates]

/-- The variants are what the candidates are chosen for. -/
theorem variants_ofBag :
    (ofBag (α := α) (some schema) bag).variants =
      Dict.ofList ((variantOutcomes schema bag).filterMap VariantOutcome.chosen?) := by
  rw [← resolve_candidates (α := α)]
  rfl

/-- A choice comes from a candidate with a legal value. -/
theorem mem_chosen_iff {dimension value : String} :
    (dimension, value) ∈ (variantOutcomes schema bag).filterMap VariantOutcome.chosen? ↔
      ∃ candidate ∈ variantCandidates schema bag.sanitize,
        schema.canonicalDimension candidate.dimension = some dimension ∧
          coerceVariantValue candidate.value = some value ∧
            value ∈ (schema.variantValues dimension).getD [] := by
  rw [variantOutcomes, List.filterMap_map, List.mem_filterMap]
  exact exists_congr fun _ => and_congr_right fun _ => VariantCandidate.chosen?_resolve_iff

variable {schema bag}

/-- What is chosen for a dimension is a legal value that is offered for it. -/
theorem exists_candidate_of_get?_variants {dimension value : String}
    (chosen : (ofBag (α := α) (some schema) bag).variants.get? dimension = some value) :
    ∃ candidate ∈ variantCandidates schema bag.sanitize,
      schema.canonicalDimension candidate.dimension = some dimension ∧
        coerceVariantValue candidate.value = some value ∧
          value ∈ (schema.variantValues dimension).getD [] := by
  rw [variants_ofBag] at chosen
  exact (mem_chosen_iff schema bag).mp (Dict.mem_of_mem_ofList (Dict.mem_of_get? chosen))

/-- A legal value is chosen if it is the only one that is offered for the dimension. -/
theorem get?_variants_of_unique {dimension value : String} {candidate : VariantCandidate}
    (offered : candidate ∈ variantCandidates schema bag.sanitize)
    (named : schema.canonicalDimension candidate.dimension = some dimension)
    (unique : ∀ candidate ∈ variantCandidates schema bag.sanitize,
      schema.canonicalDimension candidate.dimension = some dimension →
        coerceVariantValue candidate.value = some value)
    (legal : value ∈ (schema.variantValues dimension).getD []) :
    (ofBag (α := α) (some schema) bag).variants.get? dimension = some value := by
  have listed := (mem_chosen_iff schema bag).mpr
    ⟨candidate, offered, named, unique candidate offered named, legal⟩
  obtain ⟨last, found⟩ := Dict.exists_get?_ofList listed
  rw [← variants_ofBag (α := α)] at found
  obtain ⟨other, otherOffered, otherNamed, coerced, -⟩ := exists_candidate_of_get?_variants found
  rw [found, ← coerced, unique other otherOffered otherNamed]

/-- A dimension is blamed only for an illegal value that is offered for it. -/
theorem exists_candidate_of_mem_warnings {warning : PropertyWarning}
    (member : warning ∈ (ofBag (α := α) (some schema) bag).warnings)
    (invalid : warning.kind = .variantInvalid) :
    ∃ candidate ∈ variantCandidates schema bag.sanitize,
      schema.canonicalDimension candidate.dimension = some warning.property ∧
        ∃ value, coerceVariantValue candidate.value = some value ∧
          value ∉ (schema.variantValues warning.property).getD [] := by
  have sources : warning ∈ (((looseProperties bag.sanitize).map fun property =>
          resolveProperty (α := α) (some schema) property.1 property.2).filterMap
            PropertyOutcome.warning?) ++
        (variantOutcomes schema bag).filterMap VariantOutcome.warning? := by
    rw [← resolve_candidates (α := α)]
    exact member
  rcases List.mem_append.mp sources with elsewhere | here
  · obtain ⟨outcome, resolved, warned⟩ := List.mem_filterMap.mp elsewhere
    obtain ⟨property, -, rfl⟩ := List.mem_map.mp resolved
    exact absurd invalid (PropertyOutcome.kind_of_resolveProperty warned)
  · obtain ⟨outcome, resolved, warned⟩ := List.mem_filterMap.mp here
    obtain ⟨candidate, offered, rfl⟩ := List.mem_map.mp resolved
    exact ⟨candidate, offered, VariantCandidate.of_variantInvalid warned invalid⟩

end ResolvedProperties

/-- The value that a truth value stands for in a dimension. -/
def truthLiteral (flag : Bool) : String := if flag then "True" else "False"

/-- A truth value is used for what it is unless the key speaks of text. -/
theorem coerceVariantValue_sanitizeValue_iff {key : String} {flag : Bool} :
    coerceVariantValue (PropertyBag.sanitizeValue key (.bool flag)) = some (truthLiteral flag) ↔
      Text.contains (Text.lower key) "text" = false := by
  unfold PropertyBag.sanitizeValue
  split_ifs with speaksOfText
  · rw [speaksOfText]
    cases flag <;> decide
  · rw [Bool.eq_false_iff.mpr speaksOfText]
    cases flag <;> decide

open PropertyBag in
/-- The property gives the truth value to the dimension, and nothing else offers a value for it. -/
structure GivesFlag (schema : ComponentSchema) (bag : PropertyBag) (property : String × Json)
    (dimension : String) (flag : Bool) : Prop where
  placed : property ∈ bag
  given : (authoredVariants schema (underCleanKey property)).filter (·.1 == dimension) =
    [(dimension, .bool flag)]
  alone : ∀ other ∈ bag.withCleanKeys, other ≠ underCleanKey property →
    LayoutKey.ofKey other.1 = none → ∀ value, (dimension, value) ∉ authoredVariants schema other

namespace GivesFlag

open PropertyBag

variable {schema : ComponentSchema} {bag : PropertyBag} {property : String × Json}
  {dimension : String} {flag : Bool}

/-- Only the truth value is authored for the dimension. -/
theorem mem_authoredVariants_iff (gives : GivesFlag schema bag property dimension flag)
    {value : Json} :
    (dimension, value) ∈ authoredVariants schema (underCleanKey property) ↔ value = .bool flag := by
  have same : (dimension, value) ∈ authoredVariants schema (underCleanKey property) ↔
      (dimension, value) ∈
        (authoredVariants schema (underCleanKey property)).filter (·.1 == dimension) := by
    simp
  rw [same, gives.given]
  simp

/-- The truth value, sanitized, is the one value that can be offered for the dimension. -/
theorem exists_candidate_iff (gives : GivesFlag schema bag property dimension flag)
    (value : Json) :
    (∃ candidate ∈ variantCandidates schema bag.sanitize,
        schema.canonicalDimension candidate.dimension = some dimension ∧
          candidate.value = value) ↔
      underCleanKey property ∈ bag.withCleanKeys ∧
        LayoutKey.ofKey (sanitizeKey property.1) = none ∧
          sanitizeValue (sanitizeKey property.1) (.bool flag) = value := by
  rw [DesignScene.exists_candidate_iff]
  constructor
  · rintro ⟨other, placed, free, authored, given, rfl⟩
    have same : other = underCleanKey property := by
      by_contra different
      exact gives.alone other placed different free authored given
    subst same
    rw [gives.mem_authoredVariants_iff] at given
    exact ⟨placed, free, given ▸ rfl⟩
  · rintro ⟨placed, free, rfl⟩
    exact ⟨_, placed, free, .bool flag, gives.mem_authoredVariants_iff.mpr rfl, rfl⟩

/-- A bag of one property offers nothing else. -/
theorem of_singleton
    (given : (authoredVariants schema (underCleanKey property)).filter (·.1 == dimension) =
      [(dimension, .bool flag)]) : GivesFlag schema [property] property dimension flag where
  placed := List.mem_singleton.mpr rfl
  given := given
  alone := fun _ member different => absurd (List.mem_singleton.mp member) different

end GivesFlag

namespace ResolvedProperties

open PropertyBag

variable {α : Type} [Scalar α]

/-- A truth value becomes a literal exactly if it is left, directs no layout and speaks of no text. -/
theorem flag_chosen_iff {schema : ComponentSchema} {bag : PropertyBag} {property : String × Json}
    {dimension : String} {flag : Bool}
    (legal : ∀ literal, truthLiteral literal ∈ (schema.variantValues dimension).getD [])
    (gives : GivesFlag schema bag property dimension flag) :
    ((ofBag (α := α) (some schema) bag).variants.get? dimension = some (truthLiteral flag) ∧
        ∀ warning ∈ (ofBag (α := α) (some schema) bag).warnings,
          warning.kind = .variantInvalid → warning.property ≠ dimension) ↔
      underCleanKey property ∈ bag.withCleanKeys ∧
        LayoutKey.ofKey (sanitizeKey property.1) = none ∧
          Text.contains (Text.lower (sanitizeKey property.1)) "text" = false := by
  constructor
  · rintro ⟨chosen, -⟩
    obtain ⟨candidate, offered, named, coerced, -⟩ := exists_candidate_of_get?_variants chosen
    obtain ⟨placed, free, value⟩ :=
      (gives.exists_candidate_iff _).mp ⟨candidate, offered, named, rfl⟩
    rw [← value] at coerced
    exact ⟨placed, free, coerceVariantValue_sanitizeValue_iff.mp coerced⟩
  · rintro ⟨placed, free, plain⟩
    have unique : ∀ candidate ∈ variantCandidates schema bag.sanitize,
        schema.canonicalDimension candidate.dimension = some dimension →
          coerceVariantValue candidate.value = some (truthLiteral flag) := by
      intro candidate offered named
      obtain ⟨-, -, value⟩ := (gives.exists_candidate_iff _).mp ⟨candidate, offered, named, rfl⟩
      rw [← value]
      exact coerceVariantValue_sanitizeValue_iff.mpr plain
    obtain ⟨candidate, offered, named, -⟩ := (gives.exists_candidate_iff _).mpr ⟨placed, free, rfl⟩
    refine ⟨get?_variants_of_unique offered named unique (legal flag), ?_⟩
    rintro warning member invalid rfl
    obtain ⟨other, otherOffered, otherNamed, value, coerced, illegal⟩ :=
      exists_candidate_of_mem_warnings member invalid
    rw [unique other otherOffered otherNamed] at coerced
    exact illegal (Option.some.inj coerced ▸ legal flag)

/-- A component with one dimension of two truth values. -/
def switchSchema (dimension : String) : ComponentSchema where
  componentId := "20:1"
  variantDimensions := [(dimension, ["True", "False"])]

/-- A loose key names the dimension in another case. -/
theorem flag_chosen_leading :
    (ofBag (α := Rat) (some (switchSchema "Leading")) [("leading", .bool true)]).variants.get?
        "Leading" = some "True" ∧
      ∀ warning ∈
          (ofBag (α := Rat) (some (switchSchema "Leading")) [("leading", .bool true)]).warnings,
        warning.kind = .variantInvalid → warning.property ≠ "Leading" := by
  have legal : ∀ literal,
      truthLiteral literal ∈ ((switchSchema "Leading").variantValues "Leading").getD [] := by
    decide
  have gives : GivesFlag (switchSchema "Leading") [("leading", .bool true)]
      ("leading", .bool true) "Leading" true := .of_singleton rfl
  exact (flag_chosen_iff legal gives).mpr ⟨List.mem_singleton.mpr rfl, by decide, by decide⟩

/-- The key of a dimension called `Text` speaks of text, and its truth value is not used. -/
theorem text_flag_not_chosen :
    ¬∀ (schema : ComponentSchema) (bag : PropertyBag) (property : String × Json)
        (dimension : String) (flag : Bool),
      (∀ literal, truthLiteral literal ∈ (schema.variantValues dimension).getD []) →
      GivesFlag schema bag property dimension flag →
        (ofBag (α := Rat) (some schema) bag).variants.get? dimension = some (truthLiteral flag) ∧
          ∀ warning ∈ (ofBag (α := Rat) (some schema) bag).warnings,
            warning.kind = .variantInvalid → warning.property ≠ dimension := by
  intro every
  have gives : GivesFlag (switchSchema "Text") [("Text", .bool true)] ("Text", .bool true) "Text"
      true := .of_singleton rfl
  have missing : (ofBag (α := Rat) (some (switchSchema "Text")) [("Text", .bool true)]).variants =
      [] := rfl
  obtain ⟨chosen, -⟩ := every _ _ _ "Text" true (by decide) gives
  rw [missing] at chosen
  cases chosen

end ResolvedProperties

end DesignScene
