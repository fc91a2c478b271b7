/-
This file says which component a type name stands for. The very names and types of the components come
first, and then the names that have a part in common with it. A type of a component is not looked through.
-/
import DesignScene.Component.Registry
import DesignScene.Proofs.Text.Words

namespace DesignScene.Registry

/-- One of two words is a part of the other, and the first one is not empty. -/
def IsAkin (word wanted : String) : Prop :=
  word ≠ "" ∧ (wanted.toList <:+: word.toList ∨ word.toList <:+: wanted.toList)

instance (word wanted : String) : Decidable (IsAkin word wanted) :=
  inferInstanceAs (Decidable (_ ∧ (_ ∨ _)))

/-- The name or the type of the component is this very word. -/
def IsExactly (wanted : String) (schema : ComponentSchema) : Prop :=
  normalizeTypeName schema.name = wanted ∨
    ∃ text ∈ schema.componentType, normalizeTypeName text = wanted

def HasAkinName (wanted : String) (schema : ComponentSchema) : Prop :=
  IsAkin (normalizeTypeName schema.name) wanted

def HasAkinType (wanted : String) (schema : ComponentSchema) : Prop :=
  ∃ text ∈ schema.componentType, IsAkin (normalizeTypeName text) wanted

section Finding

variable {registry : Registry} {wanted typeName id : String} {schema : ComponentSchema}

/-- The first pass looks for the very name or type. -/
theorem isOfType_iff : isOfType wanted schema = true ↔ IsExactly wanted schema := by
  rw [isOfType, Bool.or_eq_true, beq_iff_eq, or_comm, IsExactly]
  cases schema.componentType <;> simp

/-- The second pass looks for a name that contains the other one. -/
theorem isNear_iff : isNear wanted schema = true ↔ HasAkinName wanted schema := by
  simp only [isNear, HasAkinName, IsAkin, Bool.and_eq_true, Bool.or_eq_true, bne_iff_ne,
    Text.contains_iff]

/-- A word that is the very name or type is akin to it. -/
theorem IsExactly.akin (filled : wanted ≠ "") (isExactly : IsExactly wanted schema) :
    HasAkinName wanted schema ∨ HasAkinType wanted schema := by
  rcases isExactly with rfl | ⟨text, typed, rfl⟩
  · exact .inl ⟨filled, .inl List.infix_rfl⟩
  · exact .inr ⟨text, typed, filled, .inl List.infix_rfl⟩

/-- The first pass over all components comes before the second one. -/
theorem resolveType_of_filled (filled : normalizeTypeName typeName ≠ "") :
    registry.resolveType typeName =
      ((registry.all.find? (isOfType (normalizeTypeName typeName))).or
        (registry.all.find? (isNear (normalizeTypeName typeName)))).map (·.componentId) := by
  rw [resolveType, if_neg (by simpa using filled)]

/-- Only a type name with a letter or a digit is resolved. -/
theorem filled_of_resolveType (found : registry.resolveType typeName = some id) :
    normalizeTypeName typeName ≠ "" := by
  intro bare
  rw [resolveType, if_pos (by simpa using bare)] at found
  cases found

/-- A type name finds nothing exactly if no component passes either of the two tests. -/
theorem resolveType_eq_none_iff (filled : normalizeTypeName typeName ≠ "") :
    registry.resolveType typeName = none ↔
      ∀ schema ∈ registry.all, ¬IsExactly (normalizeTypeName typeName) schema ∧
        ¬HasAkinName (normalizeTypeName typeName) schema := by
  rw [resolveType_of_filled filled, Option.map_eq_none_iff, Option.or_eq_none_iff,
    List.find?_eq_none, List.find?_eq_none]
  simp only [isOfType_iff, isNear_iff, forall_and]

/-- A component with a similar name is taken only where none has the very name or type. -/
theorem exists_of_resolveType (found : registry.resolveType typeName = some id) :
    ∃ schema ∈ registry.all, schema.componentId = id ∧
      (IsExactly (normalizeTypeName typeName) schema ∨
        HasAkinName (normalizeTypeName typeName) schema ∧
          ∀ other ∈ registry.all, ¬IsExactly (normalizeTypeName typeName) other) := by
  rw [resolveType_of_filled (filled_of_resolveType found)] at found
  obtain ⟨schema, chosen, rfl⟩ := Option.map_eq_some_iff.mp found
  rcases Option.or_eq_some_iff.mp chosen with veryWord | ⟨noExact, near⟩
  · exact ⟨schema, List.mem_of_find?_eq_some veryWord, rfl,
      .inl (isOfType_iff.mp (List.find?_some veryWord))⟩
  · refine ⟨schema, List.mem_of_find?_eq_some near, rfl,
      .inr ⟨isNear_iff.mp (List.find?_some near), fun other member isExactly => ?_⟩⟩
    exact List.find?_eq_none.mp noExact other member (isOfType_iff.mpr isExactly)

/-- The identifier that is found for a type is one of the registry. -/
theorem mem_componentIds_of_resolveType (found : registry.resolveType typeName = some id) :
    id ∈ registry.componentIds := by
  obtain ⟨schema, member, rfl, -⟩ := exists_of_resolveType found
  exact List.mem_map_of_mem member

/-- A component with a similar type is found exactly if some name or the very type leads to one. -/
theorem similar_found_iff (normalized : normalizeTypeName typeName = wanted)
    (filled : wanted ≠ "") :
    (∀ id, registry.resolveType typeName = some id →
        ∃ schema ∈ registry.all, schema.componentId = id ∧
          (IsExactly wanted schema ∨
            HasAkinName wanted schema ∧ ∀ other ∈ registry.all, ¬IsExactly wanted other)) ∧
      (registry.resolveType typeName = none ↔
        ∀ schema ∈ registry.all, ¬IsExactly wanted schema ∧ ¬HasAkinName wanted schema) ∧
      (((∃ id, registry.resolveType typeName = some id) ↔
          ∃ schema ∈ registry.all, HasAkinName wanted schema ∨ HasAkinType wanted schema) ↔
        ((∃ schema ∈ registry.all, HasAkinType wanted schema) →
          ∃ schema ∈ registry.all, IsExactly wanted schema ∨ HasAkinName wanted schema)) := by
  subst normalized
  have found_iff : (∃ id, registry.resolveType typeName = some id) ↔
      ∃ schema ∈ registry.all, IsExactly (normalizeTypeName typeName) schema ∨
        HasAkinName (normalizeTypeName typeName) schema := by
    rw [← Option.isSome_iff_exists, ← Option.ne_none_iff_isSome, Ne,
      resolveType_eq_none_iff filled]
    simp only [← not_or, not_forall, not_not, exists_prop]
  refine ⟨fun id => exists_of_resolveType, resolveType_eq_none_iff filled, ?_⟩
  rw [found_iff]
  constructor
  · rintro rule ⟨schema, member, typed⟩
    exact rule.mpr ⟨schema, member, .inr typed⟩
  · intro noneMissed
    constructor
    · rintro ⟨schema, member, isExactly | named⟩
      · exact ⟨schema, member, isExactly.akin filled⟩
      · exact ⟨schema, member, .inl named⟩
    · rintro ⟨schema, member, named | typed⟩
      · exact ⟨schema, member, .inr named⟩
      · exact noneMissed ⟨schema, member, typed⟩

end Finding

def listGroup : ComponentSchema where
  componentId := "10:1"
  name := "List group"

def rows : ComponentSchema where
  componentId := "20:1"
  name := "Rows"
  componentType := some "list"

/-- The group comes first and has a similar name, but the very type is found. -/
theorem rows_found_before_group :
    HasAkinName "list" listGroup ∧
      (ofList [listGroup, rows]).all = [listGroup, rows] ∧
      (ofList [listGroup, rows]).resolveType " List " = some "20:1" := by
  have members : (ofList [listGroup, rows]).all = [listGroup, rows] := by decide +kernel
  have akin : HasAkinName "list" listGroup := by
    rw [HasAkinName]
    decide +kernel
  have typed : IsExactly "list" rows := .inr ⟨"list", rfl, by decide +kernel⟩
  have notGroup : ¬IsExactly "list" listGroup := by
    rw [← isOfType_iff]
    decide +kernel
  have normalized : normalizeTypeName " List " = "list" := by decide +kernel
  obtain ⟨chosen, -, similar⟩ :=
    @similar_found_iff (ofList [listGroup, rows]) "list" " List " normalized (by decide)
  rw [members] at chosen similar
  obtain ⟨id, found⟩ := (similar.mpr fun _ => ⟨rows, by simp, .inl typed⟩).mpr
    ⟨listGroup, by simp, .inl akin⟩
  obtain ⟨schema, member, rfl, isExactly | ⟨-, noneExact⟩⟩ := chosen id found
  · rcases List.mem_pair.mp member with rfl | rfl
    · exact absurd isExactly notGroup
    · exact ⟨akin, members, found⟩
  · exact absurd typed (noneExact rows (by simp))

/-- A button by its type only, under a name with another word. -/
def confirmButton : ComponentSchema where
  componentId := "20:1"
  name := "Confirm"
  componentType := some "icon-button"

/-- A part of the only type finds nothing. -/
theorem icon_button_missed :
    ¬∀ (registry : Registry) (typeName : String), normalizeTypeName typeName ≠ "" →
      ((∃ id, registry.resolveType typeName = some id) ↔
        ∃ schema ∈ registry.all, HasAkinName (normalizeTypeName typeName) schema ∨
          HasAkinType (normalizeTypeName typeName) schema) := by
  intro every
  have akin : IsAkin (normalizeTypeName "icon-button") (normalizeTypeName "button") := by
    decide +kernel
  have missed : (ofList [confirmButton]).resolveType "button" = none := by decide +kernel
  obtain ⟨id, found⟩ := (every (ofList [confirmButton]) "button" (by decide +kernel)).mpr
    ⟨confirmButton, List.mem_singleton_self _, .inr ⟨"icon-button", rfl, akin⟩⟩
  rw [missed] at found
  cases found

end DesignScene.Registry
