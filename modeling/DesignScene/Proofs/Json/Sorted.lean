/-
This file shows that the objects of a value that is read from a text are sorted.
-/
import DesignScene.Json.Parser
import DesignScene.Proofs.Dict

namespace DesignScene.Json

/-- Every object in the value is sorted by name. -/
inductive IsSorted : Json → Prop where
  | array {elements : List Json} (each : ∀ element ∈ elements, IsSorted element) :
      IsSorted (.array elements)
  | object {fields : Dict Json} (sorted : fields.Sorted)
      (each : ∀ field ∈ fields, IsSorted field.2) : IsSorted (.object fields)
  | atom {value : Json} (noArray : value.asArray? = none) (noObject : value.asObject? = none) :
      IsSorted value

mutual

/-- Normalizing sorts all objects of a value. -/
theorem isSorted_normalize : ∀ json : Json, IsSorted (normalize json)
  | .null | .bool _ | .number _ | .string _ => .atom rfl rfl
  | .array elements => .array (isSorted_of_mem_normalizeElements elements)
  | .object fields => by
      have empty : Dict.Sorted ([] : Dict Json) := .nil
      obtain ⟨sorted, each⟩ := isSorted_normalizeFields fields empty (by simp)
      exact .object sorted each

theorem isSorted_of_mem_normalizeElements : ∀ elements : List Json,
    ∀ element ∈ normalizeElements elements, IsSorted element
  | [], _, member => nomatch member
  | first :: more, element, member => by
      rcases List.mem_cons.mp member with rfl | later
      · exact isSorted_normalize first
      · exact isSorted_of_mem_normalizeElements more element later

/-- Each field is put into its place among the earlier ones. -/
theorem isSorted_normalizeFields : ∀ (fields : List (String × Json)) {earlier : Dict Json},
    earlier.Sorted → (∀ field ∈ earlier, IsSorted field.2) →
      Dict.Sorted (normalizeFields earlier fields) ∧
        ∀ field ∈ normalizeFields earlier fields, IsSorted field.2
  | [], _, sorted, each => ⟨sorted, each⟩
  | (name, value) :: more, earlier, sorted, each => by
      refine isSorted_normalizeFields more (sorted.insert name _) fun field member => ?_
      rcases Dict.mem_insert member with rfl | old
      · exact isSorted_normalize value
      · exact each field old

end

/-- The objects of every value that is read from a text are sorted. -/
theorem isSorted_of_parse {text : String} {value : Json} (parsed : parse text = some value) :
    value.IsSorted := by
  obtain ⟨written, -, rfl⟩ := Option.map_eq_some_iff.mp parsed
  exact isSorted_normalize written

namespace IsSorted

variable {value inner : Json}

theorem of_asArray? (sorted : value.IsSorted) {elements : List Json}
    (isArray : value.asArray? = some elements) : ∀ element ∈ elements, IsSorted element := by
  cases sorted with
  | array each =>
      cases isArray
      exact each
  | object => cases isArray
  | atom noArray =>
      rw [noArray] at isArray
      cases isArray

theorem of_asObject? (sorted : value.IsSorted) {fields : Dict Json}
    (isObject : value.asObject? = some fields) :
    fields.Sorted ∧ ∀ field ∈ fields, IsSorted field.2 := by
  cases sorted with
  | array => cases isObject
  | object sorted each =>
      cases isObject
      exact ⟨sorted, each⟩
  | atom _ noObject =>
      rw [noObject] at isObject
      cases isObject

theorem of_get? {fields : Dict Json} (each : ∀ field ∈ fields, IsSorted field.2) {name : String}
    (found : fields.get? name = some inner) : inner.IsSorted :=
  each (name, inner) (Dict.mem_of_get? found)

/-- The field of a sorted value is sorted. -/
theorem of_field? (sorted : value.IsSorted) {name : String}
    (found : value.field? name = some inner) : inner.IsSorted := by
  obtain ⟨fields, isObject, here⟩ := Option.bind_eq_some_iff.mp found
  exact of_get? (sorted.of_asObject? isObject).2 here

end IsSorted

end DesignScene.Json
