/-
This file says what the check of variants finds at one item of a layout.
-/
import Mathlib.Data.List.Basic
import DesignScene.Proofs.Document.Kept
import DesignScene.Proofs.Property.Legal
import DesignScene.Review.Variants

namespace DesignScene.Variants

open Json

/-- The steps to the item that the indices lead to, each of them within a field `items`. -/
def stepsTo (place : List Nat) : List Step :=
  place.flatMap fun index => [.field "items", .element index]

/-- The path of the item that the indices lead to, from an item with this path. -/
def below (path : String) : List Nat → String
  | [] => path
  | index :: more => below (elementPath (itemsPath path) index) more

/-- The path of an item of a layout. -/
def pathTo : List Nat → String
  | [] => ""
  | index :: more => below (elementPath "items" index) more

section Paths

/-- What the indices add to a path. -/
def trail (place : List Nat) : List Char :=
  place.flatMap fun index => ".items[".toList ++ Nat.toDigits 10 index ++ [']']

/-- A longer path has a trail of indices behind it. -/
theorem toList_below (path : String) (place : List Nat) :
    (below path place).toList = path.toList ++ trail place := by
  induction place generalizing path with
  | nil => simp [below, trail]
  | cons index more ih => simp [below, ih, trail, elementPath, itemsPath, Nat.repr]

/-- A mark that stands in neither front part divides a text in one way. -/
theorem append_cons_inj_of_not_mem {mark : Char} {front other rest more : List Char}
    (fresh : mark ∉ front) (otherFresh : mark ∉ other)
    (same : front ++ mark :: rest = other ++ mark :: more) : front = other ∧ rest = more := by
  induction front generalizing other with
  | nil =>
      cases other with
      | nil => exact ⟨rfl, List.tail_eq_of_cons_eq same⟩
      | cons first others =>
          have atMark : mark = first := List.head_eq_of_cons_eq same
          exact absurd (atMark ▸ List.mem_cons_self) otherFresh
  | cons first others ih =>
      cases other with
      | nil =>
          have atMark : first = mark := List.head_eq_of_cons_eq same
          exact absurd (atMark ▸ List.mem_cons_self) fresh
      | cons second further =>
          obtain ⟨rfl, tails⟩ := List.cons_eq_cons.mp same
          obtain ⟨rfl, rests⟩ := ih (fun member => fresh (List.mem_cons_of_mem _ member))
            (fun member => otherFresh (List.mem_cons_of_mem _ member)) tails
          exact ⟨rfl, rests⟩

/-- No bracket stands among the digits of an index. -/
theorem bracket_not_mem_toDigits (index : Nat) : ']' ∉ Nat.toDigits 10 index := fun member =>
  absurd (Nat.isDigit_of_mem_toDigits (by decide) (by decide) member) (by decide)

/-- Equal digits are those of equal numbers. -/
theorem toDigits_inj {index other : Nat} (same : Nat.toDigits 10 index = Nat.toDigits 10 other) :
    index = other := by
  have values := congrArg (Nat.ofDigitChars 10 · 0) same
  simpa using values

/-- An index and what follows it are told apart by the bracket. -/
theorem digits_inj {index other : Nat} {rest more : List Char}
    (same : Nat.toDigits 10 index ++ ']' :: rest = Nat.toDigits 10 other ++ ']' :: more) :
    index = other ∧ rest = more := by
  obtain ⟨digits, rests⟩ := append_cons_inj_of_not_mem (bracket_not_mem_toDigits index)
    (bracket_not_mem_toDigits other) same
  exact ⟨toDigits_inj digits, rests⟩

/-- Behind an item there are further items or its variants, and not both. -/
theorem trail_inj {place other : List Nat} {key otherKey : List Char}
    (same : trail place ++ (".variants.".toList ++ key) =
      trail other ++ (".variants.".toList ++ otherKey)) : place = other := by
  induction place generalizing other with
  | nil =>
      cases other with
      | nil => rfl
      | cons index more => simp [trail] at same
  | cons index more ih =>
      cases other with
      | nil => simp [trail] at same
      | cons second further =>
          have tails : Nat.toDigits 10 index ++
                ']' :: (trail more ++ (".variants.".toList ++ key)) =
              Nat.toDigits 10 second ++
                ']' :: (trail further ++ (".variants.".toList ++ otherKey)) := by
            simpa [trail] using same
          obtain ⟨rfl, rests⟩ := digits_inj tails
          rw [ih rests]

/-- The path of a finding tells the item that it is about. -/
theorem pathTo_inj {index second : Nat} {more further : List Nat} {key otherKey : String}
    (same : pathTo (index :: more) ++ ".variants." ++ key =
      pathTo (second :: further) ++ ".variants." ++ otherKey) :
    index :: more = second :: further := by
  have characters := congrArg String.toList same
  have tails : Nat.toDigits 10 index ++
        ']' :: (trail more ++ (".variants.".toList ++ key.toList)) =
      Nat.toDigits 10 second ++
        ']' :: (trail further ++ (".variants.".toList ++ otherKey.toList)) := by
    simpa [pathTo, toList_below, elementPath, Nat.repr] using characters
  obtain ⟨rfl, rests⟩ := digits_inj tails
  rw [trail_inj rests]

end Paths

section Walk

variable {registry : Registry} {finding : Finding}

theorem checkItems_eq (path : String) (fields : Dict Json) :
    checkItems registry path fields =
      (fields.get? "items").elim [] fun value =>
        value.asArray?.elim [] (checkElements registry path 0) := by
  refine Dict.search_eq_elim_get? rfl (fun key value more => ?_) fields
  cases value <;> simp [checkItems, Json.asArray?]

/-- What is found in a list is found at one of its elements. -/
theorem mem_walk_iff {β : Type} {found : β} {visit : Nat → Json → List β}
    {walk : Nat → List Json → List β} (empty : ∀ index, walk index [] = [])
    (step : ∀ index element more,
      walk index (element :: more) = visit index element ++ walk (index + 1) more)
    {index : Nat} {elements : List Json} :
    found ∈ walk index elements ↔
      ∃ place element, elements[place]? = some element ∧ found ∈ visit (index + place) element := by
  induction elements generalizing index with
  | nil => simp [empty]
  | cons first more ih =>
      rw [step, List.mem_append, ih]
      constructor
      · rintro (here | ⟨place, element, listed, later⟩)
        · exact ⟨0, first, rfl, here⟩
        · exact ⟨place + 1, element, listed, by rwa [← Nat.add_assoc, Nat.add_right_comm]⟩
      · rintro ⟨place, element, listed, member⟩
        cases place with
        | zero =>
            cases listed
            exact .inl member
        | succ place =>
            refine .inr ⟨place, element, listed, ?_⟩
            rwa [Nat.add_right_comm, Nat.add_assoc]

/-- What is found in the list of an object is found at one of its elements. -/
theorem mem_listed_iff {β : Type} {found : β} {visit : Nat → Json → List β}
    {walk : Nat → List Json → List β} (empty : ∀ index, walk index [] = [])
    (step : ∀ index element more,
      walk index (element :: more) = visit index element ++ walk (index + 1) more)
    (fields : Dict Json) :
    (found ∈ (fields.get? "items").elim [] fun value => value.asArray?.elim [] (walk 0)) ↔
      ∃ index element, (Json.object fields).at? (stepsTo [index]) = some element ∧
        found ∈ visit index element := by
  have listed (index : Nat) : (Json.object fields).at? (stepsTo [index]) =
      ((fields.get? "items").bind Json.asArray?).bind (·[index]?) := by
    simp [stepsTo, Json.at?, Json.part?, Json.field?, Json.asObject?, Option.bind_assoc]
  simp only [listed]
  cases fields.get? "items" with
  | none => simp
  | some value =>
      cases elements : value.asArray? with
      | none => simp [elements]
      | some elements => simp [elements, mem_walk_iff empty step]

/-- What is found in the items is found at one of them. -/
theorem mem_checkItems_iff {path : String} {fields : Dict Json} :
    finding ∈ checkItems registry path fields ↔
      ∃ index element, (Json.object fields).at? (stepsTo [index]) = some element ∧
        finding ∈ checkItem registry (elementPath path index) element := by
  rw [checkItems_eq]
  exact mem_listed_iff (fun _ => rfl) (fun _ _ _ => rfl) fields

theorem at?_stepsTo_cons (value : Json) (index : Nat) (more : List Nat) :
    value.at? (stepsTo (index :: more)) =
      (value.at? (stepsTo [index])).bind (·.at? (stepsTo more)) := by
  simp [stepsTo, Json.at?, Option.bind_assoc]

/-- Only an object has elements, and they are smaller than it. -/
theorem exists_fields_of_at? {value element : Json} {index : Nat}
    (found : value.at? (stepsTo [index]) = some element) :
    (∃ fields, value = .object fields) ∧ sizeOf element < sizeOf value := by
  simp only [stepsTo, List.flatMap_cons, List.flatMap_nil, List.append_nil, Json.at?,
    Json.part?] at found
  obtain ⟨items, isField, inside⟩ := Option.bind_eq_some_iff.mp found
  obtain ⟨part, listed, same⟩ := Option.bind_eq_some_iff.mp inside
  obtain ⟨elements, isArray, member⟩ := Option.bind_eq_some_iff.mp listed
  cases same
  constructor
  · cases value with
    | object fields => exact ⟨fields, rfl⟩
    | _ => cases isField
  · cases items with
    | array list =>
        cases isArray
        exact Json.Lists.sizeOf_lt ⟨elements, isField, List.mem_of_getElem? member⟩
    | _ => cases isArray

/-- What is found from an element of a list on is found at an item that indices lead to. -/
theorem exists_listed_iff {β : Type} (found : β) (visit : String → Json → List β)
    (here : String → Dict Json → List β) (value : Json)
    (each : ∀ index element, value.at? (stepsTo [index]) = some element → ∀ path,
      (found ∈ visit path element ↔ ∃ place fields,
        element.at? (stepsTo place) = some (.object fields) ∧
          found ∈ here (below path place) fields)) (path : String) :
    (∃ index element, value.at? (stepsTo [index]) = some element ∧
        found ∈ visit (elementPath path index) element) ↔
      ∃ index more fields, value.at? (stepsTo (index :: more)) = some (.object fields) ∧
        found ∈ here (below (elementPath path index) more) fields := by
  constructor
  · intro inside
    obtain ⟨index, element, listed, later⟩ := inside
    obtain ⟨more, fields, reached, there⟩ := (each index element listed _).mp later
    refine ⟨index, more, fields, ?_, there⟩
    rw [at?_stepsTo_cons, listed]
    exact reached
  · intro leads
    obtain ⟨index, more, fields, reached, there⟩ := leads
    rw [at?_stepsTo_cons] at reached
    obtain ⟨element, listed, further⟩ := Option.bind_eq_some_iff.mp reached
    exact ⟨index, element, listed, (each index element listed _).mpr ⟨more, fields, further, there⟩⟩

/-- What is found at an object or inside it is found at an item that indices lead to. -/
theorem mem_visit_iff {β : Type} (found : β) (visit : String → Json → List β)
    (here : String → Dict Json → List β) (sound : Json → Prop)
    (inside : ∀ {value element : Json} {index : Nat}, sound value →
      value.at? (stepsTo [index]) = some element → sound element)
    (object : ∀ path fields, sound (.object fields) → (found ∈ visit path (.object fields) ↔
      found ∈ here path fields ∨ ∃ index element,
        (Json.object fields).at? (stepsTo [index]) = some element ∧
          found ∈ visit (elementPath (itemsPath path) index) element))
    (other : ∀ path value, value.asObject? = none → found ∉ visit path value) (value : Json) :
    sound value → ∀ path, found ∈ visit path value ↔
      ∃ place fields, value.at? (stepsTo place) = some (.object fields) ∧
        found ∈ here (below path place) fields := by
  induction value using Json.induction_sizeOf with
  | step value ih =>
      intro isSound path
      have listed := exists_listed_iff found visit here value (fun index element listed =>
        ih element (exists_fields_of_at? listed).2 (inside isSound listed)) (itemsPath path)
      constructor
      · intro member
        cases isObject : value.asObject? with
        | none => exact absurd member (other path value isObject)
        | some fields =>
            obtain rfl : value = .object fields := by cases value <;> cases isObject; rfl
            rcases (object path fields isSound).mp member with own | later
            · exact ⟨[], fields, rfl, own⟩
            · obtain ⟨index, more, inner, reached, there⟩ := listed.mp later
              exact ⟨index :: more, inner, reached, there⟩
      · intro leads
        obtain ⟨place, inner, reached, there⟩ := leads
        cases place with
        | nil =>
            cases reached
            exact (object path inner isSound).mpr (.inl there)
        | cons index more =>
            obtain ⟨first, element, isFirst, later⟩ :=
              listed.mpr ⟨index, more, inner, reached, there⟩
            obtain ⟨⟨fields, rfl⟩, -⟩ := exists_fields_of_at? isFirst
            exact (object path fields isSound).mpr (.inr ⟨first, element, isFirst, later⟩)

/-- What is found from an item on is found at an item that indices lead to. -/
theorem mem_checkItem_iff (value : Json) (path : String) : finding ∈ checkItem registry path value ↔
    ∃ place fields, value.at? (stepsTo place) = some (.object fields) ∧
      finding ∈ checkFields registry (below path place) fields := by
  refine mem_visit_iff finding (checkItem registry) (checkFields registry) (fun _ => True)
    (fun _ _ => trivial) (fun path fields _ => ?_) (fun path value noObject member => ?_) value
    trivial path
  · rw [← mem_checkItems_iff]
    exact List.mem_append
  · cases value with
    | object fields => cases noObject
    | _ => cases member

/-- The check finds what it finds at the items that indices lead to. -/
theorem mem_check_iff {layout : Json} :
    finding ∈ check registry layout ↔
      ∃ index more fields, layout.at? (stepsTo (index :: more)) = some (.object fields) ∧
        finding ∈ checkFields registry (pathTo (index :: more)) fields := by
  have listed := exists_listed_iff finding (checkItem registry) (checkFields registry)
    layout (fun _ element _ => mem_checkItem_iff element) "items"
  constructor
  · intro member
    cases layout with
    | object fields => exact listed.mp (mem_checkItems_iff.mp member)
    | _ => cases member
  · intro leads
    obtain ⟨first, element, isFirst, inside⟩ := listed.mpr leads
    obtain ⟨⟨fields, rfl⟩, -⟩ := exists_fields_of_at? isFirst
    exact mem_checkItems_iff.mpr ⟨first, element, isFirst, inside⟩

end Walk

/-- The check reports an invalid variant value for the item that the indices lead to. -/
def Reports (registry : Registry) (layout : Json) (place : List Nat) : Prop :=
  ∃ issue, Finding.error issue ∈ check registry layout ∧ issue.code = "INVALID_VARIANT_VALUE" ∧
    ∃ key, issue.path = pathTo place ++ ".variants." ++ key

/-- The dimension that the entry names lists values, and the value can be read but is none of them. -/
def Refuses (schema : ComponentSchema) (entry : String × Json) : Prop :=
  ∃ dimension ∈ schema.canonicalDimension entry.1, ∃ value ∈ coerceVariantValue entry.2,
    (schema.variantValues dimension).getD [] ≠ [] ∧
      value ∉ (schema.variantValues dimension).getD []

instance (schema : ComponentSchema) (entry : String × Json) : Decidable (Refuses schema entry) :=
  inferInstanceAs (Decidable (∃ dimension ∈ schema.canonicalDimension entry.1, _))

section Entries

variable {registry : Registry} {schema : ComponentSchema} {path : String} {entry : String × Json}
  {finding : Finding}

/-- An entry that is refused is reported under its own name. -/
theorem exists_finding_of_refuses (path : String) (refused : Refuses schema entry) :
    ∃ dimension value legal, checkEntry schema path entry =
      some (invalidValue path entry.1 dimension value legal) := by
  obtain ⟨dimension, known, value, coerced, lists, missing⟩ := refused
  refine ⟨dimension, value, (schema.variantValues dimension).getD [], ?_⟩
  simp [checkEntry, Option.mem_def.mp known, Option.mem_def.mp coerced, lists, missing]

/-- Other entries are not reported. -/
theorem refuses_of_checkEntry (reported : checkEntry schema path entry = some finding) :
    Refuses schema entry ∧
      ∃ dimension value legal, finding = invalidValue path entry.1 dimension value legal := by
  simp only [checkEntry, Option.bind_eq_bind, Option.bind_eq_some_iff] at reported
  obtain ⟨dimension, known, value, coerced, result⟩ := reported
  split_ifs at result with refused
  cases result
  simp only [Bool.and_eq_true, Bool.not_eq_true', List.isEmpty_eq_false_iff,
    List.contains_eq_mem, decide_eq_false_iff_not] at refused
  exact ⟨⟨dimension, known, value, coerced, refused.1, refused.2⟩, dimension, value, _, rfl⟩

/-- What is found at an item is about an entry of its groups. -/
theorem exists_schema_of_mem_checkFields {fields : Dict Json}
    (member : finding ∈ checkFields registry path fields) :
    ∃ schema, ∃ entry ∈ groups fields, checkEntry schema path entry = some finding := by
  rw [checkFields] at member
  split at member
  · cases member
  · next schema _ => exact ⟨schema, List.mem_filterMap.mp member⟩

/-- A registered component is checked entry by entry. -/
theorem checkFields_eq {fields : Dict Json} {id : String}
    (named : fields.get? "componentNodeId" = some (.string id))
    (registered : registry.get? id = some schema) :
    checkFields registry path fields = (groups fields).filterMap (checkEntry schema path) := by
  have found : registry.lookup id = some schema := by
    rw [Registry.lookup, registered, Option.some_or]
  rw [checkFields, named, Option.bind_some, Json.asString?, Option.bind_some, found]

/-- The check reports something for an item exactly if one of its entries is refused. -/
theorem reports_iff {layout : Json} {index : Nat} {more : List Nat} {fields : Dict Json}
    {id : String} (visited : layout.at? (stepsTo (index :: more)) = some (.object fields))
    (named : fields.get? "componentNodeId" = some (.string id))
    (registered : registry.get? id = some schema) :
    Reports registry layout (index :: more) ↔ ∃ entry ∈ groups fields, Refuses schema entry := by
  constructor
  · rintro ⟨issue, reported, -, key, atPath⟩
    obtain ⟨second, further, others, reached, there⟩ := mem_check_iff.mp reported
    obtain ⟨otherSchema, other, -, found⟩ := exists_schema_of_mem_checkFields there
    obtain ⟨-, dimension, value, legal, same⟩ := refuses_of_checkEntry found
    cases same
    have samePlace := pathTo_inj atPath
    rw [samePlace, visited] at reached
    cases reached
    rw [checkFields_eq named registered] at there
    obtain ⟨entry, listed, here⟩ := List.mem_filterMap.mp there
    exact ⟨entry, listed, (refuses_of_checkEntry here).1⟩
  · rintro ⟨entry, listed, refused⟩
    obtain ⟨dimension, value, legal, found⟩ :=
      exists_finding_of_refuses (pathTo (index :: more)) refused
    have here : invalidValue (pathTo (index :: more)) entry.1 dimension value legal ∈
        checkFields registry (pathTo (index :: more)) fields := by
      rw [checkFields_eq named registered]
      exact List.mem_filterMap.mpr ⟨entry, listed, found⟩
    exact ⟨_, mem_check_iff.mpr ⟨index, more, fields, visited, here⟩, rfl, entry.1, rfl⟩

end Entries

end DesignScene.Variants
