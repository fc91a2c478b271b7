/-
This file shows that what is decoded from a value stays the same when the fields of its objects
are sorted.
-/
import DesignScene.Json.Record
import DesignScene.Proofs.Json.Sorted

namespace DesignScene.Json

variable {α β : Type}

/-- A list is decoded exactly if each of its values is. -/
theorem mapM_eq_some_iff {decode : β → Option α} {list : List β} {values : List α} :
    list.mapM decode = some values ↔
      List.Forall₂ (fun source value => decode source = some value) list values := by
  induction list generalizing values with
  | nil => cases values <;> simp
  | cons first more ih =>
      cases values with
      | nil => simp [Option.bind_eq_some_iff]
      | cons value values => simp [Option.bind_eq_some_iff, ← ih]

/-- Every value that comes out comes from something that went in. -/
theorem exists_of_mem_mapM {decode : β → Option α} {list : List β} {values : List α}
    (read : list.mapM decode = some values) {value : α} (member : value ∈ values) :
    ∃ source, decode source = some value := by
  have step := (mapM_eq_some_iff.mp read).flip
  have sources : ∀ value ∈ values, ∃ source, decode source = some value :=
    ((List.forall₂_and_left _ _).mp
      (step.imp fun _ source found => ⟨⟨source, found⟩, found⟩)).1
  exact sources value member

section Fields

variable {name : String} {fields : List (String × Json)}

/-- A change of the values by name does not change how often a name occurs. -/
theorem occurrences_map (change : Json → Json) :
    occurrences name (fields.map fun field => (field.1, change field.2)) =
      (occurrences name fields).map change := by
  rw [occurrences, occurrences, List.filterMap_map, List.map_filterMap]
  refine List.filterMap_congr fun field _ => ?_
  rw [Function.comp_apply]
  split_ifs <;> rfl

theorem occurrences_eq_map_filter :
    occurrences name fields = (fields.filter (·.1 = name)).map Prod.snd := by
  rw [occurrences, ← List.filterMap_eq_map, List.filterMap_filter]
  simp

theorem occurrences_cons (key : String) (value : Json) :
    occurrences name ((key, value) :: fields) =
      if key = name then value :: occurrences name fields else occurrences name fields := by
  rw [occurrences, List.filterMap_cons]
  split_ifs <;> rfl

/-- In a sorted map a name occurs at most once. -/
theorem occurrences_of_sorted {dict : Dict Json} (sorted : dict.Sorted) :
    occurrences name dict = (dict.get? name).toList := by
  induction dict with
  | nil => rfl
  | cons first more ih =>
      obtain ⟨key, value⟩ := first
      have rest := ih (List.pairwise_cons.mp sorted).2
      rw [occurrences_cons, rest, Dict.get?]
      split_ifs with same
      · subst same
        rw [Dict.get?_of_sorted_cons sorted]
        rfl
      · rfl

/-- The last value of a name is the one that counts in the sorted fields. -/
theorem uniqueField_ofList :
    uniqueField (Dict.ofList fields) name = some (occurrences name fields).getLast? := by
  have last : (Dict.ofList fields).get? name = (occurrences name fields).getLast? := by
    rw [Dict.get?_ofList, occurrences_eq_map_filter, List.getLast?_map]
  rw [uniqueField, occurrences_of_sorted (Dict.sorted_ofList fields), last]
  cases (occurrences name fields).getLast? <;> rfl

/-- The elements are normalized one by one. -/
theorem normalizeElements_eq_map (elements : List Json) :
    normalizeElements elements = elements.map normalize := by
  induction elements with
  | nil => rfl
  | cons first more ih => rw [normalizeElements, ih, List.map_cons]

/-- The fields are inserted one after the other. -/
theorem normalizeFields_eq_foldl (sorted : Dict Json) (fields : List (String × Json)) :
    normalizeFields sorted fields =
      fields.foldl (fun dict field => dict.insert field.1 (normalize field.2)) sorted := by
  induction fields generalizing sorted with
  | nil => rfl
  | cons first more ih => rw [normalizeFields, ih, List.foldl_cons]

/-- The sorted fields are the fields put together in a map. -/
theorem normalizeFields_eq_ofList (fields : List (String × Json)) :
    normalizeFields [] fields =
      Dict.ofList (fields.map fun field => (field.1, normalize field.2)) := by
  rw [normalizeFields_eq_foldl, Dict.ofList, List.foldl_map]

/-- A field that is written once is also found among the sorted fields. -/
theorem uniqueField_normalizeFields {slot : Option Json}
    (found : uniqueField fields name = some slot) :
    uniqueField (normalizeFields [] fields) name = some (slot.map normalize) := by
  rw [normalizeFields_eq_ofList, uniqueField_ofList, occurrences_map, List.getLast?_map]
  unfold uniqueField at found
  split at found <;> cases found
  · next none => rw [none]; rfl
  · next single => rw [single]; rfl

/-- A record that is read as written is read from the normalized value too. -/
theorem recordFields_normalize {names : List String} {json : Json} {slots : List (Option Json)}
    (read : recordFields names json = some slots) :
    recordFields names json.normalize = some (slots.map (Option.map normalize)) := by
  unfold recordFields at read
  split at read
  · rw [mapM_eq_some_iff] at read
    rw [normalize, recordFields, mapM_eq_some_iff, List.forall₂_map_right_iff]
    exact read.imp fun _ _ found => uniqueField_normalizeFields found
  · split_ifs at read with more
    cases read
    rw [normalize, normalizeElements_eq_map, recordFields, List.length_map, if_neg more]
    simp [Function.comp_def]
  · cases read

end Fields

/-- A value and the same value with sorted fields are decoded alike. -/
def ReadsSorted (decode : Json → Option α) : Prop :=
  ∀ json value, decode json = some value → decode json.normalize = some value

section Decoders

variable {decode : Json → Option α} {value : α}

theorem readsSorted_asString? : ReadsSorted asString? := by
  intro json value read
  cases json <;> cases read
  rfl

theorem readsSorted_toNat? (greatest : Nat) : ReadsSorted (toNat? greatest) := by
  intro json value read
  unfold toNat? at read
  split at read
  · exact read
  · cases read

theorem readsSorted_toNamed? (named : String → Option α) : ReadsSorted (toNamed? named) := by
  intro json value read
  unfold toNamed? at read
  split at read
  · exact read
  · exact read
  · cases read

theorem readsSorted_toList? (reads : ReadsSorted decode) : ReadsSorted (toList? decode) := by
  intro json values read
  unfold toList? at read
  split at read
  · rw [mapM_eq_some_iff] at read
    rw [normalize, normalizeElements_eq_map, toList?, mapM_eq_some_iff, List.forall₂_map_left_iff]
    exact read.imp reads
  · cases read

/-- The entries are what is decoded from the fields, under the same names. -/
def DecodesTo (decode : Json → Option α) (fields : List (String × Json))
    (entries : List (String × α)) : Prop :=
  List.Forall₂ (fun field entry => field.1 = entry.1 ∧ decode field.2 = some entry.2) fields entries

/-- The two dictionaries take one more entry and its value alike. -/
theorem DecodesTo.insert {source : Json} {key : String} (found : decode source = some value)
    {dict : Dict Json} {values : Dict α} (step : DecodesTo decode dict values) :
    DecodesTo decode (dict.insert key source) (values.insert key value) := by
  induction step with
  | nil => exact .cons ⟨rfl, found⟩ .nil
  | @cons field entry dict values same more ih =>
      obtain ⟨name, old⟩ := field
      obtain ⟨_, known⟩ := entry
      obtain ⟨rfl, here⟩ := same
      rw [Dict.insert, Dict.insert]
      split_ifs
      · exact .cons ⟨rfl, found⟩ more
      · exact .cons ⟨rfl, found⟩ (.cons ⟨rfl, here⟩ more)
      · exact .cons ⟨rfl, here⟩ ih

/-- Sorting the fields first comes to the same as putting the entries together. -/
theorem DecodesTo.normalizeFields (reads : ReadsSorted decode) {fields : List (String × Json)}
    {entries : List (String × α)} (step : DecodesTo decode fields entries) {earlier : Dict Json}
    {known : Dict α} (start : DecodesTo decode earlier known) :
    DecodesTo decode (normalizeFields earlier fields)
      (entries.foldl (fun dict pair => Dict.insert pair.1 pair.2 dict) known) := by
  induction step generalizing earlier known with
  | nil => exact start
  | cons same more ih =>
      rw [Json.normalizeFields, List.foldl_cons, ← same.1]
      exact ih (start.insert (reads _ _ same.2))

/-- An object is decoded exactly if all of its values are, and of equal names the last one counts. -/
theorem toDict?_eq_some_iff {fields : List (String × Json)} {values : Dict α} :
    toDict? decode (.object fields) = some values ↔
      ∃ entries, DecodesTo decode fields entries ∧ Dict.ofList entries = values := by
  have each (field : String × Json) (entry : String × α) :
      ((decode field.2).map fun value => (field.1, value)) = some entry ↔
        field.1 = entry.1 ∧ decode field.2 = some entry.2 := by
    rw [Option.map_eq_some_iff]
    exact ⟨fun ⟨value, found, same⟩ => same ▸ ⟨rfl, found⟩,
      fun ⟨same, found⟩ => ⟨entry.2, found, Prod.ext same rfl⟩⟩
  rw [toDict?, Option.map_eq_some_iff]
  simp only [mapM_eq_some_iff, each, DecodesTo]

/-- A dictionary is read from an object that is sorted, as it is from the one that was written. -/
theorem readsSorted_toDict? (reads : ReadsSorted decode) : ReadsSorted (toDict? decode) := by
  intro json values read
  cases json with
  | object fields =>
      obtain ⟨entries, step, rfl⟩ := toDict?_eq_some_iff.mp read
      exact toDict?_eq_some_iff.mpr ⟨Dict.ofList entries, step.normalizeFields reads .nil,
        Dict.ofList_of_sorted (Dict.sorted_ofList entries)⟩
  | _ => cases read

/-- A map that is decoded is sorted, also where it is absent. -/
theorem sorted_of_withDefault {slot : Option Json} {values : Dict α}
    (read : withDefault [] (toDict? decode) slot = some values) : values.Sorted := by
  cases slot with
  | none =>
      cases read
      exact .nil
  | some json =>
      cases json with
      | object fields =>
          obtain ⟨entries, -, rfl⟩ := toDict?_eq_some_iff.mp read
          exact Dict.sorted_ofList entries
      | _ => cases read

/-- Every value of a list that is decoded is decoded from some element. -/
theorem exists_of_mem_withDefault {slot : Option Json} {values : List α}
    (read : withDefault [] (toList? decode) slot = some values) (member : value ∈ values) :
    ∃ element, decode element = some value := by
  cases slot with
  | none =>
      cases read
      cases member
  | some json =>
      cases json with
      | array elements => exact exists_of_mem_mapM read member
      | _ => cases read

/-- A required field is read after normalizing as well. -/
theorem required_normalize (reads : ReadsSorted decode) {slot : Option Json}
    (read : required decode slot = some value) :
    required decode (slot.map normalize) = some value := by
  obtain ⟨json, rfl, found⟩ := Option.bind_eq_some_iff.mp read
  exact reads json value found

/-- So is a field with a default. -/
theorem withDefault_normalize (reads : ReadsSorted decode) {absent : α} {slot : Option Json}
    (read : withDefault absent decode slot = some value) :
    withDefault absent decode (slot.map normalize) = some value := by
  cases slot with
  | none => exact read
  | some json => exact reads json value read

theorem optional_of_ne {json : Json} (present : json ≠ .null) :
    optional decode (some json) = (decode json).map some := by
  unfold optional
  split
  · next absent => cases absent
  · next isNull => exact absurd (Option.some.inj isNull) present
  · next same => rw [Option.some.inj same]

theorem normalize_ne_null {json : Json} (present : json ≠ .null) : json.normalize ≠ .null := by
  cases json <;> simp_all [normalize]

/-- So is a field that may be absent or null. -/
theorem optional_normalize (reads : ReadsSorted decode) {slot : Option Json} {value : Option α}
    (read : optional decode slot = some value) :
    optional decode (slot.map normalize) = some value := by
  rcases slot with _ | json
  · exact read
  · by_cases isNull : json = .null
    · rw [isNull] at read ⊢
      exact read
    · rw [optional_of_ne isNull, Option.map_eq_some_iff] at read
      obtain ⟨inner, found, rfl⟩ := read
      rw [Option.map_some, optional_of_ne (normalize_ne_null isNull), reads json inner found,
        Option.map_some]

end Decoders

section Encoders

variable {decode : Json → Option α} {encode : α → Json}

/-- A list is decoded from what it is written as. -/
theorem toList?_ofList {values : List α}
    (each : ∀ value ∈ values, decode (encode value) = some value) :
    toList? decode (ofList encode values) = some values := by
  rw [ofList, toList?, mapM_eq_some_iff, List.forall₂_map_left_iff, List.forall₂_same]
  exact each

/-- A sorted dictionary is decoded from what it is written as. -/
theorem toDict?_ofDict {values : Dict α} (sorted : values.Sorted)
    (each : ∀ entry ∈ values, decode (encode entry.2) = some entry.2) :
    toDict? decode (ofDict encode values) = some values := by
  refine toDict?_eq_some_iff.mpr ⟨values, ?_, Dict.ofList_of_sorted sorted⟩
  rw [DecodesTo, List.forall₂_map_left_iff, List.forall₂_same]
  exact fun entry member => ⟨rfl, each entry member⟩

/-- A natural number is read only from its own writing and within its bound. -/
theorem toNat?_eq_some_iff {greatest value : Nat} {json : Json} :
    toNat? greatest json = some value ↔ json = ofNat value ∧ value ≤ greatest := by
  unfold toNat? ofNat
  constructor
  · intro read
    split at read
    · next written =>
        split_ifs at read with fits
        rw [Bool.and_eq_true, decide_eq_true_eq, decide_eq_true_eq] at fits
        cases read
        rw [Int.toNat_of_nonneg fits.1]
        exact ⟨rfl, by omega⟩
    · cases read
  · rintro ⟨rfl, fits⟩
    have inside : (decide (0 ≤ (value : Int)) && decide ((value : Int) ≤ greatest)) = true := by
      rw [Bool.and_eq_true, decide_eq_true_eq, decide_eq_true_eq]
      omega
    dsimp only
    rw [if_pos inside, Int.toNat_natCast]

/-- A natural number is read back where it fits 64 bits. -/
theorem toWord64?_ofNat_iff {value : Nat} :
    toWord64? (ofNat value) = some value ↔ value < UInt64.size := by
  rw [toWord64?, toNat?_eq_some_iff]
  exact ⟨fun fits => Nat.lt_of_le_sub_one (by decide) fits.2,
    fun fits => ⟨rfl, Nat.le_sub_one_of_lt fits⟩⟩

/-- An optional count that fits a word is read from what it is written as. -/
theorem optional_ofNat {count : Option Nat} (fits : ∀ value ∈ count, value < UInt64.size) :
    optional toWord64? (count.map ofNat) = some count := by
  cases count with
  | none => rfl
  | some value =>
      rw [Option.map_some, optional_of_ne (by simp [ofNat]),
        toWord64?_ofNat_iff.mpr (fits value rfl), Option.map_some]

/-- A count that is read fits a word. -/
theorem lt_of_optional {slot : Option Json} {count : Option Nat}
    (read : optional toWord64? slot = some count) : ∀ value ∈ count, value < UInt64.size := by
  rintro value rfl
  unfold optional at read
  split at read
  · cases read
  · cases read
  · obtain ⟨found, word, same⟩ := Option.map_eq_some_iff.mp read
    cases same
    obtain ⟨rfl, -⟩ := toNat?_eq_some_iff.mp word
    exact toWord64?_ofNat_iff.mp word

end Encoders

end DesignScene.Json
