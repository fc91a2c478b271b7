/-
This file bounds the numbers of a value that is read from a text.
-/
import DesignScene.Proofs.Json.Sorted
import DesignScene.Proofs.Scalar.Finite

namespace DesignScene.Json

/-- The number stands in the value, at any depth. -/
inductive HasNumber (number : Number) : Json → Prop where
  | self : HasNumber number (.number number)
  | element {elements : List Json} {element : Json} (member : element ∈ elements)
      (inside : HasNumber number element) : HasNumber number (.array elements)
  | field {fields : List (String × Json)} {field : String × Json} (member : field ∈ fields)
      (inside : HasNumber number field.2) : HasNumber number (.object fields)

namespace HasNumber

variable {number : Number} {value inner : Json}

/-- The numbers of a field are numbers of the object. -/
theorem of_get? {name : String} {fields : Dict Json} (inside : HasNumber number inner)
    (found : fields.get? name = some inner) : HasNumber number (.object fields) :=
  .field (Dict.mem_of_get? found) inside

theorem of_field? {name : String} (inside : HasNumber number inner)
    (found : value.field? name = some inner) : HasNumber number value := by
  cases value with
  | object fields => exact inside.of_get? found
  | _ => cases found

/-- The numbers of an element are numbers of the array. -/
theorem of_mem_asArray? {elements : List Json} (inside : HasNumber number inner)
    (isArray : value.asArray? = some elements) (member : inner ∈ elements) :
    HasNumber number value := by
  cases value with
  | array list =>
      cases isArray
      exact .element member inside
  | _ => cases isArray

end HasNumber

section Literals

variable {negative : Bool} {significand : Nat} {value : Int} {rest : List Char}

/-- Only digits that fit 64 bits are taken. -/
theorem takeSignificand_le (digits : List Char) (fits : significand ≤ greatestNat) :
    (takeSignificand significand digits).1 ≤ greatestNat := by
  induction digits generalizing significand with
  | nil => exact fits
  | cons digit more ih =>
      rw [takeSignificand]
      split
      · exact fits
      · exact ih (by omega)

/-- An integer is not greater than its digits say. -/
theorem natAbs_le_of_integerNumber (integer : integerNumber negative significand = .int value) :
    value.natAbs ≤ significand := by
  unfold integerNumber at integer
  split_ifs at integer
  · cases integer
    exact le_rfl
  · cases integer
    omega

/-- An integer literal is no greater than the digits that were taken. -/
theorem natAbs_le_of_readExponentPart {start : Int} {isInteger : Bool} {characters : List Char}
    (read : readExponentPart negative significand start isInteger characters =
      some (.int value, rest)) : value.natAbs ≤ significand := by
  have ofFinish
      (finished : readExponentPart.finish negative significand start isInteger characters =
        some (.int value, rest)) : value.natAbs ≤ significand := by
    unfold readExponentPart.finish at finished
    have number := congrArg Prod.fst (Option.some.inj finished)
    split_ifs at number
    · exact natAbs_le_of_integerNumber number
    · cases number
  unfold readExponentPart at read
  split at read
  · split_ifs at read
    · obtain ⟨number, scaled, same⟩ := Option.map_eq_some_iff.mp read
      have integer := congrArg Prod.fst same
      dsimp only at integer
      rw [integer] at scaled
      unfold readExponentDigits at scaled
      dsimp only at scaled
      split_ifs at scaled <;> cases scaled
    · exact ofFinish read
  · exact ofFinish read

/-- A numeral stays an integer only if its digits fit. -/
theorem natAbs_le_of_readFractionPart {dropped : Nat} {characters : List Char}
    (fits : significand ≤ greatestNat)
    (read : readFractionPart negative significand dropped characters = some (.int value, rest)) :
    value.natAbs ≤ greatestNat := by
  unfold readFractionPart at read
  split at read
  · dsimp only at read
    split_ifs at read
    exact le_trans (natAbs_le_of_readExponentPart read) (takeSignificand_le _ fits)
  · exact le_trans (natAbs_le_of_readExponentPart read) fits

/-- Every integer that is read fits a word. -/
theorem natAbs_le_of_readNumber {characters : List Char}
    (read : readNumber characters = some (.int value, rest)) : value.natAbs ≤ greatestNat := by
  have ofMagnitude {negative : Bool} {characters : List Char}
      (read : readMagnitude negative characters = some (.int value, rest)) :
      value.natAbs ≤ greatestNat := by
    unfold readMagnitude at read
    dsimp only at read
    split_ifs at read
    exact natAbs_le_of_readFractionPart (takeSignificand_le _ (Nat.zero_le _)) read
  unfold readNumber at read
  split at read
  · exact ofMagnitude read
  · exact ofMagnitude read

end Literals

section Values

/-- The integers of a value fit 64 bits. -/
def IntegersFit (json : Json) : Prop :=
  ∀ value, HasNumber (.int value) json → value.natAbs ≤ greatestNat

theorem integersFit_array {elements : List Json}
    (each : ∀ element ∈ elements, IntegersFit element) : IntegersFit (.array elements) := by
  intro value inside
  cases inside with
  | element member inside => exact each _ member value inside

theorem integersFit_object {fields : List (String × Json)}
    (each : ∀ field ∈ fields, IntegersFit field.2) : IntegersFit (.object fields) := by
  intro value inside
  cases inside with
  | field member inside => exact each _ member value inside

theorem integersFit_unreadable : IntegersFit unreadable := by
  intro value inside
  cases inside

/-- A value without numbers inside it has no integers. -/
theorem integersFit_of_ne {json : Json} (noNumber : json.asNumber? = none)
    (noArray : json.asArray? = none) (noObject : json.asObject? = none) : IntegersFit json := by
  intro value inside
  cases inside with
  | self => cases noNumber
  | element => cases noArray
  | field => cases noObject

/-- What is read with this much fuel has integers that fit. -/
structure ReadsFit (fuel : Nat) : Prop where
  value {depth : Nat} {characters rest : List Char} {json : Json}
    (read : readValue fuel depth characters = some (json, rest)) : IntegersFit json
  elements {depth : Nat} {characters rest : List Char} {json : Json} {earlier : List Json}
    (each : ∀ element ∈ earlier, IntegersFit element)
    (read : readElements fuel depth earlier characters = some (json, rest)) : IntegersFit json
  fields {depth : Nat} {characters rest : List Char} {json : Json}
    {earlier : Option (List (String × Json))}
    (each : ∀ fields, earlier = some fields → ∀ field ∈ fields, IntegersFit field.2)
    (read : readFields fuel depth earlier characters = some (json, rest)) : IntegersFit json

section Step

variable {fuel depth : Nat} {characters rest : List Char} {json : Json}

/-- The integers of a value fit if those of shorter texts do. -/
theorem integersFit_of_readValue (fits : ReadsFit fuel)
    (read : readValue (fuel + 1) depth characters = some (json, rest)) : IntegersFit json := by
  unfold readValue at read
  split at read
  · split at read
    · cases read
    · split at read
      · cases read
        exact integersFit_object (by simp)
      · exact fits.fields (fun fields same => by cases same; simp) read
  · split at read
    · cases read
    · split at read
      · cases read
        exact integersFit_array (by simp)
      · exact fits.elements (by simp) read
  · obtain ⟨⟨text, after⟩, -, same⟩ := Option.map_eq_some_iff.mp read
    cases same
    cases text with
    | none => exact integersFit_unreadable
    | some text => exact integersFit_of_ne rfl rfl rfl
  · obtain ⟨after, -, same⟩ := Option.map_eq_some_iff.mp read
    cases same
    exact integersFit_of_ne rfl rfl rfl
  · obtain ⟨after, -, same⟩ := Option.map_eq_some_iff.mp read
    cases same
    exact integersFit_of_ne rfl rfl rfl
  · obtain ⟨after, -, same⟩ := Option.map_eq_some_iff.mp read
    cases same
    exact integersFit_of_ne rfl rfl rfl
  · obtain ⟨⟨number, after⟩, literal, same⟩ := Option.map_eq_some_iff.mp read
    cases same
    intro value inside
    cases inside with
    | self => exact natAbs_le_of_readNumber literal

/-- The integers of a list fit if those that are read already do. -/
theorem integersFit_of_readElements (fits : ReadsFit fuel) {earlier : List Json}
    (each : ∀ element ∈ earlier, IntegersFit element)
    (read : readElements (fuel + 1) depth earlier characters = some (json, rest)) :
    IntegersFit json := by
  rw [readElements] at read
  obtain ⟨⟨element, after⟩, first, more⟩ := Option.bind_eq_some_iff.mp read
  have all : ∀ other ∈ element :: earlier, IntegersFit other := by
    intro other member
    rcases List.mem_cons.mp member with rfl | old
    · exact fits.value first
    · exact each other old
  dsimp only at more
  split at more
  · exact fits.elements all more
  · cases more
    exact integersFit_array fun other member => all other (List.mem_reverse.mp member)
  · cases more

/-- The integers of an object fit if those that are read already do. -/
theorem integersFit_of_readFields (fits : ReadsFit fuel)
    {earlier : Option (List (String × Json))}
    (each : ∀ fields, earlier = some fields → ∀ field ∈ fields, IntegersFit field.2)
    (read : readFields (fuel + 1) depth earlier characters = some (json, rest)) :
    IntegersFit json := by
  rw [readFields] at read
  split at read
  · obtain ⟨⟨name, afterName⟩, -, more⟩ := Option.bind_eq_some_iff.mp read
    dsimp only at more
    split at more
    · obtain ⟨⟨value, after⟩, found, later⟩ := Option.bind_eq_some_iff.mp more
      have all : ∀ fields, (earlier.bind fun fields => name.map fun name =>
          (name, value) :: fields) = some fields → ∀ field ∈ fields, IntegersFit field.2 := by
        intro fields joined field member
        obtain ⟨old, same, extended⟩ := Option.bind_eq_some_iff.mp joined
        obtain ⟨text, -, rfl⟩ := Option.map_eq_some_iff.mp extended
        rcases List.mem_cons.mp member with rfl | before
        · exact fits.value found
        · exact each old same field before
      dsimp only at later
      split at later
      · exact fits.fields all later
      · cases later
        generalize
          (earlier.bind fun fields => name.map fun name => (name, value) :: fields) = joined at all
        cases joined with
        | none => exact integersFit_unreadable
        | some fields =>
            exact integersFit_object fun field member =>
              all fields rfl field (List.mem_reverse.mp member)
      · cases later
    · cases more
  · cases read

/-- Reading with any amount of fuel keeps the integers in 64 bits. -/
theorem readsFit (fuel : Nat) : ReadsFit fuel := by
  induction fuel with
  | zero =>
      constructor
      · intro depth characters rest json read
        cases read
      · intro depth characters rest json earlier each read
        cases read
      · intro depth characters rest json earlier each read
        cases read
  | succ fuel fits =>
      exact ⟨integersFit_of_readValue fits, integersFit_of_readElements fits,
        integersFit_of_readFields fits⟩

end Step

/-- A list is readable if all of its elements are. -/
theorem areReadable_iff {elements : List Json} :
    areReadable elements = true ↔ ∀ element ∈ elements, isReadable element = true := by
  induction elements with
  | nil => simp [areReadable]
  | cons first more ih => rw [areReadable, Bool.and_eq_true, ih, List.forall_mem_cons]

theorem fieldsReadable_iff {fields : List (String × Json)} :
    fieldsReadable fields = true ↔ ∀ field ∈ fields, isReadable field.2 = true := by
  induction fields with
  | nil => simp [fieldsReadable]
  | cons first more ih => rw [fieldsReadable, Bool.and_eq_true, ih, List.forall_mem_cons]

/-- A readable value has no double that is not finite. -/
theorem isFinite_of_isReadable {json : Json} {value : Float} (readable : isReadable json = true)
    (inside : HasNumber (.real value) json) : value.isFinite = true := by
  induction inside with
  | self => exact readable
  | element member _ ih => exact ih (areReadable_iff.mp readable _ member)
  | field member _ ih => exact ih (fieldsReadable_iff.mp readable _ member)

end Values

section Normalized

variable {number : Number}

mutual

/-- Normalizing makes up no numbers. -/
theorem hasNumber_of_normalize : ∀ json : Json,
    HasNumber number (normalize json) → HasNumber number json
  | .null, inside | .bool _, inside | .number _, inside | .string _, inside => inside
  | .array elements, .element member inside => by
      obtain ⟨element, original, found⟩ := hasNumber_of_normalizeElements elements member inside
      exact .element original found
  | .object fields, .field member inside => by
      rcases hasNumber_of_normalizeFields fields member inside with old | ⟨field, original, found⟩
      · obtain ⟨_, impossible, _⟩ := old
        cases impossible
      · exact .field original found

theorem hasNumber_of_normalizeElements : ∀ (elements : List Json) {element : Json},
    element ∈ normalizeElements elements → HasNumber number element →
      ∃ original ∈ elements, HasNumber number original
  | [], _, member, _ => nomatch member
  | first :: more, element, member, inside => by
      rcases List.mem_cons.mp member with rfl | later
      · exact ⟨first, List.mem_cons_self, hasNumber_of_normalize first inside⟩
      · obtain ⟨original, among, found⟩ := hasNumber_of_normalizeElements more later inside
        exact ⟨original, List.mem_cons_of_mem _ among, found⟩

theorem hasNumber_of_normalizeFields : ∀ (fields : List (String × Json)) {earlier : Dict Json}
    {field : String × Json}, field ∈ normalizeFields earlier fields → HasNumber number field.2 →
      (∃ old ∈ earlier, HasNumber number old.2) ∨ ∃ original ∈ fields, HasNumber number original.2
  | [], _, field, member, inside => .inl ⟨field, member, inside⟩
  | (name, value) :: more, earlier, field, member, inside => by
      rcases hasNumber_of_normalizeFields more member inside with old | ⟨original, among, found⟩
      · obtain ⟨entry, here, found⟩ := old
        rcases Dict.mem_insert here with rfl | before
        · exact .inr ⟨(name, value), List.mem_cons_self, hasNumber_of_normalize value found⟩
        · exact .inl ⟨entry, before, found⟩
      · exact .inr ⟨original, List.mem_cons_of_mem _ among, found⟩

end

/-- The numbers of a value that is read from a text are finite as doubles. -/
theorem isFinite_of_parse {text : String} {json : Json} (parsed : parse text = some json)
    (inside : HasNumber number json) : (Scalar.ofNumber number : Float).isFinite = true := by
  obtain ⟨written, kept, rfl⟩ := Option.map_eq_some_iff.mp parsed
  obtain ⟨found, readable⟩ := Option.filter_eq_some_iff.mp kept
  have original := hasNumber_of_normalize written inside
  cases number with
  | real value => exact isFinite_of_isReadable readable original
  | int value =>
      obtain ⟨⟨value', rest⟩, read, ended⟩ := Option.bind_eq_some_iff.mp found
      dsimp only at ended
      split_ifs at ended
      cases ended
      have fits := (readsFit _).value read value original
      exact Doubles.isFinite_ofInt (lt_of_le_of_lt fits (by decide))

end Normalized

end DesignScene.Json
