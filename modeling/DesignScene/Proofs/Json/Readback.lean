/-
This file shows that values without doubles are read back from the text that is written for them.
-/
import DesignScene.Json.Printer
import DesignScene.Proofs.Json.Numbers

namespace DesignScene.Json

section Strings

/-- The four digits of a control character are read as its code unit. -/
theorem readUnit_hexDigit : ∀ unit < 32,
    readUnit '0' '0' (hexDigit (unit / 16)) (hexDigit (unit % 16)) = some unit := by
  decide

/-- A character below the surrogates stands for itself. -/
theorem pushUnit_of_lt {read : List Char} {character : Char} (low : character.toNat < 32) :
    StringState.pushUnit character.toNat { read := some read } =
      { read := some (character :: read) } := by
  have notHigh : isHighSurrogate character.toNat = false := by
    simp only [isHighSurrogate, Bool.and_eq_false_iff, decide_eq_false_iff_not]
    omega
  have notLow : isLowSurrogate character.toNat = false := by
    simp only [isLowSurrogate, Bool.and_eq_false_iff, decide_eq_false_iff_not]
    omega
  simp [StringState.pushUnit, notHigh, notLow, Char.ofNat_toNat]

/-- A character is read back from its escape. -/
theorem readStringAfter_escapeChar (read : List Char) (character : Char) (rest : List Char) :
    readStringAfter { read := some read } (escapeChar character ++ rest) =
      readStringAfter { read := some (character :: read) } rest := by
  have short {escape : Char} (named : shortEscape? escape = some character)
      (different : escape ≠ 'u') :
      readStringAfter { read := some read } ('\\' :: escape :: rest) =
        readStringAfter { read := some (character :: read) } rest := by
    rw [readStringAfter]
    · simp [named, StringState.push]
    · exact fun _ _ _ _ _ same _ => different same
  unfold escapeChar
  split_ifs with quote backslash line carriage tab back form control
  · exact short (by rw [eq_of_beq quote]; rfl) (by decide)
  · exact short (by rw [eq_of_beq backslash]; rfl) (by decide)
  · exact short (by rw [eq_of_beq line]; rfl) (by decide)
  · exact short (by rw [eq_of_beq carriage]; rfl) (by decide)
  · exact short (by rw [eq_of_beq tab]; rfl) (by decide)
  · have same : character = '\x08' := Char.toNat_inj.mp (eq_of_beq back)
    exact short (by rw [same]; rfl) (by decide)
  · have same : character = '\x0C' := Char.toNat_inj.mp (eq_of_beq form)
    exact short (by rw [same]; rfl) (by decide)
  · have unit := readUnit_hexDigit character.toNat control
    simp only [List.cons_append, List.nil_append, readStringAfter, unit, Option.bind_eq_bind,
      Option.bind_some, pushUnit_of_lt control]
  · rw [List.singleton_append, readStringAfter.eq_def]
    split <;> simp_all [StringState.push]

/-- A text that is escaped character by character is read back up to its closing mark. -/
theorem readStringAfter_flatMap (text read rest : List Char) :
    readStringAfter { read := some read } (text.flatMap escapeChar ++ '"' :: rest) =
      some (some (String.ofList (read.reverse ++ text)), rest) := by
  induction text generalizing read with
  | nil => simp [readStringAfter, StringState.text?]
  | cons first more ih =>
      rw [List.flatMap_cons, List.append_assoc, readStringAfter_escapeChar, ih]
      simp

/-- The opening quote is passed over before a string is read. -/
theorem exists_stringChars (text : String) : ∃ written, stringChars text = '"' :: written ∧
    ∀ rest, readStringAfter {} (written ++ rest) = some (some text, rest) := by
  refine ⟨text.toList.flatMap escapeChar ++ ['"'], rfl, fun rest => ?_⟩
  rw [List.append_assoc, List.singleton_append]
  exact (readStringAfter_flatMap text.toList [] rest).trans (by simp)

end Strings

section Integers

/-- After a value stands the end of the text, a comma or a closing bracket. -/
def EndsValue (rest : List Char) : Prop := ∀ mark ∈ rest.head?, mark ∈ [',', ']', '}']

variable {rest : List Char}

theorem endsValue_nil : EndsValue [] := by
  intro mark member
  cases member

theorem endsValue_cons {mark : Char} (ends : mark ∈ [',', ']', '}']) :
    EndsValue (mark :: rest) := by
  intro other member
  cases member
  exact ends

/-- More digits make no lesser number. -/
theorem le_ofDigitChars (digits : List Char) (significand : Nat) :
    significand ≤ Nat.ofDigitChars 10 digits significand := by
  induction digits generalizing significand with
  | nil => exact le_rfl
  | cons digit more ih =>
      rw [Nat.ofDigitChars_cons]
      exact le_trans (by omega) (ih _)

/-- No digit of a number that fits is dropped. -/
theorem takeSignificand_eq {digits : List Char} {significand : Nat}
    (fits : Nat.ofDigitChars 10 digits significand ≤ greatestNat) :
    takeSignificand significand digits = (Nat.ofDigitChars 10 digits significand, 0) := by
  induction digits generalizing significand with
  | nil => rfl
  | cons digit more ih =>
      rw [Nat.ofDigitChars_cons] at fits ⊢
      have next : 10 * significand + Decimal.digitValue digit ≤ greatestNat :=
        le_trans (le_ofDigitChars more _) fits
      rw [takeSignificand, if_neg (Nat.not_lt.mpr next)]
      exact ih fits

/-- A positive number is not written with a leading zero. -/
theorem head?_toDigits_ne_zero {value : Nat} (positive : 0 < value) :
    (Nat.toDigits 10 value).head? ≠ some '0' := by
  have single : ∀ digit < 10, 0 < digit → [Nat.digitChar digit].head? ≠ some '0' := by decide
  induction value using Nat.strongRecOn with
  | ind value ih =>
      by_cases small : value < 10
      · rw [Nat.toDigits_of_lt_base small]
        exact single value small positive
      · rw [Nat.toDigits_of_base_le (by decide) (Nat.not_lt.mp small),
          List.head?_append, Ne, Option.or_eq_some_iff, List.head?_eq_none_iff]
        rintro (leading | ⟨empty, -⟩)
        · exact ih (value / 10) (by omega) (by omega) leading
        · exact Nat.toDigits_ne_nil empty

/-- Where the value ends there is no exponent. -/
theorem readExponentPart_of_endsValue {negative isInteger : Bool} {significand : Nat} {start : Int}
    (ends : EndsValue rest) :
    readExponentPart negative significand start isInteger rest =
      readExponentPart.finish negative significand start isInteger rest := by
  cases rest with
  | nil => rfl
  | cons mark more =>
      have noExponent : (mark == 'e' || mark == 'E') = false := by
        have closing := ends mark rfl
        simp only [List.mem_cons, List.not_mem_nil, or_false] at closing
        rcases closing with rfl | rfl | rfl <;> rfl
      rw [readExponentPart, noExponent]
      rfl

/-- Where the value ends there is no fraction. -/
theorem readFractionPart_of_endsValue {negative : Bool} {significand dropped : Nat}
    (ends : EndsValue rest) :
    readFractionPart negative significand dropped rest =
      readExponentPart negative significand dropped (dropped == 0) rest := by
  unfold readFractionPart
  split
  · exact absurd (ends '.' rfl) (by decide)
  · rfl

/-- The digits of a number are read back as its magnitude. -/
theorem readMagnitude_toDigits {value : Nat} (fits : value ≤ greatestNat) (negative : Bool)
    (ends : EndsValue rest) :
    readMagnitude negative (Nat.toDigits 10 value ++ rest) =
      some (integerNumber negative value, rest) := by
  have digits : ∀ digit ∈ Nat.toDigits 10 value, digit.isDigit = true := fun _ member =>
    Nat.isDigit_of_mem_toDigits (by decide) (by decide) member
  have stop : rest.takeWhile Char.isDigit = [] ∧ rest.dropWhile Char.isDigit = rest := by
    cases rest with
    | nil => exact ⟨rfl, rfl⟩
    | cons mark more =>
        have closing := ends mark rfl
        simp only [List.mem_cons, List.not_mem_nil, or_false] at closing
        rcases closing with rfl | rfl | rfl <;> exact ⟨rfl, rfl⟩
  have taken : (Nat.toDigits 10 value ++ rest).takeWhile Char.isDigit = Nat.toDigits 10 value := by
    rw [List.takeWhile_append_of_pos digits, stop.1, List.append_nil]
  have dropped : (Nat.toDigits 10 value ++ rest).dropWhile Char.isDigit = rest := by
    rw [List.dropWhile_append_of_pos digits, stop.2]
  have nonempty : (Nat.toDigits 10 value).isEmpty = false := by
    simp
  have noLeadingZero :
      ((Nat.toDigits 10 value).head? == some '0' && 1 < (Nat.toDigits 10 value).length) =
        false := by
    rcases Nat.eq_zero_or_pos value with rfl | positive
    · rfl
    · simp [head?_toDigits_ne_zero positive]
  have same : Nat.ofDigitChars 10 (Nat.toDigits 10 value) 0 = value :=
    Nat.ofDigitChars_toDigits (by decide) (by decide)
  have exact : takeSignificand 0 (Nat.toDigits 10 value) = (value, 0) := by
    rw [takeSignificand_eq (by rwa [same]), same]
  unfold readMagnitude
  simp only [taken, dropped, nonempty, noLeadingZero, exact]
  rw [if_neg (by decide), readFractionPart_of_endsValue ends, readExponentPart_of_endsValue ends]
  rfl

/-- The integers that fit 64 bits with or without a sign. -/
def FitsWord (value : Int) : Prop := -(UInt64.size / 2 : Nat) ≤ value ∧ value ≤ greatestNat

theorem toChars_ofNat (value : Nat) : (Number.int value).toChars = Nat.toDigits 10 value := by
  rw [Number.toChars, Int.toString_eq_repr, Int.repr_eq_if, if_pos (by omega)]
  exact Nat.toList_repr

theorem toChars_neg {value : Nat} (positive : 0 < value) :
    (Number.int (-value)).toChars = '-' :: Nat.toDigits 10 value := by
  rw [Number.toChars, Int.toString_eq_repr, Int.repr_eq_if, if_neg (by omega)]
  simp

/-- An unsigned number does not begin with the sign. -/
theorem readNumber_toDigits (value : Nat) (rest : List Char) :
    readNumber (Nat.toDigits 10 value ++ rest) =
      readMagnitude false (Nat.toDigits 10 value ++ rest) := by
  unfold readNumber
  split
  · next more starts =>
      have sign : '-' ∈ Nat.toDigits 10 value := by
        cases digits : Nat.toDigits 10 value with
        | nil => exact absurd digits Nat.toDigits_ne_nil
        | cons first others =>
            rw [digits, List.cons_append, List.cons.injEq] at starts
            exact starts.1 ▸ List.mem_cons_self
      exact absurd (Nat.isDigit_of_mem_toDigits (by decide) (by decide) sign) (by decide)
  · rfl

/-- An integer that fits a word is read back. -/
theorem readNumber_toChars {value : Int} (fits : FitsWord value) (ends : EndsValue rest) :
    readNumber ((Number.int value).toChars ++ rest) = some (.int value, rest) := by
  obtain ⟨lower, upper⟩ := fits
  rcases lt_or_ge value 0 with below | above
  · obtain ⟨size, same⟩ := Int.eq_ofNat_of_zero_le (show 0 ≤ -value by omega)
    obtain rfl : value = -size := by omega
    have half : UInt64.size / 2 ≤ greatestNat := by decide
    have kept : integerNumber true size = .int (-size) := by
      unfold integerNumber
      rw [if_neg (by decide), if_neg (by simp; omega)]
    rw [toChars_neg (by omega), List.cons_append, readNumber,
      readMagnitude_toDigits (by omega) true ends, kept]
  · obtain ⟨size, rfl⟩ := Int.eq_ofNat_of_zero_le above
    rw [toChars_ofNat, readNumber_toDigits, readMagnitude_toDigits (by omega) false ends]
    rfl

end Integers

section Values

/-- A value without doubles, and with arrays and objects nested at most this deep. -/
inductive IsPlain : Nat → Json → Prop where
  | null {depth : Nat} : IsPlain depth .null
  | bool {depth : Nat} (value : Bool) : IsPlain depth (.bool value)
  | int {depth : Nat} {value : Int} (fits : FitsWord value) : IsPlain depth (.number (.int value))
  | string {depth : Nat} (text : String) : IsPlain depth (.string text)
  | array {depth : Nat} {elements : List Json}
      (each : ∀ element ∈ elements, IsPlain depth element) : IsPlain (depth + 1) (.array elements)
  | object {depth : Nat} {fields : List (String × Json)}
      (each : ∀ field ∈ fields, IsPlain depth field.2) : IsPlain (depth + 1) (.object fields)

/-- A plain value is plain at a greater depth too. -/
theorem IsPlain.mono {depth limit : Nat} {json : Json} (plain : IsPlain depth json)
    (deeper : depth ≤ limit) : IsPlain limit json := by
  induction plain generalizing limit with
  | null => exact .null
  | bool value => exact .bool value
  | int fits => exact .int fits
  | string text => exact .string text
  | array each ih =>
      obtain ⟨limit, rfl⟩ := Nat.exists_eq_add_of_le' (Nat.lt_of_lt_of_le (Nat.succ_pos _) deeper)
      exact .array fun element member => ih element member (Nat.le_of_succ_le_succ deeper)
  | object each ih =>
      obtain ⟨limit, rfl⟩ := Nat.exists_eq_add_of_le' (Nat.lt_of_lt_of_le (Nat.succ_pos _) deeper)
      exact .object fun field member => ih field member (Nat.le_of_succ_le_succ deeper)

theorem isPlain_ofNat {depth value : Nat} (fits : value < UInt64.size) :
    IsPlain depth (ofNat value) := by
  have below : value ≤ greatestNat := Nat.le_sub_one_of_lt fits
  exact .int ⟨by omega, Int.ofNat_le.mpr below⟩

/-- A list of plain values is plain one level further out. -/
theorem isPlain_ofList {α : Type} {encode : α → Json} {depth : Nat} {values : List α}
    (each : ∀ value ∈ values, IsPlain depth (encode value)) :
    IsPlain (depth + 1) (ofList encode values) :=
  .array (List.forall_mem_map.mpr each)

/-- A dictionary of plain values is plain one level further out. -/
theorem isPlain_ofDict {α : Type} {encode : α → Json} {depth : Nat} {values : Dict α}
    (each : ∀ entry ∈ values, IsPlain depth (encode entry.2)) :
    IsPlain (depth + 1) (ofDict encode values) :=
  .object (List.forall_mem_map.mpr each)

theorem isPlain_of_mem_toList {α : Type} {encode : α → Json} {depth : Nat} {name : String}
    {slot : Option α} (each : ∀ value ∈ slot, IsPlain depth (encode value)) :
    ∀ field ∈ (slot.map fun value => (name, encode value)).toList, IsPlain depth field.2 := by
  intro field member
  obtain ⟨value, found, rfl⟩ := Option.mem_map.mp (Option.mem_toList.mp member)
  exact each value found

/-- The characters that begin no number, because they stand before or begin something else. -/
def otherMarks : List Char := [' ', '\t', '\n', '\r', '{', '[', ']', '"', 'n', 't', 'f']

/-- An integer begins with a character that begins no other kind of value. -/
theorem exists_toChars_int (value : Int) : ∃ first more,
    (Number.int value).toChars = first :: more ∧ first ∉ otherMarks := by
  rcases lt_or_ge value 0 with below | above
  · obtain ⟨size, same⟩ := Int.eq_ofNat_of_zero_le (show 0 ≤ -value by omega)
    obtain rfl : value = -size := by omega
    exact ⟨'-', _, toChars_neg (by omega), by decide⟩
  · obtain ⟨size, rfl⟩ := Int.eq_ofNat_of_zero_le above
    obtain ⟨first, more, digits⟩ := List.exists_cons_of_ne_nil (Nat.toDigits_ne_nil (n := size))
    have leads : first ∈ Nat.toDigits 10 size := digits ▸ List.mem_cons_self
    have isDigit := Nat.isDigit_of_mem_toDigits (by decide) (by decide) leads
    have noDigit : otherMarks.all (!·.isDigit) = true := by decide
    refine ⟨first, more, (toChars_ofNat size).trans digits, fun member => ?_⟩
    exact absurd (List.all_eq_true.mp noDigit first member) (by simp [isDigit])

/-- A plain value begins with a mark of its own, which is no space and closes no list. -/
theorem exists_toChars_cons {depth : Nat} {json : Json} (plain : IsPlain depth json) :
    ∃ first more, json.toChars = first :: more ∧ isSpace first = false ∧ first ≠ ']' := by
  cases plain with
  | null => exact ⟨'n', _, rfl, rfl, by decide⟩
  | bool value => cases value <;> exact ⟨_, _, rfl, rfl, by decide⟩
  | @int _ value fits =>
      obtain ⟨first, more, written, other⟩ := exists_toChars_int value
      simp only [otherMarks, List.mem_cons, not_or] at other
      exact ⟨first, more, written, by simp [isSpace, other], other.2.2.2.2.2.2.1⟩
  | string text => exact ⟨'"', _, rfl, rfl, by decide⟩
  | @array _ elements each => cases elements <;> exact ⟨'[', _, rfl, rfl, by decide⟩
  | @object _ fields each => cases fields <;> exact ⟨'{', _, rfl, rfl, by decide⟩

theorem skipSpace_cons {first : Char} (solid : isSpace first = false) (more : List Char) :
    skipSpace (first :: more) = first :: more :=
  List.dropWhile_cons_of_neg (by simp [solid])

/-- What is written is read back with this much fuel, two units for each of its characters. -/
structure ReadsBack (fuel : Nat) : Prop where
  value {depth : Nat} {json : Json} {rest : List Char} (plain : IsPlain depth json)
    (enough : 2 * json.toChars.length ≤ fuel) (ends : EndsValue rest) :
    readValue fuel depth (json.toChars ++ rest) = some (json, rest)
  elements {depth : Nat} {first : Json} {more : List Json} (read : List Json) (rest : List Char)
    (each : ∀ element ∈ first :: more, IsPlain depth element)
    (enough : 2 * (first.toChars ++ elementsChars more).length ≤ fuel) :
    readElements fuel depth read (first.toChars ++ (elementsChars more ++ rest)) =
      some (.array (read.reverse ++ first :: more), rest)
  fields {depth : Nat} {name : String} {first : Json} {more : List (String × Json)}
    (read : List (String × Json)) (rest : List Char)
    (each : ∀ field ∈ (name, first) :: more, IsPlain depth field.2)
    (enough : 2 * (stringChars name ++ ':' :: first.toChars ++ fieldsChars more).length ≤ fuel) :
    readFields fuel depth (some read)
        (stringChars name ++ ':' :: (first.toChars ++ (fieldsChars more ++ rest))) =
      some (.object (read.reverse ++ (name, first) :: more), rest)

/-- The mark behind an element ends its value. -/
theorem endsValue_elementsChars (elements : List Json) (rest : List Char) :
    EndsValue (elementsChars elements ++ rest) := by
  cases elements <;> rw [elementsChars] <;> exact endsValue_cons (by decide)

/-- The mark behind a field ends its value. -/
theorem endsValue_fieldsChars (fields : List (String × Json)) (rest : List Char) :
    EndsValue (fieldsChars fields ++ rest) := by
  cases fields <;> rw [fieldsChars] <;> exact endsValue_cons (by decide)

section Step

variable {fuel depth : Nat} {rest : List Char}

/-- An integer is read as a value. -/
theorem readValue_int {value : Int} (fits : FitsWord value) (ends : EndsValue rest) :
    readValue (fuel + 1) depth ((Number.int value).toChars ++ rest) =
      some (.number (.int value), rest) := by
  have literal := readNumber_toChars fits ends
  obtain ⟨first, more, written, other⟩ := exists_toChars_int value
  simp only [otherMarks, List.mem_cons, not_or] at other
  rw [written, List.cons_append] at literal ⊢
  rw [readValue, skipSpace_cons (by simp [isSpace, other])]
  split <;> simp_all

/-- What follows an opening bracket and does not close it are elements. -/
theorem readValue_bracket {first : Char} (solid : isSpace first = false) (inside : first ≠ ']') :
    readValue (fuel + 1) (depth + 1) ('[' :: first :: rest) =
      readElements fuel depth [] (first :: rest) := by
  rw [readValue, skipSpace_cons rfl]
  simp only [skipSpace_cons solid]
  split
  · next closed => exact absurd (List.cons.inj closed).1 inside
  · rfl

/-- Behind an opening brace fields are read, unless it is closed at once. -/
theorem readValue_brace {first : Char} (solid : isSpace first = false) (inside : first ≠ '}') :
    readValue (fuel + 1) (depth + 1) ('{' :: first :: rest) =
      readFields fuel depth (some []) (first :: rest) := by
  rw [readValue, skipSpace_cons rfl]
  simp only [skipSpace_cons solid]
  split
  · next closed => exact absurd (List.cons.inj closed).1 inside
  · rfl

/-- A value is read back if shorter texts are. -/
theorem readValue_toChars (back : ReadsBack fuel) {json : Json} (plain : IsPlain depth json)
    (enough : 2 * json.toChars.length ≤ fuel + 1) (ends : EndsValue rest) :
    readValue (fuel + 1) depth (json.toChars ++ rest) = some (json, rest) := by
  cases plain with
  | null => rfl
  | bool value => cases value <;> rfl
  | int fits =>
      exact readValue_int fits ends
  | string text =>
      obtain ⟨written, starts, read⟩ := exists_stringChars text
      rw [toChars, starts, List.cons_append, readValue, skipSpace_cons rfl]
      simp [read]
  | @array depth elements each =>
      cases elements with
      | nil => rfl
      | cons first more =>
          obtain ⟨mark, others, written, solid, noBracket⟩ :=
            exists_toChars_cons (each first List.mem_cons_self)
          have inner := back.elements [] rest each (by simp [toChars] at enough ⊢; omega)
          rw [toChars, List.append_assoc, List.cons_append]
          rw [written, List.cons_append] at inner ⊢
          rw [readValue_bracket solid noBracket]
          exact inner
  | @object depth fields each =>
      cases fields with
      | nil => rfl
      | cons field more =>
          obtain ⟨name, first⟩ := field
          obtain ⟨written, starts, -⟩ := exists_stringChars name
          have inner := back.fields [] rest each (by simp [toChars] at enough ⊢; omega)
          rw [toChars, List.append_assoc, List.append_assoc, List.cons_append, List.cons_append]
          rw [starts, List.cons_append] at inner ⊢
          rw [readValue_brace rfl (by decide)]
          exact inner

/-- The elements of a list are read back behind those that are read already. -/
theorem readElements_toChars (back : ReadsBack fuel) {first : Json} {more : List Json}
    (read : List Json) (each : ∀ element ∈ first :: more, IsPlain depth element)
    (enough : 2 * (first.toChars ++ elementsChars more).length ≤ fuel + 1) :
    readElements (fuel + 1) depth read (first.toChars ++ (elementsChars more ++ rest)) =
      some (.array (read.reverse ++ first :: more), rest) := by
  obtain ⟨here, later⟩ := List.forall_mem_cons.mp each
  have value := back.value here (by cases more <;> simp [elementsChars] at enough ⊢ <;> omega)
    (endsValue_elementsChars more rest)
  rw [readElements, value]
  cases more with
  | nil => simp [elementsChars, skipSpace_cons, isSpace]
  | cons second more =>
      have others := back.elements (first :: read) rest later
        (by simp [elementsChars] at enough ⊢; omega)
      simpa [elementsChars, skipSpace_cons, isSpace] using others

/-- The fields of an object are read back behind those that are read already. -/
theorem readFields_toChars (back : ReadsBack fuel) {name : String} {first : Json}
    {more : List (String × Json)} (read : List (String × Json))
    (each : ∀ field ∈ (name, first) :: more, IsPlain depth field.2)
    (enough : 2 * (stringChars name ++ ':' :: first.toChars ++ fieldsChars more).length ≤
      fuel + 1) :
    readFields (fuel + 1) depth (some read)
        (stringChars name ++ ':' :: (first.toChars ++ (fieldsChars more ++ rest))) =
      some (.object (read.reverse ++ (name, first) :: more), rest) := by
  obtain ⟨here, later⟩ := List.forall_mem_cons.mp each
  obtain ⟨written, starts, ended⟩ := exists_stringChars name
  have plain : IsPlain depth first := here
  have colon (rest : List Char) : skipSpace (':' :: rest) = ':' :: rest := skipSpace_cons rfl rest
  have value := back.value plain
    (by cases more <;> simp [fieldsChars] at enough ⊢ <;> omega) (endsValue_fieldsChars more rest)
  rw [readFields, starts, List.cons_append, skipSpace_cons rfl]
  simp only [ended, Option.bind_eq_bind, Option.bind_some, colon, value]
  cases more with
  | nil => simp [fieldsChars, skipSpace_cons, isSpace]
  | cons second more =>
      have others := back.fields ((name, first) :: read) rest later
        (by simp [fieldsChars] at enough ⊢; omega)
      simpa [fieldsChars, skipSpace_cons, isSpace] using others

/-- Enough fuel for the length of what is written reads it back. -/
theorem readsBack (fuel : Nat) : ReadsBack fuel := by
  induction fuel with
  | zero =>
      constructor
      · intro depth json rest plain enough
        obtain ⟨first, more, written, -⟩ := exists_toChars_cons plain
        simp [written] at enough
      · intro depth first more read rest each enough
        obtain ⟨mark, others, written, -⟩ := exists_toChars_cons (each first List.mem_cons_self)
        simp [written] at enough
      · intro depth name first more read rest each enough
        simp at enough
  | succ fuel back =>
      exact ⟨readValue_toChars back, fun read rest each enough =>
        readElements_toChars back read each enough, fun read rest each enough =>
          readFields_toChars back read each enough⟩

end Step

/-- An element is shorter than the list around it. -/
theorem length_toChars_lt_elementsChars {elements : List Json} {element : Json}
    (member : element ∈ elements) :
    element.toChars.length < (elementsChars elements).length := by
  induction elements with
  | nil => cases member
  | cons first more ih =>
      simp only [elementsChars, List.length_append, List.length_cons]
      rcases List.mem_cons.mp member with rfl | later
      · omega
      · have shorter := ih later
        omega

/-- A field is shorter than the object around it. -/
theorem length_toChars_lt_fieldsChars {fields : List (String × Json)} {field : String × Json}
    (member : field ∈ fields) : field.2.toChars.length < (fieldsChars fields).length := by
  induction fields with
  | nil => cases member
  | cons first more ih =>
      simp only [fieldsChars, List.length_append, List.length_cons]
      rcases List.mem_cons.mp member with rfl | later
      · omega
      · have shorter := ih later
        omega

/-- The text of a value is longer than the value is deep. -/
theorem IsPlain.length {depth : Nat} {json : Json} (plain : IsPlain depth json) :
    IsPlain json.toChars.length json := by
  induction plain with
  | null => exact .null
  | bool value => exact .bool value
  | int fits => exact .int fits
  | string text => exact .string text
  | @array _ elements _ ih =>
      cases elements with
      | nil => exact IsPlain.mono (.array (by simp)) (Nat.le_succ 1)
      | cons first more =>
          simp only [toChars, List.cons_append, List.length_cons, List.length_append]
          refine .array fun element member => (ih element member).mono ?_
          rcases List.mem_cons.mp member with rfl | later
          · omega
          · have shorter := length_toChars_lt_elementsChars later
            omega
  | @object _ fields _ ih =>
      cases fields with
      | nil => exact IsPlain.mono (.object (by simp)) (Nat.le_succ 1)
      | cons first more =>
          simp only [toChars, List.cons_append, List.length_cons, List.length_append]
          refine .object fun field member => (ih field member).mono ?_
          rcases List.mem_cons.mp member with rfl | later
          · omega
          · have shorter := length_toChars_lt_fieldsChars later
            omega

theorem IsPlain.isReadable {depth : Nat} {json : Json} (plain : IsPlain depth json) :
    json.isReadable = true := by
  induction plain with
  | null | bool | int | string => rfl
  | array _ ih => exact areReadable_iff.mpr ih
  | object _ ih => exact fieldsReadable_iff.mpr ih

/-- A plain value is read back from its text. -/
theorem readText_toText {depth : Nat} {json : Json} (plain : IsPlain depth json) :
    readText depth json.toText = some json := by
  have back := (readsBack (2 * json.toChars.length + 2)).value plain (Nat.le_add_right _ _)
    endsValue_nil
  rw [List.append_nil] at back
  unfold readText toText
  simp only [String.toList_ofList, back, Option.bind_eq_bind, Option.bind_some]
  rfl

/-- A value without doubles is read back from its text as it is written. -/
theorem parseWritten_toText {depth : Nat} {json : Json} (plain : IsPlain depth json) :
    parseWritten json.toText = some json := by
  refine readText_toText ?_
  rw [toText, String.length_ofList]
  exact plain.length

/-- A value without doubles that is not nested too deep is read back with its fields sorted. -/
theorem parse_toText {json : Json} (plain : IsPlain depthLimit json) :
    parse json.toText = some json.normalize := by
  rw [parse, readText_toText plain, Option.filter_some, if_pos plain.isReadable, Option.map_some]

end Values

end DesignScene.Json
