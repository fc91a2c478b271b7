/-
This file says which texts are read as colors in hexadecimal digits, and which colors they give.
-/
import DesignScene.Color
import DesignScene.Proofs.Text.Letters

namespace DesignScene.Rgb

section Digits

/-- The hexadecimal digits in the order of their values. -/
def hexAlphabet : List Char := "0123456789abcdef".toList

/-- The digits are written in either case. -/
def IsHexDigit (character : Char) : Prop := character.toLower ∈ hexAlphabet

instance : DecidablePred IsHexDigit := fun character =>
  inferInstanceAs (Decidable (character.toLower ∈ hexAlphabet))

/-- The value of a digit is its place in the alphabet. -/
def digitValue (character : Char) : Nat := hexAlphabet.idxOf character.toLower

variable {first second : Char}

theorem IsHexDigit.toNat_lt (isDigit : IsHexDigit first) : first.toNat < 128 := by
  have ascii : hexAlphabet.all (fun character => decide (character.toNat < 128)) = true := by decide
  have small := of_decide_eq_true (List.all_eq_true.mp ascii _ isDigit)
  exact Nat.lt_of_le_of_lt (Text.toNat_le_toLower first) small

/-- A hexadecimal digit is less than sixteen. -/
theorem digitValue_lt (isDigit : IsHexDigit first) : digitValue first < 16 :=
  List.idxOf_lt_length_of_mem isDigit

/-- Exactly the hexadecimal digits have a value. -/
theorem hexValue?_eq (character : Char) :
    Json.hexValue? character =
      if IsHexDigit character then some (digitValue character) else none := by
  by_cases ascii : character.toNat < 128
  · have each : ∀ code : Fin 128, Json.hexValue? (Char.ofNat code) =
        if IsHexDigit (Char.ofNat code) then some (digitValue (Char.ofNat code)) else none := by
      decide +kernel
    have this := each ⟨character.toNat, ascii⟩
    rwa [Char.ofNat_toNat] at this
  · have beyond (last : Char) (small : last.toNat < 128) : ¬character ≤ last := fun below =>
      ascii (Nat.lt_of_le_of_lt below small)
    have noDigit : character.isDigit = false := by
      rw [Char.isDigit, Bool.and_eq_false_iff, decide_eq_false_iff_not, decide_eq_false_iff_not]
      exact .inr (beyond '9' (by decide))
    have lower := beyond 'f' (by decide)
    have upper := beyond 'F' (by decide)
    rw [if_neg fun isDigit => ascii isDigit.toNat_lt]
    simp [Json.hexValue?, noDigit, lower, upper]

/-- The plus sign of a number may stand in the place of its first digit. -/
def WritesByte (first second : Char) : Prop :=
  (IsHexDigit first ∨ first = '+') ∧ IsHexDigit second

instance : Decidable (WritesByte first second) :=
  inferInstanceAs (Decidable ((_ ∨ _) ∧ _))

/-- Two characters are read as a byte exactly if they write one. -/
theorem isSome_readByte_iff : (readByte first second).isSome = true ↔ WritesByte first second := by
  unfold readByte WritesByte
  rw [hexValue?_eq, hexValue?_eq]
  by_cases plus : first = '+' <;> by_cases high : IsHexDigit first <;>
    by_cases low : IsHexDigit second <;> simp [plus, high, low]

/-- Two digits are read as a byte, the first one sixteen times as much. -/
theorem readByte_eq (high : IsHexDigit first) (low : IsHexDigit second) :
    readByte first second = some (16 * digitValue first + digitValue second) := by
  have noSign : first ≠ '+' := by
    rintro rfl
    exact absurd high (by decide)
  simp [readByte, hexValue?_eq, high, low, noSign]

end Digits

section Channels

/-- The share of a byte in the greatest one. -/
def byteChannel (first second : Char) : Float :=
  Float.ofNat (16 * digitValue first + digitValue second) / 255.0

/-- A byte gives a channel that needs no clamping. -/
theorem clampChannel_byte {byte : Nat} (small : byte < 256) :
    clampChannel (Float.ofNat byte / 255.0) = Float.ofNat byte / 255.0 := by
  have each : ∀ byte : Fin 256,
      ¬Float.ofNat byte / 255.0 < 0.0 ∧ ¬1.0 < Float.ofNat byte / 255.0 := by
    decide +kernel
  obtain ⟨notBelow, notAbove⟩ := each ⟨byte, small⟩
  rw [clampChannel, if_neg notBelow, if_neg notAbove]

variable {red red' green green' blue blue' : Char}

/-- The share of a byte lies in the range of a channel already. -/
theorem clampChannel_byteChannel (high : IsHexDigit red) (low : IsHexDigit red') :
    clampChannel (byteChannel red red') = byteChannel red red' := by
  apply clampChannel_byte
  have left := digitValue_lt high
  have right := digitValue_lt low
  omega

/-- Six digits give the shares of three bytes. -/
theorem ofHexPairs_eq
    (all : ∀ digit ∈ [red, red', green, green', blue, blue'], IsHexDigit digit) :
    ofHexPairs red red' green green' blue blue' =
      some ⟨byteChannel red red', byteChannel green green', byteChannel blue blue'⟩ := by
  obtain ⟨r, r', g, g', b, b', -⟩ : IsHexDigit red ∧ IsHexDigit red' ∧ IsHexDigit green ∧
      IsHexDigit green' ∧ IsHexDigit blue ∧ IsHexDigit blue' ∧ True := by
    simpa using all
  have colors : ofBytes (16 * digitValue red + digitValue red')
      (16 * digitValue green + digitValue green') (16 * digitValue blue + digitValue blue') =
      ⟨byteChannel red red', byteChannel green green', byteChannel blue blue'⟩ := by
    show Rgb.mk (clampChannel (byteChannel red red')) (clampChannel (byteChannel green green'))
      (clampChannel (byteChannel blue blue')) = _
    rw [clampChannel_byteChannel r r', clampChannel_byteChannel g g',
      clampChannel_byteChannel b b']
  simp [ofHexPairs, readByte_eq r r', readByte_eq g g', readByte_eq b b', colors]

end Channels

section Forms

/-- The text between the blanks at its ends is these characters, with or without a number sign. -/
def HasDigits (text : String) (digits : List Char) : Prop :=
  Text.trimChars text.toList = digits ∨ Text.trimChars text.toList = '#' :: digits

/-- An optional number sign and three or six hexadecimal digits. -/
def IsHexForm (text : String) : Prop :=
  ∃ digits, HasDigits text digits ∧ (digits.length = 3 ∨ digits.length = 6) ∧
    ∀ digit ∈ digits, IsHexDigit digit

/-- The number signs at the start of the text. -/
def leadingSigns (text : String) : List Char :=
  (Text.trimChars text.toList).takeWhile (· == '#')

/-- The characters after the number signs. -/
def afterSigns (text : String) : List Char :=
  (Text.trimChars text.toList).dropWhile (· == '#')

/-- The digits that are read: three, or three pairs of which each one may have a plus sign. -/
inductive IsReadable : List Char → Prop where
  | three {red green blue : Char} (isRed : IsHexDigit red) (isGreen : IsHexDigit green)
      (isBlue : IsHexDigit blue) : IsReadable [red, green, blue]
  | six {red red' green green' blue blue' : Char} (isRed : WritesByte red red')
      (isGreen : WritesByte green green') (isBlue : WritesByte blue blue') :
      IsReadable [red, red', green, green', blue, blue']

/-- A text that is read although it has more than one number sign, or a plus sign. -/
def IsLaxForm (text : String) : Prop :=
  IsReadable (afterSigns text) ∧ (2 ≤ (leadingSigns text).length ∨ '+' ∈ afterSigns text)

variable {text : String} {digits : List Char} {red red' green green' blue blue' : Char}

theorem writesByte_self_iff : WritesByte red red ↔ IsHexDigit red :=
  ⟨And.right, fun isDigit => ⟨.inl isDigit, isDigit⟩⟩

theorem isSome_ofHexPairs_iff :
    (ofHexPairs red red' green green' blue blue').isSome = true ↔
      WritesByte red red' ∧ WritesByte green green' ∧ WritesByte blue blue' := by
  rw [← isSome_readByte_iff, ← isSome_readByte_iff, ← isSome_readByte_iff]
  unfold ofHexPairs
  cases readByte red red' <;> cases readByte green green' <;> cases readByte blue blue' <;> simp

/-- A text is read as a color exactly if what stands behind its number signs is readable. -/
theorem isSome_ofHex_iff (text : String) :
    (ofHex text).isSome = true ↔ IsReadable (afterSigns text) := by
  show (ofHexDigits (afterSigns text)).isSome = true ↔ _
  generalize afterSigns text = digits
  constructor
  · intro found
    unfold ofHexDigits at found
    split at found
    · obtain ⟨isRed, isGreen, isBlue⟩ := isSome_ofHexPairs_iff.mp found
      exact .three isRed.2 isGreen.2 isBlue.2
    · obtain ⟨isRed, isGreen, isBlue⟩ := isSome_ofHexPairs_iff.mp found
      exact .six isRed isGreen isBlue
    · cases found
  · intro readable
    cases readable with
    | three isRed isGreen isBlue =>
        exact isSome_ofHexPairs_iff.mpr ⟨writesByte_self_iff.mpr isRed,
          writesByte_self_iff.mpr isGreen, writesByte_self_iff.mpr isBlue⟩
    | six isRed isGreen isBlue => exact isSome_ofHexPairs_iff.mpr ⟨isRed, isGreen, isBlue⟩

/-- Without a plus sign what is read is three or six hexadecimal digits. -/
theorem isReadable_iff_of_no_sign (noSign : '+' ∉ digits) :
    IsReadable digits ↔
      (digits.length = 3 ∨ digits.length = 6) ∧ ∀ digit ∈ digits, IsHexDigit digit := by
  constructor
  · intro readable
    cases readable with
    | three isRed isGreen isBlue => simp [isRed, isGreen, isBlue]
    | six isRed isGreen isBlue =>
        simp only [List.mem_cons, List.not_mem_nil, or_false, not_or] at noSign
        obtain ⟨noRed, -, noGreen, -, noBlue, -⟩ := noSign
        simp [isRed.1.resolve_right (Ne.symm noRed), isRed.2,
          isGreen.1.resolve_right (Ne.symm noGreen), isGreen.2,
          isBlue.1.resolve_right (Ne.symm noBlue), isBlue.2]
  · rintro ⟨three | six, all⟩
    · match digits, three with
      | [red, green, blue], _ =>
          simp only [List.forall_mem_cons] at all
          exact .three all.1 all.2.1 all.2.2.1
    · match digits, six with
      | [red, red', green, green', blue, blue'], _ =>
          simp only [List.forall_mem_cons] at all
          obtain ⟨isRed, isRed', isGreen, isGreen', isBlue, isBlue', -⟩ := all
          exact .six ⟨.inl isRed, isRed'⟩ ⟨.inl isGreen, isGreen'⟩ ⟨.inl isBlue, isBlue'⟩

/-- Digits are not signs, so that the signs before them are found again. -/
theorem signs_of_hasDigits (has : HasDigits text digits)
    (all : ∀ digit ∈ digits, IsHexDigit digit) :
    (leadingSigns text).length ≤ 1 ∧ afterSigns text = digits := by
  have noSigns : digits.takeWhile (· == '#') = [] := by
    cases digits with
    | nil => rfl
    | cons first rest =>
        apply List.takeWhile_cons_of_neg
        intro same
        have isDigit := all first List.mem_cons_self
        rw [eq_of_beq same] at isDigit
        exact absurd isDigit (by decide)
  have allDigits : digits.dropWhile (· == '#') = digits := by
    have whole := List.takeWhile_append_dropWhile (p := (· == '#')) (l := digits)
    rwa [noSigns] at whole
  unfold leadingSigns afterSigns
  rcases has with bare | signed
  · rw [bare, noSigns]
    exact ⟨Nat.zero_le 1, allDigits⟩
  · rw [signed, List.takeWhile_cons_of_pos rfl, List.dropWhile_cons_of_pos rfl, noSigns]
    exact ⟨Nat.le_refl 1, allDigits⟩

/-- Behind one number sign or none stand the digits of a text. -/
theorem hasDigits_afterSigns (few : (leadingSigns text).length ≤ 1) :
    HasDigits text (afterSigns text) := by
  have whole : leadingSigns text ++ afterSigns text = Text.trimChars text.toList :=
    List.takeWhile_append_dropWhile
  rw [HasDigits, ← whole]
  match same : leadingSigns text, few with
  | [], _ => exact .inl rfl
  | [sign], _ =>
      have signs : (leadingSigns text).all (· == '#') = true := List.all_takeWhile
      rw [same, List.all_cons, Bool.and_eq_true] at signs
      rw [eq_of_beq signs.1]
      exact .inr rfl

/-- The documented form is what is readable without further number signs and plus signs. -/
theorem isHexForm_iff (text : String) :
    IsHexForm text ↔
      IsReadable (afterSigns text) ∧ (leadingSigns text).length ≤ 1 ∧ '+' ∉ afterSigns text := by
  constructor
  · intro ⟨digits, has, size, all⟩
    obtain ⟨few, rfl⟩ := signs_of_hasDigits has all
    have noSign : '+' ∉ afterSigns text := fun member => absurd (all _ member) (by decide)
    exact ⟨(isReadable_iff_of_no_sign noSign).mpr ⟨size, all⟩, few, noSign⟩
  · intro ⟨readable, few, noSign⟩
    exact ⟨_, hasDigits_afterSigns few, (isReadable_iff_of_no_sign noSign).mp readable⟩

/-- A text is read as its digits are. -/
theorem ofHex_of_hasDigits (has : HasDigits text digits)
    (all : ∀ digit ∈ digits, IsHexDigit digit) : ofHex text = ofHexDigits digits := by
  show ofHexDigits (afterSigns text) = _
  rw [(signs_of_hasDigits has all).2]

/-- Reading keeps to the documented form except in texts of the lax form. -/
theorem read_as_form_iff (text : String) :
    ((ofHex text).isSome = true ↔ IsHexForm text) ↔ ¬IsLaxForm text := by
  rw [isSome_ofHex_iff, isHexForm_iff, IsLaxForm]
  constructor
  · intro ⟨form, _⟩ ⟨readable, lax⟩
    obtain ⟨-, few, noSign⟩ := form readable
    rcases lax with many | sign
    · omega
    · exact noSign sign
  · intro strict
    constructor
    · intro readable
      have few : ¬2 ≤ (leadingSigns text).length := fun many => strict ⟨readable, .inl many⟩
      exact ⟨readable, by omega, fun sign => strict ⟨readable, .inr sign⟩⟩
    · exact And.left

/-- Colors are read from three or six digits, but also behind several number signs and with plus signs. -/
theorem hex_read_iff (text : String) :
    (((ofHex text).isSome = true ↔ IsHexForm text) ↔ ¬IsLaxForm text) ∧
      (∀ red green blue : Char, HasDigits text [red, green, blue] →
        (∀ digit ∈ [red, green, blue], IsHexDigit digit) →
          (ofHex text).isSome = true ∧
            ∀ doubled, HasDigits doubled [red, red, green, green, blue, blue] →
              ofHex doubled = ofHex text) ∧
      ∀ red red' green green' blue blue' : Char,
        HasDigits text [red, red', green, green', blue, blue'] →
        (∀ digit ∈ [red, red', green, green', blue, blue'], IsHexDigit digit) →
          ofHex text =
            some ⟨byteChannel red red', byteChannel green green', byteChannel blue blue'⟩ := by
  refine ⟨read_as_form_iff text, ?_, ?_⟩
  · intro red green blue has all
    have each : ∀ digit ∈ [red, red, green, green, blue, blue], IsHexDigit digit := by
      simpa using all
    have read := ofHex_of_hasDigits has all
    constructor
    · rw [read]
      exact Option.isSome_of_eq_some (ofHexPairs_eq each)
    · intro doubled twice
      rw [read, ofHex_of_hasDigits twice each]
      rfl
  · intro red red' green green' blue blue' has all
    rw [ofHex_of_hasDigits has all]
    exact ofHexPairs_eq all

/-- Three digits are read as the six that double each of them. -/
theorem abc_read_as_doubled :
    ((ofHex "#abc").isSome = true ↔ IsHexForm "#abc") ∧ ofHex "#abc" = ofHex " aabbcc " ∧
      ofHex " aabbcc " = some ⟨byteChannel 'a' 'a', byteChannel 'b' 'b', byteChannel 'c' 'c'⟩ ∧
        byteChannel 'a' 'a' = Float.ofNat 170 / 255.0 := by
  have strict : ¬IsLaxForm "#abc" := fun lax => absurd lax.2 (by decide)
  have short : HasDigits "#abc" ['a', 'b', 'c'] := .inr (by decide)
  have long : HasDigits " aabbcc " ['a', 'a', 'b', 'b', 'c', 'c'] := .inl (by decide)
  have isA : IsHexDigit 'a' := by decide
  have isB : IsHexDigit 'b' := by decide
  have isC : IsHexDigit 'c' := by decide
  refine ⟨(hex_read_iff "#abc").1.mpr strict, ?_, ?_, rfl⟩
  · exact (((hex_read_iff "#abc").2.1 _ _ _ short (by simp [isA, isB, isC])).2 _ long).symm
  · exact (hex_read_iff " aabbcc ").2.2 _ _ _ _ _ _ long (by simp [isA, isB, isC])

/-- Plus signs and a second number sign are read, although they are no hexadecimal digits. -/
theorem signs_read_as_digits :
    ¬((ofHex "#+f+f+f").isSome = true ↔ IsHexForm "#+f+f+f") ∧
      ¬((ofHex "##fff").isSome = true ↔ IsHexForm "##fff") := by
  have pairs : IsReadable ['+', 'f', '+', 'f', '+', 'f'] :=
    .six (by decide) (by decide) (by decide)
  have digits : IsReadable ['f', 'f', 'f'] := .three (by decide) (by decide) (by decide)
  have plus : IsLaxForm "#+f+f+f" := ⟨pairs, .inr (by decide)⟩
  have double : IsLaxForm "##fff" := ⟨digits, .inl (by decide)⟩
  exact ⟨fun form => (read_as_form_iff _).mp form plus,
    fun form => (read_as_form_iff _).mp form double⟩

end Forms

end DesignScene.Rgb
