/-
This file says when the channels of a color are numbers between zero and one.
-/
import DesignScene.Styles
import DesignScene.Proofs.Color.Hex
import DesignScene.Proofs.Decimal.NotANumber
import DesignScene.Proofs.Json.Numbers

namespace DesignScene

namespace Rgb

/-- Every channel is a number between zero and one. -/
structure InUnit (color : Rgb) : Prop where
  red : 0.0 ≤ color.red ∧ color.red ≤ 1.0
  green : 0.0 ≤ color.green ∧ color.green ≤ 1.0
  blue : 0.0 ≤ color.blue ∧ color.blue ≤ 1.0

section Clamping

/-- Clamping brings every number into range, and leaves what is no number as it is. -/
theorem clampChannel_in_unit_iff (value : Float) :
    (0.0 ≤ clampChannel value ∧ clampChannel value ≤ 1.0) ↔ value.isNaN = false := by
  unfold clampChannel
  split_ifs with below above
  · exact iff_of_true (by decide) (Doubles.isNaN_of_lt below).1
  · exact iff_of_true (by decide) (Doubles.isNaN_of_lt above).2
  · constructor
    · intro ⟨notBelow, _⟩
      exact (Doubles.isNaN_of_le notBelow).2
    · intro known
      exact ⟨Doubles.le_of_not_lt known (by decide) below,
        Doubles.le_of_not_lt (by decide) known above⟩

variable {red green blue : Float}

/-- Clamped channels lie in the unit range exactly if they are numbers. -/
theorem inUnit_clamped_iff :
    (clamped red green blue).InUnit ↔
      red.isNaN = false ∧ green.isNaN = false ∧ blue.isNaN = false := by
  rw [← clampChannel_in_unit_iff red, ← clampChannel_in_unit_iff green,
    ← clampChannel_in_unit_iff blue]
  exact ⟨fun bounds => ⟨bounds.red, bounds.green, bounds.blue⟩,
    fun ⟨onRed, onGreen, onBlue⟩ => ⟨onRed, onGreen, onBlue⟩⟩

end Clamping

section Channels

variable {channel red green blue : Channel}

/-- Scaling a channel neither makes nor loses a number. -/
theorem isNaN_scaled (channel : Channel) (byteScale : Bool) :
    (channel.scaled byteScale).isNaN = channel.value.isNaN := by
  unfold Channel.scaled
  split
  · exact Doubles.isNaN_div (by decide) (by decide)
  · rfl

/-- A color of channels lies in the unit range exactly if its channels are numbers. -/
theorem inUnit_ofChannels_iff :
    (ofChannels red green blue).InUnit ↔
      red.value.isNaN = false ∧ green.value.isNaN = false ∧ blue.value.isNaN = false := by
  unfold ofChannels
  dsimp only
  rw [inUnit_clamped_iff, isNaN_scaled, isNaN_scaled, isNaN_scaled]

/-- A channel as a text says that it is no number, with or without a percent sign. -/
def SaysNoNumber (text : String) : Prop :=
  Decimal.NamesNoNumber (Text.trimChars text.toList) ∨
    ∃ number, Text.trimChars text.toList = number ++ ['%'] ∧
      Decimal.NamesNoNumber (Text.trimChars number)

/-- No name ends with a percent sign. -/
theorem not_namesNoNumber_percent {number : List Char} :
    ¬Decimal.NamesNoNumber (number ++ ['%']) := by
  intro ⟨sign, letters, whole, _, same⟩
  have last : letters.getLast?.map Char.toLower = some 'n' := by
    rw [← List.getLast?_map, same]
    rfl
  obtain ⟨letter, isLast, lower⟩ := Option.map_eq_some_iff.mp last
  have percent := congrArg List.getLast? whole
  rw [List.getLast?_append, List.getLast?_append, isLast] at percent
  cases percent
  exact absurd lower (by decide)

theorem isNaN_iff_of_readNumeral {characters : List Char} {numeral : Decimal.Numeral}
    (read : Decimal.readNumeral (String.ofList characters) = some numeral) :
    numeral.toFloat.isNaN = true ↔ Decimal.NamesNoNumber characters := by
  have names := Decimal.readNumeral_eq_notANumber_iff (String.ofList characters)
  rw [read, String.toList_ofList, Option.some_inj] at names
  rw [Decimal.Numeral.isNaN_toFloat_iff, names]

/-- A channel that is read from a text is undefined exactly if the text says so. -/
theorem isNaN_iff_of_ofText {text : String} (read : Channel.ofText text = some channel) :
    channel.value.isNaN = true ↔ SaysNoNumber text := by
  unfold Channel.ofText at read
  dsimp only at read
  unfold SaysNoNumber
  generalize Text.trimChars text.toList = characters at read ⊢
  split at read
  · next number percent =>
      obtain rfl : characters = number.reverse ++ ['%'] := by
        rw [← List.reverse_inj, percent, List.reverse_append, List.reverse_reverse]
        rfl
      obtain ⟨numeral, found, rfl⟩ := Option.map_eq_some_iff.mp read
      rw [Doubles.isNaN_div (by decide) (by decide), isNaN_iff_of_readNumeral found]
      constructor
      · exact fun names => .inr ⟨_, rfl, names⟩
      · rintro (names | ⟨other, whole, names⟩)
        · exact absurd names not_namesNoNumber_percent
        · rwa [List.append_cancel_right whole]
  · next noPercent =>
      obtain ⟨numeral, found, rfl⟩ := Option.map_eq_some_iff.mp read
      rw [isNaN_iff_of_readNumeral found]
      constructor
      · exact .inl
      · rintro (names | ⟨number, rfl, -⟩)
        · exact names
        · exact absurd (List.reverse_append ..) (noPercent _)

/-- The value of a channel is no number. -/
def IsUndefinedChannel : Json → Prop
  | .number number => number.toFloat.isNaN = true
  | .string text => SaysNoNumber text
  | _ => False

/-- A channel that is read from a value is undefined exactly if the value is. -/
theorem isNaN_iff_of_ofJson {json : Json} (read : Channel.ofJson json = some channel) :
    channel.value.isNaN = true ↔ IsUndefinedChannel json := by
  cases json with
  | number number =>
      cases read
      exact Iff.rfl
  | string text => exact isNaN_iff_of_ofText read
  | _ => cases read

end Channels

section Colors

variable {json : Json} {color : Rgb}

/-- The value is read as a color of which a channel is no number. -/
def IsUndefinedColor (json : Json) : Prop :=
  (ofJson json).isSome = true ∧
    ∃ name ∈ ["r", "g", "b"], ∃ channel, json.field? name = some channel ∧
      IsUndefinedChannel channel

/-- A color of bytes lies in the unit range. -/
theorem inUnit_ofBytes (red green blue : Nat) : (ofBytes red green blue).InUnit := by
  have known (byte : Nat) : (Float.ofNat byte / 255.0).isNaN = false := by
    rw [Doubles.isNaN_div (by decide) (by decide)]
    exact Doubles.isNaN_ofNat byte
  exact inUnit_clamped_iff.mpr ⟨known red, known green, known blue⟩

/-- So does every color that is read from digits. -/
theorem inUnit_of_ofHex {text : String} (read : ofHex text = some color) : color.InUnit := by
  have ofPairs {red red' green green' blue blue' : Char}
      (read : ofHexPairs red red' green green' blue blue' = some color) : color.InUnit := by
    obtain ⟨onRed, -, more⟩ := Option.bind_eq_some_iff.mp read
    obtain ⟨onGreen, -, last⟩ := Option.bind_eq_some_iff.mp more
    obtain ⟨onBlue, -, same⟩ := Option.bind_eq_some_iff.mp last
    cases same
    exact inUnit_ofBytes onRed onGreen onBlue
  unfold ofHex ofHexDigits at read
  split at read
  · exact ofPairs read
  · exact ofPairs read
  · cases read

/-- A color that is read is in range exactly if none of its channels is undefined. -/
theorem inUnit_iff_of_ofJson (read : ofJson json = some color) :
    color.InUnit ↔ ¬IsUndefinedColor json := by
  cases json with
  | string text =>
      have hex : ofHex text = some color := by
        dsimp only [ofJson] at read
        split_ifs at read
        exact read
      refine iff_of_true (inUnit_of_ofHex hex) ?_
      intro ⟨_, name, _, channel, found, _⟩
      cases found
  | object fields =>
      have present : (ofJson (.object fields)).isSome = true := Option.isSome_of_eq_some read
      obtain ⟨red, onRed, more⟩ := Option.bind_eq_some_iff.mp read
      obtain ⟨green, onGreen, last⟩ := Option.bind_eq_some_iff.mp more
      obtain ⟨blue, onBlue, same⟩ := Option.bind_eq_some_iff.mp last
      cases same
      have ofField {name : String} {channel : Channel}
          (found : (Dict.get? name fields).bind Channel.ofJson = some channel) :
          (∃ value, (Json.object fields).field? name = some value ∧ IsUndefinedChannel value) ↔
            channel.value.isNaN = true := by
        obtain ⟨value, field, read⟩ := Option.bind_eq_some_iff.mp found
        rw [isNaN_iff_of_ofJson read]
        exact ⟨fun ⟨_, same, undefined⟩ => Option.some.inj (field.symm.trans same) ▸ undefined,
          fun undefined => ⟨value, field, undefined⟩⟩
      rw [inUnit_ofChannels_iff, IsUndefinedColor]
      simp only [present, true_and, List.mem_cons, List.not_mem_nil, or_false, exists_eq_or_imp,
        exists_eq_left, ofField onRed, ofField onGreen, ofField onBlue, not_or, Bool.not_eq_true]
  | _ => cases read

end Colors


section Reading

variable {json : Json}

/-- What is read from a text is undefined only where a text inside it says so. -/
theorem saysNoNumber_of_parse {text : String} {document : Json}
    (parsed : Json.parse text = some document)
    (within : ∀ number, Json.HasNumber number json → Json.HasNumber number document)
    (undefined : IsUndefinedColor json) :
    ∃ name ∈ ["r", "g", "b"], ∃ said, json.field? name = some (.string said) ∧
      SaysNoNumber said := by
  obtain ⟨-, name, isChannel, channel, found, noNumber⟩ := undefined
  cases channel with
  | string said => exact ⟨name, isChannel, said, found, noNumber⟩
  | number number =>
      have inside : Json.HasNumber number json := Json.HasNumber.of_field? .self found
      have finite : number.toFloat.isFinite = true := by
        have := Json.isFinite_of_parse parsed (within number inside)
        cases number <;> exact this
      have defined := Doubles.isNaN_of_isFinite finite
      exact absurd noNumber (Bool.not_eq_true _ ▸ defined)
  | _ => cases noNumber

end Reading

end Rgb

namespace DesignStyles

variable {α : Type} {styles : DesignStyles α} {name : String}

/-- The name of a token with a readable color stands for that color. -/
theorem resolveColor_of_findToken {token : DesignToken} {color : Rgb}
    (isToken : styles.findToken name = some token) (read : Rgb.ofJson token.value = some color) :
    styles.resolveColor name = some (color, .designToken) := by
  rw [resolveColor, isToken, Option.bind_some, read]

/-- Among all colors that a name can stand for only that of a token may be out of range. -/
theorem inUnit_iff_of_resolveColor {color : Rgb} {source : ColorSource}
    (found : styles.resolveColor name = some (color, source)) :
    color.InUnit ↔
      ¬∃ token, styles.findToken name = some token ∧ Rgb.IsUndefinedColor token.value := by
  unfold resolveColor at found
  split at found
  · next onToken =>
      obtain ⟨token, isToken, read⟩ := Option.bind_eq_some_iff.mp onToken
      cases found
      rw [Rgb.inUnit_iff_of_ofJson read, isToken]
      simp only [Option.some.injEq, exists_eq_left']
  · next noToken =>
      have defined :
          ¬∃ token, styles.findToken name = some token ∧ Rgb.IsUndefinedColor token.value := by
        intro ⟨token, isToken, present, _⟩
        rw [isToken, Option.bind_some] at noToken
        rw [noToken] at present
        cases present
      refine iff_of_true ?_ defined
      split at found
      · next onStyle =>
          obtain ⟨style, -, read⟩ := Option.bind_eq_some_iff.mp onStyle
          cases found
          exact Rgb.inUnit_of_ofHex read
      · split_ifs at found
        obtain ⟨raw, read, same⟩ := Option.map_eq_some_iff.mp found
        cases same
        exact Rgb.inUnit_of_ofHex read

/-- The channels of a color lie between zero and one exactly if none of its value is undefined. -/
theorem colors_in_unit_iff (styles : DesignStyles α) (json : Json) (name : String) :
    ((∀ color, Rgb.ofJson json = some color → color.InUnit) ↔ ¬Rgb.IsUndefinedColor json) ∧
      ((∀ color source, styles.resolveColor name = some (color, source) → color.InUnit) ↔
        ¬∃ token, styles.findToken name = some token ∧ Rgb.IsUndefinedColor token.value) ∧
      ∀ (text : String) (document : Json), Json.parse text = some document →
        (∀ number, Json.HasNumber number json → Json.HasNumber number document) →
          Rgb.IsUndefinedColor json →
            ∃ channel ∈ ["r", "g", "b"], ∃ said, json.field? channel = some (.string said) ∧
              Rgb.SaysNoNumber said := by
  refine ⟨?_, ?_, fun _ _ parsed within undefined =>
    Rgb.saysNoNumber_of_parse parsed within undefined⟩
  · constructor
    · intro every undefined
      obtain ⟨color, read⟩ := Option.isSome_iff_exists.mp undefined.1
      exact (Rgb.inUnit_iff_of_ofJson read).mp (every color read) undefined
    · intro defined color read
      exact (Rgb.inUnit_iff_of_ofJson read).mpr defined
  · constructor
    · intro every undefined
      obtain ⟨token, isToken, noNumber⟩ := undefined
      obtain ⟨color, read⟩ := Option.isSome_iff_exists.mp noNumber.1
      have found := resolveColor_of_findToken isToken read
      exact (inUnit_iff_of_resolveColor found).mp (every _ _ found) ⟨token, isToken, noNumber⟩
    · intro defined color source found
      exact (inUnit_iff_of_resolveColor found).mpr defined

/-- The color whose red is the text `nan`. -/
def undefinedRed : Json :=
  .object [("b", .number (.int 0)), ("g", .number (.int 0)), ("r", .string "nan")]

theorem isUndefinedColor_undefinedRed : Rgb.IsUndefinedColor undefinedRed :=
  ⟨rfl, "r", by decide, .string "nan", rfl, .inl ⟨[], "nan".toList, rfl, .inl rfl, by decide⟩⟩

/-- The text of the red channel says itself that it is no number. -/
theorem undefined_red_says_so :
    ∃ document, Json.parse "\x7b\"r\":\"nan\",\"g\":0,\"b\":0\x7d" = some document ∧
      (¬∀ color, Rgb.ofJson document = some color → color.InUnit) ∧
        ∃ channel ∈ ["r", "g", "b"], ∃ said, document.field? channel = some (.string said) ∧
          Rgb.SaysNoNumber said := by
  have parsed : Json.parse "\x7b\"r\":\"nan\",\"g\":0,\"b\":0\x7d" = some undefinedRed := by
    simp only [Json.parse, Json.readText, String.reduceToList]
    rfl
  have undefined := isUndefinedColor_undefinedRed
  obtain ⟨inRange, -, said⟩ := colors_in_unit_iff (⟨[], [], []⟩ : DesignStyles Nat) undefinedRed ""
  exact ⟨undefinedRed, parsed, fun every => inRange.mp every undefined,
    said _ _ parsed (fun _ => id) undefined⟩

/-- The red that is no number is left by clamping, for a value and for a token with this value. -/
theorem undefined_red_kept :
    (¬∀ (json : Json) (color : Rgb), Rgb.ofJson json = some color → color.InUnit) ∧
      ¬∀ (styles : DesignStyles Nat) (name : String) (color : Rgb) (source : ColorSource),
        styles.resolveColor name = some (color, source) → color.InUnit := by
  obtain ⟨color, read⟩ := Option.isSome_iff_exists.mp isUndefinedColor_undefinedRed.1
  have outside : ¬color.InUnit := fun inUnit =>
    (Rgb.inUnit_iff_of_ofJson read).mp inUnit isUndefinedColor_undefinedRed
  constructor
  · intro every
    exact outside (every undefinedRed color read)
  · intro every
    have isToken : (⟨[⟨"Brand", none, "COLOR", undefinedRed⟩], [], []⟩ : DesignStyles Nat).findToken
        "Brand" = some ⟨"Brand", none, "COLOR", undefinedRed⟩ := rfl
    exact outside (every _ _ _ _ (resolveColor_of_findToken isToken read))

end DesignStyles

end DesignScene
