/-
This file shows that what is read of a JSON text is its beginning, and that what is read of an object begins
with the opening brace of the object and ends with a closing one.
-/
import DesignScene.Json.Parser
import DesignScene.Proofs.Decimal.NotANumber
import Mathlib.Data.List.Infix

namespace DesignScene.Json

section Literals

variable {characters rest : List Char}

theorem skipSpace_suffix (characters : List Char) : skipSpace characters <:+ characters :=
  List.dropWhile_suffix isSpace

/-- What follows a word is the end of the text. -/
theorem afterWord_suffix {word : String} (read : afterWord word characters = some rest) :
    rest <:+ characters := by
  unfold afterWord at read
  split at read
  · cases read
    exact List.drop_suffix _ _
  · cases read

/-- What follows a string is the end of the text. -/
theorem readStringAfter_suffix {state : StringState} {text : Option String}
    (read : readStringAfter state characters = some (text, rest)) : rest <:+ characters := by
  fun_induction readStringAfter state characters with
  | case1 state tail =>
      cases read
      exact List.suffix_cons _ _
  | case2 state first second third fourth tail ih =>
      obtain ⟨unit, -, further⟩ := Option.bind_eq_some_iff.mp read
      exact (ih unit further).trans (List.suffix_append ['\\', 'u', first, second, third, fourth] tail)
  | case3 state escape tail _ ih =>
      obtain ⟨character, -, further⟩ := Option.bind_eq_some_iff.mp read
      exact (ih character further).trans (List.suffix_append ['\\', escape] tail)
  | case4 => cases read
  | case5 state character tail _ _ _ _ ih => exact (ih read).trans (List.suffix_cons character tail)
  | case6 => cases read

theorem readSign_suffix (characters : List Char) : (Decimal.readSign characters).2 <:+ characters := by
  obtain ⟨sign, whole, -⟩ := Decimal.readSign_eq characters
  exact ⟨sign, whole.symm⟩

variable {negative isInteger : Bool} {significand dropped : Nat} {start : Int} {number : Number}

/-- What follows an exponent is the end of the text. -/
theorem readExponentPart_suffix
    (read : readExponentPart negative significand start isInteger characters = some (number, rest)) :
    rest <:+ characters := by
  have ofFinish (finished : readExponentPart.finish negative significand start isInteger characters =
      some (number, rest)) : rest <:+ characters := by
    cases finished
    exact List.suffix_rfl
  unfold readExponentPart at read
  split at read
  · next mark tail =>
      split_ifs at read
      · obtain ⟨exponent, -, same⟩ := Option.map_eq_some_iff.mp read
        cases same
        exact (List.dropWhile_suffix _).trans ((readSign_suffix tail).trans (List.suffix_cons mark tail))
      · exact ofFinish read
  · exact ofFinish read

theorem readFractionPart_suffix
    (read : readFractionPart negative significand dropped characters = some (number, rest)) :
    rest <:+ characters := by
  unfold readFractionPart at read
  split at read
  · next tail =>
      dsimp only at read
      split_ifs at read
      have digits := List.dropWhile_suffix (l := tail) Char.isDigit
      exact (readExponentPart_suffix read).trans (digits.trans (List.suffix_cons '.' tail))
  · exact readExponentPart_suffix read

/-- What follows a number is the end of the text. -/
theorem readNumber_suffix (read : readNumber characters = some (number, rest)) :
    rest <:+ characters := by
  have ofMagnitude {negative : Bool} {digits : List Char}
      (read : readMagnitude negative digits = some (number, rest)) : rest <:+ digits := by
    unfold readMagnitude at read
    dsimp only at read
    split_ifs at read
    exact (readFractionPart_suffix read).trans (List.dropWhile_suffix _)
  unfold readNumber at read
  split at read
  · next tail => exact (ofMagnitude read).trans (List.suffix_cons '-' tail)
  · exact ofMagnitude read

end Literals

section Values

/-- What is left after reading with this much fuel is the end of the text. -/
structure LeavesEnd (fuel : Nat) : Prop where
  value {depth : Nat} {characters rest : List Char} {json : Json}
    (read : readValue fuel depth characters = some (json, rest)) : rest <:+ characters
  elements {depth : Nat} {characters rest : List Char} {json : Json} {earlier : List Json}
    (read : readElements fuel depth earlier characters = some (json, rest)) :
    ']' :: rest <:+ characters
  fields {depth : Nat} {characters rest : List Char} {json : Json}
    {earlier : Option (List (String × Json))}
    (read : readFields fuel depth earlier characters = some (json, rest)) :
    '}' :: rest <:+ characters

section Step

variable {fuel depth : Nat} {characters inside rest : List Char} {json : Json}

/-- An object ends with a closing brace. -/
theorem readValue_brace_suffix (leaves : LeavesEnd fuel)
    (opened : skipSpace characters = '{' :: inside)
    (read : readValue (fuel + 1) depth characters = some (json, rest)) : '}' :: rest <:+ inside := by
  have spaces := skipSpace_suffix inside
  simp only [readValue, opened] at read
  split at read
  · cases read
  · split at read
    · next closed =>
        cases read
        exact closed ▸ spaces
    · exact (leaves.fields read).trans spaces

/-- An array ends with a closing bracket. -/
theorem readValue_bracket_suffix (leaves : LeavesEnd fuel)
    (opened : skipSpace characters = '[' :: inside)
    (read : readValue (fuel + 1) depth characters = some (json, rest)) : ']' :: rest <:+ inside := by
  have spaces := skipSpace_suffix inside
  simp only [readValue, opened] at read
  split at read
  · cases read
  · split at read
    · next closed =>
        cases read
        exact closed ▸ spaces
    · exact (leaves.elements read).trans spaces

/-- What follows a value is the end of the text. -/
theorem readValue_suffix (leaves : LeavesEnd fuel)
    (read : readValue (fuel + 1) depth characters = some (json, rest)) : rest <:+ characters := by
  have ofWord {mark : Char} {tail : List Char} {word : String} {value : Json}
      (opened : skipSpace characters = mark :: tail)
      (read : (afterWord word tail).map (value, ·) = some (json, rest)) :
      rest <:+ skipSpace characters := by
    obtain ⟨after, found, same⟩ := Option.map_eq_some_iff.mp read
    cases same
    rw [opened]
    exact (afterWord_suffix found).trans (List.suffix_cons mark tail)
  apply List.IsSuffix.trans _ (skipSpace_suffix characters)
  have whole := read
  unfold readValue at read
  split at read
  · next opened =>
      have closed := readValue_brace_suffix leaves opened whole
      rw [opened]
      exact (List.suffix_cons _ rest).trans (closed.trans (List.suffix_cons _ _))
  · next opened =>
      have closed := readValue_bracket_suffix leaves opened whole
      rw [opened]
      exact (List.suffix_cons _ rest).trans (closed.trans (List.suffix_cons _ _))
  · next opened =>
      obtain ⟨⟨text, after⟩, string, same⟩ := Option.map_eq_some_iff.mp read
      cases same
      rw [opened]
      exact (readStringAfter_suffix string).trans (List.suffix_cons _ _)
  · next opened => exact ofWord opened read
  · next opened => exact ofWord opened read
  · next opened => exact ofWord opened read
  · obtain ⟨⟨number, after⟩, literal, same⟩ := Option.map_eq_some_iff.mp read
    cases same
    exact readNumber_suffix literal

/-- What follows the elements begins behind a closing bracket. -/
theorem readElements_suffix (leaves : LeavesEnd fuel) {earlier : List Json}
    (read : readElements (fuel + 1) depth earlier characters = some (json, rest)) :
    ']' :: rest <:+ characters := by
  rw [readElements] at read
  obtain ⟨⟨element, after⟩, first, more⟩ := Option.bind_eq_some_iff.mp read
  have behind := (skipSpace_suffix after).trans (leaves.value first)
  dsimp only at more
  split at more
  · next tail next =>
      rw [next] at behind
      exact (leaves.elements more).trans ((List.suffix_cons ',' tail).trans behind)
  · next tail next =>
      cases more
      exact next ▸ behind
  · cases more

/-- What follows the fields begins behind a closing brace. -/
theorem readFields_suffix (leaves : LeavesEnd fuel) {earlier : Option (List (String × Json))}
    (read : readFields (fuel + 1) depth earlier characters = some (json, rest)) :
    '}' :: rest <:+ characters := by
  apply List.IsSuffix.trans _ (skipSpace_suffix characters)
  rw [readFields] at read
  split at read
  · next quoted opened =>
      obtain ⟨⟨name, afterName⟩, string, more⟩ := Option.bind_eq_some_iff.mp read
      have behindName := (skipSpace_suffix afterName).trans (readStringAfter_suffix string)
      dsimp only at more
      split at more
      · next tail colon =>
          obtain ⟨⟨value, after⟩, found, later⟩ := Option.bind_eq_some_iff.mp more
          have behind := (skipSpace_suffix after).trans (leaves.value found)
          rw [colon] at behindName
          have inName := behind.trans ((List.suffix_cons ':' tail).trans behindName)
          have inFields := inName.trans (List.suffix_cons '"' quoted)
          rw [← opened] at inFields
          dsimp only at later
          split at later
          · next others next =>
              rw [next] at inFields
              exact (leaves.fields later).trans ((List.suffix_cons ',' others).trans inFields)
          · next others next =>
              cases later
              exact next ▸ inFields
          · cases later
      · cases more
  · cases read

/-- Reading with any amount of fuel leaves the end of the text. -/
theorem leavesEnd (fuel : Nat) : LeavesEnd fuel := by
  induction fuel with
  | zero =>
      constructor
      · intro depth characters rest json read
        cases read
      · intro depth characters rest json earlier read
        cases read
      · intro depth characters rest json earlier read
        cases read
  | succ fuel leaves =>
      exact ⟨readValue_suffix leaves, readElements_suffix leaves, readFields_suffix leaves⟩

end Step

end Values

end DesignScene.Json
