/-
This file shows which part of a reply is taken as its JSON: the part from the first opening brace to the last
closing one. An object among words without braces is taken as it is.
-/
import DesignScene.Proofs.Json.Spans
import DesignScene.Repair.Prompt

namespace DesignScene

/-- Characters in braces, with the braces. -/
def inBraces (inner : List Char) : List Char := '{' :: (inner ++ ['}'])

/-- The text is JSON that begins with an opening brace, whether its value can be read or not. -/
structure IsObjectText (text : String) : Prop where
  opened : (Json.skipSpace text.toList).head? = some '{'
  isJson : ∃ depth, (Json.readText depth text).isSome = true

section Cutting

variable {before inner after rest characters : List Char} {mark : Char}

/-- A text without the mark is dropped. -/
theorem dropWhile_of_free (free : mark ∉ characters) : characters.dropWhile (· != mark) = [] := by
  apply List.dropWhile_eq_nil_iff.mpr
  intro character member
  exact bne_iff_ne.mpr fun same => free (same ▸ member)

/-- What stands in front of the first mark is dropped. -/
theorem dropWhile_to_mark (free : mark ∉ before) :
    (before ++ mark :: rest).dropWhile (· != mark) = mark :: rest := by
  rw [List.dropWhile_append, dropWhile_of_free free, List.isEmpty_nil, if_pos rfl,
    List.dropWhile_cons_of_neg (by simp)]

/-- Without an opening brace nothing is found. -/
theorem extractJsonChars_of_unopened (unopened : '{' ∉ characters) :
    extractJsonChars characters = none := by
  simp only [extractJsonChars, dropWhile_of_free unopened]
  rfl

/-- A brace that no closing one follows opens nothing. -/
theorem extractJsonChars_of_unclosed (unopened : '{' ∉ before) (unclosed : '}' ∉ rest) :
    extractJsonChars (before ++ '{' :: rest) = none := by
  have free : '}' ∉ ('{' :: rest).reverse := by simpa using unclosed
  simp only [extractJsonChars, dropWhile_to_mark unopened, dropWhile_of_free free]
  rfl

/-- From the end, the last closing brace of the braces comes after what stands behind them. -/
theorem reverse_inBraces_append :
    (inBraces inner ++ after).reverse = after.reverse ++ '}' :: ('{' :: inner).reverse := by
  simp [inBraces]

/-- With no brace in front and none behind, what stands in braces is taken. -/
theorem extractJsonChars_of_closed (unopened : '{' ∉ before) (unclosed : '}' ∉ after) :
    extractJsonChars (before ++ (inBraces inner ++ after)) = some (inBraces inner) := by
  have opening : (before ++ (inBraces inner ++ after)).dropWhile (· != '{') = inBraces inner ++ after :=
    dropWhile_to_mark unopened
  have closing : (inBraces inner ++ after).reverse.dropWhile (· != '}') = (inBraces inner).reverse := by
    have free : '}' ∉ after.reverse := by simpa using unclosed
    rw [reverse_inBraces_append, dropWhile_to_mark free]
    simp [inBraces]
  simp only [extractJsonChars, opening, closing, List.reverse_reverse]
  rfl

/-- Behind an opening brace, the last closing one ends a part in braces. -/
theorem exists_inBraces (closed : '}' ∈ rest) :
    ∃ inner after, '{' :: rest = inBraces inner ++ after ∧ '}' ∉ after := by
  obtain ⟨after, inner, split, unclosed⟩ := List.eq_append_cons_of_mem (List.mem_reverse.mpr closed)
  refine ⟨inner.reverse, after.reverse, ?_, fun member => unclosed (List.mem_reverse.mp member)⟩
  have turned := congrArg List.reverse split
  rw [List.reverse_reverse] at turned
  simp [turned, inBraces]

/-- The middle part reaches from the first opening brace of the text to its last closing one. -/
structure Encloses (characters before inner after : List Char) : Prop where
  split : characters = before ++ (inBraces inner ++ after)
  unopened : '{' ∉ before
  unclosed : '}' ∉ after

/-- What is taken is what the middle of some three parts encloses. -/
theorem extractJsonChars_eq_some_iff {span : List Char} :
    extractJsonChars characters = some span ↔
      ∃ before inner after, Encloses characters before inner after ∧ span = inBraces inner := by
  constructor
  · intro found
    by_cases opens : '{' ∈ characters
    · obtain ⟨before, rest, rfl, unopened⟩ := List.eq_append_cons_of_mem opens
      by_cases closed : '}' ∈ rest
      · obtain ⟨inner, after, split, unclosed⟩ := exists_inBraces closed
        rw [split, extractJsonChars_of_closed unopened unclosed] at found
        exact ⟨before, inner, after, ⟨by rw [split], unopened, unclosed⟩, (Option.some.inj found).symm⟩
      · rw [extractJsonChars_of_unclosed unopened closed] at found
        cases found
    · rw [extractJsonChars_of_unopened opens] at found
      cases found
  · rintro ⟨before, inner, after, ⟨rfl, unopened, unclosed⟩, rfl⟩
    exact extractJsonChars_of_closed unopened unclosed

end Cutting

section Objects

variable {inner spaces more : List Char}

/-- What JSON calls a space is blank. -/
theorem isBlank_of_isSpace {character : Char} (space : Json.isSpace character = true) :
    Text.isBlank character = true := by
  simp only [Json.isSpace, Bool.or_eq_true, beq_iff_eq] at space
  rcases space with ((rfl | rfl) | rfl) | rfl <;> decide

/-- Braces are not blank, so that nothing but what stands around them is trimmed. -/
theorem trimChars_around_braces (blank : ∀ character ∈ spaces, Text.isBlank character = true)
    (blankMore : ∀ character ∈ more, Text.isBlank character = true) :
    Text.trimChars (spaces ++ (inBraces inner ++ more)) = inBraces inner := by
  have start : Text.trimStartChars (spaces ++ (inBraces inner ++ more)) = inBraces inner ++ more := by
    rw [Text.trimStartChars, List.dropWhile_append_of_pos blank, inBraces, List.cons_append,
      List.dropWhile_cons_of_neg (by decide)]
  rw [Text.trimChars, start, Text.trimEndWhile, reverse_inBraces_append, List.dropWhile_append_of_pos,
    List.dropWhile_cons_of_neg (by decide)]
  · simp [inBraces]
  · intro character member
    exact blankMore character (List.mem_reverse.mp member)

/-- Braces at both ends leave nothing to be trimmed. -/
theorem trim_of_inBraces {text : String} (braces : text.toList = inBraces inner) :
    Text.trim text = text := by
  have trimmed : Text.trimChars ([] ++ (inBraces inner ++ [])) = inBraces inner :=
    trimChars_around_braces nofun nofun
  rw [List.nil_append, List.append_nil] at trimmed
  rw [Text.trim, braces, trimmed, ← braces, String.ofList_toList]

/-- An object ends with its closing brace, and only spaces stand around it. -/
theorem IsObjectText.exists_inBraces {text : String} (object : IsObjectText text) :
    ∃ spaces inner more, text.toList = spaces ++ (inBraces inner ++ more) ∧
      (∀ character ∈ spaces, Json.isSpace character = true) ∧
        ∀ character ∈ more, Json.isSpace character = true := by
  obtain ⟨inside, opened⟩ := List.head?_eq_some_iff.mp object.opened
  obtain ⟨depth, isJson⟩ := object.isJson
  obtain ⟨json, read⟩ := Option.isSome_iff_exists.mp isJson
  obtain ⟨⟨value, rest⟩, first, ended⟩ := Option.bind_eq_some_iff.mp read
  obtain ⟨inner, closed⟩ := Json.readValue_brace_suffix (Json.leavesEnd _) opened first
  refine ⟨text.toList.takeWhile Json.isSpace, inner, rest, ?_, ?_, ?_⟩
  · have split := List.takeWhile_append_dropWhile (p := Json.isSpace) (l := text.toList)
    rw [← Json.skipSpace, opened, ← closed] at split
    exact split.symm.trans (by simp [inBraces])
  · exact fun character member => List.mem_takeWhile_imp member
  · have onlySpaces : Json.skipSpace rest = [] := by
      dsimp only at ended
      split_ifs at ended with empty
      exact List.isEmpty_iff.mp empty
    exact List.dropWhile_eq_nil_iff.mp onlySpaces

end Objects

/-- The same holds of texts. -/
theorem extractJson_eq_some_iff {content span : String} :
    extractJson content = some span ↔
      ∃ before inner after, Encloses content.toList before inner after ∧ span.toList = inBraces inner := by
  have asChars : extractJson content = some span ↔
      extractJsonChars content.toList = some span.toList := by
    rw [extractJson, Option.map_eq_some_iff]
    constructor
    · rintro ⟨characters, found, rfl⟩
      rw [found, String.toList_ofList]
    · intro found
      exact ⟨span.toList, found, String.ofList_toList⟩
  rw [asChars, extractJsonChars_eq_some_iff]

/-- Something is taken exactly if a closing brace follows the first opening one. -/
theorem isSome_extractJson_iff {content : String} :
    (extractJson content).isSome = true ↔
      ∃ before after, content.toList = before ++ '{' :: after ∧ '{' ∉ before ∧ '}' ∈ after := by
  rw [Option.isSome_iff_exists]
  constructor
  · rintro ⟨span, found⟩
    obtain ⟨before, inner, after, ⟨split, unopened, -⟩, -⟩ := extractJson_eq_some_iff.mp found
    refine ⟨before, inner ++ '}' :: after, ?_, unopened, by simp⟩
    rw [split]
    simp [inBraces]
  · rintro ⟨before, rest, split, unopened, closed⟩
    obtain ⟨inner, after, braces, unclosed⟩ := exists_inBraces closed
    rw [braces] at split
    exact ⟨String.ofList (inBraces inner), extractJson_eq_some_iff.mpr
      ⟨before, inner, after, ⟨split, unopened, unclosed⟩, String.toList_ofList⟩⟩

/-- Every part of a text that stands in braces lies inside the part that is taken. -/
theorem infix_of_extractJson {content span : String} (found : extractJson content = some span)
    {front inner back : List Char} (braces : content.toList = front ++ (inBraces inner ++ back)) :
    inBraces inner <:+: span.toList := by
  obtain ⟨before, outer, after, ⟨split, unopened, unclosed⟩, isSpan⟩ := extractJson_eq_some_iff.mp found
  rw [isSpan]
  obtain ⟨extra, behind⟩ : ∃ extra, inBraces outer ++ after = extra ++ inBraces inner ++ back := by
    rcases List.append_eq_append_iff.mp (split.symm.trans braces) with
      ⟨extra, -, behind⟩ | ⟨more, isBefore, behind⟩
    · exact ⟨extra, behind.trans (List.append_assoc _ _ _).symm⟩
    · cases more with
      | nil => exact ⟨[], behind.symm⟩
      | cons first more =>
          obtain rfl : '{' = first := (List.cons.inj behind).1
          exact absurd (by simp [isBefore]) unopened
  rcases List.append_eq_append_iff.mp behind with ⟨more, isEnd, isAfter⟩ | ⟨more, isOuter, -⟩
  · rcases List.eq_nil_or_concat more with rfl | ⟨others, last, rfl⟩
    · rw [List.append_nil] at isEnd
      exact ⟨extra, [], by rw [List.append_nil, isEnd]⟩
    · have ends : (extra ++ '{' :: inner) ++ ['}'] = (inBraces outer ++ others) ++ [last] := by
        simpa [inBraces] using isEnd
      obtain rfl : '}' = last := (List.cons.inj (List.append_inj_right' ends rfl)).1
      exact absurd (by simp [isAfter]) unclosed
  · exact ⟨extra, more, isOuter.symm⟩

/-- Trimming the part that is taken changes nothing, and that part is never empty. -/
theorem filter_trim_extractJson (content : String) :
    ((extractJson content).map Text.trim).filter (· != "") = extractJson content := by
  cases found : extractJson content with
  | none => rfl
  | some span =>
      obtain ⟨before, inner, after, -, braces⟩ := extractJson_eq_some_iff.mp found
      have filled : span ≠ "" := by
        rintro rfl
        cases braces
      rw [Option.map_some, trim_of_inBraces braces, Option.filter_some, if_pos (bne_iff_ne.mpr filled)]

/-- What is taken reaches from the first opening brace to the last closing one, if that stands behind it. -/
theorem extractJson_outermost :
    (∀ content, (extractJson content).isSome = true ↔
      ∃ before after, content.toList = before ++ '{' :: after ∧ '{' ∉ before ∧ '}' ∈ after) ∧
    (∀ content span, extractJson content = some span ↔
      ∃ before inner after, Encloses content.toList before inner after ∧ span.toList = inBraces inner) ∧
    (∀ content span, extractJson content = some span → ∀ front inner back,
      content.toList = front ++ (inBraces inner ++ back) → inBraces inner <:+: span.toList) ∧
    ∀ before object after : String, '{' ∉ before.toList → '}' ∉ after.toList → IsObjectText object →
      extractJson (before ++ object ++ after) = some (Text.trim object) := by
  refine ⟨fun content => isSome_extractJson_iff, fun content span => extractJson_eq_some_iff,
    fun content span found front inner back => infix_of_extractJson found, ?_⟩
  intro before object after unopened unclosed isObject
  obtain ⟨spaces, inner, more, split, blank, blankMore⟩ := isObject.exists_inBraces
  have trimmed : Text.trim object = String.ofList (inBraces inner) := by
    rw [Text.trim, split, trimChars_around_braces]
    · exact fun character member => isBlank_of_isSpace (blank character member)
    · exact fun character member => isBlank_of_isSpace (blankMore character member)
  rw [trimmed]
  apply extractJson_eq_some_iff.mpr
  refine ⟨before.toList ++ spaces, inner, more ++ after.toList, ⟨?_, ?_, ?_⟩, String.toList_ofList⟩
  · rw [String.toList_append, String.toList_append, split]
    simp
  · intro member
    rcases List.mem_append.mp member with inside | space
    · exact unopened inside
    · exact absurd (blank _ space) (by decide)
  · intro member
    rcases List.mem_append.mp member with space | inside
    · exact absurd (blankMore _ space) (by decide)
    · exact unclosed inside

/-- An object that holds another one, among a few words. -/
theorem nested_object_extracted :
    '{' ∉ "noise ".toList ∧ '}' ∉ " trailing".toList ∧
      IsObjectText "\x7b\"a\": \x7b\"b\": 1\x7d\x7d" ∧
        extractJson ("noise " ++ "\x7b\"a\": \x7b\"b\": 1\x7d\x7d" ++ " trailing") =
          some "\x7b\"a\": \x7b\"b\": 1\x7d\x7d" := by
  have isObject : IsObjectText "\x7b\"a\": \x7b\"b\": 1\x7d\x7d" := by
    refine ⟨by decide, 2, ?_⟩
    simp only [Json.readText, String.reduceToList]
    rfl
  have unopened : '{' ∉ "noise ".toList := by decide
  have unclosed : '}' ∉ " trailing".toList := by decide
  have taken := extractJson_outermost.2.2.2 "noise " _ " trailing" unopened unclosed isObject
  exact ⟨unopened, unclosed, isObject, taken.trans (by decide)⟩

end DesignScene
