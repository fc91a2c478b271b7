/-
This file says which parts and which words a text has. A normalized key consists of the words of the
key in lower case.
-/
import Mathlib.Data.List.Forall2
import DesignScene.Text.Basic
import DesignScene.Text.Key

namespace DesignScene.Text

theorem containsChars_iff {needle : List Char} :
    ∀ {text : List Char}, containsChars text needle = true ↔ needle <:+: text
  | [] => by
      rw [containsChars, afterFirst, List.infix_nil]
      cases needle <;> simp
  | character :: rest => by
      have inRest : (afterFirst needle rest).isSome = true ↔ needle <:+: rest :=
        containsChars_iff
      rw [containsChars, afterFirst, List.infix_cons_iff, ← List.isPrefixOf_iff_prefix, ← inRest]
      split
      · next here => simp [here]
      · next elsewhere => simp [elsewhere]

/-- A text contains another one exactly if it is an infix of it. -/
theorem contains_iff {text needle : String} :
    contains text needle = true ↔ needle.toList <:+: text.toList := containsChars_iff

section Pieces

variable {separates : Char → Bool} {separator : Char} {word rest : List Char}

/-- The pieces are those of the library. -/
theorem pieces_eq_splitOnP (characters : List Char) :
    pieces separates characters = characters.splitOnP separates := by
  induction characters with
  | nil => rfl
  | cons character rest ih =>
      rw [pieces, ih, List.splitOnP_cons_eq_if_modifyHead]
      cases split : rest.splitOnP separates with
      | nil => exact absurd split (List.splitOnP_ne_nil separates rest)
      | cons piece more => rfl

/-- A separator begins a new piece, and any other character joins the first one. -/
theorem pieces_cons (character : Char) (rest : List Char) :
    pieces separates (character :: rest) =
      if separates character then [] :: pieces separates rest
      else (pieces separates rest).modifyHead (character :: ·) := by
  simp only [pieces_eq_splitOnP, List.splitOnP_cons_eq_if_modifyHead]

/-- There is one piece more than there are separators. -/
theorem length_pieces (characters : List Char) :
    (pieces separates characters).length = characters.countP separates + 1 := by
  induction characters with
  | nil => rfl
  | cons character rest ih =>
      rw [pieces_cons, List.countP_cons]
      split_ifs
      · rw [List.length_cons, ih]
      · rw [List.length_modifyHead, ih, Nat.add_zero]

/-- What is written behind a text makes its last piece longer and adds pieces. -/
theorem exists_pieces_append (characters more : List Char) :
    ∃ longer others, pieces separates (characters ++ more) = longer ++ others ∧
      List.Forall₂ (· <+: ·) (pieces separates characters) longer := by
  induction characters with
  | nil =>
      cases split : pieces separates more with
      | nil => exact absurd (split ▸ length_pieces more) (Nat.succ_ne_zero _).symm
      | cons first others =>
          exact ⟨[first], others, split, .cons List.nil_prefix .nil⟩
  | cons character rest ih =>
      obtain ⟨longer, others, split, prefixes⟩ := ih
      rw [List.cons_append, pieces_cons, pieces_cons, split]
      split_ifs
      · exact ⟨[] :: longer, others, rfl, .cons List.prefix_rfl prefixes⟩
      · generalize pieces separates rest = short at prefixes
        cases prefixes with
        | nil => exact ⟨[], others.modifyHead (character :: ·), rfl, .nil⟩
        | cons first more =>
            exact ⟨_ :: _, others, rfl, .cons (List.cons_prefix_cons.mpr ⟨rfl, first⟩) more⟩

/-- The pieces between separators that are not empty. -/
def wordsBetween (separates : Char → Bool) (characters : List Char) : List (List Char) :=
  (pieces separates characters).filter fun piece => !piece.isEmpty

@[simp] theorem wordsBetween_nil : wordsBetween separates [] = [] := rfl

/-- A text without separators is one word. -/
theorem wordsBetween_of_free (filled : word ≠ [])
    (free : ∀ character ∈ word, separates character = false) :
    wordsBetween separates word = [word] := by
  rw [wordsBetween, pieces_eq_splitOnP, List.splitOnP_eq_singleton free]
  exact List.filter_cons_of_pos (by simpa using filled)

/-- Each side of a separator has words of its own. -/
theorem wordsBetween_append_cons (before after : List Char)
    (isSeparator : separates separator = true) :
    wordsBetween separates (before ++ separator :: after) =
      wordsBetween separates before ++ wordsBetween separates after := by
  simp only [wordsBetween, pieces_eq_splitOnP]
  rw [List.splitOnP_append_cons before after isSeparator, List.filter_append]

/-- A separator at the start is skipped. -/
theorem wordsBetween_cons (after : List Char) (isSeparator : separates separator = true) :
    wordsBetween separates (separator :: after) = wordsBetween separates after :=
  wordsBetween_append_cons [] after isSeparator

/-- Words are not joined across a separator. -/
theorem wordsBetween_append (before : List Char)
    (ends : ∀ first ∈ rest.head?, separates first = true) :
    wordsBetween separates (before ++ rest) =
      wordsBetween separates before ++ wordsBetween separates rest := by
  cases rest with
  | nil => rw [List.append_nil, wordsBetween_nil, List.append_nil]
  | cons separator after =>
      have isSeparator : separates separator = true := ends separator rfl
      rw [wordsBetween_append_cons before after isSeparator, wordsBetween_cons after isSeparator]

/-- A text is empty, or it begins with a separator, or with a word that ends before one or with the text. -/
@[elab_as_elim]
theorem words_induction (separates : Char → Bool) {motive : List Char → Prop}
    (nil : motive [])
    (separator : ∀ separator rest, separates separator = true → motive rest →
      motive (separator :: rest))
    (word : ∀ word rest, word ≠ [] → (∀ character ∈ word, separates character = false) →
      (∀ first ∈ rest.head?, separates first = true) → motive rest → motive (word ++ rest))
    (characters : List Char) : motive characters := by
  suffices reading : motive characters ∧ ∀ start, start ≠ [] →
      (∀ character ∈ start, separates character = false) → motive (start ++ characters) from
    reading.1
  induction characters with
  | nil => exact ⟨nil, fun start filled free => word start [] filled free nofun nil⟩
  | cons character rest ih =>
      obtain ⟨here, reading⟩ := ih
      cases isSeparator : separates character with
      | true =>
          have outside := separator character rest isSeparator here
          refine ⟨outside, fun start filled free => word start _ filled free ?_ outside⟩
          exact fun first same => Option.some.inj same ▸ isSeparator
      | false =>
          refine ⟨reading [character] nofun (by simpa using isSeparator), ?_⟩
          intro start _ free
          have longer : ∀ other ∈ start ++ [character], separates other = false := by
            intro other member
            rcases List.mem_append.mp member with earlier | last
            · exact free other earlier
            · exact List.mem_singleton.mp last ▸ isSeparator
          have next := reading (start ++ [character]) (by simp) longer
          rwa [List.append_assoc] at next

/-- Words are not empty and have no separator. -/
theorem of_mem_wordsBetween {characters : List Char}
    (member : word ∈ wordsBetween separates characters) :
    word ≠ [] ∧ ∀ character ∈ word, separates character = false := by
  induction characters using words_induction separates with
  | nil => cases member
  | separator separator rest isSeparator ih =>
      rw [wordsBetween_cons rest isSeparator] at member
      exact ih member
  | word first rest filled free ends ih =>
      rw [wordsBetween_append first ends, wordsBetween_of_free filled free] at member
      rcases List.mem_cons.mp member with rfl | later
      · exact ⟨filled, free⟩
      · exact ih later

/-- Texts that are joined by a separator keep their words. -/
theorem wordsBetween_intercalate (isSeparator : separates separator = true)
    (texts : List (List Char)) :
    wordsBetween separates ([separator].intercalate texts) =
      texts.flatMap (wordsBetween separates) := by
  induction texts with
  | nil => rfl
  | cons text more ih =>
      cases more with
      | nil => simp
      | cons next others =>
          rw [List.intercalate_cons_cons, List.append_assoc, List.singleton_append,
            wordsBetween_append_cons _ _ isSeparator, ih]
          rfl

/-- The words between all separators are those within the words between some of them. -/
theorem flatMap_wordsBetween {separatesMore : Char → Bool}
    (also : ∀ character, separates character = true → separatesMore character = true)
    (characters : List Char) :
    (wordsBetween separates characters).flatMap (wordsBetween separatesMore) =
      wordsBetween separatesMore characters := by
  induction characters using words_induction separates with
  | nil => rfl
  | separator separator rest isSeparator ih =>
      rw [wordsBetween_cons rest isSeparator, wordsBetween_cons rest (also _ isSeparator), ih]
  | word word rest filled free ends ih =>
      have endsMore : ∀ first ∈ rest.head?, separatesMore first = true := fun first here =>
        also first (ends first here)
      rw [wordsBetween_append word ends, wordsBetween_append word endsMore,
        wordsBetween_of_free filled free, List.flatMap_append, List.flatMap_singleton, ih]

end Pieces

theorem intercalate_cons_eq_append_flatMap (separator : Char) (first : List Char)
    (more : List (List Char)) :
    [separator].intercalate (first :: more) = first ++ more.flatMap (separator :: ·) := by
  induction more generalizing first with
  | nil => simp
  | cons next others ih =>
      rw [List.intercalate_cons_cons, ih, List.flatMap_cons, List.append_assoc,
        List.singleton_append, List.cons_append]

section Normalizing

variable {separator : Char} {word rest : List Char}

/-- A character does not vanish in lower case. -/
theorem lowerChar_ne_nil (character : Char) : lowerChar character ≠ [] := by
  rw [lowerChar]
  split
  · nofun
  · split
    · nofun
    · split <;> nofun

/-- The lower-case form of the characters of a word, one by one. -/
def lowerWord (word : List Char) : List Char := word.flatMap lowerChar

/-- A separator is remembered only once a word has been written. -/
theorem normalizeChars_cons (isSeparator : isSeparator separator = true)
    (started pending : Bool) (rest : List Char) :
    normalizeChars started pending (separator :: rest) = normalizeChars started started rest :=
  if_pos isSeparator

/-- A hyphen is pending before a separator whether or not it was pending before. -/
theorem normalizeChars_of_head (ends : ∀ first ∈ rest.head?, isSeparator first = true)
    (started pending : Bool) :
    normalizeChars started pending rest = normalizeChars started started rest := by
  cases rest with
  | nil => rfl
  | cons separator after =>
      have separated : isSeparator separator = true := ends separator rfl
      rw [normalizeChars_cons separated, normalizeChars_cons separated]

/-- A word is written in lower case, after the hyphen that is pending. -/
theorem normalizeChars_append (filled : word ≠ [])
    (free : ∀ character ∈ word, isSeparator character = false) (started pending : Bool)
    (rest : List Char) :
    normalizeChars started pending (word ++ rest) =
      (if pending then ['-'] else []) ++ (lowerWord word ++ normalizeChars true false rest) := by
  induction word generalizing started pending with
  | nil => exact absurd rfl filled
  | cons character more ih =>
      have noSeparator : ¬isSeparator character = true := by
        rw [free character List.mem_cons_self]
        nofun
      rw [List.cons_append, normalizeChars, if_neg noSeparator, lowerWord, List.flatMap_cons,
        List.append_assoc]
      by_cases last : more = []
      · subst last
        rfl
      · rw [ih last fun other later => free other (List.mem_cons_of_mem _ later)]
        rfl

/-- After a word, each further word follows a hyphen. -/
theorem normalizeChars_pending (characters : List Char) :
    normalizeChars true true characters =
      (wordsBetween isSeparator characters).flatMap ('-' :: lowerWord ·) := by
  induction characters using words_induction isSeparator with
  | nil => rfl
  | separator separator rest separated ih =>
      rw [normalizeChars_cons separated, wordsBetween_cons rest separated, ih]
  | word word rest filled free ends ih =>
      rw [normalizeChars_append filled free, normalizeChars_of_head ends, ih,
        wordsBetween_append word ends, wordsBetween_of_free filled free, List.flatMap_append,
        List.flatMap_singleton]
      rfl

/-- A normalized key consists of the words of the key in lower case, with hyphens between them. -/
theorem normalizeChars_eq (characters : List Char) :
    normalizeChars false false characters =
      ['-'].intercalate ((wordsBetween isSeparator characters).map lowerWord) := by
  induction characters using words_induction isSeparator with
  | nil => rfl
  | separator separator rest separated ih =>
      rw [normalizeChars_cons separated, wordsBetween_cons rest separated, ih]
  | word word rest filled free ends ih =>
      rw [normalizeChars_append filled free, normalizeChars_of_head ends, normalizeChars_pending,
        wordsBetween_append word ends, wordsBetween_of_free filled free, List.singleton_append,
        List.map_cons, intercalate_cons_eq_append_flatMap, List.flatMap_map]
      rfl

/-- Keys with the same words have the same normalized form. -/
theorem normalizeKey_congr {first second : String}
    (same : wordsBetween isSeparator first.toList = wordsBetween isSeparator second.toList) :
    normalizeKey first = normalizeKey second := by
  rw [normalizeKey, normalizeKey, normalizeChars_eq, normalizeChars_eq, same]

/-- Only separators are normalized to nothing. -/
theorem normalizeChars_eq_nil_iff {characters : List Char} (started pending : Bool) :
    normalizeChars started pending characters = [] ↔
      ∀ character ∈ characters, isSeparator character = true := by
  induction characters generalizing started pending with
  | nil => simp [normalizeChars]
  | cons character rest ih =>
      rw [normalizeChars, List.forall_mem_cons]
      split
      · next separated => rw [ih, and_iff_right separated]
      · next noSeparator => simp [noSeparator, lowerChar_ne_nil]

/-- Nothing is left of a key exactly if all its characters are separators. -/
theorem normalizeKey_eq_empty_iff {key : String} :
    normalizeKey key = "" ↔ ∀ character ∈ key.toList, isSeparator character = true := by
  rw [normalizeKey, String.ofList_eq_empty_iff, normalizeChars_eq_nil_iff]

end Normalizing

end DesignScene.Text
