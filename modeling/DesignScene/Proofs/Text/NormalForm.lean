/-
This file shows that a normalized key is the one form of all texts with the same words.
-/
import DesignScene.Proofs.Text.Lowered
import DesignScene.Proofs.Text.Words

namespace DesignScene.Text

section Pieces

variable {separates : Char → Bool} {separator : Char}

/-- Words that are joined by a separator are the pieces between the separators. -/
theorem pieces_intercalate (isSeparator : separates separator = true) {words : List (List Char)}
    (filled : words ≠ [])
    (free : ∀ word ∈ words, ∀ character ∈ word, separates character = false) :
    pieces separates ([separator].intercalate words) = words := by
  induction words with
  | nil => exact absurd rfl filled
  | cons word more ih =>
      obtain ⟨first, others⟩ := List.forall_mem_cons.mp free
      cases more with
      | nil =>
          rw [List.intercalate_singleton, pieces_eq_splitOnP, List.splitOnP_eq_singleton first]
      | cons next rest =>
          have later := ih (by nofun) others
          rw [pieces_eq_splitOnP] at later ⊢
          rw [List.intercalate_cons_cons, List.append_assoc, List.singleton_append,
            List.splitOnP_append_cons _ _ isSeparator, List.splitOnP_eq_singleton first, later,
            List.singleton_append]

/-- An empty piece stands before a first separator, between two neighbouring ones, and after the last. -/
theorem nil_mem_pieces {characters : List Char} (isSeparator : separates separator = true)
    (loose : characters.head? = some separator ∨ characters.getLast? = some separator ∨
      [separator, separator] <:+: characters) : [] ∈ pieces separates characters := by
  have behind (front back : List Char) (inBack : [] ∈ pieces separates back) :
      [] ∈ pieces separates (front ++ separator :: back) := by
    rw [pieces_eq_splitOnP] at inBack ⊢
    rw [List.splitOnP_append_cons _ _ isSeparator]
    exact List.mem_append_right _ inBack
  have before (back : List Char) : [] ∈ pieces separates (separator :: back) := by
    rw [pieces, if_pos isSeparator]
    exact List.mem_cons_self
  rcases loose with leading | trailing | ⟨front, back, rfl⟩
  · obtain ⟨back, rfl⟩ := List.head?_eq_some_iff.mp leading
    exact before back
  · obtain ⟨front, rfl⟩ := List.getLast?_eq_some_iff.mp trailing
    exact behind front [] (List.mem_singleton.mpr rfl)
  · rw [List.append_assoc]
    exact behind front (separator :: back) (before back)

end Pieces

section Words

variable {word characters : List Char}

theorem lowerWord_ne_nil (filled : word ≠ []) : lowerWord word ≠ [] := by
  obtain ⟨first, rest, rfl⟩ := List.exists_cons_of_ne_nil filled
  rw [lowerWord, List.flatMap_cons]
  exact List.append_ne_nil_of_left_ne_nil (lowerChar_ne_nil first) _

/-- A word has no separators in lower case either. -/
theorem lowerWord_free (free : ∀ character ∈ word, isSeparator character = false) :
    ∀ character ∈ lowerWord word, isSeparator character = false := by
  intro lowered member
  obtain ⟨character, inWord, inForm⟩ := List.mem_flatMap.mp member
  exact (lowered_of_mem_lowerChar inForm).2 (free character inWord)

/-- A word in lower case stays as it is. -/
theorem lowerWord_lowerWord (word : List Char) : lowerWord (lowerWord word) = lowerWord word := by
  have kept : ∀ lowered ∈ lowerWord word, lowerChar lowered = [lowered] := by
    intro lowered member
    obtain ⟨character, -, inForm⟩ := List.mem_flatMap.mp member
    exact (lowered_of_mem_lowerChar inForm).1
  rw [lowerWord, List.flatMap_congr kept, List.flatMap_singleton']

/-- The words of a text in lower case. -/
def loweredWords (characters : List Char) : List (List Char) :=
  (wordsBetween isSeparator characters).map lowerWord

/-- The words of a key in lower case are not empty, hold no separators and stay as they are. -/
theorem of_mem_loweredWords (member : word ∈ loweredWords characters) :
    word ≠ [] ∧ (∀ character ∈ word, isSeparator character = false) ∧ lowerWord word = word := by
  obtain ⟨original, inText, rfl⟩ := List.mem_map.mp member
  obtain ⟨filled, free⟩ := of_mem_wordsBetween inText
  exact ⟨lowerWord_ne_nil filled, lowerWord_free free, lowerWord_lowerWord original⟩

/-- A normalized key has the words of the key in lower case. -/
theorem wordsBetween_normalizeChars (characters : List Char) :
    wordsBetween isSeparator (normalizeChars false false characters) = loweredWords characters := by
  rw [normalizeChars_eq, wordsBetween_intercalate rfl, ← loweredWords]
  have alone : ∀ word ∈ loweredWords characters, wordsBetween isSeparator word = [word] := by
    intro word member
    obtain ⟨filled, free, -⟩ := of_mem_loweredWords member
    exact wordsBetween_of_free filled free
  rw [List.flatMap_congr alone, List.flatMap_singleton']

/-- What is normalized stays as it is. -/
theorem normalizeChars_normalizeChars (characters : List Char) :
    normalizeChars false false (normalizeChars false false characters) =
      normalizeChars false false characters := by
  have kept : ∀ word ∈ loweredWords characters, lowerWord word = word := fun word member =>
    (of_mem_loweredWords member).2.2
  rw [normalizeChars_eq, wordsBetween_normalizeChars, normalizeChars_eq, ← loweredWords,
    List.map_congr_left kept, List.map_id']

end Words

/-- There are no separators but hyphens, each of them between two other characters. -/
structure IsNormal (characters : List Char) : Prop where
  noBlank : ∀ character ∈ characters, isBlank character = false
  noUnderscore : '_' ∉ characters
  noLeading : characters.head? ≠ some '-'
  noTrailing : characters.getLast? ≠ some '-'
  noDoubled : ¬['-', '-'] <:+: characters

/-- Between words that are joined by hyphens there is nothing else. -/
theorem eq_hyphen_of_mem_normalizeChars {characters : List Char} {character : Char}
    (member : character ∈ normalizeChars false false characters)
    (separates : isSeparator character = true) : character = '-' := by
  rw [normalizeChars_eq, ← loweredWords] at member
  have free : ∀ word ∈ loweredWords characters, character ∉ word := by
    intro word isWord inWord
    have noSeparator := (of_mem_loweredWords isWord).2.1 character inWord
    rw [noSeparator] at separates
    cases separates
  revert member free
  generalize loweredWords characters = words
  intro member free
  cases words with
  | nil => cases member
  | cons first more =>
      obtain ⟨notFirst, notLater⟩ := List.forall_mem_cons.mp free
      rw [intercalate_cons_eq_append_flatMap, List.mem_append, List.mem_flatMap] at member
      rcases member with inFirst | ⟨word, isWord, inWord⟩
      · exact absurd inFirst notFirst
      · rcases List.mem_cons.mp inWord with rfl | later
        · rfl
        · exact absurd later (notLater word isWord)

/-- No hyphen stands at an end or beside another one, because no word is empty. -/
theorem isNormal_normalizeChars (characters : List Char) :
    IsNormal (normalizeChars false false characters) := by
  have hyphens {character : Char} (member : character ∈ normalizeChars false false characters) :=
    eq_hyphen_of_mem_normalizeChars member
  have noPiece : normalizeChars false false characters ≠ [] →
      [] ∉ pieces isSeparator (normalizeChars false false characters) := by
    rw [normalizeChars_eq, ← loweredWords]
    intro filled member
    have someWord : loweredWords characters ≠ [] := by
      intro none
      rw [none] at filled
      exact filled rfl
    have free : ∀ word ∈ loweredWords characters, ∀ character ∈ word,
        isSeparator character = false := fun word isWord => (of_mem_loweredWords isWord).2.1
    rw [pieces_intercalate rfl someWord free] at member
    exact (of_mem_loweredWords member).1 rfl
  have tight (loose : (normalizeChars false false characters).head? = some '-' ∨
      (normalizeChars false false characters).getLast? = some '-' ∨
        ['-', '-'] <:+: normalizeChars false false characters) : False := by
    refine noPiece ?_ (nil_mem_pieces rfl loose)
    intro none
    rw [none] at loose
    simp at loose
  refine ⟨fun character member => ?_, fun member => ?_, fun leading => tight (.inl leading),
    fun trailing => tight (.inr (.inl trailing)), fun doubled => tight (.inr (.inr doubled))⟩
  · cases blank : isBlank character with
    | false => rfl
    | true =>
        have isHyphen := hyphens member (by simp [isSeparator, blank])
        rw [isHyphen] at blank
        exact absurd blank (by decide)
  · exact absurd (hyphens member rfl) (by decide)

/-- The characters spell the words in their order, with separators between them and nothing else. -/
inductive Spells : List (List Char) → List Char → Prop where
  | nothing {run : List Char} (separators : ∀ character ∈ run, isSeparator character = true) :
      Spells [] run
  | word {run word rest : List Char} {words : List (List Char)}
      (separators : ∀ character ∈ run, isSeparator character = true) (filled : word ≠ [])
      (free : ∀ character ∈ word, isSeparator character = false)
      (ends : ∀ first ∈ rest.head?, isSeparator first = true) (more : Spells words rest) :
      Spells (word :: words) (run ++ (word ++ rest))

/-- A further separator in front does not change the words. -/
theorem Spells.cons_separator {words : List (List Char)} {characters : List Char} {separator : Char}
    (separates : isSeparator separator = true) (spells : Spells words characters) :
    Spells words (separator :: characters) := by
  cases spells with
  | nothing separators => exact .nothing (List.forall_mem_cons.mpr ⟨separates, separators⟩)
  | word separators filled free ends more =>
      have longer := Spells.word (List.forall_mem_cons.mpr ⟨separates, separators⟩) filled free ends more
      exact longer

/-- A text may begin with a word. -/
theorem Spells.first {words : List (List Char)} {word rest : List Char} (filled : word ≠ [])
    (free : ∀ character ∈ word, isSeparator character = false)
    (ends : ∀ first ∈ rest.head?, isSeparator first = true) (more : Spells words rest) :
    Spells (word :: words) (word ++ rest) := by
  have noRun : ∀ character ∈ ([] : List Char), isSeparator character = true := nofun
  have spells := Spells.word noRun filled free ends more
  exact spells

/-- A character that is no separator lengthens the first word, or is a word before a run. -/
theorem Spells.cons_free {words : List (List Char)} {characters : List Char} {character : Char}
    (isFree : isSeparator character = false) (spells : Spells words characters) :
    ∃ others, Spells others (character :: characters) := by
  have alone : ∀ other ∈ [character], isSeparator other = false := List.forall_mem_singleton.mpr isFree
  cases spells with
  | nothing separators =>
      have ends := fun first isFirst => separators first (List.mem_of_head? isFirst)
      exact ⟨_, .first (List.cons_ne_nil character []) alone ends (.nothing separators)⟩
  | @word run word rest words separators filled free ends more =>
      cases run with
      | nil =>
          have longer : ∀ other ∈ character :: word, isSeparator other = false :=
            List.forall_mem_cons.mpr ⟨isFree, free⟩
          exact ⟨_, .first (List.cons_ne_nil character word) longer ends more⟩
      | cons separator run =>
          have endsHere : ∀ first ∈ (separator :: run ++ (word ++ rest)).head?,
              isSeparator first = true := by
            intro first isFirst
            obtain rfl := Option.some.inj isFirst
            exact separators separator List.mem_cons_self
          exact ⟨_, .first (List.cons_ne_nil character []) alone endsHere
            (.word separators filled free ends more)⟩

/-- Every text spells some words. -/
theorem exists_spells (characters : List Char) : ∃ words, Spells words characters := by
  induction characters with
  | nil => exact ⟨[], .nothing (fun _ member => nomatch member)⟩
  | cons character more ih =>
      obtain ⟨words, spells⟩ := ih
      cases separates : isSeparator character with
      | true => exact ⟨words, spells.cons_separator separates⟩
      | false => exact spells.cons_free separates

/-- A run of separators at the start is skipped. -/
theorem wordsBetween_run {run : List Char}
    (separators : ∀ character ∈ run, isSeparator character = true) (rest : List Char) :
    wordsBetween isSeparator (run ++ rest) = wordsBetween isSeparator rest := by
  induction run with
  | nil => rfl
  | cons separator more ih =>
      obtain ⟨first, others⟩ := List.forall_mem_cons.mp separators
      rw [List.cons_append, wordsBetween_cons _ first, ih others]

/-- Characters spell no other words than those that are read from them. -/
theorem Spells.wordsBetween_eq {words : List (List Char)} {characters : List Char}
    (spells : Spells words characters) : wordsBetween isSeparator characters = words := by
  induction spells with
  | @nothing run separators =>
      have only := wordsBetween_run separators []
      rwa [List.append_nil] at only
  | word separators filled free ends _ ih =>
      rw [wordsBetween_run separators, wordsBetween_append _ ends, wordsBetween_of_free filled free,
        ih, List.singleton_append]

/-- A normalized key stays as it is, has single hyphens only, and is the same for the same words. -/
theorem normalizeKey_canonical (key : String) :
    normalizeKey (normalizeKey key) = normalizeKey key ∧ IsNormal (normalizeKey key).toList ∧
      (∃ words, Spells words key.toList) ∧
      ∀ (words : List (List Char)) (other : String), Spells words key.toList →
        Spells words other.toList → normalizeKey other = normalizeKey key := by
  have written : (normalizeKey key).toList = normalizeChars false false key.toList :=
    String.toList_ofList
  refine ⟨?_, ?_, exists_spells key.toList, fun words other spells alike => ?_⟩
  · rw [normalizeKey, written, normalizeChars_normalizeChars, ← normalizeKey]
  · rw [written]
    exact isNormal_normalizeChars key.toList
  · apply normalizeKey_congr
    rw [spells.wordsBetween_eq, alike.wordsBetween_eq]

/-- The runs around the words do not matter, and one capital letter becomes two characters. -/
theorem dotted_icon_canonical :
    Spells ["Small".toList, "İcon".toList] "  Small__İcon ".toList ∧
      Spells ["Small".toList, "İcon".toList] "Small - İcon".toList ∧
      normalizeKey "Small - İcon" = normalizeKey "  Small__İcon " ∧
      normalizeKey "  Small__İcon " = "small-i\u0307con" := by
  have free (word : List Char) (noSeparator : word.any isSeparator = false) :
      ∀ character ∈ word, isSeparator character = false := by simpa using noSeparator
  have run (separators : List Char) (only : separators.all isSeparator = true) :
      ∀ character ∈ separators, isSeparator character = true := List.all_eq_true.mp only
  have ends (rest : List Char) (only : rest.head?.all isSeparator = true) :
      ∀ first ∈ rest.head?, isSeparator first = true := by simpa [Option.all_eq_true] using only
  have padded : Spells ["Small".toList, "İcon".toList]
      ("  ".toList ++ ("Small".toList ++ ("__".toList ++ ("İcon".toList ++ " ".toList)))) :=
    .word (run _ (by decide)) (by decide) (free _ (by decide)) (ends _ (by decide))
      (.word (run _ (by decide)) (by decide) (free _ (by decide)) (ends _ (by decide))
        (.nothing (run _ (by decide))))
  have spaced : Spells ["Small".toList, "İcon".toList]
      ("Small".toList ++ (" - ".toList ++ ("İcon".toList ++ []))) :=
    .first (by decide) (free _ (by decide)) (ends _ (by decide))
      (.word (run _ (by decide)) (by decide) (free _ (by decide)) (ends _ (by decide))
        (.nothing (run _ (by decide))))
  exact ⟨padded, spaced, (normalizeKey_canonical "  Small__İcon ").2.2.2 _ _ padded spaced,
    by decide⟩

end DesignScene.Text
