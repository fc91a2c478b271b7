/-
This file says where the slot of a property key is found, and when it is found by the words that slot
names use for a common key. Another key finds a slot by such words only if nothing of it is compared.
-/
import Mathlib.Data.List.Induction
import DesignScene.Matching.TextSlots
import DesignScene.Proofs.Text.Words

namespace DesignScene

section Matches

variable {Slot : Type} {matchers : List (Matcher Slot)} {key : String} {slots : List Slot}
  {index : Nat} {found : SlotMatch}

/-- A match is the answer of one of the strategies. -/
theorem exists_find_of_firstMatch (matched : firstMatch matchers key slots = some found) :
    ∃ matcher ∈ matchers, matcher.find key slots = some found.index ∧
      matcher.strategy = found.strategy := by
  rw [firstMatch] at matched
  split_ifs at matched
  obtain ⟨matcher, listed, result⟩ := List.exists_of_findSome?_eq_some matched
  obtain ⟨index, search, rfl⟩ := Option.map_eq_some_iff.mp result
  exact ⟨matcher, listed, search, rfl⟩

variable {test : Slot → Bool}

theorem lt_length_of_findIdx? (found : slots.findIdx? test = some index) :
    index < slots.length := (List.findIdx?_eq_some_iff_findIdx_eq.mp found).1

/-- The indices of what passes a test are those that the library finds. -/
theorem map_snd_filter_zipIdx (test : Slot → Bool) (slots : List Slot) :
    (slots.zipIdx.filter fun placed => test placed.1).map Prod.snd = slots.findIdxs test := by
  rw [List.findIdxs_eq_filterMap_zipIdx, ← List.filterMap_eq_map, ← List.filterMap_eq_filter,
    List.filterMap_filterMap]
  congr
  funext placed
  cases passes : test placed.1 <;> simp [Option.guard, passes]

/-- An index is found exactly if something stands there that passes the test. -/
theorem mem_findIdxs_iff :
    index ∈ slots.findIdxs test ↔ ∃ slot, slots[index]? = some slot ∧ test slot = true := by
  rw [List.mem_findIdxs_iff_exists_getElem_pos]
  constructor
  · rintro ⟨inside, passes⟩
    exact ⟨_, List.getElem?_eq_getElem inside, passes⟩
  · rintro ⟨slot, here, passes⟩
    obtain ⟨inside, rfl⟩ := List.getElem?_eq_some_iff.mp here
    exact ⟨inside, passes⟩

end Matches

namespace TextSlots

section Places

variable {key : String} {slots : List TextSlot} {index : Nat} {found : SlotMatch}

/-- A place that is found by its number is that of a slot. -/
theorem lt_length_of_findPosition (found : findPosition key slots = some index) :
    index < slots.length := by
  rw [findPosition] at found
  split_ifs at found with empty first last second several
  all_goals
    have filled : 0 < slots.length := List.length_pos_iff.mpr fun none => empty (none ▸ rfl)
    obtain rfl := Option.some.inj found
    omega

/-- Whatever strategy finds a slot, there is one at the place that it gives. -/
theorem lt_length_of_firstMatch (matched : firstMatch key slots = some found) :
    found.index < slots.length := by
  obtain ⟨matcher, listed, search, -⟩ := exists_find_of_firstMatch matched
  simp only [matchers, List.mem_cons, List.not_mem_nil, or_false] at listed
  rcases listed with rfl | rfl | rfl | rfl | rfl
  · exact lt_length_of_findIdx? search
  · obtain ⟨classes, -, chosen⟩ := Option.bind_eq_some_iff.mp search
    obtain ⟨wanted, -, here⟩ := List.exists_of_findSome?_eq_some chosen
    exact lt_length_of_findIdx? here
  · exact lt_length_of_findIdx? search
  · obtain ⟨word, -, here⟩ := List.exists_of_findSome?_eq_some search
    exact lt_length_of_findIdx? here
  · exact lt_length_of_findPosition search

/-- A key that names no slot is matched by another strategy than the exact one. -/
theorem strategy_of_firstMatch (unnamed : findExact TextSlot.name key slots = none)
    (matched : firstMatch key slots = some found) : found.strategy ≠ .exact := by
  obtain ⟨matcher, listed, search, strategy⟩ := exists_find_of_firstMatch matched
  rw [← strategy]
  simp only [matchers, List.mem_cons, List.not_mem_nil, or_false] at listed
  rcases listed with rfl | rfl | rfl | rfl | rfl
  · cases unnamed.symm.trans search
  all_goals nofun

/-- The strategies are tried in their order. -/
theorem firstMatch_eq (filled : slots ≠ []) :
    firstMatch key slots =
      ((findExact TextSlot.name key slots).map (⟨·, .exact⟩)).or
        (((findSemantic key slots).map (⟨·, .semantic⟩)).or
          (((findSubstring TextSlot.name key slots).map (⟨·, .substring⟩)).or
            (((findAlias key slots).map (⟨·, .legacy⟩)).or
              ((findPosition key slots).map (⟨·, .positional⟩))))) := by
  have step (matcher : Matcher TextSlot) (more : List (Matcher TextSlot)) :
      (matcher :: more).findSome? (·.match? key slots) =
        (matcher.match? key slots).or (more.findSome? (·.match? key slots)) := by
    rw [List.findSome?_cons]
    cases matcher.match? key slots <;> rfl
  have nonempty : ¬slots.isEmpty = true := fun empty => filled (List.isEmpty_iff.mp empty)
  rw [firstMatch, DesignScene.firstMatch, if_neg nonempty, matchers, step, step, step, step, step,
    List.findSome?_nil, Option.or_none]
  rfl

/-- A slot with the name of the key is found before all others. -/
theorem firstMatch_of_findExact (named : findExact TextSlot.name key slots = some index) :
    firstMatch key slots = some ⟨index, .exact⟩ := by
  have filled : slots ≠ [] := by
    rintro rfl
    cases named
  rw [firstMatch_eq filled, named]
  rfl

end Places

/-- The table of words has a row for the key. -/
def IsListed (key : String) : Prop := ∃ row ∈ aliasTable, Text.normalizeKey key ∈ row.1

instance (key : String) : Decidable (IsListed key) :=
  inferInstanceAs (Decidable (∃ row ∈ aliasTable, _))

/-- Nothing of the text is compared. -/
def IsBare (text : String) : Prop :=
  ∀ character ∈ text.toList, Text.isSeparator character = true

instance (text : String) : Decidable (IsBare text) :=
  List.decidableBAll (fun character => Text.isSeparator character = true) text.toList

section Aliases

variable {key : String} {slots : List TextSlot} {found : SlotMatch}

/-- A key without a row stands for itself. -/
theorem findAlias_of_not_isListed (unlisted : ¬IsListed key) :
    findAlias key slots =
      slots.findIdx? fun slot =>
        Text.contains (Text.normalizeKey slot.name) (Text.normalizeKey key) := by
  have noRow : aliasTable.find? (fun row => row.1.contains (Text.normalizeKey key)) = none :=
    List.find?_eq_none.mpr fun row member contained =>
      unlisted ⟨row, member, List.contains_iff_mem.mp contained⟩
  rw [findAlias, aliases, rowOf, noRow, Option.map_none, Option.getD_none]
  exact List.findSome?_singleton

/-- What a key without a row finds as a word of its own is found as a part of a name before. -/
theorem findAlias_of_findSubstring_eq_none (unlisted : ¬IsListed key)
    (filled : Text.normalizeKey key ≠ "")
    (missing : findSubstring TextSlot.name key slots = none) : findAlias key slots = none := by
  rw [findAlias_of_not_isListed unlisted]
  refine List.findIdx?_eq_none_iff.mpr fun slot member => ?_
  have apart : namesOverlap (Text.normalizeKey slot.name) (Text.normalizeKey key) = false :=
    List.findIdx?_eq_none_iff.mp missing slot member
  by_contra contained
  rw [Bool.not_eq_false] at contained
  have named : Text.normalizeKey slot.name ≠ "" := by
    intro empty
    rw [empty, Text.contains_iff, String.toList_empty, List.infix_nil] at contained
    exact filled (String.toList_eq_nil_iff.mp contained)
  rw [namesOverlap, contained] at apart
  simp [filled, named] at apart

/-- The words of the table count only for a key that is no part of a name, nor has a name as a part. -/
theorem of_legacy (matched : firstMatch key slots = some found) (legacy : found.strategy = .legacy) :
    findSubstring TextSlot.name key slots = none ∧ findAlias key slots = some found.index := by
  have filled : slots ≠ [] := by
    rintro rfl
    cases matched
  rw [firstMatch_eq filled] at matched
  have other {strategy : MatchStrategy} {place : Option Nat}
      (here : place.map (⟨·, strategy⟩ : Nat → SlotMatch) = some found) :
      strategy = .legacy ∧ place = some found.index := by
    obtain ⟨index, at_, rfl⟩ := Option.map_eq_some_iff.mp here
    exact ⟨legacy, at_⟩
  rcases Option.or_eq_some_iff.mp matched with exact_ | ⟨-, matched⟩
  · cases (other exact_).1
  rcases Option.or_eq_some_iff.mp matched with semantic | ⟨-, matched⟩
  · cases (other semantic).1
  rcases Option.or_eq_some_iff.mp matched with substring | ⟨missing, matched⟩
  · cases (other substring).1
  rcases Option.or_eq_some_iff.mp matched with word | ⟨-, position⟩
  · exact ⟨Option.map_eq_none_iff.mp missing, (other word).2⟩
  · cases (other position).1

/-- A bare key is found inside no name. -/
theorem findSubstring_of_isBare (bare : IsBare key) :
    findSubstring TextSlot.name key slots = none := by
  have empty : Text.normalizeKey key = "" := Text.normalizeKey_eq_empty_iff.mpr bare
  exact List.findIdx?_eq_none_iff.mpr fun slot _ => by simp [namesOverlap, empty]

/-- A bare key stands in the name of every slot. -/
theorem findAlias_of_isBare (bare : IsBare key) (filled : slots ≠ []) :
    findAlias key slots = some 0 := by
  have empty : Text.normalizeKey key = "" := Text.normalizeKey_eq_empty_iff.mpr bare
  have unlisted : ¬IsListed key := by
    rw [IsListed, empty]
    decide
  obtain ⟨first, more, rfl⟩ := List.exists_cons_of_ne_nil filled
  have inName : Text.contains (Text.normalizeKey first.name) (Text.normalizeKey key) = true := by
    rw [Text.contains_iff, empty, String.toList_empty]
    exact List.nil_infix
  rw [findAlias_of_not_isListed unlisted, List.findIdx?_cons, if_pos inName]

/-- The first bare slot by its name, else the first slot of all by a word of the table. -/
def bareMatch (slots : List TextSlot) : Option SlotMatch :=
  ((slots.findIdx? fun slot => Text.normalizeKey slot.name == "").map (⟨·, .exact⟩)).or
    (if slots = [] then none else some ⟨0, .legacy⟩)

/-- A bare key finds a bare slot, or else the first one of all by words. -/
theorem firstMatch_of_isBare (bare : IsBare key) : firstMatch key slots = bareMatch slots := by
  by_cases filled : slots = []
  · rw [filled]
    rfl
  · have empty : Text.normalizeKey key = "" := Text.normalizeKey_eq_empty_iff.mpr bare
    have noClass : findSemantic key slots = none := by
      have noRow : rowOf semanticTable "" = none := by decide
      rw [findSemantic, empty, noRow, Option.bind_none]
    rw [firstMatch_eq filled, noClass, findSubstring_of_isBare bare,
      findAlias_of_isBare bare filled, findExact, empty, bareMatch, if_neg filled]
    rfl

/-- A bare key finds a slot by words exactly if there are slots and none of them is bare. -/
theorem exists_bareMatch_legacy_iff :
    (∃ found, bareMatch slots = some found ∧ found.strategy = .legacy) ↔
      slots ≠ [] ∧ ∀ slot ∈ slots, Text.normalizeKey slot.name ≠ "" := by
  have noBare : (slots.findIdx? fun slot => Text.normalizeKey slot.name == "") = none ↔
      ∀ slot ∈ slots, Text.normalizeKey slot.name ≠ "" := by
    simp only [List.findIdx?_eq_none_iff, beq_eq_false_iff_ne]
  rw [← noBare, bareMatch]
  cases slots.findIdx? fun slot => Text.normalizeKey slot.name == "" with
  | none => by_cases filled : slots = [] <;> simp [filled]
  | some index => simp

/-- A key that is not listed finds a slot by words exactly if it is bare: a bare slot, or else the first. -/
theorem legacy_iff_of_not_isListed (unlisted : ¬IsListed key) :
    ((∃ found, firstMatch key slots = some found ∧ found.strategy = .legacy) ↔
        IsBare key ∧ slots ≠ [] ∧ ∀ slot ∈ slots, Text.normalizeKey slot.name ≠ "") ∧
      (IsBare key → firstMatch key slots = bareMatch slots) := by
  refine ⟨?_, firstMatch_of_isBare⟩
  rw [← exists_bareMatch_legacy_iff]
  constructor
  · rintro ⟨found, matched, legacy⟩
    obtain ⟨missing, word⟩ := of_legacy matched legacy
    have bare : IsBare key := by
      by_contra filled
      rw [findAlias_of_findSubstring_eq_none unlisted
        (filled ∘ Text.normalizeKey_eq_empty_iff.mp) missing] at word
      cases word
    rw [firstMatch_of_isBare bare] at matched
    exact ⟨bare, found, matched, legacy⟩
  · rintro ⟨bare, found, matched, legacy⟩
    rw [← firstMatch_of_isBare bare] at matched
    exact ⟨found, matched, legacy⟩

/-- The keys `price` and `-` on a slot with a name and one without. -/
theorem price_finds_no_alias :
    ∃ slots : List TextSlot, slots.map TextSlot.name = ["Label", "--"] ∧
      (¬IsListed "price" ∧
        ¬∃ found, firstMatch "price" slots = some found ∧ found.strategy = .legacy) ∧
      ¬IsListed "-" ∧ firstMatch "-" slots = some ⟨1, .exact⟩ := by
  refine ⟨[⟨"Label", "1:1", .primary, none, .scalar⟩, ⟨"--", "1:2", .secondary, none, .scalar⟩],
    rfl, ⟨by decide, fun legacy => ?_⟩, by decide, ?_⟩
  · have bare : IsBare "price" := ((legacy_iff_of_not_isListed (by decide)).1.mp legacy).1
    revert bare
    decide
  · have hyphen : IsBare "-" := by decide
    rw [(legacy_iff_of_not_isListed (by decide)).2 hyphen]
    decide

/-- A hyphen as the key finds the only slot, which has a name, by the words of the table. -/
theorem hyphen_finds_label :
    ¬∀ (key : String) (slots : List TextSlot), ¬IsListed key →
      (∀ found, firstMatch key slots = some found → found.strategy ≠ .legacy) ∧
        (IsBare key → (∀ slot ∈ slots, Text.normalizeKey slot.name ≠ "") →
          firstMatch key slots = none) := by
  intro every
  have label : firstMatch "-" [⟨"Label", "1:1", .primary, none, .scalar⟩] =
      some ⟨0, .legacy⟩ := by decide
  exact (every "-" _ (by decide)).1 _ label rfl

end Aliases

end TextSlots

end DesignScene
