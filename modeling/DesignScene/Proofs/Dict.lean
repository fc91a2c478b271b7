/-
This file proves what is found in a map.
-/
import Mathlib.Data.List.Dedup
import Mathlib.Data.List.Induction
import DesignScene.Dict

namespace DesignScene.Dict

variable {α : Type}

/-- A key that is inserted is found with its new value. -/
@[simp] theorem get?_insert_self (key : String) (value : α) (dict : Dict α) :
    (dict.insert key value).get? key = some value := by
  induction dict with
  | nil => simp [insert, get?]
  | cons entry more ih =>
      obtain ⟨name, old⟩ := entry
      simp only [insert]
      split
      · simp [get?]
      · next different =>
          split
          · simp [get?]
          · simpa [get?, different] using ih

/-- An insertion changes what is found under its own key only. -/
theorem get?_insert_of_ne {key other : String} (different : key ≠ other) (value : α)
    (dict : Dict α) : (dict.insert key value).get? other = dict.get? other := by
  induction dict with
  | nil => simp [insert, get?, different]
  | cons entry more ih =>
      obtain ⟨name, old⟩ := entry
      simp only [insert]
      split
      · next same => simp [get?, same, different]
      · split
        · simp [get?, different]
        · simp [get?, ih]

/-- A search for the first entry with a name gives what is made of the value under the name. -/
theorem search_eq_elim_get? {β : Type} {name : String} {absent : β} {present : α → β}
    {search : Dict α → β} (empty : search [] = absent)
    (step : ∀ key value more, search ((key, value) :: more) =
      if key = name then present value else search more) (dict : Dict α) :
    search dict = (dict.get? name).elim absent present := by
  induction dict with
  | nil => exact empty
  | cons entry more ih =>
      obtain ⟨key, value⟩ := entry
      rw [step, get?]
      split
      · rfl
      · exact ih

section Members

variable {β : Type} {key : String} {value : α} {dict : Dict α}

theorem mem_of_get? (found : dict.get? key = some value) : (key, value) ∈ dict := by
  induction dict with
  | nil => cases found
  | cons entry more ih =>
      obtain ⟨name, old⟩ := entry
      rw [get?] at found
      split at found
      · next same =>
          cases found
          exact same ▸ List.mem_cons_self
      · exact List.mem_cons_of_mem _ (ih found)

/-- An entry after an insertion is the new one or was there before. -/
theorem mem_insert {entry : String × α} (member : entry ∈ dict.insert key value) :
    entry = (key, value) ∨ entry ∈ dict := by
  induction dict with
  | nil => exact .inl (List.mem_singleton.mp member)
  | cons first more ih =>
      obtain ⟨name, old⟩ := first
      rw [insert] at member
      split_ifs at member with same before
      · rcases List.mem_cons.mp member with fresh | later
        · exact .inl fresh
        · exact .inr (List.mem_cons_of_mem _ later)
      · exact List.mem_cons.mp member
      · rcases List.mem_cons.mp member with rfl | later
        · exact .inr List.mem_cons_self
        · exact (ih later).imp_right (List.mem_cons_of_mem _)

/-- An insertion keeps the keys strictly increasing. -/
theorem Sorted.insert (sorted : dict.Sorted) (key : String) (value : α) :
    Sorted (dict.insert key value) := by
  induction dict with
  | nil => exact List.pairwise_singleton _ _
  | cons first more ih =>
      obtain ⟨name, old⟩ := first
      obtain ⟨below, rest⟩ := List.pairwise_cons.mp sorted
      rw [Dict.insert]
      split_ifs with same before
      · exact List.pairwise_cons.mpr ⟨same ▸ below, rest⟩
      · refine List.pairwise_cons.mpr ⟨fun other later => ?_, sorted⟩
        rcases List.mem_cons.mp later with rfl | later
        · exact before
        · exact String.lt_trans before (below other later)
      · refine List.pairwise_cons.mpr ⟨fun other later => ?_, ih rest⟩
        obtain ⟨entry, member, rfl⟩ := List.mem_map.mp later
        rcases mem_insert member with rfl | old
        · exact String.not_le.mp fun above =>
            same (String.le_antisymm (String.not_lt.mp before) above)
        · exact below _ (List.mem_map_of_mem old)

theorem ofList_append_singleton (pairs : List (String × α)) (pair : String × α) :
    ofList (pairs ++ [pair]) = (ofList pairs).insert pair.1 pair.2 := by
  simp [ofList]

/-- A dictionary that is made of pairs is sorted. -/
theorem sorted_ofList (pairs : List (String × α)) : (ofList pairs).Sorted := by
  induction pairs using List.reverseRecOn with
  | nil => exact .nil
  | append_singleton pairs pair ih =>
      rw [ofList_append_singleton]
      exact ih.insert pair.1 pair.2

/-- Every entry comes from one of the pairs. -/
theorem mem_of_mem_ofList {pairs : List (String × α)} {entry : String × α}
    (member : entry ∈ ofList pairs) : entry ∈ pairs := by
  induction pairs using List.reverseRecOn with
  | nil => cases member
  | append_singleton pairs pair ih =>
      rw [ofList_append_singleton] at member
      rcases mem_insert member with rfl | earlier
      · exact List.mem_append_right _ List.mem_cons_self
      · exact List.mem_append_left _ (ih earlier)

/-- Something is found under every key of the list, though a later pair may have replaced it. -/
theorem exists_get?_ofList {pairs : List (String × α)} (member : (key, value) ∈ pairs) :
    ∃ last, (ofList pairs).get? key = some last := by
  induction pairs using List.reverseRecOn with
  | nil => cases member
  | append_singleton pairs pair ih =>
      rw [ofList_append_singleton]
      by_cases same : pair.1 = key
      · exact ⟨pair.2, by rw [same, get?_insert_self]⟩
      · rw [get?_insert_of_ne same]
        rcases List.mem_append.mp member with earlier | last
        · exact ih earlier
        · cases List.mem_singleton.mp last
          exact absurd rfl same

/-- The keys are those of the pairs. -/
theorem mem_keys_ofList_iff {pairs : List (String × α)} :
    key ∈ (ofList pairs).keys ↔ key ∈ pairs.map Prod.fst := by
  constructor
  · intro listed
    obtain ⟨entry, member, same⟩ := List.mem_map.mp listed
    exact List.mem_map.mpr ⟨entry, mem_of_mem_ofList member, same⟩
  · intro given
    obtain ⟨entry, member, rfl⟩ := List.mem_map.mp given
    obtain ⟨last, found⟩ := exists_get?_ofList member
    exact List.mem_map.mpr ⟨(entry.1, last), mem_of_get? found, rfl⟩

theorem Sorted.nodup_keys (sorted : dict.Sorted) : dict.keys.Nodup := by
  refine List.Pairwise.imp ?_ sorted
  intro first second before same
  exact String.lt_irrefl second (same ▸ before)

/-- There is one entry for each of the different keys. -/
theorem length_ofList (pairs : List (String × α)) :
    (ofList pairs).length = (pairs.map Prod.fst).dedup.length := by
  have permuted : (ofList pairs).keys.Perm (pairs.map Prod.fst).dedup := by
    refine (List.perm_ext_iff_of_nodup (sorted_ofList pairs).nodup_keys (List.nodup_dedup _)).mpr ?_
    exact fun name => mem_keys_ofList_iff.trans List.mem_dedup.symm
  rw [← permuted.length_eq, keys, List.length_map]

/-- In a sorted dictionary an entry is what is found under its key. -/
theorem get?_eq_some_iff (sorted : dict.Sorted) :
    dict.get? key = some value ↔ (key, value) ∈ dict := by
  refine ⟨mem_of_get?, fun member => ?_⟩
  induction dict with
  | nil => cases member
  | cons first more ih =>
      obtain ⟨name, old⟩ := first
      obtain ⟨below, rest⟩ := List.pairwise_cons.mp sorted
      rw [get?]
      rcases List.mem_cons.mp member with same | later
      · cases same
        exact if_pos rfl
      · have above : name < key := below key (List.mem_map_of_mem (f := Prod.fst) later)
        have different : name ≠ key := fun same => String.lt_irrefl key (same ▸ above)
        rw [if_neg different]
        exact ih rest later

/-- A key that is greater than all others stands at the end. -/
theorem insert_of_forall_lt (above : ∀ name ∈ dict.keys, name < key) :
    dict.insert key value = dict ++ [(key, value)] := by
  induction dict with
  | nil => rfl
  | cons first more ih =>
      obtain ⟨name, old⟩ := first
      have before : name < key := above name List.mem_cons_self
      have rest : ∀ other ∈ keys more, other < key := fun other later =>
        above other (List.mem_cons_of_mem _ later)
      have different : name ≠ key := fun same => String.lt_irrefl key (same ▸ before)
      rw [insert, if_neg different, if_neg (String.lt_asymm before), ih rest, List.cons_append]

/-- Pairs with strictly increasing keys are a map already. -/
theorem ofList_of_sorted (sorted : dict.Sorted) : ofList dict = dict := by
  induction dict using List.reverseRecOn with
  | nil => rfl
  | append_singleton pairs pair ih =>
      rw [Sorted, keys, List.map_append, List.pairwise_append] at sorted
      obtain ⟨earlier, -, before⟩ := sorted
      have above : ∀ name ∈ keys pairs, name < pair.1 := fun name member =>
        before name member pair.1 List.mem_cons_self
      rw [ofList_append_singleton, ih earlier, insert_of_forall_lt above]

theorem Sorted.overlay {later : Dict α} (sorted : dict.Sorted) :
    Sorted (dict.overlay later) := by
  rw [Dict.overlay]
  induction later generalizing dict with
  | nil => exact sorted
  | cons pair more ih => exact ih (sorted.insert pair.1 pair.2)

/-- No later entry has the key of the first one. -/
theorem get?_of_sorted_cons {name : String} {more : Dict α}
    (sorted : Sorted ((name, value) :: more)) : more.get? name = none := by
  cases found : get? name more with
  | none => rfl
  | some other =>
      have above := (List.pairwise_cons.mp sorted).1 name
        (List.mem_map_of_mem (f := Prod.fst) (mem_of_get? found))
      exact absurd above (String.lt_irrefl name)

/-- An entry of an overlay comes from one of the two dictionaries. -/
theorem mem_of_mem_overlay {later : Dict α} {entry : String × α}
    (member : entry ∈ dict.overlay later) : entry ∈ later ∨ entry ∈ dict := by
  induction later generalizing dict with
  | nil => exact .inr member
  | cons pair more ih =>
      have step : dict.overlay (pair :: more) = (dict.insert pair.1 pair.2).overlay more := rfl
      rw [step] at member
      rcases ih member with above | below
      · exact .inl (List.mem_cons_of_mem _ above)
      · rcases mem_insert below with rfl | old
        · exact .inl List.mem_cons_self
        · exact .inr old

/-- What is laid over the map counts first. -/
theorem get?_overlay {later : Dict α} (sorted : later.Sorted) (dict : Dict α) (key : String) :
    (dict.overlay later).get? key = (later.get? key).or (dict.get? key) := by
  induction later generalizing dict with
  | nil => rfl
  | cons pair more ih =>
      obtain ⟨name, value⟩ := pair
      obtain ⟨-, rest⟩ := List.pairwise_cons.mp sorted
      have step : dict.overlay ((name, value) :: more) =
          (dict.insert name value).overlay more := rfl
      rw [step, ih rest, get?]
      by_cases same : name = key
      · subst same
        rw [get?_of_sorted_cons sorted, get?_insert_self, if_pos rfl, Option.none_or,
          Option.some_or]
      · rw [get?_insert_of_ne same, if_neg same]

/-- An entry comes from what is laid over the map, or from the map where no other has its key. -/
theorem mem_overlay_iff {later : Dict α} (sorted : dict.Sorted) (laterSorted : later.Sorted)
    {entry : String × α} :
    entry ∈ dict.overlay later ↔
      entry ∈ later ∨ later.get? entry.1 = none ∧ entry ∈ dict := by
  obtain ⟨key, value⟩ := entry
  rw [← get?_eq_some_iff sorted.overlay, get?_overlay laterSorted, Option.or_eq_some_iff,
    get?_eq_some_iff laterSorted, get?_eq_some_iff sorted]

/-- The last pair with a key is the one that is found. -/
theorem get?_ofList (pairs : List (String × α)) (key : String) :
    (ofList pairs).get? key = (pairs.filter (·.1 = key)).getLast?.map Prod.snd := by
  induction pairs using List.reverseRecOn with
  | nil => rfl
  | append_singleton pairs pair ih =>
      rw [ofList_append_singleton, List.filter_append]
      by_cases same : pair.1 = key
      · rw [List.filter_cons_of_pos (by simpa), List.filter_nil, List.getLast?_concat, same,
          get?_insert_self, Option.map_some]
      · rw [List.filter_cons_of_neg (by simpa), List.filter_nil, List.append_nil,
          get?_insert_of_ne same, ih]

/-- A change of the values may come before or after an insertion. -/
theorem insert_map (change : String → α → β) (key : String) (value : α) (dict : Dict α) :
    Dict.insert key (change key value) (dict.map fun entry => (entry.1, change entry.1 entry.2)) =
      (dict.insert key value).map fun entry => (entry.1, change entry.1 entry.2) := by
  induction dict with
  | nil => rfl
  | cons first more ih =>
      obtain ⟨name, old⟩ := first
      simp only [insert, List.map_cons]
      split_ifs
      · rfl
      · rfl
      · rw [ih, List.map_cons]

/-- A change of values that depends on the keys may come before or after the pairs are put together. -/
theorem ofList_map (change : String → α → β) (pairs : List (String × α)) :
    ofList (pairs.map fun entry => (entry.1, change entry.1 entry.2)) =
      (ofList pairs).map fun entry => (entry.1, change entry.1 entry.2) := by
  induction pairs using List.reverseRecOn with
  | nil => rfl
  | append_singleton pairs pair ih =>
      rw [List.map_append, List.map_singleton, ofList_append_singleton, ofList_append_singleton, ih,
        insert_map change]

/-- Of two insertions under one key the later one counts. -/
theorem insert_insert (key : String) (old new : α) (dict : Dict α) :
    (dict.insert key old).insert key new = dict.insert key new := by
  induction dict with
  | nil => simp [insert]
  | cons first more ih =>
      obtain ⟨name, value⟩ := first
      simp only [insert]
      split_ifs with same before
      · simp [insert]
      · simp [insert]
      · rw [insert, if_neg same, if_neg before, ih]

/-- The value under a key that is present stands at one place, where an insertion replaces it. -/
theorem insert_of_get? {old : α} (sorted : dict.Sorted) (found : dict.get? key = some old) :
    ∃ front back, dict = front ++ (key, old) :: back ∧
      ∀ value, dict.insert key value = front ++ (key, value) :: back := by
  induction dict with
  | nil => cases found
  | cons first more ih =>
      obtain ⟨name, other⟩ := first
      obtain ⟨below, rest⟩ := List.pairwise_cons.mp sorted
      rw [get?] at found
      split at found
      · next same =>
          cases found
          subst same
          exact ⟨[], more, rfl, fun value => if_pos rfl⟩
      · next different =>
          have before : name < key :=
            below key (List.mem_map_of_mem (f := Prod.fst) (mem_of_get? found))
          obtain ⟨front, back, split, inserted⟩ := ih rest found
          refine ⟨(name, other) :: front, back, congrArg _ split, fun value => ?_⟩
          rw [insert, if_neg different, if_neg (String.lt_asymm before), inserted]
          rfl

/-- Insertions under two keys may change places. -/
theorem insert_comm {other : String} (different : key ≠ other) (value second : α)
    (dict : Dict α) : (dict.insert other second).insert key value =
      (dict.insert key value).insert other second := by
  induction dict with
  | nil => grind [insert]
  | cons first more ih =>
      obtain ⟨name, old⟩ := first
      grind [insert]

/-- An insertion under a key that is dropped is not seen among the others. -/
theorem filter_insert_of_dropped (keep : String → Bool) (dropped : keep key = false) (value : α)
    (dict : Dict α) : (dict.insert key value).filter (keep ·.1) = dict.filter (keep ·.1) := by
  induction dict with
  | nil => simp [insert, dropped]
  | cons first more ih =>
      obtain ⟨name, old⟩ := first
      rw [insert]
      split_ifs with same before
      · simp [same, dropped]
      · simp [dropped]
      · rw [List.filter_cons, List.filter_cons, ih]

/-- What is found under a key that is kept is the same among fewer entries. -/
theorem get?_filter_key (keep : String → Bool) (name : String) (dict : Dict α) :
    get? name (dict.filter (keep ·.1)) = if keep name then dict.get? name else none := by
  induction dict with
  | nil => simp [get?]
  | cons first more ih =>
      obtain ⟨key, value⟩ := first
      by_cases same : key = name
      · subst same
        cases kept : keep key with
        | true => simp [kept, get?]
        | false =>
            rw [List.filter_cons_of_neg (by simp [kept]), ih, kept]
            rfl
      · cases kept : keep key with
        | true => simp [kept, get?, same, ih]
        | false => simp [kept, get?, same, ih]

/-- An insertion under a key that is left out changes nothing. -/
theorem filter_insert {names : List String} (member : key ∈ names) (value : α)
    (dict : Dict α) : (dict.insert key value).filter (·.1 ∉ names) =
      dict.filter (·.1 ∉ names) := by
  have dropped : decide (key ∉ names) = false := by simpa using member
  exact filter_insert_of_dropped (fun name => decide (name ∉ names)) dropped value dict

/-- A key that is not left out is found as before. -/
theorem get?_filter {name : String} {names : List String} (apart : name ∉ names)
    (dict : Dict α) : get? name (dict.filter (·.1 ∉ names)) = dict.get? name := by
  rw [get?_filter_key fun name => decide (name ∉ names), if_pos (decide_eq_true apart)]

/-- Nothing is found under a key that was filtered out. -/
theorem get?_filter_of_mem {name : String} {names : List String} (member : name ∈ names)
    (dict : Dict α) : get? name (dict.filter (·.1 ∉ names)) = none := by
  rw [get?_filter_key fun name => decide (name ∉ names), if_neg (by simpa using member)]

theorem erase_sublist (key : String) (dict : Dict α) : (dict.erase key).Sublist dict := by
  induction dict with
  | nil => exact .slnil
  | cons first more ih =>
      rw [erase]
      split
      · exact List.sublist_cons_self _ _
      · exact ih.cons_cons first

theorem Sorted.erase (sorted : dict.Sorted) (key : String) : Sorted (dict.erase key) :=
  sorted.sublist ((erase_sublist key dict).map Prod.fst)

/-- No other entry has the key that is erased. -/
theorem Sorted.ne_of_mem_erase (sorted : dict.Sorted) {entry : String × α}
    (member : entry ∈ dict.erase key) : entry.1 ≠ key := by
  induction dict with
  | nil => cases member
  | cons first more ih =>
      obtain ⟨name, old⟩ := first
      obtain ⟨below, rest⟩ := List.pairwise_cons.mp sorted
      rw [Dict.erase] at member
      split at member
      · next same =>
          have above : name < entry.1 := below entry.1 (List.mem_map_of_mem member)
          exact fun other => String.lt_irrefl key (by rwa [same, other] at above)
      · next different =>
          rcases List.mem_cons.mp member with rfl | later
          · exact different
          · exact ih rest later

/-- An insertion under the only key of a map leaves one entry. -/
theorem insert_eq_singleton (sorted : dict.Sorted) (only : ∀ entry ∈ dict, entry.1 = key) :
    dict.insert key value = [(key, value)] := by
  match dict with
  | [] => rfl
  | [(name, old)] =>
      have same : name = key := only (name, old) List.mem_cons_self
      rw [insert, if_pos same]
  | (name, old) :: (next, other) :: more =>
      have first : name = key := only (name, old) List.mem_cons_self
      have second : next = key := only (next, other) (List.mem_cons_of_mem _ List.mem_cons_self)
      obtain ⟨below, -⟩ := List.pairwise_cons.mp sorted
      have before : name < next := below next List.mem_cons_self
      rw [first, second] at before
      exact absurd before (String.lt_irrefl key)

/-- If something comes of one entry only, nothing else comes of the map. -/
theorem filterMap_eq_singleton {choose : String × α → Option β} {result : β}
    (sorted : dict.Sorted) (found : dict.get? key = some value)
    (here : choose (key, value) = some result)
    (only : ∀ entry ∈ dict, entry.1 ≠ key → choose entry = none) :
    dict.filterMap choose = [result] := by
  induction dict with
  | nil => cases found
  | cons first more ih =>
      obtain ⟨name, old⟩ := first
      obtain ⟨below, rest⟩ := List.pairwise_cons.mp sorted
      have others : ∀ entry ∈ more, entry.1 ≠ key → choose entry = none := fun entry later =>
        only entry (List.mem_cons_of_mem _ later)
      rw [get?] at found
      split at found
      · next same =>
          cases found
          subst same
          have nothing : List.filterMap choose more = [] :=
            List.filterMap_eq_nil_iff.mpr fun entry later => others entry later fun sameKey => by
              have above := below entry.1 (List.mem_map_of_mem later)
              rw [sameKey] at above
              exact String.lt_irrefl name above
          rw [List.filterMap_cons_some here, nothing]
      · next different =>
          rw [List.filterMap_cons_none (only (name, old) List.mem_cons_self different)]
          exact ih rest found others

theorem mem_keys_of_get? (found : dict.get? key = some value) : key ∈ dict.keys :=
  List.mem_map_of_mem (mem_of_get? found)

theorem get?_eq_none_of_not_mem_keys (absent : key ∉ dict.keys) : dict.get? key = none := by
  cases found : dict.get? key with
  | none => rfl
  | some value => exact absurd (mem_keys_of_get? found) absent

/-- A map has every one of its keys. -/
theorem hasKey_of_mem_keys (member : key ∈ dict.keys) : dict.hasKey key = true := by
  induction dict with
  | nil => cases member
  | cons first more ih =>
      obtain ⟨name, old⟩ := first
      rw [hasKey, get?]
      split
      · rfl
      · next different =>
          rcases List.mem_cons.mp member with same | later
          · exact absurd same.symm different
          · exact ih later

/-- Sorted maps in which the same is found are equal. -/
theorem eq_of_get?_eq {first second : Dict α} (firstSorted : first.Sorted)
    (secondSorted : second.Sorted) (same : ∀ key, first.get? key = second.get? key) :
    first = second := by
  have entries (entry : String × α) : entry ∈ first ↔ entry ∈ second := by
    rw [← get?_eq_some_iff firstSorted, same, get?_eq_some_iff secondSorted]
  have distinct {dict : Dict α} (sorted : dict.Sorted) : dict.Nodup :=
    sorted.nodup_keys.of_map
  have permuted : first.Perm second :=
    (List.perm_ext_iff_of_nodup (distinct firstSorted) (distinct secondSorted)).mpr entries
  refine permuted.eq_of_pairwise ?_ (List.pairwise_map.mp firstSorted)
    (List.pairwise_map.mp secondSorted)
  intro left right _ _ before after
  exact absurd before (String.lt_asymm after)

theorem Sorted.filter (sorted : dict.Sorted) (keep : String × α → Bool) :
    Sorted (dict.filter keep) :=
  sorted.sublist (List.filter_sublist.map Prod.fst)

/-- All entries of a map with greater keys come after the key. -/
theorem filter_of_forall_lt (above : ∀ entry ∈ dict, key < entry.1) :
    dict.filter (·.1 < key) = [] ∧ dict.filter (key < ·.1) = dict := by
  constructor
  · refine List.filter_eq_nil_iff.mpr fun entry member less => ?_
    exact String.lt_asymm (above entry member) (of_decide_eq_true less)
  · exact List.filter_eq_self.mpr fun entry member => decide_eq_true (above entry member)

/-- Around the key of its first entry, a sorted map is split into nothing and the rest. -/
theorem filter_around_first (value : α) (above : ∀ entry ∈ dict, key < entry.1) :
    List.filter (·.1 < key) ((key, value) :: dict) = [] ∧
      List.filter (key < ·.1) ((key, value) :: dict) = dict := by
  have apart (less : decide (key < key) = true) : False :=
    String.lt_irrefl _ (of_decide_eq_true less)
  obtain ⟨none_less, all_greater⟩ := filter_of_forall_lt above
  constructor
  · refine Eq.trans ?_ none_less
    exact List.filter_cons_of_neg apart
  · refine Eq.trans ?_ all_greater
    exact List.filter_cons_of_neg apart

/-- An entry with a lesser key stays first of those before a key. -/
theorem filter_cons_of_lt {name : String} (old : α) (dict : Dict α) (before : name < key) :
    List.filter (·.1 < key) ((name, old) :: dict) = (name, old) :: dict.filter (·.1 < key) ∧
      List.filter (key < ·.1) ((name, old) :: dict) = dict.filter (key < ·.1) :=
  ⟨List.filter_cons_of_pos (decide_eq_true before),
    List.filter_cons_of_neg fun less => String.lt_asymm before (of_decide_eq_true less)⟩

/-- An inserted entry stands between those with lesser keys and those with greater ones. -/
theorem insert_eq_append (sorted : dict.Sorted) (key : String) (value : α) :
    dict.insert key value =
      dict.filter (·.1 < key) ++ (key, value) :: dict.filter (key < ·.1) := by
  induction dict with
  | nil => rfl
  | cons first more ih =>
      obtain ⟨name, old⟩ := first
      obtain ⟨below, rest⟩ := List.pairwise_cons.mp sorted
      have above (entry : String × α) (later : entry ∈ more) : name < entry.1 :=
        below entry.1 (List.mem_map_of_mem later)
      rw [insert]
      split_ifs with same before
      · subst same
        obtain ⟨lesser, greater⟩ := filter_around_first old above
        rw [lesser, greater, List.nil_append]
      · have beyond : ∀ entry ∈ (name, old) :: more, key < entry.1 := List.forall_mem_cons.mpr
          ⟨before, fun entry later => String.lt_trans before (above entry later)⟩
        obtain ⟨lesser, greater⟩ := filter_of_forall_lt beyond
        rw [lesser, greater, List.nil_append]
      · have less : name < key := String.not_le.mp fun reached =>
          same (String.le_antisymm (String.not_lt.mp before) reached)
        obtain ⟨lesser, greater⟩ := filter_cons_of_lt old more less
        rw [lesser, greater, List.cons_append, ← ih rest]

/-- A sorted map is split at a key. -/
theorem eq_append_of_sorted (sorted : dict.Sorted) (key : String) :
    dict = dict.filter (·.1 < key) ++
      (((dict.get? key).map fun value => (key, value)).toList ++ dict.filter (key < ·.1)) := by
  induction dict with
  | nil => rfl
  | cons first more ih =>
      obtain ⟨name, old⟩ := first
      obtain ⟨below, rest⟩ := List.pairwise_cons.mp sorted
      have above (entry : String × α) (later : entry ∈ more) : name < entry.1 :=
        below entry.1 (List.mem_map_of_mem later)
      rw [get?]
      split_ifs with same
      · subst same
        obtain ⟨lesser, greater⟩ := filter_around_first old above
        rw [lesser, greater]
        rfl
      · by_cases before : key < name
        · have beyond : ∀ entry ∈ (name, old) :: more, key < entry.1 := List.forall_mem_cons.mpr
            ⟨before, fun entry later => String.lt_trans before (above entry later)⟩
          have absent : get? key more = none := by
            cases found : get? key more with
            | none => rfl
            | some value =>
                have member := List.mem_cons_of_mem (name, old) (mem_of_get? found)
                exact absurd (beyond _ member) (String.lt_irrefl _)
          obtain ⟨lesser, greater⟩ := filter_of_forall_lt beyond
          rw [lesser, greater, absent]
          rfl
        · have less : name < key := String.not_le.mp fun reached =>
            same (String.le_antisymm (String.not_lt.mp before) reached)
          obtain ⟨lesser, greater⟩ := filter_cons_of_lt old more less
          rw [lesser, greater, List.cons_append, ← ih rest]

theorem exists_getLast?_of_mem {list : List β} {element : β} (member : element ∈ list) :
    ∃ last, list.getLast? = some last :=
  Option.isSome_iff_exists.mp (List.getLast?_isSome.mpr (List.ne_nil_of_mem member))

/-- A pair is of no account where a later one has its key. -/
theorem ofList_append_cons_of_mem {front back : List (String × α)} {pair : String × α}
    (later : ∃ other ∈ back, other.1 = pair.1) :
    ofList (front ++ pair :: back) = ofList (front ++ back) := by
  apply eq_of_get?_eq (sorted_ofList _) (sorted_ofList _)
  intro name
  rw [get?_ofList, get?_ofList, List.filter_append, List.filter_append]
  by_cases same : pair.1 = name
  · obtain ⟨other, member, equal⟩ := later
    have present : other ∈ back.filter (·.1 = name) :=
      List.mem_filter.mpr ⟨member, by simpa [equal] using same⟩
    obtain ⟨last, found⟩ := exists_getLast?_of_mem present
    rw [List.filter_cons_of_pos (by simpa using same), List.getLast?_append, List.getLast?_append,
      List.getLast?_cons, found]
    rfl
  · rw [List.filter_cons_of_neg (by simpa using same)]

/-- A pair counts where no later one has its key. -/
theorem ofList_append_cons_of_ne {front back : List (String × α)} {pair : String × α}
    (last : ∀ other ∈ back, other.1 ≠ pair.1) :
    ofList (front ++ pair :: back) = (ofList (front ++ back)).insert pair.1 pair.2 := by
  induction back using List.reverseRecOn with
  | nil => rw [List.append_nil, ofList_append_singleton]
  | append_singleton back other ih =>
      have apart : other.1 ≠ pair.1 := last other (by simp)
      have earlier := ih fun given member => last given (List.mem_append_left _ member)
      rw [← List.cons_append, ← List.append_assoc, ofList_append_singleton, earlier,
        ← List.append_assoc, ofList_append_singleton, insert_comm apart]

/-- The last result of a map is that of an entry after a key, of the key, or of an entry before. -/
theorem getLast?_filterMap (sorted : dict.Sorted) (key : String) (choose : String × α → Option β) :
    (dict.filterMap choose).getLast? =
      ((dict.filter (key < ·.1)).filterMap choose).getLast?.or
        (((dict.get? key).bind fun value => choose (key, value)).or
          ((dict.filter (·.1 < key)).filterMap choose).getLast?) := by
  have middle : (((dict.get? key).map fun value => (key, value)).toList.filterMap
      choose).getLast? = (dict.get? key).bind fun value => choose (key, value) := by
    cases dict.get? key with
    | none => rfl
    | some value => cases found : choose (key, value) <;> simp [found]
  conv_lhs => rw [eq_append_of_sorted sorted key]
  rw [List.filterMap_append, List.filterMap_append, List.getLast?_append, List.getLast?_append,
    middle, Option.or_assoc]

/-- Pairs may be chosen by their keys before or after they are put together. -/
theorem ofList_filter (keep : String → Bool) (pairs : List (String × α)) :
    ofList (pairs.filter (keep ·.1)) = (ofList pairs).filter (keep ·.1) := by
  apply eq_of_get?_eq (sorted_ofList _) ((sorted_ofList _).filter _)
  intro name
  rw [get?_filter_key, get?_ofList, get?_ofList, List.filter_filter]
  split_ifs with kept
  · have same : pairs.filter (fun pair => decide (pair.1 = name) && keep pair.1) =
        pairs.filter (·.1 = name) := by
      refine List.filter_congr fun pair _ => ?_
      by_cases equal : pair.1 = name
      · simp [equal, kept]
      · simp [equal]
    rw [same]
  · have nothing : pairs.filter (fun pair => decide (pair.1 = name) && keep pair.1) = [] := by
      refine List.filter_eq_nil_iff.mpr fun pair _ both => ?_
      obtain ⟨equal, keeps⟩ := Bool.and_eq_true_iff.mp both
      exact kept (of_decide_eq_true equal ▸ keeps)
    rw [nothing]
    rfl

/-- In a list in order every element comes before the last one. -/
theorem eq_or_rel_of_getLast? {rel : β → β → Prop} {list : List β} {last element : β}
    (ordered : list.Pairwise rel) (found : list.getLast? = some last) (member : element ∈ list) :
    element = last ∨ rel element last := by
  obtain ⟨earlier, split⟩ := List.getLast?_eq_some_iff.mp found
  rw [split] at ordered member
  rcases List.mem_append.mp member with before | same
  · exact .inr ((List.pairwise_append.mp ordered).2.2 _ before _ List.mem_cons_self)
  · exact .inl (List.mem_singleton.mp same)

end Members

end DesignScene.Dict
