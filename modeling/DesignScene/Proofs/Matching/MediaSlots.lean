/-
This file says which media slots stand in which buckets. The buckets are filled slot by slot, and every slot
that is found for a key is one of them.
-/
import DesignScene.Matching.MediaSlots
import DesignScene.Proofs.Matching.TextSlots

namespace DesignScene.MediaSlots

section Filling

/-- The place is put at the end of a bucket if a slot belongs there. -/
def noteIf (belongs : Bool) (place : Nat) (places : List Nat) : List Nat :=
  if belongs then places ++ [place] else places

/-- The name says something about the content of the slot. -/
def Traits.isCategorized (traits : Traits) : Bool :=
  traits.isAvatar || traits.isNamedIcon || traits.isBadge || traits.isLogo

namespace Buckets

def empty : Buckets := ⟨[], [], [], [], [], [], [], [], [], []⟩

/-- One name may have words for several buckets. -/
def addNamed (place : Nat) (traits : Traits) (buckets : Buckets) : Buckets :=
  { buckets with
    avatars := noteIf traits.isAvatar place buckets.avatars
    circles := noteIf traits.isAvatar place buckets.circles
    icons := noteIf traits.isNamedIcon place buckets.icons
    badges := noteIf traits.isBadge place buckets.badges
    logos := noteIf traits.isLogo place buckets.logos }

/-- What the kind adds to the buckets, unless the name has put the place there already. -/
def addKind (place : Nat) (traits : Traits) (buckets : Buckets) : Buckets :=
  match traits.kind with
  | .vector =>
      { buckets with
        vectors := buckets.vectors ++ [place]
        icons := noteIf (traits.name.length < 10 && !buckets.icons.contains place) place
          buckets.icons }
  | .image =>
      let isRound := Text.containsAny traits.name ["circle", "round"]
      { buckets with
        images := buckets.images ++ [place]
        smallImages := noteIf (Text.containsAny traits.name ["small", "thumb", "mini"]) place
          buckets.smallImages
        largeImages := noteIf (Text.containsAny traits.name ["large", "cover", "hero", "banner"]) place
          buckets.largeImages
        circles := noteIf (isRound && !buckets.circles.contains place) place buckets.circles
        rectangles := noteIf (!isRound) place buckets.rectangles }
  | .componentInstance =>
      { buckets with images := noteIf (!traits.isCategorized) place buckets.images }

/-- One turn of the loop over the slots. -/
def add (buckets : Buckets) (placed : MediaSlot × Nat) : Buckets :=
  (buckets.addNamed placed.2 (Traits.ofSlot placed.1)).addKind placed.2 (Traits.ofSlot placed.1)

/-- The buckets after a loop over the slots in their order. -/
def fill (slots : List MediaSlot) : Buckets := slots.zipIdx.foldl add empty

end Buckets

variable {place : Nat} {places : List Nat}

@[simp] theorem noteIf_true : noteIf true place places = places ++ [place] := rfl

@[simp] theorem noteIf_false : noteIf false place places = places := rfl

/-- A place that is noted already is not noted again. -/
theorem noteIf_of_contains (here : place ∈ places) (belongs : Bool) :
    noteIf (belongs && !places.contains place) place places = places := by
  rw [List.contains_iff_mem.mpr here, Bool.not_true, Bool.and_false]
  rfl

/-- A place that is noted for two reasons is noted once. -/
theorem noteIf_noteIf (fresh : place ∉ places) (first second : Bool) :
    noteIf (second && !(noteIf first place places).contains place) place
        (noteIf first place places) = noteIf (first || second) place places := by
  cases first with
  | true => exact noteIf_of_contains (List.mem_append_right _ List.mem_cons_self) second
  | false =>
      have absent : places.contains place = false :=
        Bool.eq_false_iff.mpr (fresh ∘ List.contains_iff_mem.mp)
      simp only [noteIf, Bool.false_eq_true, if_false, absent, Bool.not_false, Bool.and_true,
        Bool.false_or]

/-- The places with a trait are the indices that the library finds. -/
theorem placesWhere_eq_findIdxs (holds : Traits → Bool) (slots : List MediaSlot) :
    placesWhere holds slots = slots.findIdxs fun slot => holds (Traits.ofSlot slot) :=
  map_snd_filter_zipIdx (fun slot => holds (Traits.ofSlot slot)) slots

/-- A place is listed exactly if a slot with the trait stands there. -/
theorem mem_placesWhere_iff {holds : Traits → Bool} {slots : List MediaSlot} :
    place ∈ placesWhere holds slots ↔
      ∃ slot, slots[place]? = some slot ∧ holds (Traits.ofSlot slot) = true := by
  rw [placesWhere_eq_findIdxs, mem_findIdxs_iff]

/-- A further slot adds its place if it has the trait. -/
theorem placesWhere_append_singleton (holds : Traits → Bool) (slots : List MediaSlot)
    (slot : MediaSlot) :
    placesWhere holds (slots ++ [slot]) =
      noteIf (holds (Traits.ofSlot slot)) slots.length (placesWhere holds slots) := by
  rw [placesWhere_eq_findIdxs, placesWhere_eq_findIdxs, List.findIdxs_append,
    List.findIdxs_singleton, Nat.zero_add, noteIf]
  split_ifs
  · rfl
  · exact List.append_nil _

/-- A turn of the loop makes the buckets of some slots those of one slot more. -/
theorem add_classify (slots : List MediaSlot) (slot : MediaSlot) :
    (classify slots).add (slot, slots.length) = classify (slots ++ [slot]) := by
  have fresh (holds : Traits → Bool) : slots.length ∉ placesWhere holds slots := by
    intro listed
    obtain ⟨slot, beyond, -⟩ := mem_placesWhere_iff.mp listed
    exact absurd (List.getElem?_eq_some_iff.mp beyond).1 (Nat.lt_irrefl _)
  simp only [Buckets.add, classify, placesWhere_append_singleton]
  generalize Traits.ofSlot slot = traits
  obtain ⟨name, kind⟩ := traits
  cases kind with
  | vector | image =>
      simp only [Buckets.addNamed, Buckets.addKind, noteIf_noteIf (fresh _)]
      simp [Traits.isVector, Traits.isIcon, Traits.isImage, Traits.isSmallImage,
        Traits.isLargeImage, Traits.isRoundImage, Traits.isCircle, Traits.isRectangle,
        beq_eq_decide]
  | componentInstance =>
      simp only [Buckets.addNamed, Buckets.addKind]
      simp [Traits.isCategorized, Traits.isVector, Traits.isIcon, Traits.isImage,
        Traits.isSmallImage, Traits.isLargeImage, Traits.isRoundImage, Traits.isCircle,
        Traits.isRectangle, beq_eq_decide]

/-- Filling the buckets slot by slot is classifying all slots. -/
theorem fill_eq_classify (slots : List MediaSlot) : Buckets.fill slots = classify slots := by
  induction slots using List.reverseRecOn with
  | nil => rfl
  | append_singleton slots slot ih =>
      rw [← add_classify, ← ih, Buckets.fill, Buckets.fill, List.zipIdx_append, List.foldl_append,
        Nat.zero_add]
      rfl

end Filling

section Buckets

def Buckets.toList (buckets : Buckets) : List (List Nat) :=
  [buckets.avatars, buckets.icons, buckets.badges, buckets.logos, buckets.vectors, buckets.images,
    buckets.smallImages, buckets.largeImages, buckets.circles, buckets.rectangles]

/-- These are places of slots, each of them once and in the order of the slots. -/
structure ArePlaces (slots : List MediaSlot) (places : List Nat) : Prop where
  increasing : places.Pairwise (· < ·)
  inside : ∀ place ∈ places, place < slots.length

/-- The buckets hold all slots and nothing else, each drawing one where its kind says. -/
structure Sorts (slots : List MediaSlot) (buckets : Buckets) : Prop where
  places : ∀ bucket ∈ buckets.toList, ArePlaces slots bucket
  covers : ∀ place < slots.length, ∃ bucket ∈ buckets.toList, place ∈ bucket
  vector : ∀ place slot, slots[place]? = some slot → slot.kind = .vector →
    place ∈ buckets.vectors
  image : ∀ place slot, slots[place]? = some slot → slot.kind = .image →
    place ∈ buckets.images ∧ (place ∈ buckets.circles ∨ place ∈ buckets.rectangles)

variable {slots : List MediaSlot} {slot : MediaSlot} {place : Nat}

theorem arePlaces_placesWhere (holds : Traits → Bool) (slots : List MediaSlot) :
    ArePlaces slots (placesWhere holds slots) := by
  constructor
  · rw [placesWhere_eq_findIdxs]
    exact List.pairwise_findIdxs
  · intro place listed
    obtain ⟨slot, here, -⟩ := mem_placesWhere_iff.mp listed
    exact (List.getElem?_eq_some_iff.mp here).1

/-- Every bucket holds places of slots, in their order and each one once. -/
theorem arePlaces_of_mem_classify {bucket : List Nat} (listed : bucket ∈ (classify slots).toList) :
    ArePlaces slots bucket := by
  simp only [Buckets.toList, List.mem_cons, List.not_mem_nil, or_false] at listed
  rcases listed with rfl | rfl | rfl | rfl | rfl | rfl | rfl | rfl | rfl | rfl
  all_goals exact arePlaces_placesWhere _ slots

theorem mem_vectors (here : slots[place]? = some slot) (kind : slot.kind = .vector) :
    place ∈ (classify slots).vectors :=
  mem_placesWhere_iff.mpr ⟨slot, here, beq_iff_eq.mpr kind⟩

theorem mem_images (here : slots[place]? = some slot) (kind : slot.kind = .image) :
    place ∈ (classify slots).images :=
  mem_placesWhere_iff.mpr ⟨slot, here, by simp only [Traits.isImage, Traits.ofSlot, kind]⟩

/-- An image stands among the circles or among the rectangles. -/
theorem mem_circles_or_rectangles (here : slots[place]? = some slot) (kind : slot.kind = .image) :
    place ∈ (classify slots).circles ∨ place ∈ (classify slots).rectangles := by
  cases round : (Traits.ofSlot slot).isRoundImage with
  | true =>
      refine .inl (mem_placesWhere_iff.mpr ⟨slot, here, ?_⟩)
      rw [Traits.isCircle, round, Bool.or_true]
  | false =>
      have isImage : ((Traits.ofSlot slot).kind == .image) = true := beq_iff_eq.mpr kind
      refine .inr (mem_placesWhere_iff.mpr ⟨slot, here, ?_⟩)
      rw [Traits.isRectangle, isImage, round]
      rfl

/-- An instance is sorted by the words of its name, and else it is an image. -/
theorem exists_bucket_of_instance (here : slots[place]? = some slot)
    (kind : slot.kind = .componentInstance) :
    ∃ bucket ∈ (classify slots).toList, place ∈ bucket := by
  have belongs {holds : Traits → Bool} (held : holds (Traits.ofSlot slot) = true) :
      place ∈ placesWhere holds slots := mem_placesWhere_iff.mpr ⟨slot, here, held⟩
  cases categorized : (Traits.ofSlot slot).isCategorized with
  | true =>
      simp only [Traits.isCategorized, Bool.or_eq_true] at categorized
      rcases categorized with ((avatar | icon) | badge) | logo
      · exact ⟨(classify slots).avatars, by simp [Buckets.toList], belongs avatar⟩
      · have isIcon : (Traits.ofSlot slot).isIcon = true := by rw [Traits.isIcon, icon, Bool.true_or]
        exact ⟨(classify slots).icons, by simp [Buckets.toList], belongs isIcon⟩
      · exact ⟨(classify slots).badges, by simp [Buckets.toList], belongs badge⟩
      · exact ⟨(classify slots).logos, by simp [Buckets.toList], belongs logo⟩
  | false =>
      have isInstance : (Traits.ofSlot slot).kind = .componentInstance := kind
      have isImage : (Traits.ofSlot slot).isImage = !(Traits.ofSlot slot).isCategorized := by
        rw [Traits.isImage, isInstance]
        rfl
      rw [categorized] at isImage
      exact ⟨(classify slots).images, by simp [Buckets.toList], belongs isImage⟩

/-- The loop over the slots sorts all of them, whatever their names and kinds are. -/
theorem fill_sorts (slots : List MediaSlot) :
    Buckets.fill slots = classify slots ∧ Sorts slots (classify slots) := by
  refine ⟨fill_eq_classify slots, ⟨fun _ => arePlaces_of_mem_classify, ?_, ?_, ?_⟩⟩
  · intro place inside
    have here := List.getElem?_eq_getElem inside
    cases kind : slots[place].kind with
    | vector => exact ⟨_, by simp [Buckets.toList], mem_vectors here kind⟩
    | image => exact ⟨_, by simp [Buckets.toList], mem_images here kind⟩
    | componentInstance => exact exists_bucket_of_instance here kind
  · exact fun place slot here kind => mem_vectors here kind
  · exact fun place slot here kind => ⟨mem_images here kind, mem_circles_or_rectangles here kind⟩

/-- An instance, a round picture of a user and an icon. -/
def rowSlots : List MediaSlot :=
  [⟨"Chart", "70:1", .componentInstance⟩, ⟨"Round avatar", "70:2", .image⟩,
    ⟨"Icon", "70:3", .vector⟩]

/-- The picture is a circle for two reasons and the icon is an icon for two, but each is listed once. -/
theorem round_avatar_listed_once :
    (Buckets.fill rowSlots).circles = [1] ∧ (Buckets.fill rowSlots).icons = [2] ∧
      (Buckets.fill rowSlots).rectangles = [] ∧ 0 ∈ (Buckets.fill rowSlots).images ∧
      Sorts rowSlots (Buckets.fill rowSlots) := by
  obtain ⟨filled, sorts⟩ := fill_sorts rowSlots
  rw [filled]
  exact ⟨by decide +kernel, by decide +kernel, by decide +kernel, by decide +kernel, sorts⟩

end Buckets

section Search

variable {key : String} {slots : List MediaSlot} {place : Nat} {found : SlotMatch}

theorem exists_group_of_firstOf {groups : List (List Nat)} (found : firstOf groups = some place) :
    ∃ group ∈ groups, place ∈ group := by
  obtain ⟨group, listed, first⟩ := List.exists_of_findSome?_eq_some found
  exact ⟨group, listed, List.mem_of_head? first⟩

/-- Words for a content are looked up in the buckets. -/
theorem exists_bucket_of_findByContent {buckets : Buckets}
    (found : findByContent key buckets = some place) :
    ∃ bucket ∈ buckets.toList, place ∈ bucket := by
  have among {groups : List (List Nat)} (chosen : firstOf groups = some place)
      (buckets_of : groups ⊆ buckets.toList) : ∃ bucket ∈ buckets.toList, place ∈ bucket := by
    obtain ⟨group, listed, member⟩ := exists_group_of_firstOf chosen
    exact ⟨group, buckets_of listed, member⟩
  rw [findByContent] at found
  split_ifs at found
  all_goals exact among found (by simp [Buckets.toList])

/-- A place that is found by its class is that of a slot. -/
theorem lt_length_of_findClassified (found : findClassified key slots = some place) :
    place < slots.length := by
  have worded {asked : Bool} {words : List String}
      (here : (if asked then findByWords words slots else none) = some place) :
      place < slots.length := by
    cases asked with
    | true => exact lt_length_of_findIdx? here
    | false => cases here
  rw [findClassified] at found
  rcases Option.or_eq_some_iff.mp found with position | ⟨-, content⟩
  · rcases Option.or_eq_some_iff.mp position with leading | ⟨-, trailing⟩
    · exact worded leading
    · exact worded trailing
  · obtain ⟨bucket, listed, member⟩ := exists_bucket_of_findByContent content
    exact (arePlaces_of_mem_classify listed).inside place member

/-- Whatever strategy finds a slot, there is one at the place that it gives. -/
theorem lt_length_of_firstMatch (matched : firstMatch key slots = some found) :
    found.index < slots.length := by
  obtain ⟨matcher, listed, search, -⟩ := exists_find_of_firstMatch matched
  simp only [matchers, List.mem_cons, List.not_mem_nil, or_false] at listed
  rcases listed with rfl | rfl | rfl
  · exact lt_length_of_findIdx? search
  · exact lt_length_of_findIdx? search
  · exact lt_length_of_findClassified search

end Search

end DesignScene.MediaSlots
