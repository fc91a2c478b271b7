/-
This file says when a layout key beside the properties of a component counts.
-/
import DesignScene.Proofs.Property.Directives
import DesignScene.Proofs.Review.Agreement

namespace DesignScene

namespace PropertyBag

/-- The properties whose keys do not become this name when they are sanitized. -/
def without (name : String) (bag : PropertyBag) : PropertyBag :=
  bag.filter fun property => sanitizeKey property.1 ≠ name

/-- A property takes the place of one with this name that stands beside the properties. -/
def Takes (name : String) (property : String × Json) : Prop :=
  sanitizeKey property.1 = name ∧ ¬property.1 < name

/-- A property that offers a setting for the layout key and comes after the name of the key. -/
def Outdoes (α : Type) [Scalar α] (key : LayoutKey) (property : String × Json) : Prop :=
  key.name < property.1 ∧ (offered key property : Option (DirectiveSetting α)).isSome

/-- The properties alone decide about a layout key, whatever stands beside them. -/
def Settles (α : Type) [Scalar α] (key : LayoutKey) (bag : PropertyBag) : Prop :=
  (∃ property ∈ bag, Takes key.name property) ∨ ∃ property ∈ bag.sanitize, Outdoes α key property

section Insertion

variable {bag : PropertyBag} {name : String} (sorted : Dict.Sorted bag)
  (absent : bag.get? name = none)

include sorted absent

/-- Around a key that is absent a sorted bag has two parts. -/
theorem eq_append_of_absent : bag = bag.filter (·.1 < name) ++ bag.filter (name < ·.1) := by
  have whole := Dict.eq_append_of_sorted sorted name
  rwa [absent, Option.map_none, Option.toList_none, List.nil_append] at whole

/-- An entry that takes the place of an absent name comes after the name. -/
theorem Takes.after {property : String × Json} (takes : Takes name property)
    (member : property ∈ bag) : name < property.1 := by
  have different : property.1 ≠ name := fun same => by
    have found := (Dict.get?_eq_some_iff sorted).mpr member
    rw [same, absent] at found
    cases found
  exact String.not_le.mp fun before =>
    different (String.le_antisymm before (String.not_lt.mp takes.2))

variable (clean : sanitizeKey name = name)

include clean

/-- What is inserted is lost if another property takes its place. -/
theorem sanitize_insert_of_takes (taken : ∃ property ∈ bag, Takes name property) (value : Json) :
    sanitize (bag.insert name value) = bag.sanitize := by
  obtain ⟨property, member, takes⟩ := taken
  have after : name < property.1 := takes.after sorted absent member
  have listed : sanitizeEntry property ∈ (bag.filter (name < ·.1)).map sanitizeEntry :=
    List.mem_map_of_mem (List.mem_filter.mpr ⟨member, decide_eq_true after⟩)
  have sameKey : (sanitizeEntry property).1 = (sanitizeEntry (name, value)).1 :=
    takes.1.trans clean.symm
  rw [sanitize, Dict.insert_eq_append sorted, List.map_append, List.map_cons,
    Dict.ofList_append_cons_of_mem ⟨_, listed, sameKey⟩, ← List.map_append,
    ← eq_append_of_absent sorted absent, sanitize]

/-- Otherwise it replaces the property with its name, if there is one. -/
theorem sanitize_insert_of_not_takes (free : ¬∃ property ∈ bag, Takes name property)
    (value : Json) :
    sanitize (bag.insert name value) = bag.sanitize.insert name (sanitizeValue name value) := by
  have last : ∀ other ∈ (bag.filter (name < ·.1)).map sanitizeEntry,
      other.1 ≠ (sanitizeEntry (name, value)).1 := by
    intro other member same
    obtain ⟨property, listed, rfl⟩ := List.mem_map.mp member
    obtain ⟨placed, after⟩ := List.mem_filter.mp listed
    have sameKey : sanitizeKey property.1 = sanitizeKey name := same
    exact free ⟨property, placed, sameKey.trans clean, String.lt_asymm (of_decide_eq_true after)⟩
  rw [sanitize, Dict.insert_eq_append sorted, List.map_append, List.map_cons,
    Dict.ofList_append_cons_of_ne last, ← List.map_append, ← eq_append_of_absent sorted absent,
    sanitizeEntry, clean, sanitize]

end Insertion

/-- Properties may be left out by their clean keys before or after they are sanitized. -/
theorem sanitize_without (name : String) (bag : PropertyBag) :
    (bag.without name).sanitize = bag.sanitize.filter (·.1 ≠ name) := by
  have clean : (bag.without name).map sanitizeEntry =
      (bag.map sanitizeEntry).filter (·.1 ≠ name) := by
    rw [without, List.filter_map]
    rfl
  rw [sanitize, clean]
  exact Dict.ofList_filter (fun key => decide (key ≠ name)) _

end PropertyBag

namespace Variants

section Reading

variable {fields : Dict Json} {name : String}

/-- The properties of an item as they are authored. -/
def authoredProperties (fields : Dict Json) : PropertyBag :=
  ((fields.get? "properties").bind Json.asObject?).getD []

/-- The variants beside the properties change no other property. -/
theorem get?_withVariants (different : "variants" ≠ name) :
    (withVariants fields).get? name = (authoredProperties fields).get? name := by
  rw [withVariants]
  split
  · exact Dict.get?_insert_of_ne different _ _
  · rw [authoredProperties]

variable {key : LayoutKey}

/-- What directs the layout is authored among the properties, or beside them under the key itself. -/
theorem get?_readProperties (directs : LayoutKey.ofKey (PropertyBag.sanitizeKey name) = some key) :
    (readProperties fields).get? name =
      ((authoredProperties fields).get? name).or
        (if name = key.name then fields.get? name else none) := by
  have different : "variants" ≠ name := by
    rintro rfl
    have free : LayoutKey.ofKey (PropertyBag.sanitizeKey "variants") = none := by decide
    rw [free] at directs
    cases directs
  have named : (∃ other ∈ LayoutKey.all, other.name = name) ↔ name = key.name := by
    constructor
    · rintro ⟨other, -, rfl⟩
      rw [LayoutKey.sanitizeKey_name, LayoutKey.ofKey_name] at directs
      rw [Option.some.inj directs]
    · rintro rfl
      exact ⟨key, by cases key <;> decide, rfl⟩
  rw [readProperties_eq, get?_addLayoutKeys, get?_withVariants different]
  simp only [named]

variable (whole : (Json.object fields).IsSorted)

include whole

theorem sorted_authoredProperties : Dict.Sorted (authoredProperties fields) :=
  ((sorted_objectField whole "properties").of_asObject? rfl).1

/-- The item's own field is not read where it is absent or the properties have its name. -/
theorem directing_of_unread
    (unread : fields.get? key.name = none ∨ (authoredProperties fields).get? key.name ≠ none) :
    (readProperties fields).directing key = (authoredProperties fields).directing key := by
  apply PropertyBag.directing_eq_of_get?_eq (sorted_readProperties whole)
    (sorted_authoredProperties whole)
  intro name directs
  rw [get?_readProperties directs]
  split_ifs with same
  · subst same
    rcases unread with absent | present
    · rw [absent, Option.or_none]
    · obtain ⟨value, found⟩ := Option.ne_none_iff_exists'.mp present
      rw [found, Option.some_or]
  · exact Option.or_none

/-- Otherwise it is added to the properties. -/
theorem directing_of_read {value : Json} (own : fields.get? key.name = some value)
    (absent : (authoredProperties fields).get? key.name = none) :
    (readProperties fields).directing key =
      PropertyBag.directing key ((authoredProperties fields).insert key.name value) := by
  apply PropertyBag.directing_eq_of_get?_eq (sorted_readProperties whole)
    ((sorted_authoredProperties whole).insert _ _)
  intro name directs
  rw [get?_readProperties directs]
  split_ifs with same
  · subst same
    rw [absent, own, Option.none_or, Dict.get?_insert_self]
  · rw [Option.or_none, Dict.get?_insert_of_ne (Ne.symm same)]

end Reading

end Variants

namespace PropertyBag

/-- A label that is put into a list directs no layout. -/
theorem directing_wrapLabel (key : LayoutKey) {name : String}
    (free : LayoutKey.ofKey (sanitizeKey name) = none) (bag : PropertyBag) :
    (wrapLabel name bag).directing key = bag.directing key := by
  rw [wrapLabel]
  split
  · exact Dict.filter_insert_of_dropped
      (fun name => decide (LayoutKey.ofKey (sanitizeKey name) = some key)) (by simp [free]) _ bag
  · rfl

/-- A label that becomes a list directs nothing. -/
theorem directing_preprocess (key : LayoutKey) (componentType : String) (bag : PropertyBag) :
    (bag.preprocess componentType).directing key = bag.directing key := by
  rw [preprocess]
  split
  · rw [directing_wrapLabel key (by decide), directing_wrapLabel key (by decide)]
  · rfl

end PropertyBag

namespace PropertyBag

variable {α : Type} [Scalar α] {bag : PropertyBag} {key : LayoutKey}

/-- The settings that come after the name of the layout key decide, if there are any. -/
theorem getLast?_offered_of_outdone {entries : Dict Json} (sorted : entries.Sorted)
    (outdone : ∃ property ∈ entries, Outdoes α key property) :
    (entries.filterMap (offered (α := α) key)).getLast? =
      ((entries.filter (key.name < ·.1)).filterMap (offered key)).getLast? := by
  obtain ⟨property, member, after, usable⟩ := outdone
  obtain ⟨setting, offers⟩ := Option.isSome_iff_exists.mp usable
  have listed : setting ∈ (entries.filter (key.name < ·.1)).filterMap (offered key) :=
    List.mem_filterMap.mpr
      ⟨property, List.mem_filter.mpr ⟨member, decide_eq_true after⟩, offers⟩
  obtain ⟨last, found⟩ := Dict.exists_getLast?_of_mem listed
  rw [getLast?_offered sorted, found, Option.some_or]

/-- Otherwise the entry with the very name decides, or one before it. -/
theorem getLast?_offered_of_not_outdone {entries : Dict Json} (sorted : entries.Sorted)
    (free : ¬∃ property ∈ entries, Outdoes α key property) :
    (entries.filterMap (offered (α := α) key)).getLast? =
      ((entries.get? key.name).bind (readSetting key)).or
        ((entries.filter (·.1 < key.name)).filterMap (offered key)).getLast? := by
  have nothing : (entries.filter (key.name < ·.1)).filterMap (offered (α := α) key) = [] := by
    refine List.filterMap_eq_nil_iff.mpr fun property listed => ?_
    obtain ⟨member, after⟩ := List.mem_filter.mp listed
    by_contra usable
    exact free ⟨property, member, of_decide_eq_true after, Option.isSome_iff_ne_none.mpr usable⟩
  rw [getLast?_offered sorted, nothing, List.getLast?_nil, Option.none_or]

/-- An insertion changes nothing behind its key. -/
theorem filter_after_insert (entries : Dict Json) (name : String) (value : Json) :
    (entries.insert name value).filter (name < ·.1) = entries.filter (name < ·.1) :=
  Dict.filter_insert_of_dropped (fun other => decide (name < other))
    (decide_eq_false (String.lt_irrefl name)) value entries

/-- An insertion changes nothing in front of its key. -/
theorem filter_before_insert (entries : Dict Json) (name : String) (value : Json) :
    (entries.insert name value).filter (·.1 < name) = entries.filter (·.1 < name) :=
  Dict.filter_insert_of_dropped (fun other => decide (other < name))
    (decide_eq_false (String.lt_irrefl name)) value entries

/-- What comes after a name is not changed by an insertion under it. -/
theorem outdone_insert_iff (entries : Dict Json) (value : Json) :
    (∃ property ∈ entries.insert key.name value, Outdoes α key property) ↔
      ∃ property ∈ entries, Outdoes α key property := by
  have among (list : Dict Json) : (∃ property ∈ list, Outdoes α key property) ↔
      ∃ property ∈ list.filter (key.name < ·.1),
        (offered key property : Option (DirectiveSetting α)).isSome := by
    simp only [Outdoes, List.mem_filter, decide_eq_true_eq, and_assoc]
  rw [among, among, filter_after_insert]

/-- Without the entries of the name those before it decide. -/
theorem getLast?_offered_without (free : ¬∃ property ∈ bag.sanitize, Outdoes α key property) :
    ((bag.without key.name).sanitize.filterMap (offered (α := α) key)).getLast? =
      ((bag.sanitize.filter (·.1 < key.name)).filterMap (offered key)).getLast? := by
  have gone : (bag.without key.name).sanitize.get? key.name = none := by
    rw [sanitize_without, Dict.get?_filter_key fun name => decide (name ≠ key.name)]
    exact if_neg (by simp)
  have before : (bag.without key.name).sanitize.filter (·.1 < key.name) =
      bag.sanitize.filter (·.1 < key.name) := by
    rw [sanitize_without, List.filter_filter]
    refine List.filter_congr fun property _ => ?_
    by_cases less : property.1 < key.name
    · have different : property.1 ≠ key.name := fun same =>
        String.lt_irrefl key.name (same ▸ less)
      simp [less, different]
    · simp [less]
  have still : ¬∃ property ∈ (bag.without key.name).sanitize, Outdoes α key property := by
    rintro ⟨property, member, outdoes⟩
    rw [sanitize_without] at member
    exact free ⟨property, List.mem_of_mem_filter member, outdoes⟩
  rw [getLast?_offered_of_not_outdone (sorted_sanitize _) still, gone, before, Option.bind_none,
    Option.none_or]

section Insertion

variable (sorted : Dict.Sorted bag) (absent : bag.get? key.name = none)
  (schema : Option ComponentSchema) (value : Json)

include sorted absent

/-- Where the properties settle a layout key, one more value for it counts for nothing. -/
theorem setting?_insert_of_settles (settled : bag.Settles α key) :
    (PropertyBag.directive α schema (bag.insert key.name value)).setting? key =
      (bag.directive α schema).setting? key := by
  rw [setting?_directive, setting?_directive]
  by_cases taken : ∃ property ∈ bag, Takes key.name property
  · rw [sanitize_insert_of_takes sorted absent key.sanitizeKey_name taken]
  · have outdone := settled.resolve_left taken
    rw [sanitize_insert_of_not_takes sorted absent key.sanitizeKey_name taken,
      getLast?_offered_of_outdone ((sorted_sanitize bag).insert _ _)
        ((outdone_insert_iff _ _).mpr outdone),
      filter_after_insert, ← getLast?_offered_of_outdone (sorted_sanitize bag) outdone]

/-- Elsewhere the value counts if it can be read, and else what is left without its key. -/
theorem setting?_insert_of_not_settles (open_ : ¬bag.Settles α key) :
    (PropertyBag.directive α schema (bag.insert key.name value)).setting? key =
      (readSetting key value).or (((bag.without key.name).directive α schema).setting? key) := by
  obtain ⟨free, unbeaten⟩ := not_or.mp open_
  rw [setting?_directive, setting?_directive,
    sanitize_insert_of_not_takes sorted absent key.sanitizeKey_name free,
    getLast?_offered_of_not_outdone ((sorted_sanitize bag).insert _ _)
      fun outdone => unbeaten ((outdone_insert_iff _ _).mp outdone),
    Dict.get?_insert_self, Option.bind_some, filter_before_insert,
    LayoutKey.sanitizeValue_of_ofKey key.ofKey_name, getLast?_offered_without unbeaten]

end Insertion

end PropertyBag

/-- The directive that a component with this schema gets when its properties are resolved. -/
def ComponentSpec.directiveFor (α : Type) [Scalar α] (schema : Option ComponentSchema)
    (spec : ComponentSpec) : LayoutDirective α :=
  (spec.properties.preprocess spec.typeName).directive α schema

namespace Variants

section Settings

variable {α : Type} [Scalar α] {path : String} {fields : Dict Json} {spec : ComponentSpec}

/-- A component is directed as any bag is that directs the same. -/
theorem setting?_directive_of_ofJson
    (read : (LayoutItem.ofJson path (.object fields) : LayoutItem α) = .component spec)
    (schema : Option ComponentSchema) {key : LayoutKey} {bag : PropertyBag}
    (same : (readProperties fields).directing key = bag.directing key) :
    (spec.directiveFor α schema).setting? key = (bag.directive α schema).setting? key := by
  apply PropertyBag.setting?_directive_congr
  rw [PropertyBag.directing_preprocess, properties_of_ofJson read, same]

/-- A component gets what its own field directs, except where its properties settle the layout key. -/
theorem setting_of_component (whole : (Json.object fields).IsSorted)
    (read : (LayoutItem.ofJson path (.object fields) : LayoutItem α) = .component spec)
    (schema : Option ComponentSchema) (key : LayoutKey) :
    (fields.get? key.name = none ∨ (authoredProperties fields).Settles α key →
        (spec.directiveFor α schema).setting? key =
          ((authoredProperties fields).directive α schema).setting? key) ∧
      ∀ value, fields.get? key.name = some value →
        ¬(authoredProperties fields).Settles α key →
          (spec.directiveFor α schema).setting? key =
            (readSetting key value).or
              ((((authoredProperties fields).without key.name).directive α schema).setting? key) := by
  have sorted := sorted_authoredProperties whole
  constructor
  · intro settled
    by_cases unread : fields.get? key.name = none ∨
        (authoredProperties fields).get? key.name ≠ none
    · exact setting?_directive_of_ofJson read schema (directing_of_unread whole unread)
    · obtain ⟨present, missing⟩ := not_or.mp unread
      obtain ⟨value, own⟩ := Option.ne_none_iff_exists'.mp present
      have absent := not_not.mp missing
      rw [setting?_directive_of_ofJson read schema (directing_of_read whole own absent),
        PropertyBag.setting?_insert_of_settles sorted absent schema value
          (settled.resolve_left present)]
  · intro value own unsettled
    have absent : (authoredProperties fields).get? key.name = none := by
      by_contra present
      obtain ⟨given, found⟩ := Option.ne_none_iff_exists'.mp present
      exact unsettled (.inl ⟨_, Dict.mem_of_get? found, key.sanitizeKey_name,
        String.lt_irrefl key.name⟩)
    rw [setting?_directive_of_ofJson read schema (directing_of_read whole own absent),
      PropertyBag.setting?_insert_of_not_settles sorted absent schema value unsettled]

/-- The fields of a button that is aligned by a property with this name and by a field beside it. -/
def alignedButton (name : String) : Dict Json :=
  [("layoutAlign", .string "STRETCH"), ("properties", .object [(name, .string "CENTER")]),
    ("type", .string "button")]

theorem isSorted_alignedButton (name : String) : (Json.object (alignedButton name)).IsSorted := by
  have text (value : String) : (Json.string value).IsSorted := .atom rfl rfl
  have properties : (Json.object [(name, .string "CENTER")]).IsSorted :=
    .object (List.pairwise_singleton _ _) (by simp [text])
  have keys : Dict.Sorted (alignedButton name) := by
    show ["layoutAlign", "properties", "type"].Pairwise (· < ·)
    decide
  exact .object keys (by simp [alignedButton, text, properties])

/-- The button as it is read. -/
def alignedSpec (name : String) : ComponentSpec := .ofFields "button" (alignedButton name)

/-- The property `layoutalign` comes after the name of the key and decides. -/
theorem center_of_lower_case_property :
    ((alignedSpec "layoutalign").directiveFor Rat none).setting? .layoutAlign =
      some (.layoutAlign .center) := by
  have clean : (authoredProperties (alignedButton "layoutalign")).sanitize =
      [("layoutalign", .string "CENTER")] := rfl
  have settled : (authoredProperties (alignedButton "layoutalign")).Settles Rat .layoutAlign :=
    .inr ⟨_, clean ▸ List.mem_cons_self, by decide, by decide⟩
  have read : (LayoutItem.ofJson "items[0]" (.object (alignedButton "layoutalign")) :
      LayoutItem Rat) = .component (alignedSpec "layoutalign") := rfl
  have given := (setting_of_component (isSorted_alignedButton "layoutalign") read none
    .layoutAlign).1 (.inr settled)
  rw [given]
  rfl

/-- The property `LayoutAlign` comes before the name of the key, and the field beside it decides. -/
theorem own_field_beats_property :
    ¬∀ (path : String) (fields : Dict Json) (spec : ComponentSpec)
        (schema : Option ComponentSchema) (key : LayoutKey),
      (Json.object fields).IsSorted →
      (LayoutItem.ofJson path (.object fields) : LayoutItem Rat) = .component spec →
      (∃ property ∈ authoredProperties fields, LayoutKey.ofKey property.1 = some key ∧
        (readSetting key property.2 : Option (DirectiveSetting Rat)).isSome) →
      ∃ property ∈ authoredProperties fields,
        (spec.directiveFor Rat schema).setting? key = readSetting key property.2 := by
  intro every
  obtain ⟨property, member, taken⟩ := every "items[0]" (alignedButton "LayoutAlign")
    (alignedSpec "LayoutAlign") none .layoutAlign (isSorted_alignedButton _) rfl
    ⟨("LayoutAlign", .string "CENTER"), List.mem_cons_self, by decide, by decide⟩
  have only : property = ("LayoutAlign", .string "CENTER") := List.mem_singleton.mp member
  have stretched : ((alignedSpec "LayoutAlign").directiveFor Rat none).setting? .layoutAlign =
      some (.layoutAlign .stretch) := rfl
  have centered : (readSetting .layoutAlign (.string "CENTER") : Option (DirectiveSetting Rat)) =
      some (.layoutAlign .center) := rfl
  rw [only, stretched, centered] at taken
  cases taken

end Settings

end Variants

end DesignScene
