/-
This file compares the two readers of layout directives: that of properties and that of fields.
-/
import DesignScene.Proofs.Property.Directives

namespace DesignScene

/-- The other name of the horizontal sizing, which only the reader of fields knows. -/
def sizingAlias : String := "layoutSizingHorizontal"

/-- Each of the names that directs the layout is the name of its layout key, or this name stands after it. -/
def NamesDirectives (names : List String) : Prop :=
  ∀ name ∈ names, ∀ key : LayoutKey, LayoutKey.ofKey (PropertyBag.sanitizeKey name) = some key →
    name = key.name ∨
      PropertyBag.sanitizeKey name = key.name ∧ key.name ∈ names ∧ name < key.name

theorem firstField_singleton {β : Type} (read : Json → Option β) (name : String)
    (fields : Dict Json) : firstField read [name] fields = (fields.get? name).bind read := by
  rw [firstField, List.findSome?_cons]
  cases (fields.get? name).bind read <;> rfl

/-- A name that is absent is passed over. -/
theorem firstField_of_absent {β : Type} {read : Json → Option β} {name other : String}
    {fields : Dict Json} (absent : fields.get? other = none) :
    firstField read [name, other] fields = (fields.get? name).bind read := by
  rw [firstField, List.findSome?_cons, List.findSome?_cons, absent]
  cases (fields.get? name).bind read <;> rfl

section Agreement

variable {α : Type} [Scalar α] {fields : Dict Json}

/-- Without the other name of the horizontal sizing, fields are read by the names of the layout keys. -/
theorem setting?_ofFields (noAlias : sizingAlias ∉ fields.keys) (key : LayoutKey) :
    (LayoutDirective.ofFields fields : LayoutDirective α).setting? key =
      (fields.get? key.name).bind (readSetting key) := by
  have absent : fields.get? "layoutSizingHorizontal" = none :=
    Dict.get?_eq_none_of_not_mem_keys noAlias
  have sizing : textField ["horizontalSizing", "layoutSizingHorizontal"] fields =
      (fields.get? "horizontalSizing").bind Json.asString? := firstField_of_absent absent
  have text (name : String) : textField [name] fields =
      (fields.get? name).bind Json.asString? := firstField_singleton _ name fields
  have size (name : String) : (sizeField [name] fields : Option α) =
      (fields.get? name).bind readSize := firstField_singleton _ name fields
  cases key <;>
    simp only [LayoutDirective.setting?, LayoutDirective.ofFields, sizing, text, size,
      LayoutKey.name] <;>
    cases Dict.get? _ fields <;>
    rfl

section Named

variable (sorted : fields.Sorted) (named : NamesDirectives fields.keys)

include named

/-- A property that directs the layout has the name of the layout key after it is sanitized. -/
theorem sanitizeKey_of_namesDirectives {property : String × Json} (member : property ∈ fields)
    {key : LayoutKey}
    (directs : LayoutKey.ofKey (PropertyBag.sanitizeKey property.1) = some key) :
    PropertyBag.sanitizeKey property.1 = key.name := by
  rcases named property.1 (List.mem_map_of_mem member) key directs with same | ⟨clean, -⟩
  · rw [same, key.sanitizeKey_name]
  · exact clean

/-- No property becomes a layout key that the names lack. -/
theorem filter_sanitizeKey_eq_nil {key : LayoutKey} (absent : fields.get? key.name = none) :
    fields.filter (fun property => PropertyBag.sanitizeKey property.1 = key.name) = [] := by
  refine List.filter_eq_nil_iff.mpr fun property member clean => ?_
  have becomes : PropertyBag.sanitizeKey property.1 = key.name := of_decide_eq_true clean
  have directs : LayoutKey.ofKey (PropertyBag.sanitizeKey property.1) = some key := by
    rw [becomes, key.ofKey_name]
  have listed : key.name ∈ fields.keys := by
    rcases named property.1 (List.mem_map_of_mem member) key directs with same | ⟨-, present, -⟩
    · exact same ▸ List.mem_map_of_mem member
    · exact present
  have found := Dict.hasKey_of_mem_keys listed
  rw [Dict.hasKey, absent] at found
  cases found

include sorted

/-- The name of a layout key stands last among the names that become it. -/
theorem getLast?_filter_sanitizeKey {key : LayoutKey} {value : Json}
    (found : fields.get? key.name = some value) :
    (fields.filter fun property => PropertyBag.sanitizeKey property.1 = key.name).getLast? =
      some (key.name, value) := by
  have notAfter : (fields.filter (key.name < ·.1)).filter
      (fun property => PropertyBag.sanitizeKey property.1 = key.name) = [] := by
    refine List.filter_eq_nil_iff.mpr fun property listed clean => ?_
    obtain ⟨member, after⟩ := List.mem_filter.mp listed
    have above : key.name < property.1 := of_decide_eq_true after
    have directs : LayoutKey.ofKey (PropertyBag.sanitizeKey property.1) = some key := by
      rw [of_decide_eq_true clean, key.ofKey_name]
    rcases named property.1 (List.mem_map_of_mem member) key directs with same | ⟨-, -, below⟩
    · exact String.lt_irrefl key.name (same ▸ above)
    · exact String.lt_asymm above below
  rw [Dict.eq_append_of_sorted sorted key.name, found, List.filter_append, List.filter_append,
    notAfter, List.append_nil]
  simp [key.sanitizeKey_name]

/-- If the names are in order, each layout key is found as before. -/
theorem get?_sanitize_of_namesDirectives (key : LayoutKey) :
    (PropertyBag.sanitize fields).get? key.name = fields.get? key.name := by
  rw [PropertyBag.get?_sanitize]
  cases found : fields.get? key.name with
  | none =>
      rw [filter_sanitizeKey_eq_nil named found]
      rfl
  | some value =>
      rw [getLast?_filter_sanitizeKey sorted named found, Option.map_some,
        LayoutKey.sanitizeValue_of_ofKey key.ofKey_name]

/-- The properties say what stands under the names of the layout keys. -/
theorem setting?_directive_of_namesDirectives (schema : Option ComponentSchema)
    (key : LayoutKey) :
    (PropertyBag.directive α schema fields).setting? key =
      (fields.get? key.name).bind (readSetting key) := by
  have clean : ∀ property ∈ PropertyBag.sanitize fields,
      LayoutKey.ofKey property.1 = some key → property.1 = key.name := by
    intro property member directs
    obtain ⟨authored, listed, rfl⟩ := List.mem_map.mp (Dict.mem_of_mem_ofList member)
    exact sanitizeKey_of_namesDirectives named listed directs
  have others (keep : String → Bool) (dropped : keep key.name = false) :
      ((PropertyBag.sanitize fields).filter (keep ·.1)).filterMap (offered (α := α) key) = [] := by
    refine List.filterMap_eq_nil_iff.mpr fun property listed => if_neg fun directs => ?_
    obtain ⟨member, kept⟩ := List.mem_filter.mp listed
    rw [clean property member directs, dropped] at kept
    cases kept
  have after := others (fun name => decide (key.name < name))
    (decide_eq_false (String.lt_irrefl key.name))
  have before := others (fun name => decide (name < key.name))
    (decide_eq_false (String.lt_irrefl key.name))
  rw [PropertyBag.setting?_directive, getLast?_offered (PropertyBag.sorted_sanitize fields),
    after, before, get?_sanitize_of_namesDirectives sorted named, List.getLast?_nil,
    Option.none_or, Option.or_none]

end Named

end Agreement

/-- Fields with these names of which only one says something. -/
def onlyField (names : List String) (name : String) (value : Json) : Dict Json :=
  names.map fun other => (other, if other = name then value else .null)

/-- A value that can be used for the layout key. -/
def LayoutKey.sample : LayoutKey → Json
  | .horizontalSizing => .string "FILL"
  | .layoutAlign => .string "CENTER"
  | _ => .number (.int 1)

/-- Every layout key has a value that can be read for it. -/
theorem readSetting_sample {α : Type} [Scalar α] (key : LayoutKey) :
    ∃ setting : DirectiveSetting α, readSetting key key.sample = some setting := by
  cases key <;> exact ⟨_, rfl⟩

section OneField

variable {α : Type} [Scalar α] {names : List String} {name : String} {value : Json}

theorem keys_onlyField : (onlyField names name value).keys = names := by
  simp [onlyField, Dict.keys, Function.comp_def]

/-- The other fields are null, so that nothing is read from them. -/
theorem bind_get?_onlyField {β : Type} {read : Json → Option β} (noNull : read .null = none)
    {other : String} (different : other ≠ name) :
    ((onlyField names name value).get? other).bind read = none := by
  cases found : (onlyField names name value).get? other with
  | none => rfl
  | some given =>
      obtain ⟨listed, -, same⟩ := List.mem_map.mp (Dict.mem_of_get? found)
      obtain ⟨rfl, rfl⟩ := Prod.mk.inj same
      rw [if_neg different, Option.bind_some, noNull]

/-- If the name comes last of those with its clean key, its value is the one that is left. -/
theorem get?_sanitize_onlyField (value : Json)
    (last : (names.filter fun other =>
      PropertyBag.sanitizeKey other = PropertyBag.sanitizeKey name).getLast? = some name) :
    (PropertyBag.sanitize (onlyField names name value)).get? (PropertyBag.sanitizeKey name) =
      some (PropertyBag.sanitizeValue (PropertyBag.sanitizeKey name) value) := by
  have listed : (onlyField names name value).filter
        (fun property => PropertyBag.sanitizeKey property.1 = PropertyBag.sanitizeKey name) =
      onlyField (names.filter fun other =>
        PropertyBag.sanitizeKey other = PropertyBag.sanitizeKey name) name value := by
    rw [onlyField, List.filter_map]
    rfl
  rw [PropertyBag.get?_sanitize, listed, onlyField, List.getLast?_map, last, Option.map_some,
    Option.map_some, if_pos rfl]

/-- A property that directs the layout and comes last of those with its clean key counts. -/
theorem setting?_directive_onlyField (schema : Option ComponentSchema) {key : LayoutKey}
    (directs : LayoutKey.ofKey (PropertyBag.sanitizeKey name) = some key)
    (last : (names.filter fun other =>
      PropertyBag.sanitizeKey other = PropertyBag.sanitizeKey name).getLast? = some name) :
    (PropertyBag.directive α schema (onlyField names name key.sample)).setting? key ≠ none := by
  have found := get?_sanitize_onlyField key.sample last
  rw [LayoutKey.sanitizeValue_of_ofKey directs] at found
  obtain ⟨setting, read⟩ := readSetting_sample (α := α) key
  have offers : offered (α := α) key (PropertyBag.sanitizeKey name, key.sample) = some setting := by
    rw [offered, if_pos directs, read]
  have listed : setting ∈ (PropertyBag.sanitize (onlyField names name key.sample)).filterMap
      (offered key) := List.mem_filterMap.mpr ⟨_, Dict.mem_of_get? found, offers⟩
  rw [PropertyBag.setting?_directive]
  exact fun nothing => List.ne_nil_of_mem listed (List.getLast?_eq_none_iff.mp nothing)

/-- The properties do not know the other name of the horizontal sizing. -/
theorem setting?_directive_alias (schema : Option ComponentSchema) (key : LayoutKey) :
    (PropertyBag.directive α schema (onlyField names sizingAlias value)).setting? key = none := by
  have nothing : (PropertyBag.sanitize (onlyField names sizingAlias value)).filterMap
      (offered (α := α) key) = [] := by
    refine List.filterMap_eq_nil_iff.mpr fun property listed => ?_
    obtain ⟨authored, member, rfl⟩ := List.mem_map.mp (Dict.mem_of_mem_ofList listed)
    obtain ⟨other, -, rfl⟩ := List.mem_map.mp member
    by_cases same : other = sizingAlias
    · subst same
      have unknown : LayoutKey.ofKey (PropertyBag.sanitizeKey sizingAlias) = none := by decide
      exact if_neg (by simp [PropertyBag.sanitizeEntry, unknown])
    · exact offered_of_not_loose key (.inr (by
        rw [if_neg same, PropertyBag.sanitizeEntry, PropertyBag.isNull_sanitizeValue]
        rfl))
  rw [PropertyBag.setting?_directive, nothing, List.getLast?_nil]

/-- The value under the one name is found, since all others are null. -/
theorem get?_onlyField (member : name ∈ names) :
    (onlyField names name value).get? name = some value := by
  induction names with
  | nil => cases member
  | cons first more ih =>
      rw [onlyField, List.map_cons, Dict.get?]
      by_cases same : first = name
      · rw [if_pos same, if_pos same]
      · rw [if_neg same]
        exact ih ((List.mem_cons.mp member).resolve_left (Ne.symm same))

/-- The fields know the other name of the horizontal sizing. -/
theorem setting?_ofFields_alias (member : sizingAlias ∈ names) :
    (LayoutDirective.ofFields (onlyField names sizingAlias (.string "FILL")) :
      LayoutDirective α).setting? .horizontalSizing = some (.horizontalSizing .fill) := by
  let fields : Dict Json := onlyField names sizingAlias (.string "FILL")
  have own : (fields.get? "horizontalSizing").bind Json.asString? = none :=
    bind_get?_onlyField rfl (by decide)
  have other : (fields.get? sizingAlias).bind Json.asString? = some "FILL" := by
    rw [get?_onlyField member]
    rfl
  have text : textField ["horizontalSizing", sizingAlias] fields = some "FILL" := by
    rw [textField, firstField, List.findSome?_cons, own, List.findSome?_cons, other]
  show ((textField ["horizontalSizing", sizingAlias] fields).bind HorizontalSizing.ofText).map
    DirectiveSetting.horizontalSizing = _
  rw [text]
  rfl

end OneField

/-- Fields and properties direct the same exactly if no name is read by one side only or out of its order. -/
theorem readers_agree_iff {α : Type} [Scalar α] {names : List String}
    (sorted : names.Pairwise (· < ·)) (schema : Option ComponentSchema) :
    (∀ fields : Dict Json, fields.keys = names →
        PropertyBag.directive α schema fields = LayoutDirective.ofFields fields) ↔
      sizingAlias ∉ names ∧ NamesDirectives names := by
  constructor
  · intro agree
    have noAlias : sizingAlias ∉ names := by
      intro member
      have filled := setting?_ofFields_alias (α := α) member
      rw [← agree _ keys_onlyField, setting?_directive_alias] at filled
      cases filled
    refine ⟨noAlias, fun name member key directs => ?_⟩
    have listed : name ∈ names.filter fun other =>
        PropertyBag.sanitizeKey other = PropertyBag.sanitizeKey name :=
      List.mem_filter.mpr ⟨member, decide_eq_true rfl⟩
    obtain ⟨last, found⟩ := Dict.exists_getLast?_of_mem listed
    obtain ⟨lastMember, lastClean⟩ := List.mem_filter.mp (List.mem_of_getLast? found)
    have sameClean : PropertyBag.sanitizeKey last = PropertyBag.sanitizeKey name :=
      of_decide_eq_true lastClean
    have lastName : last = key.name := by
      by_contra different
      have counts := setting?_directive_onlyField (α := α) schema
        (sameClean ▸ directs) (sameClean ▸ found)
      rw [agree _ keys_onlyField, setting?_ofFields (keys_onlyField ▸ noAlias),
        bind_get?_onlyField (readSetting_null key) (Ne.symm different)] at counts
      exact counts rfl
    subst lastName
    rcases Dict.eq_or_rel_of_getLast? (sorted.filter _) found listed with same | before
    · exact .inl same
    · exact .inr ⟨sameClean.symm.trans key.sanitizeKey_name, lastMember, before⟩
  · rintro ⟨noAlias, named⟩ fields rfl
    apply LayoutDirective.eq_of_setting?_eq
    intro key
    rw [setting?_directive_of_namesDirectives sorted named schema key,
      setting?_ofFields noAlias key]

/-- Of two names for the least width the layout key stands last, so that both readers take its value. -/
theorem readers_agree_on_least_width :
    PropertyBag.directive Rat none [(" minWidth", .string "80"), ("minWidth", .string "120px")] =
      LayoutDirective.ofFields [(" minWidth", .string "80"), ("minWidth", .string "120px")] := by
  have named : NamesDirectives [" minWidth", "minWidth"] := by
    intro name member key directs
    rcases List.mem_cons.mp member with rfl | later
    · have known : LayoutKey.ofKey (PropertyBag.sanitizeKey " minWidth") = some .minWidth := by
        decide
      obtain rfl : LayoutKey.minWidth = key := Option.some.inj (known.symm.trans directs)
      exact .inr (by decide)
    · obtain rfl := List.mem_singleton.mp later
      have known : LayoutKey.ofKey (PropertyBag.sanitizeKey "minWidth") = some .minWidth := by
        decide
      obtain rfl : LayoutKey.minWidth = key := Option.some.inj (known.symm.trans directs)
      exact .inl rfl
  exact (readers_agree_iff (by decide) none).mpr ⟨by decide, named⟩ _ rfl

/-- The other name of the horizontal sizing is read from fields and not from properties. -/
theorem alias_read_from_fields_only :
    ¬∀ (schema : Option ComponentSchema) (fields : Dict Json), fields.Sorted →
      PropertyBag.directive Rat schema fields = LayoutDirective.ofFields fields := by
  intro every
  have sizing := congrArg (·.setting? .horizontalSizing)
    (every none [(sizingAlias, .string "FILL")] (List.pairwise_singleton _ _))
  have fromProperties : (PropertyBag.directive Rat none
      [(sizingAlias, .string "FILL")]).setting? .horizontalSizing = none := rfl
  have fromFields : (LayoutDirective.ofFields [(sizingAlias, .string "FILL")] :
      LayoutDirective Rat).setting? .horizontalSizing = some (.horizontalSizing .fill) := rfl
  rw [fromProperties, fromFields] at sizing
  cases sizing

end DesignScene
