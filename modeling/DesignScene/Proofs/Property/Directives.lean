/-
This file says which of its properties each setting in the layout directive of a component is taken
from.
-/
import DesignScene.Proofs.Property.LabelLists
import DesignScene.Proofs.Property.Variants

namespace DesignScene

namespace LayoutDirective

variable {α : Type}

/-- What the directive says under a layout key. -/
def setting? (directive : LayoutDirective α) : LayoutKey → Option (DirectiveSetting α)
  | .horizontalSizing => directive.horizontalSizing.map .horizontalSizing
  | .layoutAlign => directive.layoutAlign.map .layoutAlign
  | .layoutGrow => directive.layoutGrow.map .layoutGrow
  | .minWidth => directive.constraints.minWidth.map .minWidth
  | .maxWidth => directive.constraints.maxWidth.map .maxWidth
  | .minHeight => directive.constraints.minHeight.map .minHeight
  | .maxHeight => directive.constraints.maxHeight.map .maxHeight

/-- A directive is told by what it says under the layout keys. -/
theorem eq_of_setting?_eq {first second : LayoutDirective α}
    (same : ∀ key, first.setting? key = second.setting? key) : first = second := by
  have inj {β : Type} {wrap : β → DirectiveSetting α} (injective : Function.Injective wrap)
      {left right : Option β} (equal : left.map wrap = right.map wrap) : left = right :=
    Option.map_injective injective equal
  obtain ⟨sizing, align, grow, ⟨minWidth, maxWidth, minHeight, maxHeight⟩⟩ := first
  obtain ⟨sizing', align', grow', ⟨minWidth', maxWidth', minHeight', maxHeight'⟩⟩ := second
  have sizings : sizing = sizing' :=
    inj (fun _ _ => DirectiveSetting.horizontalSizing.inj) (same .horizontalSizing)
  have aligns : align = align' :=
    inj (fun _ _ => DirectiveSetting.layoutAlign.inj) (same .layoutAlign)
  have grows : grow = grow' := inj (fun _ _ => DirectiveSetting.layoutGrow.inj) (same .layoutGrow)
  have minWidths : minWidth = minWidth' :=
    inj (fun _ _ => DirectiveSetting.minWidth.inj) (same .minWidth)
  have maxWidths : maxWidth = maxWidth' :=
    inj (fun _ _ => DirectiveSetting.maxWidth.inj) (same .maxWidth)
  have minHeights : minHeight = minHeight' :=
    inj (fun _ _ => DirectiveSetting.minHeight.inj) (same .minHeight)
  have maxHeights : maxHeight = maxHeight' :=
    inj (fun _ _ => DirectiveSetting.maxHeight.inj) (same .maxHeight)
  rw [sizings, aligns, grows, minWidths, maxWidths, minHeights, maxHeights]

/-- A setting is seen under its own key only. -/
theorem setting?_set (directive : LayoutDirective α) (setting : DirectiveSetting α)
    (key : LayoutKey) :
    (directive.set setting).setting? key =
      if setting.target = key then some setting else directive.setting? key := by
  cases setting <;> cases key <;> rfl

/-- The last setting for a key counts. -/
theorem setting?_foldl_set (settings : List (DirectiveSetting α)) (key : LayoutKey) :
    (settings.foldl LayoutDirective.set {}).setting? key =
      (settings.filter (·.target = key)).getLast? := by
  induction settings using List.reverseRecOn with
  | nil => cases key <;> rfl
  | append_singleton settings setting ih =>
      rw [List.foldl_append, List.foldl_cons, List.foldl_nil, setting?_set, List.filter_append]
      split_ifs with same
      · rw [List.filter_cons_of_pos (by simpa using same), List.filter_nil, List.getLast?_concat]
      · rw [List.filter_cons_of_neg (by simpa using same), List.filter_nil, List.append_nil, ih]

end LayoutDirective

namespace LayoutKey

/-- A key is known by its name in any ASCII case. -/
theorem equal_of_ofKey {name : String} {key : LayoutKey} (known : ofKey name = some key) :
    Text.equalIgnoringAsciiCase key.name name = true := by
  rw [ofKey] at known
  have found := List.find?_some known
  exact found

/-- A layout key is known by its own name. -/
theorem ofKey_name (key : LayoutKey) : ofKey key.name = some key := by
  cases key <;> decide

/-- The names of layout keys are clean. -/
theorem sanitizeKey_name (key : LayoutKey) : PropertyBag.sanitizeKey key.name = key.name := by
  cases key <;> decide

theorem ascii_name (key : LayoutKey) :
    (Text.lowerAsciiChars key.name.toList).all (·.toNat < 128) = true := by
  cases key <;> decide

/-- A property that directs the layout keeps its value. -/
theorem sanitizeValue_of_ofKey {name : String} {key : LayoutKey} (known : ofKey name = some key)
    (value : Json) : PropertyBag.sanitizeValue name value = value := by
  have same : Text.equalIgnoringAsciiCase name key.name = true := by
    have reversed := eq_of_beq (equal_of_ofKey known)
    exact beq_iff_eq.mpr reversed.symm
  have lowered : Text.lower name = String.ofList (Text.lowerAsciiChars key.name.toList) :=
    Text.lower_of_equalIgnoringAsciiCase same fun character member =>
      of_decide_eq_true (List.all_eq_true.mp key.ascii_name character member)
  have noText : Text.contains (Text.lower name) "text" = false := by
    rw [lowered]
    cases key <;> decide
  exact if_neg (by simp [noText])

end LayoutKey

section Offered

variable {α : Type} [Scalar α]

/-- What a property under a clean key says for a layout key. -/
def offered (key : LayoutKey) (property : String × Json) : Option (DirectiveSetting α) :=
  if LayoutKey.ofKey property.1 = some key then readSetting key property.2 else none

/-- No setting is read from null. -/
theorem readSetting_null (key : LayoutKey) : (readSetting key .null : Option (DirectiveSetting α)) =
    none := by
  cases key <;> rfl

/-- Under its own name a layout key is offered what its value reads as. -/
theorem offered_name (key : LayoutKey) (value : Json) :
    (offered key (key.name, value) : Option (DirectiveSetting α)) = readSetting key value :=
  if_pos key.ofKey_name

/-- The last setting is offered after the name of the layout key, under it, or before it. -/
theorem getLast?_offered {entries : Dict Json} (sorted : entries.Sorted) (key : LayoutKey) :
    (entries.filterMap (offered (α := α) key)).getLast? =
      ((entries.filter (key.name < ·.1)).filterMap (offered key)).getLast?.or
        (((entries.get? key.name).bind (readSetting key)).or
          ((entries.filter (·.1 < key.name)).filterMap (offered key)).getLast?) := by
  rw [Dict.getLast?_filterMap sorted key.name]
  simp only [offered_name]

/-- The variants and what is null offer no setting. -/
theorem offered_of_not_loose (key : LayoutKey) {property : String × Json}
    (skipped : property.1 = "variants" ∨ property.2.isNull = true) :
    (offered key property : Option (DirectiveSetting α)) = none := by
  rw [offered]
  split_ifs with known
  · rcases skipped with same | isNull
    · rw [same, LayoutKey.ofKey_variants] at known
      cases known
    · obtain ⟨name, value⟩ := property
      cases value with
      | null => exact readSetting_null key
      | _ => cases isNull
  · rfl

/-- A setting of a property is seen under a layout key if the property offers it there. -/
theorem filter_setting?_resolveProperty (schema : Option ComponentSchema) (key : LayoutKey)
    (property : String × Json) :
    ((resolveProperty (α := α) schema property.1 property.2).setting?.filter fun setting =>
        setting.target = key) = offered key property := by
  rw [ResolvedProperties.setting?_resolveProperty, offered]
  cases known : LayoutKey.ofKey property.1 with
  | none => rfl
  | some own =>
      rw [Option.bind_some]
      by_cases same : own = key
      · subst same
        rw [if_pos rfl]
        cases read : (readSetting own property.2 : Option (DirectiveSetting α)) with
        | none => rfl
        | some setting => simp [target_of_readSetting read]
      · rw [if_neg (by simpa using same)]
        cases read : (readSetting own property.2 : Option (DirectiveSetting α)) with
        | none => rfl
        | some setting => simp [target_of_readSetting read, same]

end Offered

namespace PropertyBag

theorem sorted_sanitize (bag : PropertyBag) : Dict.Sorted bag.sanitize := Dict.sorted_ofList _

/-- The properties that direct one part of the layout once their keys are sanitized. -/
def directing (key : LayoutKey) (bag : PropertyBag) : PropertyBag :=
  bag.filter fun property => LayoutKey.ofKey (sanitizeKey property.1) = some key

/-- Choosing the directing properties may come before or after sanitizing. -/
theorem sanitize_directing (key : LayoutKey) (bag : PropertyBag) :
    (bag.directing key).sanitize =
      bag.sanitize.filter fun property => LayoutKey.ofKey property.1 = some key := by
  have clean : (bag.directing key).map sanitizeEntry =
      (bag.map sanitizeEntry).filter fun property => LayoutKey.ofKey property.1 = some key := by
    rw [directing, List.filter_map]
    rfl
  rw [sanitize, clean]
  exact Dict.ofList_filter (fun name => decide (LayoutKey.ofKey name = some key)) _

/-- Two sorted bags direct the layout alike if the same stands under the keys that direct it. -/
theorem directing_eq_of_get?_eq {bag other : PropertyBag} {key : LayoutKey}
    (sorted : Dict.Sorted bag) (otherSorted : Dict.Sorted other)
    (same : ∀ name, LayoutKey.ofKey (sanitizeKey name) = some key → bag.get? name = other.get? name) :
    bag.directing key = other.directing key := by
  apply Dict.eq_of_get?_eq (sorted.filter _) (otherSorted.filter _)
  intro name
  rw [Dict.get?_filter_key fun name => decide (LayoutKey.ofKey (sanitizeKey name) = some key),
    Dict.get?_filter_key fun name => decide (LayoutKey.ofKey (sanitizeKey name) = some key)]
  split_ifs with directs
  · exact same name (of_decide_eq_true directs)
  · rfl

end PropertyBag

namespace PropertyBag

variable {α : Type} [Scalar α]

/-- The layout directive that is resolved from properties. -/
def directive (α : Type) [Scalar α] (schema : Option ComponentSchema) (bag : PropertyBag) :
    LayoutDirective α :=
  (ResolvedProperties.ofBag schema bag).layoutProperties

/-- Of the properties that offer a setting for a layout key the last one decides. -/
theorem setting?_directive (schema : Option ComponentSchema) (bag : PropertyBag)
    (key : LayoutKey) :
    (bag.directive α schema).setting? key = (bag.sanitize.filterMap (offered key)).getLast? := by
  have settings : ((ResolvedProperties.outcomesOf (α := α) schema bag.sanitize).filterMap
        PropertyOutcome.setting?).filter (·.target = key) =
      bag.sanitize.filterMap (offered key) := by
    rw [ResolvedProperties.outcomesOf, List.filterMap_map, List.filter_filterMap, looseProperties,
      List.filterMap_filter]
    refine List.filterMap_congr fun property _ => ?_
    split_ifs with loose
    · exact filter_setting?_resolveProperty schema key property
    · exact (offered_of_not_loose key (by simpa [or_iff_not_imp_left] using loose)).symm
  rw [← settings]
  exact LayoutDirective.setting?_foldl_set _ key

/-- The properties that direct one part of the layout settle it alone. -/
theorem setting?_directive_directing (schema : Option ComponentSchema) (bag : PropertyBag)
    (key : LayoutKey) :
    ((bag.directing key).directive α schema).setting? key =
      (bag.directive α schema).setting? key := by
  rw [setting?_directive, setting?_directive, sanitize_directing, List.filterMap_filter]
  congr 1
  refine List.filterMap_congr fun property _ => ?_
  split_ifs with directs
  · rfl
  · exact (if_neg (by simpa using directs)).symm

/-- Only the properties that direct one part of the layout count for it. -/
theorem setting?_directive_congr {schema : Option ComponentSchema} {bag other : PropertyBag}
    {key : LayoutKey} (same : bag.directing key = other.directing key) :
    (bag.directive α schema).setting? key = (other.directive α schema).setting? key := by
  rw [← setting?_directive_directing, same, setting?_directive_directing]

end PropertyBag

end DesignScene
