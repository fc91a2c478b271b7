/-
This file says from which values of a layout the sizes of its document are read.
-/
import DesignScene.Proofs.Document.Tree
import DesignScene.Proofs.Scalar.Finite
import DesignScene.Proofs.Text.Letters

namespace DesignScene

section Sizes

variable {α : Type}

def Padding.sizes (padding : Padding α) : List α :=
  [padding.top, padding.right, padding.bottom, padding.left]

def ItemSpacing.sizes : ItemSpacing α → List α
  | .fixed gap => [gap]
  | .auto => []

def LayoutDirective.sizes (directive : LayoutDirective α) : List α :=
  [directive.layoutGrow, directive.constraints.minWidth, directive.constraints.maxWidth,
    directive.constraints.minHeight, directive.constraints.maxHeight].reduceOption

def ContainerSpec.sizes (spec : ContainerSpec α) : List α :=
  [spec.width, spec.height, spec.cornerRadius].reduceOption ++
    (spec.padding.sizes ++ spec.itemSpacing.sizes) ++ spec.directive.sizes

def TextSpec.sizes (spec : TextSpec α) : List α := spec.fontSize.toList ++ spec.directive.sizes

def ShapeSpec.sizes (spec : ShapeSpec α) : List α :=
  [spec.width, spec.height, spec.cornerRadius].reduceOption ++ spec.directive.sizes

/-- The sizes that are kept for an item, apart from those of the items inside it. -/
def LayoutItem.sizes : LayoutItem α → List α
  | container spec _ => spec.sizes
  | text spec => spec.sizes
  | shape spec => spec.sizes
  | component _ => []
  | malformed _ _ => []

/-- The size is kept for the root of the document or for an item at any depth. -/
def LayoutDocument.HasSize (document : LayoutDocument α) (size : α) : Prop :=
  size ∈ document.root.sizes ∨ ∃ node, document.Holds node ∧ size ∈ node.sizes

end Sizes

section Sources

/-- The numeral of a text that a size is read from. -/
def sizeNumeral? (text : String) : Option Decimal.Numeral :=
  Decimal.readNumeral (String.ofList (dropUnits (Text.trimChars text.toList)))

/-- A size is read from a number, or from the text of a numeral. -/
def givesSize : Json → Bool
  | .number _ => true
  | .string text => (sizeNumeral? text).isSome
  | _ => false

/-- The value of the first of the named fields from which a size is read. -/
def sizeSource? (names : List String) (fields : Dict Json) : Option Json :=
  names.findSome? fun name => (fields.get? name).filter givesSize

def sizeSources (names : List (List String)) (fields : Dict Json) : List Json :=
  names.filterMap (sizeSource? · fields)

/-- The sizes of a box. -/
def boxNames : List (List String) := [["width"], ["height"], ["cornerRadius"]]

/-- The sizes of the free space in a box. -/
def spaceNames : List (List String) :=
  [["paddingTop"], ["paddingRight"], ["paddingBottom"], ["paddingLeft"], ["itemSpacing"]]

/-- The sizes of a layout directive. -/
def directiveNames : List (List String) :=
  [["layoutGrow"], ["minWidth"], ["maxWidth"], ["minHeight"], ["maxHeight"]]

/-- A container has its own settings, and its directive may also stand in other fields. -/
def containerSources (own fields : Dict Json) : List Json :=
  sizeSources (boxNames ++ spaceNames) own ++
    directiveNames.filterMap fun names => (sizeSource? names own).or (sizeSource? names fields)

/-- The settings of a container item stand in a container of their own or in its fields. -/
def ownSettings (fields : Dict Json) : Dict Json :=
  ((fields.get? "layoutContainer").bind Json.asObject?).getD fields

/-- The values that the sizes of an item are read from. -/
def itemSources (item : Json) : List Json :=
  let fields := item.asObject?.getD []
  match LayoutItem.typeOf? item with
  | none => []
  | some itemType =>
      if LayoutItem.isContainerType itemType then containerSources (ownSettings fields) fields
      else if LayoutItem.isTextType itemType then
        sizeSources (["fontSize", "size"] :: directiveNames) (mergedFields fields)
      else if LayoutItem.isShapeType itemType then
        sizeSources boxNames (mergedFields fields) ++
          (if LayoutItem.innerValues item = [] then []
            else sizeSources spaceNames (mergedFields fields)) ++
          sizeSources directiveNames (mergedFields fields)
      else []

namespace LayoutDocument

/-- The values that the sizes of the root are read from. -/
def rootSources (layout : Json) : List Json :=
  ((layout.field? "layoutContainer").bind Json.asObject?).elim [] fun own =>
    containerSources own own

/-- A size of the document is read from this value of the layout. -/
def IsSizeSource (layout source : Json) : Prop :=
  source ∈ rootSources layout ∨ ∃ item, IsItemOf layout item ∧ source ∈ itemSources item

end LayoutDocument

end Sources

section Reading

/-- The size that is read from the value is finite if there is one. -/
def GivesFinite (source : Json) : Prop :=
  ∀ size ∈ (readSize source : Option Float), size.isFinite = true

/-- A text gives the size of its numeral. -/
theorem readSize_string (text : String) :
    (readSize (.string text) : Option Float) =
      (sizeNumeral? text).bind fun numeral => some numeral.toFloat :=
  rfl

/-- A value can be read as a size exactly if it gives one. -/
theorem isSome_readSize (value : Json) :
    (readSize value : Option Float).isSome = givesSize value := by
  cases value with
  | string text =>
      rw [readSize_string, givesSize]
      cases sizeNumeral? text <;> rfl
  | _ => rfl

variable {names : List String} {own fields : Dict Json}

/-- A field from which no size is read counts as absent. -/
theorem bind_readSize_filter (value : Option Json) :
    (value.filter givesSize).bind readSize = (value.bind readSize : Option Float) := by
  cases value with
  | none => rfl
  | some value =>
      cases gives : givesSize value with
      | true => rw [Option.filter_some_pos gives]
      | false =>
          rw [Option.filter_some_neg gives]
          rw [← isSome_readSize, Option.isSome_eq_false_iff, Option.isNone_iff_eq_none] at gives
          exact gives.symm

/-- The first field from which a size is read gives the size. -/
theorem sizeField_eq (names : List String) (fields : Dict Json) :
    (sizeField names fields : Option Float) = (sizeSource? names fields).bind readSize := by
  unfold sizeField firstField sizeSource?
  induction names with
  | nil => rfl
  | cons name more ih =>
      rw [List.findSome?_cons, List.findSome?_cons, ← bind_readSize_filter]
      cases found : (fields.get? name).filter givesSize with
      | none => exact ih
      | some source =>
          have gives := (Option.filter_eq_some_iff.mp found).2
          rw [← isSome_readSize] at gives
          obtain ⟨size, isSize⟩ := Option.isSome_iff_exists.mp gives
          simp only [Option.bind_some, isSize]

/-- A size is read exactly if it has a source. -/
theorem isSome_sizeField (names : List String) (fields : Dict Json) :
    (sizeField names fields : Option Float).isSome = (sizeSource? names fields).isSome := by
  rw [sizeField_eq]
  cases found : sizeSource? names fields with
  | none => rfl
  | some source =>
      obtain ⟨name, -, isField⟩ := List.exists_of_findSome?_eq_some found
      rw [Option.bind_some, isSome_readSize, (Option.filter_eq_some_iff.mp isField).2]
      rfl

/-- A size is finite exactly if its source gives a finite one. -/
theorem finite_sizeField_iff :
    (∀ size ∈ (sizeField names fields : Option Float), size.isFinite = true) ↔
      ∀ source ∈ sizeSource? names fields, GivesFinite source := by
  rw [sizeField_eq]
  cases sizeSource? names fields with
  | none => simp
  | some source => simp [GivesFinite]

/-- Where the first fields give no size, the second ones count. -/
theorem finite_or_iff :
    (∀ size ∈ (sizeField names own : Option Float).or (sizeField names fields),
      size.isFinite = true) ↔
      ∀ source ∈ (sizeSource? names own).or (sizeSource? names fields), GivesFinite source := by
  have present := isSome_sizeField names own
  cases found : sizeSource? names own with
  | none =>
      rw [found, Option.isSome_none, Option.isSome_eq_false_iff,
        Option.isNone_iff_eq_none] at present
      rw [present, Option.none_or, Option.none_or]
      exact finite_sizeField_iff
  | some source =>
      rw [found, Option.isSome_some] at present
      obtain ⟨size, isSize⟩ := Option.isSome_iff_exists.mp present
      rw [isSize, Option.some_or, Option.some_or, ← isSize, ← found]
      exact finite_sizeField_iff

theorem isFinite_zero : (Scalar.ofNat 0 : Float).isFinite = true := by decide

/-- A size with zero as its default is finite if the size is. -/
theorem finite_getD_iff {size : Option Float} :
    (size.getD (Scalar.ofNat 0)).isFinite = true ↔ ∀ found ∈ size, found.isFinite = true := by
  cases size with
  | none => exact iff_of_true isFinite_zero (by simp)
  | some size => simp

/-- The word for automatic sizes is no numeral. -/
theorem sizeNumeral?_auto {text : String}
    (auto : Text.equalIgnoringAsciiCase text "AUTO" = true) : sizeNumeral? text = none := by
  have lower : text.toList.map Char.toLower = ['a', 'u', 't', 'o'] := eq_of_beq auto
  obtain ⟨first, rest, chars, isA, lower⟩ := List.map_eq_cons_iff.mp lower
  obtain ⟨second, rest, rfl, isU, lower⟩ := List.map_eq_cons_iff.mp lower
  obtain ⟨third, rest, rfl, isT, lower⟩ := List.map_eq_cons_iff.mp lower
  obtain ⟨fourth, rest, rfl, isO, lower⟩ := List.map_eq_cons_iff.mp lower
  obtain rfl := List.map_eq_nil_iff.mp lower
  unfold sizeNumeral? Decimal.readNumeral
  rw [chars, String.toList_ofList]
  rcases Text.eq_or_eq_of_toLower 'A' isA (by decide) with rfl | rfl <;>
    rcases Text.eq_or_eq_of_toLower 'U' isU (by decide) with rfl | rfl <;>
    rcases Text.eq_or_eq_of_toLower 'T' isT (by decide) with rfl | rfl <;>
    rcases Text.eq_or_eq_of_toLower 'O' isO (by decide) with rfl | rfl <;> decide

/-- Automatic spacing has no size, and its word is no numeral. -/
theorem finite_itemSpacing_iff :
    (∀ size ∈ (readItemSpacing (fields.get? "itemSpacing") : ItemSpacing Float).sizes,
      size.isFinite = true) ↔
      ∀ source ∈ sizeSource? ["itemSpacing"] fields, GivesFinite source := by
  rw [← finite_sizeField_iff]
  have single : (sizeField ["itemSpacing"] fields : Option Float) =
      (fields.get? "itemSpacing").bind readSize := by
    rw [sizeField, firstField, List.findSome?_singleton]
  rw [single]
  have fixed (value : Json) :
      (∀ size ∈ (ItemSpacing.fixed ((readSize value).getD (Scalar.ofNat 0)) :
        ItemSpacing Float).sizes, size.isFinite = true) ↔
        ∀ size ∈ (readSize value : Option Float), size.isFinite = true := by
    rw [ItemSpacing.sizes, List.forall_mem_singleton, finite_getD_iff]
  cases fields.get? "itemSpacing" with
  | none =>
      have zero : (readItemSpacing none : ItemSpacing Float).sizes = [Scalar.ofNat 0] := rfl
      rw [zero, List.forall_mem_singleton]
      exact iff_of_true isFinite_zero (by simp)
  | some value =>
      rw [Option.bind_some]
      cases value with
      | string text =>
          rw [readItemSpacing]
          split_ifs with auto
          · rw [readSize_string, sizeNumeral?_auto auto, ItemSpacing.sizes]
            simp
          · exact fixed _
      | _ => exact fixed _

theorem forall_mem_reduceOption {α : Type} {list : List (Option α)} {holds : α → Prop} :
    (∀ value ∈ list.reduceOption, holds value) ↔ ∀ option ∈ list, ∀ value ∈ option, holds value :=
  List.forall_mem_filterMap

/-- The sources of several fields are those of each of them. -/
theorem forall_mem_sizeSources {names : List (List String)} :
    (∀ source ∈ sizeSources names fields, GivesFinite source) ↔
      ∀ field ∈ names, ∀ source ∈ sizeSource? field fields, GivesFinite source :=
  List.forall_mem_filterMap

/-- The sizes of a box are finite exactly if their sources are. -/
theorem finite_box_iff :
    (∀ size ∈ ([sizeField ["width"] fields, sizeField ["height"] fields,
        sizeField ["cornerRadius"] fields] : List (Option Float)).reduceOption,
      size.isFinite = true) ↔ ∀ source ∈ sizeSources boxNames fields, GivesFinite source := by
  simp only [forall_mem_reduceOption, forall_mem_sizeSources, boxNames, List.forall_mem_cons,
    finite_sizeField_iff, List.not_mem_nil, false_implies, implies_true]

/-- So are paddings and spacing. -/
theorem finite_space_iff :
    (∀ size ∈ (readPadding fields : Padding Float).sizes ++
        (readItemSpacing (fields.get? "itemSpacing") : ItemSpacing Float).sizes,
      size.isFinite = true) ↔ ∀ source ∈ sizeSources spaceNames fields, GivesFinite source := by
  simp only [List.forall_mem_append, forall_mem_sizeSources, spaceNames, List.forall_mem_cons,
    Padding.sizes, readPadding, finite_getD_iff, finite_sizeField_iff, finite_itemSpacing_iff,
    List.not_mem_nil, false_implies, implies_true, and_true, and_assoc]

/-- Of two directives the sizes of the first one come before those of the second one. -/
theorem finite_directive_iff (own fields : Dict Json) :
    (∀ size ∈ ((LayoutDirective.ofFields own : LayoutDirective Float).orElse
        (LayoutDirective.ofFields fields)).sizes, size.isFinite = true) ↔
      ∀ source ∈ directiveNames.filterMap fun names =>
        (sizeSource? names own).or (sizeSource? names fields), GivesFinite source := by
  simp only [LayoutDirective.sizes, LayoutDirective.orElse, SizeConstraints.orElse,
    LayoutDirective.ofFields, forall_mem_reduceOption, List.forall_mem_filterMap, directiveNames,
    List.forall_mem_cons, List.not_mem_nil, false_implies, implies_true, and_true,
    ← Option.mem_def, finite_or_iff]

/-- Sizes that are joined come from joined sources. -/
theorem finite_append_iff {first second : List Float} {sources more : List Json}
    (left : (∀ size ∈ first, size.isFinite = true) ↔ ∀ source ∈ sources, GivesFinite source)
    (right : (∀ size ∈ second, size.isFinite = true) ↔ ∀ source ∈ more, GivesFinite source) :
    (∀ size ∈ first ++ second, size.isFinite = true) ↔
      ∀ source ∈ sources ++ more, GivesFinite source := by
  rw [List.forall_mem_append, List.forall_mem_append]
  exact and_congr left right

theorem sizeSources_append (names more : List (List String)) (fields : Dict Json) :
    sizeSources (names ++ more) fields = sizeSources names fields ++ sizeSources more fields :=
  List.filterMap_append

/-- A directive is laid over itself without a change. -/
theorem LayoutDirective.orElse_self {α : Type} (directive : LayoutDirective α) :
    directive.orElse directive = directive := by
  simp [LayoutDirective.orElse, SizeConstraints.orElse]

theorem finite_ownDirective_iff :
    (∀ size ∈ (LayoutDirective.ofFields fields : LayoutDirective Float).sizes,
      size.isFinite = true) ↔ ∀ source ∈ sizeSources directiveNames fields, GivesFinite source := by
  have same := finite_directive_iff fields fields
  simp only [LayoutDirective.orElse_self, Option.or_self] at same
  exact same

/-- The sizes of a container with these settings and this directive. -/
theorem finite_container_iff {spec : ContainerSpec Float}
    (sizes : spec.sizes =
      ([sizeField ["width"] own, sizeField ["height"] own, sizeField ["cornerRadius"] own] :
          List (Option Float)).reduceOption ++
        ((readPadding own).sizes ++ (readItemSpacing (own.get? "itemSpacing")).sizes) ++
        ((LayoutDirective.ofFields own).orElse (LayoutDirective.ofFields fields)).sizes) :
    (∀ size ∈ spec.sizes, size.isFinite = true) ↔
      ∀ source ∈ containerSources own fields, GivesFinite source := by
  rw [sizes, containerSources, sizeSources_append]
  exact finite_append_iff (finite_append_iff finite_box_iff finite_space_iff)
    (finite_directive_iff own fields)

/-- The sizes of a container that is read from fields are finite exactly if their sources are. -/
theorem finite_ofFields_iff :
    (∀ size ∈ (ContainerSpec.ofFields fields : ContainerSpec Float).sizes,
      size.isFinite = true) ↔ ∀ source ∈ containerSources fields fields, GivesFinite source := by
  refine finite_container_iff ?_
  rw [LayoutDirective.orElse_self]
  rfl

/-- So are those of a container that is read from an item. -/
theorem finite_ofItem_iff :
    (∀ size ∈ (ContainerSpec.ofItem fields : ContainerSpec Float).sizes,
      size.isFinite = true) ↔
      ∀ source ∈ containerSources (ownSettings fields) fields, GivesFinite source := by
  refine finite_container_iff ?_
  unfold ContainerSpec.ofItem ownSettings
  cases fields.get? "layoutContainer" with
  | none =>
      dsimp only [Option.bind_none, Option.getD_none]
      rw [LayoutDirective.orElse_self]
      rfl
  | some value =>
      cases value with
      | object inner => rfl
      | _ =>
          show (ContainerSpec.ofFields fields : ContainerSpec Float).sizes = _
          dsimp only [Option.bind_some, Json.asObject?, Option.getD_none]
          rw [LayoutDirective.orElse_self]
          rfl

/-- The sizes of a text are finite exactly if their sources are. -/
theorem finite_text_iff :
    (∀ size ∈ (TextSpec.ofFields fields : TextSpec Float).sizes, size.isFinite = true) ↔
      ∀ source ∈ sizeSources (["fontSize", "size"] :: directiveNames) fields,
        GivesFinite source := by
  have fontSize : (∀ size ∈ (sizeField ["fontSize", "size"] fields : Option Float).toList,
      size.isFinite = true) ↔ ∀ source ∈ sizeSources [["fontSize", "size"]] fields,
        GivesFinite source := by
    rw [forall_mem_sizeSources, List.forall_mem_singleton, ← finite_sizeField_iff]
    exact forall_congr' fun size => imp_congr_left Option.mem_toList
  rw [TextSpec.sizes, ← List.singleton_append, sizeSources_append]
  exact finite_append_iff fontSize finite_ownDirective_iff

/-- The sizes of a shape are finite exactly if their sources are. -/
theorem finite_shape_iff {shape : Shape} :
    (∀ size ∈ (ShapeSpec.ofFields shape fields : ShapeSpec Float).sizes, size.isFinite = true) ↔
      ∀ source ∈ sizeSources boxNames fields ++ [] ++ sizeSources directiveNames fields,
        GivesFinite source := by
  rw [ShapeSpec.sizes, List.append_nil]
  exact finite_append_iff finite_box_iff finite_ownDirective_iff

/-- Half a width is finite if the width is. -/
theorem finite_radius_iff {width height radius : Option Float} :
    (∀ size ∈ [width, height,
        radius.or (width.map fun width => width / Scalar.ofNat 2)].reduceOption,
      size.isFinite = true) ↔
      ∀ size ∈ [width, height, radius].reduceOption, size.isFinite = true := by
  simp only [forall_mem_reduceOption, List.forall_mem_cons]
  refine and_congr_right fun finite => and_congr_right fun _ => and_congr_left fun _ => ?_
  cases radius with
  | some radius => rw [Option.some_or]
  | none =>
      rw [Option.none_or]
      refine iff_of_true (fun size isHalf => ?_) (by simp)
      obtain ⟨whole, isWidth, rfl⟩ := Option.map_eq_some_iff.mp isHalf
      exact Doubles.isFinite_half (finite whole isWidth)

/-- The radius of an ellipse that becomes a container is by default half its width. -/
theorem finite_toContainer_iff {shape : Shape} :
    (∀ size ∈ ((ShapeSpec.ofFields shape fields : ShapeSpec Float).toContainer fields).sizes,
      size.isFinite = true) ↔
      ∀ source ∈ sizeSources boxNames fields ++ sizeSources spaceNames fields ++
        sizeSources directiveNames fields, GivesFinite source := by
  refine finite_append_iff (finite_append_iff ?_ finite_space_iff) finite_ownDirective_iff
  cases shape with
  | rectangle => exact finite_box_iff
  | ellipse => exact finite_radius_iff.trans finite_box_iff

/-- The sizes of an item are finite exactly if its sources give finite sizes. -/
theorem finite_item_iff (path : String) (item : Json) :
    (∀ size ∈ (LayoutItem.ofJson path item : LayoutItem Float).sizes, size.isFinite = true) ↔
      ∀ source ∈ itemSources item, GivesFinite source := by
  cases typed : LayoutItem.typeOf? item with
  | none =>
      obtain ⟨reason, read⟩ := LayoutItem.ofJson_untyped (α := Float) path typed
      simp [read, itemSources, typed, LayoutItem.sizes]
  | some itemType =>
      obtain ⟨fields, rfl⟩ := LayoutItem.eq_object_of_typeOf? typed
      simp only [itemSources, typed, Json.asObject?, Option.getD_some]
      rcases LayoutItem.type_cases itemType with isContainer | isText | isShape | isComponent
      · rw [LayoutItem.ofJson_container typed isContainer, if_pos isContainer]
        exact finite_ofItem_iff
      · rw [LayoutItem.ofJson_text typed isText, if_pos isText,
          if_neg (by simp [LayoutItem.isContainerType_of_isTextType isText])]
        exact finite_text_iff
      · rw [LayoutItem.ofJson_shape typed isShape, if_pos isShape,
          if_neg (by simp [(LayoutItem.isContainerType_of_isShapeType isShape).1]),
          if_neg (by simp [(LayoutItem.isContainerType_of_isShapeType isShape).2])]
        cases inner : LayoutItem.innerValues (.object fields) with
        | nil =>
            rw [if_pos rfl]
            exact finite_shape_iff
        | cons first more =>
            rw [if_neg (List.cons_ne_nil first more)]
            exact finite_toContainer_iff
      · rw [LayoutItem.ofJson_component typed isComponent]
        simp only [LayoutItem.isComponentType_eq, Bool.not_eq_true', Bool.or_eq_false_iff]
          at isComponent
        simp [LayoutItem.sizes, isComponent]

namespace LayoutDocument

variable {layout : Json} {document : LayoutDocument Float}

/-- The sizes of a standard container are finite. -/
theorem isFinite_of_mem_standard :
    ∀ size ∈ (ContainerSpec.standard : ContainerSpec Float).sizes, size.isFinite = true := by
  have zeros : (ContainerSpec.standard : ContainerSpec Float).sizes =
      List.replicate 5 (Scalar.ofNat 0) := rfl
  rw [zeros]
  intro size member
  rw [List.eq_of_mem_replicate member]
  exact isFinite_zero

/-- The sizes of a root are finite exactly if its sources are. -/
theorem finite_root_iff (read : ofJson layout = .ok document) :
    (∀ size ∈ document.root.sizes, size.isFinite = true) ↔
      ∀ source ∈ rootSources layout, GivesFinite source := by
  rw [root_eq_of_ofJson read, rootSources]
  cases (layout.field? "layoutContainer").bind Json.asObject? with
  | none => exact iff_of_true isFinite_of_mem_standard (by simp)
  | some own => exact finite_ofFields_iff

/-- All sizes of a document are finite exactly if its sources give finite sizes. -/
theorem finite_document_iff (read : ofJson layout = .ok document) :
    (∀ size, document.HasSize size → size.isFinite = true) ↔
      ∀ source, IsSizeSource layout source → GivesFinite source := by
  constructor
  · intro finite source isSource
    rcases isSource with ofRoot | ⟨item, placed, ofItem⟩
    · exact (finite_root_iff read).mp (fun size member => finite size (.inl member)) source ofRoot
    · obtain ⟨path, held⟩ := exists_path_of_isItemOf read placed
      exact (finite_item_iff path item).mp
        (fun size member => finite size (.inr ⟨_, held, member⟩)) source ofItem
  · intro good size kept
    rcases kept with ofRoot | ⟨node, held, ofItem⟩
    · exact (finite_root_iff read).mpr (fun source member => good source (.inl member)) size ofRoot
    · obtain ⟨item, path, placed, rfl⟩ := exists_value_of_holds read held
      exact (finite_item_iff path item).mpr
        (fun source member => good source (.inr ⟨item, placed, member⟩)) size ofItem

end LayoutDocument

end Reading

end DesignScene
