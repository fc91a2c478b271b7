/-
This file compares the frame of a shape that has children with the shape it is without them.
-/
import DesignScene.Proofs.Render.Labels
import DesignScene.Proofs.Render.Made
import DesignScene.Proofs.Document.Places

namespace DesignScene

open Outlines SceneGraph

section Reading

variable {α : Type} [Scalar α] {fields other : Dict Json}

/-- Every field but the lists of an item is the same. -/
def SameButLists (fields other : Dict Json) : Prop :=
  ∀ name, name ∉ ["items", "children"] → other.get? name = fields.get? name

def withoutLists (fields : Dict Json) : Dict Json := fields.filter (·.1 ∉ ["items", "children"])

/-- Overlaying the same fields keeps a shared entry shared. -/
theorem Dict.get?_overlay_congr {name : String} (same : other.get? name = fields.get? name)
    (later : Dict Json) : (other.overlay later).get? name = (fields.overlay later).get? name := by
  rw [Dict.overlay, Dict.overlay]
  induction later generalizing fields other with
  | nil => exact same
  | cons pair more ih =>
      apply ih
      show (other.insert pair.1 pair.2).get? name = (fields.insert pair.1 pair.2).get? name
      by_cases here : pair.1 = name
      · rw [here, Dict.get?_insert_self, Dict.get?_insert_self]
      · rw [Dict.get?_insert_of_ne here, Dict.get?_insert_of_ne here, same]

/-- Dropping the lists keeps all other fields. -/
theorem sameButLists_withoutLists (fields : Dict Json) :
    SameButLists fields (withoutLists fields) := by
  intro name apart
  exact Dict.get?_filter apart fields

/-- Merging keeps fields the same but for the lists. -/
theorem SameButLists.mergedFields (same : SameButLists fields other) :
    SameButLists (mergedFields fields) (mergedFields other) := by
  intro name apart
  rw [DesignScene.mergedFields, DesignScene.mergedFields, same "properties" (by decide)]
  split
  · exact Dict.get?_overlay_congr (same name apart) _
  · exact same name apart

section Fields

variable {names : List String}

/-- Reading a field that is no list does not see the lists. -/
theorem SameButLists.firstField {β : Type} (read : Json → Option β)
    (same : SameButLists fields other) (apart : ∀ name ∈ names, name ∉ ["items", "children"]) :
    firstField read names other = firstField read names fields := by
  rw [DesignScene.firstField, DesignScene.firstField]
  induction names with
  | nil => rfl
  | cons name more ih =>
      obtain ⟨here, rest⟩ := List.forall_mem_cons.mp apart
      rw [List.findSome?_cons, List.findSome?_cons, same name here, ih rest]

/-- Looking for a field that is no list does not see the lists. -/
theorem SameButLists.presentField (same : SameButLists fields other)
    (apart : ∀ name ∈ names, name ∉ ["items", "children"]) :
    presentField names other = presentField names fields := by
  have first := same.firstField some apart
  simp only [DesignScene.firstField, Option.bind_fun_some] at first
  exact first

end Fields

/-- No setting of a shape stands in its lists. -/
theorem SameButLists.shapeSpec (same : SameButLists fields other) (shape : Shape) :
    (ShapeSpec.ofFields shape other : ShapeSpec α) = ShapeSpec.ofFields shape fields := by
  have size (names : List String) (apart : ∀ name ∈ names, name ∉ ["items", "children"]) :
      (sizeField names other : Option α) = sizeField names fields := same.firstField readSize apart
  have text (names : List String) (apart : ∀ name ∈ names, name ∉ ["items", "children"]) :
      textField names other = textField names fields := same.firstField Json.asString? apart
  have color (names : List String) (apart : ∀ name ∈ names, name ∉ ["items", "children"]) :
      colorField names other = colorField names fields := by
    rw [colorField, colorField, same.presentField apart]
  simp (disch := decide) only [ShapeSpec.ofFields, LayoutDirective.ofFields, size, text, color]

end Reading

namespace LayoutItem

variable {item : Json}

/-- An item without its own lists. -/
def withoutItems : Json → Json
  | .object fields => .object (withoutLists fields)
  | json => json

/-- Without its lists an item keeps its type. -/
theorem typeOf?_withoutItems (item : Json) : typeOf? (withoutItems item) = typeOf? item := by
  cases item with
  | object fields =>
      have same := sameButLists_withoutLists fields "type" (by decide)
      exact congrArg (·.bind Json.asString?) same
  | _ => rfl

/-- Without its lists an item has no children of its own. -/
theorem ownList?_withoutItems (item : Json) : ownList? (withoutItems item) = none := by
  cases item with
  | object fields =>
      have noItems : (withoutLists fields).get? "items" = none :=
        Dict.get?_filter_of_mem (by decide) fields
      have noChildren : (withoutLists fields).get? "children" = none :=
        Dict.get?_filter_of_mem (by decide) fields
      show (((withoutLists fields).get? "items").or
        ((withoutLists fields).get? "children")).bind _ = none
      rw [noItems, noChildren]
      rfl
  | _ => rfl

variable {α : Type} [Scalar α]

/-- A shape with children becomes a container. -/
theorem ofShape_of_ne_nil (shape : Shape) (fields : Dict Json) {children : List (LayoutItem α)}
    (nonempty : children ≠ []) : ofShape shape fields children =
      container ((ShapeSpec.ofFields shape fields).toContainer fields) children := by
  cases children with
  | nil => exact absurd rfl nonempty
  | cons child more => rfl

/-- A shape with children is read as the container into which the shape without them goes. -/
theorem ofJson_shape_with_children (path : String) {itemType : String}
    (typed : typeOf? item = some itemType) (isShape : isShapeType itemType = true)
    (present : innerValues item ≠ []) :
    ∃ (shape : ShapeSpec α) (fields : Dict Json),
      ofJson path (withoutItems item) = .shape shape ∧
        ofJson path item = container (shape.toContainer fields)
          (ofElements (itemsPath path) 0 (innerValues item)) ∧
        shape = ShapeSpec.ofFields shape.shape fields := by
  have stillTyped := (typeOf?_withoutItems item).trans typed
  have noItems : innerValues (withoutItems item) = [] := by
    have notContainer := (isContainerType_of_isShapeType isShape).1
    simp only [innerValues, stillTyped, notContainer, isShape, ownList?_withoutItems, if_true,
      Bool.false_eq_true, if_false, Option.getD_none]
  obtain ⟨fields, rfl⟩ := eq_object_of_typeOf? typed
  have same := (sameButLists_withoutLists fields).mergedFields
  refine ⟨ShapeSpec.ofFields (shapeOfType itemType) (mergedFields fields), mergedFields fields,
    ?_, ?_, rfl⟩
  · rw [withoutItems] at stillTyped noItems ⊢
    rw [ofJson_shape stillTyped isShape, noItems, ofElements, ofShape, same.shapeSpec]
  · rw [ofJson_shape typed isShape]
    exact ofShape_of_ne_nil _ _ (ofElements_eq_nil_iff.not.mpr present)

end LayoutItem

namespace ShapeSpec

variable {α : Type}

/-- A container has the size, the corners and the directive of a shape. -/
structure GoesInto (shape : ShapeSpec α) (spec : ContainerSpec α) : Prop where
  width_eq : spec.width = shape.width
  height_eq : spec.height = shape.height
  cornerRadius_eq : ∀ radius, shape.cornerRadius = some radius → spec.cornerRadius = some radius
  directive_eq : spec.directive = shape.directive

/-- The shape has an image or a color that is known. -/
def IsFilled (styles : DesignStyles α) (shape : ShapeSpec α) : Prop :=
  shape.imageFill ≠ none ∨ ∃ color, shape.fill = some color ∧ styles.paints color ≠ []

/-- A shape goes into the container made of it. -/
theorem goesInto_toContainer [Scalar α] {shape : ShapeSpec α} {fields : Dict Json}
    (read : shape = ofFields shape.shape fields) : shape.GoesInto (shape.toContainer fields) where
  width_eq := rfl
  height_eq := rfl
  directive_eq := (congrArg ShapeSpec.directive read).symm
  cornerRadius_eq radius authored := by
    rw [toContainer]
    cases shape.shape with
    | rectangle => exact authored
    | ellipse =>
        show Option.or _ _ = _
        rw [authored, Option.some_or]

/-- A container takes over the color of a shape, but not its image. -/
theorem fills_toContainer_iff [Scalar α] (styles : DesignStyles α) (shape : ShapeSpec α)
    (fields : Dict Json) :
    (shape.toContainer fields).fills styles = shape.fills styles ↔
      shape.imageFill = none ∧ shape.fill ≠ none := by
  have same : (shape.toContainer fields).fills styles = shape.fill.elim [] styles.paints := rfl
  rw [same, fills]
  have noImage (color : ColorRef) (image : String) : styles.paints color ≠ [.image image] := by
    cases color with
    | rgb color => simp [DesignStyles.paints, Paint.ofColor]
    | named name =>
        rw [DesignStyles.paints]
        cases styles.resolveColor name <;> simp [Paint.ofColor]
  cases shape.imageFill <;> cases shape.fill <;> simp [noImage]

end ShapeSpec

namespace NodeKind

variable {α : Type}

/-- The paints with which a node is filled. -/
def fills : NodeKind α → List Paint
  | frame props => props.fills
  | text props => props.fills
  | rectangle props => props.fills
  | ellipse props => props.fills
  | image props => props.fills
  | _ => []

def cornerRadius : NodeKind α → Option α
  | frame props => props.cornerRadius
  | rectangle props => props.cornerRadius
  | ellipse props => props.cornerRadius
  | image props => props.cornerRadius
  | _ => none

/-- A shape node has the fills of the shape. -/
theorem fills_shapeKind (shape : Shape) (props : ShapeProps α) :
    (Stage.shapeKind shape props).fills = props.fills := by
  cases shape <;> rfl

end NodeKind

namespace Stage

variable {α σ : Type} [Scalar α]

/-- Neither layout nor a given width changes the fills and the corners of a frame. -/
theorem kind_newFrame (parent : Option Nat) (spec : ContainerSpec α) (fills : List Paint)
    (stage : Stage α σ) :
    (stage.newFrame parent spec fills).kind.fills = fills ∧
      (stage.newFrame parent spec fills).kind.cornerRadius = spec.cornerRadius := by
  have fixed (props : FrameProps α) :
      props.fixWidth.fills = props.fills ∧ props.fixWidth.cornerRadius = props.cornerRadius := by
    rw [FrameProps.fixWidth]
    split <;> exact ⟨rfl, rfl⟩
  have made (hugs : Bool) : (spec.frameProps hugs fills).fills = fills ∧
      (spec.frameProps hugs fills).cornerRadius = spec.cornerRadius := by
    rw [ContainerSpec.frameProps]
    split <;> exact ⟨rfl, rfl⟩
  simp only [newFrame, newNode, NodeKind.fills, NodeKind.cornerRadius]
  split
  · exact ⟨(fixed _).1.trans (made _).1, (fixed _).2.trans (made _).2⟩
  · exact made _

/-- Neither the children of a container nor the arranging change the kind of its frame. -/
theorem kind_renderItem_container (context : RenderContext α σ) {parent : Nat} (path : String)
    (spec : ContainerSpec α) (items : List (LayoutItem α)) {stage : Stage α σ}
    (sound : WellFormed stage.graph.outline) (within : parent < stage.graph.size) :
    ∃ frame, (renderItem context parent path (.container spec items) stage).graph.node?
        stage.graph.size = some frame ∧
      frame.kind = (stage.newFrame (some parent) spec (spec.fills context.styles)).kind := by
  have held := hasParent_some within
  have framed := grows_addFrame context spec held
  have framedSound := framed.wellFormed sound held
  have found := node?_addFrame_fills context spec held
  obtain ⟨sketches, -, filled⟩ :=
    grows_renderItems context items (itemsPath path) 0 framedSound framed.lt_size
  have kept := filled.node?_eq stage.graph.size framed.lt_size
  rw [found, Option.map_some, if_pos rfl] at kept
  have arranged : SceneGraph.Moves stage.graph.size _ _ := moves_arrangeGraph context.host
    (filled.wellFormed framedSound (hasParent_some framed.lt_size))
  have sameKind := arranged.kind_eq stage.graph.size
  rw [kept, Option.map_some, Option.map_eq_some_iff] at sameKind
  exact sameKind

/-- An item is rendered as a frame with children, and without its lists as a plain node, at one place. -/
structure Renders (context : RenderContext α σ) (parent : Nat) (path : String) (item : Json)
    (stage : Stage α σ) (shape : ShapeSpec α) (spec : ContainerSpec α)
    (made frame bare : SceneNode α) : Prop where
  read : LayoutItem.ofJson path item = .container spec
    (LayoutItem.ofElements (itemsPath path) 0 (LayoutItem.innerValues item))
  readBare : LayoutItem.ofJson path (LayoutItem.withoutItems item) = .shape shape
  found_made : (stage.addFrame context (some parent) spec).graph.node? stage.graph.size = some made
  found : (renderItem context parent path (LayoutItem.ofJson path item) stage).graph.node?
    stage.graph.size = some frame
  foundBare : (renderItem context parent path
    (LayoutItem.ofJson path (LayoutItem.withoutItems item)) stage).graph.node? stage.graph.size =
      some bare

section Frames

variable (context : RenderContext α σ) {parent : Nat} {item : Json} {itemType : String}
  {stage : Stage α σ}

/-- A shape with children becomes a frame with the fills of its container, and without them a plain node. -/
theorem exists_renders (path : String) (sound : WellFormed stage.graph.outline)
    (within : parent < stage.graph.size) (typed : LayoutItem.typeOf? item = some itemType)
    (isShape : LayoutItem.isShapeType itemType = true)
    (present : LayoutItem.innerValues item ≠ []) :
    ∃ (shape : ShapeSpec α) (fields : Dict Json) (frame : SceneNode α),
      Renders context parent path item stage shape (shape.toContainer fields)
          (stage.newFrame (some parent) (shape.toContainer fields)
            ((shape.toContainer fields).fills context.styles)) frame
          (stage.newShape parent shape (shape.fills context.styles)) ∧
        shape = ShapeSpec.ofFields shape.shape fields ∧
        frame.kind.fills = (shape.toContainer fields).fills context.styles ∧
        frame.kind.cornerRadius = (shape.toContainer fields).cornerRadius := by
  obtain ⟨shape, fields, readBare, read, spec_eq⟩ :=
    LayoutItem.ofJson_shape_with_children (α := α) path typed isShape present
  obtain ⟨frame, found, kind_eq⟩ := kind_renderItem_container context path
    (shape.toContainer fields)
    (LayoutItem.ofElements (itemsPath path) 0 (LayoutItem.innerValues item)) sound within
  obtain ⟨fills_eq, cornerRadius_eq⟩ := kind_newFrame (some parent) (shape.toContainer fields)
    ((shape.toContainer fields).fills context.styles) stage
  refine ⟨shape, fields, frame, ⟨read, readBare, ?_, ?_, ?_⟩, spec_eq, ?_, ?_⟩
  · exact node?_addFrame_fills context _ (hasParent_some within)
  · rw [read, found]
  · rw [readBare, renderItem, node?_renderShape_fills context shape within]
  · rw [kind_eq, fills_eq]
  · rw [kind_eq, cornerRadius_eq]

/-- A shape's frame has its size and corners, and its fills unless the shape has an image. -/
theorem frame_of_shape_iff (path : String) (sound : WellFormed stage.graph.outline)
    (within : parent < stage.graph.size) (typed : LayoutItem.typeOf? item = some itemType)
    (isShape : LayoutItem.isShapeType itemType = true)
    (present : LayoutItem.innerValues item ≠ []) :
    ∃ shape spec made frame bare,
      Renders context parent path item stage shape spec made frame bare ∧
      shape.GoesInto spec ∧
      (∀ width, shape.width = some width → made.width = width) ∧
      (∀ height, shape.height = some height → made.height = height) ∧
      (∀ radius, shape.cornerRadius = some radius → frame.kind.cornerRadius = some radius) ∧
      (shape.IsFilled context.styles →
        (frame.kind.fills = bare.kind.fills ↔ shape.imageFill = none)) := by
  obtain ⟨shape, fields, frame, renders, spec_eq, fills_eq, cornerRadius_eq⟩ :=
    exists_renders context path sound within typed isShape present
  have goes := ShapeSpec.goesInto_toContainer spec_eq
  refine ⟨shape, _, _, frame, _, renders, goes, ?_, ?_, ?_, ?_⟩
  · intro width authored
    exact width_newFrame_of_width _ _ _ (goes.width_eq.trans authored)
  · intro height authored
    have same := goes.height_eq.trans authored
    simp only [newFrame, newNode, same, Option.getD_some]
  · intro radius authored
    exact cornerRadius_eq.trans (goes.cornerRadius_eq radius authored)
  · intro filled
    have bareFills : (stage.newShape parent shape (shape.fills context.styles)).kind.fills =
        shape.fills context.styles := NodeKind.fills_shapeKind _ _
    rw [fills_eq, bareFills, ShapeSpec.fills_toContainer_iff]
    constructor
    · intro same
      exact same.1
    · intro noImage
      refine ⟨noImage, ?_⟩
      rcases filled with hasImage | ⟨color, authored, -⟩
      · exact absurd noImage hasImage
      · rw [authored]
        exact Option.some_ne_none color

def caption : Json := .object [("text", .string "Hi"), ("type", .string "text")]

/-- A red card with round corners and a text in it. -/
def redCard : Json :=
  .object
    [("cornerRadius", .number (.int 8)), ("fill", .string "#FF0000"), ("items", .array [caption]),
      ("type", .string "native-rectangle"), ("width", .number (.int 120))]

/-- The frame of the card is as wide, as round and as red as the card. -/
theorem frame_of_red_card : ∃ shape spec made frame bare,
    Renders plainContext 0 "items[0]" redCard framed shape spec made frame bare ∧
      made.width = 120 ∧ frame.kind.cornerRadius = some 8 ∧ frame.kind.fills = bare.kind.fills := by
  obtain ⟨shape, spec, made, frame, bare, renders, -, width_eq, -, cornerRadius_eq, fills_iff⟩ :=
    frame_of_shape_iff plainContext "items[0]" wellFormed_framed
      (show 0 < framed.graph.size by decide)
      (show LayoutItem.typeOf? redCard = some "native-rectangle" from rfl) (by decide) (by decide)
  have read := renders.readBare
  cases LayoutItem.shape.inj read
  refine ⟨_, spec, made, frame, bare, renders, width_eq 120 rfl, cornerRadius_eq 8 rfl, ?_⟩
  exact (fills_iff (.inr ⟨_, rfl, List.cons_ne_nil _ _⟩)).mpr rfl

/-- A card with an image and a text on it. -/
def imageCard : Json :=
  .object
    [("imageFill", .string "hero.png"), ("items", .array [caption]),
      ("type", .string "native-rectangle")]

/-- The frame of a card with an image has no fill. -/
theorem image_lost_below_children :
    ¬∀ (context : RenderContext Rat Unit) (parent : Nat) (path itemType : String) (item : Json)
      (stage : Stage Rat Unit), WellFormed stage.graph.outline → parent < stage.graph.size →
        LayoutItem.typeOf? item = some itemType → LayoutItem.isShapeType itemType = true →
          LayoutItem.innerValues item ≠ [] →
            ∀ shape spec made frame bare,
              Renders context parent path item stage shape spec made frame bare →
                shape.IsFilled context.styles → frame.kind.fills = bare.kind.fills := by
  intro every
  obtain ⟨shape, fields, frame, renders, -, fills_eq, -⟩ :=
    exists_renders plainContext "items[0]" wellFormed_framed
      (show 0 < framed.graph.size by decide)
      (show LayoutItem.typeOf? imageCard = some "native-rectangle" from rfl) (by decide) (by decide)
  have filled := every plainContext 0 "items[0]" "native-rectangle" imageCard framed
    wellFormed_framed (by decide) rfl (by decide) (by decide) shape _ _ frame _ renders
  cases LayoutItem.shape.inj renders.readBare
  have same := filled (.inl nofun)
  rw [fills_eq] at same
  exact absurd same nofun

end Frames

end Stage

end DesignScene
