/-
This file says which items end within the bounds that they author.
-/
import DesignScene.Proofs.Render.FinalSizes
import DesignScene.Proofs.Scene.Bounds

namespace DesignScene

namespace Filling

variable {σ : Type} {context : RenderContext Rat σ} {filling : Filling Rat σ}
  {siblings : Siblings Rat} {item : LayoutItem Rat} {made node : SceneNode Rat}

/-- A width that is given to the item is bounded, and otherwise it keeps the width of its making. -/
theorem Becomes.admitsWidth_iff (becomes : Becomes context filling siblings item made node)
    (ordered : made.constraints.Ordered) :
    made.constraints.AdmitsWidth node.width ↔
      ((filling.widthFor? context siblings).or (filling.ownWidth? context siblings item) = none →
        made.constraints.AdmitsWidth made.width) := by
  rw [becomes.width_eq]
  cases (filling.widthFor? context siblings).or (filling.ownWidth? context siblings item) with
  | none => simp only [Option.elim_none, true_imp_iff]
  | some width =>
      simp only [Option.elim_some, reduceCtorEq, false_imp_iff, iff_true]
      exact ordered.admitsWidth_clampWidth width

/-- A frame keeps its height bounds just when no later height breaks them. -/
theorem Becomes.admitsHeight_iff (becomes : Becomes context filling siblings item made node)
    (ordered : made.constraints.Ordered) :
    made.constraints.AdmitsHeight node.height ↔
      ((filling.heightFor? context siblings).or (filling.ownHeight? context siblings item) = none →
        made.constraints.AdmitsHeight
          (Stage.measured context.host { made with width := node.width }).height) := by
  constructor
  · intro admitted notGiven
    rwa [← becomes.height_eq notGiven]
  · intro measured
    by_cases notGiven : (filling.heightFor? context siblings).or
        (filling.ownHeight? context siblings item) = none
    · rw [becomes.height_eq notGiven]
      exact measured notGiven
    · obtain ⟨height, isBounded⟩ := becomes.exists_height notGiven
      rw [isBounded]
      exact ordered.admitsHeight_clampHeight height

/-- An item keeps its bounds exactly where it is made within them, apart from sizes given to it later. -/
theorem within_bounds_iff {document : LayoutDocument Rat} {text : String} {hostState : σ}
    {above : List (ContainerSpec Rat)}
    (read : Scene.readDocument context.registry text = .ok document) (cursor : CanvasCursor Rat)
    (fills : Fills context document hostState above filling)
    (here : filling.items = siblings.around item) (ordered : item.constraints.Ordered) :
    ∃ made node, filling.made? context siblings item = some made ∧
      (Scene.ofText context text cursor hostState).1.1.graph.node?
        (filling.site context siblings).start = some node ∧
      (node.isPlaceholder = false →
        (item.constraints.AdmitsWidth node.width ∧ item.constraints.AdmitsHeight node.height ↔
          ((filling.widthFor? context siblings).or (filling.ownWidth? context siblings item) = none →
            item.constraints.AdmitsWidth made.width) ∧
          ((filling.heightFor? context siblings).or (filling.ownHeight? context siblings item) =
              none →
            item.constraints.AdmitsHeight
              (Stage.measured context.host { made with width := node.width }).height))) := by
  obtain ⟨made, node, found, becomes⟩ := exists_becomes fills cursor here
  rw [graph_ofText cursor read]
  refine ⟨made, node, becomes.found, found, fun built => ?_⟩
  have madeBuilt : made.isPlaceholder = false := by
    rwa [SceneNode.isPlaceholder, becomes.kind_eq] at built
  have authored := becomes.makes.constraints_eq madeBuilt
  rw [← authored] at ordered ⊢
  exact and_congr (becomes.admitsWidth_iff ordered) (becomes.admitsHeight_iff ordered)

section Columns

/-- A column at most 9 wide around a rectangle 100 wide. -/
def narrowColumn : LayoutItem Rat :=
  .container (columnOf none { constraints := { maxWidth := some 9 } })
    [.shape ⟨.rectangle, none, none, none, none, none, {}⟩]

def narrowDocument : LayoutDocument Rat := ⟨ContainerSpec.standard, [narrowColumn]⟩

def narrowText : String :=
  "\x7b\"items\":[\x7b\"type\":\"frame\",\"layoutMode\":\"VERTICAL\",\"maxWidth\":9,\"items\":[\x7b\"type\":\"native-rectangle\"\x7d]\x7d]\x7d"

set_option maxRecDepth 10000 in
theorem read_narrowText :
    Scene.readDocument Stage.plainContext.registry narrowText = .ok narrowDocument := by
  have parsed : Json.parse narrowText = some (.object [("items", .array [.object
      [("items", .array [.object [("type", .string "native-rectangle")]]),
        ("layoutMode", .string "VERTICAL"), ("maxWidth", .number (.int 9)),
        ("type", .string "frame")]])]) := by
    simp only [narrowText, Json.parse, Json.readText, String.reduceToList]
    rfl
  rw [Scene.readDocument, parsed]
  rfl

/-- The column does not hug all of the rectangle. -/
theorem narrow_column_within_bounds :
    ∃ node, (Scene.ofText Stage.plainContext narrowText .origin ()).1.1.graph.node? 1 = some node ∧
      narrowColumn.constraints.AdmitsWidth node.width ∧
        narrowColumn.constraints.AdmitsHeight node.height := by
  let filling := ofDocument Stage.plainContext narrowDocument ()
  have fills : Fills Stage.plainContext narrowDocument () [narrowDocument.root] filling := .root
  have here : filling.items = Siblings.around ⟨[], []⟩ narrowColumn := rfl
  have ordered : narrowColumn.constraints.Ordered := ⟨nofun, nofun⟩
  obtain ⟨made, node, -, found, within⟩ :=
    within_bounds_iff read_narrowText .origin fills here ordered
  have start_eq : (filling.site Stage.plainContext ⟨[], []⟩).start = 1 := by decide +kernel
  rw [start_eq] at found
  have built : ((Scene.ofText Stage.plainContext narrowText .origin ()).1.1.graph.node? 1).map
      (·.isPlaceholder) = some false := by
    rw [graph_ofText .origin read_narrowText]
    decide +kernel
  rw [found] at built
  have hugsWidth : filling.ownWidth? Stage.plainContext ⟨[], []⟩ narrowColumn = some 100 := by
    decide +kernel
  have hugsHeight : filling.ownHeight? Stage.plainContext ⟨[], []⟩ narrowColumn = some 100 := by
    decide +kernel
  refine ⟨node, found, (within (Option.some.inj built)).mpr ⟨fun notGiven => ?_, fun notGiven => ?_⟩⟩
  · rw [hugsWidth, Option.or_eq_none_iff] at notGiven
    cases notGiven.2
  · rw [hugsHeight, Option.or_eq_none_iff] at notGiven
    cases notGiven.2

/-- A column at most 300 wide that fills its parent and is not stretched. -/
def alignedColumn : LayoutItem Rat :=
  .container
    (columnOf none
      { horizontalSizing := some .fill, layoutAlign := some .min,
        constraints := { maxWidth := some 300 } })
    []

def alignedDocument : LayoutDocument Rat := ⟨columnOf (some 400) {}, [alignedColumn]⟩

def alignedText : String :=
  "\x7b\"layoutContainer\":\x7b\"layoutMode\":\"VERTICAL\",\"width\":400\x7d,\"items\":[\x7b\"type\":\"frame\",\"layoutMode\":\"VERTICAL\",\"horizontalSizing\":\"FILL\",\"layoutAlign\":\"MIN\",\"maxWidth\":300\x7d]\x7d"

set_option maxRecDepth 20000 in
theorem read_alignedText :
    Scene.readDocument Stage.plainContext.registry alignedText = .ok alignedDocument := by
  have parsed : Json.parse alignedText = some (.object [("items", .array [.object
      [("horizontalSizing", .string "FILL"), ("layoutAlign", .string "MIN"),
        ("layoutMode", .string "VERTICAL"), ("maxWidth", .number (.int 300)),
        ("type", .string "frame")]]), ("layoutContainer", .object
      [("layoutMode", .string "VERTICAL"), ("width", .number (.int 400))])]) := by
    simp only [alignedText, Json.parse, Json.readText, String.reduceToList]
    rfl
  rw [Scene.readDocument, parsed]
  rfl

/-- The width that the column fills is not bounded. -/
theorem aligned_column_beyond_bounds :
    ¬∀ (context : RenderContext Rat Unit) (text : String) (document : LayoutDocument Rat)
        (cursor : CanvasCursor Rat) (above : List (ContainerSpec Rat)) (filling : Filling Rat Unit)
        (siblings : Siblings Rat) (item : LayoutItem Rat) (node : SceneNode Rat),
      Scene.readDocument context.registry text = .ok document →
      Fills context document () above filling → filling.items = siblings.around item →
      item.constraints.Ordered →
      (Scene.ofText context text cursor ()).1.1.graph.node? (filling.site context siblings).start =
        some node →
      node.isPlaceholder = false →
        item.constraints.AdmitsWidth node.width ∧ item.constraints.AdmitsHeight node.height := by
  intro every
  let filling := ofDocument Stage.plainContext alignedDocument ()
  have seen : ((Scene.ofText Stage.plainContext alignedText .origin ()).1.1.graph.node?
      (filling.site Stage.plainContext ⟨[], []⟩).start).map (fun node =>
        (node.isPlaceholder, node.width)) = some (false, 400) := by
    rw [graph_ofText .origin read_alignedText]
    decide +kernel
  obtain ⟨node, found, isSeen⟩ := Option.map_eq_some_iff.mp seen
  obtain ⟨built, width_eq⟩ := Prod.mk.inj isSeen
  have admitted := every Stage.plainContext alignedText alignedDocument .origin
    [alignedDocument.root] filling ⟨[], []⟩ alignedColumn node read_alignedText .root rfl
    ⟨nofun, nofun⟩ found built
  have tooWide : ¬(400 : Rat) ≤ 300 := by decide
  rw [width_eq] at admitted
  exact tooWide (admitted.1.le_greatest 300 rfl)

end Columns

end Filling

end DesignScene
