/-
This file says which authored widths last until the scene is final.
-/
import DesignScene.Proofs.Render.FinalSizes

namespace DesignScene.Filling

variable {σ : Type} {context : RenderContext Rat σ}

/-- An authored width lasts exactly where no frame around the node and no hugging gives it another one. -/
theorem authored_width_lasts_iff {document : LayoutDocument Rat} {text : String}
    (read : Scene.readDocument context.registry text = .ok document) (cursor : CanvasCursor Rat)
    (hostState : σ) :
    (∀ width, document.root.width = some width →
      ∃ node, (Scene.ofText context text cursor hostState).1.1.graph.node? 0 = some node ∧
        node.fixedWidth = true ∧
          (node.width = width ↔
            ∀ size ∈ (ofDocument context document hostState).hugWidth? context,
              width = document.root.directive.constraints.clampWidth size)) ∧
      ∀ above (filling : Filling Rat σ) (siblings : Siblings Rat) (item : LayoutItem Rat) width,
        Fills context document hostState above filling → filling.items = siblings.around item →
        item.width? = some width →
          ∃ made node, filling.made? context siblings item = some made ∧
            (Scene.ofText context text cursor hostState).1.1.graph.node?
              (filling.site context siblings).start = some node ∧
            node.fixedWidth = made.fixedWidth ∧
            (made.fixedWidth = true → made.width = width ∧
              (node.width = width ↔
                ∀ size ∈ (filling.widthFor? context siblings).or
                    (filling.ownWidth? context siblings item),
                  width = item.constraints.clampWidth size)) := by
  rw [graph_ofText cursor read]
  constructor
  · intro width authored
    obtain ⟨fills, made, node, rfl, found, fixedWidth_eq, width_eq⟩ :=
      exists_root context document cursor hostState
    rw [widened_of_width context authored] at fixedWidth_eq width_eq
    have isFixed : (Stage.newFrame none document.root fills
        (Stage.start hostState)).fixedWidth = true := by
      rw [Stage.fixedWidth_newFrame, authored, Option.isSome_some]
    refine ⟨node, found, fixedWidth_eq.trans isFixed, ?_⟩
    rw [width_eq isFixed, Stage.width_newFrame_of_width _ _ _ authored]
    exact Arrange.elim_eq_self_iff
  · intro above filling siblings item width fills here authored
    obtain ⟨made, node, found, becomes⟩ := exists_becomes fills cursor here
    refine ⟨made, node, becomes.found, found, becomes.fixedWidth_eq, fun isFixed => ?_⟩
    have built := becomes.makes.isPlaceholder_eq isFixed
    have made_eq := becomes.makes.width_eq built authored
    rw [becomes.width_eq, becomes.makes.constraints_eq built, made_eq]
    exact ⟨rfl, Arrange.elim_eq_self_iff⟩

section Frames

/-- A frame that is 9 wide. -/
def smallFrame : LayoutItem Rat :=
  .container { columnOf (some 9) {} with layoutMode := .none } []

def smallDocument : LayoutDocument Rat := ⟨ContainerSpec.standard, [smallFrame]⟩

def smallText : String := "\x7b\"items\":[\x7b\"type\":\"frame\",\"width\":9\x7d]\x7d"

theorem read_smallText :
    Scene.readDocument Stage.plainContext.registry smallText = .ok smallDocument := by
  have parsed : Json.parse smallText = some (.object [("items", .array [.object
      [("type", .string "frame"), ("width", .number (.int 9))]])]) := by
    simp only [smallText, Json.parse, Json.readText, String.reduceToList]
    rfl
  rw [Scene.readDocument, parsed]
  rfl

/-- No column that hugs its items gives another width to a frame. -/
theorem small_frame_stays_small :
    ∃ node, (Scene.ofText Stage.plainContext smallText .origin ()).1.1.graph.node? 1 = some node ∧
      node.fixedWidth = true ∧ node.width = 9 := by
  let filling := ofDocument Stage.plainContext smallDocument ()
  have fills : Fills Stage.plainContext smallDocument () [smallDocument.root] filling := .root
  have here : filling.items = Siblings.around ⟨[], []⟩ smallFrame := rfl
  obtain ⟨made, node, isMade, found, fixedWidth_eq, lasts⟩ :=
    (authored_width_lasts_iff read_smallText .origin ()).2 _ filling ⟨[], []⟩ smallFrame 9 fills
      here rfl
  have start_eq : (filling.site Stage.plainContext ⟨[], []⟩).start = 1 := by decide +kernel
  have madeFixed : (filling.made? Stage.plainContext ⟨[], []⟩ smallFrame).map (·.fixedWidth) =
      some true := by
    decide +kernel
  rw [isMade] at madeFixed
  have isFixed : made.fixedWidth = true := Option.some.inj madeFixed
  have notGiven : (filling.widthFor? Stage.plainContext ⟨[], []⟩).or
      (filling.ownWidth? Stage.plainContext ⟨[], []⟩ smallFrame) = none := by
    decide +kernel
  rw [start_eq] at found
  refine ⟨node, found, fixedWidth_eq.trans isFixed, (lasts isFixed).2.mpr ?_⟩
  rw [notGiven]
  nofun

/-- A frame that is 200 wide and fills its parent. -/
def fillingFrame : LayoutItem Rat :=
  .container
    { columnOf (some 200) { horizontalSizing := some .fill } with layoutMode := .none } []

def fillingDocument : LayoutDocument Rat := ⟨columnOf (some 400) {}, [fillingFrame]⟩

def fillingText : String :=
  "\x7b\"layoutContainer\":\x7b\"layoutMode\":\"VERTICAL\",\"width\":400\x7d,\"items\":[\x7b\"type\":\"frame\",\"width\":200,\"horizontalSizing\":\"FILL\"\x7d]\x7d"

set_option maxRecDepth 20000 in
theorem read_fillingText :
    Scene.readDocument Stage.plainContext.registry fillingText = .ok fillingDocument := by
  have parsed : Json.parse fillingText = some (.object [("items", .array [.object
      [("horizontalSizing", .string "FILL"), ("type", .string "frame"),
        ("width", .number (.int 200))]]), ("layoutContainer", .object
      [("layoutMode", .string "VERTICAL"), ("width", .number (.int 400))])]) := by
    simp only [fillingText, Json.parse, Json.readText, String.reduceToList]
    rfl
  rw [Scene.readDocument, parsed]
  rfl

/-- A frame that is marked with its authored width is stretched to another one. -/
theorem filling_frame_stretched :
    ¬∀ (context : RenderContext Rat Unit) (text : String) (document : LayoutDocument Rat)
        (cursor : CanvasCursor Rat) (above : List (ContainerSpec Rat)) (filling : Filling Rat Unit)
        (siblings : Siblings Rat) (item : LayoutItem Rat) (width : Rat) (node : SceneNode Rat),
      Scene.readDocument context.registry text = .ok document →
      Fills context document () above filling → filling.items = siblings.around item →
      item.width? = some width →
      (Scene.ofText context text cursor ()).1.1.graph.node? (filling.site context siblings).start =
        some node →
      node.fixedWidth = true → node.width = width := by
  intro every
  let filling := ofDocument Stage.plainContext fillingDocument ()
  have seen : ((Scene.ofText Stage.plainContext fillingText .origin ()).1.1.graph.node?
      (filling.site Stage.plainContext ⟨[], []⟩).start).map (fun node =>
        (node.fixedWidth, node.width)) = some (true, 400) := by
    rw [graph_ofText .origin read_fillingText]
    decide +kernel
  obtain ⟨node, found, isSeen⟩ := Option.map_eq_some_iff.mp seen
  obtain ⟨isFixed, width_eq⟩ := Prod.mk.inj isSeen
  have lasting := every Stage.plainContext fillingText fillingDocument .origin
    [fillingDocument.root] filling ⟨[], []⟩ fillingFrame 200 node read_fillingText .root rfl rfl
    found isFixed
  rw [width_eq] at lasting
  have different : (400 : Rat) ≠ 200 := by decide
  exact different lasting

end Frames

end DesignScene.Filling
