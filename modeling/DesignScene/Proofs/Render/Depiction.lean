/-
This file shows that every item of a layout is rendered as one node below the frame of its container.
-/
import DesignScene.Proofs.Document.Prepare
import DesignScene.Proofs.Render.Growth
import DesignScene.Scalar.Exact

namespace DesignScene

open Outlines

def SceneNode.placeholderSource? {α : Type} (node : SceneNode α) : Option String :=
  match node.kind with
  | .placeholder props => some props.source
  | _ => none

/-- What the placeholders of a scene stand in for, in the order of the nodes. -/
def SceneGraph.placeholderSources {α : Type} (graph : SceneGraph α) : List String :=
  graph.nodes.toList.filterMap SceneNode.placeholderSource?

/-- A node depicts an item if it is of a kind that the item may become, and its children depict its items. -/
inductive Depicts {α : Type} (graph : SceneGraph α) : LayoutItem α → Nat → Prop where
  | container {spec : ContainerSpec α} {items : List (LayoutItem α)} {id : Nat}
      {node : SceneNode α} (found : graph.node? id = some node)
      (isFrame : node.kind.form = .frame)
      (direct : ∀ child ∈ node.children, (graph.node? child).bind SceneNode.parent = some id)
      (ordered : node.children.Pairwise (· < ·))
      (inside : List.Forall₂ (Depicts graph) items node.children) :
      Depicts graph (.container spec items) id
  | leaf {item : LayoutItem α} {id : Nat} {node : SceneNode α}
      (found : graph.node? id = some node) (listed : node.kind.form ∈ item.leafForms) :
      Depicts graph item id

section Reading

variable {α : Type} {graph : SceneGraph α}

/-- The placeholder sources of a graph are read off its outline. -/
theorem SceneGraph.placeholderSources_eq (graph : SceneGraph α) :
    graph.placeholderSources = graph.outline.filterMap fun outline => outline.form.source? := by
  rw [placeholderSources, outline, List.filterMap_map]
  apply List.filterMap_congr
  intro node _
  simp only [SceneNode.placeholderSource?, Function.comp_apply, SceneNode.outline]
  cases node.kind <;> rfl

/-- The node behind the first ones. -/
theorem SceneGraph.exists_node_of_outline_eq {start : Nat} {front behind : List NodeOutline}
    {outline : NodeOutline} (place : front.length = start)
    (split : graph.outline = front ++ outline :: behind) :
    ∃ node, graph.node? start = some node ∧ node.outline = outline := by
  subst place
  apply Option.map_eq_some_iff.mp
  rw [← getElem?_outline, split]
  simp

/-- A frame has its children below it and in their order. -/
theorem Depicts.of_children (sound : WellFormed graph.outline) {spec : ContainerSpec α}
    {items : List (LayoutItem α)} {id : Nat} {node : SceneNode α}
    (found : graph.node? id = some node) (isFrame : node.kind.form = .frame)
    (inside : List.Forall₂ (Depicts graph) items node.children) :
    Depicts graph (.container spec items) id := by
  have atPlace := SceneGraph.outline_of_node? found
  refine .container found isFrame (fun child member => ?_) (sound.children_ordered atPlace) inside
  obtain ⟨outline, atChild, above⟩ := (sound.mem_children_iff atPlace).mp member
  rw [SceneGraph.getElem?_outline] at atChild
  obtain ⟨inner, isInner, rfl⟩ := Option.map_eq_some_iff.mp atChild
  rw [isInner]
  exact above

mutual

/-- Where the tree of an item stands in a scene, its root depicts the item. -/
theorem depicts_of_sketched (sound : WellFormed graph.outline) :
    ∀ (item : LayoutItem α) {sketch : Sketch}, Sketched item sketch →
      ∀ {parent : Option Nat} {start : Nat} {front behind : List NodeOutline},
        front.length = start →
          graph.outline = front ++ (sketch.outlines parent start ++ behind) →
            Depicts graph item start
  | item, .node form children, .leaf listed, _, start, front, _, place, split => by
      rw [Sketch.outlines, List.cons_append] at split
      obtain ⟨node, found, same⟩ := SceneGraph.exists_node_of_outline_eq place split
      have sameForm : node.kind.form = form := congrArg NodeOutline.form same
      exact .leaf found (sameForm ▸ listed)
  | .container spec items, .node _ sketches, .container inside, _, start, front, _, place,
      split => by
      rw [Sketch.outlines, List.cons_append] at split
      obtain ⟨node, found, same⟩ := SceneGraph.exists_node_of_outline_eq place split
      have sameForm : node.kind.form = .frame := congrArg NodeOutline.form same
      have sameChildren : node.children = Sketch.starts (start + 1) sketches :=
        congrArg NodeOutline.children same
      rw [← List.singleton_append, ← List.append_assoc] at split
      have each := depict_of_sketched sound items inside (by simp [place]) split
      exact .of_children sound found sameForm (sameChildren ▸ each)

/-- A graph that holds the sketches of some items depicts these items. -/
theorem depict_of_sketched (sound : WellFormed graph.outline) :
    ∀ (items : List (LayoutItem α)) {sketches : List Sketch},
      List.Forall₂ Sketched items sketches →
        ∀ {parent : Option Nat} {start : Nat} {front behind : List NodeOutline},
          front.length = start →
            graph.outline = front ++ (Sketch.outlinesAll parent start sketches ++ behind) →
              List.Forall₂ (Depicts graph) items (Sketch.starts start sketches)
  | [], [], .nil, _, _, _, _, _, _ => .nil
  | item :: more, first :: others, .cons sketched rest, _, start, front, _, place, split => by
      rw [Sketch.outlinesAll, List.append_assoc] at split
      have depicted := depicts_of_sketched sound item sketched place split
      rw [← List.append_assoc] at split
      have later := depict_of_sketched sound more rest
        (by rw [List.length_append, Sketch.length_outlines, place]) split
      exact .cons depicted later

end

end Reading

namespace Scene

variable {α σ : Type}

/-- The scene has a node for every item of the document, and its report names every placeholder. -/
structure Shows (scene : Scene α) (document : LayoutDocument α) : Prop where
  depicts : Depicts scene.graph (.container document.root document.items) scene.root
  placeholders_eq : scene.report.placeholders = scene.graph.placeholderSources

/-- A scene that consists of one tree for a document shows it. -/
theorem shows_of_sketched {scene : Scene α} {document : LayoutDocument α} {sketch : Sketch}
    (sketched : Sketched (.container document.root document.items) sketch)
    (planned : scene.graph.outline = Sketch.grow none [sketch] []) (first : scene.root = 0)
    (reported : scene.report.placeholders = Sketch.sources none 0 [sketch]) :
    scene.Shows document where
  depicts := by
    have held : HasParent [] none := nofun
    have sound : WellFormed scene.graph.outline := by
      rw [planned]
      exact Sketch.wellFormed_grow .nil held [sketch]
    rw [first]
    exact depicts_of_sketched sound _ sketched List.length_nil planned
  placeholders_eq := by
    rw [reported, SceneGraph.placeholderSources_eq, planned]
    rfl

variable [Scalar α]

/-- Placing the root keeps the outline. -/
theorem outline_placeRoot (config : RenderConfig α) (cursor : CanvasCursor α)
    (scene : Scene α) :
    (scene.placeRoot config cursor).1.graph.outline = scene.graph.outline := by
  have kept : scene.graph.Keeps 0 (scene.placeRoot config cursor).1.graph := by
    apply SceneGraph.keeps_update (Nat.zero_le scene.root)
    intro node _
    rfl
  exact kept.outline_eq

/-- Placing the root reports nothing. -/
theorem report_placeRoot (config : RenderConfig α) (cursor : CanvasCursor α) (scene : Scene α) :
    (scene.placeRoot config cursor).1.report = scene.report := rfl

/-- A scene that is rendered consists of one tree. -/
theorem exists_sketch_ofDocument (context : RenderContext α σ) (document : LayoutDocument α)
    (hostState : σ) :
    ∃ sketch, Sketched (.container document.root document.items) sketch ∧
      (ofDocument context document hostState).1.graph.outline = Sketch.grow none [sketch] [] ∧
      (ofDocument context document hostState).1.report.placeholders =
        Sketch.sources none 0 [sketch] := by
  have empty : WellFormed (Stage.start (α := α) hostState).graph.outline := .nil
  obtain ⟨sketch, sketched, grown⟩ := Stage.grows_renderDocument context document empty
  refine ⟨sketch, sketched, ?_, ?_⟩
  · rw [ofDocument, grown.outline_eq]
    rfl
  · rw [ofDocument, grown.placeholders_eq]
    rfl

/-- Placing the root on the canvas changes nothing of this. -/
theorem shows_placeRoot_ofDocument (context : RenderContext α σ) (document : LayoutDocument α)
    (cursor : CanvasCursor α) (hostState : σ) :
    ((ofDocument context document hostState).1.placeRoot context.config.render cursor).1.Shows
      document := by
  obtain ⟨sketch, sketched, planned, reported⟩ :=
    exists_sketch_ofDocument context document hostState
  refine shows_of_sketched sketched ?_ rfl ?_
  · rw [outline_placeRoot, planned]
  · rw [report_placeRoot, reported]

/-- Whatever the host answers, every layout that can be read gives a scene that shows it. -/
theorem ofText_shows (context : RenderContext α σ) (cursor : CanvasCursor α) (hostState : σ)
    {text : String} {layout : Json} (parsed : Json.parse text = some layout)
    (readable : ∃ document : LayoutDocument α, LayoutDocument.ofJson layout = .ok document) :
    ∃ document : LayoutDocument α, readDocument context.registry text = .ok document ∧
      (ofText context text cursor hostState).1.1.Shows document := by
  obtain ⟨document, read⟩ := (readDocument_eq_ok_iff parsed context.registry).mpr readable
  refine ⟨document, read, ?_⟩
  rw [ofText, read]
  exact shows_placeRoot_ofDocument context document cursor hostState

/-- A host that has no component and may lack every font. -/
def fontHost (loaded : Except RenderError Unit) : Host Rat Unit :=
  { Host.empty with loadFont := fun _ state => (loaded, state) }

/-- A text and an item without a type are shown, whether the font of the text loads or not. -/
theorem ofText_shows_text_and_untyped :
    ∃ (layout : Json) (document : LayoutDocument Rat),
      Json.parse "\x7b\"items\":[\x7b\"type\":\"text\"\x7d,\x7b\x7d]\x7d" = some layout ∧
        LayoutDocument.ofJson layout = .ok document ∧
          ∀ loaded : Except RenderError Unit, ∃ prepared : LayoutDocument Rat,
            (ofText ⟨{}, {}, Config.standard, fontHost loaded⟩
              "\x7b\"items\":[\x7b\"type\":\"text\"\x7d,\x7b\x7d]\x7d" .origin ()).1.1.Shows
                prepared := by
  have parsed : Json.parse "\x7b\"items\":[\x7b\"type\":\"text\"\x7d,\x7b\x7d]\x7d" =
      some (.object [("items", .array [.object [("type", .string "text")], .object []])]) := by
    simp only [Json.parse, Json.readText, String.reduceToList]
    rfl
  obtain ⟨document, read⟩ : ∃ document : LayoutDocument Rat, LayoutDocument.ofJson (.object
      [("items", .array [.object [("type", .string "text")], .object []])]) = .ok document :=
    ⟨_, rfl⟩
  refine ⟨_, document, parsed, read, fun loaded => ?_⟩
  obtain ⟨prepared, -, shown⟩ :=
    ofText_shows ⟨{}, {}, Config.standard, fontHost loaded⟩ .origin () parsed ⟨document, read⟩
  exact ⟨prepared, shown⟩

end Scene

end DesignScene
