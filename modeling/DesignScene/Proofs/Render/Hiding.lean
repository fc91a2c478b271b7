/-
This file shows when a text that arrived is hidden or replaced by its own assignment.
-/
import DesignScene.Proofs.Render.Delivery
import Mathlib.Data.List.Induction

namespace DesignScene

/-- The font loads whenever the host is asked for it. -/
def Host.Loads {α σ : Type} (host : Host α σ) (font : FontName) : Prop :=
  ∀ hostState, (host.loadFont font hostState).1 = .ok ()

/-- What a node gets in the end, if it gets anything. -/
def lastFor (id : Nat) (deliveries : List (Nat × Option String)) : Option (Option String) :=
  ((deliveries.filter (·.1 == id)).getLast?).map Prod.snd

namespace SceneNode

variable {α : Type}

def fonts (node : SceneNode α) : List FontName := node.text?.elim [] (·.fonts)

/-- The node is visible and says this. -/
def Shows (node : SceneNode α) (characters : String) : Prop :=
  node.visible = true ∧ node.text?.map (·.characters) = some characters

/-- A node whose fonts load takes its text, or it is hidden. -/
def receive (node : SceneNode α) (received : Option String) : SceneNode α :=
  match received with
  | some characters => Stage.writeText characters node.fonts node
  | none => { node with visible := false }

/-- The node takes what is meant for it. -/
def receiveFor (id : Nat) (node : SceneNode α) (delivery : Nat × Option String) : SceneNode α :=
  if delivery.1 = id then node.receive delivery.2 else node

/-- A node that receives a text keeps its other text properties. -/
theorem text?_receive (node : SceneNode α) (received : Option String) :
    (node.receive received).text? = node.text?.map fun props =>
      { props with characters := received.getD props.characters } := by
  cases received with
  | none =>
      rw [receive]
      cases isText : node.text? with
      | none => exact isText
      | some props => exact isText
  | some characters =>
      rw [receive, Stage.text?_writeText]
      cases isText : node.text? with
      | none => rfl
      | some props => simp [fonts, isText]

@[simp] theorem fonts_receive (node : SceneNode α) (received : Option String) :
    (node.receive received).fonts = node.fonts := by
  rw [fonts, fonts, text?_receive]
  cases node.text? <;> rfl

@[simp] theorem isText_receive (node : SceneNode α) (received : Option String) :
    (node.receive received).isText = node.isText := by
  rw [isText, isText, text?_receive, Option.isSome_map]

@[simp] theorem isText_receiveFor (id : Nat) (node : SceneNode α) (delivery : Nat × Option String) :
    (receiveFor id node delivery).isText = node.isText := by
  rw [receiveFor]
  split
  · exact isText_receive node delivery.2
  · rfl

@[simp] theorem fonts_receiveFor (id : Nat) (node : SceneNode α) (delivery : Nat × Option String) :
    (receiveFor id node delivery).fonts = node.fonts := by
  rw [receiveFor]
  split
  · exact fonts_receive node delivery.2
  · rfl

/-- A node is visible just when it received a text. -/
theorem visible_receive (node : SceneNode α) (received : Option String) :
    (node.receive received).visible = received.isSome := by
  cases received with
  | none => rfl
  | some characters =>
      cases kind : node.kind <;> simp [receive, Stage.writeText, kind]

end SceneNode

/-- A further delivery for a node is the last one for it. -/
theorem lastFor_append (id : Nat) (deliveries : List (Nat × Option String))
    (delivery : Nat × Option String) :
    lastFor id (deliveries ++ [delivery]) =
      if delivery.1 = id then some delivery.2 else lastFor id deliveries := by
  rw [lastFor, lastFor, List.filter_append]
  by_cases here : delivery.1 = id <;> simp [here]

/-- What comes last decides what a text node shows. -/
theorem SceneNode.shows_receiveFor_iff {α : Type} {id : Nat} {deliveries : List (Nat × Option String)}
    {received : Option String} (last : lastFor id deliveries = some received) {node : SceneNode α}
    (isText : node.isText = true) (characters : String) :
    (deliveries.foldl (receiveFor id) node).Shows characters ↔ received = some characters := by
  have kept (before : List (Nat × Option String)) :
      (before.foldl (receiveFor id) node).isText = true := by
    induction before using List.reverseRecOn with
    | nil => exact isText
    | append_singleton before delivery ih =>
        rw [List.foldl_append, List.foldl_cons, List.foldl_nil, isText_receiveFor, ih]
  induction deliveries using List.reverseRecOn with
  | nil => cases last
  | append_singleton before delivery ih =>
      rw [lastFor_append] at last
      rw [List.foldl_append, List.foldl_cons, List.foldl_nil, receiveFor]
      split
      · next here =>
          rw [if_pos here] at last
          cases last
          obtain ⟨props, text⟩ := Option.isSome_iff_exists.mp (kept before)
          rw [Shows, visible_receive, text?_receive, text]
          cases delivery.2 with
          | none => simp
          | some written => simp
      · next elsewhere =>
          rw [if_neg elsewhere] at last
          exact ih last

namespace Stage

variable {α σ : Type}

section Loading

/-- Fonts that all load are loaded without an error. -/
theorem loadAll_of_loads {host : Host α σ} {fonts : List FontName}
    (loads : ∀ font ∈ fonts, host.Loads font) (stage : Stage α σ) :
    (loadAll host fonts stage).1 = .ok () := by
  induction fonts generalizing stage with
  | nil => rfl
  | cons font more ih =>
      have first := loads font List.mem_cons_self stage.hostState
      have others := ih (fun other member => loads other (List.mem_cons_of_mem _ member))
      simp only [loadAll, ask, first, others]
      rfl

/-- Fonts that all load are given back as they are. -/
theorem loadFonts_of_loads {context : RenderContext α σ} {fonts : List FontName}
    (loads : ∀ font ∈ fonts, context.host.Loads font) (stage : Stage α σ) :
    (stage.loadFonts context fonts).1 = .ok fonts := by
  have loaded := loadAll_of_loads (fun font member => loads font (mem_distinct.mp member)) stage
  rw [loadFonts]
  generalize loadAll context.host (distinct fonts) stage = result at loaded ⊢
  obtain ⟨answer, later⟩ := result
  cases loaded
  rfl

/-- A text whose fonts load is written with these fonts. -/
theorem textOutcome_of_loads {context : RenderContext α σ} {node : SceneNode α}
    (isText : node.isText = true) (loads : ∀ font ∈ node.fonts, context.host.Loads font)
    (hostState : σ) :
    (textOutcome context false (some node) hostState).1 = .write node.fonts := by
  obtain ⟨props, text⟩ := Option.isSome_iff_exists.mp isText
  have sameFonts : node.fonts = props.fonts := by
    rw [SceneNode.fonts, text]
    rfl
  rw [sameFonts] at loads ⊢
  have loaded := loadFonts_of_loads loads (start (α := α) hostState)
  simp only [textOutcome, text]
  generalize (start (α := α) hostState).loadFonts context props.fonts = result at loaded ⊢
  obtain ⟨answer, later⟩ := result
  cases loaded
  rfl

end Loading

/-- A text node that takes every text. -/
structure Ready (context : RenderContext α σ) (id : Nat) (stage : Stage α σ) (node : SceneNode α) :
    Prop where
  found : stage.graph.node? id = some node
  isText : node.isText = true
  writable : stage.missingFonts.contains id = false
  loads : ∀ font ∈ node.fonts, context.host.Loads font

namespace Ready

variable {context : RenderContext α σ} {id : Nat} {stage : Stage α σ} {node : SceneNode α}

/-- A delivery reaches the node that is ready for it. -/
theorem node?_deliver (ready : Ready context id stage node) (path : String)
    (delivery : Nat × Option String) :
    (stage.deliver context path delivery).graph.node? id =
      some (SceneNode.receiveFor id node delivery) := by
  obtain ⟨target, received⟩ := delivery
  by_cases here : target = id
  · subst here
    rw [SceneNode.receiveFor, if_pos rfl]
    cases received with
    | none =>
        simp only [deliver, setVisible, updateNode, SceneGraph.node?_update, ready.found]
        simp [SceneNode.receive]
    | some text =>
        have outcome := textOutcome_of_loads ready.isText ready.loads stage.hostState
        simp only [deliver, setText_eq, ready.found, ready.writable, outcome, settle, updateNode,
          SceneGraph.node?_update]
        simp [SceneNode.receive]
  · rw [SceneNode.receiveFor, if_neg here, node?_deliver_of_ne context path id here, ready.found]

/-- It stays one whatever it gets. -/
theorem deliver (ready : Ready context id stage node) (path : String)
    (delivery : Nat × Option String) :
    Ready context id (stage.deliver context path delivery)
      (SceneNode.receiveFor id node delivery) where
  found := ready.node?_deliver path delivery
  isText := by rw [SceneNode.isText_receiveFor, ready.isText]
  writable := by
    rw [(edits_deliver context path delivery stage).missingFonts_eq, ready.writable]
  loads := by
    rw [SceneNode.fonts_receiveFor]
    exact ready.loads

/-- A node stays ready through all deliveries. -/
theorem deliverAll (path : String) (deliveries : List (Nat × Option String))
    (ready : Ready context id stage node) :
    Ready context id (deliveries.foldl (Stage.deliver context path) stage)
      (deliveries.foldl (SceneNode.receiveFor id) node) := by
  induction deliveries generalizing stage node with
  | nil => exact ready
  | cons delivery more ih => exact ih (ready.deliver path delivery)

/-- A report does not change it. -/
theorem reportMissing (ready : Ready context id stage node) (path : String) (binding : SlotBinding)
    (targets : List Nat) : Ready context id (stage.reportMissing path binding targets) node where
  found := by rw [graph_reportMissing, ready.found]
  isText := ready.isText
  writable := by
    rw [(edits_reportMissing path binding targets stage).missingFonts_eq, ready.writable]
  loads := ready.loads

/-- A node stays ready through all bindings and receives every delivery for it. -/
theorem applyBindings (instanceId : Nat) (path : String) (bindings : List SlotBinding)
    (ready : Ready context id stage node) :
    Ready context id (bindings.foldl (applyBinding context instanceId path) stage)
      ((bindings.flatMap (stage.graph.deliveries instanceId)).foldl (SceneNode.receiveFor id)
        node) := by
  induction bindings generalizing stage node with
  | nil => exact ready
  | cons binding more ih =>
      have first := (ready.reportMissing path binding
        (stage.graph.targets instanceId binding)).deliverAll path
          (stage.graph.deliveries instanceId binding)
      rw [← applyBinding_eq] at first
      have same : (stage.applyBinding context instanceId path binding).graph.deliveries instanceId =
          stage.graph.deliveries instanceId := by
        funext other
        exact SceneGraph.deliveries_congr
          ((edits_bound context instanceId path binding stage).labelsBelow_eq instanceId) other
      have others := ih first
      rw [same] at others
      rw [List.foldl_cons, List.flatMap_cons, List.foldl_append]
      exact others

end Ready

section Slots

variable (instanceId : Nat) {id : Nat} {stage : Stage α σ} {node : SceneNode α}

theorem edits_hidden (slot : SlotRef) (stage : Stage α σ) :
    Edits 0 stage (stage.hideSlot instanceId slot) := by
  rw [hideSlot]
  split
  · exact edits_setVisible stage false (Nat.zero_le _)
  · exact .refl

/-- Hiding slots hides a node if one of them leads to it, and changes nothing else about it. -/
theorem exists_node_hideSlots (slots : List SlotRef) (found : stage.graph.node? id = some node) :
    ∃ later, (slots.foldl (hideSlot instanceId) stage).graph.node? id = some later ∧
      later.text? = node.text? ∧
        (later.visible = true ↔
          node.visible = true ∧ ∀ slot ∈ slots, stage.graph.locateSlot instanceId slot ≠ some id) := by
  induction slots generalizing stage node with
  | nil => exact ⟨node, found, rfl, by simp⟩
  | cons slot more ih =>
      have same (other : SlotRef) : (stage.hideSlot instanceId slot).graph.locateSlot instanceId other =
          stage.graph.locateSlot instanceId other :=
        SceneGraph.locateSlot_congr ((edits_hidden instanceId slot stage).labelsBelow_eq instanceId) other
      rw [List.foldl_cons]
      by_cases here : stage.graph.locateSlot instanceId slot = some id
      · have hidden : (stage.hideSlot instanceId slot).graph.node? id =
            some { node with visible := false } := by
          rw [hideSlot, here]
          simp only [setVisible, updateNode, SceneGraph.node?_update, found]
          simp
        obtain ⟨later, atPlace, sameText, shown⟩ := ih hidden
        refine ⟨later, atPlace, sameText, ?_⟩
        rw [shown]
        simp [here]
      · have kept : (stage.hideSlot instanceId slot).graph.node? id = some node := by
          rw [hideSlot, ← found]
          split
          · next target isTarget =>
              have different : target ≠ id := fun sameId => here (sameId ▸ isTarget)
              exact SceneGraph.node?_update_of_ne different _
          · rfl
        obtain ⟨later, atPlace, sameText, shown⟩ := ih kept
        refine ⟨later, atPlace, sameText, ?_⟩
        simp only [shown, same, List.forall_mem_cons, here, not_false_eq_true, true_and, ne_eq]

end Slots

section Staying

variable {context : RenderContext α σ} {instanceId id : Nat} {path : String}
  {assignment : TextAssignment} {stage : Stage α σ} {node : SceneNode α} {value : String}

/-- A node with a delivery has a last one. -/
theorem exists_lastFor_of_mem {received : Option String} {deliveries : List (Nat × Option String)}
    (member : (id, received) ∈ deliveries) : ∃ last, lastFor id deliveries = some last := by
  have listed : (id, received) ∈ deliveries.filter (·.1 == id) :=
    List.mem_filter.mpr ⟨member, beq_self_eq_true id⟩
  have nonempty := List.ne_nil_of_mem listed
  exact ⟨_, by rw [lastFor, List.getLast?_eq_some_getLast nonempty, Option.map_some]⟩

/-- A text node shows a value in the end exactly if it gets it last and no hidden slot leads to it. -/
theorem received_text_stays_iff (found : stage.graph.node? id = some node)
    (isText : node.isText = true) (writable : stage.missingFonts.contains id = false)
    (loads : ∀ font ∈ node.fonts, context.host.Loads font)
    (received : (id, some value) ∈
      assignment.bindings.flatMap (stage.graph.deliveries instanceId)) :
    (∃ later, (stage.applyText context instanceId path assignment).graph.node? id = some later ∧
        later.Shows value) ↔
      lastFor id (assignment.bindings.flatMap (stage.graph.deliveries instanceId)) =
          some (some value) ∧
        ∀ slot ∈ assignment.hiddenSlots, stage.graph.locateSlot instanceId slot ≠ some id := by
  obtain ⟨last, isLast⟩ := exists_lastFor_of_mem received
  have ready : Ready context id stage node := ⟨found, isText, writable, loads⟩
  have bound := ready.applyBindings instanceId path assignment.bindings
  have shows := SceneNode.shows_receiveFor_iff isLast isText value
  have unmoved (slot : SlotRef) := SceneGraph.locateSlot_congr ((edits_boundAll context instanceId
    path assignment.bindings stage).labelsBelow_eq instanceId) slot
  obtain ⟨later, atPlace, sameText, visible⟩ :=
    exists_node_hideSlots instanceId assignment.hiddenSlots bound.found
  simp only [unmoved] at visible
  have laterShows : later.Shows value ↔ last = some value ∧
      ∀ slot ∈ assignment.hiddenSlots, stage.graph.locateSlot instanceId slot ≠ some id := by
    rw [← shows, SceneNode.Shows, SceneNode.Shows, visible, sameText, and_right_comm]
  rw [isLast, Option.some.injEq, ← laterShows]
  constructor
  · rintro ⟨other, atOther, showsValue⟩
    rw [applyText, atPlace] at atOther
    cases atOther
    exact showsValue
  · intro showsValue
    exact ⟨later, atPlace, showsValue⟩

end Staying

section Lines

def line (name nodeId : String) : TextSlot := ⟨name, nodeId, .primary, none, .scalar⟩

/-- A component with two lines of text. -/
def lines (firstId secondId : String) : ComponentSchema where
  componentId := "80:1"
  textSlots := [line "Line 1" firstId, line "Line 2" secondId]

/-- Of two lines the first one gets a text and the second one is hidden. -/
def firstLineOnly (firstId secondId : String) : TextAssignment where
  property := "Line"
  strategy := .substring
  bindings := [⟨⟨"Line 1", firstId⟩, .single "First", none⟩]
  hiddenSlots := [⟨"Line 2", secondId⟩]

/-- Two lines in a frame. -/
def twoLines : Stage Rat Unit :=
  framed.instantiate (badgeOf [textNode "1:10" "Line 1", textNode "2:1" "Line 2"]) 0 none

/-- The line that is hidden is not the one that gets the text. -/
theorem received_text_stays_on_first_line :
    ∃ node, twoLines.graph.node? 2 = some node ∧ node.isText = true ∧
      twoLines.missingFonts.contains 2 = false ∧
        (∀ font ∈ node.fonts, plainContext.host.Loads font) ∧
          (2, some "First") ∈
              (firstLineOnly "1:10" "2:1").bindings.flatMap (twoLines.graph.deliveries 1) ∧
            ∃ later, (twoLines.applyText plainContext 1 "items[0]"
                (firstLineOnly "1:10" "2:1")).graph.node? 2 = some later ∧
              later.Shows "First" := by
  have found : twoLines.graph.node? 2 = some _ := rfl
  have writable : twoLines.missingFonts.contains 2 = false := by decide +kernel
  have loads (font : FontName) : plainContext.host.Loads font := fun _ => rfl
  have received : (2, some "First") ∈
      (firstLineOnly "1:10" "2:1").bindings.flatMap (twoLines.graph.deliveries 1) := by
    decide +kernel
  refine ⟨_, found, rfl, writable, fun font _ => loads font, received, ?_⟩
  refine (received_text_stays_iff found rfl writable (fun font _ => loads font) received).mpr
    ⟨?_, ?_⟩
  · decide +kernel
  · decide +kernel

/-- The place of a line that is gone is found in the line that got the text. -/
theorem gone_line_hides_text :
    ¬∀ (context : RenderContext Rat Unit) (schema : ComponentSchema) (bag : PropertyBag)
        (blueprint : Blueprint Rat) (path : String) (assignment : TextAssignment) (id : Nat)
        (node : SceneNode Rat) (value : String),
      assignment ∈ (ResolvedProperties.ofBag (some schema) bag :
            ResolvedProperties Rat).textProperties →
        (framed.instantiate blueprint 0 none).graph.node? id = some node → node.isText = true →
          (framed.instantiate blueprint 0 none).missingFonts.contains id = false →
            (∀ font ∈ node.fonts, context.host.Loads font) →
              (id, some value) ∈ assignment.bindings.flatMap
                  ((framed.instantiate blueprint 0 none).graph.deliveries framed.graph.size) →
                ∃ later, ((framed.instantiate blueprint 0 none).applyText context
                    framed.graph.size path assignment).graph.node? id = some later ∧
                  later.Shows value := by
  intro every
  have resolved : (ResolvedProperties.ofBag (some (lines "1:10" "1:1"))
      [("Line", .array [.string "First"])] : ResolvedProperties Rat).textProperties =
        [firstLineOnly "1:10" "1:1"] := by decide +kernel
  have assigned := List.mem_of_mem_head? (congrArg List.head? resolved)
  obtain ⟨later, found, shown, -⟩ := every plainContext (lines "1:10" "1:1") _
    (badgeOf [textNode "1:10" "Line 1"]) "items[0]" _ 2 _ "First" assigned rfl rfl
    (by decide +kernel) (fun _ _ _ => rfl) (by decide +kernel)
  have hidden : (((framed.instantiate (badgeOf [textNode "1:10" "Line 1"]) 0 none).applyText
      plainContext framed.graph.size "items[0]" (firstLineOnly "1:10" "1:1")).graph.node? 2).map
        (·.visible) = some false := by decide +kernel
  rw [found, Option.map_some, shown] at hidden
  cases hidden

end Lines

end Stage

end DesignScene
