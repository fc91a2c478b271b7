/-
This file follows the texts of a slot to the nodes of an instance.
-/
import DesignScene.Proofs.Render.Labels

namespace DesignScene

open Outlines

/-- The texts that a binding carries, as far as it may spread them. -/
def SlotBinding.texts (binding : SlotBinding) : List String :=
  match binding.value with
  | .single text => [text]
  | .multiple texts => texts.take (binding.maxItems.getD texts.length)

/-- What each node gets when the first texts are spread over nodes; a node without a text is hidden. -/
def spread (limit : Nat) (nodes : List Nat) (texts : List String) : List (Nat × Option String) :=
  nodes.mapIdx fun index id => (id, (texts.take limit)[index]?)

/-- The first node takes the first text. -/
theorem spread_cons (limit : Nat) (id : Nat) (more : List Nat) (text : String)
    (others : List String) :
    spread (limit + 1) (id :: more) (text :: others) = (id, some text) :: spread limit more others := by
  simp [spread, List.mapIdx_cons]

/-- Without a text every node is hidden. -/
theorem spread_of_take_eq_nil {limit : Nat} {texts : List String} (nothing : texts.take limit = [])
    (nodes : List Nat) : spread limit nodes texts = nodes.map fun id => (id, none) := by
  apply List.ext_getElem?
  intro index
  simp [spread, nothing]

namespace SceneGraph

variable {α : Type}

/-- The characters of a text node. -/
def characters? (graph : SceneGraph α) (id : Nat) : Option String :=
  ((graph.node? id).bind SceneNode.text?).map (·.characters)

/-- The nodes that a binding means. -/
def targets (graph : SceneGraph α) (instanceId : Nat) (binding : SlotBinding) : List Nat :=
  match binding.value with
  | .single _ => (graph.locateSlot instanceId binding.slot).toList
  | .multiple _ => graph.slotTexts instanceId binding.slot

/-- What the nodes of an instance get from a binding. -/
def deliveries (graph : SceneGraph α) (instanceId : Nat) (binding : SlotBinding) :
    List (Nat × Option String) :=
  match binding.value with
  | .single text => (graph.targets instanceId binding).map fun id => (id, some text)
  | .multiple texts =>
      let nodes := graph.targets instanceId binding
      spread (binding.maxItems.getD nodes.length) nodes texts

/-- The text nodes that a binding means. -/
def receivers (graph : SceneGraph α) (instanceId : Nat) (binding : SlotBinding) : List Nat :=
  (graph.targets instanceId binding).filter fun id => (graph.characters? id).isSome

variable {graph later : SceneGraph α} {instanceId : Nat}

/-- A binding delivers to its targets, in order. -/
theorem map_fst_deliveries (graph : SceneGraph α) (instanceId : Nat) (binding : SlotBinding) :
    (graph.deliveries instanceId binding).map Prod.fst = graph.targets instanceId binding := by
  cases value : binding.value with
  | single text => simp [deliveries, value, Function.comp_def]
  | multiple texts =>
      apply List.ext_getElem?
      intro index
      simp [deliveries, value, spread, Function.comp_def]

/-- A node has characters just when its form is text. -/
theorem isSome_characters? (graph : SceneGraph α) (id : Nat) :
    (graph.characters? id).isSome = (graph.labels[id]?).any (·.form == .text) := by
  rw [characters?, getElem?_labels]
  cases graph.node? id with
  | none => rfl
  | some node => simp [SceneNode.label, ← SceneNode.isText_eq, SceneNode.isText]

/-- Graphs with the same labels have the same text nodes. -/
theorem isSome_characters?_congr (same : later.labels = graph.labels) (id : Nat) :
    (later.characters? id).isSome = (graph.characters? id).isSome := by
  rw [isSome_characters?, isSome_characters?, same]

/-- The targets of a binding depend on the labels below its instance only. -/
theorem targets_congr (same : later.labelsBelow instanceId = graph.labelsBelow instanceId)
    (binding : SlotBinding) :
    later.targets instanceId binding = graph.targets instanceId binding := by
  simp only [targets, locateSlot_congr same, slotTexts_congr same]

/-- The deliveries of a binding depend on the labels below its instance only. -/
theorem deliveries_congr (same : later.labelsBelow instanceId = graph.labelsBelow instanceId)
    (binding : SlotBinding) :
    later.deliveries instanceId binding = graph.deliveries instanceId binding := by
  simp only [deliveries, targets_congr same]

/-- The receivers of a binding depend on the labels only. -/
theorem receivers_congr (same : later.labelsBelow instanceId = graph.labelsBelow instanceId)
    (sameLabels : later.labels = graph.labels) (binding : SlotBinding) :
    later.receivers instanceId binding = graph.receivers instanceId binding := by
  simp only [receivers, targets_congr same, isSome_characters?_congr sameLabels]

/-- Two changes of one node are one change. -/
theorem update_update_self (graph : SceneGraph α) (id : Nat)
    (change next : SceneNode α → SceneNode α) :
    (graph.update id change).update id next = graph.update id (next ∘ change) := by
  apply ext_node?
  intro place
  simp only [node?_update, Option.map_map]
  congr 1
  funext node
  by_cases here : id = place <;> simp [here]

/-- Changes of different nodes can be made in either order. -/
theorem update_comm (graph : SceneGraph α) {id other : Nat} (different : id ≠ other)
    (change next : SceneNode α → SceneNode α) :
    (graph.update id change).update other next = (graph.update other next).update id change := by
  apply ext_node?
  intro place
  simp only [node?_update, Option.map_map]
  congr 1
  funext node
  by_cases here : id = place
  · subst here
    simp [different.symm]
  · simp [here]

/-- A change of the characters of all texts changes those of a text node. -/
theorem characters?_update_self {change : SceneNode α → SceneNode α} {text : String}
    (writes : ∀ node, (change node).text?.map (·.characters) = node.text?.map fun _ => text)
    (graph : SceneGraph α) (id : Nat) :
    (graph.update id change).characters? id = (graph.characters? id).map fun _ => text := by
  rw [characters?, characters?, node?_update]
  cases graph.node? id with
  | none => rfl
  | some node =>
      simp only [Option.map_some, Option.bind_some, if_true, writes, Option.map_map]
      rfl

end SceneGraph

/-- A text node with other characters. -/
def SceneNode.retext {α : Type} (characters : String) (node : SceneNode α) : SceneNode α :=
  match node.kind with
  | .text props => { node with kind := .text { props with characters := characters } }
  | _ => node

section Retexting

open SceneNode

variable {α : Type} (characters : String)

/-- Replacing the characters of a text is a setting. -/
theorem SceneNode.isSetting_retext : IsSetting (retext (α := α) characters) where
  outline_eq node := by cases kind : node.kind <;> simp [retext, outline, NodeKind.form, kind]
  hostId_eq node := by cases kind : node.kind <;> simp [retext, kind]
  name_eq node := by cases kind : node.kind <;> simp [retext, kind]
  placedAt_eq _ _ _ _ node := by cases kind : node.kind <;> simp [retext, placedAt, kind]

/-- Replacing the characters keeps the other text properties. -/
theorem SceneNode.text?_retext (node : SceneNode α) :
    (node.retext characters).text? =
      node.text?.map fun props => { props with characters := characters } := by
  cases kind : node.kind <;> simp [retext, text?, kind]

theorem Stage.text?_writeText (fonts : List FontName) (node : SceneNode α) :
    (writeText characters fonts node).text? =
      node.text?.map fun props => { props with characters := characters, fonts := fonts } := by
  cases kind : node.kind <;> simp [writeText, text?, kind]

/-- Writing a text leaves nothing of what was there. -/
theorem Stage.writeText_retext (original : String) (fonts : List FontName) (node : SceneNode α) :
    writeText characters fonts (node.retext original) = writeText characters fonts node := by
  cases kind : node.kind <;> simp [writeText, retext, kind]

/-- A text has the characters it was given. -/
theorem SceneGraph.characters?_retext (graph : SceneGraph α) (id : Nat) :
    (graph.update id (retext characters)).characters? id =
      (graph.characters? id).map fun _ => characters := by
  apply characters?_update_self
  intro node
  rw [text?_retext, Option.map_map]
  rfl

/-- A written text has the characters written. -/
theorem SceneGraph.characters?_writeText (fonts : List FontName) (graph : SceneGraph α) (id : Nat) :
    (graph.update id (Stage.writeText characters fonts)).characters? id =
      (graph.characters? id).map fun _ => characters := by
  apply characters?_update_self
  intro node
  rw [Stage.text?_writeText, Option.map_map]
  rfl

end Retexting

namespace Stage

variable {α σ : Type}

/-- A node gets its text or is hidden. -/
def deliver (context : RenderContext α σ) (path : String) (stage : Stage α σ)
    (delivery : Nat × Option String) : Stage α σ :=
  match delivery.2 with
  | some text => stage.setText context path delivery.1 text
  | none => stage.setVisible false delivery.1

section Delivering

variable (context : RenderContext α σ) (path : String)

/-- Spreading texts makes the deliveries one after the other. -/
theorem spreadOver_eq (limit : Nat) (nodes : List Nat) (texts : List String) (stage : Stage α σ) :
    stage.spreadOver context path limit nodes texts =
      (spread limit nodes texts).foldl (deliver context path) stage := by
  induction nodes generalizing limit texts stage with
  | nil => rfl
  | cons id more ih =>
      unfold spreadOver
      split
      · rw [spread_cons, ih]
        rfl
      · next short =>
          have nothing : texts.take limit = [] := by
            cases limit with
            | zero => rfl
            | succ limit =>
                cases texts with
                | nil => rfl
                | cons text others => exact absurd rfl (short limit text others rfl)
          rw [ih, spread_of_take_eq_nil nothing, spread_of_take_eq_nil rfl]
          rfl

/-- A text without a node to go to is reported. -/
def reportMissing (binding : SlotBinding) (targets : List Nat) (stage : Stage α σ) : Stage α σ :=
  match binding.value, targets with
  | .single _, [] =>
      stage.warn path ("Text slot '" ++ binding.slot.slotName ++ "' not found in instance")
  | _, _ => stage

/-- A binding reports missing nodes and then makes its deliveries. -/
theorem applyBinding_eq (instanceId : Nat) (stage : Stage α σ) (binding : SlotBinding) :
    stage.applyBinding context instanceId path binding =
      (stage.graph.deliveries instanceId binding).foldl (deliver context path)
        (stage.reportMissing path binding (stage.graph.targets instanceId binding)) := by
  cases value : binding.value with
  | single text =>
      simp only [applyBinding, reportMissing, SceneGraph.deliveries, SceneGraph.targets, value]
      cases stage.graph.locateSlot instanceId binding.slot <;> rfl
  | multiple texts =>
      simp only [applyBinding, reportMissing, SceneGraph.deliveries, SceneGraph.targets, value]
      exact spreadOver_eq context path _ _ texts stage

end Delivering

section Loading

/-- Loading fonts depends on and changes the state of the host only. -/
theorem exists_loadAll (host : Host α σ) (fonts : List FontName) (hostState : σ) :
    ∃ answer after, ∀ stage : Stage α σ, stage.hostState = hostState →
      loadAll host fonts stage = (answer, { stage with hostState := after }) := by
  induction fonts generalizing hostState with
  | nil =>
      refine ⟨.ok (), hostState, fun stage same => ?_⟩
      rw [loadAll, ← same]
  | cons font more ih =>
      obtain ⟨others, after, all⟩ := ih (host.loadFont font hostState).2
      refine ⟨(host.loadFont font hostState).1.bind fun _ => others, after, fun stage same => ?_⟩
      simp only [loadAll, ask, same]
      rw [all _ rfl]

/-- Only the state of the host decides which fonts load, and nothing but this state changes. -/
theorem exists_loadFonts (context : RenderContext α σ) (fonts : List FontName) (hostState : σ) :
    ∃ answer after, ∀ stage : Stage α σ, stage.hostState = hostState →
      stage.loadFonts context fonts = (answer, { stage with hostState := after }) := by
  obtain ⟨answer, after, all⟩ := exists_loadAll context.host (distinct fonts) hostState
  cases answer with
  | ok _ =>
      refine ⟨.ok fonts, after, fun stage same => ?_⟩
      rw [loadFonts, all stage same]
  | error _ =>
      let fallback := context.host.loadFont context.config.render.defaultFont after
      refine ⟨fallback.1.map fun _ => [context.config.render.defaultFont], fallback.2,
        fun stage same => ?_⟩
      rw [loadFonts, all stage same]
      rfl

end Loading

/-- What becomes of a text for a node. -/
inductive TextOutcome where
  | nothing
  | report (message : String)
  | write (fonts : List FontName)

/-- A node that is no text takes none, and a text whose fonts do not load is reported. -/
def textOutcome (context : RenderContext α σ) (lacksFont : Bool) (node : Option (SceneNode α))
    (hostState : σ) : TextOutcome × σ :=
  match node with
  | none => (.nothing, hostState)
  | some node =>
      if lacksFont then
        (.report ("Skipping text node '" ++ node.name ++ "' with missing font"), hostState)
      else
        match node.text? with
        | none => (.nothing, hostState)
        | some props =>
            match (start (α := α) hostState).loadFonts context props.fonts with
            | (.error error, after) => (.report error.message, after.hostState)
            | (.ok fonts, after) => (.write fonts, after.hostState)

/-- The outcome is put into effect. -/
def settle (path : String) (id : Nat) (text : String) (outcome : TextOutcome) (stage : Stage α σ) :
    Stage α σ :=
  match outcome with
  | .nothing => stage
  | .report message => stage.warn path message
  | .write fonts => stage.updateNode id (writeText text fonts)

/-- What setting a text does at all. -/
theorem setText_eq (context : RenderContext α σ) (path : String) (id : Nat) (text : String)
    (stage : Stage α σ) :
    stage.setText context path id text =
      settle path id text
        (textOutcome context (stage.missingFonts.contains id) (stage.graph.node? id)
          stage.hostState).1
        { stage with
          hostState := (textOutcome context (stage.missingFonts.contains id) (stage.graph.node? id)
            stage.hostState).2 } := by
  rw [setText]
  cases stage.graph.node? id with
  | none => rfl
  | some node =>
      rw [textOutcome]
      dsimp only
      split
      · rfl
      · cases node.text? with
        | none => rfl
        | some props =>
            obtain ⟨answer, after, all⟩ := exists_loadFonts context props.fonts stage.hostState
            simp only [all stage rfl, all (start stage.hostState) rfl]
            cases answer <;> rfl

/-- Only the name and the fonts of the node matter. -/
theorem textOutcome_congr (context : RenderContext α σ) (lacksFont : Bool)
    {node other : SceneNode α} (sameName : other.name = node.name)
    (sameFonts : other.text?.map (·.fonts) = node.text?.map (·.fonts)) (hostState : σ) :
    textOutcome context lacksFont (some other) hostState =
      textOutcome context lacksFont (some node) hostState := by
  rw [textOutcome, textOutcome, sameName]
  cases isText : node.text? with
  | none =>
      rw [isText, Option.map_none, Option.map_eq_none_iff] at sameFonts
      rw [sameFonts]
  | some props =>
      rw [isText] at sameFonts
      obtain ⟨otherProps, isOther, fonts⟩ := Option.map_eq_some_iff.mp sameFonts
      rw [isOther]
      dsimp only
      rw [fonts]

/-- Setting a text node is never without an outcome. -/
theorem textOutcome_ne_nothing (context : RenderContext α σ) (lacksFont : Bool)
    {graph : SceneGraph α} {id : Nat} (isText : (graph.characters? id).isSome) (hostState : σ) :
    (textOutcome context lacksFont (graph.node? id) hostState).1 ≠ .nothing := by
  rw [SceneGraph.characters?, Option.isSome_map] at isText
  obtain ⟨props, found⟩ := Option.isSome_iff_exists.mp isText
  obtain ⟨node, atPlace, text⟩ := Option.bind_eq_some_iff.mp found
  rw [atPlace, textOutcome, text]
  dsimp only
  split
  · nofun
  · split <;> nofun

section Writing

variable (context : RenderContext α σ) (path : String) (id : Nat)

/-- What a text comes to does not depend on what the node said before. -/
theorem textOutcome_retext (lacksFont : Bool) (original : String) (graph : SceneGraph α)
    (target : Nat) (hostState : σ) :
    textOutcome context lacksFont ((graph.update id (SceneNode.retext original)).node? target)
        hostState =
      textOutcome context lacksFont (graph.node? target) hostState := by
  rw [SceneGraph.node?_update]
  cases graph.node? target with
  | none => rfl
  | some node =>
      by_cases here : id = target
      · rw [Option.map_some, if_pos here]
        apply textOutcome_congr
        · exact (SceneNode.isSetting_retext original).name_eq node
        · rw [SceneNode.text?_retext, Option.map_map]
          rfl
      · rw [Option.map_some, if_neg here]

/-- Earlier characters of a node survive a text or leave no trace. -/
theorem setText_retext (target : Nat) (original text : String) (stage : Stage α σ) :
    (stage.updateNode id (SceneNode.retext original)).setText context path target text =
        stage.setText context path target text ∨
      (stage.updateNode id (SceneNode.retext original)).setText context path target text =
        (stage.setText context path target text).updateNode id (SceneNode.retext original) := by
  have same := textOutcome_retext context id (stage.missingFonts.contains target) original
    stage.graph target stage.hostState
  rw [setText_eq, setText_eq]
  simp only [updateNode, same]
  cases (textOutcome context (stage.missingFonts.contains target) (stage.graph.node? target)
      stage.hostState).1 with
  | nothing => exact .inr rfl
  | report message => exact .inr rfl
  | write fonts =>
      by_cases here : id = target
      · subst here
        left
        simp only [settle, updateNode, SceneGraph.update_update_self]
        congr 2
        funext node
        exact writeText_retext text original fonts node
      · right
        simp only [settle, updateNode, SceneGraph.update_comm _ here]

/-- Earlier characters of a node survive a delivery or leave no trace. -/
theorem deliver_retext (original : String) (stage : Stage α σ) (delivery : Nat × Option String) :
    (stage.updateNode id (SceneNode.retext original)).deliver context path delivery =
        stage.deliver context path delivery ∨
      (stage.updateNode id (SceneNode.retext original)).deliver context path delivery =
        (stage.deliver context path delivery).updateNode id (SceneNode.retext original) := by
  obtain ⟨target, received⟩ := delivery
  cases received with
  | some text => exact setText_retext context path id target original text stage
  | none =>
      right
      simp only [deliver, setVisible, updateNode]
      by_cases here : id = target
      · subst here
        simp only [SceneGraph.update_update_self]
        congr 2
        funext node
        cases kind : node.kind <;> simp [SceneNode.retext, kind]
      · simp only [SceneGraph.update_comm _ here]

/-- Earlier characters of a node survive all deliveries or leave no trace. -/
theorem deliverAll_retext (original : String) (deliveries : List (Nat × Option String))
    (stage : Stage α σ) :
    deliveries.foldl (deliver context path)
          (stage.updateNode id (SceneNode.retext original)) =
        deliveries.foldl (deliver context path) stage ∨
      deliveries.foldl (deliver context path)
          (stage.updateNode id (SceneNode.retext original)) =
        (deliveries.foldl (deliver context path) stage).updateNode id
          (SceneNode.retext original) := by
  induction deliveries generalizing stage with
  | nil => exact .inr rfl
  | cons delivery more ih =>
      rw [List.foldl_cons, List.foldl_cons]
      rcases deliver_retext context path id original stage delivery with same | kept
      · rw [same]
        exact .inl rfl
      · rw [kept]
        exact ih _

/-- Setting a text changes no other node. -/
theorem node?_setText_of_ne {target : Nat} (different : target ≠ id) (text : String)
    (stage : Stage α σ) :
    (stage.setText context path target text).graph.node? id = stage.graph.node? id := by
  rw [setText_eq]
  unfold settle
  split
  · rfl
  · rfl
  · exact SceneGraph.node?_update_of_ne different _

/-- What goes to another node does not change this one. -/
theorem node?_deliver_of_ne {delivery : Nat × Option String} (different : delivery.1 ≠ id)
    (stage : Stage α σ) :
    (stage.deliver context path delivery).graph.node? id = stage.graph.node? id := by
  rw [deliver]
  split
  · exact node?_setText_of_ne context path id different _ stage
  · exact SceneGraph.node?_update_of_ne different _

/-- Deliveries change only the nodes they name. -/
theorem node?_deliverAll_of_not_mem {deliveries : List (Nat × Option String)}
    (elsewhere : id ∉ deliveries.map Prod.fst) (stage : Stage α σ) :
    (deliveries.foldl (deliver context path) stage).graph.node? id = stage.graph.node? id := by
  induction deliveries generalizing stage with
  | nil => rfl
  | cons delivery more ih =>
      rw [List.map_cons, List.mem_cons, not_or] at elsewhere
      rw [List.foldl_cons, ih elsewhere.2]
      exact node?_deliver_of_ne context path id (Ne.symm elsewhere.1) stage

/-- Deliveries write only the nodes they name. -/
theorem characters?_deliverAll_of_not_mem {deliveries : List (Nat × Option String)}
    (elsewhere : id ∉ deliveries.map Prod.fst) (stage : Stage α σ) :
    (deliveries.foldl (deliver context path) stage).graph.characters? id =
      stage.graph.characters? id := by
  rw [SceneGraph.characters?, node?_deliverAll_of_not_mem context path id elsewhere]
  rfl

/-- A text that goes to a text node is written or reported. -/
theorem characters?_setText_of_quiet {stage : Stage α σ}
    (isText : (stage.graph.characters? id).isSome) {text : String}
    (quiet : (stage.setText context path id text).report.warnings = stage.report.warnings) :
    (stage.setText context path id text).graph.characters? id = some text := by
  rw [setText_eq] at quiet ⊢
  cases outcome : (textOutcome context (stage.missingFonts.contains id) (stage.graph.node? id)
      stage.hostState).1 with
  | nothing => exact absurd outcome (textOutcome_ne_nothing context _ isText _)
  | report message =>
      rw [outcome] at quiet
      simp [settle, warn] at quiet
  | write fonts =>
      obtain ⟨characters, found⟩ := Option.isSome_iff_exists.mp isText
      have written := SceneGraph.characters?_writeText text fonts stage.graph id
      rwa [found] at written

theorem edits_deliver (delivery : Nat × Option String) (stage : Stage α σ) :
    Edits 0 stage (stage.deliver context path delivery) := by
  rw [deliver]
  split
  · exact edits_setText context path (Nat.zero_le _) _ stage
  · exact edits_setVisible stage false (Nat.zero_le _)

theorem edits_deliverAll (deliveries : List (Nat × Option String)) (stage : Stage α σ) :
    Edits 0 stage (deliveries.foldl (deliver context path) stage) := by
  induction deliveries generalizing stage with
  | nil => exact .refl
  | cons delivery more ih => exact (edits_deliver context path delivery stage).trans (ih _)

/-- If nothing is reported, each of several text nodes gets its text. -/
theorem characters?_deliverAll_of_quiet {deliveries : List (Nat × Option String)}
    (distinct : (deliveries.map Prod.fst).Nodup) {stage : Stage α σ}
    (quiet : (deliveries.foldl (deliver context path) stage).report.warnings =
      stage.report.warnings)
    {text : String} (member : (id, some text) ∈ deliveries)
    (isText : (stage.graph.characters? id).isSome) :
    (deliveries.foldl (deliver context path) stage).graph.characters? id = some text := by
  induction deliveries generalizing stage with
  | nil => cases member
  | cons delivery more ih =>
      rw [List.map_cons, List.nodup_cons] at distinct
      have first := edits_deliver context path delivery stage
      have others := edits_deliverAll context path more (stage.deliver context path delivery)
      have quietFirst : (stage.deliver context path delivery).report.warnings =
          stage.report.warnings :=
        first.keeps.report.quiet_between others.keeps.report quiet
      rw [List.foldl_cons] at quiet ⊢
      rw [← quietFirst] at quiet
      rcases List.mem_cons.mp member with rfl | inMore
      · rw [characters?_deliverAll_of_not_mem context path id distinct.1]
        exact characters?_setText_of_quiet context path id isText quietFirst
      · apply ih distinct.2 quiet inMore
        rwa [SceneGraph.isSome_characters?_congr first.labels_eq]

end Writing

section Binding

variable (context : RenderContext α σ) (instanceId : Nat) (path : String) (binding : SlotBinding)

theorem edits_reportMissing (targets : List Nat) (stage : Stage α σ) :
    Edits 0 stage (stage.reportMissing path binding targets) := by
  unfold reportMissing
  split
  · exact Edits.refl.warn _ _
  · exact .refl

theorem edits_bound (stage : Stage α σ) :
    Edits 0 stage (stage.applyBinding context instanceId path binding) := by
  rw [applyBinding_eq]
  exact (edits_reportMissing path binding _ stage).trans (edits_deliverAll context path _ _)

/-- Reporting missing nodes keeps the graph. -/
theorem graph_reportMissing (targets : List Nat) (stage : Stage α σ) :
    (stage.reportMissing path binding targets).graph = stage.graph := by
  unfold reportMissing
  split <;> rfl

theorem edits_boundAll (bindings : List SlotBinding) (stage : Stage α σ) :
    Edits 0 stage (bindings.foldl (applyBinding context instanceId path) stage) := by
  induction bindings generalizing stage with
  | nil => exact .refl
  | cons binding more ih => exact (edits_bound context instanceId path binding stage).trans (ih _)

/-- Reports of missing nodes do not look at the graph. -/
theorem reportMissing_updateNode (targets : List Nat) (id : Nat)
    (change : SceneNode α → SceneNode α) (stage : Stage α σ) :
    (stage.updateNode id change).reportMissing path binding targets =
      (stage.reportMissing path binding targets).updateNode id change := by
  unfold reportMissing
  split <;> rfl

variable {stage : Stage α σ} {id : Nat}

/-- Earlier characters of a node survive a binding or leave no trace. -/
theorem applyBinding_retext (original : String) (stage : Stage α σ) (id : Nat) :
    (stage.updateNode id (SceneNode.retext original)).applyBinding context instanceId path binding =
        stage.applyBinding context instanceId path binding ∨
      (stage.updateNode id (SceneNode.retext original)).applyBinding context instanceId path binding =
        (stage.applyBinding context instanceId path binding).updateNode id
          (SceneNode.retext original) := by
  have retexted : Edits 0 stage (stage.updateNode id (SceneNode.retext original)) :=
    Edits.refl.set (Nat.zero_le id) (SceneNode.isSetting_retext original)
  have same := retexted.labelsBelow_eq instanceId
  rw [applyBinding_eq, applyBinding_eq, SceneGraph.targets_congr same,
    SceneGraph.deliveries_congr same, reportMissing_updateNode]
  exact deliverAll_retext context path id original _ _

/-- A binding writes only its targets. -/
theorem characters?_applyBinding_of_not_mem
    (elsewhere : id ∉ stage.graph.targets instanceId binding) :
    (stage.applyBinding context instanceId path binding).graph.characters? id =
      stage.graph.characters? id := by
  rw [← SceneGraph.map_fst_deliveries] at elsewhere
  rw [applyBinding_eq, characters?_deliverAll_of_not_mem context path id elsewhere,
    graph_reportMissing]

/-- A binding that reports nothing new wrote each of its texts. -/
theorem characters?_applyBinding_of_quiet
    (distinct : (stage.graph.targets instanceId binding).Nodup)
    (quiet : (stage.applyBinding context instanceId path binding).report.warnings =
      stage.report.warnings)
    {text : String} (member : (id, some text) ∈ stage.graph.deliveries instanceId binding)
    (isText : (stage.graph.characters? id).isSome) :
    (stage.applyBinding context instanceId path binding).graph.characters? id = some text := by
  rw [← SceneGraph.map_fst_deliveries] at distinct
  rw [applyBinding_eq] at quiet ⊢
  have first := edits_reportMissing path binding (stage.graph.targets instanceId binding) stage
  have others := edits_deliverAll context path (stage.graph.deliveries instanceId binding)
    (stage.reportMissing path binding (stage.graph.targets instanceId binding))
  have quietFirst := first.keeps.report.quiet_between others.keeps.report quiet
  apply characters?_deliverAll_of_quiet context path id distinct (quiet.trans quietFirst.symm) member
  rwa [graph_reportMissing]

end Binding

end Stage

namespace SceneGraph

variable {α : Type} {graph : SceneGraph α} {instanceId : Nat} {binding : SlotBinding}

/-- The targets of a binding lie below its instance. -/
theorem targets_subset_descendants (sound : WellFormed graph.outline) :
    graph.targets instanceId binding ⊆ graph.descendants instanceId := by
  intro id member
  rw [targets] at member
  split at member
  · obtain ⟨node, below, rfl⟩ := exists_mem_of_locate (Option.mem_toList.mp member)
    exact mem_descendants_of_mem_descendantNodes sound below
  · obtain ⟨node, below, -, rfl⟩ := exists_mem_of_mem_slotTexts member
    exact mem_descendants_of_mem_descendantNodes sound below

/-- No node stands twice below an instance. -/
theorem nodup_targets {blueprint : Blueprint α}
    (same : graph.labelsBelow instanceId = blueprint.labels instanceId) :
    (graph.targets instanceId binding).Nodup := by
  rw [targets]
  split
  · cases graph.locateSlot instanceId binding.slot <;> simp
  · have listed : (graph.descendantNodes instanceId).map (·.id) =
        (graph.labelsBelow instanceId).map (·.id) := by
      rw [labelsBelow, List.map_map]
      rfl
    have distinct : ((graph.descendantNodes instanceId).map (·.id)).Nodup := by
      rw [listed, same, Blueprint.labels, Stage.map_id_labelsFrom]
      exact List.nodup_range' 1
    exact distinct.sublist (List.filter_sublist.map _)

/-- The texts of a slot are text nodes. -/
theorem isSome_characters?_of_mem_slotTexts (sound : WellFormed graph.outline) {slot : SlotRef}
    {id : Nat} (member : id ∈ graph.slotTexts instanceId slot) : (graph.characters? id).isSome := by
  obtain ⟨node, below, isText, rfl⟩ := exists_mem_of_mem_slotTexts member
  obtain ⟨place, -, found⟩ := List.mem_filterMap.mp below
  rw [id_eq_of_node? sound found, characters?, found, Option.bind_some, Option.isSome_map]
  exact isText

/-- If there are enough text nodes, then all nodes that a binding means are texts. -/
theorem receivers_eq_targets (sound : WellFormed graph.outline)
    (enough : binding.texts.length ≤ (graph.receivers instanceId binding).length) :
    graph.receivers instanceId binding = graph.targets instanceId binding := by
  cases value : binding.value with
  | single text =>
      have atMost : (graph.targets instanceId binding).length ≤ 1 := by
        simp only [targets, value]
        cases graph.locateSlot instanceId binding.slot <;> simp
      simp only [SlotBinding.texts, value] at enough
      exact List.filter_sublist.eq_of_length_le (Nat.le_trans atMost enough)
  | multiple texts =>
      apply List.filter_eq_self.mpr
      intro id member
      simp only [targets, value] at member
      exact isSome_characters?_of_mem_slotTexts sound member

/-- The first text nodes that a binding means get its texts in their order. -/
theorem mem_deliveries (sound : WellFormed graph.outline)
    (enough : binding.texts.length ≤ (graph.receivers instanceId binding).length)
    {index : Nat} (within : index < binding.texts.length) :
    ((graph.receivers instanceId binding)[index], some binding.texts[index]) ∈
      graph.deliveries instanceId binding := by
  have same := receivers_eq_targets sound enough
  have inside : index < (graph.targets instanceId binding).length := by
    rw [← same]
    omega
  apply List.mem_iff_getElem?.mpr
  refine ⟨index, ?_⟩
  simp only [same]
  cases value : binding.value with
  | single text =>
      have first : index = 0 := by
        simp only [SlotBinding.texts, value, List.length_singleton] at within
        omega
      subst first
      simp [deliveries, value, SlotBinding.texts, inside]
  | multiple texts =>
      simp only [SlotBinding.texts, value] at within
      simp only [deliveries, value, SlotBinding.texts, spread, List.getElem?_mapIdx,
        List.getElem?_eq_getElem inside, Option.map_some]
      rw [← List.getElem?_eq_getElem within]
      cases binding.maxItems with
      | some limit => rfl
      | none => simp [List.getElem?_take_of_lt inside]

end SceneGraph

end DesignScene
