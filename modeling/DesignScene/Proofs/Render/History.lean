/-
This file tells how the texts of a compiled scene came about.
-/
import DesignScene.Proofs.Render.Written

namespace DesignScene

open Outlines SceneGraph

/-- The events lead from an empty scene to the texts of the given one, each written with its fonts loaded. -/
structure TextHistory {α σ : Type} (host : Host α σ) (hostState : σ) (events : List TextEvent)
    (graph : SceneGraph α) (later : σ) : Prop where
  replay_eq : TextSheet.replay host ⟨hostState, fun _ => none⟩ events = ⟨later, graph.lettering?⟩
  lawful : TextSheet.Lawful host ⟨hostState, fun _ => none⟩ events
  missing_kept : ∀ {before after : List TextEvent} {instanceId : Nat} {componentId : String}
    {blueprint : Blueprint α}, events = before ++ .component instanceId componentId :: after →
      (host.blueprint componentId
          (TextSheet.replay host ⟨hostState, fun _ => none⟩ before).hostState).1 =
        .ok (some blueprint) →
        ∀ {index : Nat} {node : BlueprintNode α} {characters : String} {fonts : List FontName}
          {fontSize : α}, blueprint.walk[index]? = some node →
            node.kind = .text characters fonts fontSize true →
              graph.lettering? (instanceId + 1 + index) = some ⟨characters, fonts⟩

namespace Stage

variable {α σ : Type}

section Items

variable (context : RenderContext α σ)

/-- Announcing a component asks for nothing that is written. -/
theorem asks_announce [Scalar α] (path : String) (spec : ComponentSpec) (componentId : String)
    (blueprint : Blueprint α) (stage : Stage α σ) :
    Asks context.host stage [] (stage.announce context path spec componentId blueprint) := by
  have chosen : Asks context.host stage []
      (stage.schemaFor context spec componentId blueprint).2 := by
    rw [schemaFor]
    split
    · exact .refl _ stage
    · exact ⟨rfl, fun _ member => absurd member List.not_mem_nil, rfl, rfl⟩
  have reported (resolved : ResolvedProperties α) (next : Stage α σ) :
      Asks context.host next [] (next.reportResolution path resolved) := by
    have warned : Asks context.host next [] (resolved.errors.foldl
        (fun stage error => stage.warn path (error.property ++ ": " ++ error.message)) next) := by
      induction resolved.errors generalizing next with
      | nil => exact .refl _ next
      | cons error more ih => exact ((Asks.refl _ next).warn path _).trans (ih _)
    exact ⟨warned.replay_eq, warned.plain, warned.graph_eq, warned.missingFonts_eq⟩
  exact chosen.trans (reported _ _)

variable [Scalar α]

/-- An instance has the texts of its blueprint. -/
theorem lettering?_instantiate (blueprint : Blueprint α) (parent : Nat) (name : Option String)
    (stage : Stage α σ) (place : Nat) :
    (stage.instantiate blueprint parent name).graph.lettering? place =
      blueprint.letter stage.graph.size stage.graph.lettering? place := by
  rw [lettering?_eq_kinds, kinds_instantiate, Blueprint.letter, ← length_kinds]
  rcases Nat.lt_trichotomy place stage.graph.kinds.length with before | here | behind
  · rw [List.getElem?_append_left before, if_pos (Nat.le_of_lt before), lettering?_eq_kinds]
  · subst here
    rw [if_pos (Nat.le_refl _), lettering?_eq_none (Nat.le_of_eq (length_kinds _).symm)]
    simp [NodeKind.lettering?]
  · obtain ⟨index, rfl⟩ := Nat.exists_eq_add_of_le (Nat.succ_le_of_lt behind)
    have absent : stage.graph.lettering? (stage.graph.kinds.length + 1 + index) = none := by
      apply lettering?_eq_none
      rw [← length_kinds]
      omega
    have further : ¬stage.graph.kinds.length + 1 + index ≤ stage.graph.kinds.length := by omega
    have inside : stage.graph.kinds.length + 1 + index - stage.graph.kinds.length = index + 1 := by
      omega
    rw [if_neg further, absent, List.getElem?_append_right (by omega), inside,
      List.getElem?_cons_succ, List.getElem?_map, Nat.add_sub_cancel_left]
    cases blueprint.walk[index]? with
    | none => rfl
    | some node => exact lettering?_blueprintNodeKind node.kind

/-- The instance of a component that the host gave brings the texts of the blueprint. -/
theorem recounts_instantiate {host : Host α σ} {componentId : String} {blueprint : Blueprint α}
    {stage ready : Stage α σ}
    (answered : (host.blueprint componentId stage.hostState).1 = .ok (some blueprint))
    (sameState : ready.hostState = (host.blueprint componentId stage.hostState).2)
    (sameGraph : ready.graph = stage.graph) (sameNotes : ready.missingFonts = stage.missingFonts)
    (parent : Nat) (name : Option String) :
    Recounts host stage [.component stage.graph.size componentId]
      (ready.instantiate blueprint parent name) where
  replay_eq := by
    have gives : host.blueprint componentId stage.hostState =
        (.ok (some blueprint), ready.hostState) := Prod.ext answered sameState.symm
    have texts : (ready.instantiate blueprint parent name).graph.lettering? =
        blueprint.letter stage.graph.size stage.graph.lettering? := by
      funext place
      rw [lettering?_instantiate, sameGraph]
    rw [sheet, sheet, hostState_instantiate, texts]
    simp only [TextSheet.replay, List.foldl_cons, List.foldl_nil, TextSheet.follow, gives]
  lawful split := by
    obtain ⟨-, same⟩ | ⟨-, absent⟩ := List.singleton_eq_append_iff.mp split
    · cases same
    · cases absent
  size_le := by
    rw [size_instantiate, sameGraph]
    omega
  spared id noted within := by
    rw [missingFonts_instantiate, lettering?_instantiate, sameGraph, sameNotes, Blueprint.letter,
      if_pos (Nat.le_of_lt within)]
    exact ⟨List.mem_append_left _ noted, rfl⟩
  copied {before after instanceId other found} split gives {index node} listed lacking := by
    obtain ⟨rfl, same⟩ | ⟨-, absent⟩ := List.singleton_eq_append_iff.mp split
    · cases same
      have sameBlueprint := answered.symm.trans gives
      simp only [Except.ok.injEq, Option.some.injEq] at sameBlueprint
      subst sameBlueprint
      have within := (List.getElem?_eq_some_iff.mp listed).1
      have behind : ¬stage.graph.size + 1 + index ≤ stage.graph.size := by omega
      refine ⟨?_, ?_, ?_⟩
      · rw [missingFonts_instantiate, sameGraph]
        exact List.mem_append_right _ (mem_unlettered listed lacking)
      · rw [size_instantiate, sameGraph]
        omega
      · rw [lettering?_instantiate, sameGraph, Blueprint.letter, if_neg behind,
          Nat.add_sub_cancel_left, listed]
        rfl
    · cases absent

omit [Scalar α] in
/-- A component that the host does not give brings no texts. -/
theorem recounts_absent {host : Host α σ} {componentId : String} {stage : Stage α σ}
    (absent : ∀ blueprint, (host.blueprint componentId stage.hostState).1 ≠ .ok (some blueprint)) :
    Recounts host stage [.component stage.graph.size componentId]
      (stage.ask (host.blueprint componentId)).2 where
  replay_eq := by
    simp only [TextSheet.replay, List.foldl_cons, List.foldl_nil, TextSheet.follow]
    split
    · next blueprint _ gives => exact absurd (congrArg Prod.fst gives) (absent blueprint)
    · next hostState _ gives =>
        have later : hostState = (stage.ask (host.blueprint componentId)).2.hostState :=
          (congrArg Prod.snd gives).symm
        rw [later]
        rfl
  lawful split := by
    obtain ⟨-, same⟩ | ⟨-, absent⟩ := List.singleton_eq_append_iff.mp split
    · cases same
    · cases absent
  size_le := Nat.le_refl _
  spared id noted _ := ⟨noted, rfl⟩
  copied {before after instanceId other found} split gives := by
    obtain ⟨rfl, same⟩ | ⟨-, nothing⟩ := List.singleton_eq_append_iff.mp split
    · cases same
      exact absurd gives (absent found)
    · cases nothing

/-- The texts of a component are recounted, whether it can be rendered or not. -/
theorem recounted_renderComponent (parent : Nat) (path : String) (spec : ComponentSpec)
    (stage : Stage α σ) :
    Recounted context.host stage (stage.renderComponent context parent path spec).2 := by
  unfold renderComponent
  split
  · exact .refl _ stage
  · next componentId named =>
      have absent {answer : Except RenderError (Option (Blueprint α))} {next : Stage α σ}
          (asked : stage.ask (context.host.blueprint componentId) = (answer, next))
          (nothing : ∀ blueprint, answer ≠ .ok (some blueprint)) :
          Recounted context.host stage next := by
        have answered : (context.host.blueprint componentId stage.hostState).1 = answer :=
          congrArg Prod.fst asked
        obtain rfl : (stage.ask (context.host.blueprint componentId)).2 = next :=
          congrArg Prod.snd asked
        exact ⟨_, recounts_absent fun blueprint given =>
          nothing blueprint (answered.symm.trans given)⟩
      split
      · next asked => exact absent asked nofun
      · next asked => exact absent asked nofun
      · next blueprint next asked =>
          have answered : (context.host.blueprint componentId stage.hostState).1 =
            .ok (some blueprint) := congrArg Prod.fst asked
          obtain rfl : (stage.ask (context.host.blueprint componentId)).2 = next :=
            congrArg Prod.snd asked
          have announced := asks_announce context path spec componentId blueprint
            (stage.ask (context.host.blueprint componentId)).2
          rw [renderBlueprint_eq]
          generalize announce context path spec componentId blueprint _ = ready at announced ⊢
          have sameState : ready.hostState = (context.host.blueprint componentId stage.hostState).2 :=
            congrArg TextSheet.hostState announced.replay_eq.symm
          have sameGraph : ready.graph = stage.graph := announced.graph_eq
          have sameNotes : ready.missingFonts = stage.missingFonts := announced.missingFonts_eq
          exact Recounted.trans
            ⟨_, recounts_instantiate answered sameState sameGraph sameNotes parent spec.name⟩
            (recounted_applyProperties context _ path blueprint spec _ parent _)

/-- A frame changes no texts. -/
theorem recounted_addFrame (parent : Option Nat) (spec : ContainerSpec α) (stage : Stage α σ) :
    Recounted context.host stage (stage.addFrame context parent spec) := by
  cases filled : spec.fill with
  | none =>
      simp only [addFrame, filled]
      exact (Recounted.addNode _ stage _ _ _ rfl _ _).trans (.update _ _ _ fun _ => rfl)
  | some color =>
      have painted := asked_paintFor context (frameName parent spec) color stage
      simp only [addFrame, filled]
      exact (painted.recounted.trans (.addNode _ _ _ _ _ rfl _ _)).trans
        (.update _ _ _ fun _ => rfl)

/-- A shape changes no texts. -/
theorem recounted_renderShape (parent : Nat) (spec : ShapeSpec α) (stage : Stage α σ) :
    Recounted context.host stage (stage.renderShape context parent spec) := by
  have filled := asked_shapeFills context (shapeDefaults spec.shape).1 spec stage
  have empty (props : ShapeProps α) : (shapeKind spec.shape props).lettering? = none := by
    cases spec.shape <;> rfl
  exact (filled.recounted.trans (.addNode _ _ _ _ _ (empty _) _ _)).trans
    (.update _ _ _ fun _ => rfl)

/-- A new text is one that is written. -/
theorem recounted_newText {host : Host α σ} {stage next : Stage α σ} {events : List TextEvent}
    (asks : Asks host stage events next) {props : TextProps α}
    (loaded : ∀ font ∈ props.fonts, stage.sheet.Loaded host events font) (parent : Option Nat)
    (hostId : Option String) (name : String) (width height : α) :
    Recounted host stage (next.addNode parent hostId name (.text props) width height) := by
  have written (place : Nat) :
      (next.addNode parent hostId name (.text props) width height).graph.lettering? place =
        if place = next.graph.size then some ⟨props.characters, props.fonts⟩
        else next.graph.lettering? place := lettering?_add next.graph _ _ _ _ _ _ place
  exact ⟨_, asks.recounts.write loaded (fun _ => Nat.le_refl _) rfl written
    (by simp [addNode, size_add]) rfl⟩

/-- The font of a text is loaded before the text is there. -/
theorem recounted_renderText (parent : Nat) (spec : TextSpec α) (stage : Stage α σ) :
    Recounted context.host stage (stage.renderText context parent spec).2 := by
  obtain ⟨events, asks, loaded⟩ := asks_loadFonts context
    [if spec.bold then context.config.render.boldFont else context.config.render.defaultFont] stage
  unfold renderText
  dsimp only
  split
  · next answered =>
      rw [answered] at asks
      exact ⟨events, asks.recounts⟩
  · next fonts next answered =>
      rw [answered] at asks loaded
      obtain ⟨styling, styled⟩ := asked_textStyleFor context (textLabel spec.content)
        (spec.fontSize.getD context.config.render.defaultFontSize) spec.textStyleRef next
      obtain ⟨coloring, colored⟩ := asked_textColorFor context (textLabel spec.content) spec
        (next.textStyleFor context (textLabel spec.content)
          (spec.fontSize.getD context.config.render.defaultFontSize) spec.textStyleRef).2.2
      have asked := (asks.trans styled).trans colored
      have stillLoaded (font : FontName) (member : font ∈ fonts) :=
        ((loaded rfl font member).append_plain styled.plain).append_plain colored.plain
      refine Recounted.trans (recounted_newText asked stillLoaded _ _ _ _ _) (.update _ _ _ ?_)
      exact fun _ => rfl

/-- A placeholder changes no texts of other nodes. -/
theorem recounted_addPlaceholder (host : Host α σ) (config : RenderConfig α) (parent : Nat)
    (source reason : String) (stage : Stage α σ) :
    Recounted host stage (stage.addPlaceholder config parent source reason) := by
  have added : Recounted host stage (stage.addNode (some parent) none ("Missing: " ++ source)
      (.placeholder ⟨reason, source⟩) config.placeholderWidth config.placeholderHeight) :=
    .addNode host stage _ _ _ rfl _ _
  exact added.trans ⟨[], .quiet rfl (fun _ => rfl) (Nat.le_refl _) fun _ noted => noted⟩

/-- So does a placeholder in place of what failed. -/
theorem recounted_orPlaceholder (parent : Nat) (path source : String) {stage : Stage α σ}
    {result : Except RenderError Unit × Stage α σ}
    (recounted : Recounted context.host stage result.2) :
    Recounted context.host stage (orPlaceholder context parent path source result) := by
  obtain ⟨error | _, later⟩ := result
  · exact (recounted.trans (.warn _ later path error.message)).trans
      (recounted_addPlaceholder _ context.config.render parent source error.message _)
  · exact recounted

/-- Arranging changes no texts. -/
theorem recounted_arrangeFrame (frame : Nat) {stage : Stage α σ}
    (sound : WellFormed stage.graph.outline) :
    Recounted context.host stage (stage.arrangeFrame context frame) := by
  have moved : stage.graph.Moves frame (stage.arrangeFrame context frame).graph :=
    moves_arrangeGraph context.host sound
  exact ⟨[], .quiet rfl moved.lettering?_eq (Nat.le_of_eq moved.size_eq.symm) fun _ noted => noted⟩

mutual

/-- Whatever the host answers, all texts of an item are accounted for. -/
theorem recounted_renderItem {parent : Nat} :
    ∀ (item : LayoutItem α) (path : String) {stage : Stage α σ},
      WellFormed stage.graph.outline → parent < stage.graph.size →
        Recounted context.host stage (renderItem context parent path item stage)
  | .container spec children, path, stage, sound, within => by
      have held := hasParent_some within
      have framed := grows_addFrame context spec held
      obtain ⟨_, -, below⟩ := grows_renderItems context children (itemsPath path) 0
        (framed.wellFormed sound held) framed.lt_size
      have inside := recounted_renderItems children (itemsPath path) 0
        (framed.wellFormed sound held) framed.lt_size
      exact ((recounted_addFrame context (some parent) spec stage).trans inside).trans
        (recounted_arrangeFrame context _ ((framed.inside below).wellFormed sound held))
  | .text spec, path, stage, _, _ =>
      recounted_orPlaceholder context parent path _ (recounted_renderText context parent spec stage)
  | .shape spec, _, stage, _, _ => recounted_renderShape context parent spec stage
  | .component spec, path, stage, _, _ =>
      recounted_orPlaceholder context parent path _
        (recounted_renderComponent context parent path spec stage)
  | .malformed place reason, path, stage, _, _ => by
      rw [renderItem]
      exact recounted_orPlaceholder context parent path _ (Recounted.refl _ stage)

/-- The texts of all items are recounted one after the other. -/
theorem recounted_renderItems {parent : Nat} :
    ∀ (items : List (LayoutItem α)) (path : String) (index : Nat) {stage : Stage α σ},
      WellFormed stage.graph.outline → parent < stage.graph.size →
        Recounted context.host stage (renderItems context parent path index items stage)
  | [], _, _, stage, _, _ => .refl _ stage
  | item :: more, path, index, stage, sound, within => by
      obtain ⟨sketch, -, first⟩ :=
        grows_renderItem context item (elementPath path index) sound within
      have stillWithin :
          parent < (renderItem context parent (elementPath path index) item stage).graph.size := by
        rw [first.size_eq]
        omega
      exact (recounted_renderItem item (elementPath path index) sound within).trans
        (recounted_renderItems more path (index + 1)
          (first.wellFormed sound (hasParent_some within)) stillWithin)

end

/-- The texts of a document are recounted. -/
theorem recounted_renderDocument (document : LayoutDocument α) {stage : Stage α σ}
    (sound : WellFormed stage.graph.outline) :
    Recounted context.host stage (stage.renderDocument context document) := by
  have held : HasParent stage.graph.outline none := nofun
  have framed := grows_addFrame context document.root held
  have widened := framed.keeps (keeps_widenRoot context document.root stage.graph.size _)
  have stillSound := widened.wellFormed sound held
  obtain ⟨_, -, below⟩ := grows_renderItems context document.items "items" 0 stillSound
    widened.lt_size
  have widening (next : Stage α σ) :
      Recounted context.host next (next.widenRoot context document.root stage.graph.size) := by
    rw [widenRoot]
    split
    · exact .update _ next _ fun _ => rfl
    · exact .refl _ next
  have inside := (recounted_addFrame context none document.root stage).trans (widening _)
  have filled := inside.trans
    (recounted_renderItems context document.items "items" 0 stillSound widened.lt_size)
  have arranged := filled.trans
    (recounted_arrangeFrame context stage.graph.size ((widened.inside below).wellFormed sound held))
  refine arranged.trans ⟨[], .quiet rfl ?_ ?_ fun _ noted => noted⟩
  · exact (moves_fitRoot context document.root stage.graph.size _).lettering?_eq
  · exact Nat.le_of_eq (moves_fitRoot context document.root stage.graph.size _).size_eq.symm

end Items

end Stage

namespace Scene

variable {α σ : Type} [Scalar α]

/-- Placing the root changes no texts. -/
theorem lettering?_placeRoot (config : RenderConfig α) (cursor : CanvasCursor α) (scene : Scene α) :
    (scene.placeRoot config cursor).1.graph.lettering? = scene.graph.lettering? := by
  funext place
  apply lettering?_update
  exact fun _ => rfl

/-- The error frame has no text node. -/
theorem lettering?_fallback (config : RenderConfig α) (error : RenderError) :
    (fallback config error).graph.lettering? = fun _ => none := by
  funext place
  have framed : (fallback config error).graph.lettering? place =
      (SceneGraph.add {} none none "Error Frame" errorFrame config.fallbackFrameWidth
        config.fallbackFrameHeight).lettering? place := by
    apply lettering?_update
    exact fun _ => rfl
  rw [framed, lettering?_add]
  split
  · rfl
  · rfl

/-- The texts of a document are what happened to them while it was rendered. -/
theorem exists_textHistory_ofDocument (context : RenderContext α σ) (document : LayoutDocument α)
    (hostState : σ) :
    ∃ events, TextHistory context.host hostState events
      (ofDocument context document hostState).1.graph (ofDocument context document hostState).2 := by
  have empty : WellFormed (Stage.start (α := α) hostState).graph.outline := .nil
  obtain ⟨events, recounts⟩ := Stage.recounted_renderDocument context document empty
  have start : (Stage.start (α := α) hostState).sheet = ⟨hostState, fun _ => none⟩ := rfl
  refine ⟨events, ?_, recounts.lawful, ?_⟩
  · rw [← start, recounts.replay_eq]
    rfl
  · intro before after instanceId componentId blueprint split gives index node characters fonts
      fontSize listed isText
    have lacking : Stage.lacksFont node.kind = true := by
      rw [isText]
      rfl
    obtain ⟨-, -, kept⟩ := recounts.copied split gives listed lacking
    rw [isText] at kept
    exact kept

/-- Every text of a scene was written after its fonts had loaded, or it stands as in its blueprint. -/
theorem exists_textHistory (context : RenderContext α σ) (text : String) (cursor : CanvasCursor α)
    (hostState : σ) :
    ∃ events, TextHistory context.host hostState events
      (ofText context text cursor hostState).1.1.graph (ofText context text cursor hostState).2 := by
  rw [ofText]
  cases readDocument (α := α) context.registry text with
  | ok document =>
      have placed := lettering?_placeRoot context.config.render cursor
        (ofDocument context document hostState).1
      obtain ⟨events, history⟩ := exists_textHistory_ofDocument context document hostState
      refine ⟨events, ?_, history.lawful, fun split gives index node characters fonts fontSize => ?_⟩
      · rw [placed]
        exact history.replay_eq
      · rw [placed]
        exact history.missing_kept split gives
  | error error =>
      have placed := lettering?_placeRoot context.config.render cursor
        (fallback context.config.render error)
      refine ⟨[], ?_, ?_, ?_⟩
      · rw [placed, lettering?_fallback]
        rfl
      · intro before after id lettering split
        simp at split
      · intro before after instanceId componentId blueprint split
        simp at split

end Scene

end DesignScene
