/-
This file follows runs of tabs from the text of a layout to the label nodes of their instances.
-/
import DesignScene.Proofs.Document.Runs
import DesignScene.Proofs.Document.Origin
import DesignScene.Proofs.Render.LabelNodes
import DesignScene.Proofs.Render.Siblings
import DesignScene.Proofs.Render.Staged

namespace DesignScene

open Outlines LayoutItem LayoutDocument

variable {α σ : Type}

/-- The tabs have one label each and nothing else, for a component of labels only that was not scanned. -/
structure RenderContext.TakesRun (context : RenderContext α σ) (run : List Json)
    (blueprint : Blueprint α) (texts : List String) : Prop where
  atLeastTwo : 2 ≤ run.length
  labels_eq : run.map Tabs.labels = texts.map fun text => [.string text]
  bare : ∀ item ∈ run, Tabs.IsBare item
  component : ∃ first componentId, run.head? = some first ∧
    componentId? first = some componentId ∧
    IdResolution.replacement? context.registry first = none ∧
    context.registry.get? componentId = none ∧ context.host.Gives componentId blueprint
  labeled : blueprint.IsLabeled context.host

/-- A component keeps a well-formed identifier that stands in the field that is filled in. -/
theorem IdResolution.replacement?_eq_none {item : Json} {componentId : String} (registry : Registry)
    (named : componentId? item = some componentId) (wellFormed : isWellFormedId componentId = true)
    (present : item.field? "componentNodeId" ≠ none) : replacement? registry item = none := by
  obtain ⟨value, found⟩ := Option.ne_none_iff_exists'.mp present
  rw [componentId?_eq, found] at named
  have authored : value.asString? = some componentId := (Option.filter_eq_some_iff.mp named).1
  have closed : isOpen ((item.field? "componentNodeId").bind Json.asString?) = false := by
    rw [found, Option.bind_some, authored]
    exact isPlaceholderId_eq_false wellFormed
  rw [replacement?, closed]
  cases typeOf? item with
  | none => rfl
  | some itemType => simp

namespace SceneGraph

/-- What is spared still shows its labels. -/
theorem ShowsLabels.spared {graph made : SceneGraph α} {id : Nat} {blueprint : Blueprint α}
    {texts : List String} (shows : made.ShowsLabels id blueprint texts) (kept : made.Spares id graph)
    (below : graph.descendantNodes id = made.descendantNodes id) :
    graph.ShowsLabels id blueprint texts := by
  have sameTexts : graph.textsBelow id = made.textsBelow id := by
    rw [textsBelow, below, textsBelow]
  obtain ⟨node, props, found, isInstance, main⟩ := shows.isInstance
  obtain ⟨after, isThere, nature⟩ := kept.nature_eq (Nat.le_refl id) found
  have sameKind : after.kind = node.kind := congrArg Prod.snd nature
  refine ⟨⟨after, props, isThere, sameKind.trans isInstance, main⟩, ?_, ?_, ?_⟩
  · rw [sameTexts]
    exact shows.length_eq
  · rw [sameTexts]
    exact shows.shown
  · rw [sameTexts]
    exact shows.hidden

end SceneGraph

variable [Scalar α]

namespace Stage

variable {context : RenderContext α σ} {graph : SceneGraph α} {id : Nat} {spec : ComponentSpec}
  {componentId : String} {blueprint : Blueprint α} {texts : List String}

/-- A tab with nothing but labels shows them once it is rendered. -/
theorem showsLabels_of_rendered (rendered : context.Rendered graph (.component spec) id)
    (named : spec.componentId = some componentId) (given : context.host.Gives componentId blueprint)
    (unscanned : context.registry.get? componentId = none)
    (labeled : blueprint.IsLabeled context.host)
    (free : ∀ name ∈ blueprint.variantOptions.keys, Text.normalizeKey name ≠ "label")
    (tab : Text.lower spec.typeName = "tab")
    (only : PropertyBag.OnlyLabels texts spec.properties) (noSwaps : spec.iconSwaps = [])
    (noOverrides : spec.visibilityOverrides = []) :
    graph.ShowsLabels id blueprint texts := by
  obtain ⟨parent, path, stage, sound, within, fonts, rfl, kept⟩ := rendered
  obtain ⟨⟨form, children⟩, -, grown⟩ := grows_renderItem context (.component spec) path sound within
  have below := grown.descendantNodes_spared kept
  obtain ⟨asked, answered⟩ : ∃ asked, stage.ask (context.host.blueprint componentId) =
      (.ok (some blueprint), asked) := ⟨_, Prod.ext (given stage.hostState) rfl⟩
  have made : renderItem context parent path (.component spec) stage =
      asked.renderBlueprint context parent path spec componentId blueprint := by
    rw [renderItem, renderComponent, named]
    simp only [answered, orPlaceholder]
  have edited : Edits 0 stage asked := edits_of_ask answered
  have sameSize := edited.keeps.graph.size_eq
  rw [made] at kept below
  rw [← sameSize] at within kept below ⊢
  exact (showsLabels_renderBlueprint (edited.wellFormed sound) within (fonts.edits edited) labeled
    free tab unscanned only noSwaps noOverrides).spared kept below

end Stage

namespace Scene

/-- The frame shows the list, be it that of the layout or the one that an item is read with. -/
inductive FrameOf (layout : Json) (graph : SceneGraph α) : List Json → Nat → Prop where
  | root : FrameOf layout graph (rootValues layout) 0
  | inside {before after inner : List Json} {item : Json} {frame id : Nat}
      (outer : FrameOf layout graph (before ++ item :: after) frame)
      (own : ownList? item = some inner) (read : innerValues item = inner) (filled : inner ≠ [])
      (place : (graph.children frame)[(Tabs.joinRuns before).length]? = some id) :
      FrameOf layout graph inner id

/-- The children of the frame show the list with its runs joined, with or without identifiers filled in. -/
structure ShowsList (context : RenderContext α σ) (graph : SceneGraph α) (list : List Json)
    (frame : Nat) : Prop where
  sorted : ∀ item ∈ list, item.IsSorted
  staged : ∃ (path : String) (change : Json → Json),
    (change = id ∨ change = IdResolution.filled context.registry) ∧
      List.Forall₂ (Staged context graph) (ofElements path 0 ((Tabs.inList list).map change))
        (graph.children frame)

section Lists

variable {context : RenderContext α σ} {graph : SceneGraph α} {layout : Json}

/-- What stands at a place of the joined list is staged at a child of the frame. -/
theorem ShowsList.exists_child {list : List Json} {frame : Nat}
    (shows : ShowsList context graph list frame) {index : Nat} {value : Json}
    (found : (Tabs.inList list)[index]? = some value) :
    ∃ child path change, (graph.children frame)[index]? = some child ∧
      (change = id ∨ change = IdResolution.filled context.registry) ∧
        Staged context graph (ofJson path (change value)) child := by
  obtain ⟨path, change, mode, staged⟩ := shows.staged
  have listed : (ofElements path 0 ((Tabs.inList list).map change) : List (LayoutItem α))[index]? =
      some (ofJson (elementPath path index) (change value)) := by
    rw [getElem?_ofElements, List.getElem?_map, found]
    rfl
  obtain ⟨within, read⟩ := List.getElem?_eq_some_iff.mp listed
  have alsoWithin := staged.length_eq ▸ within
  have here := staged.get within alsoWithin
  rw [List.get_eq_getElem, read] at here
  exact ⟨_, _, change, List.getElem?_eq_getElem alsoWithin, mode, here⟩

omit [Scalar α] in
/-- Filling identifiers changes the inner list of an item value by value. -/
theorem innerValues_change {change : Json → Json} {item : Json} {inner : List Json}
    (mode : change = id ∨ change = IdResolution.filled context.registry)
    (read : innerValues item = inner) :
    ∃ next : Json → Json, (next = id ∨ next = IdResolution.filled context.registry) ∧
      innerValues (change item) = inner.map next := by
  rcases mode with rfl | rfl
  · exact ⟨id, .inl rfl, by rw [id, read, List.map_id]⟩
  · by_cases listed : IdResolution.HasItems item
    · exact ⟨_, .inr rfl, by rw [IdResolution.innerValues_of_hasItems _ listed, read]⟩
    · refine ⟨id, .inl rfl, ?_⟩
      rw [IdResolution.innerValues_of_not_hasItems _ listed, read, List.map_id]

/-- The frames of a scene show the lists of the layout. -/
theorem FrameOf.showsList
    (root : ShowsList context graph (rootValues layout) 0) {list : List Json} {frame : Nat}
    (framed : FrameOf layout graph list frame) : ShowsList context graph list frame := by
  induction framed with
  | root => exact root
  | @inside before after inner item frame child outer own read filled place ih =>
      have present : innerValues item ≠ [] := by rwa [read]
      have noTab := Tabs.isTab_eq_false_of_innerValues present
      have joined := Tabs.innerValues_inItem own present
      have found : (Tabs.inList (before ++ item :: after))[(Tabs.joinRuns before).length]? =
          some (Tabs.inItem item) := by
        rw [Tabs.inList_append_cons noTab, ← Tabs.length_joinRuns_map Tabs.isTab_inItem]
        simp
      obtain ⟨other, path, change, atIndex, mode, staged⟩ := ih.exists_child found
      cases place.symm.trans atIndex
      obtain ⟨next, nextMode, values⟩ := innerValues_change mode joined
      have stillPresent : innerValues (change (Tabs.inItem item)) ≠ [] := by
        rw [values, Ne, List.map_eq_nil_iff, ← List.length_eq_zero_iff, Tabs.length_inList,
          List.length_eq_zero_iff]
        exact Tabs.joinRuns_ne_nil filled
      obtain ⟨spec, isContainer⟩ := exists_container_of_innerValues (α := α) path stillPresent
      rw [isContainer, values] at staged
      refine ⟨fun value member => Tabs.isSorted_of_mem_ownList (ih.sorted item (by simp)) own member,
        itemsPath path, next, nextMode, ?_⟩
      cases staged with
      | container isThere inside =>
          rw [SceneGraph.children_of_node? isThere]
          exact inside
      | leaf noContainer => exact absurd rfl (noContainer _ _)

end Lists

section Runs

variable {context : RenderContext α σ} {text : String} {layout : Json} {document : LayoutDocument α}

/-- The root of a scene shows the items of its layout. -/
theorem showsList_ofText (parsed : Json.parse text = some layout)
    (read : readDocument context.registry text = .ok document) (cursor : CanvasCursor α)
    (hostState : σ) :
    ShowsList context (ofText context text cursor hostState).1.1.graph (rootValues layout) 0 := by
  have graph_eq : (ofText context text cursor hostState).1.1.graph =
      ((ofDocument context document hostState).1.placeRoot context.config.render cursor).1.graph := by
    rw [ofText, read]
  have items_eq : document.items = ofElements "items" 0
      ((Tabs.inList (rootValues layout)).map (IdResolution.filled context.registry)) := by
    rw [items_eq_of_ofJson (ofJson_of_readDocument parsed read), prepare,
      IdResolution.rootValues_resolve, Tabs.rootValues_merge]
  refine ⟨fun item => Tabs.isSorted_of_mem_rootValues (Json.isSorted_of_parse parsed), "items", _,
    .inr rfl, ?_⟩
  rw [graph_eq, ← items_eq]
  exact staged_ofDocument context document cursor hostState

variable {graph : SceneGraph α} {list before run after : List Json} {frame : Nat}
  {blueprint : Blueprint α} {texts : List String}

/-- A frame has one child for each item that is left when the runs of tabs are joined. -/
theorem ShowsList.length_children (shows : ShowsList context graph list frame) :
    (graph.children frame).length = (Tabs.joinRuns list).length := by
  obtain ⟨path, change, -, staged⟩ := shows.staged
  rw [← staged.length_eq, ofElements_eq_mapIdx, List.length_mapIdx, List.length_map,
    Tabs.length_inList]

/-- A run of tabs becomes one child of its frame, which shows the labels. -/
theorem ShowsList.exists_labels (shows : ShowsList context graph (before ++ (run ++ after)) frame)
    (isRun : Tabs.IsRun before run after) (takes : context.TakesRun run blueprint texts)
    (free : ∀ name ∈ blueprint.variantOptions.keys, Text.normalizeKey name ≠ "label") :
    ∃ id, (graph.children frame)[(Tabs.joinRuns before).length]? = some id ∧
      graph.ShowsLabels id blueprint texts := by
  obtain ⟨first, componentId, isFirst, named, unfilled, unscanned, given⟩ := takes.component
  obtain ⟨second, more, rfl⟩ : ∃ second more, run = first :: second :: more := by
    match run, takes.atLeastTwo, isFirst with
    | _ :: second :: more, _, rfl => exact ⟨second, more, rfl⟩
  have bare := takes.bare first List.mem_cons_self
  have tab := isRun.tabs first List.mem_cons_self
  obtain ⟨itemType, typed, isComponent, lowerType⟩ := Tabs.exists_type_of_isTab tab
  obtain ⟨value, joined, relabels⟩ := Tabs.relabels_joinRun takes.labels_eq
    (shows.sorted first (by simp)) bare tab
  have found : (Tabs.inList (before ++ (first :: second :: more ++ after)))[(Tabs.joinRuns
      before).length]? = some value := by
    rw [Tabs.inList, Tabs.inElements_eq_map, List.map_append, List.map_append,
      isRun.map_inItem.joinRuns_eq, joined, ← Tabs.length_joinRuns_map Tabs.isTab_inItem before]
    simp
  obtain ⟨id, path, change, atIndex, mode, staged⟩ := shows.exists_child found
  have changed : Tabs.Relabels texts first (change value) := by
    rcases mode with rfl | rfl
    · exact relabels
    · exact relabels.filled unfilled
  obtain ⟨spec, isSpec, typeName, specId, noSwaps, noOverrides, only⟩ :=
    changed.exists_component (α := α) bare typed isComponent path
  rw [isSpec] at staged
  refine ⟨id, atIndex, ?_⟩
  cases staged with
  | leaf _ rendered =>
      exact Stage.showsLabels_of_rendered rendered (specId.trans named) given unscanned
        takes.labeled free (by rw [typeName, lowerType]) only noSwaps noOverrides

/-- Wherever a frame shows a list, a run of tabs becomes one instance that shows their labels in order. -/
theorem tab_runs_show_labels (context : RenderContext α σ) (cursor : CanvasCursor α) (hostState : σ)
    (parsed : Json.parse text = some layout)
    (read : readDocument context.registry text = .ok document)
    (framed : FrameOf layout (ofText context text cursor hostState).1.1.graph list frame)
    (split : list = before ++ (run ++ after)) (isRun : Tabs.IsRun before run after)
    (takes : context.TakesRun run blueprint texts)
    (free : ∀ name ∈ blueprint.variantOptions.keys, Text.normalizeKey name ≠ "label") :
    let graph := (ofText context text cursor hostState).1.1.graph
    (graph.children frame).length = (Tabs.joinRuns list).length ∧
      ∃ id, (graph.children frame)[(Tabs.joinRuns before).length]? = some id ∧
        graph.ShowsLabels id blueprint texts := by
  have shows := framed.showsList (showsList_ofText parsed read cursor hostState)
  refine ⟨shows.length_children, ?_⟩
  subst split
  exact shows.exists_labels isRun takes free

/-- A component with three label nodes, two of which stand in a frame, and these variants. -/
def tabBar (options : Dict (List String)) : Blueprint Rat :=
  { Stage.badgeOf
      [.node "1:0" "Bar" true 0 0 .frame
          [Stage.textNode "1:1" "Label", Stage.textNode "1:2" "label"],
        Stage.textNode "1:3" "Label"] with
    variantOptions := options }

def tabOf (label : String) : Json :=
  .object
    [("componentNodeId", .string "80:1"), ("properties", .object [("label", .string label)]),
      ("type", .string "tab")]

def tabsLayout : Json := .object [("items", .array [tabOf "Home", tabOf "Search"])]

def tabsText : String :=
  "\x7b\"items\":[\x7b\"type\":\"tab\",\"componentNodeId\":\"80:1\",\"properties\":\x7b\"label\":\"Home\"\x7d\x7d,\x7b\"type\":\"tab\",\"componentNodeId\":\"80:1\",\"properties\":\x7b\"label\":\"Search\"\x7d\x7d]\x7d"

set_option maxRecDepth 40000 in
theorem parse_tabsText : Json.parse tabsText = some tabsLayout := by
  simp only [tabsText, Json.parse, Json.readText, String.reduceToList]
  rfl

/-- Two tabs side by side are a run of their own. -/
theorem isRun_tabs : Tabs.IsRun [] [tabOf "Home", tabOf "Search"] [] := by
  refine ⟨fun item member => ?_, nofun, nofun⟩
  simp only [List.mem_cons, List.not_mem_nil, or_false] at member
  rcases member with rfl | rfl <;> rfl

/-- A tab of the sample carries its label only. -/
theorem isBare_tabOf (label : String) : Tabs.IsBare (tabOf label) := by
  refine ⟨fun value found => ?_, rfl, rfl, rfl⟩
  cases found
  exact ⟨_, rfl, by simp [Dict.keys]⟩

/-- The sample bar has its labels in order. -/
theorem isLabeled_tabBar (options : Dict (List String)) :
    (tabBar options).IsLabeled (Stage.contextOf (tabBar options)).host where
  exists_text := ⟨_, .tail _ (.head _), rfl⟩
  named := by
    simp only [tabBar, Stage.badgeOf, Blueprint.walk]
    decide
  writable := by
    simp only [tabBar, Stage.badgeOf, Blueprint.walk]
    decide
  loads _ _ _ _ _ _ _ _ _ _ := rfl

/-- The sample host takes the run of the sample tabs. -/
theorem takesRun_tabs (options : Dict (List String)) :
    (Stage.contextOf (tabBar options)).TakesRun [tabOf "Home", tabOf "Search"] (tabBar options)
      ["Home", "Search"] where
  atLeastTwo := Nat.le_refl 2
  labels_eq := rfl
  bare item member := by
    simp only [List.mem_cons, List.not_mem_nil, or_false] at member
    rcases member with rfl | rfl <;> exact isBare_tabOf _
  component := by
    have named : componentId? (tabOf "Home") = some "80:1" := by decide
    exact ⟨_, _, rfl, named, IdResolution.replacement?_eq_none _ named (by decide) (by decide),
      rfl, fun _ => rfl⟩
  labeled := isLabeled_tabBar options

/-- The sample text is read whatever options the bar has. -/
theorem exists_readDocument_tabsText (options : Dict (List String)) :
    ∃ document : LayoutDocument Rat,
      readDocument (Stage.contextOf (tabBar options)).registry tabsText = .ok document := by
  rw [readDocument, parse_tabsText]
  exact ⟨_, rfl⟩

/-- Two tabs are one bar, which shows Home and Search and hides its third label node. -/
theorem two_tabs_share_bar :
    ∃ (layout : Json) (document : LayoutDocument Rat),
      Json.parse tabsText = some layout ∧
      readDocument (Stage.contextOf (tabBar [])).registry tabsText = .ok document ∧
      FrameOf layout (ofText (Stage.contextOf (tabBar [])) tabsText .origin ()).1.1.graph
        [tabOf "Home", tabOf "Search"] 0 ∧
      Tabs.IsRun [] [tabOf "Home", tabOf "Search"] [] ∧
      (Stage.contextOf (tabBar [])).TakesRun [tabOf "Home", tabOf "Search"] (tabBar [])
        ["Home", "Search"] ∧
      (∀ name ∈ (tabBar []).variantOptions.keys, Text.normalizeKey name ≠ "label") ∧
      ∃ id, ((ofText (Stage.contextOf (tabBar [])) tabsText .origin ()).1.1.graph.children 0) =
          [id] ∧
        (ofText (Stage.contextOf (tabBar [])) tabsText .origin ()).1.1.graph.ShowsLabels id
          (tabBar []) ["Home", "Search"] := by
  obtain ⟨document, read⟩ := exists_readDocument_tabsText []
  have free : ∀ name ∈ (tabBar []).variantOptions.keys, Text.normalizeKey name ≠ "label" := nofun
  obtain ⟨one, id, first, shows⟩ := tab_runs_show_labels (Stage.contextOf (tabBar [])) .origin ()
    parse_tabsText read .root rfl isRun_tabs (takesRun_tabs []) free
  refine ⟨tabsLayout, document, parse_tabsText, read, .root, isRun_tabs, takesRun_tabs [], free, id,
    ?_, shows⟩
  obtain ⟨only, same⟩ := List.length_eq_one_iff.mp (one.trans rfl)
  rw [same] at first ⊢
  cases first
  rfl

/-- A variant that is called label takes the labels, and no label node shows them. -/
theorem label_variant_takes_labels :
    ¬∀ (context : RenderContext Rat Unit) (text : String) (layout : Json)
        (document : LayoutDocument Rat) (cursor : CanvasCursor Rat)
        (list before run after : List Json) (frame : Nat) (blueprint : Blueprint Rat)
        (texts : List String),
      Json.parse text = some layout → readDocument context.registry text = .ok document →
      FrameOf layout (ofText context text cursor ()).1.1.graph list frame →
      list = before ++ (run ++ after) → Tabs.IsRun before run after →
      context.TakesRun run blueprint texts →
        let graph := (ofText context text cursor ()).1.1.graph
        (graph.children frame).length = (Tabs.joinRuns list).length ∧
          ∃ id, (graph.children frame)[(Tabs.joinRuns before).length]? = some id ∧
            graph.ShowsLabels id blueprint texts := by
  intro every
  let options : Dict (List String) := [("Label", ["Long"])]
  obtain ⟨document, read⟩ := exists_readDocument_tabsText options
  obtain ⟨-, id, first, shows⟩ := every (Stage.contextOf (tabBar options)) tabsText tabsLayout
    document .origin _ [] _ [] 0 (tabBar options) ["Home", "Search"] parse_tabsText read .root rfl
    isRun_tabs (takesRun_tabs options)
  have made : (ofText (Stage.contextOf (tabBar options)) tabsText .origin ()).1.1.graph.children 0 =
      [1] := by
    rw [ofText, readDocument, parse_tabsText]
    decide +kernel
  rw [made] at first
  cases first
  have texts : ((ofText (Stage.contextOf (tabBar options)) tabsText .origin ()).1.1.graph.textsBelow
      1).map (fun node => node.text?.map (·.characters)) = [some "", some "", some ""] := by
    rw [ofText, readDocument, parse_tabsText]
    decide +kernel
  have atFirst := congrArg (fun list => list[0]?) texts
  simp only [List.getElem?_map, List.getElem?_cons_zero] at atFirst
  obtain ⟨node, found, empty⟩ := Option.map_eq_some_iff.mp atFirst
  have shown := (shows.shown 0 node "Home" found rfl).2
  rw [empty] at shown
  revert shown
  decide

end Runs

end Scene

end DesignScene
