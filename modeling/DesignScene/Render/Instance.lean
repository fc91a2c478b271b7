/-
This file renders components as instances and applies their properties.
-/
import DesignScene.Property.Resolution
import DesignScene.Render.Frame
import DesignScene.Render.Locate
import DesignScene.Render.Native

namespace DesignScene.Stage

variable {α σ : Type} [Scalar α]

def blueprintNodeKind : BlueprintKind α → NodeKind α
  | .frame => .frame FrameProps.plain
  | .text characters fonts fontSize _ =>
      .text
        { characters := characters
          fonts := fonts
          fontSize := fontSize
          textAlign := .left
          autoResize := .widthAndHeight
          fills := []
          fillStyleId := none
          textStyleId := none }
  | .instance mainComponentId => .instance ⟨mainComponentId, []⟩
  | .vector => .vector
  | .image => .image {}

def lacksFont : BlueprintKind α → Bool
  | .text _ _ _ missingFont => missingFont
  | _ => false

/-- The identifier of a node inside an instance. -/
def nestedHostId (instanceHostId nodeId : String) : String := "I" ++ instanceHostId ++ ";" ++ nodeId

mutual

/-- A node of a blueprint and all nodes below it, in the order of the blueprint. -/
def addBlueprintNode (instanceHostId : String) (parent : Nat) :
    BlueprintNode α → Stage α σ → Stage α σ
  | .node nodeId name visible width height kind children, stage =>
      let id := stage.graph.size
      let stage :=
        stage.addNode (some parent) (some (nestedHostId instanceHostId nodeId)) name
          (blueprintNodeKind kind) width height
      let stage := stage.setVisible visible id
      let stage :=
        if lacksFont kind then { stage with missingFonts := stage.missingFonts ++ [id] } else stage
      addBlueprintNodes instanceHostId id children stage

def addBlueprintNodes (instanceHostId : String) (parent : Nat) :
    List (BlueprintNode α) → Stage α σ → Stage α σ
  | [], stage => stage
  | node :: more, stage =>
      addBlueprintNodes instanceHostId parent more
        (addBlueprintNode instanceHostId parent node stage)

end

/-- The instance is the node at the place where the scene ended before. -/
def instantiate (blueprint : Blueprint α) (parent : Nat) (name : Option String)
    (stage : Stage α σ) : Stage α σ :=
  let id := stage.graph.size
  let stage :=
    stage.addNode (some parent) none (name.getD blueprint.name)
      (.instance ⟨blueprint.componentId, blueprint.defaultVariant⟩) blueprint.width
      blueprint.height
  stage |> addBlueprintNodes (SceneGraph.generatedHostId id) id blueprint.children

def updateInstance (change : InstanceProps → InstanceProps) (node : SceneNode α) : SceneNode α :=
  match node.kind with
  | .instance props => { node with kind := .instance (change props) }
  | _ => node

/-- A component without variant options allows every variant. -/
def allowsVariant (blueprint : Blueprint α) (dimension value : String) : Bool :=
  blueprint.variantOptions.isEmpty ||
    (blueprint.variantOptions.get? dimension).elim false fun values => values.contains value

def applyVariant (blueprint : Blueprint α) (instanceId : Nat) (path : String) (stage : Stage α σ)
    (variant : String × String) : Stage α σ :=
  let (dimension, value) := variant
  if allowsVariant blueprint dimension value then
    stage.updateNode instanceId
      (updateInstance fun props =>
        { props with variantValues := props.variantValues.insert dimension value })
  else
    stage.warn path
      ("Variant " ++ dimension ++ "=" ++ value ++ " is not available on the live component")

def applyVariants (blueprint : Blueprint α) (instanceId : Nat) (path : String)
    (variants : Dict String) (stage : Stage α σ) : Stage α σ :=
  variants.foldl (applyVariant blueprint instanceId path) stage

def applyLayout (instanceId parent : Nat) (directive : LayoutDirective α) (stage : Stage α σ) :
    Stage α σ :=
  let layout := directive.forParent (stage.layoutModeOf (some parent))
  let fill := stage.fillWidth layout (some parent)
  stage.updateNode instanceId fun node =>
    { node with
      layout := layout
      constraints := directive.constraints
      width := fill.elim node.width directive.constraints.clampWidth }

def writeText (characters : String) (fonts : List FontName) (node : SceneNode α) : SceneNode α :=
  match node.kind with
  | .text props =>
      { node with
        visible := true
        kind := .text { props with characters := characters, fonts := fonts } }
  | _ => { node with visible := true }

/-- A text is written only after its fonts have loaded. -/
def setText (context : RenderContext α σ) (path : String) (id : Nat) (characters : String)
    (stage : Stage α σ) : Stage α σ :=
  match stage.graph.node? id with
  | none => stage
  | some node =>
      if stage.missingFonts.contains id then
        stage.warn path ("Skipping text node '" ++ node.name ++ "' with missing font")
      else
        match node.text? with
        | none => stage
        | some props =>
            match stage.loadFonts context props.fonts with
            | (.error error, stage) => stage.warn path error.message
            | (.ok fonts, stage) => stage.updateNode id (writeText characters fonts)

/-- The first texts go to the nodes, at most `limit` of them, and the other nodes are hidden. -/
def spreadOver (context : RenderContext α σ) (path : String) (limit : Nat) :
    List Nat → List String → Stage α σ → Stage α σ
  | [], _, stage => stage
  | id :: more, texts, stage =>
      match limit, texts with
      | limit + 1, text :: others =>
          spreadOver context path limit more others (stage.setText context path id text)
      | _, _ => spreadOver context path 0 more [] (stage.setVisible false id)

def applyBinding (context : RenderContext α σ) (instanceId : Nat) (path : String)
    (stage : Stage α σ) (binding : SlotBinding) : Stage α σ :=
  match binding.value with
  | .single text =>
      match stage.graph.locateSlot instanceId binding.slot with
      | some id => stage.setText context path id text
      | none =>
          stage.warn path ("Text slot '" ++ binding.slot.slotName ++ "' not found in instance")
  | .multiple texts =>
      let nodes := stage.graph.slotTexts instanceId binding.slot
      stage |> spreadOver context path (binding.maxItems.getD nodes.length) nodes texts

def hideSlot (instanceId : Nat) (stage : Stage α σ) (slot : SlotRef) : Stage α σ :=
  match stage.graph.locateSlot instanceId slot with
  | some id => stage.setVisible false id
  | none => stage

def applyText (context : RenderContext α σ) (instanceId : Nat) (path : String)
    (stage : Stage α σ) (assignment : TextAssignment) : Stage α σ :=
  assignment.hiddenSlots.foldl (hideSlot instanceId)
    (assignment.bindings.foldl (applyBinding context instanceId path) stage)

/-- A reference is an identifier, a name in the registry, or an icon that the host knows. -/
def resolveReference (context : RenderContext α σ) (reference : String) (stage : Stage α σ) :
    Option String × Stage α σ :=
  if context.registry.contains reference then (some reference, stage)
  else
    match context.registry.findByName reference with
    | some schema => (some schema.componentId, stage)
    | none => stage.ask (context.host.icon reference)

/-- Instances are swapped, images and rectangles are filled, and all nodes keep the reference. -/
def writeMedia (reference : String) (swap : Option String) (node : SceneNode α) : SceneNode α :=
  { node with
    visible := true
    mediaRef := some reference
    kind :=
      match node.kind with
      | .instance props =>
          .instance (swap.elim props fun id => { props with mainComponentId := id })
      | .image props => .image { props with fills := [.image reference] }
      | .rectangle props => .rectangle { props with fills := [.image reference] }
      | kind => kind }

def applyMedia (context : RenderContext α σ) (instanceId : Nat) (path : String)
    (stage : Stage α σ) (media : MediaAssignment) : Stage α σ :=
  match stage.graph.locateSlot instanceId media.slot with
  | none => stage.warn path ("Media slot '" ++ media.slot.slotName ++ "' not found in instance")
  | some id =>
      match media.value with
      | .visible isVisible => stage.setVisible isVisible id
      | .reference reference =>
          let (swap, stage) :=
            if media.kind == .componentInstance then stage.resolveReference context reference
            else (none, stage)
          stage.updateNode id (writeMedia reference swap)

def applyVisibility (instanceId : Nat) (path : String) (stage : Stage α σ)
    (override : String × Bool) : Stage α σ :=
  let (nodeId, isVisible) := override
  match stage.graph.locate instanceId nodeId nodeId with
  | some id => stage.setVisible isVisible id
  | none => stage.warn path ("Visibility override target '" ++ nodeId ++ "' not found")

def applyIconSwap (context : RenderContext α σ) (instanceId : Nat) (path : String)
    (stage : Stage α σ) (swap : String × String) : Stage α σ :=
  let (key, icon) := swap
  match stage.graph.iconTarget instanceId key with
  | none => stage.warn path ("No icon slot matches '" ++ key ++ "'")
  | some id =>
      match stage.resolveReference context icon with
      | (none, stage) => stage.warn path ("Icon '" ++ icon ++ "' not found")
      | (some componentId, stage) =>
          stage.updateNode id
            (updateInstance fun props => { props with mainComponentId := componentId })

/-- Variants, layout, texts, media, visibility and icons are applied in this order. -/
def applyProperties (context : RenderContext α σ) (blueprint : Blueprint α)
    (spec : ComponentSpec) (resolved : ResolvedProperties α) (instanceId parent : Nat)
    (path : String) (stage : Stage α σ) : Stage α σ :=
  let stage := stage.applyVariants blueprint instanceId path resolved.variants
  let stage := stage.applyLayout instanceId parent resolved.layoutProperties
  let stage := resolved.textProperties.foldl (applyText context instanceId path) stage
  let stage := resolved.mediaProperties.foldl (applyMedia context instanceId path) stage
  let stage := spec.visibilityOverrides.foldl (applyVisibility instanceId path) stage
  spec.iconSwaps.foldl (applyIconSwap context instanceId path) stage

/-- The scanned schema of a component, or one that is read off its blueprint and reported. -/
def schemaFor (context : RenderContext α σ) (spec : ComponentSpec) (componentId : String)
    (blueprint : Blueprint α) (stage : Stage α σ) : ComponentSchema × Stage α σ :=
  match context.registry.get? componentId with
  | some schema => (schema, stage)
  | none =>
      (blueprint.basicSchema spec.typeName,
        { stage with
          report :=
            { stage.report with
              basicModeComponents := stage.report.basicModeComponents ++ [componentId] } })

def reportResolution (path : String) (resolved : ResolvedProperties α) (stage : Stage α σ) :
    Stage α σ :=
  let stage := resolved.errors.foldl
    (fun stage error => stage.warn path (error.property ++ ": " ++ error.message)) stage
  { stage with
    report :=
      { stage.report with
        propertyWarnings := stage.report.propertyWarnings ++ resolved.warnings } }

def renderBlueprint (context : RenderContext α σ) (parent : Nat) (path : String)
    (spec : ComponentSpec) (componentId : String) (blueprint : Blueprint α)
    (stage : Stage α σ) : Stage α σ :=
  let (schema, stage) := stage.schemaFor context spec componentId blueprint
  let bag := spec.properties.preprocess spec.typeName
  let resolved : ResolvedProperties α := ResolvedProperties.ofBag (some schema) bag
  let stage := stage.reportResolution path resolved
  let instanceId := stage.graph.size
  let stage := stage.instantiate blueprint parent spec.name
  stage.applyProperties context blueprint spec resolved instanceId parent path

/-- A component that the host does not give is not rendered. -/
def renderComponent (context : RenderContext α σ) (parent : Nat) (path : String)
    (spec : ComponentSpec) (stage : Stage α σ) : Except RenderError Unit × Stage α σ :=
  match spec.componentId with
  | none =>
      (.error (.structural path ("'" ++ spec.typeName ++ "' item has no componentNodeId")), stage)
  | some componentId =>
      match stage.ask (context.host.blueprint componentId) with
      | (.error error, stage) => (.error error, stage)
      | (.ok none, stage) => (.error (.componentNotFound componentId), stage)
      | (.ok (some blueprint), stage) =>
          (.ok (), stage.renderBlueprint context parent path spec componentId blueprint)

end DesignScene.Stage
