/-
This file writes the nodes of a scene as JSON.
-/
import DesignScene.Layout.Encoding
import DesignScene.Scene.Graph

namespace DesignScene

def Paint.toJson : Paint → Json
  | .solid color opacity =>
      .object
        [("type", .string "SOLID"), ("color", color.toJson), ("opacity", .ofFloat opacity)]
  | .image reference => .object [("type", .string "IMAGE"), ("imageRef", .string reference)]

def FrameProps.toJson (props : FrameProps Float) : Json :=
  .object
    [("layoutMode", .string props.layoutMode.name), ("padding", props.padding.toJson),
      ("itemSpacing", props.itemSpacing.toJson), ("layoutWrap", .bool props.layoutWrap),
      ("primaryAxisAlignItems", .ofOption .string props.primaryAxisAlignItems),
      ("counterAxisAlignItems", .ofOption .string props.counterAxisAlignItems),
      ("primarySizing", .string props.primarySizing.name),
      ("counterSizing", .string props.counterSizing.name),
      ("cornerRadius", .ofOption .ofFloat props.cornerRadius),
      ("fills", .ofList Paint.toJson props.fills)]

def TextProps.toJson (props : TextProps Float) : Json :=
  .object
    [("characters", .string props.characters), ("fonts", .ofList FontName.toJson props.fonts),
      ("fontSize", .ofFloat props.fontSize), ("textAlign", .string props.textAlign.name),
      ("autoResize", .string props.autoResize.name), ("fills", .ofList Paint.toJson props.fills),
      ("fillStyleId", .ofOption .string props.fillStyleId),
      ("textStyleId", .ofOption .string props.textStyleId)]

def ShapeProps.toJson (props : ShapeProps Float) : Json :=
  .object
    [("fills", .ofList Paint.toJson props.fills),
      ("cornerRadius", .ofOption .ofFloat props.cornerRadius)]

def InstanceProps.toJson (props : InstanceProps) : Json :=
  .object
    [("mainComponentId", .string props.mainComponentId),
      ("variantValues", .ofDict .string props.variantValues)]

def PlaceholderProps.toJson (props : PlaceholderProps) : Json :=
  .object [("reason", .string props.reason), ("source", .string props.source)]

def NodeKind.toJson (kind : NodeKind Float) : Json :=
  let tagged (name : String) (props : Json) : Json :=
    .object [("type", .string name), ("props", props)]
  match kind with
  | .frame props => tagged "frame" props.toJson
  | .text props => tagged "text" props.toJson
  | .rectangle props => tagged "rectangle" props.toJson
  | .ellipse props => tagged "ellipse" props.toJson
  | .image props => tagged "image" props.toJson
  | .instance props => tagged "instance" props.toJson
  | .vector => .object [("type", .string "vector")]
  | .placeholder props => tagged "placeholder" props.toJson

def SceneNode.toJson (node : SceneNode Float) : Json :=
  .object
    [("id", .ofNat node.id), ("hostId", .string node.hostId), ("name", .string node.name),
      ("parent", .ofOption .ofNat node.parent), ("children", .ofList .ofNat node.children),
      ("visible", .bool node.visible), ("x", .ofFloat node.x), ("y", .ofFloat node.y),
      ("width", .ofFloat node.width), ("height", .ofFloat node.height),
      ("fixedWidth", .bool node.fixedWidth), ("layout", node.layout.toJson),
      ("constraints", node.constraints.toJson), ("mediaRef", .ofOption .string node.mediaRef),
      ("kind", node.kind.toJson)]

def SceneGraph.toJson (graph : SceneGraph Float) : Json :=
  .object [("nodes", .ofList SceneNode.toJson graph.nodes.toList)]

end DesignScene
