/-
This file joins neighbouring tabs of a layout into one tab with several labels.
-/
import DesignScene.Json.Basic
import DesignScene.Text.Case

namespace DesignScene.Tabs

def isTab (item : Json) : Bool :=
  ((item.field? "type").bind Json.asString?).elim false fun itemType =>
    Text.equalIgnoringAsciiCase itemType "tab"

/-- The label of a tab stands among its properties or beside them. -/
def labelField (item : Json) : Option Json :=
  let properties : Dict Json := ((item.field? "properties").bind Json.asObject?).getD []
  (["Label", "label", "text"].findSome? fun name => properties.get? name).or (item.field? "label")

def labels (item : Json) : List Json :=
  match labelField item with
  | some (.array list) => list
  | some (.string label) => [.string label]
  | _ => []

def setLabels (list : List Json) (properties : Dict Json) : Dict Json :=
  ((properties.erase "label").erase "text").insert "Label" (.array list)

/-- Only properties that are an object, or absent, can take the labels. -/
def withLabels (list : List Json) : Json → Json
  | .object fields =>
      match Dict.get? "properties" fields with
      | none => .object (Dict.insert "properties" (.object (setLabels list [])) fields)
      | some (.object properties) =>
          .object (Dict.insert "properties" (.object (setLabels list properties)) fields)
      | some _ => .object fields
  | json => json

/-- A run of two or more tabs becomes its first tab with all labels. -/
def joinRun : List Json → List Json
  | [] => []
  | [tab] => [tab]
  | first :: more => [withLabels ((first :: more).flatMap labels) first]

/-- The tabs of `run` stand right before the list. -/
def joinRunsAfter (run : List Json) : List Json → List Json
  | [] => joinRun run
  | item :: more =>
      if isTab item then joinRunsAfter (run ++ [item]) more
      else joinRun run ++ item :: joinRunsAfter [] more

def joinRuns (items : List Json) : List Json := joinRunsAfter [] items

mutual

/-- The lists inside an item are joined before the list it stands in. -/
def inItem : Json → Json
  | .object fields => .object (inFields fields)
  | json => json

def inFields : List (String × Json) → List (String × Json)
  | [] => []
  | (key, .array elements) :: more =>
      if key = "items" || key = "children" then
        (key, .array (joinRuns (inElements elements))) :: inFields more
      else (key, .array elements) :: inFields more
  | field :: more => field :: inFields more

def inElements : List Json → List Json
  | [] => []
  | element :: more => inItem element :: inElements more

end

def inList (items : List Json) : List Json := joinRuns (inElements items)

/-- A value whose field `items` is an array has that array joined. -/
def inItemsField (fields : Dict Json) : Dict Json × Nat :=
  match fields.get? "items" with
  | some (.array elements) =>
      let joined := inList elements
      (fields.insert "items" (.array joined), elements.length - joined.length)
  | _ => (fields, 0)

/-- The layout with its tabs joined, and by how much its two outer lists became shorter. -/
def merge : Json → Json × Nat
  | .object fields =>
      let (fields, removed) := inItemsField fields
      match fields.get? "layoutContainer" with
      | some (.object container) =>
          let (container, more) := inItemsField container
          (.object (fields.insert "layoutContainer" (.object container)), removed + more)
      | _ => (.object fields, removed)
  | json => (json, 0)

end DesignScene.Tabs
