/-
This file fills in component identifiers that authors left open.
-/
import DesignScene.Component.Identifier
import DesignScene.Component.Registry
import DesignScene.Document.Ingest

namespace DesignScene

/-- What became of one open identifier. -/
structure IdResolution where
  path : String
  itemType : String
  authored : Option String
  resolved : Option String

namespace IdResolution

def toJson (resolution : IdResolution) : Json :=
  .object
    [("path", .string resolution.path), ("itemType", .string resolution.itemType),
      ("original", .ofOption .string resolution.authored),
      ("resolved", .ofOption .string resolution.resolved)]

/-- An absent identifier is open, and so is one that an author made up. -/
def isOpen (authored : Option String) : Bool := authored.elim true isPlaceholderId

/-- A component with an open identifier takes the one that the registry has for its type. -/
def ofFields (registry : Registry) (path : String) (fields : Dict Json) :
    Option IdResolution :=
  match (fields.get? "type").bind Json.asString? with
  | none => none
  | some itemType =>
      let authored := (fields.get? "componentNodeId").bind Json.asString?
      if isComponentType itemType && isOpen authored then
        some ⟨path, itemType, authored, registry.resolveType itemType⟩
      else none

def apply (resolution : IdResolution) (fields : Dict Json) : Dict Json :=
  match resolution.resolved with
  | some id => fields.insert "componentNodeId" (.string id)
  | none => fields

/-- The fields of an item whose inner items are done. -/
def resolveFields (registry : Registry) (path : String) (fields : Dict Json)
    (inner : List IdResolution) : Json × List IdResolution :=
  match ofFields registry path fields with
  | some resolution => (.object (resolution.apply fields), inner ++ [resolution])
  | none => (.object fields, inner)

mutual

/-- The inner items of an item come before the item. -/
def inItem (registry : Registry) (path : String) : Json → Json × List IdResolution
  | .object fields =>
      let (fields, inner) := inItems registry (itemsPath path) fields
      resolveFields registry path fields inner
  | json => (json, [])

/-- The field `items` of an object, if it is an array. -/
def inItems (registry : Registry) (path : String) :
    List (String × Json) → List (String × Json) × List IdResolution
  | [] => ([], [])
  | (key, .array elements) :: more =>
      if key = "items" then
        let (elements, resolutions) := inElements registry path 0 elements
        ((key, .array elements) :: more, resolutions)
      else
        let (more, resolutions) := inItems registry path more
        ((key, .array elements) :: more, resolutions)
  | field :: more =>
      let (more, resolutions) := inItems registry path more
      (field :: more, resolutions)

def inElements (registry : Registry) (path : String) (index : Nat) :
    List Json → List Json × List IdResolution
  | [] => ([], [])
  | element :: more =>
      let (element, resolutions) := inItem registry (elementPath path index) element
      let (more, others) := inElements registry path (index + 1) more
      (element :: more, resolutions ++ others)

end

/-- The layout with its open identifiers filled in, and a report on each of them. -/
def resolve (registry : Registry) : Json → Json × List IdResolution
  | .object fields =>
      let (fields, outer) := inItems registry "items" fields
      match Dict.get? "layoutContainer" fields with
      | some (.object container) =>
          let (container, inner) := inItems registry "layoutContainer.items" container
          (.object (Dict.insert "layoutContainer" (.object container) fields), outer ++ inner)
      | _ => (.object fields, outer)
  | json => (json, [])

end IdResolution

end DesignScene
