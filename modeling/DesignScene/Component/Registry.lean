/-
This file keeps the scanned components by identifier and finds them by name and by type.
-/
import DesignScene.Component.Schema
import DesignScene.Text.Case
import DesignScene.Text.Basic

namespace DesignScene

/-- The letters and digits of a type name, in lower case. -/
def normalizeTypeName (text : String) : String :=
  String.ofList ((text.toList.filter Text.isAlphanumeric).flatMap Text.lowerChar)

/-- The schemas by component identifier. -/
structure Registry where
  schemas : Dict ComponentSchema := []

namespace Registry

/-- A schema replaces the earlier one with the same identifier. -/
def register (registry : Registry) (schema : ComponentSchema) : Registry :=
  ⟨registry.schemas.insert schema.componentId schema⟩

def get? (registry : Registry) (componentId : String) : Option ComponentSchema :=
  registry.schemas.get? componentId

def ofList (schemas : List ComponentSchema) : Registry := schemas.foldl register {}

/-- All schemas in the order of their identifiers. -/
def all (registry : Registry) : List ComponentSchema := registry.schemas.map Prod.snd

def size (registry : Registry) : Nat := registry.schemas.length

def contains (registry : Registry) (componentId : String) : Bool :=
  registry.schemas.hasKey componentId

def componentIds (registry : Registry) : List String := registry.all.map (·.componentId)

def findByName (registry : Registry) (name : String) : Option ComponentSchema :=
  let wanted := Text.lower (Text.trim name)
  registry.all.find? fun schema => Text.lower schema.name == wanted

/-- A schema is looked up by its identifier and then by its name. -/
def lookup (registry : Registry) (idOrName : String) : Option ComponentSchema :=
  (registry.get? idOrName).or (registry.findByName idOrName)

def staleSchemas (registry : Registry) (now : Nat) : List ComponentSchema :=
  registry.all.filter (·.isStale now)

/-- The type or the name of a component is this word. -/
def isOfType (wanted : String) (schema : ComponentSchema) : Bool :=
  (schema.componentType.elim false fun text => normalizeTypeName text == wanted) ||
    normalizeTypeName schema.name == wanted

/-- The name of a component contains this word or is contained in it. -/
def isNear (wanted : String) (schema : ComponentSchema) : Bool :=
  let name := normalizeTypeName schema.name
  name != "" && (Text.contains name wanted || Text.contains wanted name)

/-- The component of this very type or name, else the first with a similar name. -/
def resolveType (registry : Registry) (typeName : String) : Option String :=
  let wanted := normalizeTypeName typeName
  if wanted == "" then none
  else
    ((registry.all.find? (isOfType wanted)).or (registry.all.find? (isNear wanted))).map
      (·.componentId)

end Registry

/-- The schemas of a text; one that cannot be read has none. -/
def registryFromText (text : String) : Registry :=
  Registry.ofList (((Json.parseWritten text).bind (Json.toList? ComponentSchema.ofJson)).getD [])

end DesignScene
