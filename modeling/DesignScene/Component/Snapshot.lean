/-
This file loads scan snapshots from a tree of files.
-/
import DesignScene.Component.Registry

namespace DesignScene

/-- A file or a directory by name; the content of a directory is sorted by name. -/
inductive FileTree where
  | file (content : String)
  | directory (entries : List (String × FileTree))

namespace FileTree

/-- The names on the way; empty names and single points lead nowhere. -/
def splitPath (path : String) : List String :=
  ((Text.pieces (· == '/') path.toList).map String.ofList).filter fun name =>
    name != "" && name != "."

/-- Directories on the way are made, and `leaf` stands at the end of the way. -/
def place (leaf : FileTree) : List String → Dict FileTree → Dict FileTree
  | [], entries => entries
  | [name], entries =>
      match leaf, entries.get? name with
      | .directory [], some _ => entries
      | _, _ => entries.insert name leaf
  | name :: more, entries =>
      let inner :=
        match entries.get? name with
        | some (.directory inner) => inner
        | _ => []
      entries.insert name (.directory (place leaf more inner))

def ofFiles (files : List (String × Option String)) : Dict FileTree :=
  files.foldl
    (fun entries file => place (file.2.elim (.directory []) .file) (splitPath file.1) entries) []

/-- The extension is what follows the last point, which must not begin the name. -/
def hasJsonExtension (name : String) : Bool :=
  Text.endsWith name ".json" && name != ".json"

mutual

/-- The texts of the snapshot files, depth first. -/
def snapshots : FileTree → List String
  | .file content => [content]
  | .directory entries => entrySnapshots entries

def entrySnapshots : List (String × FileTree) → List String
  | [] => []
  | (name, .file content) :: more =>
      (if hasJsonExtension name then [content] else []) ++ entrySnapshots more
  | (_, .directory entries) :: more => entrySnapshots entries ++ entrySnapshots more

end

end FileTree

/-- A snapshot holds one schema or an array of schemas. -/
def readSnapshot (content : String) : Option (List ComponentSchema) :=
  match Json.parse content with
  | some (.array elements) => elements.mapM ComponentSchema.ofJson
  | some json => (ComponentSchema.ofJson json).map fun schema => [schema]
  | none => none

/-- Unreadable snapshots are skipped; the number counts the schemas that were registered. -/
def Registry.load (registry : Registry) (entries : Dict FileTree) : Registry × Nat :=
  let schemas := (FileTree.entrySnapshots entries).flatMap fun content =>
    (readSnapshot content).getD []
  (schemas.foldl Registry.register registry, schemas.length)

end DesignScene
