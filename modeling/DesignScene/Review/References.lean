/-
This file checks that the components of a layout exist.
-/
import DesignScene.Component.Registry
import DesignScene.Document.Ingest
import DesignScene.Review.Issue

namespace DesignScene.References

mutual

/-- Every component identifier in a layout, with the path of its item. -/
def collectFrom (path : String) : Json → List (String × String)
  | .object fields =>
      (((Dict.get? "componentNodeId" fields).bind Json.asString?).map fun id => (id, path)).toList ++
        (inItems (itemsPath path) fields ++ inContainer (path ++ ".layoutContainer") fields)
  | _ => []

def inItems (path : String) : List (String × Json) → List (String × String)
  | [] => []
  | (key, .array elements) :: more =>
      if key = "items" then inElements path 0 elements else inItems path more
  | (key, _) :: more => if key = "items" then [] else inItems path more

def inElements (path : String) (index : Nat) : List Json → List (String × String)
  | [] => []
  | element :: more =>
      collectFrom (elementPath path index) element ++ inElements path (index + 1) more

def inContainer (path : String) : List (String × Json) → List (String × String)
  | [] => []
  | (key, value) :: more =>
      if key = "layoutContainer" then collectFrom path value else inContainer path more

end

def collect (layout : Json) : List (String × String) := collectFrom "root" layout

def noScan : Finding :=
  .warning
    (.warning "NO_SCAN_RESULTS" "No design system scan results found" "validation"
      "Run a design system scan to validate component references")

def notFound (id path : String) : Finding :=
  .error
    ⟨"COMPONENT_NOT_FOUND", "Component with ID \"" ++ id ++ "\" not found in design system", path,
      .high, true, none⟩

/-- Without any scanned component nothing is checked. -/
def check (registry : Option Registry) (layout : Json) : List Finding :=
  let known := (registry.map Registry.componentIds).getD []
  if known.isEmpty then [noScan]
  else
    ((collect layout).filter fun (id, _) => id != "" && !known.contains id).map fun (id, path) =>
      notFound id path

end DesignScene.References
