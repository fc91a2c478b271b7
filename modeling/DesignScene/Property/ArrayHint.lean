/-
This file says which slots of a component type hold repeated values.
-/
import DesignScene.Text.Basic
import DesignScene.Text.Case

namespace DesignScene

/-- The slot names that hold repeated values, and how many of them at most. -/
structure ArrayHint where
  slotNames : List String
  maxItems : Nat

/-- The first word that a component type contains decides. -/
def arrayHints : List (String × ArrayHint) := [
  ("tab", ⟨["label"], 8⟩),
  ("chip", ⟨["label", "text"], 10⟩),
  ("list", ⟨["item", "option", "choice"], 50⟩),
  ("navigation", ⟨["label", "item"], 6⟩),
  ("menu", ⟨["item", "option"], 20⟩),
  ("breadcrumb", ⟨["item", "label"], 5⟩),
  ("carousel", ⟨["item", "image"], 10⟩)]

def ArrayHint.ofType (componentType : String) : ArrayHint :=
  let word := Text.lower componentType
  ((arrayHints.find? fun row => Text.contains word row.1).map Prod.snd).getD ⟨[], 10⟩

end DesignScene
