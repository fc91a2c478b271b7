/-
This file says which component identifiers are well formed.
-/
import DesignScene.Text.Basic

namespace DesignScene

/-- Digits, a colon and digits; only the ASCII digits count. -/
def isWellFormedId (id : String) : Bool :=
  let first := id.toList.takeWhile Char.isDigit
  match id.toList.dropWhile Char.isDigit with
  | ':' :: second => !first.isEmpty && !second.isEmpty && second.all Char.isDigit
  | _ => false

/-- An identifier that an author made up to be filled in later. -/
def isPlaceholderId (id : String) : Bool :=
  Text.contains id "_id" || Text.contains id "placeholder" || !isWellFormedId id

end DesignScene
