/-
This file finds text slots for property keys.
-/
import DesignScene.Matching.Basic

namespace DesignScene.TextSlots

/-- The row of a table that lists this key. -/
def rowOf {β : Type} (table : List (List String × β)) (key : String) : Option β :=
  (table.find? fun row => row.1.contains key).map Prod.snd

/-- The classes of slots that a common key stands for, the best one first. -/
def semanticTable : List (List String × List TextClassification) := [
  (["primary-text"], [.primary]),
  (["secondary-text"], [.secondary]),
  (["tertiary-text"], [.tertiary]),
  (["headline", "title", "content", "text"], [.primary, .secondary]),
  (["supporting-text", "supporting", "subtitle"], [.secondary, .tertiary]),
  (["trailing-text", "trailing"], [.tertiary, .secondary]),
  (["caption", "overline"], [.tertiary])]

/-- The words that slot names use for a common key. -/
def aliasTable : List (List String × List String) := [
  (["content", "headline", "text"], ["headline", "title", "text", "label"]),
  (["supporting-text", "supporting"], ["supporting", "subtitle", "description", "body"]),
  (["trailing-text", "trailing"], ["trailing", "value", "action", "status", "end"]),
  (["title"], ["title", "headline", "text"]),
  (["subtitle"], ["subtitle", "supporting", "description"])]

def findSemantic (key : String) (slots : List TextSlot) : Option Nat :=
  (rowOf semanticTable (Text.normalizeKey key)).bind fun classes =>
    classes.findSome? fun wanted => slots.findIdx? fun slot => slot.classification == wanted

/-- A key that the table does not list stands for itself. -/
def aliases (key : String) : List String := (rowOf aliasTable key).getD [key]

def findAlias (key : String) (slots : List TextSlot) : Option Nat :=
  (aliases (Text.normalizeKey key)).findSome? fun word =>
    slots.findIdx? fun slot => Text.contains (Text.normalizeKey slot.name) word

def findPosition (key : String) (slots : List TextSlot) : Option Nat :=
  let key := Text.lower key
  if slots.isEmpty then none
  else if Text.containsAny key ["headline", "title", "primary"] then some 0
  else if Text.containsAny key ["trailing", "tertiary"] then some (slots.length - 1)
  else if Text.containsAny key ["supporting", "secondary"] then
    some (if 1 < slots.length then 1 else 0)
  else none

def matchers : List (Matcher TextSlot) := [
  exactMatcher TextSlot.name,
  ⟨.semantic, findSemantic⟩,
  substringMatcher TextSlot.name,
  ⟨.legacy, findAlias⟩,
  ⟨.positional, findPosition⟩]

def firstMatch (key : String) (slots : List TextSlot) : Option SlotMatch :=
  DesignScene.firstMatch matchers key slots

end DesignScene.TextSlots
