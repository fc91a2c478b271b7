/-
This file finds the slot that a property key names, by a list of strategies.
-/
import DesignScene.Component.Slot
import DesignScene.Text.Basic
import DesignScene.Text.Key

namespace DesignScene

inductive MatchStrategy where
  | exact
  | semantic
  | substring
  | legacy
  | positional
  | mediaClassifier
deriving DecidableEq

def MatchStrategy.name : MatchStrategy → String
  | exact => "exact"
  | semantic => "semantic"
  | substring => "substring"
  | legacy => "legacy"
  | positional => "positional"
  | mediaClassifier => "media-classifier"

/-- The place of a slot, and the strategy that found it. -/
structure SlotMatch where
  index : Nat
  strategy : MatchStrategy
deriving DecidableEq

/-- One way to find the place of a slot for a key. -/
structure Matcher (Slot : Type) where
  strategy : MatchStrategy
  find : String → List Slot → Option Nat

variable {Slot : Type}

def Matcher.match? (matcher : Matcher Slot) (key : String) (slots : List Slot) :
    Option SlotMatch :=
  (matcher.find key slots).map fun index => ⟨index, matcher.strategy⟩

/-- The first strategy that finds a slot wins. -/
def firstMatch (matchers : List (Matcher Slot)) (key : String) (slots : List Slot) :
    Option SlotMatch :=
  if slots.isEmpty then none else matchers.findSome? fun matcher => matcher.match? key slots

/-- The names are equal once they are normalized. -/
def findExact (nameOf : Slot → String) (key : String) (slots : List Slot) : Option Nat :=
  let wanted := Text.normalizeKey key
  slots.findIdx? fun slot => Text.normalizeKey (nameOf slot) == wanted

def exactMatcher (nameOf : Slot → String) : Matcher Slot := ⟨.exact, findExact nameOf⟩

/-- One of two normalized names contains the other, and neither is empty. -/
def namesOverlap (first second : String) : Bool :=
  first != "" && second != "" && (Text.contains first second || Text.contains second first)

def findSubstring (nameOf : Slot → String) (key : String) (slots : List Slot) : Option Nat :=
  let wanted := Text.normalizeKey key
  slots.findIdx? fun slot => namesOverlap (Text.normalizeKey (nameOf slot)) wanted

def substringMatcher (nameOf : Slot → String) : Matcher Slot :=
  ⟨.substring, findSubstring nameOf⟩

/-- Words that name the first of several places. -/
def leadingWords : List String := ["leading", "start", "left", "first", "begin"]

/-- Words that name the last of several places. -/
def trailingWords : List String := ["trailing", "end", "right", "last", "final"]

def asksLeading (key : String) : Bool := Text.containsAny key ["leading", "start", "left"]

def asksTrailing (key : String) : Bool := Text.containsAny key ["trailing", "end", "right"]

end DesignScene
