/-
This file finds media slots for property keys.
-/
import DesignScene.Matching.Basic

namespace DesignScene.MediaSlots

/-- What a slot holds, as its name and its kind suggest. -/
structure Traits where
  name : String
  kind : MediaKind

def Traits.ofSlot (slot : MediaSlot) : Traits := ⟨Text.lower slot.name, slot.kind⟩

namespace Traits

def isAvatar (traits : Traits) : Bool :=
  Text.containsAny traits.name ["avatar", "profile", "user"]

def isNamedIcon (traits : Traits) : Bool := Text.containsAny traits.name ["icon", "symbol"]

def isBadge (traits : Traits) : Bool :=
  Text.containsAny traits.name ["badge", "indicator", "dot", "status"]

def isLogo (traits : Traits) : Bool := Text.containsAny traits.name ["logo", "brand"]

def isVector (traits : Traits) : Bool := traits.kind == .vector

/-- Vectors with short names are icons too. -/
def isIcon (traits : Traits) : Bool :=
  traits.isNamedIcon || (traits.isVector && traits.name.length < 10)

/-- An instance counts as an image if its name says nothing else. -/
def isImage (traits : Traits) : Bool :=
  match traits.kind with
  | .image => true
  | .vector => false
  | .componentInstance =>
      !(traits.isAvatar || traits.isNamedIcon || traits.isBadge || traits.isLogo)

def isSmallImage (traits : Traits) : Bool :=
  traits.kind == .image && Text.containsAny traits.name ["small", "thumb", "mini"]

def isLargeImage (traits : Traits) : Bool :=
  traits.kind == .image && Text.containsAny traits.name ["large", "cover", "hero", "banner"]

def isRoundImage (traits : Traits) : Bool :=
  traits.kind == .image && Text.containsAny traits.name ["circle", "round"]

def isCircle (traits : Traits) : Bool := traits.isAvatar || traits.isRoundImage

def isRectangle (traits : Traits) : Bool := traits.kind == .image && !traits.isRoundImage

end Traits

/-- The places of slots by what the slots hold. -/
structure Buckets where
  avatars : List Nat
  icons : List Nat
  badges : List Nat
  logos : List Nat
  vectors : List Nat
  images : List Nat
  smallImages : List Nat
  largeImages : List Nat
  circles : List Nat
  rectangles : List Nat

def placesWhere (holds : Traits → Bool) (slots : List MediaSlot) : List Nat :=
  (slots.zipIdx.filter fun entry => holds (Traits.ofSlot entry.1)).map Prod.snd

def classify (slots : List MediaSlot) : Buckets where
  avatars := placesWhere Traits.isAvatar slots
  icons := placesWhere Traits.isIcon slots
  badges := placesWhere Traits.isBadge slots
  logos := placesWhere Traits.isLogo slots
  vectors := placesWhere Traits.isVector slots
  images := placesWhere Traits.isImage slots
  smallImages := placesWhere Traits.isSmallImage slots
  largeImages := placesWhere Traits.isLargeImage slots
  circles := placesWhere Traits.isCircle slots
  rectangles := placesWhere Traits.isRectangle slots

/-- The first slot whose name has one of these words. -/
def findByWords (words : List String) (slots : List MediaSlot) : Option Nat :=
  slots.findIdx? fun slot => Text.containsAny (Text.lower slot.name) words

def firstOf (groups : List (List Nat)) : Option Nat := groups.findSome? List.head?

/-- The first slot of the kind that a lower-case key speaks of. -/
def findByContent (key : String) (buckets : Buckets) : Option Nat :=
  if Text.containsAny key ["avatar", "profile", "user"] then
    firstOf [buckets.avatars, buckets.images, buckets.circles]
  else if Text.containsAny key ["image", "photo", "picture"] then
    firstOf [buckets.images, buckets.rectangles, buckets.avatars]
  else if Text.containsAny key ["logo", "brand"] then
    firstOf [buckets.logos, buckets.vectors, buckets.images]
  else if Text.containsAny key ["badge", "indicator", "status"] then
    firstOf [buckets.badges, buckets.smallImages, buckets.vectors]
  else if Text.containsAny key ["large", "big", "cover"] then
    firstOf [buckets.largeImages, buckets.images]
  else if Text.containsAny key ["small", "mini", "thumb"] then
    firstOf [buckets.smallImages, buckets.icons, buckets.vectors]
  else if Text.contains key "icon" || asksLeading key || asksTrailing key then
    firstOf [buckets.icons, buckets.vectors]
  else none

/-- Words for a place count before words for a content. -/
def findClassified (key : String) (slots : List MediaSlot) : Option Nat :=
  let key := Text.lower key
  let leading := if asksLeading key then findByWords leadingWords slots else none
  let trailing := if asksTrailing key then findByWords trailingWords slots else none
  (leading.or trailing).or (findByContent key (classify slots))

def matchers : List (Matcher MediaSlot) := [
  exactMatcher MediaSlot.name,
  substringMatcher MediaSlot.name,
  ⟨.mediaClassifier, findClassified⟩]

def firstMatch (key : String) (slots : List MediaSlot) : Option SlotMatch :=
  DesignScene.firstMatch matchers key slots

end DesignScene.MediaSlots
