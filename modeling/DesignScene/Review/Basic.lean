/-
This file reviews the text of a layout.
-/
import DesignScene.Config
import DesignScene.Review.Quality
import DesignScene.Review.References
import DesignScene.Review.Structure
import DesignScene.Review.Variants

namespace DesignScene

/-- The passes that the settings ask for, one after the other. -/
def reviewFindings {α : Type} (config : ReviewConfig α) (registry : Option Registry)
    (layout : Json) : List Finding :=
  (if config.checkStructure then Structure.check layout else []) ++
    ((if config.checkComponents then References.check registry layout else []) ++
      if config.checkDesignSystem then registry.elim [] fun known => Variants.check known layout
      else [])

namespace Review

variable {α : Type} [Scalar α]

/-- The review of a text that is not JSON. -/
def unreadable : Review α where
  isValid := false
  score := Scalar.ofNat 0
  errors := [⟨"JSON_PARSE_ERROR", "Invalid JSON syntax", "root", .critical, false, none⟩]
  warnings := []
  suggestions := ["Check JSON syntax for missing brackets, commas, or quotes"]
  autoFixAvailable := false

/-- A layout is valid if no fault blocks it and its score reaches the threshold. -/
def ofFindings (threshold : α) (findings : List Finding) : Review α :=
  let errors := findings.filterMap Finding.error?
  let warnings := findings.filterMap Finding.warning?
  let score : α := (Quality.ofIssues errors warnings).overallScore
  { isValid := !(errors.any fun issue => issue.severity.isBlocking) && threshold ≤ score
    score := score
    errors := errors
    warnings := warnings
    suggestions := []
    autoFixAvailable := errors.any (·.fixable) }

def ofLayout (config : ReviewConfig α) (registry : Option Registry) (layout : Json) : Review α :=
  ofFindings config.qualityThreshold (reviewFindings config registry layout)

def ofText (config : ReviewConfig α) (registry : Option Registry) (text : String) : Review α :=
  (Json.parse text).elim unreadable (ofLayout config registry)

end Review

/-- The nearest integer, a half going away from zero, within the range of 64 bits. -/
def roundFloat (value : Float) : Int :=
  let magnitude := Decimal.Binary.ofBits value.toBits
  let half :=
    magnitude.significand * Decimal.twoTo (magnitude.power + 1).toNat /
      Decimal.twoTo (-magnitude.power - 1).toNat
  let rounded : Int := ((half + 1) / 2 : Nat)
  if value.isNaN then 0
  else if value.isInf then if value < 0.0 then Int64.minValue.toInt else Int64.maxValue.toInt
  else if value < 0.0 then max (-rounded) Int64.minValue.toInt
  else min rounded Int64.maxValue.toInt

/-- A few lines about a review for display. -/
def Review.summary (review : Review Float) : String :=
  let percent := toString (roundFloat (review.score * 100.0))
  let verdict :=
    if review.isValid then "✅ Validation passed (" ++ percent ++ "%)"
    else "❌ Validation failed (" ++ percent ++ "%)"
  let counted (label : String) (count : Nat) :=
    if count == 0 then [] else [label ++ ": " ++ toString count]
  Text.joinWith "\n"
    ([verdict] ++ counted "Errors" review.errors.length ++
      counted "Warnings" review.warnings.length ++
      if review.autoFixAvailable then ["Auto-fix available"] else [])

end DesignScene
