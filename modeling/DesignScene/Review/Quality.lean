/-
This file grades a layout by the faults that were found in it.
-/
import DesignScene.Review.Issue
import DesignScene.Text.Basic

namespace DesignScene

structure Quality (α : Type) where
  structuralIntegrity : α
  componentConsistency : α
  designSystemCompliance : α
  usabilityScore : α
  overallScore : α

namespace Quality

variable {α : Type} [Scalar α]

open Scalar

def countSeverity (severity : Severity) (issues : List Issue) : α :=
  ofNat (issues.filter fun issue => issue.severity == severity).length

/-- The number of faults whose code contains a word. -/
def countWord (word : String) (issues : List Issue) : α :=
  ofNat (issues.filter fun issue => Text.contains issue.code word).length

/-- What is left of a full score, which is never less than nothing. -/
def lessPenalty (penalty : α) : α := atLeastZero (ofNat 1 - penalty)

/-- The parts weigh four, three, two and one tenth. -/
def ofIssues (errors warnings : List Issue) : Quality α :=
  let structural : α :=
    lessPenalty
      (countSeverity .critical errors * ofRatio 1 2 + countSeverity .high errors * ofRatio 3 10 +
        countSeverity .medium errors * ofRatio 1 10)
  let component : α := lessPenalty (countWord "COMPONENT" errors * ofRatio 1 5)
  let designSystem : α := lessPenalty (countWord "VARIANT" errors * ofRatio 3 20)
  let usability : α := lessPenalty (ofNat warnings.length * ofRatio 1 10)
  { structuralIntegrity := structural
    componentConsistency := component
    designSystemCompliance := designSystem
    usabilityScore := usability
    overallScore :=
      clampUnit
        (structural * ofRatio 2 5 + component * ofRatio 3 10 + designSystem * ofRatio 1 5 +
          usability * ofRatio 1 10) }

end Quality

def Quality.toJson (quality : Quality Float) : Json :=
  .object
    [("structuralIntegrity", .ofFloat quality.structuralIntegrity),
      ("componentConsistency", .ofFloat quality.componentConsistency),
      ("designSystemCompliance", .ofFloat quality.designSystemCompliance),
      ("usabilityScore", .ofFloat quality.usabilityScore),
      ("overallScore", .ofFloat quality.overallScore)]

end DesignScene
