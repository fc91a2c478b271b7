/-
This file grades the faults that are reported.
-/

namespace DesignScene

inductive Severity where
  | critical
  | high
  | medium
  | low
deriving DecidableEq

namespace Severity

def name : Severity → String
  | critical => "critical"
  | high => "high"
  | medium => "medium"
  | low => "low"

def ofName (text : String) : Option Severity :=
  [critical, high, medium, low].find? (·.name == text)

/-- A critical or high fault keeps a layout from being valid. -/
def isBlocking : Severity → Bool
  | critical => true
  | high => true
  | medium => false
  | low => false

end Severity

end DesignScene
