/-
This file holds the faults that a review of a layout reports.
-/
import DesignScene.Json.Record
import DesignScene.Scalar.Basic
import DesignScene.Severity

namespace DesignScene

structure Issue where
  code : String
  message : String
  path : String
  severity : Severity
  /-- A generator may be asked to repair the fault. -/
  fixable : Bool
  suggestion : Option String := none
deriving DecidableEq

/-- A warning never keeps a layout from being valid and is never repaired. -/
def Issue.warning (code message path suggestion : String) : Issue :=
  ⟨code, message, path, .low, false, some suggestion⟩

/-- What a pass over a layout finds, in the order in which it is found. -/
inductive Finding where
  | error (issue : Issue)
  | warning (issue : Issue)
deriving DecidableEq

namespace Finding

def error? : Finding → Option Issue
  | error issue => some issue
  | warning _ => none

def warning? : Finding → Option Issue
  | error _ => none
  | warning issue => some issue

end Finding

structure Review (α : Type) where
  isValid : Bool
  score : α
  errors : List Issue
  warnings : List Issue
  suggestions : List String
  autoFixAvailable : Bool

namespace Review

variable {α : Type}

def fixableErrors (review : Review α) : List Issue := review.errors.filter (·.fixable)

def hasCode (review : Review α) (code : String) : Bool :=
  (review.errors ++ review.warnings).any fun issue => issue.code == code

end Review

def Issue.toJson (issue : Issue) : Json :=
  .object
    ([("code", .string issue.code), ("message", .string issue.message),
        ("path", .string issue.path), ("severity", .string issue.severity.name),
        ("fixable", .bool issue.fixable)] ++
      (issue.suggestion.map fun text => ("suggestion", Json.string text)).toList)

def Issue.ofJson (json : Json) : Option Issue := do
  let names := ["code", "message", "path", "severity", "fixable", "suggestion"]
  match ← Json.recordFields names json with
  | [code, message, path, severity, fixable, suggestion] =>
      some
        { code := ← Json.required Json.asString? code
          message := ← Json.required Json.asString? message
          path := ← Json.required Json.asString? path
          severity := ← Json.required (Json.toNamed? Severity.ofName) severity
          fixable := ← Json.required Json.asBool? fixable
          suggestion := ← Json.optional Json.asString? suggestion }
  | _ => none

def Review.toJson (review : Review Float) : Json :=
  .object
    [("isValid", .bool review.isValid), ("score", .ofFloat review.score),
      ("errors", .ofList Issue.toJson review.errors),
      ("warnings", .ofList Issue.toJson review.warnings),
      ("suggestions", .ofList .string review.suggestions),
      ("autoFixAvailable", .bool review.autoFixAvailable)]

def Review.ofJson {α : Type} [Scalar α] (json : Json) : Option (Review α) := do
  let names := ["isValid", "score", "errors", "warnings", "suggestions", "autoFixAvailable"]
  match ← Json.recordFields names json with
  | [isValid, score, errors, warnings, suggestions, autoFixAvailable] =>
      some
        { isValid := ← Json.required Json.asBool? isValid
          score := ← Json.required Scalar.ofJson? score
          errors := ← Json.required (Json.toList? Issue.ofJson) errors
          warnings := ← Json.required (Json.toList? Issue.ofJson) warnings
          suggestions := ← Json.required (Json.toList? Json.asString?) suggestions
          autoFixAvailable := ← Json.required Json.asBool? autoFixAvailable }
  | _ => none

end DesignScene
