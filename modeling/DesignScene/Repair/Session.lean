/-
This file reviews a layout and asks a generator to repair it until it is valid.
-/
import DesignScene.Repair.Prompt
import DesignScene.Repair.Retry
import DesignScene.Review.Basic

namespace DesignScene

/-- What stays the same while a layout is repaired. -/
structure RepairSession (α σ : Type) where
  config : ReviewConfig α
  registry : Option Registry := none
  generator : Option (Generator σ) := none
  /-- What the user asked for, which a review by the generator needs. -/
  userRequest : Option String := none

structure RepairOutcome (α : Type) where
  review : Review α
  finalText : String
  /-- The fixes that were taken from the generator. -/
  fixAttempts : Nat
  reviewRuns : Nat

namespace RepairSession

variable {α σ : Type} [Scalar α]

/-- The suggestions of the generator, if they are wanted and come. -/
def askSuggestions (session : RepairSession α σ) (text : String) (state : σ) :
    List String × σ :=
  match session.config.askGenerator, session.generator, session.userRequest with
  | true, some generator, some request =>
      let (reply, state) := generator.complete (reviewRequest text request) state
      match reply.outcome with
      | .ok response => ((readSuggestions response.content).toList, state)
      | .error _ => ([], state)
  | _, _, _ => ([], state)

def review (session : RepairSession α σ) (text : String) (state : σ) : Review α × σ :=
  let result : Review α := Review.ofText session.config session.registry text
  let (suggestions, state) := session.askSuggestions text state
  ({ result with suggestions := result.suggestions ++ suggestions }, state)

/-- The text that a generator gives for a layout with faults that can be repaired. -/
def askFix (generator : Generator σ) (text : String) (review : Review α) (state : σ) :
    Option String × σ :=
  if review.fixableErrors.isEmpty then (none, state)
  else
    let (reply, state) := generator.complete (fixRequest text review) state
    match reply.outcome with
    | .ok response => (extractJson response.content, state)
    | .error _ => (none, state)

/-- The generator that may repair a layout with this review. -/
def repairer (session : RepairSession α σ) (review : Review α) : Option (Generator σ) :=
  if !review.isValid && session.config.autoFix && review.autoFixAvailable then session.generator
  else none

/-- The text that takes the place of one with this review, if the generator gives a different one. -/
def askNext (session : RepairSession α σ) (text : String) (review : Review α) (state : σ) :
    Option String × σ :=
  match session.repairer review with
  | none => (none, state)
  | some generator =>
      let (fixed, state) := askFix generator text review state
      (fixed.filter (· != text), state)

/-- At most `left` fixes are taken, after `fixes` fixes and `runs` reviews. -/
def runFrom (session : RepairSession α σ) :
    (left fixes runs : Nat) → String → σ → RepairOutcome α × σ
  | 0, fixes, runs, text, state =>
      let (result, state) := session.review text state
      (⟨result, text, fixes, runs + 1⟩, state)
  | left + 1, fixes, runs, text, state =>
      let (result, state) := session.review text state
      match session.askNext text result state with
      | (some fixed, state) => runFrom session left (fixes + 1) (runs + 1) fixed state
      | (none, state) => (⟨result, text, fixes, runs + 1⟩, state)

def run (session : RepairSession α σ) (text : String) (state : σ) : RepairOutcome α × σ :=
  session.runFrom session.config.maxRetries 0 0 text state

end RepairSession

def RepairOutcome.toJson (outcome : RepairOutcome Float) : Json :=
  .object
    [("result", outcome.review.toJson), ("finalJson", .string outcome.finalText),
      ("fixAttempts", .ofNat outcome.fixAttempts), ("validationRuns", .ofNat outcome.reviewRuns)]

end DesignScene
