/-
This file shows that the suggestions of a generator do not influence a repair.
-/
import DesignScene.Proofs.Repair.Requests

namespace DesignScene

/-- The outcome of a call depends on the request alone. -/
def Generator.IsSteady {σ : Type} (generator : Generator σ) : Prop :=
  ∃ answer : GenerationRequest → Except GeneratorError GenerationResponse,
    ∀ request state, (generator.complete request state).1.outcome = answer request

/-- A steady generator answers the same at any time. -/
theorem Generator.IsSteady.outcome_eq {σ : Type} {generator : Generator σ}
    (steady : generator.IsSteady) (request : GenerationRequest) (state later : σ) :
    (generator.complete request state).1.outcome = (generator.complete request later).1.outcome := by
  obtain ⟨answer, each⟩ := steady
  rw [each, each]

/-- The outcomes are the same but for the suggestions of the generator. -/
structure RepairOutcome.SameButAdvice {α : Type} (outcome other : RepairOutcome α) : Prop where
  finalText : outcome.finalText = other.finalText
  fixAttempts : outcome.fixAttempts = other.fixAttempts
  reviewRuns : outcome.reviewRuns = other.reviewRuns
  review : outcome.review.withoutSuggestions = other.review.withoutSuggestions

namespace RepairSession

variable {α σ : Type}

/-- The same session, which asks its generator for suggestions or does not. -/
def asking (wanted : Bool) (session : RepairSession α σ) : RepairSession α σ :=
  { session with config := { session.config with askGenerator := wanted } }

/-- Who repairs does not depend on suggestions. -/
theorem repairer_asking (wanted : Bool) (session : RepairSession α σ) (result : Review α) :
    (session.asking wanted).repairer result = session.repairer result := by
  rfl

/-- Only the generator of the session repairs. -/
theorem mem_generator_of_repairer {session : RepairSession α σ} {result : Review α}
    {generator : Generator σ} (offered : session.repairer result = some generator) :
    generator ∈ session.generator := by
  rw [repairer] at offered
  split_ifs at offered
  exact offered

variable [Scalar α]

/-- The sessions judge each text alike, and they replace it alike whatever their generators remember. -/
structure Alike (session other : RepairSession α σ) : Prop where
  maxRetries : session.config.maxRetries = other.config.maxRetries
  verdict : ∀ text, session.verdict text = other.verdict text
  requestFor? : ∀ text result, session.requestFor? text result = other.requestFor? text result
  nextText? : ∀ text state later,
    (session.nextText? text state).map Prod.fst = (other.nextText? text later).map Prod.fst

namespace Alike

variable {session other : RepairSession α σ}

/-- Where one session stops the other one does, and where it goes on they go on with the same text. -/
theorem nextText?_cases (alike : Alike session other) (text : String) (state later : σ) :
    session.nextText? text state = none ∧ other.nextText? text later = none ∨
      ∃ fixed next after, session.nextText? text state = some (fixed, next) ∧
        other.nextText? text later = some (fixed, after) := by
  have same := alike.nextText? text state later
  cases taken : session.nextText? text state with
  | none =>
      rw [taken] at same
      exact .inl ⟨rfl, Option.map_eq_none_iff.mp same.symm⟩
  | some pair =>
      obtain ⟨fixed, next⟩ := pair
      rw [taken] at same
      obtain ⟨⟨_, after⟩, otherTaken, rfl⟩ := Option.map_eq_some_iff.mp same.symm
      exact .inr ⟨_, next, after, rfl, otherTaken⟩

/-- Two reviews of one text differ in suggestions only. -/
theorem sameButAdvice_of_text (alike : Alike session other) (fixes runs : Nat) (text : String)
    (state later : σ) :
    RepairOutcome.SameButAdvice ⟨(session.review text state).1, text, fixes, runs⟩
      ⟨(other.review text later).1, text, fixes, runs⟩ where
  finalText := rfl
  fixAttempts := rfl
  reviewRuns := rfl
  review := by
    dsimp only
    rw [withoutSuggestions_review, withoutSuggestions_review, alike.verdict]

/-- Sessions that are alike end alike. -/
theorem sameButAdvice_runFrom (alike : Alike session other) (left fixes runs : Nat)
    (text : String) (state later : σ) :
    (session.runFrom left fixes runs text state).1.SameButAdvice
      (other.runFrom left fixes runs text later).1 := by
  induction left generalizing fixes runs text state later with
  | zero =>
      rw [runFrom_zero, runFrom_zero]
      exact alike.sameButAdvice_of_text fixes (runs + 1) text state later
  | succ left ih =>
      rcases alike.nextText?_cases text state later with
        ⟨stopped, otherStopped⟩ | ⟨fixed, next, after, taken, otherTaken⟩
      · rw [session.runFrom_of_none _ _ _ stopped, other.runFrom_of_none _ _ _ otherStopped]
        exact alike.sameButAdvice_of_text fixes (runs + 1) text state later
      · rw [session.runFrom_of_some _ _ _ taken, other.runFrom_of_some _ _ _ otherTaken]
        exact ih (fixes + 1) (runs + 1) fixed next after

/-- Alike sessions send the same request in every round. -/
theorem requestAfter?_eq (alike : Alike session other) (text : String) (state later : σ)
    (round : Nat) :
    session.requestAfter? text state round = other.requestAfter? text later round := by
  induction round generalizing text state later with
  | zero => rw [requestAfter?_zero, requestAfter?_zero, alike.verdict, alike.requestFor?]
  | succ round ih =>
      rw [requestAfter?_succ, requestAfter?_succ]
      rcases alike.nextText?_cases text state later with
        ⟨stopped, otherStopped⟩ | ⟨fixed, next, after, taken, otherTaken⟩
      · rw [stopped, otherStopped, Option.bind_none, Option.bind_none]
      · rw [taken, otherTaken, Option.bind_some, Option.bind_some]
        exact ih fixed next after

/-- Alike sessions send the same requests for fixes. -/
theorem fixRequests_eq (alike : Alike session other) (text : String) (state later : σ) :
    session.fixRequests text state = other.fixRequests text later := by
  apply List.ext_getElem?
  intro round
  rw [getElem?_fixRequests, getElem?_fixRequests, alike.maxRetries,
    alike.requestAfter?_eq text state later]

end Alike

section Advice

variable (session : RepairSession α σ)

/-- The verdict on a text does not depend on suggestions. -/
theorem verdict_asking (wanted : Bool) (text : String) :
    (session.asking wanted).verdict text = session.verdict text := by
  have sameReview : Review.ofLayout (session.asking wanted).config session.registry =
      Review.ofLayout session.config session.registry := by
    funext layout
    rfl
  exact congrArg (Option.elim (Json.parse text) Review.unreadable) sameReview

/-- The reply to a request for a fix in terms of the faults of the text. -/
theorem fixReply?_eq (text : String) (state : σ) :
    session.fixReply? text state =
      (session.repairer (session.verdict text)).bind fun generator =>
        if (session.verdict text).fixableErrors.isEmpty then none
        else
          match (generator.complete (fixRequest text (session.verdict text))
            (session.review text state).2).1.outcome with
          | .ok response => some response.content
          | .error _ => none := by
  rfl

/-- The reply to a request for a fix is the same whatever was said about the text before. -/
theorem fixReply?_asking (steady : ∀ generator ∈ session.generator, generator.IsSteady)
    (text : String) (state later : σ) :
    (session.asking true).fixReply? text state = (session.asking false).fixReply? text later := by
  rw [fixReply?_eq, fixReply?_eq]
  simp only [verdict_asking, repairer_asking]
  cases offered : session.repairer (session.verdict text) with
  | none => rfl
  | some generator =>
      have same := (steady generator (mem_generator_of_repairer offered)).outcome_eq
      rw [Option.bind_some, Option.bind_some, same]

/-- A fix depends on the faults of a text and on nothing that was said about it. -/
theorem alike_asking (steady : ∀ generator ∈ session.generator, generator.IsSteady) :
    Alike (session.asking true) (session.asking false) where
  maxRetries := rfl
  verdict text := by rw [verdict_asking, verdict_asking]
  requestFor? _ _ := rfl
  nextText? text state later := by
    rw [map_fst_nextText?, map_fst_nextText?, session.fixReply?_asking steady]

/-- Asking for suggestions or not changes nothing in a steady session but the suggestions. -/
theorem run_asking (steady : ∀ generator ∈ session.generator, generator.IsSteady) (text : String)
    (state later : σ) :
    ((session.asking true).run text state).1.SameButAdvice ((session.asking false).run text later).1 ∧
      (session.asking true).fixRequests text state = (session.asking false).fixRequests text later := by
  have alike := session.alike_asking steady
  exact ⟨alike.sameButAdvice_runFrom session.config.maxRetries 0 0 text state later,
    alike.fixRequests_eq text state later⟩

end Advice

/-- A session whose generator counts its calls, suggests a title and fixes every layout alike. -/
def titleAdvice : RepairSession Rat Nat where
  config := ReviewConfig.standard
  generator := some
    { complete := fun request calls =>
        let content := if request.isForFix then "\x7b\"items\":[]\x7d" else "SUGGESTIONS: Add a title"
        (⟨0, .ok ⟨content, 0⟩⟩, calls + 1) }
  userRequest := some "A dialog with a button"

/-- The title is suggested, and the button is repaired as if it were not. -/
theorem run_asking_titleAdvice :
    (∀ generator ∈ titleAdvice.generator, generator.IsSteady) ∧
      ((titleAdvice.asking true).run openButtonText 0).1.SameButAdvice
          ((titleAdvice.asking false).run openButtonText 0).1 ∧
        (titleAdvice.asking true).fixRequests openButtonText 0 =
          (titleAdvice.asking false).fixRequests openButtonText 0 := by
  have steady : ∀ generator ∈ titleAdvice.generator, generator.IsSteady := by
    intro generator offered
    cases offered
    exact ⟨_, fun _ _ => rfl⟩
  exact ⟨steady, titleAdvice.run_asking steady openButtonText 0 0⟩

end RepairSession

end DesignScene
