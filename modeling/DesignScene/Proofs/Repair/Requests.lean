/-
This file follows the requests that a repair session sends to its generator.
-/
import DesignScene.Proofs.Repair.Session

namespace DesignScene

/-- A request for a fix tells the generator how to answer, and a request for a review does not. -/
def GenerationRequest.isForFix (request : GenerationRequest) : Bool := request.systemPrompt.isSome

/-- The generator notes every request behind its own state. -/
def Generator.logging {σ : Type} (generator : Generator σ) :
    Generator (σ × List GenerationRequest) where
  complete request state :=
    let (reply, next) := generator.complete request state.1
    (reply, next, state.2 ++ [request])

def Review.withoutSuggestions {α : Type} (review : Review α) : Review α :=
  { review with suggestions := [] }

namespace RepairSession

variable {α σ : Type}

/-- The same session, whose generator notes every request. -/
def logging (session : RepairSession α σ) : RepairSession α (σ × List GenerationRequest) where
  config := session.config
  registry := session.registry
  generator := session.generator.map Generator.logging
  userRequest := session.userRequest

/-- The requests for a review that are sent with a text. -/
def adviceRequests (session : RepairSession α σ) (text : String) : List GenerationRequest :=
  match session.config.askGenerator, session.generator, session.userRequest with
  | true, some _, some request => [reviewRequest text request]
  | _, _, _ => []

/-- The request for a fix of a text with this review, if one is sent. -/
def requestFor? (session : RepairSession α σ) (text : String) (result : Review α) :
    Option GenerationRequest :=
  (session.repairer result).bind fun _ =>
    if result.fixableErrors.isEmpty then none else some (fixRequest text result)

section Logging

variable (session : RepairSession α σ) (text : String) (result : Review α) (state : σ)
  (log : List GenerationRequest)

/-- Suggestions are logged and answered as before. -/
theorem askSuggestions_logging :
    session.logging.askSuggestions text (state, log) =
      ((session.askSuggestions text state).1, (session.askSuggestions text state).2,
        log ++ session.adviceRequests text) := by
  simp only [askSuggestions, adviceRequests, logging]
  cases session.config.askGenerator with
  | false => simp
  | true =>
      cases session.generator with
      | none => simp
      | some generator =>
          cases session.userRequest with
          | none => simp
          | some request =>
              simp only [Option.map_some, Generator.logging]
              cases (generator.complete (reviewRequest text request) state).1.outcome <;> rfl

theorem repairer_logging :
    session.logging.repairer result = (session.repairer result).map Generator.logging := by
  rw [repairer, repairer, apply_ite (Option.map Generator.logging)]
  rfl

/-- A fix is logged if there is something to be fixed, and answered as before. -/
theorem askFix_logging (generator : Generator σ) :
    askFix generator.logging text result (state, log) =
      ((askFix generator text result state).1, (askFix generator text result state).2,
        log ++ (if result.fixableErrors.isEmpty then none else some (fixRequest text result)).toList) := by
  simp only [askFix]
  split_ifs
  · simp
  · simp only [Generator.logging]
    cases (generator.complete (fixRequest text result) state).1.outcome <;> rfl

/-- The next text is the same, and the request for it is logged. -/
theorem askNext_logging :
    session.logging.askNext text result (state, log) =
      ((session.askNext text result state).1, (session.askNext text result state).2,
        log ++ (session.requestFor? text result).toList) := by
  simp only [askNext, requestFor?, repairer_logging]
  cases session.repairer result with
  | none => simp
  | some generator => simp only [Option.map_some, Option.bind_some, askFix_logging]

/-- No request for suggestions is one for a fix. -/
theorem filter_adviceRequests : (session.adviceRequests text).filter (·.isForFix) = [] := by
  rw [adviceRequests]
  split <;> rfl

end Logging

/-- A request for a fix is sent only for an invalid text with a fault that can be repaired. -/
theorem of_requestFor? {text : String} {result : Review α} {request : GenerationRequest}
    (session : RepairSession α σ)
    (sent : session.requestFor? text result = some request) :
    result.isValid = false ∧ (∃ issue ∈ result.errors, issue.fixable = true) ∧
      request = fixRequest text result := by
  obtain ⟨generator, offered, asked⟩ := Option.bind_eq_some_iff.mp sent
  split_ifs at asked with clean
  cases asked
  obtain ⟨issue, listed⟩ := List.exists_mem_of_ne_nil _ (mt List.isEmpty_iff.mpr clean)
  obtain ⟨member, fixable⟩ := List.mem_filter.mp listed
  rw [repairer] at offered
  split_ifs at offered with wanted
  simp only [Bool.and_eq_true, Bool.not_eq_true'] at wanted
  exact ⟨wanted.1.1, ⟨issue, member, fixable⟩, rfl⟩

variable [Scalar α]

/-- The requests for a fix that the session sends, in their order. -/
def fixRequests (session : RepairSession α σ) (text : String) (state : σ) :
    List GenerationRequest :=
  (session.logging.run text (state, [])).2.2.filter (·.isForFix)

/-- The review of a text apart from what the generator says about it. -/
def verdict (session : RepairSession α σ) (text : String) : Review α :=
  Review.ofText session.config session.registry text

/-- The request for a fix that is sent for the text after a number of fixes, if one is sent. -/
def requestAfter? (session : RepairSession α σ) (text : String) (state : σ) (round : Nat) :
    Option GenerationRequest :=
  (session.textAfter? round text state).bind fun reached =>
    session.requestFor? reached.1 (session.verdict reached.1)

section Rounds

variable (session : RepairSession α σ) (text : String) (state : σ) (log : List GenerationRequest)

/-- The generator adds suggestions to a review and changes nothing else of it. -/
theorem withoutSuggestions_review :
    (session.review text state).1.withoutSuggestions =
      (session.verdict text).withoutSuggestions := by
  rfl

/-- Suggestions do not change what is requested. -/
theorem requestFor?_review :
    session.requestFor? text (session.review text state).1 =
      session.requestFor? text (session.verdict text) := by
  rfl

/-- A review logs its request for suggestions only. -/
theorem review_logging :
    session.logging.review text (state, log) =
      ((session.review text state).1, (session.review text state).2,
        log ++ session.adviceRequests text) := by
  simp only [review, askSuggestions_logging]
  rfl

/-- Another text comes only as the answer to a request. -/
theorem nextText?_eq_none_of_requestFor?
    (silent : session.requestFor? text (session.verdict text) = none) :
    session.nextText? text state = none := by
  rw [← session.requestFor?_review text state] at silent
  simp only [requestFor?] at silent
  simp only [nextText?, askNext, askFix]
  cases offered : session.repairer (session.review text state).1 with
  | none => rfl
  | some generator =>
      rw [offered, Option.bind_some] at silent
      split_ifs at silent with clean
      simp [clean]

/-- Of what is sent in a round only the request for a fix counts. -/
theorem filter_sent (later : List GenerationRequest) :
    ((session.adviceRequests text ++
        (session.requestFor? text (session.verdict text)).toList ++ later).filter (·.isForFix)) =
      (session.requestFor? text (session.verdict text)).toList ++ later.filter (·.isForFix) := by
  rw [List.filter_append, List.filter_append, filter_adviceRequests, List.nil_append]
  congr 1
  simp only [requestFor?]
  cases session.repairer (session.verdict text) with
  | none => rfl
  | some generator =>
      rw [Option.bind_some]
      split_ifs <;> rfl

theorem requestAfter?_zero :
    session.requestAfter? text state 0 = session.requestFor? text (session.verdict text) := by
  rfl

/-- After one more round the request is that of the session from the next text on. -/
theorem requestAfter?_succ (round : Nat) :
    session.requestAfter? text state (round + 1) =
      (session.nextText? text state).bind fun reached =>
        session.requestAfter? reached.1 reached.2 round := by
  rw [requestAfter?, textAfter?, Option.bind_assoc]
  rfl

/-- The requests of a round and those of the later rounds are one for each round that sends one. -/
theorem getElem?_filter_sent {later : List GenerationRequest} {left : Nat}
    (each : ∀ round, (later.filter (·.isForFix))[round]? =
      if round < left then (session.nextText? text state).bind fun reached =>
        session.requestAfter? reached.1 reached.2 round else none) (round : Nat) :
    ((session.adviceRequests text ++
        (session.requestFor? text (session.verdict text)).toList ++ later).filter
          (·.isForFix))[round]? =
      if round < left + 1 then session.requestAfter? text state round else none := by
  rw [filter_sent]
  cases first : session.requestFor? text (session.verdict text) with
  | none =>
      rw [session.nextText?_eq_none_of_requestFor? text state first] at each
      have nothing : (later.filter (·.isForFix))[round]? = none := by simp [each round]
      have silent : session.requestAfter? text state round = none := by
        cases round with
        | zero => exact first
        | succ round =>
            rw [requestAfter?_succ, session.nextText?_eq_none_of_requestFor? text state first]
            rfl
      rw [silent, ite_self]
      exact nothing
  | some request =>
      cases round with
      | zero =>
          rw [requestAfter?_zero, first]
          rfl
      | succ round =>
          rw [requestAfter?_succ]
          simpa using each round

/-- Without fixes left a session ends with its review. -/
theorem runFrom_zero (fixes runs : Nat) :
    session.runFrom 0 fixes runs text state =
      (⟨(session.review text state).1, text, fixes, runs + 1⟩, (session.review text state).2) := by
  rfl

/-- With a log a session ends as it does without one and adds one entry for each round with a request. -/
theorem runFrom_logging (left fixes runs : Nat) :
    ∃ sent, session.logging.runFrom left fixes runs text (state, log) =
        ((session.runFrom left fixes runs text state).1, (session.runFrom left fixes runs text state).2,
          log ++ sent) ∧
      ∀ round, (sent.filter (·.isForFix))[round]? =
        if round < left then session.requestAfter? text state round else none := by
  induction left generalizing text state log fixes runs with
  | zero =>
      refine ⟨session.adviceRequests text, ?_, fun round => ?_⟩
      · rw [runFrom_zero, runFrom_zero, review_logging]
      · rw [filter_adviceRequests]
        rfl
  | succ left ih =>
      have asked := session.askNext_logging text (session.review text state).1
        (session.review text state).2 (log ++ session.adviceRequests text)
      rw [requestFor?_review] at asked
      rw [runFrom_succ, runFrom_succ, review_logging, asked]
      obtain ⟨answer, after, next⟩ : ∃ answer after, session.askNext text
          (session.review text state).1 (session.review text state).2 = (answer, after) :=
        ⟨_, _, rfl⟩
      have taken : session.nextText? text state = answer.map (·, after) := by
        simp only [nextText?, next]
      rw [next]
      cases answer with
      | none =>
          refine ⟨session.adviceRequests text ++
            (session.requestFor? text (session.verdict text)).toList ++ [], ?_, ?_⟩
          · rw [List.append_nil, List.append_assoc]
          · exact session.getElem?_filter_sent text state fun round => by simp [taken]
      | some fixed =>
          obtain ⟨sent, same, each⟩ := ih fixed after
            (log ++ session.adviceRequests text ++
              (session.requestFor? text (session.verdict text)).toList) (fixes + 1) (runs + 1)
          refine ⟨session.adviceRequests text ++
            (session.requestFor? text (session.verdict text)).toList ++ sent, ?_, ?_⟩
          · simpa using same
          · exact session.getElem?_filter_sent text state fun round => by simp [taken, each]

/-- The log changes nothing else of a run. -/
theorem run_logging :
    (session.logging.run text (state, [])).1 = (session.run text state).1 ∧
      (session.logging.run text (state, [])).2.1 = (session.run text state).2 := by
  obtain ⟨sent, same, -⟩ := session.runFrom_logging text state [] session.config.maxRetries 0 0
  have same : session.logging.run text (state, []) = _ := same
  rw [same]
  exact ⟨rfl, rfl⟩

/-- The requests for a fix are one for each round that sends one, as long as retries are left. -/
theorem getElem?_fixRequests (round : Nat) :
    (session.fixRequests text state)[round]? =
      if round < session.config.maxRetries then session.requestAfter? text state round else none := by
  obtain ⟨sent, same, each⟩ := session.runFrom_logging text state [] session.config.maxRetries 0 0
  have same : session.logging.run text (state, []) = _ := same
  rw [fixRequests, same, List.nil_append]
  exact each round

/-- No more fixes are requested than retries are allowed. -/
theorem length_fixRequests_le :
    (session.fixRequests text state).length ≤ session.config.maxRetries := by
  rw [← List.getElem?_eq_none_iff, getElem?_fixRequests, if_neg (Nat.lt_irrefl _)]

end Rounds

section Runs

variable (session : RepairSession α σ) {text : String} {state : σ}

/-- When a request for a fix is sent, no text has been valid until then. -/
theorem invalid_of_requestAfter? {round earlier : Nat} {request : GenerationRequest}
    {current : String} {next : σ} (sent : session.requestAfter? text state round = some request)
    (before : earlier ≤ round)
    (reached : session.textAfter? earlier text state = some (current, next)) :
    (session.verdict current).isValid = false := by
  induction earlier generalizing text state round with
  | zero =>
      cases reached
      cases asked : session.requestFor? current (session.verdict current) with
      | some first => exact (session.of_requestFor? asked).1
      | none =>
          cases round with
          | zero =>
              rw [requestAfter?_zero, asked] at sent
              cases sent
          | succ round =>
              rw [requestAfter?_succ, session.nextText?_eq_none_of_requestFor? _ _ asked] at sent
              cases sent
  | succ earlier ih =>
      cases round with
      | zero => exact absurd before (Nat.not_succ_le_zero earlier)
      | succ round =>
          rw [requestAfter?_succ] at sent
          obtain ⟨⟨fixed, after⟩, taken, later⟩ := Option.bind_eq_some_iff.mp sent
          rw [textAfter?, taken] at reached
          exact ih later (Nat.le_of_succ_le_succ before) reached

/-- A session ends after some of the fixes that are left, early only if no other text is given. -/
theorem exists_rounds_runFrom (left fixes runs : Nat) (text : String) (state : σ) :
    ∃ rounds ≤ left, ∃ final last, session.textAfter? rounds text state = some (final, last) ∧
      (session.runFrom left fixes runs text state).1 =
        ⟨(session.review final last).1, final, fixes + rounds, runs + rounds + 1⟩ ∧
      (rounds < left → session.nextText? final last = none) := by
  induction left generalizing fixes runs text state with
  | zero => exact ⟨0, Nat.le_refl 0, text, state, rfl, rfl, nofun⟩
  | succ left ih =>
      cases taken : session.nextText? text state with
      | none =>
          exact ⟨0, Nat.zero_le _, text, state, rfl, session.runFrom_of_none _ _ _ taken,
            fun _ => taken⟩
      | some pair =>
          obtain ⟨fixed, next⟩ := pair
          obtain ⟨rounds, within, final, last, reached, ended, stopped⟩ :=
            ih (fixes + 1) (runs + 1) fixed next
          refine ⟨rounds + 1, Nat.succ_le_succ within, final, last, ?_, ?_, ?_⟩
          · rw [textAfter?, taken]
            exact reached
          · rw [session.runFrom_of_some _ _ _ taken, ended, Nat.add_right_comm runs 1 rounds]
            rw [Nat.add_assoc fixes 1 rounds, Nat.add_comm 1 rounds, Nat.add_assoc runs rounds 1]
          · exact fun more => stopped (Nat.lt_of_succ_lt_succ more)

end Runs

/-- No text was valid so far, and the one after this many fixes has a fault that can be repaired. -/
structure IsDue (session : RepairSession α σ) (text : String) (state : σ) (round : Nat)
    (request : GenerationRequest) : Prop where
  current : ∃ current next, session.textAfter? round text state = some (current, next) ∧
    request = fixRequest current (session.verdict current) ∧
    ∃ issue ∈ (session.verdict current).errors, issue.fixable = true
  invalid : ∀ earlier ≤ round, ∀ current next,
    session.textAfter? earlier text state = some (current, next) →
      (session.verdict current).isValid = false

/-- A session takes no more fixes than retries, sends due requests only and reviews one text more. -/
theorem run_within_retries (session : RepairSession α σ) (text : String) (state : σ) :
    (session.run text state).1.reviewRuns = (session.run text state).1.fixAttempts + 1 ∧
      (session.run text state).1.fixAttempts ≤ session.config.maxRetries ∧
      (∃ last, session.textAfter? (session.run text state).1.fixAttempts text state =
          some ((session.run text state).1.finalText, last) ∧
        ((session.run text state).1.fixAttempts < session.config.maxRetries →
          session.nextText? (session.run text state).1.finalText last = none)) ∧
      (session.fixRequests text state).length ≤ session.config.maxRetries ∧
      (∀ round request, (session.fixRequests text state)[round]? = some request →
        session.IsDue text state round request) ∧
      (session.run text state).1.review.withoutSuggestions =
        (session.verdict (session.run text state).1.finalText).withoutSuggestions := by
  obtain ⟨rounds, within, final, last, reached, ended, stopped⟩ :=
    session.exists_rounds_runFrom session.config.maxRetries 0 0 text state
  have ended : (session.run text state).1 = _ := ended
  rw [Nat.zero_add] at ended
  rw [ended]
  refine ⟨rfl, within, ⟨last, reached, stopped⟩, session.length_fixRequests_le text state, ?_,
    session.withoutSuggestions_review final last⟩
  intro round request sent
  rw [getElem?_fixRequests] at sent
  split_ifs at sent
  refine ⟨?_, fun earlier before current next => session.invalid_of_requestAfter? sent before⟩
  obtain ⟨⟨current, next⟩, here, asked⟩ := Option.bind_eq_some_iff.mp sent
  obtain ⟨-, fixable, same⟩ := session.of_requestFor? asked
  exact ⟨current, next, here, same, fixable⟩

end RepairSession

end DesignScene
