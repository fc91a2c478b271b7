/-
This file counts the calls that are made under a retry policy. A run ends with the first call that succeeds
or is refused for good, or with the last one that the policy allows, and it waits longer before each call.
-/
import Mathlib.Algebra.BigOperators.Intervals
import DesignScene.Repair.Retry

namespace DesignScene

/-- What a call comes to. -/
inductive Attempt (β : Type) where
  | success (value : β)
  /-- A failure that may pass. -/
  | failure (error : GeneratorError)
  /-- A failure that another call would meet again. -/
  | refusal (error : GeneratorError)
  | timeout

namespace Attempt

variable {β : Type}

/-- No other call follows this one. -/
def isFinal : Attempt β → Bool
  | success _ => true
  | failure _ => false
  | refusal _ => true
  | timeout => false

/-- A call that was given up after so many milliseconds counts as a failure of the network. -/
def timeoutError (milliseconds : Nat) : GeneratorError :=
  ⟨.network, "request timed out after " ++ toString milliseconds ++ " ms"⟩

def outcome (milliseconds : Nat) : Attempt β → Except GeneratorError β
  | success value => .ok value
  | failure error => .error error
  | refusal error => .error error
  | timeout => .error (timeoutError milliseconds)

/-- A timeout may pass. -/
theorem isRetryable_timeoutError (milliseconds : Nat) :
    (timeoutError milliseconds).isRetryable = true := rfl

end Attempt

namespace Reply

variable {β : Type}

/-- What a reply means to a caller who waits for so many milliseconds. -/
def attempt (milliseconds : Nat) (reply : Reply β) : Attempt β :=
  if milliseconds < reply.latency then .timeout
  else
    match reply.outcome with
    | .ok value => .success value
    | .error error => if error.isRetryable then .failure error else .refusal error

/-- A late answer becomes a timeout. -/
theorem outcome_within (milliseconds : Nat) (reply : Reply β) :
    (reply.within milliseconds).outcome = (reply.attempt milliseconds).outcome milliseconds := by
  obtain ⟨latency, outcome⟩ := reply
  rw [within, attempt]
  split
  · rfl
  · cases outcome with
    | ok value => rfl
    | error error =>
        dsimp only
        split <;> rfl

/-- No more time passes than the timeout. -/
theorem latency_within (milliseconds : Nat) (reply : Reply β) :
    (reply.within milliseconds).latency = min reply.latency milliseconds := by
  rw [within]
  split
  · next late => exact (Nat.min_eq_right (Nat.le_of_lt late)).symm
  · next inTime => exact (Nat.min_eq_left (Nat.le_of_not_lt inTime)).symm

/-- A call that is not final came to an error after which another one may follow. -/
theorem exists_error_of_not_isFinal {milliseconds : Nat} {reply : Reply β}
    (goesOn : (reply.attempt milliseconds).isFinal = false) :
    ∃ error, (reply.within milliseconds).outcome = .error error ∧ error.isRetryable = true := by
  rw [outcome_within]
  rw [attempt] at goesOn ⊢
  split_ifs at goesOn ⊢
  · exact ⟨_, rfl, Attempt.isRetryable_timeoutError _⟩
  · cases outcome : reply.outcome with
    | ok value => simp [outcome, Attempt.isFinal] at goesOn
    | error error =>
        simp only [outcome] at goesOn ⊢
        split_ifs at goesOn ⊢ with retryable
        · exact ⟨error, rfl, retryable⟩
        · cases goesOn

/-- No call follows an error after a final one. -/
theorem not_isRetryable_of_isFinal {milliseconds : Nat} {reply : Reply β} {error : GeneratorError}
    (ends : (reply.attempt milliseconds).isFinal = true)
    (failed : (reply.within milliseconds).outcome = .error error) : error.isRetryable = false := by
  rw [outcome_within] at failed
  rw [attempt] at ends failed
  split_ifs at ends failed
  · cases ends
  · cases outcome : reply.outcome with
    | ok value => simp [outcome, Attempt.outcome] at failed
    | error other =>
        simp only [outcome] at ends failed
        split_ifs at ends failed with retryable
        · cases ends
        · cases failed
          exact Bool.eq_false_iff.mpr retryable

end Reply

section Calls

variable {β σ : Type} (call : σ → Reply β × σ) (state : σ)

/-- The state after a number of calls. -/
def stateAfter (calls : Nat) : σ := (fun before => (call before).2)^[calls] state

/-- The reply to the call that is made after so many others. -/
def replyAfter (calls : Nat) : Reply β := (call (stateAfter call state calls)).1

/-- What is called notes every reply behind its own state. -/
def recorded (before : σ × List (Reply β)) : Reply β × (σ × List (Reply β)) :=
  ((call before.1).1, (call before.1).2, before.2 ++ [(call before.1).1])

/-- Recording a call keeps its states and lists its replies. -/
theorem stateAfter_recorded (calls : Nat) :
    stateAfter (recorded call) (state, []) calls =
      (stateAfter call state calls, (List.range calls).map (replyAfter call state)) := by
  induction calls with
  | zero => rfl
  | succ calls ih =>
      rw [stateAfter, Function.iterate_succ_apply', ← stateAfter, ih, List.range_succ,
        List.map_append, stateAfter, stateAfter, Function.iterate_succ_apply']
      rfl

theorem replyAfter_recorded :
    replyAfter (recorded call) (state, []) = replyAfter call state := by
  funext calls
  rw [replyAfter, stateAfter_recorded]
  rfl

end Calls

/-- Of calls with at most `left` repetitions, the one that follows `retries` others is the last. -/
structure LastAfter {β : Type} (left : Nat) (attempts : Nat → Attempt β) (retries : Nat) : Prop where
  within_limit : retries ≤ left
  earlier : ∀ calls < retries, (attempts calls).isFinal = false
  ends : retries = left ∨ (attempts retries).isFinal = true

namespace LastAfter

variable {β : Type} {left retries : Nat} {attempts : Nat → Attempt β}

/-- There is one last call, because another call follows each one before it. -/
theorem unique {others : Nat} (first : LastAfter left attempts retries)
    (second : LastAfter left attempts others) : retries = others := by
  have notBefore {least greatest : Nat} (ends : LastAfter left attempts least)
      (later : LastAfter left attempts greatest) : ¬least < greatest := by
    intro before
    rcases ends.ends with last | final
    · have := later.within_limit
      omega
    · rw [later.earlier least before] at final
      cases final
  exact Nat.le_antisymm (Nat.le_of_not_lt (notBefore second first))
    (Nat.le_of_not_lt (notBefore first second))

/-- The first call is the last one if it is final or no more are left. -/
theorem zero (ends : left = 0 ∨ (attempts 0).isFinal = true) : LastAfter left attempts 0 :=
  ⟨Nat.zero_le left, nofun, ends.imp_left Eq.symm⟩

/-- After a call that is not final the last one is that of the rest. -/
theorem succ (goesOn : (attempts 0).isFinal = false)
    (later : LastAfter left (fun calls => attempts (calls + 1)) retries) :
    LastAfter (left + 1) attempts (retries + 1) where
  within_limit := Nat.succ_le_succ later.within_limit
  earlier calls before := by
    cases calls with
    | zero => exact goesOn
    | succ calls => exact later.earlier calls (Nat.lt_of_succ_lt_succ before)
  ends := later.ends.imp_left (congrArg (· + 1))

/-- Some call is the last one. -/
theorem exists_retries (left : Nat) (attempts : Nat → Attempt β) :
    ∃ retries, LastAfter left attempts retries := by
  induction left generalizing attempts with
  | zero => exact ⟨0, zero (.inl rfl)⟩
  | succ left ih =>
      cases final : (attempts 0).isFinal with
      | true => exact ⟨0, zero (.inr final)⟩
      | false =>
          obtain ⟨retries, later⟩ := ih fun calls => attempts (calls + 1)
          exact ⟨retries + 1, later.succ final⟩

/-- After a call that is not final the others are a run of their own. -/
theorem of_succ (ends : LastAfter left attempts (retries + 1)) :
    ∃ less, left = less + 1 ∧ LastAfter less (fun calls => attempts (calls + 1)) retries := by
  obtain ⟨less, rfl⟩ : ∃ less, left = less + 1 :=
    Nat.exists_eq_succ_of_ne_zero fun none => by have := ends.within_limit; omega
  exact ⟨less, rfl, Nat.le_of_succ_le_succ ends.within_limit,
    fun calls before => ends.earlier (calls + 1) (Nat.succ_lt_succ before),
    ends.ends.imp_left Nat.succ.inj⟩

end LastAfter

namespace RetryPolicy

variable {β σ : Type}

/-- The milliseconds that are waited before the repetitions from one number to another. -/
def waited (policy : RetryPolicy) (first last : Nat) : Nat :=
  ∑ retry ∈ Finset.Ico first last, min (retry * policy.retryDelay) (2 ^ 64 - 1)

/-- The delays grow evenly up to the greatest word. -/
theorem delay_eq (policy : RetryPolicy) (retry : Nat) :
    policy.delay retry = min (retry * policy.retryDelay) (2 ^ 64 - 1) := by
  rw [delay, Nat.mul_comm]
  rfl

/-- What the calls come to, by the number of calls before each one. -/
def attempts (policy : RetryPolicy) (call : σ → Reply β × σ) (state : σ) (calls : Nat) : Attempt β :=
  (replyAfter call state calls).attempt policy.timeout

/-- The milliseconds that a number of calls take, none more than the timeout. -/
def called (policy : RetryPolicy) (call : σ → Reply β × σ) (state : σ) (calls : Nat) : Nat :=
  ∑ earlier ∈ Finset.range calls, min (replyAfter call state earlier).latency policy.timeout

/-- The time of the calls is that of the first one and that of the others. -/
theorem called_succ (policy : RetryPolicy) (call : σ → Reply β × σ) (state : σ) (calls : Nat) :
    policy.called call state (calls + 1) =
      min (call state).1.latency policy.timeout + policy.called call (call state).2 calls := by
  rw [called, Finset.sum_range_succ', Nat.add_comm]
  rfl

section Steps

variable (policy : RetryPolicy) (call : σ → Reply β × σ) {left : Nat} {state : σ}
  (attempt elapsed : Nat)

/-- The run ends with a final call, or because no other one is allowed. -/
theorem retryFrom_of_last (last : left = 0 ∨ (policy.attempts call state 0).isFinal = true) :
    retryFrom policy call left attempt elapsed state =
      (⟨elapsed + min (call state).1.latency policy.timeout,
        ((policy.attempts call state 0).outcome policy.timeout).map (·, attempt)⟩,
        (call state).2) := by
  have outcome : (policy.attempts call state 0).outcome policy.timeout =
      ((call state).1.within policy.timeout).outcome := ((call state).1.outcome_within _).symm
  rw [outcome, retryFrom.eq_def]
  simp only [Reply.latency_within]
  cases came : ((call state).1.within policy.timeout).outcome with
  | ok value => rfl
  | error error =>
      cases left with
      | zero => rfl
      | succ left =>
          have final := last.resolve_left (Nat.succ_ne_zero left)
          have refused := Reply.not_isRetryable_of_isFinal final came
          simp only [refused]
          rfl

/-- Before another call the run waits, and it has one call less to make. -/
theorem retryFrom_of_not_isFinal (goesOn : (policy.attempts call state 0).isFinal = false) :
    retryFrom policy call (left + 1) attempt elapsed state =
      retryFrom policy call left (attempt + 1)
        (elapsed + min (call state).1.latency policy.timeout + policy.delay (attempt + 1))
        (call state).2 := by
  obtain ⟨error, came, retryable⟩ := Reply.exists_error_of_not_isFinal goesOn
  have came : ((call state).1.within policy.timeout).outcome = .error error := came
  conv => lhs; rw [retryFrom]
  simp only [Reply.latency_within, came, retryable, if_true]

end Steps

/-- A run that has made some calls makes the others and waits before each one. -/
theorem retryFrom_eq (policy : RetryPolicy) (call : σ → Reply β × σ) {left retries : Nat}
    {state : σ} (ends : LastAfter left (policy.attempts call state) retries)
    (attempt elapsed : Nat) :
    retryFrom policy call left attempt elapsed state =
      (⟨elapsed + policy.called call state (retries + 1) +
          policy.waited (attempt + 1) (attempt + retries + 1),
        ((policy.attempts call state retries).outcome policy.timeout).map (·, attempt + retries)⟩,
        stateAfter call state (retries + 1)) := by
  induction retries generalizing left state attempt elapsed with
  | zero =>
      have last : left = 0 ∨ (policy.attempts call state 0).isFinal = true :=
        ends.ends.imp_left Eq.symm
      rw [retryFrom_of_last policy call attempt elapsed last, called_succ]
      simp only [called, waited, Finset.range_zero, Finset.sum_empty, Nat.add_zero, Finset.Ico_self]
      rfl
  | succ retries ih =>
      obtain ⟨less, rfl, later⟩ := ends.of_succ
      have goesOn := ends.earlier 0 (Nat.succ_pos retries)
      have firstWait : policy.waited (attempt + 1) (attempt + (retries + 1) + 1) =
          policy.delay (attempt + 1) +
            policy.waited (attempt + 1 + 1) (attempt + 1 + retries + 1) := by
        rw [waited, Finset.sum_eq_sum_Ico_succ_bot (by omega), delay_eq,
          Nat.add_right_comm attempt 1 retries]
        rfl
      have total : elapsed + min (call state).1.latency policy.timeout + policy.delay (attempt + 1) +
            policy.called call (call state).2 (retries + 1) +
            policy.waited (attempt + 1 + 1) (attempt + 1 + retries + 1) =
          elapsed + policy.called call state (retries + 1 + 1) +
            policy.waited (attempt + 1) (attempt + (retries + 1) + 1) := by
        rw [policy.called_succ call state (retries + 1), firstWait]
        omega
      rw [retryFrom_of_not_isFinal policy call attempt elapsed goesOn, ih later, total,
        Nat.add_right_comm attempt 1 retries]
      rfl

/-- A run repeats its call up to the first final one, or as often as the policy allows. -/
theorem repeats_until_final (policy : RetryPolicy) (call : σ → Reply β × σ) (state : σ) :
    ∃ retries, LastAfter policy.maxRetries (policy.attempts call state) retries ∧
      (∀ others, LastAfter policy.maxRetries (policy.attempts call state) others →
        others = retries) ∧
      (withRetry policy call state).1.outcome =
        ((policy.attempts call state retries).outcome policy.timeout).map (·, retries) ∧
      withRetry policy (recorded call) (state, []) =
        ((withRetry policy call state).1, stateAfter call state (retries + 1),
          (List.range (retries + 1)).map (replyAfter call state)) ∧
      (withRetry policy call state).1.latency =
        ∑ earlier ∈ Finset.range (retries + 1),
            min (replyAfter call state earlier).latency policy.timeout +
          ∑ retry ∈ Finset.Icc 1 retries, min (retry * policy.retryDelay) (2 ^ 64 - 1) := by
  obtain ⟨retries, ends⟩ := LastAfter.exists_retries policy.maxRetries (policy.attempts call state)
  have run := retryFrom_eq policy call ends 0 0
  have sameReplies := replyAfter_recorded call state
  have sameAttempts : policy.attempts (recorded call) (state, []) = policy.attempts call state := by
    funext calls
    rw [attempts, sameReplies, attempts]
  have noted := retryFrom_eq policy (recorded call) (sameAttempts.symm ▸ ends) 0 0
  simp only [Nat.zero_add] at run noted
  refine ⟨retries, ends, fun others last => last.unique ends, ?_, ?_, ?_⟩
  · rw [withRetry, run]
  · rw [withRetry, noted, withRetry, run, sameAttempts, stateAfter_recorded, called, sameReplies,
      called]
  · rw [withRetry, run, ← Finset.Ico_add_one_right_eq_Icc]
    rfl

/-- The first call answers too late, the second one fails for a moment, and the third one succeeds. -/
def slowStart (calls : Nat) : Reply String × Nat :=
  match calls with
  | 0 => (⟨40000, .ok "late"⟩, 1)
  | 1 => (⟨10, .error ⟨.server, "down"⟩⟩, 2)
  | _ => (⟨5, .ok "done"⟩, calls + 1)

/-- Two repetitions lead to the answer, and the time and the calls add up. -/
theorem slow_start_repeated_twice :
    (withRetry .standard slowStart 0).1.outcome = .ok ("done", 2) ∧
      (withRetry .standard slowStart 0).1.latency = (30000 + 10 + 5) + (1 * 1000 + 2 * 1000) ∧
      (withRetry .standard (recorded slowStart) (0, [])).2.2.length = 3 := by
  obtain ⟨retries, -, unique, outcome, noted, latency⟩ :=
    repeats_until_final .standard slowStart 0
  have last : LastAfter standard.maxRetries (attempts .standard slowStart 0) 2 := by
    refine ⟨by decide, fun calls before => ?_, .inr rfl⟩
    match calls, before with
    | 0, _ => rfl
    | 1, _ => rfl
  obtain rfl := unique 2 last
  refine ⟨outcome, latency, ?_⟩
  rw [noted]
  rfl

end RetryPolicy

end DesignScene
