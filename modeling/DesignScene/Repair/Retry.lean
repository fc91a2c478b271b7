/-
This file repeats generator calls that fail in passing.
-/
import DesignScene.Config
import DesignScene.Repair.Generator

namespace DesignScene

/-- A call that takes longer than the timeout is given up. -/
def Reply.within {β : Type} (timeout : Nat) (reply : Reply β) : Reply β :=
  if timeout < reply.latency then
    ⟨timeout,
      .error ⟨.network, "request timed out after " ++ toString timeout ++ " ms"⟩⟩
  else reply

section Retry

variable {β σ : Type}

/-- This function calls once more at most `left` times; `attempt` calls were made, in `elapsed` time. -/
def retryFrom (policy : RetryPolicy) (call : σ → Reply β × σ) (left attempt elapsed : Nat)
    (state : σ) : Reply (β × Nat) × σ :=
  let (reply, state) := call state
  let reply := reply.within policy.timeout
  let elapsed := elapsed + reply.latency
  match reply.outcome with
  | .ok value => (⟨elapsed, .ok (value, attempt)⟩, state)
  | .error error =>
      match left with
      | 0 => (⟨elapsed, .error error⟩, state)
      | left + 1 =>
          if error.isRetryable then
            retryFrom policy call left (attempt + 1) (elapsed + policy.delay (attempt + 1)) state
          else (⟨elapsed, .error error⟩, state)

/-- The value of a call and the number of retries, within the policy. -/
def withRetry (policy : RetryPolicy) (call : σ → Reply β × σ) (state : σ) :
    Reply (β × Nat) × σ :=
  retryFrom policy call policy.maxRetries 0 0 state

/-- The retries are added to those that the response already counts. -/
def countRetries (reply : Reply (GenerationResponse × Nat)) : Reply GenerationResponse where
  latency := reply.latency
  outcome :=
    reply.outcome.map fun (response, retries) =>
      { response with retryCount := response.retryCount + retries }

def Generator.retrying (policy : RetryPolicy) (generator : Generator σ) : Generator σ where
  complete request state :=
    let (reply, state) := withRetry policy (generator.complete request) state
    (countRetries reply, state)

end Retry

end DesignScene
