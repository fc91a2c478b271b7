/-
This file holds what is asked of a text generator and what it answers.
-/
import DesignScene.Json.Basic
import DesignScene.Text.Basic
import DesignScene.Text.Case

namespace DesignScene

inductive GeneratorFault where
  | rateLimited
  | auth
  | network
  | server
  | contentFiltered
  | unknown
deriving DecidableEq

structure GeneratorError where
  fault : GeneratorFault
  detail : String
deriving DecidableEq

namespace GeneratorFault

def code : GeneratorFault → String
  | rateLimited => "RATE_LIMIT"
  | auth => "AUTH_ERROR"
  | network => "NETWORK_ERROR"
  | server => "SERVER_ERROR"
  | contentFiltered => "CONTENT_FILTERED"
  | unknown => "UNKNOWN_ERROR"

def label : GeneratorFault → String
  | rateLimited => "Rate limit exceeded"
  | auth => "Authentication failed"
  | network => "Network error or timeout"
  | server => "Generator server error"
  | contentFiltered => "Content was blocked by safety filters"
  | unknown => "Generator error"

/-- A call is not repeated if its credentials or its content were refused. -/
def isRetryable : GeneratorFault → Bool
  | auth => false
  | contentFiltered => false
  | _ => true

/-- The words by which a failure message is told apart, in the order in which they count. -/
def keywords : List (GeneratorFault × List String) := [
  (rateLimited, ["429", "quota", "rate limit"]),
  (auth, ["401", "403", "api key", "unauthorized"]),
  (network, ["timeout", "network", "fetch"]),
  (server, ["500", "502", "503", "server"]),
  (contentFiltered, ["safety", "blocked"])]

def ofMessage (message : String) : GeneratorFault :=
  let text := Text.lower message
  ((keywords.find? fun row => Text.containsAny text row.2).map Prod.fst).getD unknown

end GeneratorFault

namespace GeneratorError

def classify (message : String) : GeneratorError := ⟨GeneratorFault.ofMessage message, message⟩

def message (error : GeneratorError) : String := error.fault.label ++ ": " ++ error.detail

def isRetryable (error : GeneratorError) : Bool := error.fault.isRetryable

end GeneratorError

structure GenerationRequest where
  prompt : String
  systemPrompt : Option String := none
  temperature : Float
  maxTokens : Option Nat := none

structure GenerationResponse where
  content : String
  /-- The calls that were repeated for this response. -/
  retryCount : Nat := 0

/-- The outcome of a call and the milliseconds that it took. -/
structure Reply (β : Type) where
  latency : Nat
  outcome : Except GeneratorError β

/-- A text generator; its state stands for everything that its answers depend on. -/
structure Generator (σ : Type) where
  complete : GenerationRequest → σ → Reply GenerationResponse × σ

def GenerationRequest.toJson (request : GenerationRequest) : Json :=
  .object
    ([("prompt", .string request.prompt)] ++
      (request.systemPrompt.map fun text => ("systemPrompt", Json.string text)).toList ++
      [("temperature", .ofFloat request.temperature)] ++
      (request.maxTokens.map fun count => ("maxTokens", Json.ofNat count)).toList)

end DesignScene
