import OpmuxGateway.Construction.Core.Contracts
import OpmuxGateway.Construction.Core.Json

/-
This file gives the parameters, the results, and the errors of an execution.
-/

namespace Opmux.Executor

inductive ExecutorError where
  | unsupportedVendor (vendor : String)
  | unsupportedModel (vendor model : String)
  | invalidPayload (message : String)
  | apiCallFailed (message : String)
  | rateLimitExceeded (vendor : String) (retryAfterMs : Option Nat)
  | authenticationFailed (vendor : String)
  | timeoutError (ms : Nat)
  | networkError (message : String)
  | jsonError (message : String)
  | noVendorsConfigured
  | invalidConfiguration
  | missingPricing
  | invalidUpstreamResult
  | upstreamRejected
  | quotaExceeded
  | deadlineExceeded
  | circuitOpen (vendor : String) (retryAfterMs : Nat)
  deriving DecidableEq, Repr

structure ExecutionResult where
  content : String
  role : String
  modelUsed : String
  promptTokens : Int
  completionTokens : Int
  totalCost : F64
  finishReason : String
  deriving DecidableEq, Repr

structure Message where
  role : String
  content : String
  deriving DecidableEq, Repr

structure ExecutionParams where
  messages : List Message
  temperature : Option F64
  maxTokens : Option Int
  topP : Option F64
  stream : Bool
  deriving DecidableEq, Repr

/-- The executor reads these policy limits. -/
structure ExecutorConfig where
  timeoutMs : Nat
  maxRetries : UInt32
  maxTotalAttempts : UInt32
  backoffCapMs : Nat
  deriving DecidableEq, Repr

/-- The metric label of a completed attempt. -/
inductive AttemptOutcome where
  | success
  | retryable
  | timeout
  | rateLimit
  | quota
  | upstreamAuth
  | protocolFault
  | rejected
  | deadline
  | cancelled
  | circuitOpen
  | internal
  deriving DecidableEq, Repr

def attemptOutcome : ExecutorError → AttemptOutcome
  | .networkError _ | .apiCallFailed _ => .retryable
  | .timeoutError _ => .timeout
  | .rateLimitExceeded _ _ => .rateLimit
  | .quotaExceeded => .quota
  | .authenticationFailed _ => .upstreamAuth
  | .jsonError _ | .invalidUpstreamResult => .protocolFault
  | .upstreamRejected => .rejected
  | .deadlineExceeded => .deadline
  | .circuitOpen _ _ => .circuitOpen
  | .unsupportedVendor _ | .unsupportedModel _ _ | .invalidPayload _ | .noVendorsConfigured
  | .invalidConfiguration | .missingPricing => .internal

/-- These errors may be retried on the same hop. -/
def isRetryableError : ExecutorError → Bool
  | .networkError _ | .timeoutError _ | .rateLimitExceeded _ _ | .apiCallFailed _ => true
  | _ => false

/-- These errors may open the circuit of their target. -/
def isCircuitFailure : ExecutorError → Bool
  | .networkError _ | .timeoutError _ | .apiCallFailed _ => true
  | _ => false

/-- These errors may continue to a later target. -/
def isFallbackEligible : ExecutorError → Bool
  | .networkError _ | .timeoutError _ | .apiCallFailed _ | .circuitOpen _ _ => true
  | _ => false

/-- A hop serves a request only within its own output-token cap. -/
def hopSupportsParams (plan : RoutePlan) (params : ExecutionParams) : Bool :=
  match params.maxTokens with
  | some requested =>
      if 0 < requested then
        decide (requested ≤ u32Max) && decide (requested ≤ plan.maxOutputTokens.toNat)
      else true
  | none => true

/-- A message is an object with both fields or an array of both fields. -/
def messageFromValue : Json → Option Message
  | .array [.string role, .string content] => some ⟨role, content⟩
  | .object entries => do
      let role ← ((Json.object entries).get "role").bind Json.asStr
      let content ← ((Json.object entries).get "content").bind Json.asStr
      some ⟨role, content⟩
  | _ => none

/-- The parameters come from the payload, and only the messages are required. -/
def extractParams (payload : Json) : Except ExecutorError ExecutionParams :=
  match (payload.get "messages").bind fun value =>
      value.asArray.bind fun items => items.mapM messageFromValue with
  | none => .error (.invalidPayload "Missing or invalid 'messages' field")
  | some messages => .ok {
      messages
      temperature := (payload.get "temperature").bind Json.asF64
      maxTokens := (payload.get "max_tokens").bind Json.asI64
      topP := (payload.get "top_p").bind Json.asF64
      stream := ((payload.get "stream").bind Json.asBool).getD false }

end Opmux.Executor
