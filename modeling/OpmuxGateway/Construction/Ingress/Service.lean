import OpmuxGateway.Construction.Executor.Repository
import OpmuxGateway.Construction.Executor.Service
import OpmuxGateway.Construction.Gateway.Effect
import OpmuxGateway.Construction.Ingress.Routing

/-
This file gives the service that routes and executes one generation request.
-/

namespace Opmux.Ingress

open Executor (ExecutorConfig ExecutionResult execute)
open Gateway (GatewayEffect readClock runExecution)

structure AIResponse where
  content : String
  role : String
  finishReason : Option String
  deriving DecidableEq, Repr

structure TokenUsage where
  promptTokens : Int
  completionTokens : Int
  deriving DecidableEq, Repr

structure IngressResponse where
  response : AIResponse
  modelUsed : String
  cost : F64
  processingTimeMs : Nat
  usage : TokenUsage
  deriving DecidableEq, Repr

structure IngressService where
  settings : Settings
  config : ExecutorConfig

namespace IngressService

/-- An omitted token count is the cap of the selected primary target. -/
def effectiveMaxTokens (parameters : GenerationParameters) (resolved : ResolvedRoute) : UInt32 :=
  parameters.maxTokens.getD resolved.maxOutputTokens

def numberEntry (key : String) (number : Option JsonNumber) : List (String × Json) :=
  match number with
  | some number => [(key, .number number)]
  | none => []

/-- The payload has the prompt as its only message, and the metadata stays outside. -/
def payload (request : IngressRequest) (resolved : ResolvedRoute) : Json :=
  .object ([("messages", .array [.object
      [("role", .string "user"), ("content", .string request.prompt)]]),
    ("max_tokens", .number
      (.posInt (effectiveMaxTokens request.parameters resolved).toUInt64))] ++
    numberEntry "temperature" request.parameters.temperature ++
    numberEntry "top_p" request.parameters.topP)

/-- An explicit token count may not exceed the cap of the selected primary target. -/
def exceedsCap (parameters : GenerationParameters) (resolved : ResolvedRoute) : Bool :=
  match parameters.maxTokens with
  | some maxTokens => decide (resolved.maxOutputTokens < maxTokens)
  | none => false

def executeLlmCall (service : IngressService) (plan : RoutePlan) (payload : Json)
    (deadline : RequestDeadline) : GatewayEffect (Except IngressError ExecutionResult) := do
  match ← runExecution (execute service.config plan payload deadline) with
  | .ok result => return .ok result
  | .error error => return .error (.executionFailed error)

def assembleResponse (result : ExecutionResult) (processingTimeMs : Nat) : IngressResponse where
  response := ⟨result.content, result.role, some result.finishReason⟩
  modelUsed := result.modelUsed
  cost := result.totalCost
  processingTimeMs := processingTimeMs
  usage := ⟨result.promptTokens, result.completionTokens⟩

/-- A resolved request is executed with its payload. -/
def processResolved (service : IngressService) (request : IngressRequest)
    (resolved : ResolvedRoute) (deadline : RequestDeadline) (start : Instant) :
    GatewayEffect (Except IngressError IngressResponse) := do
  if exceedsCap request.parameters resolved then
    return .error (.invalidRequest "max_tokens exceeds the selected target's max_output_tokens")
  else do
    match ← service.executeLlmCall resolved.plan (payload request resolved) deadline with
    | .error error => return .error error
    | .ok result => do
        let finish ← readClock .processingEnd
        return .ok (assembleResponse result (Duration.asMillis (finish - start) % 2 ^ 64))

/-- An expired request ends before its route is resolved. -/
def processRequest (service : IngressService) (request : IngressRequest)
    (deadline : RequestDeadline) : GatewayEffect (Except IngressError IngressResponse) := do
  let now ← readClock .ingressIsExpired
  if deadline.isExpired now then return .error (.executionFailed .deadlineExceeded)
  else do
    let start ← readClock .processingStart
    match resolveRoute service.settings.catalog request.route request.allowFallback with
    | .error error => return .error error
    | .ok resolved => service.processResolved request resolved deadline start

end IngressService

end Opmux.Ingress
