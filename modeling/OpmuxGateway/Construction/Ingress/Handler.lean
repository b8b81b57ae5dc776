import OpmuxGateway.Construction.Core.HttpError
import OpmuxGateway.Construction.Ingress.Service
import OpmuxGateway.Construction.Ingress.Validate

/-
This file gives the handler that admits one generation request.
-/

namespace Opmux.Ingress

open Auth (ApiKeyKind)
open Executor (ExecutorError)
open Gateway (GatewayEffect GatewayRequest)

section Handler

-- The serialization of a parsed value is the one of the JSON library.
variable (toVec : Json → Option (List UInt8))

/-- An admitted request holds its permit until it is processed or dropped. -/
def processAdmitted (service : IngressService) (request : IngressRequest)
    (deadline : RequestDeadline) : GatewayEffect (Except IngressError IngressResponse) := do
  let result ← (service.processRequest request deadline).onDrop
    (Program.request GatewayRequest.releasePermit)
  Program.request GatewayRequest.releasePermit
  return result

/-- Only a parsed request of an inference key reaches the admission. -/
def ingressHandler (service : IngressService) (kind : ApiKeyKind) (body : Json)
    (deadline : RequestDeadline) : GatewayEffect (Except IngressError IngressResponse) :=
  if kind ≠ .inference then return .error .authorizationFailed
  else
    match parseIngressRequest toVec body service.settings.limits with
    | .error error => return .error error
    | .ok request => do
        match ← Program.request GatewayRequest.tryAcquire with
        | .ok () => processAdmitted service request deadline
        | .error .closed => return .error .draining
        | .error .noPermits => do
            Program.request GatewayRequest.recordOverloadRejected
            return .error .overloaded

end Handler

/-- A delay in milliseconds is rounded up to whole seconds. -/
def retryAfterSecs (retryAfterMs : Option Nat) : Option Nat :=
  (retryAfterMs.filter fun ms => decide (0 < ms)).map fun ms => max ((ms + 999) / 1000) 1

/-- This value is `LOCAL_OVERLOAD_RETRY_AFTER_SECS`. -/
def localOverloadRetryAfterSecs : Nat := 1

def executorHttpMapping : ExecutorError → HttpError
  | .unsupportedVendor _ | .unsupportedModel _ _ | .invalidPayload _ =>
      ⟨.invalidRequest, "The request payload is invalid", none⟩
  | .authenticationFailed _ =>
      ⟨.upstreamAuthentication, "Upstream provider rejected the credentials", none⟩
  | .rateLimitExceeded _ retryAfterMs =>
      ⟨.upstreamRateLimit, "Upstream provider rate-limited the request",
        retryAfterSecs retryAfterMs⟩
  | .apiCallFailed _ | .networkError _ | .timeoutError _ | .upstreamRejected =>
      ⟨.upstreamError, "Upstream provider request failed", none⟩
  | .quotaExceeded => ⟨.upstreamError, "Upstream provider quota was exhausted", none⟩
  | .jsonError _ | .invalidUpstreamResult =>
      ⟨.upstreamProtocol, "Upstream provider returned an unusable result", none⟩
  | .noVendorsConfigured | .invalidConfiguration | .missingPricing =>
      ⟨.internalError, "An internal error occurred", none⟩
  | .deadlineExceeded => ⟨.deadlineExceeded, "The request deadline was exceeded", none⟩
  | .circuitOpen _ retryAfterMs =>
      ⟨.circuitOpen, "No eligible upstream target is currently available",
        retryAfterSecs (some retryAfterMs)⟩

def IngressError.intoResponse : IngressError → HttpError
  | .executionFailed error => executorHttpMapping error
  | .overloaded =>
      ⟨.overloaded, "The service is overloaded", some localOverloadRetryAfterSecs⟩
  | .invalidRequest message => ⟨.invalidRequest, message, none⟩
  | .authenticationRequired => ⟨.unauthorized, "Authentication failed", none⟩
  | .authorizationFailed =>
      ⟨.forbidden, "You do not have permission to perform this operation.", none⟩
  | .requestOrchestrationFailed => ⟨.internalError, "An internal error occurred", none⟩
  | .payloadTooLarge => ⟨.payloadTooLarge, "Request body is too large", none⟩
  | .draining => ⟨.draining, "The service is shutting down", none⟩

end Opmux.Ingress
