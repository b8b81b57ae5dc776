import Mathlib

/-
This file gives the stable error codes of the protected endpoints.
-/

namespace Opmux

inductive ErrorCode where
  | invalidRequest
  | invalidJson
  | unsupportedMediaType
  | invalidPath
  | unauthorized
  | forbidden
  | notFound
  | authDependencyUnavailable
  | upstreamError
  | upstreamAuthentication
  | upstreamProtocol
  | upstreamRateLimit
  | internalError
  | deadlineExceeded
  | circuitOpen
  | overloaded
  | payloadTooLarge
  | draining
  deriving DecidableEq, Repr

def ErrorCode.asStr : ErrorCode → String
  | .invalidRequest => "INVALID_REQUEST"
  | .invalidJson => "INVALID_JSON"
  | .unsupportedMediaType => "UNSUPPORTED_MEDIA_TYPE"
  | .invalidPath => "INVALID_PATH"
  | .unauthorized => "UNAUTHORIZED"
  | .forbidden => "FORBIDDEN"
  | .notFound => "NOT_FOUND"
  | .authDependencyUnavailable => "AUTH_DEPENDENCY_UNAVAILABLE"
  | .upstreamError => "UPSTREAM_ERROR"
  | .upstreamAuthentication => "UPSTREAM_AUTHENTICATION"
  | .upstreamProtocol => "UPSTREAM_PROTOCOL"
  | .upstreamRateLimit => "UPSTREAM_RATE_LIMIT"
  | .internalError => "INTERNAL_ERROR"
  | .deadlineExceeded => "DEADLINE_EXCEEDED"
  | .circuitOpen => "CIRCUIT_OPEN"
  | .overloaded => "OVERLOADED"
  | .payloadTooLarge => "PAYLOAD_TOO_LARGE"
  | .draining => "DRAINING"

/-- An error has its code, its message, and an optional retry guidance in seconds. -/
structure HttpError where
  code : ErrorCode
  message : String
  retryAfterSecs : Option Nat
  deriving DecidableEq, Repr

end Opmux
