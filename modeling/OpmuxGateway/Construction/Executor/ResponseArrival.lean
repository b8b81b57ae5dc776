import OpmuxGateway.Construction.Executor.BoundedBody
import OpmuxGateway.Construction.Executor.OpenAi

/-
This file gives the timed arrival of a throttled response and the polls of its classification.
-/

namespace Opmux.Executor

/-- Each instant is the arrival of one more reply, and a reply without an instant never arrives. -/
structure ThrottledResponse (maxBytes : UInt64) where
  retryAfter : Option (List UInt8)
  body : ResponseBody maxBytes
  arrivals : List Instant

namespace ThrottledResponse

variable {maxBytes : UInt64}

/-- The replies of the body that have arrived by an instant. -/
def arrived (response : ThrottledResponse maxBytes) (now : Instant) : List ChunkReply :=
  response.body.replies.take (response.arrivals.takeWhile (· ≤ now)).length

/-- A poll of the timed read looks at the body before it looks at the timer. -/
def poll (response : ThrottledResponse maxBytes) (expiry now : Instant) : Option BodyReply :=
  match (readBoundedResponseBody response.body.contentLength maxBytes (response.arrived now)).1 with
  | .returned (.ok body) => some (.complete body)
  | .returned (.error _) => some .failed
  | .reading _ => if expiry ≤ now then some .elapsed else none

end ThrottledResponse

end Opmux.Executor
