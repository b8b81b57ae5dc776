import OpmuxGateway.Construction.Core.Time

namespace Opmux

/-- A route plan is one selected hop with the fallback hops of its route. -/
structure RoutePlan where
  vendorId : String
  targetId : String
  modelId : String
  maxOutputTokens : UInt32
  fallbackPlans : List RoutePlan

/-- A request deadline is one absolute instant. -/
structure RequestDeadline where
  deadline : Instant
  deriving DecidableEq, Repr

namespace RequestDeadline

/-- The predicate and the durations below take the instant that the clock shows. -/
def isExpired (deadline : RequestDeadline) (now : Instant) : Bool := deadline.deadline ≤ now

def remaining (deadline : RequestDeadline) (now : Instant) : Duration := deadline.deadline - now

/-- An attempt ends at the deadline or after its own limit, whichever comes first. -/
def attemptCutoff (deadline : RequestDeadline) (maxAttempt : Duration) (now : Instant) :
    Option Instant :=
  if deadline.deadline ≤ now then none
  else
    let maxCutoff := now + maxAttempt
    let cutoff := if deadline.deadline < maxCutoff then deadline.deadline else maxCutoff
    if cutoff ≤ now then none else some cutoff

end RequestDeadline

end Opmux
