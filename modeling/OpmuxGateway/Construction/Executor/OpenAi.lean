import OpmuxGateway.Construction.Executor.Budget

/-
This file gives the classification of a throttled response of the OpenAI vendor.
-/

namespace Opmux.Executor

/-- A classification reads two clocks, stores its observed error, and awaits the body. -/
inductive VendorRequest where
  | systemTime
  | attemptClock
  | observe (error : ExecutorError)
  | readBody (window : Duration)

/-- A bounded body is complete, fails, or does not arrive in its window. -/
inductive BodyReply where
  | complete (body : List UInt8)
  | failed
  | elapsed

/-- The body is missing when the attempt is dropped during its await. -/
abbrev VendorReply : VendorRequest → Type
  | .systemTime => Int
  | .attemptClock => Instant
  | .observe _ => Unit
  | .readBody _ => Option BodyReply

/-- The stamp of a vendor exchange is the instant of its reply. -/
abbrev VendorEvent := Exchange VendorRequest VendorReply Instant

abbrev VendorEffect := Program VendorRequest VendorReply

def bodyRefinementCap : Duration := Duration.fromMillis 100

/-- The body may take a short window of the remaining attempt. -/
def bodyRefinementWindow (cutoff now : Instant) : Duration :=
  min (min (cutoff - now) bodyRefinementCap) ((cutoff - now) / 2)

def quotaExhausted (fromSlice : List UInt8 → Option Json) (body : List UInt8) : Bool :=
  match fromSlice body with
  | none => false
  | some value =>
      let code := (((value.get "error").bind (·.get "code")).bind Json.asStr).getD ""
      let errorType := (((value.get "error").bind (·.get "type")).bind Json.asStr).getD ""
      eqIgnoreAsciiCase code "insufficient_quota" ||
        eqIgnoreAsciiCase errorType "insufficient_quota"

/-- A readable header is converted with the wall clock of the reading. -/
def readRetryAfter (chrono : Chrono) (retryAfter : Option (List UInt8)) :
    VendorEffect (Option Nat) :=
  match retryAfter.bind headerToStr with
  | none => return none
  | some value => do
      let now ← Program.request VendorRequest.systemTime
      return retryAfterHeaderMs chrono value now

/-- The header is observed before the body may refine it to an exhausted quota. -/
def classifyTooManyRequests (chrono : Chrono) (fromSlice : List UInt8 → Option Json)
    (cutoff : Instant) (retryAfter : Option (List UInt8)) : VendorEffect ExecutorError := do
  let retryAfterMs ← readRetryAfter chrono retryAfter
  let throttling := ExecutorError.rateLimitExceeded "openai" retryAfterMs
  Program.request (VendorRequest.observe throttling)
  let now ← Program.request VendorRequest.attemptClock
  let window := bodyRefinementWindow cutoff now
  if window = 0 then return throttling
  else
    match ← Program.request (VendorRequest.readBody window) with
    | none => Program.halt
    | some (.complete body) =>
        if quotaExhausted fromSlice body then do
          Program.request (VendorRequest.observe .quotaExceeded)
          return .quotaExceeded
        else return throttling
    | some .failed | some .elapsed => return throttling

/-- The context of an attempt keeps the last observed error. -/
def observedError (trace : List VendorEvent) : Option ExecutorError :=
  trace.foldl (fun observed event =>
    match event.request with
    | .observe error => some error
    | _ => observed) none

/-- A dropped classification leaves its observed error to the elapsed call. -/
def callReply (trace : List VendorEvent) (outcome : Option ExecutorError) : CallReply :=
  match outcome with
  | some error => .ready (.error error)
  | none => .elapsed (observedError trace)

end Opmux.Executor
