import OpmuxGateway.Construction.Executor.Effect
import OpmuxGateway.Construction.Core.Text

/-
This file gives the shared attempt budget, the capped jitter, and the Retry-After policy.
-/

namespace Opmux.Executor

/-- One request owns one counter of started provider calls. -/
structure AttemptBudget where
  maxTotal : UInt32
  started : UInt32
  deriving DecidableEq, Repr

namespace AttemptBudget

def new (maxTotal : UInt32) : AttemptBudget := ⟨max maxTotal 1, 0⟩

def remaining (budget : AttemptBudget) : UInt32 :=
  if budget.started ≤ budget.maxTotal then budget.maxTotal - budget.started else 0

/-- A start takes one slot while a slot remains. -/
def tryStart (budget : AttemptBudget) : Option AttemptBudget :=
  if budget.maxTotal ≤ budget.started then none
  else some { budget with started := saturatingAdd budget.started 1 }

end AttemptBudget

inductive RetryDelay where
  | immediate
  | sleep (delay : Duration) (providerMinimum : Bool)
  deriving DecidableEq, Repr

inductive DelayError where
  | deadlineExceeded
  | providerDelayCannotFit (retryAfter : Duration)
  deriving DecidableEq, Repr

/-- Failed entropy gives no jitter, and the sample is uniform up to its bound. -/
def jitterMs (upperInclusive : Nat) : Effect Nat := do
  if upperInclusive = 0 then return 0
  let raw ← Program.request Request.entropy
  match raw with
  | none => return 0
  | some raw => return raw.toNat % min (upperInclusive + 1) u64Max

/-- The jitter window doubles with each retry up to the cap. -/
def backoffWindowMs (retryIndex capMs : Nat) : Nat :=
  min (min (1000 * min (2 ^ (retryIndex - 1)) u64Max) u64Max) capMs

def jitteredBackoffMs (retryIndex capMs : Nat) : Effect Nat :=
  jitterMs (backoffWindowMs retryIndex capMs)

def durationMs (duration : Duration) : Nat := clampU64 (Duration.asMillis duration)

def planRetryDelay (retryIndex : Nat) (backoffCap : Duration)
    (providerRetryAfter : Option Duration) : Effect RetryDelay :=
  match providerRetryAfter with
  | some provider =>
      if provider = 0 then return .immediate else return .sleep provider true
  | none => do
      let delay := Duration.fromMillis (← jitteredBackoffMs retryIndex (durationMs backoffCap))
      if delay = 0 then return .immediate else return .sleep delay false

def evaluateRetryDelay (delay : RetryDelay) (remaining : Duration) : Except DelayError Duration :=
  match delay with
  | .immediate => .ok 0
  | .sleep delay providerMinimum =>
      if delay ≤ remaining then .ok delay
      else if providerMinimum then .error (.providerDelayCannotFit delay)
      else .error .deadlineExceeded

/-- A missing or zero delay is not a provider minimum. -/
def providerMinimumCannotFit (providerRetryAfter : Option Duration) (remaining : Duration) :
    Bool :=
  match providerRetryAfter.filter (· ≠ 0) with
  | none => false
  | some delay =>
      match evaluateRetryDelay (.sleep delay true) remaining with
      | .error (.providerDelayCannotFit _) => true
      | _ => false

/-- The date library parses RFC 2822 dates and dates of a given format to wall-clock times. -/
structure Chrono where
  parseFromRfc2822 : String → Option Int
  parseFromStr : String → String → Option Int

def httpDateFormats : List String :=
  ["%a, %d %b %Y %H:%M:%S GMT", "%a, %e %b %Y %H:%M:%S GMT", "%A, %d-%b-%y %H:%M:%S GMT",
    "%a %b %e %H:%M:%S %Y"]

def parseHttpDate (chrono : Chrono) (value : String) : Option Int :=
  match chrono.parseFromRfc2822 value with
  | some parsed => some parsed
  | none => httpDateFormats.findSome? (chrono.parseFromStr value)

/-- A header value is a count of seconds or a date. -/
def parseRetryAfter (chrono : Chrono) (value : String) (now : Int) : Option Duration :=
  let trimmed := trim value
  if trimmed.isEmpty then none
  else if trimmed.toList.all Char.isDigit then
    (parseU64 trimmed).map Duration.fromSecs
  else (parseHttpDate chrono trimmed).map fun date => (date - now).toNat

def retryAfterHeaderMs (chrono : Chrono) (value : String) (now : Int) : Option Nat :=
  (parseRetryAfter chrono value now).map durationMs

end Opmux.Executor
