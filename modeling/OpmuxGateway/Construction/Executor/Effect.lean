import OpmuxGateway.Construction.Executor.Circuit
import OpmuxGateway.Construction.Executor.Models
import OpmuxGateway.Library.Interaction

/-
This file gives the effects of an execution and the timed traces of its runs.
-/

namespace Opmux.Executor
open Circuit (CircuitPermit CircuitAdmission CompletionOutcome)

/-- The places where an execution reads the monotonic clock. -/
inductive ClockSite where
  | isExpired
  | remaining
  | attemptCutoff
  | attemptTimeout
  deriving DecidableEq, Repr

/-- The events of the execution metrics. -/
inductive ExecutionEvent where
  | attempt (targetId : String) (outcome : AttemptOutcome)
  | retry (targetId : String)
  | fallback (fromTarget toTarget : String)
  | deadlineExceeded
  | successfulUsage (targetId : String) (promptTokens completionTokens : Int)
  deriving DecidableEq, Repr

/-- An execution reads clocks and entropy, awaits timers and calls, and writes shared state. -/
inductive Request where
  | clock (site : ClockSite)
  | entropy
  | sleep (limit : Instant) (wait : Duration)
  | call (plan : RoutePlan) (params : ExecutionParams) (cutoff : Instant)
  | admission (plan : RoutePlan)
  | settle (permit : CircuitPermit) (outcome : CompletionOutcome)
  | dropPermit (permit : CircuitPermit)
  | record (event : ExecutionEvent)

/-- A wait finishes or meets its limit. -/
inductive SleepReply where
  | ready
  | elapsed
  deriving DecidableEq, Repr

/-- A call is ready or meets its cutoff with an observed error. -/
inductive CallReply where
  | ready (outcome : Except ExecutorError ExecutionResult)
  | elapsed (observed : Option ExecutorError)

/-- An awaited reply is missing when the request is dropped during the await. -/
abbrev Reply : Request → Type
  | .clock _ => Instant
  | .entropy => Option UInt64
  | .sleep _ _ => Option SleepReply
  | .call _ _ _ => Option CallReply
  | .admission _ => CircuitAdmission
  | .settle _ _ | .dropPermit _ | .record _ => Unit

/-- An exchange starts when it is issued and ends when it is answered. -/
structure Span where
  issued : Instant
  answered : Instant
  deriving DecidableEq, Repr

abbrev Effect := Program Request Reply

abbrev Event := Exchange Request Reply Span

/-- A clock shows an instant inside its exchange, and a timer does not fire early. -/
def Coherent : Event → Prop
  | ⟨.clock _, (now : Nat), span⟩ => span.issued ≤ now ∧ now ≤ span.answered
  | ⟨.sleep limit wait, reply, span⟩ =>
      (reply = some .ready → span.issued + wait ≤ span.answered) ∧
        (reply = some .elapsed → limit ≤ span.answered)
  | ⟨.call _ _ cutoff, reply, span⟩ =>
      ∀ observed, reply = some (.elapsed observed) → cutoff ≤ span.answered
  | _ => True

/-- The clock of a trace is monotone, and it may advance at every exchange. -/
def Timed (start : Instant) : List Event → Prop
  | [] => True
  | event :: rest =>
      start ≤ event.stamp.issued ∧ event.stamp.issued ≤ event.stamp.answered ∧ Coherent event ∧
        Timed event.stamp.answered rest

/-- An admission gives its caller an unsettled permit of the requested target. -/
def Admitted : Event → Prop
  | ⟨.admission plan, admission, _⟩ =>
      match admission with
      | .allow permit =>
          permit.targetId = plan.targetId ∧ permit.kind = .closed ∧ permit.settled = false
      | .probe permit =>
          permit.targetId = plan.targetId ∧ permit.kind = .probe ∧ permit.settled = false
      | .reject _ => True
  | _ => True

def readClock (site : ClockSite) : Effect Instant := Program.request (Request.clock site)

def record (event : ExecutionEvent) : Effect Unit := Program.request (Request.record event)

end Opmux.Executor
