import OpmuxGateway.Construction.Auth.Service
import OpmuxGateway.Construction.Core.Lifecycle
import OpmuxGateway.Construction.Executor.Effect

/-
This file gives the effects of the requests that the gateway serves.
-/

namespace Opmux.Gateway

open Auth (AuthRequest AuthProgram)

/-- The places where the layers around the executor read the monotonic clock. -/
inductive ClockSite where
  | requestStart
  | authIsExpired
  | ingressIsExpired
  | processingStart
  | processingEnd
  deriving DecidableEq, Repr

/-- The layers whose work ends with the timer of the request deadline. -/
inductive TimerSite where
  | authentication
  | request
  deriving DecidableEq, Repr

/-- A framework rejection of a JSON body has one of these causes. -/
inductive JsonRejection where
  | missingJsonContentType
  | jsonSyntaxError
  | jsonDataError
  | bytesRejection (payloadTooLarge : Bool)
  | other
  deriving DecidableEq, Repr

/-- A task reads clocks, awaits its layers, and writes the shared admission and metrics. -/
inductive GatewayRequest where
  | clock (site : ClockSite)
  | timer (site : TimerSite) (deadline : Instant)
  | extractBody
  | auth (request : AuthRequest)
  | execution (request : Executor.Request)
  | tryAcquire
  | releasePermit
  | recordOverloadRejected

/-- A timer answers whether it elapsed, and an awaited body is missing when the task is dropped. -/
abbrev GatewayRequest.Reply : GatewayRequest → Type
  | .clock _ => Instant
  | .timer _ _ => Bool
  | .extractBody => Option (Except JsonRejection Json)
  | .auth request => request.Reply
  | .execution request => Executor.Reply request
  | .tryAcquire => Except AdmissionDenied Unit
  | .releasePermit | .recordOverloadRejected => Unit

abbrev GatewayEffect := Program GatewayRequest GatewayRequest.Reply

abbrev GatewayEvent := Exchange GatewayRequest GatewayRequest.Reply Executor.Span

def readClock (site : ClockSite) : GatewayEffect Instant :=
  Program.request (GatewayRequest.clock site)

/-- The execution runs inside a task of the gateway. -/
def runExecution {Value : Type} (effect : Executor.Effect Value) : GatewayEffect Value :=
  effect.embed GatewayRequest.execution fun _ => Equiv.refl _

/-- The authentication service runs inside a task of the gateway. -/
def runAuth {Value : Type} (program : AuthProgram Value) : GatewayEffect Value :=
  program.embed GatewayRequest.auth fun _ => Equiv.refl _

/-- A timeout polls its work before its timer, and its owner may drop both of them. -/
def timeoutAt {Value : Type} (site : TimerSite) (deadline : Instant) (work : GatewayEffect Value) :
    GatewayEffect (Option Value) := do
  match ← work.attempt with
  | some value => return some value
  | none => do
      match ← Program.request (GatewayRequest.timer site deadline) with
      | true => return none
      | false => Program.halt

end Opmux.Gateway
