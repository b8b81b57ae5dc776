import OpmuxGateway.Construction.Health.Readiness
import OpmuxGateway.Construction.Ingress.Handler

/-
This file gives the gateway process, whose generation handlers, readiness checks, and drain
signals run concurrently.
-/

namespace Opmux.Gateway

open Auth (ApiKeyKind)
open Ingress (IngressError IngressResponse IngressService ingressHandler)

/-- A generation task has the rest of its program and may own a permit. -/
structure GenerationTask where
  program : GatewayEffect (Except IngressError IngressResponse)
  permit : Bool

/-- An environment answers every request that the process does not answer itself. -/
abbrev Answers := (request : GatewayRequest) → request.Reply

namespace GenerationTask

/-- A task exchanges one request, and the shared semaphore answers its admission. -/
def exchange (admission : Semaphore) (answers : Answers) (task : GenerationTask) :
    Option (GenerationTask × Semaphore) :=
  match task.program with
  | .ask .tryAcquire next =>
      match admission.tryAcquire with
      | (.ok (), later) => some (⟨next (.ok ()), true⟩, later)
      | (.error denied, later) => some (⟨next (.error denied), task.permit⟩, later)
  | .ask .releasePermit next => some (⟨next (), false⟩, admission.release)
  | .ask request next => some (⟨next (answers request), task.permit⟩, admission)
  | .pure _ | .halt => none

end GenerationTask

/-- The tasks share one semaphore, and the health world keeps the published drain flag. -/
structure Process where
  admission : Semaphore
  health : Health.World
  closers : Nat
  arrived : Nat
  tasks : Nat → Option GenerationTask

/-- A drain signal closes the admission first and publishes the flag later. -/
inductive ProcessEvent where
  | arrive (kind : ApiKeyKind) (body : Json) (deadline : RequestDeadline)
  | exchange (task : Nat) (answers : Answers)
  | readiness (event : Health.Event)
  | close
  | publish (now : Instant)

namespace Process

def initial (settings : Settings) (start : Instant) : Process :=
  ⟨Semaphore.new settings.limits.maxConcurrentGenerations.toNat, Health.World.initial start, 0, 0,
    fun _ => none⟩

/-- The drain state is the shared semaphore with the published flag. -/
def shutdown (process : Process) : ShutdownState := ⟨process.admission, process.health.draining⟩

/-- A new task owns no permit. -/
def addTask (process : Process)
    (program : GatewayEffect (Except IngressError IngressResponse)) : Process :=
  { process with
    arrived := process.arrived + 1
    tasks := Function.update process.tasks process.arrived (some ⟨program, false⟩) }

def setTask (process : Process) (id : Nat) (task : GenerationTask) (admission : Semaphore) :
    Process :=
  { process with
    admission := admission, tasks := Function.update process.tasks id (some task) }

/-- Only a drain signal publishes the drain flag. -/
def readinessStep (health : Health.HealthService) (process : Process) :
    Health.Event → Option Process
  | .markDraining _ => none
  | event => (process.health.step health event).map fun next => { process with health := next }

/-- Each event is one atomic action of one actor. -/
def step (toVec : Json → Option (List UInt8)) (ingress : IngressService)
    (health : Health.HealthService) (process : Process) : ProcessEvent → Option Process
  | .arrive kind body deadline =>
      some (process.addTask (ingressHandler toVec ingress kind body deadline))
  | .exchange id answers => do
      let task ← process.tasks id
      let (next, admission) ← task.exchange process.admission answers
      return process.setTask id next admission
  | .readiness event => process.readinessStep health event
  | .close =>
      some { process with admission := process.admission.close, closers := process.closers + 1 }
  | .publish now =>
      if process.closers = 0 then none
      else (process.health.step health (.markDraining now)).map fun next =>
        { process with health := next, closers := process.closers - 1 }

end Process

/-- The actors of one process form an event system. -/
def processSystem (toVec : Json → Option (List UInt8)) (ingress : IngressService)
    (health : Health.HealthService) : EventSystem Process ProcessEvent :=
  ⟨Process.step toVec ingress health⟩

end Opmux.Gateway
