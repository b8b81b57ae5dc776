import OpmuxGateway.Construction.Executor.Circuit
import OpmuxGateway.Library.EventSystem

/-
This file gives the runs of one registry under concurrent requests.
The registry lock orders the operations, and each operation reads the clock under that lock.
-/

namespace Opmux.Circuit

/-- The permits of one admission. -/
def CircuitAdmission.permits : CircuitAdmission → List CircuitPermit
  | .allow permit | .probe permit => [permit]
  | .reject _ => []

/-- The world keeps the registry, the newest clock reading, and the outstanding permits. -/
structure World where
  registry : TargetCircuitRegistry
  clock : Instant
  permits : List CircuitPermit

/-- A request asks for admission, settles its permit, or drops an unsettled permit. -/
inductive Event where
  | admission (targetId : String) (now later : Instant)
  | settle (permit : CircuitPermit) (outcome : CompletionOutcome) (now : Instant)
  | drop (permit : CircuitPermit)
  deriving DecidableEq, Repr

/-- Each event concerns the circuit of one target. -/
def Event.target : Event → String
  | .admission targetId _ _ => targetId
  | .settle permit _ _ => permit.targetId
  | .drop permit => permit.targetId

/-- A settlement calls the method of its outcome. -/
def CircuitPermit.settleWith (permit : CircuitPermit) :
    CompletionOutcome → TargetCircuitRegistry → Instant → TargetCircuitRegistry
  | .success => permit.success
  | .transientFailure => permit.transientFailure
  | .permanent => permit.ignorePermanent

/-- The world starts with an empty registry and no permit. -/
def World.initial (circuitFailureThreshold : UInt32) (circuitCooldownMs : Nat)
    (start : Instant) : World :=
  ⟨.fromConfig circuitFailureThreshold circuitCooldownMs, start, []⟩

/-- An event needs a monotone clock and an outstanding permit. -/
def World.step (world : World) : Event → Option World
  | .admission targetId now later =>
      if world.clock ≤ now ∧ now ≤ later then
        let (admission, registry) := world.registry.admitTarget targetId now later
        some ⟨registry, later, world.permits ++ admission.permits⟩
      else none
  | .settle permit outcome now =>
      if permit ∈ world.permits ∧ world.clock ≤ now then
        some ⟨permit.settleWith outcome world.registry now, now, world.permits.erase permit⟩
      else none
  | .drop permit =>
      if permit ∈ world.permits then
        some ⟨permit.drop world.registry, world.clock, world.permits.erase permit⟩
      else none

/-- The concurrent registry is an event system. -/
def circuitSystem : EventSystem World Event := ⟨World.step⟩

/-- The circuit of a target, which is closed before its first admission. -/
def World.circuit (world : World) (targetId : String) : CircuitState :=
  (world.registry.inner targetId).getD default

/-- The unsettled probe permits of a target that carry its current generation. -/
def World.currentProbes (world : World) (targetId : String) : List CircuitPermit :=
  world.permits.filter fun permit =>
    permit.targetId = targetId ∧ permit.kind = .probe ∧ permit.settled = false ∧
      permit.generation = (world.circuit targetId).generation

/-- An open circuit shows the end of its cooldown. -/
def World.openedUntil (targetId : String) (world : World) : Option Instant :=
  match (world.circuit targetId).phase with
  | .opened openedUntil => some openedUntil
  | _ => none

/-- A rejected caller owns no permit. -/
def CircuitAdmission.IsReject : CircuitAdmission → Prop
  | .reject _ => True
  | _ => False

instance (admission : CircuitAdmission) : Decidable admission.IsReject :=
  match admission with
  | .reject _ => .isTrue trivial
  | .allow _ | .probe _ => .isFalse id

end Opmux.Circuit
