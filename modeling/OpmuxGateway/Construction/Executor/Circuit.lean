import Mathlib
import OpmuxGateway.Construction.Core.Time

/-
This file gives the target-scoped circuit registry and its ownership permits.
-/

namespace Opmux.Circuit

inductive CircuitPhase where
  | closed (failures : UInt32)
  | opened (openedUntil : Instant)
  | halfOpen (inFlight : Bool)
  deriving DecidableEq, Repr

structure CircuitState where
  generation : UInt64
  phase : CircuitPhase
  deriving DecidableEq, Repr

instance : Inhabited CircuitState := ⟨⟨0, .closed 0⟩⟩

inductive PermitKind where
  | closed
  | probe
  deriving DecidableEq, Repr

inductive CompletionOutcome where
  | success
  | transientFailure
  | permanent
  deriving DecidableEq, Repr

/-- The metric label names the phase that a circuit enters. -/
inductive CircuitStateLabel where
  | closed
  | halfOpen
  | opened
  deriving DecidableEq, Repr

/-- A permit is the ownership token of one admission. -/
structure CircuitPermit where
  targetId : String
  generation : UInt64
  kind : PermitKind
  settled : Bool
  deriving DecidableEq, Repr

inductive CircuitAdmission where
  | allow (permit : CircuitPermit)
  | reject (retryAfterMs : Nat)
  | probe (permit : CircuitPermit)
  deriving DecidableEq, Repr

/-- The registry keeps one circuit for each target and the recorded metric transitions. -/
structure TargetCircuitRegistry where
  inner : String → Option CircuitState
  threshold : UInt32
  cooldown : Duration
  transitions : List (String × CircuitStateLabel)

namespace TargetCircuitRegistry

/-- A fresh registry has no circuit, and its threshold is at least one. -/
def fromConfig (circuitFailureThreshold : UInt32) (circuitCooldownMs : Nat) :
    TargetCircuitRegistry where
  inner := fun _ => none
  threshold := max circuitFailureThreshold 1
  cooldown := Duration.fromMillis circuitCooldownMs
  transitions := []

/-- This write replaces the circuit of one target. -/
def insert (registry : TargetCircuitRegistry) (targetId : String) (state : CircuitState) :
    TargetCircuitRegistry :=
  { registry with inner := Function.update registry.inner targetId (some state) }

def recordCircuitTransition (registry : TargetCircuitRegistry) (targetId : String)
    (label : CircuitStateLabel) : TargetCircuitRegistry :=
  { registry with transitions := registry.transitions ++ [(targetId, label)] }

/-- The hint reads the clock again, so `now` is a later reading than the admission's. -/
def retryAfterMs (openedUntil now : Instant) : Nat :=
  if now < openedUntil then max (clampU64 (Duration.asMillis (openedUntil - now))) 1 else 1

def cooldownRetryAfterMs (registry : TargetCircuitRegistry) : Nat :=
  max (clampU64 (Duration.asMillis registry.cooldown)) 1

def closedPermit (targetId : String) (generation : UInt64) : CircuitPermit :=
  ⟨targetId, generation, .closed, false⟩

def probePermit (targetId : String) (generation : UInt64) : CircuitPermit :=
  ⟨targetId, generation, .probe, false⟩

def startProbe (registry : TargetCircuitRegistry) (targetId : String) (state : CircuitState) :
    CircuitState × TargetCircuitRegistry :=
  let state := { generation := state.generation + 1, phase := .halfOpen true }
  (state, (registry.insert targetId state).recordCircuitTransition targetId .halfOpen)

def setOpen (registry : TargetCircuitRegistry) (targetId : String) (state : CircuitState)
    (now : Instant) : TargetCircuitRegistry :=
  let state := { generation := state.generation + 1, phase := .opened (now + registry.cooldown) }
  (registry.insert targetId state).recordCircuitTransition targetId .opened

def closeCircuit (registry : TargetCircuitRegistry) (targetId : String) (state : CircuitState) :
    TargetCircuitRegistry :=
  let state := { generation := state.generation + 1, phase := .closed 0 }
  (registry.insert targetId state).recordCircuitTransition targetId .closed

/-- Admission decides whether a target may start an upstream call. -/
def admitTarget (registry : TargetCircuitRegistry) (targetId : String) (now later : Instant) :
    CircuitAdmission × TargetCircuitRegistry :=
  let entry := (registry.inner targetId).getD default
  let registry := registry.insert targetId entry
  match entry.phase with
  | .closed _ => (.allow (closedPermit targetId entry.generation), registry)
  | .opened openedUntil =>
      if now < openedUntil then (.reject (retryAfterMs openedUntil later), registry)
      else
        let (entry, registry) := registry.startProbe targetId entry
        (.probe (probePermit targetId entry.generation), registry)
  | .halfOpen true => (.reject registry.cooldownRetryAfterMs, registry)
  | .halfOpen false =>
      let (entry, registry) := registry.startProbe targetId entry
      (.probe (probePermit targetId entry.generation), registry)

/-- A completion applies only while the generation and the phase match its permit. -/
def complete (registry : TargetCircuitRegistry) (targetId : String) (generation : UInt64)
    (kind : PermitKind) (outcome : CompletionOutcome) (now : Instant) : TargetCircuitRegistry :=
  match registry.inner targetId with
  | none => registry
  | some state =>
      if state.generation ≠ generation then registry
      else
        match kind, state.phase, outcome with
        | .closed, .closed _, .success =>
            registry.insert targetId { state with phase := .closed 0 }
        | .closed, .closed failures, .transientFailure =>
            let next := saturatingAdd failures 1
            if registry.threshold ≤ next then registry.setOpen targetId state now
            else registry.insert targetId { state with phase := .closed next }
        | .probe, .halfOpen _, .success
        | .probe, .halfOpen _, .permanent => registry.closeCircuit targetId state
        | .probe, .halfOpen _, .transientFailure => registry.setOpen targetId state now
        | _, _, _ => registry

/-- A release returns the half-open ownership of its own generation. -/
def releaseProbe (registry : TargetCircuitRegistry) (targetId : String) (generation : UInt64) :
    TargetCircuitRegistry :=
  match registry.inner targetId with
  | none => registry
  | some state =>
      if state.generation ≠ generation then registry
      else
        match state.phase with
        | .halfOpen _ => registry.insert targetId { state with phase := .halfOpen false }
        | _ => registry

end TargetCircuitRegistry

namespace CircuitPermit

/-- A settlement writes the registry at most once. -/
def settle (permit : CircuitPermit) (outcome : CompletionOutcome)
    (registry : TargetCircuitRegistry) (now : Instant) : CircuitPermit × TargetCircuitRegistry :=
  if permit.settled then (permit, registry)
  else
    ({ permit with settled := true },
      registry.complete permit.targetId permit.generation permit.kind outcome now)

/-- A dropped permit releases only an unsettled probe. -/
def drop (permit : CircuitPermit) (registry : TargetCircuitRegistry) : TargetCircuitRegistry :=
  if !permit.settled && permit.kind == .probe then
    registry.releaseProbe permit.targetId permit.generation
  else registry

/-- A finished permit is settled and then dropped at the end of the call. -/
def finish (permit : CircuitPermit) (outcome : CompletionOutcome)
    (registry : TargetCircuitRegistry) (now : Instant) : TargetCircuitRegistry :=
  let (permit, registry) := permit.settle outcome registry now
  permit.drop registry

def success (permit : CircuitPermit) (registry : TargetCircuitRegistry) (now : Instant) :
    TargetCircuitRegistry := permit.finish .success registry now

def transientFailure (permit : CircuitPermit) (registry : TargetCircuitRegistry)
    (now : Instant) : TargetCircuitRegistry := permit.finish .transientFailure registry now

def ignorePermanent (permit : CircuitPermit) (registry : TargetCircuitRegistry)
    (now : Instant) : TargetCircuitRegistry := permit.finish .permanent registry now

end CircuitPermit

end Opmux.Circuit
