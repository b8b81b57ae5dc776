import OpmuxGateway.Construction.Core.Time
import OpmuxGateway.Library.EventSystem

/-
This file gives the concurrent readiness checks of one health service.
Each check is split at its awaits, and the cache locks order the reads and the writes.
-/

namespace Opmux.Health

/-- Both dependencies have a live probe and a success cache. -/
inductive Dependency where
  | database
  | upstream
  deriving DecidableEq, Repr

structure DependencyStatus where
  status : String
  latencyMs : Option Nat
  error : Option String
  deriving DecidableEq, Repr

namespace DependencyStatus

def healthy (latencyMs : Option Nat) : DependencyStatus := ⟨"healthy", latencyMs, none⟩

def unhealthy (message : String) (latencyMs : Option Nat) : DependencyStatus :=
  ⟨"unhealthy", latencyMs, some message⟩

def isHealthy (status : DependencyStatus) : Bool := status.status == "healthy"

end DependencyStatus

def Dependency.unavailable : Dependency → String
  | .database => "Authentication database unavailable"
  | .upstream => "Upstream provider unreachable"

def noUsableTarget : String := "No usable default-route target"

/-- A service has a cache lifetime, and a missing dependency is never healthy. -/
structure HealthService where
  cacheTtlSecs : Nat
  configured : Dependency → Bool
  routed : Bool

namespace HealthService

def cacheTtl (service : HealthService) : Duration := Duration.fromSecs service.cacheTtlSecs

/-- A lifetime of zero disables the cache. -/
def cacheIsFresh (service : HealthService) (cachedAt now : Instant) : Bool :=
  decide (service.cacheTtl ≠ 0) && decide (now - cachedAt < service.cacheTtl)

def probeDefaultRoute (service : HealthService) (usable : Bool) : DependencyStatus :=
  if service.routed && usable then .healthy none else .unhealthy noUsableTarget none

end HealthService

/-- A probe reads its cache, awaits the dependency, awaits the cache lock, and finishes. -/
inductive Progress where
  | reading
  | probing (start : Instant)
  | writing (succeededAt : Instant) (latencyMs : Nat)
  | finished (status : DependencyStatus)
  deriving DecidableEq, Repr

/-- A check keeps its first drain snapshot and the progress of both probes. -/
structure Check where
  drained : Bool
  progress : Dependency → Progress

structure ReadinessResponse where
  status : String
  draining : Bool
  dependencies : Dependency → DependencyStatus
  defaultRoute : DependencyStatus

/-- The world keeps the shared service state, the running checks, and the sent responses. -/
structure World where
  clock : Instant
  draining : Bool
  successAt : Dependency → Option Instant
  started : Nat
  checks : Nat → Option Check
  responses : List (Nat × ReadinessResponse)

/-- A check begins, runs from await to await, and responds, or its caller drops it. -/
inductive Event where
  | begin (now : Instant)
  | markDraining (now : Instant)
  | readCache (check : Nat) (dependency : Dependency) (now : Instant)
  | probed (check : Nat) (dependency : Dependency) (succeeded : Bool) (now : Instant)
  | writeCache (check : Nat) (dependency : Dependency) (now : Instant)
  | respond (check : Nat) (usable : Bool) (now : Instant)
  | drop (check : Nat) (now : Instant)
  deriving DecidableEq, Repr

def Event.now : Event → Instant
  | .begin now | .markDraining now | .readCache _ _ now | .probed _ _ _ now | .writeCache _ _ now
  | .respond _ _ now | .drop _ now => now

/-- The cached status of a draining check reports every stored success. -/
def cachedStatus (dependency : Dependency) : Option Instant → DependencyStatus
  | some _ => .healthy none
  | none => .unhealthy dependency.unavailable none

/-- A live check reuses a fresh success, and it probes a configured dependency otherwise. -/
def readLive (service : HealthService) (dependency : Dependency) (cached : Option Instant)
    (now : Instant) : Progress :=
  if cached.any fun cachedAt => service.cacheIsFresh cachedAt now then .finished (.healthy none)
  else if service.configured dependency then .probing now
  else .finished (.unhealthy dependency.unavailable none)

/-- A draining check reads the database cache before it reads the upstream cache. -/
def Check.mayRead (check : Check) (dependency : Dependency) : Bool :=
  match check.drained, dependency, check.progress .database with
  | true, .upstream, .finished _ => true
  | true, .upstream, _ => false
  | _, _, _ => true

def Check.advance (check : Check) (dependency : Dependency) (progress : Progress) : Check :=
  { check with progress := Function.update check.progress dependency progress }

def probedProgress (dependency : Dependency) (succeeded : Bool) (start now : Instant) : Progress :=
  let latencyMs := Duration.asMillis (now - start) % 2 ^ 64
  if succeeded then .writing now latencyMs
  else .finished (.unhealthy dependency.unavailable (some latencyMs))

/-- The final drain snapshot decides the response of a live check. -/
def assemble (service : HealthService) (drained draining usable : Bool)
    (database upstream : DependencyStatus) : ReadinessResponse :=
  let defaultRoute := service.probeDefaultRoute usable
  let draining := drained || draining
  let ready := !draining && database.isHealthy && upstream.isHealthy && defaultRoute.isHealthy
  ⟨if ready then "ready" else "not_ready", draining,
    fun | .database => database | .upstream => upstream, defaultRoute⟩

namespace World

def initial (start : Instant) : World := ⟨start, false, fun _ => none, 0, fun _ => none, []⟩

def setCheck (world : World) (id : Nat) (check : Option Check) : World :=
  { world with checks := Function.update world.checks id check }

/-- An event acts on the check that it names. -/
def act (service : HealthService) (world : World) : Event → Option World
  | .begin _ =>
      some { world.setCheck world.started (some ⟨world.draining, fun _ => .reading⟩) with
        started := world.started + 1 }
  | .markDraining _ => some { world with draining := true }
  | .readCache id dependency now =>
      match world.checks id with
      | none => none
      | some check =>
          if check.progress dependency = .reading ∧ check.mayRead dependency then
            some (world.setCheck id (some (check.advance dependency
              (if check.drained then
                .finished (cachedStatus dependency (world.successAt dependency))
              else readLive service dependency (world.successAt dependency) now))))
          else none
  | .probed id dependency succeeded now =>
      match world.checks id with
      | none => none
      | some check =>
          match check.progress dependency with
          | .probing start =>
              some (world.setCheck id (some (check.advance dependency
                (probedProgress dependency succeeded start now))))
          | _ => none
  | .writeCache id dependency _ =>
      match world.checks id with
      | none => none
      | some check =>
          match check.progress dependency with
          | .writing succeededAt latencyMs =>
              some { world.setCheck id (some (check.advance dependency
                (.finished (.healthy (some latencyMs))))) with
                successAt := Function.update world.successAt dependency (some succeededAt) }
          | _ => none
  | .respond id usable _ =>
      match world.checks id with
      | none => none
      | some check =>
          match check.progress .database, check.progress .upstream with
          | .finished database, .finished upstream =>
              some { world.setCheck id none with
                responses := world.responses ++
                  [(id, assemble service check.drained world.draining usable database upstream)] }
          | _, _ => none
  | .drop id _ => some (world.setCheck id none)

/-- Each event reads a clock that is monotone. -/
def step (service : HealthService) (world : World) (event : Event) : Option World :=
  if world.clock ≤ event.now then
    (world.act service event).map fun next => { next with clock := event.now }
  else none

end World

/-- The checks of a service form an event system. -/
def readinessSystem (service : HealthService) : EventSystem World Event := ⟨World.step service⟩

end Opmux.Health
