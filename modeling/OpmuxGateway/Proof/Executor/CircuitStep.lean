import OpmuxGateway.Construction.Executor.CircuitWorld
import OpmuxGateway.Library.Breaker

/-
This file reduces every registry operation to one step of its target's circuit.
-/

namespace Opmux.Circuit
open Breaker (Role Verdict)

/-- A closed permit is a normal ticket, and a probe permit is a probe ticket. -/
def PermitKind.role : PermitKind → Role
  | .closed => .normal
  | .probe => .probe

def CompletionOutcome.verdict : CompletionOutcome → Verdict
  | .success => .success
  | .transientFailure => .transient
  | .permanent => .permanent

/-- An event acts on the circuit of its own target. -/
def Event.action : Event → Breaker.Action Instant UInt64
  | .admission _ now _ => .admission now
  | .settle permit outcome now => .settle permit.kind.role permit.generation outcome.verdict now
  | .drop permit => .abandon permit.kind.role permit.generation

namespace CircuitState

/-- A circuit gives its probe to the next caller when no caller owns it and no cooldown runs. -/
def Probing (state : CircuitState) (now : Instant) : Prop :=
  match state.phase with
  | .closed _ => False
  | .opened openedUntil => openedUntil ≤ now
  | .halfOpen inFlight => inFlight = false

instance (state : CircuitState) (now : Instant) : Decidable (state.Probing now) := by
  unfold Probing
  split <;> infer_instance

/-- One action on a circuit, with the threshold and the cooldown of its registry. -/
def act (threshold : UInt32) (cooldown : Duration) (state : CircuitState) :
    Breaker.Action Instant UInt64 → CircuitState
  | .admission now =>
      if state.Probing now then ⟨state.generation + 1, .halfOpen true⟩ else state
  | .settle role generation verdict now =>
      if state.generation = generation then
        match role, state.phase, verdict with
        | .normal, .closed _, .success => { state with phase := .closed 0 }
        | .normal, .closed failures, .transient =>
            if threshold ≤ saturatingAdd failures 1 then
              ⟨state.generation + 1, .opened (now + cooldown)⟩
            else { state with phase := .closed (saturatingAdd failures 1) }
        | .probe, .halfOpen _, .success
        | .probe, .halfOpen _, .permanent => ⟨state.generation + 1, .closed 0⟩
        | .probe, .halfOpen _, .transient => ⟨state.generation + 1, .opened (now + cooldown)⟩
        | _, _, _ => state
      else state
  | .abandon role generation =>
      match role, state.phase with
      | .probe, .halfOpen _ =>
          if state.generation = generation then { state with phase := .halfOpen false } else state
      | _, _ => state

end CircuitState

/-- A rejection has no permit. -/
theorem CircuitAdmission.IsReject.permits {admission : CircuitAdmission}
    (rejected : admission.IsReject) :
    admission.permits = [] := by
  cases admission with
  | reject retryAfterMs => rfl
  | allow permit => exact rejected.elim
  | probe permit => exact rejected.elim

namespace TargetCircuitRegistry

/-- Two registries of one configuration share the threshold and the cooldown. -/
def SamePolicy (first second : TargetCircuitRegistry) : Prop :=
  first.threshold = second.threshold ∧ first.cooldown = second.cooldown

theorem SamePolicy.trans {first second third : TargetCircuitRegistry}
    (left : first.SamePolicy second) (right : second.SamePolicy third) :
    first.SamePolicy third :=
  ⟨left.1.trans right.1, left.2.trans right.2⟩

/-- Admission gives the probe exactly in a probing circuit and allows exactly in a closed one. -/
theorem admit_admission (registry : TargetCircuitRegistry) (targetId : String)
    (now later : Instant) (state : CircuitState)
    (entry : (registry.inner targetId).getD default = state) :
    (state.Probing now ∧ (registry.admitTarget targetId now later).1 =
      .probe (probePermit targetId (state.generation + 1))) ∨
    (¬ state.Probing now ∧ (∃ failures, state.phase = .closed failures) ∧
      (registry.admitTarget targetId now later).1 = .allow (closedPermit targetId state.generation)) ∨
    (¬ state.Probing now ∧ (∀ failures, state.phase ≠ .closed failures) ∧
      (registry.admitTarget targetId now later).1.IsReject) := by
  unfold admitTarget
  rw [entry]
  obtain ⟨generation, phase⟩ := state
  cases phase with
  | closed failures =>
      right; left
      simp [CircuitState.Probing]
  | opened openedUntil =>
      by_cases waiting : now < openedUntil
      · right; right
        simp [CircuitState.Probing, waiting, CircuitAdmission.IsReject]
      · left
        simp [CircuitState.Probing, waiting, startProbe, Nat.le_of_not_lt waiting]
  | halfOpen inFlight =>
      cases inFlight with
      | false =>
          left
          simp [CircuitState.Probing, startProbe]
      | true =>
          right; right
          simp [CircuitState.Probing, CircuitAdmission.IsReject]

/-- An admitted permit is unsettled and belongs to the requested target. -/
theorem admit_permits (registry : TargetCircuitRegistry) (targetId : String)
    (now later : Instant) (permit : CircuitPermit)
    (issued : permit ∈ (registry.admitTarget targetId now later).1.permits) :
    permit.targetId = targetId ∧ permit.settled = false := by
  rcases registry.admit_admission targetId now later _ rfl with
    ⟨_, same⟩ | ⟨_, _, same⟩ | ⟨_, _, rejected⟩
  · rw [same, CircuitAdmission.permits, List.mem_singleton] at issued
    simp [issued, probePermit]
  · rw [same, CircuitAdmission.permits, List.mem_singleton] at issued
    simp [issued, closedPermit]
  · simp [rejected.permits] at issued

/-- Admission writes only the circuit of its target. -/
theorem admit_inner (registry : TargetCircuitRegistry) (targetId : String)
    (now later : Instant) :
    (registry.admitTarget targetId now later).2.inner =
        Function.update registry.inner targetId
          (some (((registry.inner targetId).getD default).act registry.threshold
            registry.cooldown (.admission now))) ∧
      (registry.admitTarget targetId now later).2.SamePolicy registry := by
  generalize entry : (registry.inner targetId).getD default = state
  unfold admitTarget
  rw [entry]
  obtain ⟨generation, phase⟩ := state
  cases phase with
  | closed failures => simp [CircuitState.act, CircuitState.Probing, insert, SamePolicy]
  | opened openedUntil =>
      by_cases waiting : now < openedUntil
      · simp [CircuitState.act, CircuitState.Probing, insert, SamePolicy, waiting,
          Nat.not_le.mpr waiting]
      · simp [CircuitState.act, CircuitState.Probing, insert, SamePolicy, waiting, startProbe,
          recordCircuitTransition, Nat.le_of_not_lt waiting]
  | halfOpen inFlight =>
      cases inFlight <;>
        simp [CircuitState.act, CircuitState.Probing, insert, SamePolicy, startProbe,
          recordCircuitTransition]

/-- A completion writes only the circuit of its target. -/
theorem complete_inner (registry : TargetCircuitRegistry) (targetId : String)
    (generation : UInt64) (kind : PermitKind) (outcome : CompletionOutcome) (now : Instant)
    (state : CircuitState) (known : registry.inner targetId = some state) :
    (registry.complete targetId generation kind outcome now).inner =
        Function.update registry.inner targetId
          (some (state.act registry.threshold registry.cooldown
            (.settle kind.role generation outcome.verdict now))) ∧
      (registry.complete targetId generation kind outcome now).SamePolicy registry := by
  have same : Function.update registry.inner targetId (some state) = registry.inner := by
    rw [← known, Function.update_eq_self]
  obtain ⟨current, phase⟩ := state
  by_cases stale : current = generation
  · subst stale
    cases kind <;> cases phase <;> cases outcome <;>
      simp [complete, known, CircuitState.act, PermitKind.role, CompletionOutcome.verdict, insert,
        closeCircuit, setOpen, recordCircuitTransition, SamePolicy, same]
    split <;> simp
  · simp [complete, known, CircuitState.act, stale, SamePolicy, same]

/-- A release writes only the circuit of its target. -/
theorem releaseProbe_inner (registry : TargetCircuitRegistry) (targetId : String)
    (generation : UInt64) (state : CircuitState) (known : registry.inner targetId = some state) :
    (registry.releaseProbe targetId generation).inner =
        Function.update registry.inner targetId
          (some (state.act registry.threshold registry.cooldown (.abandon .probe generation))) ∧
      (registry.releaseProbe targetId generation).SamePolicy registry := by
  have same : Function.update registry.inner targetId (some state) = registry.inner := by
    rw [← known, Function.update_eq_self]
  obtain ⟨current, phase⟩ := state
  by_cases stale : current = generation <;> cases phase <;>
    simp [releaseProbe, known, CircuitState.act, stale, insert, SamePolicy, same]

end TargetCircuitRegistry

/-- Every outstanding permit is unsettled and belongs to a stored circuit. -/
structure Accounted (world : World) : Prop where
  known : ∀ permit ∈ world.permits, ∃ state, world.registry.inner permit.targetId = some state
  unsettled : ∀ permit ∈ world.permits, permit.settled = false

/-- A settled permit writes the action of its settlement. -/
theorem settleWith_inner (permit : CircuitPermit) (outcome : CompletionOutcome)
    (registry : TargetCircuitRegistry) (now : Instant) (unsettled : permit.settled = false)
    (state : CircuitState) (known : registry.inner permit.targetId = some state) :
    (permit.settleWith outcome registry now).inner =
        Function.update registry.inner permit.targetId
          (some (state.act registry.threshold registry.cooldown
            (.settle permit.kind.role permit.generation outcome.verdict now))) ∧
      (permit.settleWith outcome registry now).SamePolicy registry := by
  have completed : permit.settleWith outcome registry now =
      registry.complete permit.targetId permit.generation permit.kind outcome now := by
    cases outcome <;>
      simp [CircuitPermit.settleWith, CircuitPermit.success, CircuitPermit.transientFailure,
        CircuitPermit.ignorePermanent, CircuitPermit.finish, CircuitPermit.settle,
        CircuitPermit.drop, unsettled]
  rw [completed]
  exact registry.complete_inner permit.targetId permit.generation permit.kind outcome now state known

/-- A dropped permit writes the action of its abandonment. -/
theorem drop_inner (permit : CircuitPermit) (registry : TargetCircuitRegistry)
    (unsettled : permit.settled = false) (state : CircuitState)
    (known : registry.inner permit.targetId = some state) :
    (permit.drop registry).inner =
        Function.update registry.inner permit.targetId
          (some (state.act registry.threshold registry.cooldown
            (.abandon permit.kind.role permit.generation))) ∧
      (permit.drop registry).SamePolicy registry := by
  have same : Function.update registry.inner permit.targetId (some state) = registry.inner := by
    rw [← known, Function.update_eq_self]
  cases kind : permit.kind with
  | closed =>
      simp [CircuitPermit.drop, kind, PermitKind.role, CircuitState.act,
        TargetCircuitRegistry.SamePolicy, same]
  | probe =>
      simpa [CircuitPermit.drop, unsettled, kind, PermitKind.role] using
        registry.releaseProbe_inner permit.targetId permit.generation state known

/-- An accepted admission adds its permits. -/
theorem step_admit {world next : World} {targetId : String} {now later : Instant}
    (stepped : world.step (.admission targetId now later) = some next) :
    (world.clock ≤ now ∧ now ≤ later) ∧
      next = ⟨(world.registry.admitTarget targetId now later).2, later,
        world.permits ++ (world.registry.admitTarget targetId now later).1.permits⟩ := by
  simp only [World.step] at stepped
  split at stepped
  · rename_i enabled
    cases stepped
    exact ⟨enabled, rfl⟩
  · cases stepped

/-- An accepted settlement consumes its outstanding permit. -/
theorem step_settle {world next : World} {permit : CircuitPermit} {outcome : CompletionOutcome}
    {now : Instant} (stepped : world.step (.settle permit outcome now) = some next) :
    (permit ∈ world.permits ∧ world.clock ≤ now) ∧
      next = ⟨permit.settleWith outcome world.registry now, now, world.permits.erase permit⟩ := by
  simp only [World.step] at stepped
  split at stepped
  · rename_i enabled
    cases stepped
    exact ⟨enabled, rfl⟩
  · cases stepped

/-- An accepted drop consumes its outstanding permit. -/
theorem step_drop {world next : World} {permit : CircuitPermit}
    (stepped : world.step (.drop permit) = some next) :
    permit ∈ world.permits ∧
      next = ⟨permit.drop world.registry, world.clock, world.permits.erase permit⟩ := by
  simp only [World.step] at stepped
  split at stepped
  · rename_i enabled
    cases stepped
    exact ⟨enabled, rfl⟩
  · cases stepped

/-- Each accepted event writes exactly its action to the circuit of its target. -/
theorem step_inner {world next : World} {event : Event} (accounted : Accounted world)
    (stepped : world.step event = some next) :
    next.registry.inner =
        Function.update world.registry.inner event.target
          (some ((world.circuit event.target).act world.registry.threshold
            world.registry.cooldown event.action)) ∧
      next.registry.SamePolicy world.registry := by
  cases event with
  | admission targetId now later =>
      obtain ⟨_, rfl⟩ := step_admit stepped
      exact world.registry.admit_inner targetId now later
  | settle permit outcome now =>
      obtain ⟨⟨member, _⟩, rfl⟩ := step_settle stepped
      obtain ⟨state, known⟩ := accounted.known permit member
      simpa only [Event.target, World.circuit, known, Option.getD_some, Event.action] using
        settleWith_inner permit outcome world.registry now
          (accounted.unsettled permit member) state known
  | drop permit =>
      obtain ⟨member, rfl⟩ := step_drop stepped
      obtain ⟨state, known⟩ := accounted.known permit member
      simpa only [Event.target, World.circuit, known, Option.getD_some, Event.action] using
        drop_inner permit world.registry (accounted.unsettled permit member) state known

/-- An event changes the circuit of its own target by its action. -/
theorem step_circuit_own {world next : World} {event : Event} (accounted : Accounted world)
    (stepped : world.step event = some next) :
    next.circuit event.target =
      (world.circuit event.target).act world.registry.threshold world.registry.cooldown
        event.action := by
  simp [World.circuit, (step_inner accounted stepped).1]

/-- An event leaves the stored circuit of every other target. -/
theorem step_inner_other {world next : World} {event : Event} (accounted : Accounted world)
    (stepped : world.step event = some next) {targetId : String}
    (other : targetId ≠ event.target) :
    next.registry.inner targetId = world.registry.inner targetId := by
  rw [(step_inner accounted stepped).1, Function.update_of_ne other]

/-- An accepted event keeps every permit accounted. -/
theorem step_accounted {world next : World} {event : Event} (accounted : Accounted world)
    (stepped : world.step event = some next) : Accounted next := by
  have stored : ∀ targetId, (targetId = event.target ∨
      ∃ state, world.registry.inner targetId = some state) →
      ∃ state, next.registry.inner targetId = some state := by
    intro targetId reason
    by_cases own : targetId = event.target
    · subst own
      exact ⟨_, by rw [(step_inner accounted stepped).1, Function.update_self]⟩
    · rw [step_inner_other accounted stepped own]
      exact reason.resolve_left own
  have owned : ∀ permit ∈ next.permits, permit ∈ world.permits ∨
      (permit.targetId = event.target ∧ permit.settled = false) := by
    cases event with
    | admission targetId now later =>
        obtain ⟨_, rfl⟩ := step_admit stepped
        intro permit member
        rcases List.mem_append.mp member with old | new
        · exact .inl old
        · exact .inr (world.registry.admit_permits targetId now later permit new)
    | settle permit outcome now =>
        obtain ⟨_, rfl⟩ := step_settle stepped
        exact fun other member => .inl (List.mem_of_mem_erase member)
    | drop permit =>
        obtain ⟨_, rfl⟩ := step_drop stepped
        exact fun other member => .inl (List.mem_of_mem_erase member)
  constructor
  · intro permit member
    rcases owned permit member with old | ⟨own, _⟩
    · exact stored _ (.inr (accounted.known permit old))
    · exact stored _ (.inl own)
  · intro permit member
    rcases owned permit member with old | ⟨_, fresh⟩
    · exact accounted.unsettled permit old
    · exact fresh

/-- The initial world has no permit. -/
theorem initial_accounted (circuitFailureThreshold : UInt32) (circuitCooldownMs : Nat)
    (start : Instant) :
    Accounted (World.initial circuitFailureThreshold circuitCooldownMs start) :=
  ⟨by simp [World.initial], by simp [World.initial]⟩

/-- Every reachable world accounts for its permits. -/
theorem reached_accounted {world final : World} {events : List Event} (start : Accounted world)
    (reached : circuitSystem.run world events = some final) : Accounted final :=
  circuitSystem.run_invariant Accounted (fun _ _ _ accounted => step_accounted accounted) start
    reached

/-- Every reachable world keeps the threshold and the cooldown of its first registry. -/
theorem reached_policy {world final : World} {events : List Event} (start : Accounted world)
    (reached : circuitSystem.run world events = some final) :
    final.registry.SamePolicy world.registry := by
  have kept : Accounted final ∧ final.registry.SamePolicy world.registry := by
    apply circuitSystem.run_invariant
      (fun state => Accounted state ∧ state.registry.SamePolicy world.registry)
      ?_ ⟨start, rfl, rfl⟩ reached
    rintro state event next ⟨accounted, same⟩ stepped
    exact ⟨step_accounted accounted stepped, (step_inner accounted stepped).2.trans same⟩
  exact kept.2

end Opmux.Circuit
