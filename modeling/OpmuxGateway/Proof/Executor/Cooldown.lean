import OpmuxGateway.Proof.Executor.CircuitStep

namespace Opmux.Circuit
open TargetCircuitRegistry

/-- A settlement and an admission read the clock, and a drop does not. -/
def Event.instant : Event → Option Instant
  | .admission _ now _ => some now
  | .settle _ _ now => some now
  | .drop _ => none

/-- An open circuit changes only through an admission after its cooldown. -/
theorem act_opened (threshold : UInt32) (cooldown : Duration) (generation : UInt64)
    (openedUntil : Instant) (action : Breaker.Action Instant UInt64) :
    CircuitState.act threshold cooldown ⟨generation, .opened openedUntil⟩ action =
        ⟨generation, .opened openedUntil⟩ ∨
      ∃ now, action = .admission now ∧ openedUntil ≤ now := by
  cases action with
  | admission now =>
      by_cases cooled : openedUntil ≤ now
      · exact .inr ⟨now, rfl, cooled⟩
      · left
        simp [CircuitState.act, CircuitState.Probing, cooled]
  | settle role current verdict now =>
      left
      by_cases same : generation = current <;> cases role <;> simp [CircuitState.act, same]
  | abandon role current =>
      left
      cases role <;> simp [CircuitState.act]

/-- A circuit opens only at a settlement, for exactly one cooldown. -/
theorem act_opens (threshold : UInt32) (cooldown : Duration) (state : CircuitState)
    (openedUntil : Instant) (action : Breaker.Action Instant UInt64)
    (before : ∀ earlier, state.phase ≠ .opened earlier)
    (after : (state.act threshold cooldown action).phase = .opened openedUntil) :
    ∃ role generation verdict now, action = .settle role generation verdict now ∧
      openedUntil = now + cooldown := by
  obtain ⟨generation, phase⟩ := state
  cases action with
  | admission now =>
      simp only [CircuitState.act] at after
      split at after
      · cases after
      · exact absurd after (before openedUntil)
  | settle role current verdict now =>
      refine ⟨role, current, verdict, now, rfl, ?_⟩
      by_cases same : generation = current
      · cases phase with
        | closed failures =>
            by_cases full : threshold ≤ saturatingAdd failures 1 <;> cases role <;>
              cases verdict <;> simp [CircuitState.act, same, full] at after
            exact after.symm
        | opened earlier => exact absurd rfl (before earlier)
        | halfOpen inFlight =>
            cases role <;> cases verdict <;> simp [CircuitState.act, same] at after
            exact after.symm
      · simp only [CircuitState.act, same, if_false] at after
        exact absurd after (before openedUntil)
  | abandon role current =>
      cases phase with
      | closed failures => cases role <;> simp [CircuitState.act] at after
      | opened earlier => exact absurd rfl (before earlier)
      | halfOpen inFlight =>
          by_cases same : generation = current <;> cases role <;>
            simp [CircuitState.act, same] at after

/-- The world shows the end of a cooldown exactly in the open phase. -/
theorem World.openedUntil_eq_some {world : World} {targetId : String} {openedUntil : Instant} :
    world.openedUntil targetId = some openedUntil ↔
      (world.circuit targetId).phase = .opened openedUntil := by
  unfold World.openedUntil
  cases (world.circuit targetId).phase <;> simp

/-- The clock of the world never goes back. -/
theorem step_clock {world next : World} {event : Event}
    (stepped : world.step event = some next) :
    world.clock ≤ next.clock ∧ ∀ now, event.instant = some now → now ≤ next.clock := by
  cases event with
  | admission targetId now later =>
      obtain ⟨⟨monotone, ordered⟩, rfl⟩ := step_admit stepped
      refine ⟨Nat.le_trans monotone ordered, ?_⟩
      rintro _ ⟨⟩
      exact ordered
  | settle permit outcome now =>
      obtain ⟨⟨_, monotone⟩, rfl⟩ := step_settle stepped
      refine ⟨monotone, ?_⟩
      rintro _ ⟨⟩
      exact Nat.le_refl _
  | drop permit =>
      obtain ⟨_, rfl⟩ := step_drop stepped
      refine ⟨Nat.le_refl _, ?_⟩
      rintro _ ⟨⟩

/-- A cooling target stays open until its cooldown ends. -/
structure Cooling (targetId : String) (openedUntil : Instant) (world : World) : Prop where
  accounted : Accounted world
  held : (world.circuit targetId).phase = .opened openedUntil ∨ openedUntil ≤ world.clock

/-- One event keeps a cooling target open or shows that the cooldown is over. -/
theorem step_cooling {targetId : String} {openedUntil : Instant} {world next : World}
    {event : Event} (cooling : Cooling targetId openedUntil world)
    (stepped : world.step event = some next) : Cooling targetId openedUntil next := by
  obtain ⟨monotone, read⟩ := step_clock stepped
  refine ⟨step_accounted cooling.accounted stepped, ?_⟩
  rcases cooling.held with opened | cooled
  · by_cases own : targetId = event.target
    · subst own
      rw [step_circuit_own cooling.accounted stepped]
      generalize world.circuit event.target = state at opened
      obtain ⟨generation, phase⟩ := state
      change phase = _ at opened
      subst opened
      rcases act_opened world.registry.threshold world.registry.cooldown generation openedUntil
        event.action with same | ⟨now, admitted, passed⟩
      · exact .inl (congrArg CircuitState.phase same)
      · right
        apply Nat.le_trans passed
        apply read now
        cases event <;> simp_all [Event.action, Event.instant]
    · left
      have stored := step_inner_other cooling.accounted stepped own
      simp only [World.circuit] at opened ⊢
      rw [stored]
      exact opened
  · exact .inr (Nat.le_trans cooled monotone)

/-- An admission before the end of a cooldown is rejected. -/
theorem Cooling.rejects {targetId : String} {openedUntil : Instant} {world : World}
    (cooling : Cooling targetId openedUntil world) (now later : Instant)
    (current : world.clock ≤ now) (early : now < openedUntil) :
    (world.registry.admitTarget targetId now later).1.IsReject := by
  have opened := cooling.held.resolve_right (by lia)
  rcases world.registry.admit_admission targetId now later _ rfl with
    ⟨probing, _⟩ | ⟨_, ⟨failures, closed⟩, _⟩ | ⟨_, _, rejected⟩
  · change (world.circuit targetId).Probing now at probing
    simp only [CircuitState.Probing, opened] at probing
    lia
  · cases opened.symm.trans closed
  · exact rejected

/-- A step that opens a target is a settlement, and the target then cools down. -/
theorem step_opening {targetId : String} {openedUntil : Instant} {world next : World}
    {event : Event} (accounted : Accounted world) (stepped : world.step event = some next)
    (before : world.openedUntil targetId = none)
    (after : next.openedUntil targetId = some openedUntil) :
    (∃ now, event.instant = some now ∧ openedUntil = now + world.registry.cooldown) ∧
      Cooling targetId openedUntil next := by
  have opened := World.openedUntil_eq_some.mp after
  have unopened : ∀ earlier, (world.circuit targetId).phase ≠ .opened earlier := by
    intro earlier phase
    rw [World.openedUntil_eq_some.mpr phase] at before
    cases before
  refine ⟨?_, step_accounted accounted stepped, .inl opened⟩
  by_cases own : targetId = event.target
  · subst own
    rw [step_circuit_own accounted stepped] at opened
    obtain ⟨role, generation, verdict, now, settled, same⟩ :=
      act_opens _ _ _ _ _ unopened opened
    refine ⟨now, ?_, same⟩
    cases event <;> simp_all [Event.action, Event.instant]
  · have stored := step_inner_other accounted stepped own
    simp only [World.circuit, stored] at opened
    exact absurd opened (unopened openedUntil)

/-- A permit of another generation changes nothing when it is settled or dropped. -/
theorem stale_permit_noop (registry : TargetCircuitRegistry) (permit : CircuitPermit)
    (outcome : CompletionOutcome) (now : Instant)
    (stale : permit.generation ≠
      ((registry.inner permit.targetId).getD default).generation) :
    permit.settleWith outcome registry now = registry ∧ permit.drop registry = registry := by
  have released : registry.releaseProbe permit.targetId permit.generation = registry := by
    unfold releaseProbe
    cases known : registry.inner permit.targetId with
    | none => rfl
    | some state => simp [Ne.symm (by simpa [known] using stale)]
  have completed : registry.complete permit.targetId permit.generation permit.kind outcome now =
      registry := by
    unfold complete
    cases known : registry.inner permit.targetId with
    | none => rfl
    | some state => simp [Ne.symm (by simpa [known] using stale)]
  have dropped : permit.drop registry = registry := by
    simp [CircuitPermit.drop, released]
  refine ⟨?_, dropped⟩
  cases settled : permit.settled <;> cases outcome <;>
    simp [CircuitPermit.settleWith, CircuitPermit.success, CircuitPermit.transientFailure,
      CircuitPermit.ignorePermanent, CircuitPermit.finish, CircuitPermit.settle, settled,
      completed, CircuitPermit.drop]

/-- No late completion shortens a cooldown, and no stale permit changes its circuit. -/
theorem opened_target_cools_down (circuitFailureThreshold : UInt32) (circuitCooldownMs : Nat)
    (start : Instant) (events : List Event) (world : World)
    (reached : circuitSystem.run
      (World.initial circuitFailureThreshold circuitCooldownMs start) events = some world) :
    (∀ opening opened targetId openedUntil,
      circuitSystem.step world opening = some opened →
      world.openedUntil targetId = none → opened.openedUntil targetId = some openedUntil →
        ∃ time, opening.instant = some time ∧
          openedUntil = time + Duration.fromMillis circuitCooldownMs ∧
          ∀ between final, circuitSystem.run opened between = some final →
            ∀ now later, final.clock ≤ now →
              now < time + Duration.fromMillis circuitCooldownMs →
              (final.registry.admitTarget targetId now later).1.IsReject) ∧
      ∀ (permit : CircuitPermit) (outcome : CompletionOutcome) (now : Instant),
        permit.generation ≠ (world.circuit permit.targetId).generation →
          permit.settleWith outcome world.registry now = world.registry ∧
            permit.drop world.registry = world.registry := by
  have accounted := reached_accounted (initial_accounted _ _ _) reached
  have policy := reached_policy (initial_accounted _ _ _) reached
  constructor
  · intro opening opened targetId openedUntil stepped before after
    obtain ⟨⟨time, read, cooled⟩, cooling⟩ := step_opening accounted stepped before after
    rw [policy.2] at cooled
    refine ⟨time, read, cooled, ?_⟩
    intro between final continued now later current early
    have kept : Cooling targetId openedUntil final :=
      circuitSystem.run_invariant _ (fun _ _ _ holds => step_cooling holds) cooling continued
    apply kept.rejects now later current
    rw [cooled]
    exact early
  · intro permit outcome now stale
    exact stale_permit_noop world.registry permit outcome now stale

/-- Two calls start while the target is closed, and the first one opens the target. -/
theorem opened_target_cools_down_example :
    ∃ world opened, circuitSystem.run (World.initial 1 5 0) [.admission "a" 0 0, .admission "a" 0 0] =
        some world ∧
      circuitSystem.step world (.settle (closedPermit "a" 0) .transientFailure 3) = some opened ∧
      ∃ final, circuitSystem.run opened [.settle (closedPermit "a" 0) .success 4] = some final ∧
        (final.registry.admitTarget "a" 5000002 5000002).1.IsReject ∧
        (closedPermit "b" 7).drop world.registry = world.registry := by
  have finished : (circuitSystem.run (World.initial 1 5 0)
      [.admission "a" 0 0, .admission "a" 0 0]).bind (fun world =>
        (circuitSystem.step world (.settle (closedPermit "a" 0) .transientFailure 3)).bind
          fun opened =>
            (circuitSystem.run opened [.settle (closedPermit "a" 0) .success 4]).map fun final =>
              (world.openedUntil "a", opened.openedUntil "a", final.clock,
                (world.circuit "b").generation)) =
      some (none, some 5000003, 4, 0) := by decide
  obtain ⟨world, reached, rest⟩ := Option.bind_eq_some_iff.mp finished
  obtain ⟨opened, stepped, rest⟩ := Option.bind_eq_some_iff.mp rest
  obtain ⟨final, continued, values⟩ := Option.map_eq_some_iff.mp rest
  simp only [Prod.mk.injEq] at values
  obtain ⟨before, after, clock, generation⟩ := values
  obtain ⟨cools, stale⟩ := opened_target_cools_down 1 5 0 _ world reached
  obtain ⟨time, read, _, rejects⟩ := cools _ opened "a" _ stepped before after
  cases read
  refine ⟨world, opened, reached, stepped, final, continued, ?_, ?_⟩
  · apply rejects _ final continued 5000002 5000002
    · rw [clock]
      decide
    · decide
  · apply (stale (closedPermit "b" 7) .success 0 ?_).2
    change (7 : UInt64) ≠ (world.circuit "b").generation
    rw [generation]
    decide

end Opmux.Circuit
