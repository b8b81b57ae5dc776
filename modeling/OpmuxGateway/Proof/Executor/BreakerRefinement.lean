import Mathlib
import OpmuxGateway.Proof.Executor.CircuitStep

namespace Opmux.Circuit
open Breaker (failuresSinceSuccess)
open TargetCircuitRegistry (closedPermit)

/-- The breaker of a registry opens at its threshold and cools down for its cooldown. -/
def breakerPolicy (threshold : UInt32) (cooldown : Duration) : Breaker.Policy Instant UInt64 where
  limit := threshold.toNat
  reopen now := now + cooldown
  next generation := generation + 1

/-- Every target starts closed in generation zero. -/
def initialBreaker : Breaker.State Instant UInt64 := ⟨0, .closed []⟩

/-- The failure counter equals the failures in the history, and the other phases agree. -/
def CircuitPhase.Represents (limit : Nat) : CircuitPhase → Breaker.Phase Instant → Prop
  | .closed failures, .closed history =>
      failures.toNat = failuresSinceSuccess history ∧ failuresSinceSuccess history < limit
  | .opened openedUntil, .opened reopenAt => openedUntil = reopenAt
  | .halfOpen inFlight, .halfOpen owned => inFlight = owned
  | _, _ => False

/-- A circuit represents a breaker of the same generation in the same phase. -/
structure CircuitState.Represents (limit : Nat) (state : CircuitState)
    (breaker : Breaker.State Instant UInt64) : Prop where
  generation : state.generation = breaker.generation
  phase : state.phase.Represents limit breaker.phase

/-- The counter reaches its threshold exactly with the failure that reaches the limit. -/
theorem threshold_reached {failures threshold : UInt32}
    (below : failures.toNat < threshold.toNat) :
    threshold ≤ saturatingAdd failures 1 ↔ failures.toNat + 1 = threshold.toNat := by
  rw [UInt32.le_iff_toNat_le, saturatingAdd_one below]
  omega

/-- A normal settlement moves a closed circuit as it moves the recorded history. -/
theorem settle_closed_represents {threshold : UInt32} {cooldown : Duration}
    {generation : UInt64} {failures : UInt32} {history : List Breaker.Verdict}
    (counted : failures.toNat = failuresSinceSuccess history)
    (below : failuresSinceSuccess history < threshold.toNat) (verdict : Breaker.Verdict)
    (now : Instant) :
    (CircuitState.act threshold cooldown ⟨generation, .closed failures⟩
      (.settle .normal generation verdict now)).Represents threshold.toNat
      (Breaker.State.recordVerdict (breakerPolicy threshold cooldown)
        ⟨generation, .closed history⟩ history verdict now) := by
  have under : failures.toNat < threshold.toNat := by omega
  have reaches := threshold_reached under
  cases verdict with
  | success =>
      simp only [CircuitState.act, if_true, Breaker.State.recordVerdict, reduceCtorEq, false_and,
        if_false]
      refine ⟨rfl, ?_, ?_⟩
      · simp
      · simp only [Breaker.failuresSinceSuccess_success]
        omega
  | transient =>
      simp only [CircuitState.act, if_true, Breaker.State.recordVerdict, true_and,
        Breaker.failuresSinceSuccess_transient, breakerPolicy]
      by_cases full : threshold ≤ saturatingAdd failures 1
      · have limit := reaches.mp full
        rw [if_pos full, if_pos (by omega)]
        exact ⟨rfl, rfl⟩
      · have limit := mt reaches.mpr full
        rw [if_neg full, if_neg (by omega)]
        refine ⟨rfl, ?_, ?_⟩
        · rw [saturatingAdd_one under, Breaker.failuresSinceSuccess_transient]
          omega
        · rw [Breaker.failuresSinceSuccess_transient]
          omega
  | permanent =>
      simp only [CircuitState.act, if_true, Breaker.State.recordVerdict, reduceCtorEq, false_and,
        if_false]
      exact ⟨rfl, by simpa using counted, by simpa using below⟩

variable {threshold : UInt32} {cooldown : Duration} {generation : UInt64}

/-- A closed circuit moves as its closed breaker does. -/
theorem act_closed_represents {failures : UInt32} {history : List Breaker.Verdict}
    (counted : failures.toNat = failuresSinceSuccess history)
    (below : failuresSinceSuccess history < threshold.toNat)
    (action : Breaker.Action Instant UInt64) :
    (CircuitState.act threshold cooldown ⟨generation, .closed failures⟩ action).Represents
      threshold.toNat
      (Breaker.step (breakerPolicy threshold cooldown) ⟨generation, .closed history⟩ action) := by
  have unchanged : CircuitState.Represents threshold.toNat ⟨generation, .closed failures⟩
      ⟨generation, .closed history⟩ := ⟨rfl, counted, below⟩
  cases action with
  | admission now =>
      simpa [CircuitState.act, CircuitState.Probing, Breaker.step, Breaker.State.decide] using
        unchanged
  | settle role current verdict now =>
      by_cases own : current = generation
      · subst own
        cases role with
        | normal =>
            simpa only [Breaker.step, if_true] using
              settle_closed_represents counted below verdict now
        | probe => simpa [CircuitState.act, Breaker.step] using unchanged
      · simpa only [CircuitState.act, Breaker.step, own, Ne.symm own, if_false] using unchanged
  | abandon role current =>
      cases role <;> simpa [CircuitState.act, Breaker.step] using unchanged

/-- An open circuit moves as its open breaker does. -/
theorem act_opened_represents {openedUntil : Instant} (action : Breaker.Action Instant UInt64) :
    (CircuitState.act threshold cooldown ⟨generation, .opened openedUntil⟩ action).Represents
      threshold.toNat
      (Breaker.step (breakerPolicy threshold cooldown) ⟨generation, .opened openedUntil⟩
        action) := by
  have unchanged : CircuitState.Represents threshold.toNat ⟨generation, .opened openedUntil⟩
      ⟨generation, .opened openedUntil⟩ := ⟨rfl, rfl⟩
  cases action with
  | admission now =>
      by_cases cooled : openedUntil ≤ now
      · have probing : CircuitState.Represents threshold.toNat ⟨generation + 1, .halfOpen true⟩
            ⟨generation + 1, .halfOpen true⟩ := ⟨rfl, rfl⟩
        simpa [CircuitState.act, CircuitState.Probing, Breaker.step, Breaker.State.decide, cooled,
          Nat.not_lt.mpr cooled, Breaker.State.probing, breakerPolicy] using probing
      · simpa [CircuitState.act, CircuitState.Probing, Breaker.step, Breaker.State.decide, cooled,
          Nat.lt_of_not_le cooled] using unchanged
  | settle role current verdict now =>
      cases role <;> simpa [CircuitState.act, Breaker.step] using unchanged
  | abandon role current =>
      cases role <;> simpa [CircuitState.act, Breaker.step] using unchanged

/-- A half-open circuit moves as its half-open breaker does. -/
theorem act_halfOpen_represents (positive : 0 < threshold.toNat) {inFlight : Bool}
    (action : Breaker.Action Instant UInt64) :
    (CircuitState.act threshold cooldown ⟨generation, .halfOpen inFlight⟩ action).Represents
      threshold.toNat
      (Breaker.step (breakerPolicy threshold cooldown) ⟨generation, .halfOpen inFlight⟩
        action) := by
  have half : ∀ generation inFlight, CircuitState.Represents threshold.toNat
      ⟨generation, .halfOpen inFlight⟩ ⟨generation, .halfOpen inFlight⟩ :=
    fun _ _ => ⟨rfl, rfl⟩
  have closing : CircuitState.Represents threshold.toNat ⟨generation + 1, .closed 0⟩
      ⟨generation + 1, .closed []⟩ := ⟨rfl, rfl, positive⟩
  have opening : ∀ reopenAt, CircuitState.Represents threshold.toNat
      ⟨generation + 1, .opened reopenAt⟩ ⟨generation + 1, .opened reopenAt⟩ :=
    fun _ => ⟨rfl, rfl⟩
  cases action with
  | admission now =>
      cases inFlight with
      | false => exact half (generation + 1) true
      | true => exact half generation true
  | settle role current verdict now =>
      by_cases own : current = generation
      · subst own
        cases role with
        | normal => simpa [CircuitState.act, Breaker.step] using half current inFlight
        | probe =>
            cases verdict with
            | success =>
                simpa [CircuitState.act, Breaker.step, Breaker.State.closing,
                  breakerPolicy] using closing
            | transient =>
                simpa [CircuitState.act, Breaker.step, Breaker.State.opening, breakerPolicy] using
                  opening (now + cooldown)
            | permanent =>
                simpa [CircuitState.act, Breaker.step, Breaker.State.closing,
                  breakerPolicy] using closing
      · simpa [CircuitState.act, Breaker.step, own, Ne.symm own] using half generation inFlight
  | abandon role current =>
      by_cases own : current = generation
      · subst own
        cases role with
        | normal => simpa [CircuitState.act, Breaker.step] using half current inFlight
        | probe => simpa [CircuitState.act, Breaker.step] using half current false
      · cases role <;>
          simpa [CircuitState.act, Breaker.step, own, Ne.symm own] using half generation inFlight

/-- Each action moves a circuit as it moves the breaker that the circuit represents. -/
theorem act_represents (positive : 0 < threshold.toNat) {state : CircuitState}
    {breaker : Breaker.State Instant UInt64} (same : state.Represents threshold.toNat breaker)
    (action : Breaker.Action Instant UInt64) :
    (state.act threshold cooldown action).Represents threshold.toNat
      (Breaker.step (breakerPolicy threshold cooldown) breaker action) := by
  obtain ⟨generation, phase⟩ := state
  obtain ⟨_, abstract⟩ := breaker
  obtain ⟨rfl, matched⟩ := same
  cases phase with
  | closed failures =>
      cases abstract with
      | closed history => exact act_closed_represents matched.1 matched.2 action
      | opened reopenAt => exact matched.elim
      | halfOpen owned => exact matched.elim
  | opened openedUntil =>
      cases abstract with
      | closed history => exact matched.elim
      | opened reopenAt =>
          obtain rfl : openedUntil = reopenAt := matched
          exact act_opened_represents action
      | halfOpen owned => exact matched.elim
  | halfOpen inFlight =>
      cases abstract with
      | closed history => exact matched.elim
      | opened reopenAt => exact matched.elim
      | halfOpen owned =>
          obtain rfl : inFlight = owned := matched
          exact act_halfOpen_represents positive action

/-- Each admission answers as the breaker decides. -/
def CircuitAdmission.decision : CircuitAdmission → Breaker.Decision
  | .allow _ => .allow
  | .reject _ => .reject
  | .probe _ => .probe

theorem admit_decision {registry : TargetCircuitRegistry} {targetId : String} {limit : Nat}
    {breaker : Breaker.State Instant UInt64}
    (same : ((registry.inner targetId).getD default).Represents limit breaker)
    (now later : Instant) :
    (registry.admitTarget targetId now later).1.decision = breaker.decide now := by
  unfold TargetCircuitRegistry.admitTarget
  generalize (registry.inner targetId).getD default = state at same
  obtain ⟨generation, phase⟩ := state
  obtain ⟨_, abstract⟩ := breaker
  obtain ⟨rfl, matched⟩ := same
  cases phase with
  | closed failures =>
      cases abstract with
      | closed history => rfl
      | opened reopenAt => exact matched.elim
      | halfOpen owned => exact matched.elim
  | opened openedUntil =>
      cases abstract with
      | closed history => exact matched.elim
      | opened reopenAt =>
          obtain rfl : openedUntil = reopenAt := matched
          by_cases waiting : now < openedUntil <;>
            simp [Breaker.State.decide, waiting, CircuitAdmission.decision]
      | halfOpen owned => exact matched.elim
  | halfOpen inFlight =>
      cases abstract with
      | closed history => exact matched.elim
      | opened reopenAt => exact matched.elim
      | halfOpen owned =>
          obtain rfl : inFlight = owned := matched
          cases inFlight <;> rfl

/-- The actions of one target are the projection of a run. -/
def Event.actionOf (targetId : String) (event : Event) : Option (Breaker.Action Instant UInt64) :=
  if event.target = targetId then some event.action else none

/-- The world keeps its policy and represents the breaker of one target. -/
structure Refines (targetId : String) (threshold : UInt32) (cooldown : Duration) (world : World)
    (breaker : Breaker.State Instant UInt64) : Prop where
  accounted : Accounted world
  policy : world.registry.threshold = threshold ∧ world.registry.cooldown = cooldown
  circuit : (world.circuit targetId).Represents threshold.toNat breaker

/-- One event moves the breaker of its own target and keeps every other breaker. -/
theorem step_refines (positive : 0 < threshold.toNat) {targetId : String} {world next : World}
    {event : Event} {breaker : Breaker.State Instant UInt64}
    (refines : Refines targetId threshold cooldown world breaker)
    (stepped : world.step event = some next) :
    Refines targetId threshold cooldown next ((event.actionOf targetId).elim breaker
      (Breaker.step (breakerPolicy threshold cooldown) breaker)) := by
  obtain ⟨accounted, ⟨sameThreshold, sameCooldown⟩, circuit⟩ := refines
  have policy := (step_inner accounted stepped).2
  refine ⟨step_accounted accounted stepped,
    ⟨policy.1.trans sameThreshold, policy.2.trans sameCooldown⟩, ?_⟩
  by_cases own : event.target = targetId
  · subst own
    rw [Event.actionOf, if_pos rfl, Option.elim_some, step_circuit_own accounted stepped,
      sameThreshold, sameCooldown]
    exact act_represents positive circuit event.action
  · have stored := step_inner_other accounted stepped (Ne.symm own)
    rw [Event.actionOf, if_neg own, Option.elim_none]
    simpa only [World.circuit, stored] using circuit

/-- The breaker of one target after a run of the whole registry. -/
def breakerOf (circuitFailureThreshold : UInt32) (circuitCooldownMs : Nat) (targetId : String)
    (events : List Event) : Breaker.State Instant UInt64 :=
  Breaker.run
    (breakerPolicy (max circuitFailureThreshold 1) (Duration.fromMillis circuitCooldownMs))
    initialBreaker (events.filterMap (Event.actionOf targetId))

/-- Every reachable world represents the breaker of every target. -/
theorem reached_refines {circuitFailureThreshold : UInt32} {circuitCooldownMs : Nat}
    {start : Instant} {events : List Event} {world : World} (targetId : String)
    (reached : circuitSystem.run
      (World.initial circuitFailureThreshold circuitCooldownMs start) events = some world) :
    Refines targetId (max circuitFailureThreshold 1) (Duration.fromMillis circuitCooldownMs) world
      (breakerOf circuitFailureThreshold circuitCooldownMs targetId events) := by
  have positive : 0 < (max circuitFailureThreshold 1).toNat := by
    rw [max_one_toNat]
    omega
  apply circuitSystem.run_simulates _ _ (fun _ _ _ _ => step_refines positive) _ reached
  exact ⟨initial_accounted _ _ _, ⟨rfl, rfl⟩, rfl, rfl, positive⟩

/-- The phases of a represented breaker agree with the phases of its circuit. -/
theorem CircuitState.Represents.opened_iff {limit : Nat} {state : CircuitState}
    {breaker : Breaker.State Instant UInt64} (same : state.Represents limit breaker) :
    (∃ openedUntil, state.phase = .opened openedUntil) ↔
      ∃ reopenAt, breaker.phase = .opened reopenAt := by
  obtain ⟨_, phase⟩ := state
  obtain ⟨_, abstract⟩ := breaker
  have matched := same.phase
  cases phase <;> cases abstract <;> simp_all [CircuitPhase.Represents]

theorem CircuitState.Represents.closed_iff {limit : Nat} {state : CircuitState}
    {breaker : Breaker.State Instant UInt64} (same : state.Represents limit breaker) :
    (∃ failures, state.phase = .closed failures) ↔
      ∃ history, breaker.phase = .closed history := by
  obtain ⟨_, phase⟩ := state
  obtain ⟨_, abstract⟩ := breaker
  have matched := same.phase
  cases phase <;> cases abstract <;> simp_all [CircuitPhase.Represents]

/-- A settlement of the current generation is the settlement of one current permit. -/
theorem action_settle_iff (kind : PermitKind) (outcome : CompletionOutcome) {event : Event}
    {generation : UInt64} {now : Instant} :
    event.action = .settle kind.role generation outcome.verdict now ↔
      ∃ permit, event = .settle permit outcome now ∧ permit.kind = kind ∧
        permit.generation = generation := by
  cases event with
  | admission targetId now later => simp [Event.action]
  | settle permit actual time =>
      obtain ⟨targetId, current, role, settled⟩ := permit
      cases role <;> cases kind <;> cases actual <;> cases outcome <;>
        simp [Event.action, PermitKind.role, CompletionOutcome.verdict, and_comm]
  | drop permit => simp [Event.action]

/-- A permanent error and a dropped closed permit leave every circuit as it was. -/
theorem step_closed_ignored {world next : World} {event : Event} (accounted : Accounted world)
    (stepped : world.step event = some next) {permit : CircuitPermit}
    (kind : permit.kind = .closed)
    (ignored : (∃ now, event = .settle permit .permanent now) ∨ event = .drop permit)
    (targetId : String) : next.circuit targetId = world.circuit targetId := by
  by_cases own : targetId = event.target
  · subst own
    rw [step_circuit_own accounted stepped]
    rcases ignored with ⟨now, rfl⟩ | rfl
    · simp [CircuitState.act, Event.action, kind, PermitKind.role, CompletionOutcome.verdict]
    · simp [CircuitState.act, Event.action, kind, PermitKind.role]
  · simp only [World.circuit, step_inner_other accounted stepped own]

/-- A closed target opens exactly at the failure that completes its limit. -/
theorem step_opens_iff {world next : World} {event : Event} {limit : Nat}
    {breaker moved : Breaker.State Instant UInt64} {policy : Breaker.Policy Instant UInt64}
    (circuit : (world.circuit event.target).Represents limit breaker)
    (after : (next.circuit event.target).Represents limit moved)
    (stepped : moved = Breaker.step policy breaker event.action) {history : List Breaker.Verdict}
    (closed : breaker.phase = .closed history) :
    (∃ openedUntil, (next.circuit event.target).phase = .opened openedUntil) ↔
      ∃ permit now, event = .settle permit .transientFailure now ∧ permit.kind = .closed ∧
        permit.generation = (world.circuit event.target).generation ∧
        failuresSinceSuccess (history ++ [.transient]) = policy.limit := by
  subst stepped
  rw [after.opened_iff, Breaker.opens_iff _ _ _ closed, ← circuit.generation]
  constructor
  · rintro ⟨now, settled, full⟩
    obtain ⟨permit, same, kind, current⟩ := (action_settle_iff .closed .transientFailure).mp settled
    exact ⟨permit, now, same, kind, current, full⟩
  · rintro ⟨permit, now, same, kind, current, full⟩
    exact ⟨now, (action_settle_iff .closed .transientFailure).mpr ⟨permit, same, kind, current⟩,
      full⟩

/-- A half-open circuit represents a half-open breaker. -/
theorem CircuitState.Represents.halfOpen {limit : Nat} {state : CircuitState}
    {breaker : Breaker.State Instant UInt64} (same : state.Represents limit breaker)
    {inFlight : Bool} (half : state.phase = .halfOpen inFlight) :
    ∃ owned, breaker.phase = .halfOpen owned := by
  have matched := same.phase
  rw [half] at matched
  cases abstract : breaker.phase with
  | closed verdicts => simp [abstract, CircuitPhase.Represents] at matched
  | opened reopenAt => simp [abstract, CircuitPhase.Represents] at matched
  | halfOpen owned => exact ⟨owned, rfl⟩

/-- A half-open target closes exactly at the success or the permanent error of its probe. -/
theorem step_closes_iff {world next : World} {event : Event} {limit : Nat}
    {breaker moved : Breaker.State Instant UInt64} {policy : Breaker.Policy Instant UInt64}
    (circuit : (world.circuit event.target).Represents limit breaker)
    (after : (next.circuit event.target).Represents limit moved)
    (stepped : moved = Breaker.step policy breaker event.action) {inFlight : Bool}
    (half : (world.circuit event.target).phase = .halfOpen inFlight) :
    (∃ failures, (next.circuit event.target).phase = .closed failures) ↔
      ∃ permit outcome now, event = .settle permit outcome now ∧ permit.kind = .probe ∧
        permit.generation = (world.circuit event.target).generation ∧
        outcome ≠ .transientFailure := by
  subst stepped
  obtain ⟨owned, halfOpen⟩ := circuit.halfOpen half
  rw [after.closed_iff, Breaker.closes_iff _ _ _ halfOpen, ← circuit.generation]
  constructor
  · rintro ⟨verdict, now, settled, final⟩
    obtain ⟨outcome, rfl⟩ : ∃ outcome : CompletionOutcome, outcome.verdict = verdict := by
      cases verdict with
      | success => exact ⟨.success, rfl⟩
      | transient => exact ⟨.transientFailure, rfl⟩
      | permanent => exact ⟨.permanent, rfl⟩
    obtain ⟨permit, same, kind, current⟩ := (action_settle_iff .probe outcome).mp settled
    refine ⟨permit, outcome, now, same, kind, current, ?_⟩
    intro failed
    subst failed
    exact final rfl
  · rintro ⟨permit, outcome, now, same, kind, current, final⟩
    refine ⟨outcome.verdict, now,
      (action_settle_iff .probe outcome).mpr ⟨permit, same, kind, current⟩, ?_⟩
    cases outcome <;> simp_all [CompletionOutcome.verdict]

/-- A half-open target opens again exactly at the transient failure of its probe. -/
theorem step_reopens_iff {world next : World} {event : Event} {limit : Nat}
    {breaker moved : Breaker.State Instant UInt64} {policy : Breaker.Policy Instant UInt64}
    (circuit : (world.circuit event.target).Represents limit breaker)
    (after : (next.circuit event.target).Represents limit moved)
    (stepped : moved = Breaker.step policy breaker event.action) {inFlight : Bool}
    (half : (world.circuit event.target).phase = .halfOpen inFlight) :
    (∃ openedUntil, (next.circuit event.target).phase = .opened openedUntil) ↔
      ∃ permit now, event = .settle permit .transientFailure now ∧ permit.kind = .probe ∧
        permit.generation = (world.circuit event.target).generation := by
  subst stepped
  obtain ⟨owned, halfOpen⟩ := circuit.halfOpen half
  rw [after.opened_iff, Breaker.reopens_iff _ _ _ halfOpen, ← circuit.generation]
  constructor
  · rintro ⟨now, settled⟩
    obtain ⟨permit, same, kind, current⟩ := (action_settle_iff .probe .transientFailure).mp settled
    exact ⟨permit, now, same, kind, current⟩
  · rintro ⟨permit, now, same, kind, current⟩
    exact ⟨now, (action_settle_iff .probe .transientFailure).mpr ⟨permit, same, kind, current⟩⟩

/-- The registry refines one breaker for each target in every interleaving. -/
theorem reached_breaker (circuitFailureThreshold : UInt32) (circuitCooldownMs : Nat)
    (start : Instant) (events : List Event) (world : World) (targetId : String)
    (reached : circuitSystem.run
      (World.initial circuitFailureThreshold circuitCooldownMs start) events = some world) :
    (world.circuit targetId).Represents (max 1 circuitFailureThreshold.toNat)
        (breakerOf circuitFailureThreshold circuitCooldownMs targetId events) ∧
      (∀ now later, (world.registry.admitTarget targetId now later).1.decision =
        (breakerOf circuitFailureThreshold circuitCooldownMs targetId events).decide now) ∧
      ∀ event next, circuitSystem.step world event = some next →
        (event.target ≠ targetId →
          next.registry.inner targetId = world.registry.inner targetId) ∧
        (event.target = targetId →
          (∀ history, (breakerOf circuitFailureThreshold circuitCooldownMs targetId
              events).phase = .closed history →
            ((∃ openedUntil, (next.circuit targetId).phase = .opened openedUntil) ↔
              ∃ permit now, event = .settle permit .transientFailure now ∧
                permit.kind = .closed ∧
                permit.generation = (world.circuit targetId).generation ∧
                failuresSinceSuccess (history ++ [.transient]) =
                  max 1 circuitFailureThreshold.toNat)) ∧
          ∀ inFlight, (world.circuit targetId).phase = .halfOpen inFlight →
            ((∃ failures, (next.circuit targetId).phase = .closed failures) ↔
              ∃ permit outcome now, event = .settle permit outcome now ∧
                permit.kind = .probe ∧
                permit.generation = (world.circuit targetId).generation ∧
                outcome ≠ .transientFailure) ∧
            ((∃ openedUntil, (next.circuit targetId).phase = .opened openedUntil) ↔
              ∃ permit now, event = .settle permit .transientFailure now ∧
                permit.kind = .probe ∧
                permit.generation = (world.circuit targetId).generation)) ∧
        ∀ permit, permit.kind = .closed →
          (∃ now, event = .settle permit .permanent now) ∨ event = .drop permit →
            next.circuit targetId = world.circuit targetId := by
  have refines := reached_refines targetId reached
  have circuit := refines.circuit
  have limit := max_one_toNat circuitFailureThreshold
  have positive : 0 < (max circuitFailureThreshold 1).toNat := by
    rw [limit]
    omega
  refine ⟨limit ▸ circuit, fun now later => admit_decision circuit now later, ?_⟩
  intro event next stepped
  refine ⟨fun other => step_inner_other refines.accounted stepped (Ne.symm other), ?_, ?_⟩
  · intro own
    subst own
    have moved := (step_refines positive refines stepped).circuit
    rw [Event.actionOf, if_pos rfl, Option.elim_some] at moved
    refine ⟨?_, ?_⟩
    · intro history closed
      have opens := step_opens_iff circuit moved rfl closed
      rwa [breakerPolicy, limit] at opens
    · intro inFlight half
      exact ⟨step_closes_iff circuit moved rfl half, step_reopens_iff circuit moved rfl half⟩
  · intro permit kind ignored
    exact step_closed_ignored refines.accounted stepped kind ignored targetId

theorem reached_breaker_example :
    ∃ world, circuitSystem.run (World.initial 2 1 0) [.admission "a" 0 0, .admission "a" 0 0,
        .settle (closedPermit "a" 0) .transientFailure 0] = some world ∧
      (world.registry.admitTarget "a" 0 0).1.decision = .allow ∧
      ∃ next, circuitSystem.step world (.settle (closedPermit "a" 0) .transientFailure 1) =
          some next ∧
        (∃ openedUntil, (next.circuit "a").phase = .opened openedUntil) ∧
        next.registry.inner "b" = world.registry.inner "b" := by
  have finished : (circuitSystem.run (World.initial 2 1 0) [.admission "a" 0 0, .admission "a" 0 0,
      .settle (closedPermit "a" 0) .transientFailure 0]).bind (fun world =>
        (circuitSystem.step world (.settle (closedPermit "a" 0) .transientFailure 1)).map
          fun _ => (world.circuit "a").generation) = some 0 := by decide
  obtain ⟨world, reached, rest⟩ := Option.bind_eq_some_iff.mp finished
  obtain ⟨next, stepped, generation⟩ := Option.map_eq_some_iff.mp rest
  obtain ⟨_, decides, moves⟩ := reached_breaker 2 1 0 _ world "a" reached
  obtain ⟨_, _, others⟩ := reached_breaker 2 1 0 _ world "b" reached
  refine ⟨world, reached, ?_, next, stepped, ?_, ?_⟩
  · rw [decides]
    decide
  · apply (((moves _ next stepped).2.1 rfl).1 [.transient] (by decide)).mpr
    exact ⟨_, _, rfl, rfl, generation.symm, by decide⟩
  · exact (others _ next stepped).1 (by decide)

end Opmux.Circuit
