import OpmuxGateway.Proof.Executor.CircuitStep

namespace Opmux.Circuit
open TargetCircuitRegistry

/-- The outstanding probe permits of a target, with any generation. -/
def World.probePermits (world : World) (targetId : String) : List CircuitPermit :=
  world.permits.filter fun permit => permit.targetId = targetId ∧ permit.kind = .probe

/-- A circuit has one probe permit exactly while a probe is in flight. -/
def CircuitState.ownedProbes (targetId : String) (state : CircuitState) : List CircuitPermit :=
  match state.phase with
  | .halfOpen true => [probePermit targetId state.generation]
  | _ => []

/-- The outstanding probe permits are exactly the owners of the half-open circuits. -/
structure Ownership (world : World) : Prop where
  accounted : Accounted world
  probes : ∀ targetId, world.probePermits targetId = (world.circuit targetId).ownedProbes targetId

/-- A normal ticket never changes the probe owner. -/
theorem ownedProbes_settle_normal (targetId : String) (state : CircuitState) (threshold : UInt32)
    (cooldown : Duration) (generation : UInt64) (outcome : CompletionOutcome) (now : Instant) :
    (state.act threshold cooldown (.settle .normal generation outcome.verdict now)).ownedProbes
      targetId = state.ownedProbes targetId := by
  obtain ⟨current, phase⟩ := state
  by_cases same : current = generation
  · subst same
    cases phase with
    | closed failures =>
        by_cases full : threshold ≤ saturatingAdd failures 1 <;> cases outcome <;>
          simp [CircuitState.act, CircuitState.ownedProbes, CompletionOutcome.verdict, full]
    | opened openedUntil =>
        simp [CircuitState.act]
    | halfOpen inFlight =>
        simp [CircuitState.act]
  · simp [CircuitState.act, same]

/-- The settlement of the owning probe ends its ownership. -/
theorem ownedProbes_settle_probe (targetId : String) (state : CircuitState) (threshold : UInt32)
    (cooldown : Duration) (outcome : CompletionOutcome) (now : Instant)
    (half : state.phase = .halfOpen true) :
    (state.act threshold cooldown
      (.settle .probe state.generation outcome.verdict now)).ownedProbes targetId = [] := by
  cases outcome <;>
    simp [CircuitState.act, CircuitState.ownedProbes, CompletionOutcome.verdict, half]

/-- The drop of the owning probe ends its ownership. -/
theorem ownedProbes_abandon_probe (targetId : String) (state : CircuitState) (threshold : UInt32)
    (cooldown : Duration) (half : state.phase = .halfOpen true) :
    (state.act threshold cooldown (.abandon .probe state.generation)).ownedProbes targetId = [] := by
  simp [CircuitState.act, CircuitState.ownedProbes, half]

/-- A probing circuit has no owner before the admission. -/
theorem ownedProbes_probing (targetId : String) (state : CircuitState) (now : Instant)
    (probing : state.Probing now) : state.ownedProbes targetId = [] := by
  obtain ⟨generation, phase⟩ := state
  cases phase with
  | closed failures => rfl
  | opened openedUntil => rfl
  | halfOpen inFlight =>
      change inFlight = false at probing
      subst probing
      rfl

/-- An outstanding probe permit owns the half-open phase of its target. -/
theorem Ownership.owner {world : World} (ownership : Ownership world) {permit : CircuitPermit}
    (member : permit ∈ world.permits) (probe : permit.kind = .probe) :
    (world.circuit permit.targetId).phase = .halfOpen true ∧
      permit = probePermit permit.targetId (world.circuit permit.targetId).generation := by
  have filtered : permit ∈ world.probePermits permit.targetId := by
    simp [World.probePermits, member, probe]
  rw [ownership.probes] at filtered
  unfold CircuitState.ownedProbes at filtered
  split at filtered
  · rename_i half
    exact ⟨half, by simpa using filtered⟩
  · simp at filtered

/-- The probe permits of a target change only through that target's probe permits. -/
theorem probePermits_erase (world : World) (registry : TargetCircuitRegistry) (clock : Instant)
    (permit : CircuitPermit) (targetId : String) :
    World.probePermits ⟨registry, clock, world.permits.erase permit⟩ targetId =
      (world.probePermits targetId).erase permit := by
  simp [World.probePermits, List.erase_filter]

/-- A consumed permit leaves the ownership of every circuit correct. -/
theorem erase_ownership {world : World} (ownership : Ownership world) {permit : CircuitPermit}
    (member : permit ∈ world.permits) (registry : TargetCircuitRegistry) (clock : Instant)
    (next : CircuitState)
    (written : registry.inner =
      Function.update world.registry.inner permit.targetId (some next))
    (normal : permit.kind = .closed → next.ownedProbes permit.targetId =
      (world.circuit permit.targetId).ownedProbes permit.targetId)
    (probe : permit.kind = .probe → next.ownedProbes permit.targetId = []) (targetId : String) :
    World.probePermits ⟨registry, clock, world.permits.erase permit⟩ targetId =
      (World.circuit ⟨registry, clock, world.permits.erase permit⟩ targetId).ownedProbes
        targetId := by
  rw [probePermits_erase, ownership.probes]
  by_cases own : targetId = permit.targetId
  · subst own
    simp only [World.circuit, written, Function.update_self, Option.getD_some]
    cases kind : permit.kind with
    | closed =>
        rw [normal kind]
        apply List.erase_of_not_mem
        rw [show (world.registry.inner permit.targetId).getD default =
          world.circuit permit.targetId from rfl, ← ownership.probes]
        simp [World.probePermits, kind]
    | probe =>
        obtain ⟨half, same⟩ := ownership.owner member kind
        rw [probe kind, show (world.registry.inner permit.targetId).getD default =
          world.circuit permit.targetId from rfl, CircuitState.ownedProbes, half]
        simp [← same]
  · have circuit : World.circuit ⟨registry, clock, world.permits.erase permit⟩ targetId =
        world.circuit targetId := by
      simp [World.circuit, written, Function.update_of_ne own]
    rw [circuit]
    apply List.erase_of_not_mem
    rw [← ownership.probes]
    simp [World.probePermits, Ne.symm own]

/-- One event keeps the probe permits and the half-open phases in agreement. -/
theorem step_ownership {world next : World} {event : Event} (ownership : Ownership world)
    (stepped : world.step event = some next) : Ownership next := by
  refine ⟨step_accounted ownership.accounted stepped, ?_⟩
  obtain ⟨written, _⟩ := step_inner ownership.accounted stepped
  cases event with
  | admission targetId now later =>
      intro other
      obtain ⟨_, rfl⟩ := step_admit stepped
      have before := ownership.probes other
      simp only [World.probePermits, List.filter_append] at before ⊢
      rw [before]
      by_cases own : other = targetId
      · subst own
        rw [World.circuit, World.circuit, written]
        simp only [Event.target, Function.update_self, Option.getD_some, Event.action]
        rcases world.registry.admit_admission other now later _ rfl with
          ⟨probing, same⟩ | ⟨steady, _, same⟩ | ⟨steady, _, rejected⟩
        · rw [ownedProbes_probing other _ now probing]
          simp [CircuitState.act, World.circuit, probing, same, CircuitAdmission.permits,
            probePermit, CircuitState.ownedProbes]
        · simp [CircuitState.act, World.circuit, steady, same, CircuitAdmission.permits,
            closedPermit]
        · simp [CircuitState.act, World.circuit, steady, rejected.permits]
      · have foreign : (world.registry.admitTarget targetId now later).1.permits.filter
            (fun permit => permit.targetId = other ∧ permit.kind = .probe) = [] := by
          rw [List.filter_eq_nil_iff]
          intro permit issued
          have target := (world.registry.admit_permits targetId now later permit issued).1
          simp [target, Ne.symm own]
        have stored := step_inner_other ownership.accounted stepped own
        rw [foreign, List.append_nil]
        simp only [World.circuit] at stored ⊢
        rw [stored]
  | settle permit outcome now =>
      obtain ⟨⟨member, _⟩, rfl⟩ := step_settle stepped
      apply erase_ownership ownership member _ _ _ written
      · intro kind
        simp only [Event.action, kind, PermitKind.role, Event.target]
        exact ownedProbes_settle_normal _ _ _ _ _ _ _
      · intro kind
        obtain ⟨half, same⟩ := ownership.owner member kind
        have generation := congrArg CircuitPermit.generation same
        simp only [Event.action, kind, PermitKind.role, Event.target]
        rw [generation]
        exact ownedProbes_settle_probe _ _ _ _ _ _ half
  | drop permit =>
      obtain ⟨member, rfl⟩ := step_drop stepped
      apply erase_ownership ownership member _ _ _ written
      · intro kind
        simp only [Event.action, kind, PermitKind.role, CircuitState.act, Event.target]
      · intro kind
        obtain ⟨half, same⟩ := ownership.owner member kind
        have generation := congrArg CircuitPermit.generation same
        simp only [Event.action, kind, PermitKind.role, Event.target]
        rw [generation]
        exact ownedProbes_abandon_probe _ _ _ _ half

/-- The initial world has no probe. -/
theorem initial_ownership (circuitFailureThreshold : UInt32) (circuitCooldownMs : Nat)
    (start : Instant) :
    Ownership (World.initial circuitFailureThreshold circuitCooldownMs start) where
  accounted := initial_accounted _ _ _
  probes _ := rfl

/-- Every reachable world keeps the probe permits and the half-open phases in agreement. -/
theorem reached_ownership {world final : World} {events : List Event} (start : Ownership world)
    (reached : circuitSystem.run world events = some final) : Ownership final :=
  circuitSystem.run_invariant Ownership (fun _ _ _ ownership => step_ownership ownership) start
    reached

/-- Every outstanding probe permit carries the current generation. -/
theorem Ownership.currentProbes {world : World} (ownership : Ownership world)
    (targetId : String) :
    world.currentProbes targetId = (world.circuit targetId).ownedProbes targetId := by
  have narrowed : world.currentProbes targetId =
      (world.probePermits targetId).filter fun permit =>
        permit.settled = false ∧ permit.generation = (world.circuit targetId).generation := by
    rw [World.currentProbes, World.probePermits, List.filter_filter]
    congr 1
    funext permit
    by_cases own : permit.targetId = targetId <;> by_cases kind : permit.kind = .probe <;>
      simp [own, kind]
  rw [narrowed, ownership.probes]
  unfold CircuitState.ownedProbes
  split <;> simp [probePermit]

/-- The owners of a circuit are one exactly while its probe is in flight. -/
theorem ownedProbes_length (targetId : String) (state : CircuitState) :
    (state.phase = .halfOpen true ↔ (state.ownedProbes targetId).length = 1) ∧
      (state.ownedProbes targetId).length ≤ 1 := by
  unfold CircuitState.ownedProbes
  split
  · rename_i half
    simp [half]
  · rename_i other
    simpa using other

/-- An admission is rejected while a probe is in flight. -/
theorem admit_inFlight (registry : TargetCircuitRegistry) (targetId : String)
    (now later : Instant)
    (half : ((registry.inner targetId).getD default).phase = .halfOpen true) :
    (registry.admitTarget targetId now later).1.IsReject := by
  rcases registry.admit_admission targetId now later _ rfl with
    ⟨probing, _⟩ | ⟨_, ⟨failures, closed⟩, _⟩ | ⟨_, _, rejected⟩
  · simp [CircuitState.Probing, half] at probing
  · cases half.symm.trans closed
  · exact rejected

/-- An admission is not rejected when no cooldown runs and no probe is in flight. -/
theorem admit_available (registry : TargetCircuitRegistry) (targetId : String)
    (now later : Instant)
    (idle : ((registry.inner targetId).getD default).phase ≠ .halfOpen true)
    (cooled : ∀ openedUntil, ((registry.inner targetId).getD default).phase = .opened openedUntil →
      openedUntil ≤ now) :
    ¬ (registry.admitTarget targetId now later).1.IsReject := by
  rcases registry.admit_admission targetId now later _ rfl with
    ⟨_, same⟩ | ⟨_, _, same⟩ | ⟨steady, unclosed, _⟩
  · simp [same, CircuitAdmission.IsReject]
  · simp [same, CircuitAdmission.IsReject]
  · exfalso
    apply steady
    unfold CircuitState.Probing
    cases phase : ((registry.inner targetId).getD default).phase with
    | closed failures => exact unclosed failures phase
    | opened openedUntil => exact cooled openedUntil phase
    | halfOpen inFlight => simpa [phase] using idle

/-- No interleaving loses the probe of a target, duplicates it, or locks the target out. -/
theorem reached_probe_ownership (circuitFailureThreshold : UInt32) (circuitCooldownMs : Nat)
    (start : Instant) (events : List Event) (world : World) (targetId : String)
    (reached : circuitSystem.run
      (World.initial circuitFailureThreshold circuitCooldownMs start) events = some world) :
    ((world.circuit targetId).phase = .halfOpen true ↔
        (world.currentProbes targetId).length = 1) ∧
      (world.currentProbes targetId).length ≤ 1 ∧
      ((world.currentProbes targetId).length = 1 → ∀ now later,
        (world.registry.admitTarget targetId now later).1.IsReject) ∧
      ((world.currentProbes targetId).length = 0 → ∀ now later,
        (∀ openedUntil, circuitSystem.latest (World.openedUntil targetId)
          (World.initial circuitFailureThreshold circuitCooldownMs start) events =
            some openedUntil → openedUntil ≤ now) →
        ¬ (world.registry.admitTarget targetId now later).1.IsReject) := by
  have ownership := reached_ownership (initial_ownership _ _ _) reached
  rw [ownership.currentProbes]
  obtain ⟨owned, bounded⟩ := ownedProbes_length targetId (world.circuit targetId)
  refine ⟨owned, bounded, ?_, ?_⟩
  · intro one now later
    exact admit_inFlight world.registry targetId now later (owned.mpr one)
  · intro empty now later cooled
    apply admit_available
    · intro half
      have one := owned.mp half
      omega
    · intro openedUntil opened
      apply cooled
      apply circuitSystem.latest_final reached
      rw [World.openedUntil, World.circuit, opened]

/-- A failed call opens the target, and the cooled-down target gives one probe. -/
def probeHistory : List Event :=
  [.admission "a" 0 0, .settle (closedPermit "a" 0) .transientFailure 0,
    .admission "a" 1000000 1000000]

theorem reached_probe_ownership_example :
    ∃ world, circuitSystem.run (World.initial 1 1 0) probeHistory = some world ∧
      (world.currentProbes "a").length = 1 ∧
      (world.registry.admitTarget "a" 1000001 1000001).1.IsReject := by
  have finished : (circuitSystem.run (World.initial 1 1 0) probeHistory).map
      (fun world => (world.circuit "a").phase) = some (.halfOpen true) := by decide
  obtain ⟨world, reached, half⟩ := Option.map_eq_some_iff.mp finished
  obtain ⟨owned, _, rejects, _⟩ := reached_probe_ownership 1 1 0 probeHistory world "a" reached
  have one := owned.mp half
  exact ⟨world, reached, one, rejects one 1000001 1000001⟩

end Opmux.Circuit
