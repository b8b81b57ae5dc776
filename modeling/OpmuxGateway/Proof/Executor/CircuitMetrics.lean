import OpmuxGateway.Construction.Executor.CircuitWorld

/-
This file proves that the recorded circuit states follow the phases of their targets.
-/

namespace Opmux.Circuit

/-- The label of a phase does not show its counters, its instants, or its owner. -/
def CircuitPhase.label : CircuitPhase → CircuitStateLabel
  | .closed _ => .closed
  | .opened _ => .opened
  | .halfOpen _ => .halfOpen

/-- The registry has one operation for an admission and two operations for a permit. -/
inductive Operation where
  | admission (targetId : String) (now later : Instant)
  | complete (targetId : String) (generation : UInt64) (kind : PermitKind)
      (outcome : CompletionOutcome) (now : Instant)
  | releaseProbe (targetId : String) (generation : UInt64)
  deriving DecidableEq, Repr

def Operation.target : Operation → String
  | .admission targetId _ _ | .complete targetId _ _ _ _ | .releaseProbe targetId _ => targetId

namespace TargetCircuitRegistry

def apply (registry : TargetCircuitRegistry) : Operation → TargetCircuitRegistry
  | .admission targetId now later => (registry.admitTarget targetId now later).2
  | .complete targetId generation kind outcome now =>
      registry.complete targetId generation kind outcome now
  | .releaseProbe targetId generation => registry.releaseProbe targetId generation

/-- The phase of a target, which is closed before its first admission. -/
def phase (registry : TargetCircuitRegistry) (targetId : String) : CircuitPhase :=
  ((registry.inner targetId).getD default).phase

/-- The states that the metrics have recorded for a target, oldest first. -/
def recorded (registry : TargetCircuitRegistry) (targetId : String) : List CircuitStateLabel :=
  (registry.transitions.filter fun entry => entry.1 = targetId).map Prod.snd

/-- The gauge of a target shows its last recorded state, and it starts closed. -/
def gauge (registry : TargetCircuitRegistry) (targetId : String) : CircuitStateLabel :=
  (registry.recorded targetId).getLast?.getD .closed

/-- An admission restarts the released probe of a half-open target. -/
def Restarts (registry : TargetCircuitRegistry) (targetId : String) (operation : Operation) :
    Prop :=
  (∃ now later, operation = .admission targetId now later) ∧
    registry.phase targetId = .halfOpen false

/-- An operation moves a target when it changes its label or restarts its probe. -/
def Moves (registry : TargetCircuitRegistry) (targetId : String) (operation : Operation) : Prop :=
  ((registry.apply operation).phase targetId).label ≠ (registry.phase targetId).label ∨
    registry.Restarts targetId operation

section Writes

variable (registry : TargetCircuitRegistry) (targetId : String) (state : CircuitState)

theorem phase_insert (other : String) :
    (registry.insert targetId state).phase other =
      if other = targetId then state.phase else registry.phase other := by
  by_cases own : other = targetId
  · subst own
    simp [phase, insert]
  · simp [phase, insert, own]

@[simp] theorem phase_record (label : CircuitStateLabel) (other : String) :
    (registry.recordCircuitTransition targetId label).phase other = registry.phase other := rfl

@[simp] theorem transitions_insert :
    (registry.insert targetId state).transitions = registry.transitions := rfl

@[simp] theorem transitions_record (label : CircuitStateLabel) :
    (registry.recordCircuitTransition targetId label).transitions =
      registry.transitions ++ [(targetId, label)] := rfl

/-- The last write of a target replaces the earlier one. -/
@[simp] theorem insert_insert (earlier : CircuitState) :
    (registry.insert targetId earlier).insert targetId state = registry.insert targetId state := by
  simp [insert]

end Writes

/-- A silent operation keeps every label and restarts no probe. -/
def Silent (registry : TargetCircuitRegistry) (operation : Operation) : Prop :=
  (registry.apply operation).transitions = registry.transitions ∧
    (∀ targetId, ((registry.apply operation).phase targetId).label =
      (registry.phase targetId).label) ∧
    ¬registry.Restarts operation.target operation

/-- A recording operation moves its own target and records the label that it gives. -/
def Records (registry : TargetCircuitRegistry) (operation : Operation) : Prop :=
  (registry.apply operation).transitions = registry.transitions ++
    [(operation.target, ((registry.apply operation).phase operation.target).label)] ∧
    registry.Moves operation.target operation ∧
    ∀ targetId, targetId ≠ operation.target →
      (registry.apply operation).phase targetId = registry.phase targetId

/-- A write of the same label is silent. -/
theorem silent_of_insert {registry : TargetCircuitRegistry} {operation : Operation}
    {state : CircuitState}
    (written : registry.apply operation = registry.insert operation.target state)
    (same : state.phase.label = (registry.phase operation.target).label)
    (fresh : ¬registry.Restarts operation.target operation) : registry.Silent operation := by
  refine ⟨by rw [written]; rfl, fun targetId => ?_, fresh⟩
  rw [written, phase_insert]
  split
  · rename_i own
    rw [own, same]
  · rfl

/-- A recorded write of a new label, or of a restarted probe, records. -/
theorem records_of_insert {registry : TargetCircuitRegistry} {operation : Operation}
    {state : CircuitState}
    (written : registry.apply operation = (registry.insert operation.target state
      ).recordCircuitTransition operation.target state.phase.label)
    (moved : state.phase.label ≠ (registry.phase operation.target).label ∨
      registry.Restarts operation.target operation) : registry.Records operation := by
  have own : (registry.apply operation).phase operation.target = state.phase := by
    rw [written, phase_record, phase_insert, if_pos rfl]
  refine ⟨?_, ?_, ?_⟩
  · rw [own, written]
    rfl
  · rw [Moves, own]
    exact moved
  · intro targetId other
    rw [written, phase_record, phase_insert, if_neg other]

/-- An admission records exactly the start of a probe. -/
theorem admission_records (registry : TargetCircuitRegistry) (targetId : String)
    (now later : Instant) :
    registry.Silent (.admission targetId now later) ∨
      registry.Records (.admission targetId now later) := by
  obtain ⟨⟨generation, current⟩, known⟩ :
      ∃ entry, (registry.inner targetId).getD default = entry := ⟨_, rfl⟩
  have before : registry.phase targetId = current := by rw [phase, known]
  cases current with
  | closed failures =>
      have written : registry.apply (.admission targetId now later) =
          registry.insert targetId ⟨generation, .closed failures⟩ := by
        simp [apply, admitTarget, known]
      refine .inl (silent_of_insert written (by rw [Operation.target, before]) ?_)
      rintro ⟨_, released⟩
      cases before.symm.trans released
  | opened openedUntil =>
      by_cases waiting : now < openedUntil
      · have written : registry.apply (.admission targetId now later) =
            registry.insert targetId ⟨generation, .opened openedUntil⟩ := by
          simp [apply, admitTarget, known, waiting]
        refine .inl (silent_of_insert written (by rw [Operation.target, before]) ?_)
        rintro ⟨_, released⟩
        cases before.symm.trans released
      · have written : registry.apply (.admission targetId now later) =
            (registry.insert targetId ⟨generation + 1, .halfOpen true⟩).recordCircuitTransition
              targetId .halfOpen := by
          simp [apply, admitTarget, known, waiting, startProbe]
        refine .inr (records_of_insert written (.inl ?_))
        rw [Operation.target, before]
        rintro ⟨⟩
  | halfOpen inFlight =>
      cases inFlight with
      | true =>
          have written : registry.apply (.admission targetId now later) =
              registry.insert targetId ⟨generation, .halfOpen true⟩ := by
            simp [apply, admitTarget, known]
          refine .inl (silent_of_insert written (by rw [Operation.target, before]) ?_)
          rintro ⟨_, released⟩
          cases before.symm.trans released
      | false =>
          have written : registry.apply (.admission targetId now later) =
              (registry.insert targetId ⟨generation + 1, .halfOpen true⟩).recordCircuitTransition
                targetId .halfOpen := by
            simp [apply, admitTarget, known, startProbe]
          exact .inr (records_of_insert written (.inr ⟨⟨now, later, rfl⟩, before⟩))

/-- An operation on an unchanged registry is silent unless it is an admission. -/
theorem silent_of_unchanged {registry : TargetCircuitRegistry} {operation : Operation}
    (unchanged : registry.apply operation = registry)
    (settles : ∀ targetId now later, operation ≠ .admission targetId now later) :
    registry.Silent operation := by
  refine ⟨by rw [unchanged], fun targetId => by rw [unchanged], ?_⟩
  rintro ⟨⟨now, later, same⟩, _⟩
  exact settles _ now later same

/-- A completion records exactly the openings and the closings. -/
theorem complete_records (registry : TargetCircuitRegistry) (targetId : String)
    (generation : UInt64) (kind : PermitKind) (outcome : CompletionOutcome) (now : Instant) :
    registry.Silent (.complete targetId generation kind outcome now) ∨
      registry.Records (.complete targetId generation kind outcome now) := by
  have settles : ∀ other first later,
      Operation.complete targetId generation kind outcome now ≠ .admission other first later := by
    rintro _ _ _ ⟨⟩
  cases known : registry.inner targetId with
  | none =>
      exact .inl (silent_of_unchanged (by simp [apply, complete, known]) settles)
  | some state =>
      obtain ⟨current, phase⟩ := state
      by_cases stale : current = generation
      · subst stale
        have before : registry.phase targetId = phase := by
          simp [TargetCircuitRegistry.phase, known]
        cases kind with
        | closed =>
            cases phase with
            | closed failures =>
                cases outcome with
                | success =>
                    have written : registry.apply (.complete targetId current .closed .success now) =
                        registry.insert targetId ⟨current, .closed 0⟩ := by
                      simp [apply, complete, known]
                    exact .inl (silent_of_insert written (by rw [Operation.target, before]; rfl)
                      fun restarted => absurd restarted.1 (by simp))
                | transientFailure =>
                    by_cases reached : registry.threshold ≤ saturatingAdd failures 1
                    · have written : registry.apply
                          (.complete targetId current .closed .transientFailure now) =
                          (registry.insert targetId ⟨current + 1, .opened (now + registry.cooldown)⟩
                            ).recordCircuitTransition targetId .opened := by
                        simp [apply, complete, known, reached, setOpen]
                      refine .inr (records_of_insert written (.inl ?_))
                      rw [Operation.target, before]
                      rintro ⟨⟩
                    · have written : registry.apply
                          (.complete targetId current .closed .transientFailure now) =
                          registry.insert targetId ⟨current, .closed (saturatingAdd failures 1)⟩ := by
                        simp [apply, complete, known, reached]
                      exact .inl (silent_of_insert written (by rw [Operation.target, before]; rfl)
                        fun restarted => absurd restarted.1 (by simp))
                | permanent =>
                    exact .inl (silent_of_unchanged (by simp [apply, complete, known]) settles)
            | opened openedUntil =>
                exact .inl (silent_of_unchanged (by simp [apply, complete, known]) settles)
            | halfOpen inFlight =>
                exact .inl (silent_of_unchanged (by simp [apply, complete, known]) settles)
        | probe =>
            cases phase with
            | closed failures =>
                exact .inl (silent_of_unchanged (by simp [apply, complete, known]) settles)
            | opened openedUntil =>
                exact .inl (silent_of_unchanged (by simp [apply, complete, known]) settles)
            | halfOpen inFlight =>
                have moves : ∀ {label : CircuitStateLabel}, label ≠ .halfOpen →
                    label ≠ (registry.phase targetId).label := by
                  rw [before]
                  exact fun different => different
                cases outcome with
                | success =>
                    have written : registry.apply (.complete targetId current .probe .success now) =
                        (registry.insert targetId ⟨current + 1, .closed 0⟩).recordCircuitTransition
                          targetId .closed := by
                      simp [apply, complete, known, closeCircuit]
                    exact .inr (records_of_insert written (.inl (moves (by rintro ⟨⟩))))
                | transientFailure =>
                    have written : registry.apply
                        (.complete targetId current .probe .transientFailure now) =
                        (registry.insert targetId ⟨current + 1, .opened (now + registry.cooldown)⟩
                          ).recordCircuitTransition targetId .opened := by
                      simp [apply, complete, known, setOpen]
                    exact .inr (records_of_insert written (.inl (moves (by rintro ⟨⟩))))
                | permanent =>
                    have written : registry.apply
                        (.complete targetId current .probe .permanent now) =
                        (registry.insert targetId ⟨current + 1, .closed 0⟩).recordCircuitTransition
                          targetId .closed := by
                      simp [apply, complete, known, closeCircuit]
                    exact .inr (records_of_insert written (.inl (moves (by rintro ⟨⟩))))
      · exact .inl (silent_of_unchanged (by simp [apply, complete, known, stale]) settles)

/-- A release keeps the half-open label of its target. -/
theorem releaseProbe_silent (registry : TargetCircuitRegistry) (targetId : String)
    (generation : UInt64) : registry.Silent (.releaseProbe targetId generation) := by
  have settles : ∀ other first later,
      Operation.releaseProbe targetId generation ≠ .admission other first later := by
    rintro _ _ _ ⟨⟩
  cases known : registry.inner targetId with
  | none => exact silent_of_unchanged (by simp [apply, releaseProbe, known]) settles
  | some state =>
      obtain ⟨current, phase⟩ := state
      have before : registry.phase targetId = phase := by
        simp [TargetCircuitRegistry.phase, known]
      by_cases stale : current = generation
      · subst stale
        cases phase with
        | closed failures =>
            exact silent_of_unchanged (by simp [apply, releaseProbe, known]) settles
        | opened openedUntil =>
            exact silent_of_unchanged (by simp [apply, releaseProbe, known]) settles
        | halfOpen inFlight =>
            have written : registry.apply (.releaseProbe targetId current) =
                registry.insert targetId ⟨current, .halfOpen false⟩ := by
              simp [apply, releaseProbe, known]
            exact silent_of_insert written (by rw [Operation.target, before]; rfl)
              fun restarted => absurd restarted.1 (by simp)
      · exact silent_of_unchanged (by simp [apply, releaseProbe, known, stale]) settles

/-- Every operation is silent or records its move. -/
theorem apply_records (registry : TargetCircuitRegistry) (operation : Operation) :
    registry.Silent operation ∨ registry.Records operation := by
  cases operation with
  | admission targetId now later => exact registry.admission_records targetId now later
  | complete targetId generation kind outcome now =>
      exact registry.complete_records targetId generation kind outcome now
  | releaseProbe targetId generation =>
      exact .inl (registry.releaseProbe_silent targetId generation)

/-- Only an admission of the target itself restarts its probe. -/
theorem Restarts.own {registry : TargetCircuitRegistry} {targetId : String}
    {operation : Operation} (restarts : registry.Restarts targetId operation) :
    targetId = operation.target := by
  obtain ⟨⟨now, later, rfl⟩, _⟩ := restarts
  rfl

/-- An operation adds a record to a target exactly when it moves the target. -/
theorem recorded_apply (registry : TargetCircuitRegistry) (operation : Operation)
    (targetId : String) :
    (registry.Moves targetId operation ∧
      (registry.apply operation).recorded targetId = registry.recorded targetId ++
        [((registry.apply operation).phase targetId).label]) ∨
    (¬registry.Moves targetId operation ∧
      (registry.apply operation).recorded targetId = registry.recorded targetId) := by
  rcases registry.apply_records operation with ⟨kept, same, fresh⟩ | ⟨written, moved, others⟩
  · refine .inr ⟨?_, by rw [recorded, kept, recorded]⟩
    rintro (changed | restarts)
    · exact changed (same targetId)
    · have own := restarts.own
      subst own
      exact fresh restarts
  · by_cases own : targetId = operation.target
    · subst own
      refine .inl ⟨moved, ?_⟩
      rw [recorded, written, recorded]
      simp
    · have same := others targetId own
      refine .inr ⟨?_, ?_⟩
      · rintro (changed | restarts)
        · exact changed (congrArg CircuitPhase.label same)
        · exact own restarts.own
      · rw [recorded, written, recorded]
        simp [Ne.symm own]

/-- The registry is an event system that accepts every operation. -/
def registrySystem : EventSystem TargetCircuitRegistry Operation :=
  ⟨fun registry operation => some (registry.apply operation)⟩

/-- The gauge of every target shows its phase. -/
def Shown (registry : TargetCircuitRegistry) : Prop :=
  ∀ targetId, registry.gauge targetId = (registry.phase targetId).label

/-- Every operation keeps every gauge at the phase of its target. -/
theorem shown_apply {registry : TargetCircuitRegistry} (shown : registry.Shown)
    (operation : Operation) : (registry.apply operation).Shown := by
  intro targetId
  rcases registry.recorded_apply operation targetId with ⟨_, written⟩ | ⟨unmoved, written⟩
  · rw [gauge, written]
    simp
  · have same : ((registry.apply operation).phase targetId).label =
        (registry.phase targetId).label := by
      by_contra changed
      exact unmoved (.inl changed)
    rw [gauge, written, same]
    exact shown targetId

/-- After every run the gauges show the phases, and each operation records exactly its moves. -/
theorem metrics_follow_circuits (circuitFailureThreshold : UInt32) (circuitCooldownMs : Nat)
    (operations : List Operation) (registry : TargetCircuitRegistry)
    (reached : registrySystem.run (fromConfig circuitFailureThreshold circuitCooldownMs)
      operations = some registry) :
    (∀ targetId, registry.gauge targetId = (registry.phase targetId).label) ∧
    ∀ operation targetId,
      (registry.Moves targetId operation → (registry.apply operation).recorded targetId =
        registry.recorded targetId ++ [((registry.apply operation).phase targetId).label]) ∧
      (¬registry.Moves targetId operation →
        (registry.apply operation).recorded targetId = registry.recorded targetId) := by
  constructor
  · apply registrySystem.run_invariant Shown ?_ ?_ reached
    · rintro state operation _ shown ⟨⟩
      exact shown_apply shown operation
    · intro targetId
      rfl
  · intro operation targetId
    rcases registry.recorded_apply operation targetId with ⟨moved, written⟩ | ⟨unmoved, written⟩
    · exact ⟨fun _ => written, fun unmoved => absurd moved unmoved⟩
    · exact ⟨fun moved => absurd moved unmoved, fun _ => written⟩

theorem metrics_follow_circuits_example :
    (((fromConfig 1 1000).apply (.admission "a" 0 0)).apply
      (.complete "a" 0 .closed .transientFailure 5)).gauge "a" = .opened :=
  (metrics_follow_circuits 1 1000
    [.admission "a" 0 0, .complete "a" 0 .closed .transientFailure 5] _ rfl).1 "a"

end TargetCircuitRegistry

end Opmux.Circuit
