import OpmuxGateway.Proof.Executor.CallBounds
import OpmuxGateway.Proof.Executor.ProbeOwnership

/-
This file proves what one hop may write to the circuit of its target.
-/

namespace Opmux.Circuit

namespace CircuitState

/-- A harmless change adds no failure and opens no circuit. -/
def Harmless (before after : CircuitState) : Prop :=
  match after.phase with
  | .opened openedUntil => before.phase = .opened openedUntil
  | .closed failures => failures = 0 ∨ before.phase = .closed failures
  | .halfOpen _ => True

/-- A released circuit only loses the ownership of its probe. -/
def Released (before after : CircuitState) : Prop :=
  after = before ∨
    ∃ inFlight, before.phase = .halfOpen inFlight ∧ after = { before with phase := .halfOpen false }

theorem Harmless.refl (state : CircuitState) : state.Harmless state := by
  unfold Harmless
  split
  · assumption
  · exact .inr ‹_›
  · trivial

/-- An abandoned permit only releases its circuit. -/
theorem act_abandon (threshold : UInt32) (cooldown : Duration) (state : CircuitState)
    (role : Breaker.Role) (generation : UInt64) :
    state.Released (state.act threshold cooldown (.abandon role generation)) := by
  obtain ⟨current, phase⟩ := state
  cases role with
  | normal => exact .inl rfl
  | probe =>
      cases phase with
      | halfOpen inFlight =>
          simp only [act]
          split
          · exact .inr ⟨inFlight, rfl, rfl⟩
          · exact .inl rfl
      | _ => exact .inl rfl

end CircuitState

/-- An event changes at most the circuit of its own target. -/
theorem step_circuit {world next : World} {event : Event} (accounted : Accounted world)
    (stepped : world.step event = some next) (relation : CircuitState → CircuitState → Prop)
    (same : ∀ state, relation state state)
    (own : relation (world.circuit event.target) ((world.circuit event.target).act
      world.registry.threshold world.registry.cooldown event.action)) (targetId : String) :
    relation (world.circuit targetId) (next.circuit targetId) := by
  by_cases target : targetId = event.target
  · subst target
    rw [step_circuit_own accounted stepped]
    exact own
  · have kept : next.circuit targetId = world.circuit targetId := by
      rw [World.circuit, World.circuit, step_inner_other accounted stepped target]
    rw [kept]
    exact same _

end Opmux.Circuit

namespace Opmux.Executor
open Circuit (CircuitPermit CircuitAdmission CompletionOutcome CircuitState World circuitSystem
  TargetCircuitRegistry)

/-- A permit write settles its permit with an outcome or drops it without one. -/
structure PermitWrite where
  permit : CircuitPermit
  outcome : Option CompletionOutcome
  deriving DecidableEq, Repr

def permitWrite : Event → Option PermitWrite
  | ⟨.settle permit outcome, _, _⟩ => some ⟨permit, some outcome⟩
  | ⟨.dropPermit permit, _, _⟩ => some ⟨permit, none⟩
  | _ => none

/-- The writes of a trace to the permits of its hops. -/
def permitWrites (trace : List Event) : List PermitWrite := trace.filterMap permitWrite

def admissionPermits : Event → List CircuitPermit
  | ⟨.admission _, admission, _⟩ => admission.permits
  | _ => []

/-- The permits that the admissions of a trace gave. -/
def admittedPermits (trace : List Event) : List CircuitPermit := trace.flatMap admissionPermits

/-- The registry sees a permit write as a settlement or as a drop. -/
def PermitWrite.event (write : PermitWrite) (now : Instant) : Circuit.Event :=
  match write.outcome with
  | some outcome => .settle write.permit outcome now
  | none => .drop write.permit

/-- A call of the trace failed with the error. -/
def CallFailed (trace : List Event) (error : ExecutorError) : Prop :=
  ∃ plan params cutoff reply span attemptTimeout,
    Event.call plan params cutoff (some reply) span ∈ trace ∧
      callOutcome reply attemptTimeout = .error error

theorem permitWrites_append (first second : List Event) :
    permitWrites (first ++ second) = permitWrites first ++ permitWrites second :=
  List.filterMap_append

theorem CallFailed.mono {first second : List Event} {error : ExecutorError}
    (inside : ∀ event ∈ first, event ∈ second) (failed : CallFailed first error) :
    CallFailed second error := by
  obtain ⟨plan, params, cutoff, reply, span, attemptTimeout, member, missed⟩ := failed
  exact ⟨plan, params, cutoff, reply, span, attemptTimeout, inside _ member, missed⟩

theorem CallFailed.called {trace : List Event} {error : ExecutorError}
    (failed : CallFailed trace error) : calls trace ≠ [] := by
  obtain ⟨plan, params, cutoff, reply, span, attemptTimeout, member, _⟩ := failed
  intro empty
  have impossible := (List.filterMap_eq_nil_iff.mp empty) _ member
  cases impossible

section Failures

variable {config : ExecutorConfig} {plan : RoutePlan} {params : ExecutionParams}
  {deadline : RequestDeadline} {trace : List Event}

/-- The executor makes deadline and throttling errors itself, and a vendor makes the other ones. -/
def isLocal : ExecutorError → Bool
  | .deadlineExceeded | .rateLimitExceeded _ _ => true
  | _ => false

theorem isCircuitFailure.foreign {error : ExecutorError} (counted : isCircuitFailure error = true) :
    isLocal error = false := by
  cases error with
  | deadlineExceeded => cases counted
  | rateLimitExceeded vendor retryAfterMs => cases counted
  | _ => rfl

/-- A wait only ends with a local error. -/
theorem Waits.local {attempt : Nat} {lastError : Option ExecutorError}
    {retryAfterMs : Option Nat} {error : ExecutorError}
    (waited : Waits config plan deadline attempt lastError retryAfterMs trace
      (some (some error))) : isLocal error = true := by
  have expired : ∀ {checks : List Event} {error : ExecutorError},
      Checks deadline checks (some error) → isLocal error = true := by
    intro checks error checked
    cases checked
    rfl
  cases waited with
  | immediate planned zero checked => exact expired checked
  | slept planned fits checked => exact expired checked
  | elapsed planned fits => rfl
  | cannotFit planned long =>
      unfold throttledError
      split <;> rfl
  | tooLong planned long => rfl

/-- A provider minimum only ends the request with a local error. -/
theorem Ends.local {error terminal : ExecutorError}
    (ended : Ends deadline error trace (some terminal)) : isLocal terminal = true := by
  cases ended with
  | expired late => rfl
  | exceeds early throttled positive long =>
      cases error with
      | rateLimitExceeded vendor retryAfterMs => rfl
      | _ => cases throttled

/-- A step fails with an error when the loop goes on with it, or when it is not local. -/
inductive AttemptStep.FailsWith (error : ExecutorError) : AttemptStep → Prop
  | failed : FailsWith error (.failed error)
  | finished (foreign : isLocal error = false) : FailsWith error (.finished (.error error))

theorem Continues.failure {found error : ExecutorError} {step : AttemptStep}
    (fails : step.FailsWith error) (continued : Continues deadline found trace step) :
    found = error := by
  cases continued with
  | permanent fatal =>
      cases fails
      rfl
  | failed retryable spared =>
      cases fails
      rfl
  | ended retryable terminated =>
      cases fails with
      | finished foreign =>
          rw [terminated.local] at foreign
          cases foreign

/-- A started attempt only fails with the error of its own call. -/
theorem Starts.failure {attempt : Nat} {budget used : AttemptBudget} {step : AttemptStep}
    {error : ExecutorError} (fails : step.FailsWith error)
    (start : Starts config plan params deadline attempt budget trace (some (step, used))) :
    CallFailed trace error := by
  generalize same : some (step, used) = result at start
  cases start with
  | noCutoff late =>
      cases same
      cases fails with
      | finished impossible => cases impossible
  | dropped early timed room retried => cases same
  | @examined now span retry later next reply called trace found early timed room retried
      examined =>
      cases same
      cases examined with
      | expired late =>
          cases fails with
          | finished impossible => cases impossible
      | succeeded early ready => cases fails
      | failed early missed continued =>
          obtain rfl := continued.failure fails
          exact ⟨plan, params, callCutoff config deadline now, reply, called, _, by simp, missed⟩

/-- A failed attempt loop repeats the error of a call or the error that it started with. -/
theorem Attempts.failure {left attempt : Nat} {budget used : AttemptBudget}
    {lastError : Option ExecutorError} {retryAfterMs : Option Nat} {error : ExecutorError}
    (foreign : isLocal error = false)
    (attempts : Attempts config plan params deadline left attempt budget lastError retryAfterMs
      trace (some (.error error, used))) :
    CallFailed trace error ∨
      (Executor.exhausted lastError = .error error ∧
        (lastError = none → left = 0 ∨ budget.maxTotal ≤ budget.started)) := by
  generalize same : some (Except.error error, used) = result at attempts
  induction attempts with
  | exhausted =>
      cases same
      exact .inr ⟨rfl, fun _ => .inl rfl⟩
  | expired late =>
      cases same
      cases foreign
  | spent early full =>
      cases same
      exact .inr ⟨rfl, fun _ => .inr full⟩
  | waitDropped early spare prepared => cases same
  | waitEnded early spare prepared =>
      cases same
      cases prepared with
      | retry positive waited =>
          rw [waited.local] at foreign
          cases foreign
  | callDropped early spare prepared start => cases same
  | finished early spare prepared start =>
      cases same
      exact .inl ((start.failure (.finished foreign)).mono fun event member => by simp [member])
  | continued early spare prepared start continued ih =>
      left
      rcases ih same with failed | ⟨repeated, _⟩
      · exact failed.mono fun event member => by simp [member]
      · cases repeated
        exact (start.failure .failed).mono fun event member => by simp [member]

theorem LoopEvent.unwritten {event : Event} (inside : LoopEvent event) :
    permitWrite event = none := by
  obtain ⟨request, reply, stamp⟩ := event
  cases request with
  | settle permit outcome =>
      rcases inside with silent | called
      · exact silent.elim
      · exact absurd rfl called
  | dropPermit permit =>
      rcases inside with silent | called
      · exact silent.elim
      · exact absurd rfl called
  | _ => rfl

end Failures

/-- The permit of a hop that ends with an outcome is settled once or dropped once. -/
inductive Closes (permit : CircuitPermit) : Outcome → List Event → Prop
  | succeeded {result span} : Closes permit (.ok result) [.settle permit .success span]
  | failed {error span} (counted : isCircuitFailure error = true) :
      Closes permit (.error error) [.settle permit .transientFailure span]
  | ignored {error span} (other : error ≠ .deadlineExceeded)
      (permanent : isCircuitFailure error = false) :
      Closes permit (.error error) [.settle permit .permanent span]
  | released {error span} (permanent : isCircuitFailure error = false) :
      Closes permit (.error error) [.dropPermit permit span]

theorem closes_of_runs {config : ExecutorConfig} {admission : CircuitAdmission}
    {permit : CircuitPermit} {maxRetries : UInt32} {settlement : Outcome → Effect Unit}
    (admitted : Admits config admission permit maxRetries settlement) {outcome : Outcome}
    {trace : List Event} {result : Option Unit} (run : (settlement outcome).Runs trace result) :
    Closes permit outcome trace := by
  have settled : ∀ {completion : CompletionOutcome} {trace : List Event} {result : Option Unit},
      (settle permit completion).Runs trace result →
      ∃ span, trace = [.settle permit completion span] := by
    intro completion trace result settling
    unfold settle at settling
    rw [Program.runs_request] at settling
    obtain ⟨_, span, rfl, _⟩ := settling
    exact ⟨span, rfl⟩
  cases admitted with
  | probe =>
      unfold settleProbe at run
      split at run
      · obtain ⟨span, rfl⟩ := settled run
        exact .succeeded
      · obtain ⟨_, span, rfl⟩ := settles_of_drop run
        exact .released rfl
      · rename_i error other
        split at run
        · rename_i counted
          obtain ⟨span, rfl⟩ := settled run
          exact .failed counted
        · rename_i permanent
          obtain ⟨span, rfl⟩ := settled run
          exact .ignored other (eq_false_of_ne_true permanent)
  | allow =>
      unfold settleClosed at run
      split at run
      · obtain ⟨span, rfl⟩ := settled run
        exact .succeeded
      · obtain ⟨_, span, rfl⟩ := settles_of_drop run
        exact .released rfl
      · rename_i error other
        split at run
        · rename_i counted
          obtain ⟨span, rfl⟩ := settled run
          exact .failed counted
        · rename_i permanent
          obtain ⟨_, span, rfl⟩ := settles_of_drop run
          exact .released (eq_false_of_ne_true permanent)

/-- What a hop wrote to its permit agrees with how the hop ended. -/
inductive Wrote (trace : List Event) : Option Outcome → Option CompletionOutcome → Prop
  | cancelled : Wrote trace none none
  | succeeded {result} : Wrote trace (some (.ok result)) (some .success)
  | failed {error} (counted : isCircuitFailure error = true) (called : CallFailed trace error) :
      Wrote trace (some (.error error)) (some .transientFailure)
  | ignored {error} (other : error ≠ .deadlineExceeded)
      (permanent : isCircuitFailure error = false) :
      Wrote trace (some (.error error)) (some .permanent)
  | released {error} (permanent : isCircuitFailure error = false) :
      Wrote trace (some (.error error)) none

section Hop

variable {config : ExecutorConfig} {plan : RoutePlan} {params : ExecutionParams}
  {deadline : RequestDeadline} {trace : List Event}

/-- The writes of an admitted hop are the writes of its ending. -/
theorem permitWrites_admitted {left : Nat} {budget : AttemptBudget}
    {result : Option (Outcome × AttemptBudget)} {attempts : List Event}
    (attempting : Attempts config plan params deadline left 0 budget none none attempts result)
    (now : Instant) (span asked : Span) (admission : CircuitAdmission) (closing : List Event) :
    permitWrites (.clock .isExpired now span :: .admission plan admission asked ::
      (attempts ++ closing)) = permitWrites closing := by
  change permitWrites (attempts ++ closing) = _
  have unwritten : permitWrites attempts = [] := List.filterMap_eq_nil_iff.mpr
    fun event member => (attempting.loopEvents event member).unwritten
  rw [permitWrites_append, unwritten, List.nil_append]

/-- A hop writes nothing, or it writes its own permit once. -/
theorem Hops.wrote {budget : AttemptBudget} {result : Option (Outcome × AttemptBudget)}
    (hops : Hops config plan params deadline budget trace result) :
    permitWrites trace = [] ∨ ∃ write, permitWrites trace = [write] ∧
      write.permit ∈ admittedPermits trace ∧
      Wrote trace (result.map Prod.fst) write.outcome := by
  have owned : ∀ {admission permit maxRetries settlement now span asked rest},
      Admits config admission permit maxRetries settlement →
      permit ∈ admittedPermits (.clock .isExpired now span ::
        .admission plan admission asked :: rest) := by
    intro admission permit maxRetries settlement now span asked rest admits
    cases admits <;>
      simp [admittedPermits, admissionPermits, CircuitAdmission.permits]
  cases hops with
  | expired late => exact .inl rfl
  | spent early full => exact .inl rfl
  | rejected early spare => exact .inl rfl
  | @dropped now span admission permit maxRetries settlement asked trace released early spare
      admits attempts =>
      right
      refine ⟨⟨permit, none⟩, ?_, owned admits, .cancelled⟩
      rw [permitWrites_admitted attempts]
      rfl
  | @settled now span admission permit maxRetries settlement asked trace outcome used closing
      early spare admits attempts settles =>
      right
      rw [permitWrites_admitted attempts]
      cases closes_of_runs admits settles with
      | succeeded => exact ⟨⟨permit, some .success⟩, rfl, owned admits, .succeeded⟩
      | @failed error closed counted =>
          refine ⟨⟨permit, some .transientFailure⟩, rfl, owned admits, .failed counted ?_⟩
          rcases attempts.failure (isCircuitFailure.foreign counted) with failed | ⟨_, spent⟩
          · exact failed.mono fun event member => by simp [member]
          · rcases spent rfl with impossible | full
            · cases impossible
            · exact absurd spare (UInt32.not_lt.mpr full)
      | ignored other permanent =>
          exact ⟨⟨permit, some .permanent⟩, rfl, owned admits, .ignored other permanent⟩
      | released permanent => exact ⟨⟨permit, none⟩, rfl, owned admits, .released permanent⟩

end Hop

/-- A dropped permit only releases the ownership of its own probe. -/
theorem PermitWrite.released {write : PermitWrite} (dropped : write.outcome = none)
    {world next : World} {now : Instant} (accounted : Circuit.Accounted world)
    (stepped : world.step (write.event now) = some next) (targetId : String) :
    (world.circuit targetId).Released (next.circuit targetId) := by
  refine Circuit.step_circuit accounted stepped CircuitState.Released (fun _ => .inl rfl) ?_ targetId
  obtain ⟨permit, _ | outcome⟩ := write
  · exact CircuitState.act_abandon _ _ _ _ _
  · cases dropped

end Opmux.Executor
