import OpmuxGateway.Proof.Executor.HopSettlement

/-
This file proves when an execution reports open circuits truthfully.
-/

namespace Opmux.Executor
open Circuit (CircuitPermit CircuitAdmission TargetCircuitRegistry)

/-- Each circuit answers its admissions as the given rejections. -/
def Answers (rejects : String → Bool) : Event → Prop
  | ⟨.admission plan, admission, _⟩ => admission.IsReject ↔ rejects plan.targetId = true
  | _ => True

/-- A vendor never reports an open circuit, because circuits belong to the executor. -/
def Upstream : Event → Prop
  | ⟨.call _ _ _, reply, _⟩ => ∀ answered attemptTimeout vendor retryAfterMs,
      reply = some answered →
        callOutcome answered attemptTimeout ≠ .error (.circuitOpen vendor retryAfterMs)
  | _ => True

/-- The circuit of a target rejected it in the trace. -/
def RejectedBy (trace : List Event) (plan : RoutePlan) : Prop :=
  ∃ retryAfterMs span, Event.admission plan (.reject retryAfterMs) span ∈ trace

/-- The targets of a plan that can serve the parameters start with the primary one. -/
def eligibleTargets (plan : RoutePlan) (params : ExecutionParams) : List RoutePlan :=
  plan :: plan.fallbackPlans.filter fun fallback => hopSupportsParams fallback params

/-- An open-circuit report has no call, and every eligible target was rejected. -/
def ReportsOpenCircuits (plan : RoutePlan) (params : ExecutionParams) (trace : List Event)
    (outcome : Option Outcome) : Prop :=
  ∀ vendor retryAfterMs, outcome = some (.error (.circuitOpen vendor retryAfterMs)) →
    calls trace = [] ∧ ∀ target ∈ eligibleTargets plan params, RejectedBy trace target

theorem RejectedBy.mono {first second : List Event} {plan : RoutePlan}
    (inside : ∀ event ∈ first, event ∈ second) (rejected : RejectedBy first plan) :
    RejectedBy second plan := by
  obtain ⟨retryAfterMs, span, member⟩ := rejected
  exact ⟨retryAfterMs, span, inside _ member⟩

section Reports

variable {config : ExecutorConfig} {plan : RoutePlan} {params : ExecutionParams}
  {deadline : RequestDeadline} {trace : List Event} {vendor : String} {retryAfterMs : Nat}

/-- Only a rejected hop ends with an open circuit. -/
theorem Hops.opened {budget used : AttemptBudget} (upstream : ∀ event ∈ trace, Upstream event)
    (hops : Hops config plan params deadline budget trace
      (some (.error (.circuitOpen vendor retryAfterMs), used))) :
    used = budget ∧ calls trace = [] ∧ RejectedBy trace plan := by
  generalize same : some (Except.error (ExecutorError.circuitOpen vendor retryAfterMs), used) =
    result at hops
  cases hops with
  | expired late => cases same
  | spent early full => cases same
  | rejected early spare =>
      cases same
      exact ⟨rfl, rfl, retryAfterMs, _, List.mem_cons_of_mem _ (List.mem_singleton_self _)⟩
  | dropped early spare admits attempts => cases same
  | settled early spare admits attempts settles =>
      cases same
      rcases attempts.failure rfl with failed | ⟨impossible, _⟩
      · obtain ⟨called, params, cutoff, reply, span, attemptTimeout, member, missed⟩ := failed
        have honest := upstream (.call called params cutoff (some reply) span) (by simp [member])
        exact absurd missed (honest reply attemptTimeout vendor retryAfterMs rfl)
      · cases impossible

/-- A hop whose circuit rejects calls nobody. -/
theorem Hops.rejectedBy {budget : AttemptBudget} {rejects : String → Bool}
    {result : Option (Outcome × AttemptBudget)} (closed : rejects plan.targetId = true)
    (spare : budget.started < budget.maxTotal) (answers : ∀ event ∈ trace, Answers rejects event)
    (hops : Hops config plan params deadline budget trace result) :
    calls trace = [] ∧ (result = some (.error .deadlineExceeded, budget) ∨
      RejectedBy trace plan ∧ ∃ retryAfterMs,
        result = some (.error (.circuitOpen plan.vendorId retryAfterMs), budget)) := by
  have refused : ∀ {now span admission permit maxRetries settlement asked rest},
      Admits config admission permit maxRetries settlement →
      (∀ event ∈ Event.clock .isExpired now span :: .admission plan admission asked :: rest,
        Answers rejects event) → False := by
    intro now span admission permit maxRetries settlement asked rest admits answers
    have rejected := (answers (.admission plan admission asked) (by simp)).mpr closed
    cases admits <;> exact rejected
  cases hops with
  | expired late => exact ⟨rfl, .inl rfl⟩
  | spent early full => exact absurd spare (UInt32.not_lt.mpr full)
  | rejected early spare => 
      exact ⟨rfl, .inr ⟨⟨_, _, List.mem_cons_of_mem _ (List.mem_singleton_self _)⟩, _, rfl⟩⟩
  | dropped early spare admits attempts => exact (refused admits answers).elim
  | settled early spare admits attempts settles => exact (refused admits answers).elim

/-- A failed hop with an open circuit leaves its request only by expiry. -/
theorem Leaves.opened {result : Option ExecutorError}
    (leaves : Leaves deadline (.circuitOpen vendor retryAfterMs) trace result) :
    result = none ∨ result = some .deadlineExceeded := by
  cases leaves with
  | spared other spared => exact .inl rfl
  | ended other ended =>
      cases ended with
      | expired late => exact .inr rfl
      | exceeds early throttled positive long => cases throttled

/-- The end of a request after a hop is never an open circuit of a later hop. -/
theorem Leaves.local {error terminal : ExecutorError}
    (leaves : Leaves deadline error trace (some terminal)) : isLocal terminal = true := by
  cases leaves with
  | ended other ended => exact ended.local

/-- The fallback loop reports an open circuit only with its primary error. -/
theorem Falls.opened {primaryError : ExecutorError} {fallbackPlans : List RoutePlan}
    {budget : AttemptBudget} {fromTarget : String}
    (falls : Falls config params deadline primaryError fallbackPlans budget fromTarget trace
      (some (.error (.circuitOpen vendor retryAfterMs)))) :
    primaryError = .circuitOpen vendor retryAfterMs := by
  have finishes : ∀ {trace : List Event}, Finishes deadline primaryError trace
      (.error (.circuitOpen vendor retryAfterMs)) →
      primaryError = .circuitOpen vendor retryAfterMs := by
    intro trace finished
    cases finished
    rfl
  generalize same : some (Except.error (ExecutorError.circuitOpen vendor retryAfterMs)) =
    outcome at falls
  induction falls with
  | finished finished =>
      cases same
      exact finishes finished
  | expired late => cases same
  | skipped early unsupported falls ih => exact ih same
  | dropped early supported hops => cases same
  | succeeded early supported hops => cases same
  | hopExpired early supported hops => cases same
  | ended early supported hops leaves =>
      cases same
      cases leaves.local
  | ineligible early supported hops leaves fatal finished =>
      cases same
      exact finishes finished
  | continued early supported hops leaves eligible continued ih => exact ih same

/-- A fallback loop of rejecting circuits calls nobody, and it asks each supported target. -/
theorem Falls.rejectedBy {primaryError : ExecutorError} {fallbackPlans : List RoutePlan}
    {budget : AttemptBudget} {fromTarget : String} {rejects : String → Bool}
    {outcome : Option Outcome} (spare : budget.started < budget.maxTotal)
    (answers : ∀ event ∈ trace, Answers rejects event)
    (closed : ∀ fallback ∈ fallbackPlans, hopSupportsParams fallback params = true →
      rejects fallback.targetId = true)
    (falls : Falls config params deadline primaryError fallbackPlans budget fromTarget trace
      outcome) :
    calls trace = [] ∧ (outcome = some (.error .deadlineExceeded) ∨
      ∀ fallback ∈ fallbackPlans, hopSupportsParams fallback params = true →
        RejectedBy trace fallback) := by
  induction falls with
  | @finished budget fromTarget trace outcome finished =>
      exact ⟨calls_silent finished.silent, .inr (by simp)⟩
  | expired late => exact ⟨rfl, .inl rfl⟩
  | @skipped fallback rest budget fromTarget now span trace outcome early unsupported falls ih =>
      obtain ⟨uncalled, ended⟩ := ih spare
        (fun event member => answers event (List.mem_cons_of_mem _ member))
        (fun fallback member => closed fallback (List.mem_cons_of_mem _ member))
      refine ⟨uncalled, ended.imp_right fun rejected other member supported => ?_⟩
      rcases List.mem_cons.mp member with rfl | later
      · rw [unsupported] at supported
        cases supported
      · exact (rejected other later supported).mono fun event => List.mem_cons_of_mem _
  | dropped early supported hops =>
      obtain ⟨_, impossible | ⟨_, _, impossible⟩⟩ := hops.rejectedBy
        (closed _ (List.mem_cons_self ..) supported) spare
        (fun event member => answers event (by simp [member]))
      · cases impossible
      · cases impossible
  | succeeded early supported hops =>
      obtain ⟨_, impossible | ⟨_, _, impossible⟩⟩ := hops.rejectedBy
        (closed _ (List.mem_cons_self ..) supported) spare
        (fun event member => answers event (by simp [member]))
      · cases impossible
      · cases impossible
  | hopExpired early supported hops =>
      obtain ⟨uncalled, _⟩ := hops.rejectedBy (closed _ (List.mem_cons_self ..) supported) spare
        (fun event member => answers event (by simp [member]))
      exact ⟨uncalled, .inl rfl⟩
  | @ended fallback rest budget fromTarget now span marked hop error used trace terminal early
      supported hops leaves =>
      obtain ⟨uncalled, impossible | ⟨_, _, same⟩⟩ := hops.rejectedBy
        (closed _ (List.mem_cons_self ..) supported) spare
        (fun event member => answers event (by simp [member]))
      · cases impossible
        exact absurd rfl leaves.other
      · cases same
        rcases leaves.opened with impossible | expired
        · cases impossible
        · cases expired
          refine ⟨?_, .inl rfl⟩
          change calls (hop ++ trace) = []
          rw [calls_append, uncalled, calls_silent leaves.silent]
          rfl
  | ineligible early supported hops leaves fatal finished =>
      obtain ⟨uncalled, impossible | ⟨_, _, same⟩⟩ := hops.rejectedBy
        (closed _ (List.mem_cons_self ..) supported) spare
        (fun event member => answers event (by simp [member]))
      · cases impossible
        exact absurd rfl leaves.other
      · cases same
        cases fatal
  | @continued fallback rest budget fromTarget now span marked hop error used trace falls outcome
      early supported hops leaves eligible continued ih =>
      obtain ⟨uncalled, impossible | ⟨rejected, _, same⟩⟩ := hops.rejectedBy
        (closed _ (List.mem_cons_self ..) supported) spare
        (fun event member => answers event (by simp [member]))
      · cases impossible
        exact absurd rfl leaves.other
      · cases same
        obtain ⟨unreached, ended⟩ := ih spare
          (fun event member => answers event (by simp [member]))
          (fun fallback member => closed fallback (List.mem_cons_of_mem _ member))
        constructor
        · change calls (hop ++ (trace ++ falls)) = []
          rw [calls_append, calls_append, uncalled, calls_silent leaves.silent, unreached]
          rfl
        · refine ended.imp_right fun others other member able => ?_
          rcases List.mem_cons.mp member with rfl | later
          · exact rejected.mono fun event member => by simp [member]
          · exact (others other later able).mono fun event member => by simp [member]

/-- An execution whose open primary only has open fallbacks reports its circuits truthfully. -/
theorem Executes.reports {payload : Json} {rejects : String → Bool} {outcome : Option Outcome}
    (extracted : extractParams payload = .ok params)
    (answers : ∀ event ∈ trace, Answers rejects event) (upstream : ∀ event ∈ trace, Upstream event)
    (closed : rejects plan.targetId = true → ∀ fallback ∈ plan.fallbackPlans,
      hopSupportsParams fallback params = true → rejects fallback.targetId = true)
    (executes : Executes config plan deadline payload trace outcome) :
    ReportsOpenCircuits plan params trace outcome := by
  rintro vendor retryAfterMs rfl
  generalize same : some (Except.error (ExecutorError.circuitOpen vendor retryAfterMs)) =
    outcome at executes
  cases executes with
  | expired late => cases same
  | invalid early rejected =>
      rw [extracted] at rejected
      cases rejected
  | dropped early found hops => cases same
  | succeeded early found hops => cases same
  | hopExpired early found hops => cases same
  | ended early found hops leaves =>
      cases same
      cases leaves.local
  | ineligible early found hops leaves fatal =>
      cases same
      cases fatal
  | lateFallbacks early found hops leaves eligible late => cases same
  | @noFallbacks now span used hop error budget trace later next early found hops leaves eligible
      pending empty =>
      cases same
      obtain ⟨_, uncalled, rejected⟩ := hops.opened
        fun event member => upstream event (by simp [member])
      constructor
      · change calls (hop ++ (trace ++ _)) = []
        rw [calls_append, calls_append, uncalled, calls_silent leaves.silent]
        rfl
      · intro target member
        rw [eligibleTargets, empty, List.filter_nil, List.mem_singleton] at member
        subst member
        exact rejected.mono fun event member => by simp [member]
  | @fallbacks now span found hop error used trace later next falls outcome early extracts hops
      leaves eligible pending nonempty continued =>
      cases same
      cases extracted.symm.trans extracts
      obtain rfl := continued.opened
      obtain ⟨rfl, uncalled, rejected⟩ := hops.opened
        fun event member => upstream event (by simp [member])
      have opened : rejects plan.targetId = true := by
        obtain ⟨retryAfterMs, span, member⟩ := rejected
        exact (answers (.admission plan (.reject retryAfterMs) span) (by simp [member])).mp trivial
      obtain ⟨unreached, expired | others⟩ := continued.rejectedBy
        (AttemptBudget.new_spare config.maxTotalAttempts)
        (fun event member => answers event (by simp [member])) (closed opened)
      · cases expired
      · constructor
        · change calls (hop ++ (trace ++ .clock .isExpired later next :: falls)) = []
          rw [calls_append, calls_append, uncalled, calls_silent leaves.silent]
          exact unreached
        · intro target member
          rcases List.mem_cons.mp member with rfl | fallback
          · exact rejected.mono fun event member => by simp [member]
          · obtain ⟨member, supported⟩ := List.mem_filter.mp fallback
            exact (others target member supported).mono fun event member => by simp [member]

end Reports

/-- Every call fails in this environment, and each circuit answers as given. -/
def failing (rejects : String → Bool) : Unit → (request : Request) → Reply request × Span × Unit
  | _, .clock _ => (0, ⟨0, 0⟩, ())
  | _, .entropy => (none, ⟨0, 0⟩, ())
  | _, .sleep _ _ => (none, ⟨0, 0⟩, ())
  | _, .call _ _ _ => (some (.ready (.error (.networkError "reset"))), ⟨0, 0⟩, ())
  | _, .admission plan =>
      (if rejects plan.targetId then .reject 1
        else .allow (TargetCircuitRegistry.closedPermit plan.targetId 0), ⟨0, 0⟩, ())
  | _, .settle _ _ | _, .dropPermit _ | _, .record _ => ((), ⟨0, 0⟩, ())

/-- An event of the failing environment has its reply. -/
def Fails (rejects : String → Bool) (event : Event) : Prop :=
  event.reply = (failing rejects () event.request).1

/-- One attempt for each request leaves no retry. -/
def singleAttempt : ExecutorConfig := ⟨1, 0, 1, 0⟩

section Failing

variable {plan : RoutePlan} {params : ExecutionParams} {trace : List Event}
  {rejects : String → Bool}

theorem Fails.early {site : ClockSite} {now : Instant} {span : Span}
    (fails : Fails rejects (.clock site now span)) : ¬ 1 ≤ now := by
  have zero : now = 0 := fails
  subst zero
  exact Nat.not_succ_le_zero 0

theorem CallFailed.network {error : ExecutorError} (fails : ∀ event ∈ trace, Fails rejects event)
    (failed : CallFailed trace error) : error = .networkError "reset" := by
  obtain ⟨called, params, cutoff, reply, span, attemptTimeout, member, missed⟩ := failed
  have same : some reply = some (.ready (.error (.networkError "reset"))) := fails _ member
  cases same
  cases missed
  rfl

/-- A failed hop without a provider minimum continues before the deadline. -/
theorem Leaves.continues {error terminal : ExecutorError} (free : retryAfterOf error = none)
    (fails : ∀ event ∈ trace, Fails rejects event)
    (leaves : Leaves ⟨1⟩ error trace (some terminal)) : False := by
  cases leaves with
  | ended other ended =>
      cases ended with
      | expired late => exact (fails _ (List.mem_cons_self ..)).early late
      | exceeds early throttled positive long =>
          rw [free] at throttled
          cases throttled

/-- A failing call never finishes its attempt. -/
theorem Starts.unfinished {attempt : Nat} {budget used : AttemptBudget} {outcome : Outcome}
    (fails : ∀ event ∈ trace, Fails rejects event)
    (start : Starts singleAttempt plan params ⟨1⟩ attempt budget trace
      (some (.finished outcome, used))) : False := by
  generalize same : some (AttemptStep.finished outcome, used) = result at start
  cases start with
  | noCutoff late =>
      rcases late with late | zero
      · exact (fails _ (List.mem_cons_self ..)).early late
      · cases zero
  | dropped early timed room retried => cases same
  | @examined now span retry later next reply called after step early timed room retried examined =>
      have network : some reply = some (.ready (.error (.networkError "reset"))) :=
        fails (.call plan params (callCutoff singleAttempt ⟨1⟩ now) (some reply) called) (by simp)
      cases network
      cases same
      cases examined with
      | @expired now span recorded marked late =>
          exact (fails (.clock .isExpired now span) (by simp)).early late
      | succeeded early ready => cases ready
      | failed early missed continued =>
          cases missed
          cases continued with
          | permanent fatal => cases fatal
          | ended retryable terminated =>
              cases terminated with
              | @expired now span recorded late =>
                  exact (fails (.clock .isExpired now span) (by simp)).early late
              | exceeds early throttled positive long => cases throttled

/-- A failing loop ends with the network error of its only call. -/
theorem Attempts.failing {budget : AttemptBudget} {result : Option (Outcome × AttemptBudget)}
    (fails : ∀ event ∈ trace, Fails rejects event) (spare : budget.started < budget.maxTotal)
    (attempts : Attempts singleAttempt plan params ⟨1⟩ 1 0 budget none none trace result) :
    ∃ used, result = some (.error (.networkError "reset"), used) ∧ calls trace ≠ [] := by
  cases attempts with
  | expired late => exact ((fails _ (List.mem_cons_self ..)).early late).elim
  | spent early full => exact absurd spare (UInt32.not_lt.mpr full)
  | waitDropped early spare prepared =>
      cases prepared with
      | retry positive waited => exact absurd positive (Nat.lt_irrefl 0)
  | waitEnded early spare prepared =>
      cases prepared with
      | retry positive waited => exact absurd positive (Nat.lt_irrefl 0)
  | callDropped early spare prepared start =>
      cases start with
      | @dropped now span retry later next called lost checked recorded early timed room retried =>
          have impossible : (none : Option CallReply) =
              some (.ready (.error (.networkError "reset"))) :=
            fails (.call plan params (callCutoff singleAttempt ⟨1⟩ now) none called) (by simp)
          cases impossible
  | finished early spare prepared start =>
      exact (start.unfinished fun event member => fails event (by simp [member])).elim
  | continued early spare prepared start continued =>
      have failed := start.failure .failed
      obtain rfl := failed.network fun event member => fails event (by simp [member])
      cases continued with
      | exhausted =>
          exact ⟨_, rfl, (failed.mono fun event member => by simp [member]).called⟩

/-- A failing hop ends with an eligible error, and only a rejected hop is not called. -/
structure FailedHop (plan : RoutePlan) (rejects : String → Bool) (budget : AttemptBudget)
    (trace : List Event) (error : ExecutorError) (used : AttemptBudget) : Prop where
  eligible : isFallbackEligible error = true
  free : retryAfterOf error = none
  called : budget.started < budget.maxTotal → rejects plan.targetId = false → calls trace ≠ []
  rejected : budget.started < budget.maxTotal → rejects plan.targetId = true →
    used = budget ∧ error = .circuitOpen plan.vendorId 1

theorem Hops.failing {budget : AttemptBudget} {result : Option (Outcome × AttemptBudget)}
    (fails : ∀ event ∈ trace, Fails rejects event)
    (hops : Hops singleAttempt plan params ⟨1⟩ budget trace result) :
    ∃ error used, result = some (.error error, used) ∧
      FailedHop plan rejects budget trace error used := by
  have admitted : ∀ {now : Instant} {span asked : Span} {admission : CircuitAdmission}
      {permit : CircuitPermit} {maxRetries : UInt32} {settlement : Outcome → Effect Unit}
      {attempts closing : List Event} {result : Option (Outcome × AttemptBudget)},
      budget.started < budget.maxTotal → Admits singleAttempt admission permit maxRetries settlement →
      (∀ event ∈ Event.clock .isExpired now span :: .admission plan admission asked ::
        (attempts ++ closing), Fails rejects event) →
      Attempts singleAttempt plan params ⟨1⟩ (maxRetries.toNat + 1) 0 budget none none attempts
        result →
      ∃ error used, result = some (.error error, used) ∧
        FailedHop plan rejects budget (.clock .isExpired now span ::
          .admission plan admission asked :: (attempts ++ closing)) error used := by
    intro now span asked admission permit maxRetries settlement attempts closing result spare
      admits fails attempting
    have answer : admission = if rejects plan.targetId then .reject 1
        else .allow (TargetCircuitRegistry.closedPermit plan.targetId 0) :=
      fails (.admission plan admission asked) (by simp)
    have single : Attempts singleAttempt plan params ⟨1⟩ 1 0 budget none none attempts result := by
      cases admits <;> exact attempting
    obtain ⟨used, rfl, called⟩ := single.failing
      (fun event member => fails event (by simp [member])) spare
    refine ⟨_, used, rfl, rfl, rfl, fun _ _ => ?_, fun _ closed => ?_⟩
    · change calls (attempts ++ closing) ≠ []
      rw [calls_append]
      exact fun empty => called (List.append_eq_nil_iff.mp empty).1
    · rw [closed] at answer
      cases admits <;> cases answer
  cases hops with
  | expired late => exact ((fails _ (List.mem_cons_self ..)).early late).elim
  | spent early full =>
      exact ⟨_, _, rfl, rfl, rfl, fun spare => absurd spare (UInt32.not_lt.mpr full),
        fun spare => absurd spare (UInt32.not_lt.mpr full)⟩
  | @rejected now span retryAfterMs asked early spare =>
      have answer : CircuitAdmission.reject retryAfterMs = if rejects plan.targetId then .reject 1
          else .allow (TargetCircuitRegistry.closedPermit plan.targetId 0) :=
        fails (.admission plan (.reject retryAfterMs) asked) (by simp)
      cases closed : rejects plan.targetId with
      | true =>
          rw [closed] at answer
          cases answer
          refine ⟨_, _, rfl, rfl, rfl, fun _ admitted => ?_, fun _ _ => ⟨rfl, rfl⟩⟩
          rw [closed] at admitted
          cases admitted
      | false =>
          rw [closed] at answer
          cases answer
  | dropped early spare admits attempts =>
      obtain ⟨_, _, impossible, _⟩ := admitted spare admits fails attempts
      cases impossible
  | settled early spare admits attempts settles => exact admitted spare admits fails attempts

/-- A failing fallback loop returns its primary error after a call to an admitted target. -/
theorem Falls.failing {primaryError : ExecutorError} {fallbackPlans : List RoutePlan}
    {budget : AttemptBudget} {fromTarget : String} {outcome : Option Outcome}
    (fails : ∀ event ∈ trace, Fails rejects event)
    (falls : Falls singleAttempt params ⟨1⟩ primaryError fallbackPlans budget fromTarget trace
      outcome) :
    outcome = some (.error primaryError) ∧ (budget.started < budget.maxTotal →
      (∃ fallback ∈ fallbackPlans, hopSupportsParams fallback params = true ∧
        rejects fallback.targetId = false) → calls trace ≠ []) := by
  have finishes : ∀ {trace : List Event} {outcome : Outcome},
      (∀ event ∈ trace, Fails rejects event) → Finishes ⟨1⟩ primaryError trace outcome →
      outcome = .error primaryError := by
    intro trace outcome fails finished
    cases finished with
    | primary early => rfl
    | expired late => exact ((fails _ (List.mem_cons_self ..)).early late).elim
  induction falls with
  | finished finished =>
      rw [finishes fails finished]
      exact ⟨rfl, by simp⟩
  | expired late => exact ((fails _ (List.mem_cons_self ..)).early late).elim
  | @skipped fallback rest budget fromTarget now span trace outcome early unsupported falls ih =>
      obtain ⟨same, called⟩ := ih fun event member => fails event (by simp [member])
      refine ⟨same, fun spare ⟨other, member, supported, admitted⟩ => called spare ?_⟩
      rcases List.mem_cons.mp member with rfl | later
      · rw [unsupported] at supported
        cases supported
      · exact ⟨other, later, supported, admitted⟩
  | dropped early supported hops =>
      obtain ⟨_, _, impossible, _⟩ := hops.failing fun event member => fails event (by simp [member])
      cases impossible
  | succeeded early supported hops =>
      obtain ⟨_, _, impossible, _⟩ := hops.failing fun event member => fails event (by simp [member])
      cases impossible
  | hopExpired early supported hops =>
      obtain ⟨_, _, same, failed⟩ := hops.failing fun event member => fails event (by simp [member])
      cases same
      cases failed.eligible
  | ended early supported hops leaves =>
      obtain ⟨_, _, same, failed⟩ := hops.failing fun event member => fails event (by simp [member])
      cases same
      exact (leaves.continues failed.free fun event member => fails event (by simp [member])).elim
  | ineligible early supported hops leaves fatal finished =>
      obtain ⟨_, _, same, failed⟩ := hops.failing fun event member => fails event (by simp [member])
      cases same
      rw [failed.eligible] at fatal
      cases fatal
  | @continued fallback rest budget fromTarget now span marked hop error used trace falls outcome
      early supported hops leaves eligible continued ih =>
      obtain ⟨_, _, same, failed⟩ := hops.failing fun event member => fails event (by simp [member])
      cases same
      obtain ⟨same, called⟩ := ih fun event member => fails event (by simp [member])
      refine ⟨same, fun spare ⟨other, member, able, admitted⟩ => ?_⟩
      change calls (hop ++ (trace ++ falls)) ≠ []
      rw [calls_append, calls_append, calls_silent leaves.silent, List.nil_append]
      intro empty
      obtain ⟨uncalled, unreached⟩ := List.append_eq_nil_iff.mp empty
      cases closed : rejects fallback.targetId with
      | false => exact failed.called spare closed uncalled
      | true =>
          obtain ⟨rfl, _⟩ := failed.rejected spare closed
          rcases List.mem_cons.mp member with rfl | later
          · rw [admitted] at closed
            cases closed
          · exact called spare ⟨other, later, able, admitted⟩ unreached

/-- A failing request whose only closed circuit is a fallback still reports open circuits. -/
theorem Executes.failing {payload : Json} {outcome : Option Outcome}
    (extracted : extractParams payload = .ok params) (closed : rejects plan.targetId = true)
    (admitted : ∃ fallback ∈ plan.fallbackPlans, hopSupportsParams fallback params = true ∧
      rejects fallback.targetId = false) (fails : ∀ event ∈ trace, Fails rejects event)
    (executes : Executes singleAttempt plan ⟨1⟩ payload trace outcome) :
    outcome = some (.error (.circuitOpen plan.vendorId 1)) ∧ calls trace ≠ [] := by
  have spare := AttemptBudget.new_spare singleAttempt.maxTotalAttempts
  cases executes with
  | expired late => exact ((fails _ (List.mem_cons_self ..)).early late).elim
  | invalid early rejected =>
      rw [extracted] at rejected
      cases rejected
  | dropped early found hops =>
      obtain ⟨_, _, impossible, _⟩ := hops.failing fun event member => fails event (by simp [member])
      cases impossible
  | succeeded early found hops =>
      obtain ⟨_, _, impossible, _⟩ := hops.failing fun event member => fails event (by simp [member])
      cases impossible
  | hopExpired early found hops =>
      obtain ⟨_, _, same, failed⟩ := hops.failing fun event member => fails event (by simp [member])
      cases same
      cases failed.eligible
  | ended early found hops leaves =>
      obtain ⟨_, _, same, failed⟩ := hops.failing fun event member => fails event (by simp [member])
      cases same
      exact (leaves.continues failed.free fun event member => fails event (by simp [member])).elim
  | ineligible early found hops leaves fatal =>
      obtain ⟨_, _, same, failed⟩ := hops.failing fun event member => fails event (by simp [member])
      cases same
      rw [failed.eligible] at fatal
      cases fatal
  | @lateFallbacks now span params hop error used trace later next marked early found hops leaves
      eligible late =>
      exact ((fails (.clock .isExpired later next) (by simp)).early late).elim
  | noFallbacks early found hops leaves eligible pending empty =>
      obtain ⟨fallback, member, _⟩ := admitted
      rw [empty] at member
      cases member
  | @fallbacks now span found hop error used trace later next falls outcome early extracts hops
      leaves eligible pending nonempty continued =>
      cases extracted.symm.trans extracts
      obtain ⟨_, _, same, failed⟩ := hops.failing fun event member => fails event (by simp [member])
      cases same
      obtain ⟨rfl, rfl⟩ := failed.rejected spare closed
      obtain ⟨rfl, called⟩ := continued.failing fun event member => fails event (by simp [member])
      refine ⟨rfl, fun empty => called spare admitted ?_⟩
      change calls (hop ++ (trace ++ .clock .isExpired later next :: falls)) = [] at empty
      rw [calls_append, calls_append] at empty
      exact (List.append_eq_nil_iff.mp (List.append_eq_nil_iff.mp empty).2).2

end Failing

/-- The failing environment answers each circuit as given, and it is no vendor with circuits. -/
theorem fails_drive {Value : Type} (rejects : String → Bool) (program : Effect Value) :
    ∀ event ∈ (program.drive (failing rejects) ()).1,
      Fails rejects event ∧ Answers rejects event ∧ Upstream event := by
  intro event member
  obtain ⟨_, fails⟩ := program.drive_answers (failing rejects) () event member
  refine ⟨fails, ?_, ?_⟩
  · obtain ⟨request, reply, span⟩ := event
    cases request with
    | admission plan =>
        have answer : reply = if rejects plan.targetId then .reject 1
          else .allow (TargetCircuitRegistry.closedPermit plan.targetId 0) := fails
        subst answer
        cases closed : rejects plan.targetId <;>
          simp [Answers, closed, CircuitAdmission.IsReject]
    | _ => trivial
  · obtain ⟨request, reply, span⟩ := event
    cases request with
    | call plan params cutoff =>
        have answer : reply = some (.ready (.error (.networkError "reset"))) := fails
        subst answer
        rintro _ _ _ _ ⟨⟩ ⟨⟩
    | _ => trivial

/-- Every run reports open circuits truthfully exactly when an open primary leaves no closed one. -/
theorem circuit_open_report (plan : RoutePlan) (payload : Json) (params : ExecutionParams)
    (rejects : String → Bool) (extracted : extractParams payload = .ok params) :
    (∀ config deadline trace outcome, (execute config plan payload deadline).Runs trace outcome →
      (∀ event ∈ trace, Answers rejects event) → (∀ event ∈ trace, Upstream event) →
      ReportsOpenCircuits plan params trace outcome) ↔
    (rejects plan.targetId = true → ∀ fallback ∈ plan.fallbackPlans,
      hopSupportsParams fallback params = true → rejects fallback.targetId = true) := by
  constructor
  · intro reports closed fallback member supported
    by_contra admitted
    have run := (execute singleAttempt plan payload ⟨1⟩).runs_drive (failing rejects) ()
    have environment := fails_drive rejects (execute singleAttempt plan payload ⟨1⟩)
    obtain ⟨opened, called⟩ := (executes_of_runs singleAttempt plan ⟨1⟩ run).failing extracted
      closed ⟨fallback, member, supported, eq_false_of_ne_true admitted⟩
      fun event member => (environment event member).1
    have report := reports singleAttempt ⟨1⟩ _ _ run
      (fun event member => (environment event member).2.1)
      (fun event member => (environment event member).2.2) plan.vendorId 1 opened
    exact called report.1
  · intro closed config deadline trace outcome run answers upstream
    exact (executes_of_runs config plan deadline run).reports extracted answers upstream closed

/-- The open primary of this request is skipped. -/
def openPrimary : Effect Outcome :=
  execute singleAttempt failoverPlan (.object [("messages", .array [])]) ⟨1⟩

theorem circuit_open_report_example :
    calls (openPrimary.drive (failing fun _ => true) ()).1 = [] :=
  ((circuit_open_report failoverPlan (.object [("messages", .array [])])
    ⟨[], none, none, none, false⟩ (fun _ => true) rfl).mpr (fun _ _ _ _ => rfl) singleAttempt ⟨1⟩ _ _
    (openPrimary.runs_drive (failing fun _ => true) ())
    (fun event member => (fails_drive _ openPrimary event member).2.1)
    (fun event member => (fails_drive _ openPrimary event member).2.2) "openai" 1 (by decide)).1

/-- The fallback is called and fails, and the request still reports open circuits. -/
theorem called_fallback_reported_open :
    ¬ ∀ config plan payload params deadline trace outcome,
      (execute config plan payload deadline).Runs trace outcome →
      extractParams payload = .ok params → (∀ event ∈ trace, Upstream event) →
      ReportsOpenCircuits plan params trace outcome := by
  intro always
  have report := always singleAttempt failoverPlan (.object [("messages", .array [])])
    ⟨[], none, none, none, false⟩ ⟨1⟩ _ _ (openPrimary.runs_drive (failing (· == "a")) ()) rfl
    fun event member => (fails_drive _ openPrimary event member).2.2
  have uncalled := (report "openai" 1 (by decide)).1
  have called : (calls (openPrimary.drive (failing (· == "a")) ()).1).map RoutePlan.targetId =
    ["b"] := by decide
  rw [uncalled] at called
  cases called

end Opmux.Executor
