import OpmuxGateway.Proof.Executor.Decision

/-
This file balances the metric events of one execution with its calls and its outcome.
-/

namespace Opmux.Executor
open Circuit (CircuitPermit CircuitAdmission)

def recordedEvent : Event → Option ExecutionEvent
  | ⟨.record event, _, _⟩ => some event
  | _ => none

/-- The metric events of a trace in their order. -/
def recorded (trace : List Event) : List ExecutionEvent := trace.filterMap recordedEvent

namespace ExecutionEvent

def attempted : ExecutionEvent → Option String
  | .attempt targetId _ => some targetId
  | _ => none

def retried : ExecutionEvent → Option String
  | .retry targetId => some targetId
  | _ => none

def used : ExecutionEvent → Option (String × Int × Int)
  | .successfulUsage targetId promptTokens completionTokens =>
      some (targetId, promptTokens, completionTokens)
  | _ => none

end ExecutionEvent

/-- The targets of the attempt events. -/
def attemptedTargets (trace : List Event) : List String :=
  (recorded trace).filterMap ExecutionEvent.attempted

/-- The targets of the retry events. -/
def retriedTargets (trace : List Event) : List String :=
  (recorded trace).filterMap ExecutionEvent.retried

/-- The targets and the token counts of the usage events. -/
def usages (trace : List Event) : List (String × Int × Int) :=
  (recorded trace).filterMap ExecutionEvent.used

/-- The number of the deadline events. -/
def expiries (trace : List Event) : Nat := (recorded trace).count .deadlineExceeded

/-- A hop is called when it starts at least one call. -/
def HopRecord.called (record : HopRecord) : Bool := !record.calls.isEmpty

/-- The last call of the trace returned the result, and only its usage is recorded. -/
def Succeeds (trace : List Event) (result : ExecutionResult) : Prop :=
  ∃ before called params cutoff span after,
    trace = before ++ .call called params cutoff (some (.ready (.ok result))) span :: after ∧
      calls after = [] ∧
      usages trace = [(called.targetId, result.promptTokens, result.completionTokens)]

/-- A success records its usage, an expiry records itself, and nothing else records either. -/
def Concludes (trace : List Event) : Option Outcome → Prop
  | some (.ok result) => Succeeds trace result ∧ expiries trace = 0
  | some (.error error) =>
      usages trace = [] ∧ expiries trace = if error = .deadlineExceeded then 1 else 0
  | none => usages trace = [] ∧ expiries trace = 0

section Projections

variable (first second : List Event)

theorem recorded_append : recorded (first ++ second) = recorded first ++ recorded second :=
  List.filterMap_append

theorem attemptedTargets_append :
    attemptedTargets (first ++ second) = attemptedTargets first ++ attemptedTargets second := by
  rw [attemptedTargets, recorded_append, List.filterMap_append]
  rfl

theorem retriedTargets_append :
    retriedTargets (first ++ second) = retriedTargets first ++ retriedTargets second := by
  rw [retriedTargets, recorded_append, List.filterMap_append]
  rfl

theorem usages_append : usages (first ++ second) = usages first ++ usages second := by
  rw [usages, recorded_append, List.filterMap_append]
  rfl

theorem expiries_append : expiries (first ++ second) = expiries first + expiries second := by
  rw [expiries, recorded_append, List.count_append]
  rfl

end Projections

/-- An expiry that ends a program is its only recorded event. -/
def expiryEvents : Option ExecutorError → List ExecutionEvent
  | some .deadlineExceeded => [.deadlineExceeded]
  | _ => []

theorem expiryEvents_other {error : ExecutorError} (other : error ≠ .deadlineExceeded) :
    expiryEvents (some error) = [] := by
  cases error with
  | deadlineExceeded => exact absurd rfl other
  | _ => rfl

section Recorded

variable {config : ExecutorConfig} {plan : RoutePlan} {params : ExecutionParams}
  {deadline : RequestDeadline} {trace : List Event}

theorem Ends.recorded {error : ExecutorError} {result : Option ExecutorError}
    (ended : Ends deadline error trace result) : recorded trace = expiryEvents result := by
  cases ended with
  | expired late => rfl
  | unthrottled early free => rfl
  | fits early throttled fitting => rfl
  | exceeds early throttled positive long =>
      rw [expiryEvents_other]
      · rfl
      · rintro rfl
        cases throttled

theorem Checks.recorded {result : Option ExecutorError} (checked : Checks deadline trace result) :
    recorded trace = expiryEvents result := by
  cases checked <;> rfl

theorem Plans.recorded {attempt ms : Nat} {retryAfterMs : Option Nat} {minimum : Bool}
    (planned : Plans config attempt retryAfterMs trace ms minimum) : recorded trace = [] := by
  cases planned with
  | minimum => rfl
  | jitter jittered => cases jittered <;> rfl

theorem throttledError_other (plan : RoutePlan) (lastError : Option ExecutorError)
    (retryAfter : Duration) : throttledError plan lastError retryAfter ≠ .deadlineExceeded := by
  unfold throttledError
  split <;> simp

theorem Waits.recorded {attempt : Nat} {lastError : Option ExecutorError}
    {retryAfterMs : Option Nat} {result : Option (Option ExecutorError)}
    (waited : Waits config plan deadline attempt lastError retryAfterMs trace result) :
    recorded trace = expiryEvents result.join := by
  cases waited with
  | immediate planned zero checked =>
      rw [recorded_append, planned.recorded]
      exact checked.recorded
  | slept planned fits checked =>
      rw [recorded_append, planned.recorded]
      exact checked.recorded
  | elapsed planned fits =>
      rw [recorded_append, planned.recorded]
      rfl
  | dropped planned fits =>
      rw [recorded_append, planned.recorded]
      rfl
  | cannotFit planned long =>
      rw [recorded_append, planned.recorded]
      exact (expiryEvents_other (throttledError_other plan lastError _)).symm
  | tooLong planned long =>
      rw [recorded_append, planned.recorded]
      rfl

theorem Prepares.recorded {attempt : Nat} {lastError : Option ExecutorError}
    {retryAfterMs : Option Nat} {result : Option (Option ExecutorError)}
    (prepared : Prepares config plan deadline attempt lastError retryAfterMs trace result) :
    recorded trace = expiryEvents result.join := by
  cases prepared with
  | first zero => rfl
  | retry positive waited => exact waited.recorded

theorem Finishes.recorded {primaryError : ExecutorError} {outcome : Outcome}
    (other : primaryError ≠ .deadlineExceeded)
    (finished : Finishes deadline primaryError trace outcome) :
    ∃ error, outcome = .error error ∧ recorded trace = expiryEvents (some error) := by
  cases finished with
  | primary early => exact ⟨_, rfl, (expiryEvents_other other).symm⟩
  | expired late => exact ⟨_, rfl, rfl⟩

theorem Leaves.recorded {error : ExecutorError} {result : Option ExecutorError}
    (leaves : Leaves deadline error trace result) : recorded trace = expiryEvents result := by
  cases leaves with
  | ended other ended => exact ended.recorded
  | spared other spared => exact spared.recorded

theorem Retries.recorded {attempt : Nat} (retried : Retries plan attempt trace) :
    recorded trace = if 0 < attempt then [.retry plan.targetId] else [] := by
  cases retried with
  | first zero => rw [if_neg (by omega)]; rfl
  | later positive => rw [if_pos positive]; rfl

end Recorded

section Conclusions

variable {trace first second : List Event} {outcome : Option Outcome}

/-- A trace with only an expiry concludes with its error. -/
theorem concludes_expiry {error : ExecutorError}
    (same : recorded trace = expiryEvents (some error)) :
    Concludes trace (some (.error error)) := by
  unfold Concludes usages expiries
  rw [same]
  by_cases expired : error = .deadlineExceeded
  · subst expired
    exact ⟨rfl, rfl⟩
  · rw [expiryEvents_other expired]
    exact ⟨rfl, (if_neg expired).symm⟩

/-- A trace without a metric event concludes nothing. -/
theorem concludes_nothing (same : recorded trace = []) : Concludes trace none := by
  unfold Concludes usages expiries
  rw [same]
  exact ⟨rfl, rfl⟩

/-- An inconclusive first part leaves the conclusion to the second part. -/
theorem Concludes.before (quiet : Concludes first none) (concluded : Concludes second outcome) :
    Concludes (first ++ second) outcome := by
  have used : usages (first ++ second) = usages second := by
    rw [usages_append, quiet.1, List.nil_append]
  have expired : expiries (first ++ second) = expiries second := by
    rw [expiries_append, quiet.2, Nat.zero_add]
  rcases outcome with _ | error | result
  · exact ⟨used.trans concluded.1, expired.trans concluded.2⟩
  · exact ⟨used.trans concluded.1, expired.trans concluded.2⟩
  · obtain ⟨⟨before, called, params, cutoff, span, after, rfl, last, own⟩, none⟩ := concluded
    exact ⟨⟨first ++ before, called, params, cutoff, span, after, by simp, last,
      used.trans own⟩, expired.trans none⟩

/-- An inconclusive second part without calls keeps the conclusion of the first part. -/
theorem Concludes.after (concluded : Concludes first outcome) (uncalled : calls second = [])
    (quiet : Concludes second none) : Concludes (first ++ second) outcome := by
  have used : usages (first ++ second) = usages first := by
    rw [usages_append, quiet.1, List.append_nil]
  have expired : expiries (first ++ second) = expiries first := by
    rw [expiries_append, quiet.2, Nat.add_zero]
  rcases outcome with _ | error | result
  · exact ⟨used.trans concluded.1, expired.trans concluded.2⟩
  · exact ⟨used.trans concluded.1, expired.trans concluded.2⟩
  · obtain ⟨⟨before, called, params, cutoff, span, after, rfl, last, own⟩, none⟩ := concluded
    refine ⟨⟨before, called, params, cutoff, span, after ++ second, by simp, ?_,
      used.trans own⟩, expired.trans none⟩
    rw [calls_append, last, uncalled]
    rfl

end Conclusions

/-- The attempt events name the called targets in their order. -/
def Attempted (trace : List Event) : Prop :=
  attemptedTargets trace = (calls trace).map RoutePlan.targetId

theorem Attempted.append {first second : List Event} (left : Attempted first)
    (right : Attempted second) : Attempted (first ++ second) := by
  unfold Attempted at *
  rw [attemptedTargets_append, calls_append, List.map_append, left, right]

/-- A trace that only records an expiry has no attempt. -/
theorem attempted_expiry {trace : List Event} {result : Option ExecutorError}
    (silent : ∀ event ∈ trace, Silent event) (same : recorded trace = expiryEvents result) :
    Attempted trace ∧ retriedTargets trace = [] := by
  unfold Attempted attemptedTargets retriedTargets
  rw [calls_silent silent, same]
  rcases result with _ | error
  · exact ⟨rfl, rfl⟩
  · by_cases expired : error = .deadlineExceeded
    · subst expired
      exact ⟨rfl, rfl⟩
    · rw [expiryEvents_other expired]
      exact ⟨rfl, rfl⟩

/-- Only a finished step has an outcome. -/
def AttemptStep.outcome : AttemptStep → Option Outcome
  | .finished outcome => some outcome
  | _ => none

/-- The events of one examined call start with its attempt and end with its conclusion. -/
structure Examined (plan : RoutePlan) (reply : CallReply) (trace : List Event)
    (step : AttemptStep) : Prop where
  attempts : attemptedTargets trace = [plan.targetId]
  retries : retriedTargets trace = []
  concludes : ∀ params cutoff span,
    Concludes (.call plan params cutoff (some reply) span :: trace) step.outcome

/-- The metrics of one started attempt. -/
structure Started (attempt : Nat) (trace : List Event)
    (result : Option (AttemptStep × AttemptBudget)) : Prop where
  attempts : Attempted trace
  retries : (retriedTargets trace).length = if 0 < attempt then (calls trace).length else 0
  single : (calls trace).length ≤ 1
  called : ∀ error used, result = some (.failed error, used) → (calls trace).length = 1
  concludes : Concludes trace (result.bind fun pair => pair.1.outcome)

section Attempt

variable {config : ExecutorConfig} {plan : RoutePlan} {params : ExecutionParams}
  {deadline : RequestDeadline} {trace : List Event}

theorem Continues.concludes {error : ExecutorError} {step : AttemptStep}
    (other : error ≠ .deadlineExceeded) (continued : Continues deadline error trace step) :
    Concludes trace step.outcome ∧ ∃ result, recorded trace = expiryEvents result := by
  cases continued with
  | permanent fatal =>
      have same : recorded [] = expiryEvents (some error) := (expiryEvents_other other).symm
      exact ⟨concludes_expiry same, _, same⟩
  | failed retryable spared => exact ⟨concludes_nothing spared.recorded, none, spared.recorded⟩
  | ended retryable terminated =>
      exact ⟨concludes_expiry terminated.recorded, _, terminated.recorded⟩

theorem Examines.metrics {reply : CallReply} {attemptTimeout : Duration} {step : AttemptStep}
    (genuine : reply.Genuine)
    (examined : Examines plan deadline reply attemptTimeout trace step) :
    Examined plan reply trace step := by
  cases examined with
  | expired late => exact ⟨rfl, rfl, fun params cutoff span => ⟨rfl, rfl⟩⟩
  | @succeeded now span recorded used result early ready =>
      subst ready
      refine ⟨rfl, rfl, fun params cutoff called => ⟨⟨[], plan, params, cutoff, called, _, rfl,
        rfl, rfl⟩, rfl⟩⟩
  | @failed now span recorded error trace step early missed continued =>
      have other : error ≠ .deadlineExceeded := by
        rintro rfl
        exact callOutcome_genuine genuine attemptTimeout missed
      obtain ⟨concluded, result, same⟩ := continued.concludes other
      obtain ⟨attempts, retries⟩ := attempted_expiry continued.silent same
      have uncalled : attemptedTargets trace = [] := by
        rw [attempts, calls_silent continued.silent]
        rfl
      refine ⟨?_, retries, fun params cutoff called => ?_⟩
      · change plan.targetId :: attemptedTargets trace = _
        rw [uncalled]
      · have quiet : Concludes [.call plan params cutoff (some reply) called,
            .clock .isExpired now span,
            .record (.attempt plan.targetId (examinedOutcome reply)) recorded] none := ⟨rfl, rfl⟩
        exact quiet.before concluded

/-- A started attempt records at most one retry and one attempt with its call. -/
theorem Starts.metrics {attempt : Nat} {budget : AttemptBudget}
    {result : Option (AttemptStep × AttemptBudget)} (genuine : ∀ event ∈ trace, Genuine event)
    (start : Starts config plan params deadline attempt budget trace result) :
    Started attempt trace result := by
  have around : ∀ {retry : List Event} (after : List Event) {now later cutoff : Instant}
      {span next called : Span} {reply : Option CallReply}, Retries plan attempt retry →
      (∀ event ∈ after, Silent event) → attemptedTargets after = [plan.targetId] →
      retriedTargets after = [] →
      ∀ trace, trace = .clock .attemptCutoff now span :: (retry ++
        .clock .attemptTimeout later next :: .call plan params cutoff reply called :: after) →
      Attempted trace ∧
        (retriedTargets trace).length = (if 0 < attempt then (calls trace).length else 0) ∧
        (calls trace).length = 1 := by
    intro retry after now later cutoff span next called reply retried still attempts retries
    rintro _ rfl
    have started : calls (.clock .attemptCutoff now span :: (retry ++
        .clock .attemptTimeout later next :: .call plan params cutoff reply called :: after)) =
        [plan] := by
      change calls (retry ++ _) = _
      rw [calls_append, calls_silent retried.silent]
      change [] ++ plan :: calls after = _
      rw [calls_silent still]
      rfl
    unfold Attempted
    rw [started]
    refine ⟨?_, ?_, rfl⟩
    · change attemptedTargets (retry ++ ([.clock .attemptTimeout later next,
        .call plan params cutoff reply called] ++ after)) = _
      rw [attemptedTargets_append, attemptedTargets_append, attempts, attemptedTargets,
        retried.recorded]
      split <;> rfl
    · change (retriedTargets (retry ++ ([.clock .attemptTimeout later next,
        .call plan params cutoff reply called] ++ after))).length = _
      rw [retriedTargets_append, retriedTargets_append, retries, retriedTargets,
        retried.recorded]
      split <;> rfl
  have quietRetry : ∀ {retry : List Event} (now : Instant) (span : Span),
      Retries plan attempt retry → Concludes (.clock .attemptCutoff now span :: retry) none := by
    intro retry now span retried
    change usages retry = [] ∧ expiries retry = 0
    unfold usages expiries
    rw [retried.recorded]
    split <;> exact ⟨rfl, rfl⟩
  cases start with
  | noCutoff late =>
      exact ⟨rfl, by split <;> rfl, Nat.zero_le 1, by simp, rfl, rfl⟩
  | @dropped now span retry later next called lost checked recorded early timed room retried =>
      obtain ⟨attempts, retries, single⟩ := around [.clock .isExpired lost checked,
        .record (.attempt plan.targetId
          (if deadline.isExpired lost then .deadline else .cancelled)) recorded]
        retried (by simp) rfl rfl _ rfl
      refine ⟨attempts, retries, Nat.le_of_eq single, by simp, ?_⟩
      have tail : Concludes [.clock .attemptTimeout later next,
          .call plan params (callCutoff config deadline now) none called,
          .clock .isExpired lost checked, .record (.attempt plan.targetId
            (if deadline.isExpired lost then .deadline else .cancelled)) recorded] none :=
        ⟨rfl, rfl⟩
      exact (quietRetry now span retried).before tail
  | @examined now span retry later next reply called after step early timed room retried
      examined =>
      have answered : reply.Genuine := genuine
        (.call plan params (callCutoff config deadline now) (some reply) called) (by simp) reply rfl
      have metrics := examined.metrics answered
      obtain ⟨attempts, retries, single⟩ := around after retried examined.silent metrics.attempts
        metrics.retries _ rfl
      refine ⟨attempts, retries, Nat.le_of_eq single, fun _ _ _ => single, ?_⟩
      have timer : Concludes [.clock .attemptTimeout later next] none := ⟨rfl, rfl⟩
      exact (quietRetry now span retried).before (timer.before (metrics.concludes ..))

end Attempt

/-- The metrics of an attempt loop, whose first attempt is no retry. -/
structure Looped (attempt : Nat) (trace : List Event)
    (result : Option (Outcome × AttemptBudget)) : Prop where
  attempts : Attempted trace
  retries : (retriedTargets trace).length +
    (if attempt = 0 then min 1 (calls trace).length else 0) = (calls trace).length
  concludes : Concludes trace (result.map Prod.fst)

/-- A loop without calls only concludes. -/
theorem looped_silent {attempt : Nat} {trace : List Event}
    {result : Option (Outcome × AttemptBudget)} {ended : Option ExecutorError}
    (silent : ∀ event ∈ trace, Silent event) (same : recorded trace = expiryEvents ended)
    (concludes : Concludes trace (result.map Prod.fst)) : Looped attempt trace result := by
  obtain ⟨attempts, retries⟩ := attempted_expiry silent same
  refine ⟨attempts, ?_, concludes⟩
  rw [retries, calls_silent silent]
  split <;> rfl

/-- A loop continues after a silent part and one started attempt. -/
theorem Started.looped {attempt : Nat} {ready started : List Event}
    {step : Option (AttemptStep × AttemptBudget)} (start : Started attempt started step)
    (rest : List Event) (result : Option (Outcome × AttemptBudget))
    (silent : ∀ event ∈ ready, Silent event) (quiet : recorded ready = [])
    (attempts : Attempted rest) (retries : (retriedTargets rest).length = (calls rest).length)
    (called : calls rest ≠ [] → (calls started).length = 1)
    (concludes : Concludes (started ++ rest) (result.map Prod.fst)) :
    Looped attempt (ready ++ (started ++ rest)) result := by
  have same : recorded ready = expiryEvents none := quiet
  obtain ⟨first, none⟩ := attempted_expiry silent same
  refine ⟨first.append (start.attempts.append attempts), ?_,
    (concludes_nothing quiet).before concludes⟩
  have single := start.single
  have retried := start.retries
  rw [retriedTargets_append, retriedTargets_append, none, List.nil_append, calls_append,
    calls_silent silent, List.nil_append, calls_append, List.length_append, List.length_append,
    retries, retried]
  by_cases empty : calls rest = []
  · rw [empty, List.length_nil]
    rcases Nat.eq_zero_or_pos attempt with zero | positive
    · rw [if_neg (by omega), if_pos zero]
      omega
    · rw [if_pos positive, if_neg (by omega)]
  · have one := called empty
    rcases Nat.eq_zero_or_pos attempt with zero | positive
    · rw [if_neg (by omega), if_pos zero]
      omega
    · rw [if_pos positive, if_neg (by omega), Nat.add_zero]

section Loop

variable {config : ExecutorConfig} {plan : RoutePlan} {params : ExecutionParams}
  {deadline : RequestDeadline} {trace : List Event}

theorem exhausted_other {lastError : Option ExecutorError}
    (other : lastError ≠ some .deadlineExceeded) :
    lastError.getD (.apiCallFailed "Max retries exceeded") ≠ .deadlineExceeded := by
  rcases lastError with _ | error
  · simp
  · exact fun same => other (congrArg some same)

/-- A loop continues only after a retryable error. -/
theorem Starts.retryable {attempt : Nat} {budget used : AttemptBudget} {error : ExecutorError}
    (start : Starts config plan params deadline attempt budget trace
      (some (.failed error, used))) : isRetryableError error = true := by
  generalize same : some (AttemptStep.failed error, used) = result at start
  cases start with
  | noCutoff late => cases same
  | dropped early timed room retried => cases same
  | examined early timed room retried examined =>
      cases same
      cases examined with
      | failed early missed continued =>
          cases continued with
          | failed retryable spared => exact retryable

theorem Attempts.metrics {left attempt : Nat} {budget : AttemptBudget}
    {lastError : Option ExecutorError} {retryAfterMs : Option Nat}
    {result : Option (Outcome × AttemptBudget)} (other : lastError ≠ some .deadlineExceeded)
    (genuine : ∀ event ∈ trace, Genuine event)
    (attempts : Attempts config plan params deadline left attempt budget lastError retryAfterMs
      trace result) : Looped attempt trace result := by
  have checked : ∀ {now : Instant} {span : Span} {trace : List Event},
      (∀ event ∈ trace, Silent event) →
      ∀ event ∈ Event.clock .isExpired now span :: trace, Silent event := by
    intro now span trace silent
    simpa using silent
  induction attempts with
  | exhausted =>
      have same : recorded [] = expiryEvents (some _) :=
        (expiryEvents_other (exhausted_other other)).symm
      exact looped_silent (by simp) same (concludes_expiry same)
  | @expired left attempt budget lastError retryAfterMs now span marked late =>
      have same : recorded [.clock .isExpired now span, .record .deadlineExceeded marked] =
        expiryEvents (some .deadlineExceeded) := rfl
      exact looped_silent (by simp) same (concludes_expiry same)
  | @spent left attempt budget lastError retryAfterMs now span early full =>
      have same : recorded [.clock .isExpired now span] = expiryEvents (some _) :=
        (expiryEvents_other (exhausted_other other)).symm
      exact looped_silent (by simp) same (concludes_expiry same)
  | @waitDropped left attempt budget lastError retryAfterMs now span trace early spare prepared =>
      have same : recorded (.clock .isExpired now span :: trace) = expiryEvents none :=
        prepared.recorded
      exact looped_silent (checked prepared.silent) same (concludes_nothing same)
  | @waitEnded left attempt budget lastError retryAfterMs now span trace error early spare
      prepared =>
      have same : recorded (.clock .isExpired now span :: trace) = expiryEvents (some error) :=
        prepared.recorded
      exact looped_silent (checked prepared.silent) same (concludes_expiry same)
  | @callDropped left attempt budget lastError retryAfterMs now span trace started early spare
      prepared start =>
      have metrics := start.metrics fun event member => genuine event (by simp [member])
      have quiet : recorded (.clock .isExpired now span :: trace) = [] := prepared.recorded
      have concludes : Concludes (started ++ []) none := by
        rw [List.append_nil]
        exact metrics.concludes
      simpa using metrics.looped [] none (checked prepared.silent) quiet rfl rfl
        (fun impossible => absurd rfl impossible) concludes
  | @finished left attempt budget lastError retryAfterMs now span trace started outcome used early
      spare prepared start =>
      have metrics := start.metrics fun event member => genuine event (by simp [member])
      have quiet : recorded (.clock .isExpired now span :: trace) = [] := prepared.recorded
      have concludes : Concludes (started ++ []) (some outcome) := by
        rw [List.append_nil]
        exact metrics.concludes
      simpa using metrics.looped [] (some (outcome, used)) (checked prepared.silent) quiet rfl rfl
        (fun impossible => absurd rfl impossible) concludes
  | @continued left attempt budget lastError retryAfterMs now span trace started error used rest
      result early spare prepared start continued ih =>
      have metrics := start.metrics fun event member => genuine event (by simp [member])
      have quiet : recorded (.clock .isExpired now span :: trace) = [] := prepared.recorded
      have looped := ih (by rintro ⟨⟩; cases start.retryable)
        fun event member => genuine event (by simp [member])
      have retries := looped.retries
      rw [if_neg (Nat.succ_ne_zero attempt), Nat.add_zero] at retries
      simpa using metrics.looped rest result (checked prepared.silent) quiet looped.attempts
        retries (fun _ => metrics.called error used rfl) (metrics.concludes.before looped.concludes)

/-- A settlement records no metric event. -/
theorem Settles.recorded {permit : CircuitPermit} (settles : Settles permit trace) :
    recorded trace = [] := by
  cases settles <;> rfl

theorem Settles.uncalled {permit : CircuitPermit} (settles : Settles permit trace) :
    calls trace = [] := by
  cases settles <;> rfl

/-- The admission and the settlement of a hop leave the metrics of its attempts. -/
theorem Looped.hop {result : Option (Outcome × AttemptBudget)} {attempts closing : List Event}
    {permit : CircuitPermit} (now : Instant) (span asked : Span) (admission : CircuitAdmission)
    (looped : Looped 0 attempts result) (settles : Settles permit closing) :
    Looped 0 (.clock .isExpired now span :: .admission plan admission asked ::
      (attempts ++ closing)) result := by
  have attempted : attemptedTargets (attempts ++ closing) = attemptedTargets attempts := by
    rw [attemptedTargets, recorded_append, settles.recorded, List.append_nil]
    rfl
  have retried : retriedTargets (attempts ++ closing) = retriedTargets attempts := by
    rw [retriedTargets, recorded_append, settles.recorded, List.append_nil]
    rfl
  have called : calls (attempts ++ closing) = calls attempts := by
    rw [calls_append, settles.uncalled, List.append_nil]
  have opening : Concludes [.clock .isExpired now span, .admission plan admission asked] none :=
    ⟨rfl, rfl⟩
  refine ⟨?_, ?_, opening.before
    (looped.concludes.after settles.uncalled (concludes_nothing settles.recorded))⟩
  · change attemptedTargets (attempts ++ closing) = (calls (attempts ++ closing)).map _
    rw [attempted, called]
    exact looped.attempts
  · change (retriedTargets (attempts ++ closing)).length +
      min 1 (calls (attempts ++ closing)).length = (calls (attempts ++ closing)).length
    rw [retried, called]
    exact looped.retries

theorem Hops.metrics {budget : AttemptBudget} {result : Option (Outcome × AttemptBudget)}
    (genuine : ∀ event ∈ trace, Genuine event)
    (hops : Hops config plan params deadline budget trace result) : Looped 0 trace result := by
  cases hops with
  | expired late => exact ⟨rfl, rfl, rfl, rfl⟩
  | spent early full => exact ⟨rfl, rfl, rfl, rfl⟩
  | rejected early spare => exact ⟨rfl, rfl, rfl, rfl⟩
  | @dropped now span admission permit maxRetries settlement asked trace released early spare
      admitted attempts =>
      have looped := attempts.metrics (by simp) fun event member => genuine event (by simp [member])
      have settles : Settles permit [.dropPermit permit released] := .released
      exact looped.hop now span asked admission settles
  | @settled now span admission permit maxRetries settlement asked trace outcome used closing
      early spare admitted attempts settles =>
      have looped := attempts.metrics (by simp) fun event member => genuine event (by simp [member])
      exact looped.hop now span asked admission (settles_of_runs config admitted settles).2

end Loop

/-- The retry events are the calls less the called hops, and the attempt events are the calls. -/
structure Metered (trace : List Event) (blocks : List HopRecord) : Prop where
  records : ∀ records, trace.foldl observeHop records = blocks.reverse ++ records
  attempts : Attempted trace
  retries : (retriedTargets trace).length + (blocks.filter HopRecord.called).length =
    (calls trace).length

theorem Metered.append {first second : List Event} {left right : List HopRecord}
    (head : Metered first left) (tail : Metered second right) :
    Metered (first ++ second) (left ++ right) where
  records records := by
    rw [List.foldl_append, head.records, tail.records, List.reverse_append, List.append_assoc]
  attempts := head.attempts.append tail.attempts
  retries := by
    have before := head.retries
    have after := tail.retries
    rw [retriedTargets_append, calls_append, List.filter_append, List.length_append,
      List.length_append, List.length_append]
    omega

/-- A silent trace that only records an expiry has no hop. -/
theorem metered_silent {trace : List Event} {result : Option ExecutorError}
    (silent : ∀ event ∈ trace, Silent event) (same : recorded trace = expiryEvents result) :
    Metered trace [] where
  records records := by simp [observeHop_silent silent]
  attempts := (attempted_expiry silent same).1
  retries := by
    rw [(attempted_expiry silent same).2, calls_silent silent]
    rfl

/-- The metrics of a trace balance, and its outcome is concluded. -/
def Balanced (trace : List Event) (outcome : Option Outcome) : Prop :=
  (∃ blocks, Metered trace blocks) ∧ Concludes trace outcome

section Request

variable {config : ExecutorConfig} {plan : RoutePlan} {params : ExecutionParams}
  {deadline : RequestDeadline} {trace : List Event}

/-- A hop is metered with its own record. -/
theorem Hops.balanced {budget : AttemptBudget} {result : Option (Outcome × AttemptBudget)}
    (genuine : ∀ event ∈ trace, Genuine event)
    (hops : Hops config plan params deadline budget trace result) :
    Balanced trace (result.map Prod.fst) := by
  obtain ⟨blocks, held, shape, _⟩ := hops.blocks
  have looped := hops.metrics genuine
  refine ⟨⟨blocks, held.records, looped.attempts, ?_⟩, looped.concludes⟩
  have retries := looped.retries
  rw [if_pos rfl] at retries
  suffices called : (blocks.filter HopRecord.called).length = min 1 (calls trace).length by
    rw [called]
    exact retries
  rw [held.calls]
  rcases shape with ⟨rfl, _⟩ | ⟨record, rfl, _⟩
  · rfl
  · obtain ⟨plan, admission, _ | ⟨first, rest⟩⟩ := record
    · rfl
    · simp [HopRecord.called]

/-- An error that is no expiry leaves its trace inconclusive. -/
theorem Concludes.other {error : ExecutorError} (other : error ≠ .deadlineExceeded)
    (concluded : Concludes trace (some (.error error))) : Concludes trace none :=
  ⟨concluded.1, concluded.2.trans (if_neg other)⟩

/-- An inconclusive balanced part comes before a balanced part. -/
theorem Balanced.append {first second : List Event} {outcome : Option Outcome}
    (head : Balanced first none) (tail : Balanced second outcome) :
    Balanced (first ++ second) outcome := by
  obtain ⟨⟨left, metered⟩, quiet⟩ := head
  obtain ⟨⟨right, rest⟩, concluded⟩ := tail
  exact ⟨⟨left ++ right, metered.append rest⟩, quiet.before concluded⟩

theorem balanced_error {error : ExecutorError} (silent : ∀ event ∈ trace, Silent event)
    (same : recorded trace = expiryEvents (some error)) : Balanced trace (some (.error error)) :=
  ⟨⟨[], metered_silent silent same⟩, concludes_expiry same⟩

theorem balanced_quiet (silent : ∀ event ∈ trace, Silent event) (same : recorded trace = []) :
    Balanced trace none := by
  have quiet : recorded trace = expiryEvents none := same
  exact ⟨⟨[], metered_silent silent quiet⟩, concludes_nothing same⟩

theorem Hops.failed {budget used : AttemptBudget} {error : ExecutorError}
    (genuine : ∀ event ∈ trace, Genuine event) (other : error ≠ .deadlineExceeded)
    (hops : Hops config plan params deadline budget trace (some (.error error, used))) :
    Balanced trace none := by
  obtain ⟨metered, concluded⟩ := hops.balanced genuine
  exact ⟨metered, Concludes.other other concluded⟩

theorem Leaves.balanced {error terminal : ExecutorError}
    (leaves : Leaves deadline error trace (some terminal)) :
    Balanced trace (some (.error terminal)) :=
  balanced_error leaves.silent leaves.recorded

theorem Leaves.quiet {error : ExecutorError} (leaves : Leaves deadline error trace none) :
    Balanced trace none :=
  balanced_quiet leaves.silent leaves.recorded

theorem Finishes.balanced {primaryError : ExecutorError} {outcome : Outcome}
    (other : primaryError ≠ .deadlineExceeded)
    (finished : Finishes deadline primaryError trace outcome) : Balanced trace (some outcome) := by
  obtain ⟨error, rfl, same⟩ := finished.recorded other
  exact balanced_error finished.silent same

/-- The recorded fallback and the check before it count nothing. -/
theorem balanced_fallback (now : Instant) (span marked : Span) (fromTarget toTarget : String) :
    Balanced [.clock .isExpired now span, .record (.fallback fromTarget toTarget) marked] none :=
  ⟨⟨[], fun _ => rfl, rfl, rfl⟩, rfl, rfl⟩

theorem balanced_check (now : Instant) (span : Span) : Balanced [.clock .isExpired now span] none :=
  ⟨⟨[], fun _ => rfl, rfl, rfl⟩, rfl, rfl⟩

theorem Falls.balanced {primaryError : ExecutorError} {fallbackPlans : List RoutePlan}
    {budget : AttemptBudget} {fromTarget : String} {outcome : Option Outcome}
    (other : primaryError ≠ .deadlineExceeded) (genuine : ∀ event ∈ trace, Genuine event)
    (falls : Falls config params deadline primaryError fallbackPlans budget fromTarget trace
      outcome) : Balanced trace outcome := by
  induction falls with
  | finished finished => exact finished.balanced other
  | expired late => exact balanced_error (by simp) rfl
  | @skipped fallback rest budget fromTarget now span trace outcome early unsupported falls ih =>
      exact (balanced_check now span).append
        (ih fun event member => genuine event (List.mem_cons_of_mem _ member))
  | @dropped fallback rest budget fromTarget now span marked hop early supported hops =>
      exact (balanced_fallback now span marked fromTarget fallback.targetId).append
        (hops.balanced fun event member => genuine event (by simp [member]))
  | @succeeded fallback rest budget fromTarget now span marked hop result used early supported
      hops =>
      exact (balanced_fallback now span marked fromTarget fallback.targetId).append
        (hops.balanced fun event member => genuine event (by simp [member]))
  | @hopExpired fallback rest budget fromTarget now span marked hop used early supported hops =>
      exact (balanced_fallback now span marked fromTarget fallback.targetId).append
        (hops.balanced fun event member => genuine event (by simp [member]))
  | @ended fallback rest budget fromTarget now span marked hop error used trace terminal early
      supported hops leaves =>
      have failed := hops.failed (fun event member => genuine event (by simp [member]))
        leaves.other
      exact (balanced_fallback now span marked fromTarget fallback.targetId).append
        (failed.append leaves.balanced)
  | @ineligible fallback rest budget fromTarget now span marked hop error used trace finish
      outcome early supported hops leaves fatal finished =>
      have failed := hops.failed (fun event member => genuine event (by simp [member]))
        leaves.other
      exact (balanced_fallback now span marked fromTarget fallback.targetId).append
        (failed.append (leaves.quiet.append (finished.balanced other)))
  | @continued fallback rest budget fromTarget now span marked hop error used trace falls outcome
      early supported hops leaves eligible continued ih =>
      have failed := hops.failed (fun event member => genuine event (by simp [member]))
        leaves.other
      have later := ih fun event member => genuine event (by simp [member])
      exact (balanced_fallback now span marked fromTarget fallback.targetId).append
        (failed.append (leaves.quiet.append later))

/-- A payload error is never an expiry. -/
theorem extractParams_other {payload : Json} {error : ExecutorError}
    (rejected : extractParams payload = .error error) : error ≠ .deadlineExceeded := by
  unfold extractParams at rejected
  split at rejected
  · cases rejected
    simp
  · cases rejected

theorem Executes.balanced {payload : Json} {outcome : Option Outcome}
    (genuine : ∀ event ∈ trace, Genuine event)
    (executes : Executes config plan deadline payload trace outcome) :
    Balanced trace outcome := by
  cases executes with
  | expired late => exact balanced_error (by simp) rfl
  | invalid early rejected =>
      exact balanced_error (by simp)
        (expiryEvents_other (extractParams_other rejected)).symm
  | @dropped now span params hop early extracted hops =>
      exact (balanced_check now span).append
        (hops.balanced fun event member => genuine event (by simp [member]))
  | @succeeded now span params hop result used early extracted hops =>
      exact (balanced_check now span).append
        (hops.balanced fun event member => genuine event (by simp [member]))
  | @hopExpired now span params hop used early extracted hops =>
      exact (balanced_check now span).append
        (hops.balanced fun event member => genuine event (by simp [member]))
  | @ended now span params hop error used trace terminal early extracted hops leaves =>
      have failed := hops.failed (fun event member => genuine event (by simp [member]))
        leaves.other
      exact (balanced_check now span).append (failed.append leaves.balanced)
  | @ineligible now span params hop error used trace early extracted hops leaves fatal =>
      have failed := hops.failed (fun event member => genuine event (by simp [member]))
        leaves.other
      have quiet : recorded trace = [] := leaves.recorded
      have primary : Balanced trace (some (.error error)) :=
        balanced_error leaves.silent (quiet.trans (expiryEvents_other leaves.other).symm)
      exact (balanced_check now span).append (failed.append primary)
  | @lateFallbacks now span params hop error used trace later next marked early extracted hops
      leaves eligible late =>
      have failed := hops.failed (fun event member => genuine event (by simp [member]))
        leaves.other
      have expired : Balanced [.clock .isExpired later next, .record .deadlineExceeded marked]
          (some (.error .deadlineExceeded)) := balanced_error (by simp) rfl
      exact (balanced_check now span).append (failed.append (leaves.quiet.append expired))
  | @noFallbacks now span params hop error used trace later next early extracted hops leaves
      eligible pending empty =>
      have failed := hops.failed (fun event member => genuine event (by simp [member]))
        leaves.other
      have primary : Balanced [.clock .isExpired later next] (some (.error error)) :=
        balanced_error (by simp) (expiryEvents_other leaves.other).symm
      exact (balanced_check now span).append (failed.append (leaves.quiet.append primary))
  | @fallbacks now span params hop error used trace later next falls outcome early extracted hops
      leaves eligible pending nonempty continued =>
      have failed := hops.failed (fun event member => genuine event (by simp [member]))
        leaves.other
      have fallen := continued.balanced leaves.other
        fun event member => genuine event (by simp [member])
      exact (balanced_check now span).append
        (failed.append (leaves.quiet.append ((balanced_check later next).append fallen)))

end Request

/-- The metrics of an execution balance exactly with its calls, its hops, and its outcome. -/
theorem execution_metrics_balance (config : ExecutorConfig) (plan : RoutePlan) (payload : Json)
    (deadline : RequestDeadline) (trace : List Event) (outcome : Option Outcome)
    (run : (execute config plan payload deadline).Runs trace outcome)
    (genuine : ∀ event ∈ trace, Genuine event) :
    attemptedTargets trace = (calls trace).map RoutePlan.targetId ∧
      (retriedTargets trace).length + ((hopRecords trace).filter HopRecord.called).length =
        (calls trace).length ∧
      (∀ result, outcome = some (.ok result) → Succeeds trace result) ∧
      ((∀ result, outcome ≠ some (.ok result)) → usages trace = []) ∧
      (outcome = some (.error .deadlineExceeded) → expiries trace = 1) ∧
      (outcome ≠ some (.error .deadlineExceeded) → expiries trace = 0) := by
  obtain ⟨⟨blocks, metered⟩, concluded⟩ :=
    (executes_of_runs config plan deadline run).balanced genuine
  have records : hopRecords trace = blocks := by
    rw [hopRecords, metered.records, List.append_nil, List.reverse_reverse]
  rw [records]
  refine ⟨metered.attempts, metered.retries, ?_⟩
  rcases outcome with _ | error | result
  · exact ⟨by simp, fun _ => concluded.1, by simp, fun _ => concluded.2⟩
  · refine ⟨by simp, fun _ => concluded.1, ?_, ?_⟩
    · rintro ⟨⟩
      exact concluded.2
    · intro other
      exact concluded.2.trans (if_neg fun same => other (by rw [same]))
  · refine ⟨?_, ?_, by simp, fun _ => concluded.2⟩
    · rintro _ ⟨⟩
      exact concluded.1
    · intro missing
      exact absurd rfl (missing result)

theorem execution_metrics_balance_example :
    attemptedTargets (failoverProgram.drive Script.answer failoverScript).1 = ["a", "a", "b"] ∧
      expiries (failoverProgram.drive Script.answer failoverScript).1 = 0 := by
  have balance := execution_metrics_balance ⟨10, 1, 3, 2000⟩ failoverPlan _ ⟨1000000000⟩ _ _
    (failoverProgram.runs_drive Script.answer failoverScript)
    (Script.genuine failoverProgram failoverScript (by simp [failoverScript, CallReply.Genuine]))
  exact ⟨balance.1.trans (by decide), balance.2.2.2.2.2 (by decide)⟩

end Opmux.Executor
