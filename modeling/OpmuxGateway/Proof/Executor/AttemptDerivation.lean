import OpmuxGateway.Construction.Executor.Service

/-
This file gives the derivations of one attempt, with one rule for each path of the service.
-/

namespace Opmux.Executor
open Program
open Circuit (CircuitPermit CircuitAdmission)

abbrev Event.clock (site : ClockSite) (now : Instant) (span : Span) : Event :=
  ⟨.clock site, now, span⟩

abbrev Event.record (event : ExecutionEvent) (span : Span) : Event := ⟨.record event, (), span⟩

abbrev Event.call (plan : RoutePlan) (params : ExecutionParams) (cutoff : Instant)
    (reply : Option CallReply) (span : Span) : Event := ⟨.call plan params cutoff, reply, span⟩

abbrev Event.sleep (limit : Instant) (wait : Duration) (reply : Option SleepReply) (span : Span) :
    Event := ⟨.sleep limit wait, reply, span⟩

abbrev Event.admission (plan : RoutePlan) (admission : CircuitAdmission) (span : Span) : Event :=
  ⟨.admission plan, admission, span⟩

abbrev Event.settle (permit : CircuitPermit) (outcome : Circuit.CompletionOutcome) (span : Span) :
    Event := ⟨.settle permit outcome, (), span⟩

abbrev Event.dropPermit (permit : CircuitPermit) (span : Span) : Event :=
  ⟨.dropPermit permit, (), span⟩

abbrev Event.entropy (raw : Option UInt64) (span : Span) : Event := ⟨.entropy, raw, span⟩

/-- A provider minimum cannot fit exactly when it is positive and longer than the remaining time. -/
theorem providerMinimumCannotFit_iff (ms : Nat) (remaining : Duration) :
    providerMinimumCannotFit (some (Duration.fromMillis ms)) remaining = true ↔
      0 < ms ∧ remaining < Duration.fromMillis ms := by
  unfold providerMinimumCannotFit
  rcases Nat.eq_zero_or_pos ms with rfl | positive
  · simp [Option.filter]
  · have nonzero : Duration.fromMillis ms ≠ 0 := Nat.ne_of_gt (Duration.fromMillis_pos positive)
    by_cases fits : Duration.fromMillis ms ≤ remaining
    · simp [Option.filter, nonzero, evaluateRetryDelay, fits, Nat.not_lt.mpr fits]
    · simp [Option.filter, nonzero, evaluateRetryDelay, fits, positive, Nat.lt_of_not_le fits]

variable (config : ExecutorConfig) (plan : RoutePlan) (params : ExecutionParams)
  (deadline : RequestDeadline)

/-- The provider minimum ends the request, ends it as expired, or lets it continue. -/
inductive Terminates (error : ExecutorError) : List Event → Option ExecutorError → Prop
  | expired {now span} (late : deadline.deadline ≤ now) :
      Terminates error [.clock .isExpired now span] (some .deadlineExceeded)
  | unthrottled {now span} (early : now < deadline.deadline) (free : retryAfterOf error = none) :
      Terminates error [.clock .isExpired now span] none
  | fits {now span later next ms} (early : now < deadline.deadline)
      (throttled : retryAfterOf error = some ms)
      (fitting : ms = 0 ∨ Duration.fromMillis ms ≤ deadline.deadline - later) :
      Terminates error [.clock .isExpired now span, .clock .remaining later next] none
  | exceeds {now span later next ms} (early : now < deadline.deadline)
      (throttled : retryAfterOf error = some ms) (positive : 0 < ms)
      (long : deadline.deadline - later < Duration.fromMillis ms) :
      Terminates error [.clock .isExpired now span, .clock .remaining later next] (some error)

theorem terminates_of_runs {error : ExecutorError} {trace : List Event}
    {outcome : Option (Option ExecutorError)}
    (run : (terminateForProviderMinimum error deadline).Runs trace outcome) :
    ∃ result, outcome = some result ∧ Terminates deadline error trace result := by
  unfold terminateForProviderMinimum readClock at run
  rw [runs_request_bind] at run
  obtain ⟨now, span, rest, rfl, run⟩ := run
  by_cases late : deadline.deadline ≤ now
  · simp only [RequestDeadline.isExpired, late, decide_true, if_true, runs_pure] at run
    obtain ⟨rfl, rfl⟩ := run
    exact ⟨_, rfl, .expired late⟩
  · simp only [RequestDeadline.isExpired, late, decide_false, Bool.false_eq_true, if_false] at run
    have early := Nat.lt_of_not_le late
    split at run
    · rename_i vendor ms
      rw [runs_request_bind] at run
      obtain ⟨later, next, rest, rfl, run⟩ := run
      by_cases long : providerMinimumCannotFit (some (Duration.fromMillis ms))
          (deadline.remaining later) = true
      · simp only [long, if_true, runs_pure] at run
        obtain ⟨rfl, rfl⟩ := run
        obtain ⟨positive, exceeds⟩ := (providerMinimumCannotFit_iff ms _).mp long
        exact ⟨_, rfl, .exceeds early rfl positive exceeds⟩
      · simp only [if_neg long, runs_pure] at run
        obtain ⟨rfl, rfl⟩ := run
        rw [providerMinimumCannotFit_iff, not_and_or, Nat.not_lt, Nat.not_lt] at long
        exact ⟨_, rfl, .fits early rfl (long.imp_left Nat.eq_zero_of_le_zero)⟩
    · rename_i other
      simp only [runs_pure] at run
      obtain ⟨rfl, rfl⟩ := run
      refine ⟨_, rfl, .unthrottled early ?_⟩
      unfold retryAfterOf
      split
      · rename_i vendor ms
        exact absurd rfl (other vendor ms)
      · rfl

/-- The check after a wait passes or ends the request. -/
inductive Checks : List Event → Option ExecutorError → Prop
  | passed {now span} (early : now < deadline.deadline) :
      Checks [.clock .isExpired now span] none
  | expired {now span recorded} (late : deadline.deadline ≤ now) :
      Checks [.clock .isExpired now span, .record .deadlineExceeded recorded]
        (some .deadlineExceeded)

/-- A terminal outcome records its expiry and nothing else. -/
theorem runs_observeTerminal {error : ExecutorError} {trace : List Event}
    {outcome : Option ExecutorError} (run : (observeTerminal error).Runs trace outcome) :
    outcome = some error ∧
      ((error = .deadlineExceeded ∧ ∃ span, trace = [.record .deadlineExceeded span]) ∨
        (error ≠ .deadlineExceeded ∧ trace = [])) := by
  unfold observeTerminal record at run
  split at run
  · rw [runs_request_bind] at run
    obtain ⟨_, span, rest, rfl, rfl, rfl⟩ := run
    exact ⟨rfl, .inl ⟨rfl, span, rfl⟩⟩
  · rename_i other
    obtain ⟨rfl, rfl⟩ := run
    exact ⟨rfl, .inr ⟨other, rfl⟩⟩

/-- A provider minimum ends the request, and an expiry that it finds is recorded. -/
inductive Ends (error : ExecutorError) : List Event → Option ExecutorError → Prop
  | expired {now span recorded} (late : deadline.deadline ≤ now) :
      Ends error [.clock .isExpired now span, .record .deadlineExceeded recorded]
        (some .deadlineExceeded)
  | unthrottled {now span} (early : now < deadline.deadline) (free : retryAfterOf error = none) :
      Ends error [.clock .isExpired now span] none
  | fits {now span later next ms} (early : now < deadline.deadline)
      (throttled : retryAfterOf error = some ms)
      (fitting : ms = 0 ∨ Duration.fromMillis ms ≤ deadline.deadline - later) :
      Ends error [.clock .isExpired now span, .clock .remaining later next] none
  | exceeds {now span later next ms} (early : now < deadline.deadline)
      (throttled : retryAfterOf error = some ms) (positive : 0 < ms)
      (long : deadline.deadline - later < Duration.fromMillis ms) :
      Ends error [.clock .isExpired now span, .clock .remaining later next] (some error)

theorem ends_none_of_runs {error : ExecutorError} {trace : List Event}
    (run : (terminateForProviderMinimum error deadline).Runs trace (some none)) :
    Ends deadline error trace none := by
  obtain ⟨_, same, terminated⟩ := terminates_of_runs deadline run
  cases same
  cases terminated with
  | unthrottled early free => exact .unthrottled early free
  | fits early throttled fitting => exact .fits early throttled fitting

theorem ends_some_of_runs {error terminal : ExecutorError} {before after : List Event}
    {outcome : ExecutorError}
    (terminating : (terminateForProviderMinimum error deadline).Runs before (some (some terminal)))
    (observing : (observeTerminal terminal).Runs after (some outcome)) :
    outcome = terminal ∧ Ends deadline error (before ++ after) (some terminal) := by
  obtain ⟨_, same, terminated⟩ := terminates_of_runs deadline terminating
  cases same
  obtain ⟨same, recorded⟩ := runs_observeTerminal observing
  cases same
  refine ⟨rfl, ?_⟩
  cases terminated with
  | expired late =>
      rcases recorded with ⟨_, span, rfl⟩ | ⟨other, _⟩
      · exact .expired late
      · exact absurd rfl other
  | exceeds early throttled positive long =>
      rcases recorded with ⟨rfl, _⟩ | ⟨_, rfl⟩
      · cases throttled
      · exact .exceeds early throttled positive long

theorem runs_deadlineExceeded {trace : List Event} {outcome : Option ExecutorError} :
    deadlineExceeded.Runs trace outcome ↔
      ∃ span, trace = [.record .deadlineExceeded span] ∧ outcome = some .deadlineExceeded := by
  unfold deadlineExceeded record
  rw [runs_request_bind]
  constructor
  · rintro ⟨_, span, _, rfl, rfl, rfl⟩
    exact ⟨span, rfl, rfl⟩
  · rintro ⟨span, rfl, rfl⟩
    exact ⟨(), span, [], rfl, rfl, rfl⟩

/-- A program that continues after the recorded expiry continues after one event. -/
theorem runs_deadlineExceeded_bind {Value : Type} {next : ExecutorError → Effect Value}
    {trace : List Event} {outcome : Option Value} :
    (deadlineExceeded >>= next).Runs trace outcome ↔
      ∃ span rest, trace = .record .deadlineExceeded span :: rest ∧
        (next .deadlineExceeded).Runs rest outcome := by
  rw [runs_bind]
  simp only [runs_deadlineExceeded]
  constructor
  · rintro (⟨_, _, rest, rfl, ⟨span, rfl, same⟩, run⟩ | ⟨_, _, _, impossible⟩)
    · cases same
      exact ⟨span, rest, rfl, run⟩
    · cases impossible
  · rintro ⟨span, rest, rfl, run⟩
    exact .inl ⟨_, _, rest, rfl, ⟨span, rfl, rfl⟩, run⟩

theorem checks_of_runs {trace : List Event} {outcome : Option (Option ExecutorError)}
    (run : (checkAfterWait deadline).Runs trace outcome) :
    ∃ result, outcome = some result ∧ Checks deadline trace result := by
  unfold checkAfterWait readClock at run
  rw [runs_request_bind] at run
  obtain ⟨now, span, rest, rfl, run⟩ := run
  by_cases late : deadline.deadline ≤ now
  · simp only [RequestDeadline.isExpired, late, decide_true, if_true,
      runs_deadlineExceeded_bind, runs_pure] at run
    obtain ⟨recorded, _, rfl, rfl, rfl⟩ := run
    exact ⟨_, rfl, .expired late⟩
  · simp only [RequestDeadline.isExpired, late, decide_false, Bool.false_eq_true, if_false,
      runs_pure] at run
    obtain ⟨rfl, rfl⟩ := run
    exact ⟨_, rfl, .passed (Nat.lt_of_not_le late)⟩

/-- A jitter is zero without a window or entropy, and else it is sampled below its bound. -/
inductive Jitters (upperInclusive : Nat) : List Event → Nat → Prop
  | closed (zero : upperInclusive = 0) : Jitters upperInclusive [] 0
  | noEntropy {span} (positive : upperInclusive ≠ 0) :
      Jitters upperInclusive [.entropy none span] 0
  | sampled {raw : UInt64} {span} (positive : upperInclusive ≠ 0) :
      Jitters upperInclusive [.entropy (some raw) span]
        (raw.toNat % min (upperInclusive + 1) u64Max)

theorem jitters_of_runs {upperInclusive : Nat} {trace : List Event} {outcome : Option Nat}
    (run : (jitterMs upperInclusive).Runs trace outcome) :
    ∃ ms, outcome = some ms ∧ Jitters upperInclusive trace ms := by
  unfold jitterMs at run
  split at run
  · rename_i zero
    obtain ⟨rfl, rfl⟩ := run
    exact ⟨_, rfl, .closed zero⟩
  · rename_i positive
    rw [runs_request_bind] at run
    obtain ⟨raw, span, rest, rfl, run⟩ := run
    cases raw with
    | none =>
        obtain ⟨rfl, rfl⟩ := run
        exact ⟨_, rfl, .noEntropy positive⟩
    | some raw =>
        obtain ⟨rfl, rfl⟩ := run
        exact ⟨_, rfl, .sampled positive⟩

/-- The jitter window of one retry. -/
def retryWindowMs (attempt : Nat) : Nat :=
  backoffWindowMs attempt (durationMs (Duration.fromMillis config.backoffCapMs))

/-- The delay of a retry is the provider minimum or a jittered backoff. -/
inductive Plans (attempt : Nat) : Option Nat → List Event → Nat → Bool → Prop
  | minimum {ms} : Plans attempt (some ms) [] ms true
  | jitter {trace ms} (jittered : Jitters (retryWindowMs config attempt) trace ms) :
      Plans attempt none trace ms false

/-- A planned delay is immediate exactly when it is zero. -/
def RetryDelay.planned (ms : Nat) (providerMinimum : Bool) : RetryDelay :=
  if Duration.fromMillis ms = 0 then .immediate
  else .sleep (Duration.fromMillis ms) providerMinimum

theorem plans_of_runs {attempt : Nat} {retryAfterMs : Option Nat} {trace : List Event}
    {outcome : Option RetryDelay}
    (run : (planRetryDelay attempt (Duration.fromMillis config.backoffCapMs)
      (retryAfterMs.map Duration.fromMillis)).Runs trace outcome) :
    ∃ ms providerMinimum, outcome = some (.planned ms providerMinimum) ∧
      Plans config attempt retryAfterMs trace ms providerMinimum := by
  cases retryAfterMs with
  | some ms =>
      simp only [planRetryDelay, Option.map_some] at run
      refine ⟨ms, true, ?_⟩
      unfold RetryDelay.planned
      split at run
      · rename_i zero
        obtain ⟨rfl, rfl⟩ := run
        exact ⟨by rw [if_pos zero], .minimum⟩
      · rename_i nonzero
        obtain ⟨rfl, rfl⟩ := run
        exact ⟨by rw [if_neg nonzero], .minimum⟩
  | none =>
      simp only [planRetryDelay, Option.map_none] at run
      rw [runs_bind] at run
      rcases run with ⟨before, ms, after, rfl, first, second⟩ | ⟨_, dropped⟩
      · obtain ⟨_, same, jittered⟩ := jitters_of_runs first
        cases same
        refine ⟨ms, false, ?_⟩
        unfold RetryDelay.planned
        split at second
        · rename_i zero
          obtain ⟨rfl, rfl⟩ := second
          exact ⟨by rw [if_pos zero], by simpa using .jitter jittered⟩
        · rename_i nonzero
          obtain ⟨rfl, rfl⟩ := second
          exact ⟨by rw [if_neg nonzero], by simpa using .jitter jittered⟩
      · obtain ⟨_, impossible, _⟩ := jitters_of_runs dropped
        cases impossible

/-- A planned delay fits exactly when it is not longer than the remaining time. -/
theorem evaluate_planned (ms : Nat) (providerMinimum : Bool) (remaining : Duration) :
    evaluateRetryDelay (.planned ms providerMinimum) remaining =
      if Duration.fromMillis ms ≤ remaining then .ok (Duration.fromMillis ms)
      else if providerMinimum then .error (.providerDelayCannotFit (Duration.fromMillis ms))
      else .error .deadlineExceeded := by
  unfold RetryDelay.planned
  by_cases zero : Duration.fromMillis ms = 0
  · simp [zero, evaluateRetryDelay]
  · simp [zero, evaluateRetryDelay]

/-- A retry wait continues, ends the request, or is dropped. -/
inductive Waits (attempt : Nat) (lastError : Option ExecutorError) (retryAfterMs : Option Nat) :
    List Event → Option (Option ExecutorError) → Prop
  | immediate {trace ms minimum now span checks result}
      (planned : Plans config attempt retryAfterMs trace ms minimum)
      (zero : Duration.fromMillis ms = 0) (checked : Checks deadline checks result) :
      Waits attempt lastError retryAfterMs (trace ++ .clock .remaining now span :: checks)
        (some result)
  | slept {trace ms minimum now span slept checks result}
      (planned : Plans config attempt retryAfterMs trace ms minimum)
      (fits : Duration.fromMillis ms ≤ deadline.deadline - now)
      (checked : Checks deadline checks result) :
      Waits attempt lastError retryAfterMs (trace ++ .clock .remaining now span ::
        .sleep deadline.deadline (Duration.fromMillis ms) (some .ready) slept :: checks)
        (some result)
  | elapsed {trace ms minimum now span slept recorded}
      (planned : Plans config attempt retryAfterMs trace ms minimum)
      (fits : Duration.fromMillis ms ≤ deadline.deadline - now) :
      Waits attempt lastError retryAfterMs (trace ++ [.clock .remaining now span,
        .sleep deadline.deadline (Duration.fromMillis ms) (some .elapsed) slept,
        .record .deadlineExceeded recorded]) (some (some .deadlineExceeded))
  | dropped {trace ms minimum now span slept}
      (planned : Plans config attempt retryAfterMs trace ms minimum)
      (fits : Duration.fromMillis ms ≤ deadline.deadline - now) :
      Waits attempt lastError retryAfterMs (trace ++ [.clock .remaining now span,
        .sleep deadline.deadline (Duration.fromMillis ms) none slept]) none
  | cannotFit {trace ms now span} (planned : Plans config attempt retryAfterMs trace ms true)
      (long : deadline.deadline - now < Duration.fromMillis ms) :
      Waits attempt lastError retryAfterMs (trace ++ [.clock .remaining now span])
        (some (some (throttledError plan lastError (Duration.fromMillis ms))))
  | tooLong {trace ms now span recorded}
      (planned : Plans config attempt retryAfterMs trace ms false)
      (long : deadline.deadline - now < Duration.fromMillis ms) :
      Waits attempt lastError retryAfterMs (trace ++ [.clock .remaining now span,
        .record .deadlineExceeded recorded]) (some (some .deadlineExceeded))

theorem waits_of_runs {attempt : Nat} {lastError : Option ExecutorError}
    {retryAfterMs : Option Nat} {trace : List Event} {outcome : Option (Option ExecutorError)}
    (run : (waitBeforeRetry config plan deadline attempt lastError retryAfterMs).Runs trace
      outcome) :
    Waits config plan deadline attempt lastError retryAfterMs trace outcome := by
  unfold waitBeforeRetry readClock at run
  rw [runs_bind] at run
  rcases run with ⟨first, value, second, rfl, planning, run⟩ | ⟨_, impossible⟩
  · obtain ⟨ms, minimum, same, planned⟩ := plans_of_runs config planning
    cases same
    rw [runs_request_bind] at run
    obtain ⟨now, span, rest, rfl, run⟩ := run
    rw [evaluate_planned] at run
    by_cases fits : Duration.fromMillis ms ≤ deadline.deadline - now
    · simp only [RequestDeadline.remaining, fits, if_true] at run
      by_cases zero : Duration.fromMillis ms = 0
      · rw [if_pos zero] at run
        obtain ⟨result, rfl, checked⟩ := checks_of_runs deadline run
        exact .immediate planned zero checked
      · rw [if_neg zero, runs_request_bind] at run
        obtain ⟨reply, slept, rest, rfl, run⟩ := run
        rcases reply with _ | (_ | _)
        · obtain ⟨rfl, rfl⟩ := run
          exact .dropped planned fits
        · obtain ⟨result, rfl, checked⟩ := checks_of_runs deadline run
          exact .slept planned fits checked
        · simp only [runs_deadlineExceeded_bind, runs_pure] at run
          obtain ⟨recorded, _, rfl, rfl, rfl⟩ := run
          exact .elapsed planned fits
    · have long := Nat.lt_of_not_le fits
      cases minimum with
      | true =>
          simp only [RequestDeadline.remaining, fits, if_true, if_false, runs_pure] at run
          obtain ⟨rfl, rfl⟩ := run
          exact .cannotFit planned long
      | false =>
          simp only [RequestDeadline.remaining, fits, if_false, Bool.false_eq_true,
            runs_deadlineExceeded_bind, runs_pure] at run
          obtain ⟨recorded, _, rfl, rfl, rfl⟩ := run
          exact .tooLong planned long
  · obtain ⟨_, _, impossible, _⟩ := plans_of_runs config impossible
    cases impossible

/-- An error ends the hop, or the loop goes on with it. -/
inductive Continues (error : ExecutorError) : List Event → AttemptStep → Prop
  | permanent (fatal : isRetryableError error = false) :
      Continues error [] (.finished (.error error))
  | failed {trace} (retryable : isRetryableError error = true)
      (spared : Ends deadline error trace none) : Continues error trace (.failed error)
  | ended {trace terminal} (retryable : isRetryableError error = true)
      (terminated : Ends deadline error trace (some terminal)) :
      Continues error trace (.finished (.error terminal))

theorem continues_of_runs {error : ExecutorError} {trace : List Event}
    {outcome : Option AttemptStep} (run : (continueAfterError deadline error).Runs trace outcome) :
    ∃ step, outcome = some step ∧ Continues deadline error trace step := by
  unfold continueAfterError at run
  cases retryable : isRetryableError error with
  | false =>
      simp only [retryable, Bool.false_eq_true, if_false, runs_pure] at run
      obtain ⟨rfl, rfl⟩ := run
      exact ⟨_, rfl, .permanent retryable⟩
  | true =>
      simp only [retryable, if_true] at run
      rw [runs_bind] at run
      rcases run with ⟨first, value, second, rfl, terminating, run⟩ | ⟨_, impossible⟩
      · cases value with
        | none =>
            obtain ⟨rfl, rfl⟩ := run
            rw [List.append_nil]
            exact ⟨_, rfl, .failed retryable (ends_none_of_runs deadline terminating)⟩
        | some terminal =>
            simp only [runs_bind, runs_pure] at run
            rcases run with ⟨before, value, after, rfl, observing, rfl, rfl⟩ | ⟨_, impossible⟩
            · obtain ⟨rfl, ended⟩ := ends_some_of_runs deadline terminating observing
              rw [List.append_nil]
              exact ⟨_, rfl, .ended retryable ended⟩
            · obtain ⟨impossible, _⟩ := runs_observeTerminal impossible
              cases impossible
      · obtain ⟨_, impossible, _⟩ := terminates_of_runs deadline impossible
        cases impossible

/-- The examination of a call finds an expiry, a success, or an error. -/
inductive Examines (reply : CallReply) (attemptTimeout : Duration) :
    List Event → AttemptStep → Prop
  | expired {now span recorded marked} (late : deadline.deadline ≤ now) :
      Examines reply attemptTimeout [.clock .isExpired now span,
        .record (.attempt plan.targetId .deadline) recorded, .record .deadlineExceeded marked]
        (.finished (.error .deadlineExceeded))
  | succeeded {now span recorded used result} (early : now < deadline.deadline)
      (ready : reply = .ready (.ok result)) :
      Examines reply attemptTimeout [.clock .isExpired now span,
        .record (.attempt plan.targetId .success) recorded,
        .record (.successfulUsage plan.targetId result.promptTokens result.completionTokens) used]
        (.finished (.ok result))
  | failed {now span recorded error trace step} (early : now < deadline.deadline)
      (missed : callOutcome reply attemptTimeout = .error error)
      (continued : Continues deadline error trace step) :
      Examines reply attemptTimeout (.clock .isExpired now span ::
        .record (.attempt plan.targetId (examinedOutcome reply)) recorded :: trace) step

theorem examines_of_runs {reply : CallReply} {attemptTimeout : Duration} {trace : List Event}
    {outcome : Option AttemptStep}
    (run : (examineCall plan deadline attemptTimeout reply).Runs trace outcome) :
    ∃ step, outcome = some step ∧ Examines plan deadline reply attemptTimeout trace step := by
  unfold examineCall readClock record at run
  rw [runs_request_bind] at run
  obtain ⟨now, span, rest, rfl, run⟩ := run
  by_cases late : deadline.deadline ≤ now
  · simp only [RequestDeadline.isExpired, late, decide_true, if_true] at run
    rw [runs_request_bind] at run
    obtain ⟨_, recorded, rest, rfl, run⟩ := run
    simp only [runs_deadlineExceeded_bind, runs_pure] at run
    obtain ⟨marked, _, rfl, rfl, rfl⟩ := run
    exact ⟨_, rfl, .expired late⟩
  · have early := Nat.lt_of_not_le late
    simp only [RequestDeadline.isExpired, late, decide_false, Bool.false_eq_true, if_false] at run
    rw [runs_request_bind] at run
    obtain ⟨_, recorded, rest, rfl, run⟩ := run
    cases missed : callOutcome reply attemptTimeout with
    | ok result =>
        simp only [missed, recordSuccess, record] at run
        rw [runs_request_bind] at run
        obtain ⟨_, used, rest, rfl, rfl, rfl⟩ := run
        have ready : reply = .ready (.ok result) := by
          rcases reply with outcome | (_ | _)
          · exact congrArg CallReply.ready missed
          · cases missed
          · cases missed
        subst ready
        exact ⟨_, rfl, .succeeded early rfl⟩
    | error error =>
        simp only [missed] at run
        obtain ⟨step, rfl, continued⟩ := continues_of_runs deadline run
        exact ⟨step, rfl, .failed early missed continued⟩

/-- The retry event of an attempt, which the first attempt does not record. -/
inductive Retries (attempt : Nat) : List Event → Prop
  | first (zero : attempt = 0) : Retries attempt []
  | later {span} (positive : 0 < attempt) :
      Retries attempt [.record (.retry plan.targetId) span]

/-- The cutoff of a call ends at the deadline or after the attempt timeout. -/
def callCutoff (now : Instant) : Instant :=
  min deadline.deadline (now + Duration.fromMillis config.timeoutMs)

/-- A started attempt has no cutoff, is dropped in its call, or is examined. -/
inductive Starts (attempt : Nat) (budget : AttemptBudget) :
    List Event → Option (AttemptStep × AttemptBudget) → Prop
  | noCutoff {now span recorded}
      (late : deadline.deadline ≤ now ∨ config.timeoutMs = 0) :
      Starts attempt budget [.clock .attemptCutoff now span, .record .deadlineExceeded recorded]
        (some (.finished (.error .deadlineExceeded), budget))
  | dropped {now span retry later next called lost checked recorded}
      (early : now < deadline.deadline) (timed : 0 < config.timeoutMs)
      (room : budget.started < budget.maxTotal) (retried : Retries plan attempt retry) :
      Starts attempt budget (.clock .attemptCutoff now span :: retry ++
        [.clock .attemptTimeout later next,
          .call plan params (callCutoff config deadline now) none called,
          .clock .isExpired lost checked,
          .record (.attempt plan.targetId
            (if deadline.isExpired lost then .deadline else .cancelled)) recorded]) none
  | examined {now span retry later next reply called trace step}
      (early : now < deadline.deadline) (timed : 0 < config.timeoutMs)
      (room : budget.started < budget.maxTotal) (retried : Retries plan attempt retry)
      (examined : Examines plan deadline reply (callCutoff config deadline now - later)
        trace step) :
      Starts attempt budget (.clock .attemptCutoff now span :: retry ++
        .clock .attemptTimeout later next ::
          .call plan params (callCutoff config deadline now) (some reply) called :: trace)
        (some (step, { budget with started := saturatingAdd budget.started 1 }))

/-- A cutoff exists exactly before the deadline of an attempt with time. -/
theorem attemptCutoff_eq (now : Instant) :
    deadline.attemptCutoff (Duration.fromMillis config.timeoutMs) now =
      if deadline.deadline ≤ now ∨ config.timeoutMs = 0 then none
      else some (callCutoff config deadline now) := by
  unfold RequestDeadline.attemptCutoff callCutoff
  by_cases late : deadline.deadline ≤ now
  · simp [late]
  · have early := Nat.lt_of_not_le late
    by_cases zero : config.timeoutMs = 0
    · have sooner : ¬ deadline.deadline < now := late ∘ Nat.le_of_lt
      simp only [zero, Duration.fromMillis_zero, Nat.add_zero, or_true, if_true]
      rw [if_neg late, if_neg sooner, if_pos (Nat.le_refl now)]
    · have positive := Duration.fromMillis_pos (Nat.pos_of_ne_zero zero)
      generalize Duration.fromMillis config.timeoutMs = limit at positive
      simp only [late, zero, or_self, if_false]
      by_cases sooner : deadline.deadline < now + limit
      · rw [if_pos sooner, if_neg late, Nat.min_eq_left (Nat.le_of_lt sooner)]
      · rw [if_neg sooner, if_neg (Nat.not_le.mpr (Nat.lt_add_of_pos_right positive)),
          Nat.min_eq_right (Nat.le_of_not_lt sooner)]

theorem retries_of_runs {attempt : Nat} {trace : List Event} {outcome : Option Unit}
    (run : (recordRetry plan attempt).Runs trace outcome) :
    outcome = some () ∧ Retries plan attempt trace := by
  unfold recordRetry record at run
  split at run
  · rename_i positive
    rw [runs_request] at run
    obtain ⟨_, span, rfl, rfl⟩ := run
    exact ⟨rfl, .later positive⟩
  · rename_i zero
    obtain ⟨rfl, rfl⟩ := run
    exact ⟨rfl, .first (by omega)⟩

theorem starts_of_runs {attempt : Nat} {budget : AttemptBudget} {trace : List Event}
    {outcome : Option (AttemptStep × AttemptBudget)} (spare : budget.started < budget.maxTotal)
    (run : (startAttempt config plan params deadline attempt budget).Runs trace outcome) :
    Starts config plan params deadline attempt budget trace outcome := by
  unfold startAttempt readClock at run
  rw [runs_request_bind] at run
  obtain ⟨now, span, rest, rfl, run⟩ := run
  rw [attemptCutoff_eq] at run
  by_cases late : deadline.deadline ≤ now ∨ config.timeoutMs = 0
  · simp only [late, if_true, runs_deadlineExceeded_bind, runs_pure] at run
    obtain ⟨recorded, _, rfl, rfl, rfl⟩ := run
    exact .noCutoff late
  · simp only [late, if_false, AttemptBudget.tryStart, UInt32.not_le.mpr spare] at run
    rw [not_or] at late
    have early := Nat.lt_of_not_le late.1
    have timed := Nat.pos_of_ne_zero late.2
    rw [runs_bind] at run
    rcases run with ⟨retry, _, second, rfl, retrying, run⟩ | ⟨_, impossible⟩
    · obtain ⟨_, retried⟩ := retries_of_runs plan retrying
      rw [runs_request_bind] at run
      obtain ⟨later, next, rest, rfl, run⟩ := run
      rw [runs_request_bind] at run
      obtain ⟨reply, called, rest, rfl, run⟩ := run
      cases reply with
      | none =>
          simp only [dropStartedAttempt, readClock, record] at run
          rw [runs_bind] at run
          rcases run with ⟨first, value, second, rfl, run, _⟩ | ⟨rfl, run⟩
          · rw [runs_request_bind] at run
            obtain ⟨_, _, _, _, run⟩ := run
            rw [runs_request_bind] at run
            obtain ⟨_, _, _, _, _, impossible⟩ := run
            cases impossible
          · rw [runs_request_bind] at run
            obtain ⟨lost, checked, rest, rfl, run⟩ := run
            rw [runs_request_bind] at run
            obtain ⟨_, recorded, rest, rfl, rfl, _⟩ := run
            exact .dropped early timed spare retried
      | some reply =>
          simp only [runs_bind, runs_pure] at run
          rcases run with ⟨first, value, second, rfl, examining, rfl, rfl⟩ | ⟨_, impossible⟩
          · obtain ⟨step, same, examined⟩ := examines_of_runs plan deadline examining
            cases same
            rw [List.append_nil]
            exact .examined early timed spare retried examined
          · obtain ⟨_, impossible, _⟩ := examines_of_runs plan deadline impossible
            cases impossible
    · obtain ⟨impossible, _⟩ := retries_of_runs plan impossible
      cases impossible

end Opmux.Executor
