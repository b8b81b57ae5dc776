import OpmuxGateway.Proof.Executor.CallBounds

/-
This file compares a provider minimum with the deadline of its request.
-/

namespace Opmux.Executor
open Circuit (CircuitPermit CircuitAdmission)

/-- The clock stands still at an instant until the first sleep. -/
def Still (now : Instant) : List Event → Prop
  | [] => True
  | ⟨.clock _, (reading : Nat), _⟩ :: rest => reading = now ∧ Still now rest
  | ⟨.sleep _ _, _, _⟩ :: _ => True
  | _ :: rest => Still now rest

/-- A prompt event neither sleeps nor calls. -/
def Prompt : Event → Prop
  | ⟨.sleep _ _, _, _⟩ | ⟨.call _ _ _, _, _⟩ => False
  | _ => True

theorem Still.first {now : Instant} {first second : List Event}
    (still : Still now (first ++ second)) : Still now first := by
  induction first with
  | nil => trivial
  | cons event rest ih =>
      obtain ⟨request, reply, span⟩ := event
      cases request with
      | clock site => exact ⟨still.1, ih still.2⟩
      | sleep limit wait => trivial
      | _ => exact ih still

/-- A clock that stands still through a prompt part stands still after it. -/
theorem Still.second {now : Instant} {first second : List Event}
    (prompt : ∀ event ∈ first, Prompt event) (still : Still now (first ++ second)) :
    Still now second := by
  induction first with
  | nil => exact still
  | cons event rest ih =>
      have later := ih fun event member => prompt event (List.mem_cons_of_mem _ member)
      have now := prompt event (List.mem_cons_self ..)
      obtain ⟨request, reply, span⟩ := event
      cases request with
      | clock site => exact later still.2
      | sleep limit wait => exact now.elim
      | _ => exact later still

/-- An event of an append lies in one of its parts. -/
theorem split_append {first second before after : List Event} {event : Event}
    (same : first ++ second = before ++ event :: after) :
    (∃ rest, first = before ++ event :: rest ∧ after = rest ++ second) ∨
      ∃ rest, second = rest ++ event :: after ∧ before = first ++ rest := by
  rcases List.append_eq_append_iff.mp same with ⟨middle, rfl, split⟩ | ⟨middle, rfl, split⟩
  · exact .inr ⟨middle, split, rfl⟩
  · cases middle with
    | nil => exact .inr ⟨[], by simpa using split.symm, by simp⟩
    | cons other middle =>
        obtain ⟨rfl, rfl⟩ := List.cons_eq_cons.mp split
        exact .inl ⟨middle, rfl, rfl⟩

/-- A part without calls lies before every call. -/
theorem split_uncalled {first second before after : List Event} {event : Event}
    (called : calledPlan event ≠ none) (uncalled : calls first = [])
    (same : first ++ second = before ++ event :: after) :
    ∃ rest, second = rest ++ event :: after ∧ before = first ++ rest := by
  rcases split_append same with ⟨rest, rfl, _⟩ | later
  · exact absurd ((List.filterMap_eq_nil_iff.mp uncalled) event (by simp)) called
  · exact later

/-- A trace without calls has no call event. -/
theorem uncalled_split {trace before after : List Event} {event : Event}
    (called : calledPlan event ≠ none) (uncalled : calls trace = [])
    (same : trace = before ++ event :: after) : False := by
  subst same
  exact absurd ((List.filterMap_eq_nil_iff.mp uncalled) event (by simp)) called

/-- A throttled attempt with a minimum beyond its deadline, examined while the clock stands still. -/
structure Throttles (deadline : RequestDeadline) (now : Instant) (ms : Nat) (vendor : String)
    (reply : CallReply) (attemptTimeout : Duration) : Prop where
  missed : callOutcome reply attemptTimeout = .error (.rateLimitExceeded vendor (some ms))
  early : now < deadline.deadline
  positive : 0 < ms
  long : deadline.deadline - now < Duration.fromMillis ms

/-- An observed throttling does not depend on the timeout of its attempt. -/
theorem callOutcome_throttled {reply : CallReply} {vendor : String} {ms : Nat}
    {first second : Duration}
    (missed : callOutcome reply first = .error (.rateLimitExceeded vendor (some ms))) :
    callOutcome reply second = .error (.rateLimitExceeded vendor (some ms)) := by
  rcases reply with outcome | (_ | observed)
  · exact missed
  · cases missed
  · exact missed

section Throttled

variable {config : ExecutorConfig} {plan : RoutePlan} {params : ExecutionParams}
  {deadline : RequestDeadline} {trace : List Event} {now : Instant} {ms : Nat} {vendor : String}
  {reply : CallReply} {attemptTimeout : Duration}

/-- A minimum beyond the deadline ends the request at once. -/
theorem Ends.throttled {result : Option ExecutorError}
    (throttles : Throttles deadline now ms vendor reply attemptTimeout) (still : Still now trace)
    (ended : Ends deadline (.rateLimitExceeded vendor (some ms)) trace result) :
    result = some (.rateLimitExceeded vendor (some ms)) ∧ ∀ event ∈ trace, Prompt event := by
  obtain ⟨_, early, positive, long⟩ := throttles
  cases ended with
  | expired late =>
      obtain ⟨rfl, _⟩ := still
      exact absurd early (Nat.not_lt.mpr late)
  | unthrottled early free => cases free
  | fits spare found fitting =>
      cases found
      obtain ⟨_, rfl, _⟩ := still
      rcases fitting with zero | fits
      · exact absurd positive (by omega)
      · exact absurd long (Nat.not_lt.mpr fits)
  | exceeds spare found least exceeds => exact ⟨rfl, by simp [Prompt]⟩

theorem Leaves.throttled {result : Option ExecutorError}
    (throttles : Throttles deadline now ms vendor reply attemptTimeout) (still : Still now trace)
    (leaves : Leaves deadline (.rateLimitExceeded vendor (some ms)) trace result) :
    result = some (.rateLimitExceeded vendor (some ms)) ∧ ∀ event ∈ trace, Prompt event := by
  cases leaves with
  | ended other ended => exact ended.throttled throttles still
  | spared other spared => exact spared.throttled throttles still

/-- The examination of a throttled call finishes its attempt with the throttling. -/
theorem Examines.throttled {timeout : Duration} {step : AttemptStep}
    (throttles : Throttles deadline now ms vendor reply attemptTimeout) (still : Still now trace)
    (examined : Examines plan deadline reply timeout trace step) :
    step = .finished (.error (.rateLimitExceeded vendor (some ms))) ∧
      ∀ event ∈ trace, Prompt event := by
  have known : callOutcome reply timeout = .error (.rateLimitExceeded vendor (some ms)) :=
    callOutcome_throttled throttles.missed
  cases examined with
  | expired late =>
      obtain ⟨rfl, _⟩ := still
      exact absurd throttles.early (Nat.not_lt.mpr late)
  | succeeded early ready =>
      subst ready
      cases known
  | @failed reading span recorded error trace step early missed continued =>
      cases known.symm.trans missed
      have later : Still now trace := still.2
      cases continued with
      | permanent fatal => cases fatal
      | failed retryable spared =>
          obtain ⟨impossible, _⟩ := spared.throttled throttles later
          cases impossible
      | ended retryable terminated =>
          obtain ⟨same, prompt⟩ := terminated.throttled throttles later
          cases same
          exact ⟨rfl, by simpa [Prompt] using prompt⟩

/-- A started attempt with a throttled call finishes with it. -/
theorem Starts.throttled {attempt : Nat} {budget : AttemptBudget}
    {result : Option (AttemptStep × AttemptBudget)} {before after : List Event}
    {called : RoutePlan} {asked : ExecutionParams} {cutoff : Instant} {span : Span}
    (throttles : Throttles deadline now ms vendor reply attemptTimeout) (still : Still now after)
    (same : trace = before ++ .call called asked cutoff (some reply) span :: after)
    (start : Starts config plan params deadline attempt budget trace result) :
    ∃ used, result = some (.finished (.error (.rateLimitExceeded vendor (some ms))), used) ∧
      ∀ event ∈ after, Prompt event := by
  have isCall : calledPlan (.call called asked cutoff (some reply) span) ≠ none := by
    simp [calledPlan]
  cases start with
  | noCutoff late => exact (uncalled_split isCall rfl same).elim
  | @dropped reading span retry later next lost late checked recorded early timed room retried =>
      have quiet : calls (.clock .attemptCutoff reading span :: retry) = [] :=
        calls_silent (by simpa using retried.silent)
      obtain ⟨rest, tail, _⟩ := split_uncalled isCall quiet same
      rcases rest with _ | ⟨first, _ | ⟨second, rest⟩⟩
      · cases tail
      · cases tail
      · obtain ⟨_, tail⟩ := List.cons_eq_cons.mp tail
        obtain ⟨_, tail⟩ := List.cons_eq_cons.mp tail
        exact (uncalled_split isCall rfl tail).elim
  | @examined reading span retry later next answered lost trace step early timed room retried
      examined =>
      have quiet : calls (.clock .attemptCutoff reading span :: retry) = [] :=
        calls_silent (by simpa using retried.silent)
      obtain ⟨rest, tail, _⟩ := split_uncalled isCall quiet same
      rcases rest with _ | ⟨first, _ | ⟨second, rest⟩⟩
      · cases tail
      · cases tail
        obtain ⟨rfl, prompt⟩ := examined.throttled throttles still
        exact ⟨_, rfl, prompt⟩
      · obtain ⟨_, tail⟩ := List.cons_eq_cons.mp tail
        obtain ⟨_, tail⟩ := List.cons_eq_cons.mp tail
        exact (uncalled_split isCall (calls_silent examined.silent) tail).elim

/-- An attempt loop with a throttled call ends with it. -/
theorem Attempts.throttled {left attempt : Nat} {budget : AttemptBudget}
    {lastError : Option ExecutorError} {retryAfterMs : Option Nat}
    {result : Option (Outcome × AttemptBudget)} {before after : List Event}
    {called : RoutePlan} {asked : ExecutionParams} {cutoff : Instant} {span : Span}
    (throttles : Throttles deadline now ms vendor reply attemptTimeout) (still : Still now after)
    (same : trace = before ++ .call called asked cutoff (some reply) span :: after)
    (attempts : Attempts config plan params deadline left attempt budget lastError retryAfterMs
      trace result) :
    ∃ used, result = some (.error (.rateLimitExceeded vendor (some ms)), used) ∧
      ∀ event ∈ after, Prompt event := by
  have isCall : calledPlan (.call called asked cutoff (some reply) span) ≠ none := by
    simp [calledPlan]
  have checked : ∀ {reading : Instant} {check : Span} {trace : List Event},
      (∀ event ∈ trace, Silent event) → calls (.clock .isExpired reading check :: trace) = [] := by
    intro reading check trace silent
    exact calls_silent (by simpa using silent)
  induction attempts generalizing before with
  | exhausted => exact (uncalled_split isCall rfl same).elim
  | expired late => exact (uncalled_split isCall rfl same).elim
  | spent early full => exact (uncalled_split isCall rfl same).elim
  | waitDropped early spare prepared =>
      exact (uncalled_split isCall (checked prepared.silent) same).elim
  | waitEnded early spare prepared =>
      exact (uncalled_split isCall (checked prepared.silent) same).elim
  | @callDropped left attempt budget lastError retryAfterMs reading check trace started early spare
      prepared start =>
      rw [← List.cons_append] at same
      obtain ⟨rest, tail, _⟩ := split_uncalled isCall (checked prepared.silent) same
      obtain ⟨_, impossible, _⟩ := start.throttled throttles still tail
      cases impossible
  | @finished left attempt budget lastError retryAfterMs reading check trace started outcome used
      early spare prepared start =>
      rw [← List.cons_append] at same
      obtain ⟨rest, tail, _⟩ := split_uncalled isCall (checked prepared.silent) same
      obtain ⟨_, found, prompt⟩ := start.throttled throttles still tail
      cases found
      exact ⟨_, rfl, prompt⟩
  | @continued left attempt budget lastError retryAfterMs reading check trace started error used rest
      result early spare prepared start continued ih =>
      rw [← List.cons_append] at same
      obtain ⟨middle, tail, _⟩ := split_uncalled isCall (checked prepared.silent) same
      rcases split_append tail with ⟨ending, own, rfl⟩ | ⟨others, later, _⟩
      · obtain ⟨_, impossible, _⟩ := start.throttled throttles still.first own
        cases impossible
      · exact ih later

/-- A hop with a throttled call ends with it. -/
theorem Hops.throttled {budget : AttemptBudget} {result : Option (Outcome × AttemptBudget)}
    {before after : List Event} {called : RoutePlan} {asked : ExecutionParams} {cutoff : Instant}
    {span : Span} (throttles : Throttles deadline now ms vendor reply attemptTimeout)
    (still : Still now after)
    (same : trace = before ++ .call called asked cutoff (some reply) span :: after)
    (hops : Hops config plan params deadline budget trace result) :
    ∃ used, result = some (.error (.rateLimitExceeded vendor (some ms)), used) ∧
      ∀ event ∈ after, Prompt event := by
  have isCall : calledPlan (.call called asked cutoff (some reply) span) ≠ none := by
    simp [calledPlan]
  have admitted : ∀ {reading : Instant} {check question : Span} {admission : CircuitAdmission}
      {permit : CircuitPermit} {maxRetries : UInt32} {attempts closing : List Event}
      {result : Option (Outcome × AttemptBudget)},
      Attempts config plan params deadline (maxRetries.toNat + 1) 0 budget none none attempts
        result → Settles permit closing →
      .clock .isExpired reading check :: .admission plan admission question ::
        (attempts ++ closing) =
          before ++ .call called asked cutoff (some reply) span :: after →
      ∃ used, result = some (.error (.rateLimitExceeded vendor (some ms)), used) ∧
        ∀ event ∈ after, Prompt event := by
    intro reading check question admission permit maxRetries attempts closing result attempting
      settles same
    have opening : calls [Event.clock .isExpired reading check,
      .admission plan admission question] = [] := rfl
    obtain ⟨rest, tail, _⟩ := split_uncalled isCall opening same
    have ending : calls closing = [] ∧ ∀ event ∈ closing, Prompt event := by
      cases settles <;> exact ⟨rfl, by simp [Prompt]⟩
    rcases split_append tail with ⟨ended, own, rfl⟩ | ⟨others, later, _⟩
    · obtain ⟨used, found, prompt⟩ := attempting.throttled throttles still.first own
      refine ⟨used, found, fun event member => ?_⟩
      exact (List.mem_append.mp member).elim (prompt event) (ending.2 event)
    · exact (uncalled_split isCall ending.1 later).elim
  cases hops with
  | expired late => exact (uncalled_split isCall rfl same).elim
  | spent early full => exact (uncalled_split isCall rfl same).elim
  | rejected early spare => exact (uncalled_split isCall rfl same).elim
  | dropped early spare admits attempts => exact admitted attempts .released same
  | settled early spare admits attempts settles =>
      exact admitted attempts (settles_of_runs config admits settles).2 same

/-- A left hop with a throttled call ends the request, and another hop may hold a later call. -/
theorem Leaves.after_throttled {budget used : AttemptBudget} {error : ExecutorError}
    {result : Option ExecutorError} {hop leaving rest before after : List Event}
    {called : RoutePlan} {asked : ExecutionParams} {cutoff : Instant} {span : Span}
    (throttles : Throttles deadline now ms vendor reply attemptTimeout) (still : Still now after)
    (same : hop ++ (leaving ++ rest) =
      before ++ .call called asked cutoff (some reply) span :: after)
    (hops : Hops config plan params deadline budget hop (some (.error error, used)))
    (leaves : Leaves deadline error leaving result) :
    (result = some (.rateLimitExceeded vendor (some ms)) ∧
        ∃ ended, after = ended ++ rest ∧ ∀ event ∈ ended, Prompt event) ∨
      ∃ middle, rest = middle ++ .call called asked cutoff (some reply) span :: after := by
  have isCall : calledPlan (.call called asked cutoff (some reply) span) ≠ none := by
    simp [calledPlan]
  rcases split_append same with ⟨ended, own, rfl⟩ | ⟨others, later, _⟩
  · obtain ⟨_, found, prompt⟩ := hops.throttled throttles still.first own
    cases found
    obtain ⟨rfl, quick⟩ := leaves.throttled throttles (still.second prompt).first
    refine .inl ⟨rfl, ended ++ leaving, by simp, fun event member => ?_⟩
    exact (List.mem_append.mp member).elim (prompt event) (quick event)
  · obtain ⟨middle, tail, _⟩ := split_uncalled isCall (calls_silent leaves.silent) later
    exact .inr ⟨middle, tail⟩

/-- A fallback loop with a throttled call ends with it. -/
theorem Falls.throttled {primaryError : ExecutorError} {fallbackPlans : List RoutePlan}
    {budget : AttemptBudget} {fromTarget : String} {outcome : Option Outcome}
    {before after : List Event} {called : RoutePlan} {asked : ExecutionParams} {cutoff : Instant}
    {span : Span} (throttles : Throttles deadline now ms vendor reply attemptTimeout)
    (still : Still now after)
    (same : trace = before ++ .call called asked cutoff (some reply) span :: after)
    (falls : Falls config params deadline primaryError fallbackPlans budget fromTarget trace
      outcome) :
    outcome = some (.error (.rateLimitExceeded vendor (some ms))) ∧
      ∀ event ∈ after, Prompt event := by
  have isCall : calledPlan (.call called asked cutoff (some reply) span) ≠ none := by
    simp [calledPlan]
  have opened : ∀ {reading : Instant} {check marked : Span} {fromTarget toTarget : String}
      {rest before : List Event},
      Event.clock .isExpired reading check :: .record (.fallback fromTarget toTarget) marked ::
        rest = before ++ .call called asked cutoff (some reply) span :: after →
      ∃ middle, rest = middle ++ .call called asked cutoff (some reply) span :: after := by
    intro reading check marked fromTarget toTarget rest before same
    have quiet : calls [Event.clock .isExpired reading check,
      .record (.fallback fromTarget toTarget) marked] = [] := rfl
    obtain ⟨middle, tail, _⟩ := split_uncalled isCall quiet same
    exact ⟨middle, tail⟩
  induction falls generalizing before with
  | finished finished => exact (uncalled_split isCall (calls_silent finished.silent) same).elim
  | expired late => exact (uncalled_split isCall rfl same).elim
  | @skipped fallback rest budget fromTarget reading check trace outcome early unsupported falls ih =>
      have quiet : calls [Event.clock .isExpired reading check] = [] := rfl
      obtain ⟨middle, tail, _⟩ := split_uncalled isCall quiet same
      exact ih tail
  | dropped early supported hops =>
      obtain ⟨middle, tail⟩ := opened same
      obtain ⟨_, impossible, _⟩ := hops.throttled throttles still tail
      cases impossible
  | succeeded early supported hops =>
      obtain ⟨middle, tail⟩ := opened same
      obtain ⟨_, impossible, _⟩ := hops.throttled throttles still tail
      cases impossible
  | hopExpired early supported hops =>
      obtain ⟨middle, tail⟩ := opened same
      obtain ⟨_, impossible, _⟩ := hops.throttled throttles still tail
      cases impossible
  | @ended fallback rest budget fromTarget reading check marked hop error used leaving terminal early
      supported hops leaves =>
      obtain ⟨middle, tail⟩ := opened same
      rw [← List.append_nil leaving] at tail
      rcases leaves.after_throttled throttles still tail hops with
        ⟨found, ended, rfl, prompt⟩ | ⟨others, impossible⟩
      · cases found
        exact ⟨rfl, by simpa using prompt⟩
      · simp at impossible
  | ineligible early supported hops leaves fatal finished =>
      obtain ⟨middle, tail⟩ := opened same
      rcases leaves.after_throttled throttles still tail hops with ⟨impossible, _⟩ | ⟨others, later⟩
      · cases impossible
      · exact (uncalled_split isCall (calls_silent finished.silent) later).elim
  | continued early supported hops leaves eligible continued ih =>
      obtain ⟨middle, tail⟩ := opened same
      rcases leaves.after_throttled throttles still tail hops with ⟨impossible, _⟩ | ⟨others, later⟩
      · cases impossible
      · exact ih later

/-- An execution with a throttled call ends with it. -/
theorem Executes.throttled {payload : Json} {outcome : Option Outcome} {before after : List Event}
    {called : RoutePlan} {asked : ExecutionParams} {cutoff : Instant} {span : Span}
    (throttles : Throttles deadline now ms vendor reply attemptTimeout) (still : Still now after)
    (same : trace = before ++ .call called asked cutoff (some reply) span :: after)
    (executes : Executes config plan deadline payload trace outcome) :
    outcome = some (.error (.rateLimitExceeded vendor (some ms))) ∧
      ∀ event ∈ after, Prompt event := by
  have isCall : calledPlan (.call called asked cutoff (some reply) span) ≠ none := by
    simp [calledPlan]
  have opened : ∀ {reading : Instant} {check : Span} {rest before : List Event},
      Event.clock .isExpired reading check :: rest =
        before ++ .call called asked cutoff (some reply) span :: after →
      ∃ middle, rest = middle ++ .call called asked cutoff (some reply) span :: after := by
    intro reading check rest before same
    have quiet : calls [Event.clock .isExpired reading check] = [] := rfl
    obtain ⟨middle, tail, _⟩ := split_uncalled isCall quiet same
    exact ⟨middle, tail⟩
  cases executes with
  | expired late => exact (uncalled_split isCall rfl same).elim
  | invalid early rejected => exact (uncalled_split isCall rfl same).elim
  | dropped early extracted hops =>
      obtain ⟨middle, tail⟩ := opened same
      obtain ⟨_, impossible, _⟩ := hops.throttled throttles still tail
      cases impossible
  | succeeded early extracted hops =>
      obtain ⟨middle, tail⟩ := opened same
      obtain ⟨_, impossible, _⟩ := hops.throttled throttles still tail
      cases impossible
  | hopExpired early extracted hops =>
      obtain ⟨middle, tail⟩ := opened same
      obtain ⟨_, impossible, _⟩ := hops.throttled throttles still tail
      cases impossible
  | @ended reading check params hop error used leaving terminal early extracted hops leaves =>
      obtain ⟨middle, tail⟩ := opened same
      rw [← List.append_nil leaving] at tail
      rcases leaves.after_throttled throttles still tail hops with
        ⟨found, ended, rfl, prompt⟩ | ⟨others, impossible⟩
      · cases found
        exact ⟨rfl, by simpa using prompt⟩
      · simp at impossible
  | @ineligible reading check params hop error used leaving early extracted hops leaves fatal =>
      obtain ⟨middle, tail⟩ := opened same
      rw [← List.append_nil leaving] at tail
      rcases leaves.after_throttled throttles still tail hops with ⟨impossible, _⟩ | ⟨others, later⟩
      · cases impossible
      · simp at later
  | lateFallbacks early extracted hops leaves eligible late =>
      obtain ⟨middle, tail⟩ := opened same
      rcases leaves.after_throttled throttles still tail hops with ⟨impossible, _⟩ | ⟨others, later⟩
      · cases impossible
      · exact (uncalled_split isCall rfl later).elim
  | noFallbacks early extracted hops leaves eligible pending empty =>
      obtain ⟨middle, tail⟩ := opened same
      rcases leaves.after_throttled throttles still tail hops with ⟨impossible, _⟩ | ⟨others, later⟩
      · cases impossible
      · exact (uncalled_split isCall rfl later).elim
  | fallbacks early extracted hops leaves eligible pending nonempty continued =>
      obtain ⟨middle, tail⟩ := opened same
      rcases leaves.after_throttled throttles still tail hops with ⟨impossible, _⟩ | ⟨others, later⟩
      · cases impossible
      · obtain ⟨middle, tail⟩ := opened later
        exact continued.throttled throttles still tail

end Throttled

/-- A minimum that cannot end before the deadline ends its request at once as throttled. -/
def ThrottledAtOnce (deadline : RequestDeadline) (now : Instant) (ms : Nat) : Prop :=
  ∀ config plan payload before called params cutoff reply span after attemptTimeout vendor outcome,
    (execute config plan payload deadline).Runs
      (before ++ .call called params cutoff (some reply) span :: after) outcome →
    callOutcome reply attemptTimeout = .error (.rateLimitExceeded vendor (some ms)) →
    Still now after → deadline.deadline ≤ now + Duration.fromMillis ms →
    outcome = some (.error (.rateLimitExceeded vendor (some ms))) ∧
      ∀ event ∈ after, Prompt event

/-- An accepted wait of a provider minimum ends before the deadline and leaves time to call. -/
def AcceptedInTime (deadline : RequestDeadline) (now : Instant) (ms : Nat) : Prop :=
  ∀ wait, evaluateRetryDelay (.sleep (Duration.fromMillis ms) true) (deadline.remaining now) =
      .ok wait →
    now + wait < deadline.deadline ∧ ∀ maxAttempt : Duration, 0 < maxAttempt →
      deadline.attemptCutoff maxAttempt (now + wait) ≠ none

/-- A cutoff exists before the deadline of an attempt with time. -/
theorem attemptCutoff_some {deadline : RequestDeadline} {maxAttempt : Duration} {now : Instant}
    (early : now < deadline.deadline) (timed : 0 < maxAttempt) :
    deadline.attemptCutoff maxAttempt now ≠ none := by
  have later : now < now + maxAttempt := Nat.lt_add_of_pos_right timed
  unfold RequestDeadline.attemptCutoff
  rw [if_neg (Nat.not_le.mpr early)]
  by_cases sooner : deadline.deadline < now + maxAttempt
  · simp [sooner, Nat.not_le.mpr early]
  · simp [sooner, Nat.not_le.mpr later]

/-- The throttling rules meet the deadline exactly when the minimum does not end on it. -/
theorem throttling_meets_deadline (deadline : RequestDeadline) (now : Instant) (ms : Nat)
    (early : now < deadline.deadline) (positive : 0 < ms) :
    ThrottledAtOnce deadline now ms ∧ AcceptedInTime deadline now ms ↔
      now + Duration.fromMillis ms ≠ deadline.deadline := by
  have remaining : deadline.remaining now = deadline.deadline - now := rfl
  have split : now + (deadline.deadline - now) = deadline.deadline :=
    Nat.add_sub_of_le (Nat.le_of_lt early)
  constructor
  · rintro ⟨_, accepted⟩ equal
    have fits : Duration.fromMillis ms ≤ deadline.remaining now := by
      rw [remaining]
      exact Nat.le_sub_of_add_le' (Nat.le_of_eq equal)
    have same : evaluateRetryDelay (.sleep (Duration.fromMillis ms) true)
        (deadline.remaining now) = .ok (Duration.fromMillis ms) := if_pos fits
    exact absurd equal (Nat.ne_of_lt (accepted _ same).1)
  · intro other
    constructor
    · intro config plan payload before called params cutoff reply span after attemptTimeout vendor
        outcome run missed still late
      have long : deadline.deadline - now < Duration.fromMillis ms := by
        have strict := Nat.lt_of_le_of_ne late (Ne.symm other)
        exact Nat.sub_lt_left_of_lt_add (Nat.le_of_lt early) strict
      exact (executes_of_runs config plan deadline run).throttled
        ⟨missed, early, positive, long⟩ still rfl
    · intro wait same
      have fits : Duration.fromMillis ms ≤ deadline.deadline - now ∧
          Duration.fromMillis ms = wait := by
        simp only [evaluateRetryDelay] at same
        split at same
        · rename_i fits
          cases same
          exact ⟨fits, rfl⟩
        · cases same
      obtain ⟨fits, rfl⟩ := fits
      have before : now + Duration.fromMillis ms < deadline.deadline := by
        refine Nat.lt_of_le_of_ne ?_ other
        rw [← split]
        exact Nat.add_le_add_left fits now
      exact ⟨before, fun maxAttempt timed => attemptCutoff_some before timed⟩

theorem throttling_meets_deadline_example :
    ThrottledAtOnce ⟨1000000000⟩ 0 1001 ∧ AcceptedInTime ⟨1000000000⟩ 0 1001 :=
  (throttling_meets_deadline ⟨1000000000⟩ 0 1001 (by decide) (by decide)).mpr (by decide)

/-- The only call is throttled until exactly the deadline. -/
def equalWait : Effect Outcome :=
  execute ⟨10, 1, 3, 2000⟩ failoverPlan (.object [("messages", .array [])]) ⟨1000000000⟩

def equalWaitScript : Script :=
  ⟨0, [.ready (.error (.rateLimitExceeded "openai" (some 1000)))]⟩

def equalWaitTrace : List Event := (equalWait.drive Script.answer equalWaitScript).1

/-- The equal wait is slept, and its request expires instead of being throttled. -/
theorem equal_wait_expires :
    ¬ ThrottledAtOnce ⟨1000000000⟩ 0 1000 ∧ ¬ AcceptedInTime ⟨1000000000⟩ 0 1000 := by
  constructor
  · intro atOnce
    have same : equalWaitTrace[6]?.bind throttledCall = some (some 1000, 10000000, ⟨0, 0⟩) := by
      decide
    obtain ⟨event, found, throttled⟩ := Option.bind_eq_some_iff.mp same
    obtain ⟨called, params, rfl⟩ := throttledCall_eq_some throttled
    have run := equalWait.runs_drive Script.answer equalWaitScript
    change equalWait.Runs equalWaitTrace _ at run
    rw [split_getElem found] at run
    have still : Still 0 (equalWaitTrace.drop 7) := ⟨rfl, rfl, rfl, rfl, rfl, trivial⟩
    have throttled := (atOnce _ _ _ _ _ _ _ _ _ _ 0 "openai" _ run rfl still (by decide)).1
    revert throttled
    decide
  · intro accepted
    exact Nat.lt_irrefl _ (accepted 1000000000 rfl).1

end Opmux.Executor
