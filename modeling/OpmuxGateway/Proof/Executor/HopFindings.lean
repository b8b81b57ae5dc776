import OpmuxGateway.Proof.Executor.Findings
import OpmuxGateway.Proof.Executor.TimedTrace

/-
This file reads the hops of an execution as findings and decides their outcome.
-/

namespace Opmux.Executor
open Observer

/-- The findings between two hops keep the primary error and an eligible error of the last hop. -/
structure Findings.Between (findings : Findings) (primaryError : ExecutorError)
    (budget : AttemptBudget) : Prop where
  opened : findings.Open
  permitted : findings.permitted = false
  primary : findings.primaryError.getD (.apiCallFailed "Max retries exceeded") = primaryError
  eligible : ∀ error, findings.hopError = some error → isFallbackEligible error = true
  unentered : findings.hops = 0 → findings.primaryError = none
  unstarted : findings.hops = 0 → budget.maxTotal ≤ budget.started

/-- A refused hop leaves the findings alone, and an entered hop leaves its own error. -/
structure Findings.Missed (before : Findings) (budget used : AttemptBudget)
    (error : ExecutorError) (after : Findings) : Prop where
  opened : after.Open
  permitted : after.permitted = false
  shape : (∃ pacing, after = { before with pacing := pacing } ∧
      error = .apiCallFailed "Max retries exceeded" ∧ used.maxTotal ≤ used.started) ∨
    (budget.started < budget.maxTotal ∧ after.hopError = some error ∧ 0 < after.hops ∧
      after.primaryError = if before.hops = 0 then some error else before.primaryError)

theorem Findings.Missed.paced {before after : Findings} {budget used : AttemptBudget}
    {error : ExecutorError} (missed : before.Missed budget used error after) (pacing : Pacing) :
    before.Missed budget used error { after with pacing := pacing } := by
  refine ⟨missed.opened.paced pacing, missed.permitted, ?_⟩
  rcases missed.shape with ⟨_, rfl, shape⟩ | shape
  · exact .inl ⟨pacing, rfl, shape⟩
  · exact .inr shape

/-- The outcome of an execution is decided by its findings. -/
def Findings.Settled (config : ExecutorConfig) (findings : Findings) (outcome : Outcome) : Prop :=
  findings.Ended config outcome ∨
    (findings.Open ∧ outcome =
      .error (findings.primaryError.getD (.apiCallFailed "Max retries exceeded"))) ∨
    (findings.awaiting = none ∧ findings.hopError = some .deadlineExceeded ∧
      outcome = .error .deadlineExceeded)

/-- The end of a hop keeps its error for a later target, or it ends the request. -/
def Findings.Left (config : ExecutorConfig) (before : Findings) (budget used : AttemptBudget)
    (error : ExecutorError) (result : Option ExecutorError) (after : Findings) : Prop :=
  match result with
  | none => before.Missed budget used error after
  | some terminal => after.Ended config (.error terminal)

section Hops

variable {config : ExecutorConfig} {plan : RoutePlan} {params : ExecutionParams}
  {deadline : RequestDeadline} {findings : Findings} {trace : List Event}

/-- The attempts of a hop end with a decided outcome or with the error of the hop. -/
theorem Attempts.found {left attempt : Nat} {budget : AttemptBudget}
    {lastError : Option ExecutorError} {retryAfterMs : Option Nat}
    {result : Option (Outcome × AttemptBudget)} {entered : Nat} {primary : Option ExecutorError}
    (attempts : Attempts config plan params deadline left attempt budget lastError retryAfterMs
      trace result)
    (first : lastError = none → 0 < left ∧ budget.started < budget.maxTotal)
    (holding : findings.Holding entered primary lastError)
    (counted : findings.hopCalls = attempt) (delay : retryAfterMs = lastError.bind retryAfterOf)
    (fresh : attempt = 0 → lastError = none)
    (retryable : ∀ error, lastError = some error → isRetryableError error = true) :
    Finds config deadline findings trace (Findings.Awaited
      (fun pair => Findings.Closed config entered primary pair.1) result) := by
  -- The loop ends without a call only after an earlier attempt failed.
  have spent : ∀ {findings : Findings} {lastError : Option ExecutorError},
      findings.Holding entered primary lastError → lastError ≠ none →
      findings.Closed config entered primary (Executor.exhausted lastError) := by
    intro findings lastError holding failed
    cases lastError with
    | none => exact absurd rfl failed
    | some error => exact .inr ⟨error, rfl, holding⟩
  have waited : ∀ {findings : Findings} {attempt : Nat} {lastError : Option ExecutorError}
      {retryAfterMs : Option Nat} {trace : List Event} {result : Option (Option ExecutorError)},
      Prepares config plan deadline attempt lastError retryAfterMs trace result →
      (attempt = 0 → lastError = none) →
      findings.Open → Retrying findings attempt lastError retryAfterMs →
      Finds config deadline findings trace
        (Findings.Awaited (findings.Prepared config) result) := by
    intro findings attempt lastError retryAfterMs trace result prepared fresh opened retrying
    cases prepared with
    | first zero =>
        refine reads_nil.mpr ⟨⟨findings.pacing, rfl⟩, ?_⟩
        intro ms delayed
        rw [retrying.hopError, fresh zero] at delayed
        cases delayed
    | retry positive waited => exact waited.found opened retrying
  induction attempts generalizing findings with
  | exhausted =>
      refine reads_nil.mpr (spent holding ?_)
      intro none
      exact absurd (first none).1 (Nat.lt_irrefl 0)
  | expired late =>
      exact (finds_late holding.opened late).mono fun _ ended => .inl ended
  | spent early full =>
      refine finds_early holding.opened early (reads_nil.mpr (spent holding ?_))
      intro none
      exact absurd (first none).2 (UInt32.not_lt.mpr full)
  | waitDropped early spare prepared =>
      refine finds_early holding.opened early ?_
      exact waited prepared fresh holding.opened ⟨holding.hopError, counted, delay⟩
  | waitEnded early spare prepared =>
      refine finds_early holding.opened early ?_
      exact (waited prepared fresh holding.opened ⟨holding.hopError, counted, delay⟩).mono
        fun _ ended => .inl ended
  | callDropped early spare prepared start =>
      refine finds_early holding.opened early (reads_append.mpr ?_)
      refine (waited prepared fresh holding.opened ⟨holding.hopError, counted, delay⟩).mono ?_
      rintro middle ⟨⟨pacing, rfl⟩, enough⟩
      exact start.found (holding.paced pacing) retryable enough
  | finished early spare prepared start =>
      refine finds_early holding.opened early (reads_append.mpr ?_)
      refine (waited prepared fresh holding.opened ⟨holding.hopError, counted, delay⟩).mono ?_
      rintro middle ⟨⟨pacing, rfl⟩, enough⟩
      exact start.found (holding.paced pacing) retryable enough
  | continued early spare prepared start continued ih =>
      refine finds_early holding.opened early (reads_append.mpr ?_)
      refine (waited prepared fresh holding.opened ⟨holding.hopError, counted, delay⟩).mono ?_
      rintro middle ⟨⟨pacing, rfl⟩, enough⟩
      refine reads_append.mpr ((start.found (holding.paced pacing) retryable enough).mono ?_)
      rintro after ⟨failed, calls, retried⟩
      refine ih (by simp) failed (calls.trans (congrArg (· + 1) counted)) rfl (by simp) ?_
      rintro error ⟨⟩
      exact retried

theorem Settles.found {permit : Circuit.CircuitPermit} (settles : Settles permit trace)
    (awaiting : findings.awaiting = none) {post : Findings → Prop}
    (released : post { findings with permitted := false }) :
    Finds config deadline findings trace post := by
  cases settles with
  | completed => exact reads_cons.mpr ⟨awaiting, reads_nil.mpr released⟩
  | released => exact reads_cons.mpr ⟨awaiting, reads_nil.mpr released⟩

/-- A hop is missed with an error, or its findings decide the outcome of the request. -/
theorem Hops.found {budget : AttemptBudget} {result : Option (Outcome × AttemptBudget)}
    (hops : Hops config plan params deadline budget trace result) (opened : findings.Open)
    (permitted : findings.permitted = false)
    (eligible : ∀ error, findings.hopError = some error → isFallbackEligible error = true)
    (unentered : findings.hops = 0 → findings.primaryError = none) :
    Finds config deadline findings trace (Findings.Awaited (fun pair after =>
      after.Ended config pair.1 ∨
        ∃ error, pair.1 = .error error ∧ findings.Missed budget pair.2 error after) result) := by
  -- An admitted hop starts its attempts with its own empty findings.
  have entered : ∀ {admission permit maxRetries settlement},
      Admits config admission permit maxRetries settlement →
      (findings.enterHop plan admission).Holding (findings.hops + 1) findings.primaryError none := by
    intro admission permit maxRetries settlement admitted
    have holding : ({ findings with
        hops := findings.hops + 1, hopCalls := 0, permitted := true, hopError := none } :
          Findings).Holding (findings.hops + 1) findings.primaryError none := by
      refine ⟨⟨opened.success, opened.expired, opened.throttled, opened.awaiting, opened.jitter⟩,
        rfl, rfl, rfl, ?_⟩
      change findings.primaryError = _
      split
      · rename_i one
        exact unentered (by omega)
      · rfl
    cases admitted <;> exact holding
  have uncalled : ∀ {admission permit maxRetries settlement},
      Admits config admission permit maxRetries settlement →
      (findings.enterHop plan admission).hopCalls = 0 := by
    intro admission permit maxRetries settlement admitted
    cases admitted <;> rfl
  cases hops with
  | expired late => exact (finds_late opened late).mono fun _ ended => .inl ended
  | spent early full =>
      exact finds_early opened early
        (reads_nil.mpr (.inr ⟨_, rfl, opened, permitted, .inl ⟨findings.pacing, rfl, rfl, full⟩⟩))
  | @rejected now span retryAfterMs asked early spare =>
      refine finds_early opened early (reads_cons.mpr ⟨⟨opened, permitted, eligible⟩, ?_⟩)
      refine reads_nil.mpr (.inr ⟨_, rfl, ⟨opened.success, opened.expired, opened.throttled,
        opened.awaiting, opened.jitter⟩, rfl, .inr ⟨spare, rfl, Nat.succ_pos _, ?_⟩⟩)
      change (if findings.hops + 1 ≤ 1 then _ else findings.primaryError) = _
      simp
  | @dropped now span admission permit maxRetries settlement asked attempting released early spare
      admitted attempts =>
      refine finds_early opened early (reads_cons.mpr ⟨⟨opened, permitted, eligible⟩, ?_⟩)
      refine reads_append.mpr ((attempts.found ?_ (entered admitted) (uncalled admitted) rfl
        (fun _ => rfl) (by simp)).mono ?_)
      · exact fun _ => ⟨Nat.succ_pos _, spare⟩
      · intro middle awaiting
        exact Settles.found (Settles.released : Settles permit _) awaiting awaiting
  | @settled now span admission permit maxRetries settlement asked attempting outcome used closing
      early spare admitted attempts settles =>
      refine finds_early opened early (reads_cons.mpr ⟨⟨opened, permitted, eligible⟩, ?_⟩)
      refine reads_append.mpr ((attempts.found ?_ (entered admitted) (uncalled admitted) rfl
        (fun _ => rfl) (by simp)).mono ?_)
      · exact fun _ => ⟨Nat.succ_pos _, spare⟩
      · rintro middle (ended | ⟨error, same, holding⟩)
        · exact (settles_of_runs config admitted settles).2.found ended.1 (.inl ended)
        · refine (settles_of_runs config admitted settles).2.found holding.opened.awaiting
            (.inr ⟨error, same, ?_⟩)
          refine ⟨⟨holding.opened.success, holding.opened.expired, holding.opened.throttled,
            holding.opened.awaiting, holding.opened.jitter⟩, rfl,
            .inr ⟨spare, holding.hopError, ?_, ?_⟩⟩
          · change 0 < middle.hops
            rw [holding.hops]
            exact Nat.succ_pos _
          · change middle.primaryError = _
            rw [holding.primaryError]
            simp

variable (config deadline findings) in
/-- Only a reading of the remaining time finds a throttled hop. -/
theorem observe_throttled (event : Event) :
    (observe config deadline findings event).throttled = findings.throttled ∨
      ∃ now span error ms, event = .clock .remaining now span ∧
        findings.hopError = some error ∧ retryAfterOf error = some ms ∧ 0 < ms ∧
        deadline.deadline - now < Duration.fromMillis ms ∧
        (observe config deadline findings event).throttled =
          findings.throttled.or (some error) := by
  have examined : findings.examine.throttled = findings.throttled := by
    unfold Findings.examine
    split
    · rfl
    · split <;> rfl
  obtain ⟨request, reply, span⟩ := event
  cases request with
  | clock site =>
      cases site with
      | isExpired =>
          left
          change (if deadline.deadline ≤ reply then
            { findings with awaiting := none, expired := true }
            else findings.examine : Findings).throttled = _
          split
          · rfl
          · exact examined
      | remaining =>
          change (findings.compare (deadline.deadline - reply)).throttled = _ ∨ _
          unfold Findings.compare
          split
          · rename_i ms known
            split
            · rename_i exceeded
              obtain ⟨error, same, delay⟩ := Option.bind_eq_some_iff.mp known
              refine .inr ⟨reply, span, error, ms, rfl, same, delay, exceeded.1, exceeded.2, ?_⟩
              change (findings.compare (deadline.deadline - reply)).throttled = _
              rw [Findings.compare, known]
              simp only [exceeded, and_self, if_true, same]
            · exact .inl rfl
          · split <;> exact .inl rfl
      | attemptCutoff => exact .inl rfl
      | attemptTimeout => exact .inl rfl
  | sleep limit wait =>
      left
      rcases reply with _ | (_ | _) <;> rfl
  | admission plan => cases reply <;> exact .inl rfl
  | _ => exact .inl rfl

/-- A throttled hop was compared at an instant with too little time for its provider delay. -/
theorem throttled_reading {error : ExecutorError} (free : findings.throttled = none)
    (throttled : (trace.foldl (observe config deadline) findings).throttled = some error) :
    ∃ now span ms, Event.clock .remaining now span ∈ trace ∧ retryAfterOf error = some ms ∧
      0 < ms ∧ deadline.deadline - now < Duration.fromMillis ms := by
  obtain ⟨before, event, after, rfl, missing, found⟩ :=
    exists_turn (observe config deadline)
      (fun findings => findings.throttled = some error) (by simp [free]) throttled
  rcases observe_throttled config deadline _ event with same |
    ⟨now, span, own, ms, rfl, _, delay, positive, long, same⟩
  · exact absurd (same.symm.trans found) missing
  · have first : (before.foldl (observe config deadline) findings).throttled.or (some own) =
        some error := same.symm.trans found
    cases known : (before.foldl (observe config deadline) findings).throttled with
    | none =>
        rw [known, Option.none_or] at first
        cases first
        exact ⟨now, span, ms, by simp, delay, positive, long⟩
    | some earlier =>
        rw [known, Option.some_or] at first
        exact absurd (known.trans first) missing

/-- A throttled hop stays throttled when it is examined again. -/
theorem Ends.kept {error : ExecutorError} {result : Option ExecutorError}
    (ended : Ends deadline error trace result) {ms : Nat} (delay : retryAfterOf error = some ms)
    (long : ∀ now span, Event.clock .remaining now span ∈ trace →
      deadline.deadline - now < Duration.fromMillis ms)
    (positive : 0 < ms) (other : error ≠ .deadlineExceeded)
    (throttled : findings.Ended config (.error error)) :
    ∃ terminal, result = some terminal ∧
      Finds config deadline findings trace (Findings.Ended config · (.error terminal)) := by
  obtain ⟨awaiting, success, ⟨impossible, _⟩ | ⟨expired, throttled, known⟩⟩ := throttled
  · exact absurd impossible other
  have quiet : findings.examine = findings := by
    unfold Findings.examine
    rw [awaiting]
  cases ended with
  | expired late =>
      refine ⟨_, rfl, ?_⟩
      simp only [reads_cons, reads_nil, observe_late late, observe_record]
      exact ⟨trivial, rfl, rfl, success, .inl ⟨rfl, .inl rfl⟩⟩
  | unthrottled early free =>
      rw [free] at delay
      cases delay
  | @fits now span later next own early throttled fitting =>
      obtain rfl : own = ms := Option.some.inj (throttled.symm.trans delay)
      have short := long later next (by simp)
      rcases fitting with rfl | fitting
      · exact absurd positive (Nat.lt_irrefl 0)
      · exact absurd short (Nat.not_lt.mpr fitting)
  | @exceeds now span later next own early delayed room tight =>
      refine ⟨_, rfl, ?_⟩
      have found : findings.compare (deadline.deadline - later) = findings := by
        cases findings
        subst known throttled
        simp only [Findings.compare, Option.bind_some, delayed, room, tight, and_self, if_true,
          Option.some_or]
      simp only [reads_cons, reads_nil, observe_examine early, quiet, observe_remaining, found]
      exact ⟨trivial, awaiting, awaiting, success, .inr ⟨expired, throttled, known⟩⟩

/-- A failed hop and its examination leave the error of the hop, or they end the request. -/
theorem Hops.left {budget used : AttemptBudget} {hop : List Event} {error : ExecutorError}
    {result : Option ExecutorError} {start : Instant}
    (hops : Hops config plan params deadline budget hop (some (.error error, used)))
    (leaves : Leaves deadline error trace result) (timed : Timed start (hop ++ trace))
    (opened : findings.Open) (permitted : findings.permitted = false)
    (eligible : ∀ error, findings.hopError = some error → isFallbackEligible error = true)
    (unentered : findings.hops = 0 → findings.primaryError = none) :
    Finds config deadline findings (hop ++ trace)
      (findings.Left config budget used error result) := by
  obtain ⟨always, ended | ⟨_, same, missed⟩⟩ := hops.found opened permitted eligible unentered
  · obtain ⟨_, _, ⟨impossible, _⟩ | ⟨_, throttled, _⟩⟩ := id ended
    · exact absurd impossible leaves.other
    obtain ⟨now, span, ms, member, delay, positive, long⟩ :=
      throttled_reading opened.throttled throttled
    -- The clock is monotone, so the second comparison finds no more time than the first one.
    have tight : ∀ later next, Event.clock .remaining later next ∈ trace →
        deadline.deadline - later < Duration.fromMillis ms := by
      intro later next reading
      exact Nat.lt_of_le_of_lt (Nat.sub_le_sub_left (timed.readings member reading) _) long
    have kept : ∃ terminal, result = some terminal ∧ Finds config deadline
        (hop.foldl (observe config deadline) findings) trace
        (Findings.Ended config · (.error terminal)) := by
      cases leaves with
      | ended other ends => exact ends.kept delay tight positive other ended
      | spared other ends => exact ends.kept delay tight positive other ended
    obtain ⟨terminal, rfl, reads⟩ := kept
    exact reads_append.mpr ⟨always, reads⟩
  · cases same
    refine reads_append.mpr ⟨always, ?_⟩
    have own : retryAfterOf error ≠ none →
        (hop.foldl (observe config deadline) findings).hopError = some error := by
      intro delayed
      rcases missed.shape with ⟨_, _, rfl, _⟩ | ⟨_, known, _⟩
      · exact absurd rfl delayed
      · exact known
    cases leaves with
    | ended other ends => exact ends.found missed.opened own
    | spared other ends =>
        refine (ends.found missed.opened own).mono ?_
        rintro after ⟨pacing, rfl⟩
        exact missed.paced pacing

/-- A later missed hop keeps the error of the primary hop. -/
theorem Findings.Between.primary_kept {budget used : AttemptBudget}
    {primaryError error : ExecutorError} {after : Findings}
    (between : findings.Between primaryError budget)
    (missed : findings.Missed budget used error after) :
    after.primaryError.getD (.apiCallFailed "Max retries exceeded") = primaryError := by
  rcases missed.shape with ⟨pacing, rfl, _, _⟩ | ⟨spare, _, _, primary⟩
  · exact between.primary
  · have started : findings.hops ≠ 0 := by
      intro zero
      exact absurd spare (UInt32.not_lt.mpr (between.unstarted zero))
    rw [primary, if_neg started]
    exact between.primary

/-- A missed hop with an eligible error leaves the findings between two hops. -/
theorem Findings.Between.next {budget used : AttemptBudget} {primaryError error : ExecutorError}
    {after : Findings} (between : findings.Between primaryError budget)
    (missed : findings.Missed budget used error after) (eligible : isFallbackEligible error = true) :
    after.Between primaryError used := by
  have primary := between.primary_kept missed
  rcases missed.shape with ⟨pacing, rfl, _, full⟩ | ⟨_, known, entered, _⟩
  · exact ⟨missed.opened, missed.permitted, primary, between.eligible, between.unentered,
      fun _ => full⟩
  · refine ⟨missed.opened, missed.permitted, primary, ?_, ?_, ?_⟩
    · rw [known]
      rintro _ ⟨⟩
      exact eligible
    · exact fun zero => absurd entered (Nat.not_lt.mpr (Nat.le_of_eq zero))
    · exact fun zero => absurd entered (Nat.not_lt.mpr (Nat.le_of_eq zero))

/-- The last check ends the request, or it returns the error of the primary hop. -/
theorem Finishes.found {primaryError : ExecutorError} {outcome : Outcome} (opened : findings.Open)
    (primary : findings.primaryError.getD (.apiCallFailed "Max retries exceeded") = primaryError)
    (finished : Finishes deadline primaryError trace outcome) :
    Finds config deadline findings trace (Findings.Settled config · outcome) := by
  cases finished with
  | primary early =>
      exact finds_early opened early (reads_nil.mpr (.inr (.inl ⟨opened, by rw [primary]⟩)))
  | expired late => exact (finds_late opened late).mono fun _ ended => .inl ended

/-- The fallbacks end with the outcome that their findings decide. -/
theorem Falls.found {primaryError : ExecutorError} {fallbackPlans : List RoutePlan}
    {budget : AttemptBudget} {fromTarget : String} {outcome : Option Outcome} {start : Instant}
    (falls : Falls config params deadline primaryError fallbackPlans budget fromTarget trace
      outcome) (timed : Timed start trace) (between : findings.Between primaryError budget) :
    Finds config deadline findings trace
      (Findings.Awaited (fun outcome findings => findings.Settled config outcome) outcome) := by
  induction falls generalizing findings start with
  | finished finished => exact finished.found between.opened between.primary
  | expired late =>
      exact (finds_late between.opened late).mono fun _ ended => .inl ended
  | skipped early unsupported falls ih =>
      exact finds_early between.opened early (ih timed.2.2.2 between)
  | dropped early supported hops =>
      exact finds_early between.opened early
        (reads_cons.mpr ⟨between.opened.awaiting, hops.found between.opened between.permitted
          between.eligible between.unentered⟩)
  | succeeded early supported hops =>
      refine finds_early between.opened early
        (reads_cons.mpr ⟨between.opened.awaiting, (hops.found between.opened between.permitted
          between.eligible between.unentered).mono ?_⟩)
      rintro after (ended | ⟨_, impossible, _⟩)
      · exact .inl ended
      · cases impossible
  | hopExpired early supported hops =>
      refine finds_early between.opened early
        (reads_cons.mpr ⟨between.opened.awaiting, (hops.found between.opened between.permitted
          between.eligible between.unentered).mono ?_⟩)
      rintro after (ended | ⟨error, same, missed⟩)
      · exact .inl ended
      · cases same
        rcases missed.shape with ⟨_, _, impossible, _⟩ | ⟨_, known, _⟩
        · cases impossible
        · exact .inr (.inr ⟨missed.opened.awaiting, known, rfl⟩)
  | ended early supported hops leaves =>
      refine finds_early between.opened early (reads_cons.mpr ⟨between.opened.awaiting, ?_⟩)
      exact (hops.left leaves timed.2.2.2.2.2.2 between.opened between.permitted between.eligible
        between.unentered).mono fun _ ended => .inl ended
  | @ineligible fallback rest budget fromTarget now span recorded hop error used trace finish outcome
      early supported hops leaves fatal finished =>
      refine finds_early between.opened early (reads_cons.mpr ⟨between.opened.awaiting, ?_⟩)
      obtain ⟨_, _, _, _, _, _, timed⟩ := timed
      rw [← List.append_assoc] at timed ⊢
      refine reads_append.mpr ((hops.left leaves (timed_append.mp timed).1 between.opened
        between.permitted between.eligible between.unentered).mono ?_)
      intro after missed
      exact finished.found missed.opened (between.primary_kept missed)
  | @continued fallback rest budget fromTarget now span recorded hop error used trace falls outcome
      early supported hops leaves eligible continued ih =>
      refine finds_early between.opened early (reads_cons.mpr ⟨between.opened.awaiting, ?_⟩)
      obtain ⟨_, _, _, _, _, _, timed⟩ := timed
      rw [← List.append_assoc] at timed ⊢
      refine reads_append.mpr ((hops.left leaves (timed_append.mp timed).1 between.opened
        between.permitted between.eligible between.unentered).mono ?_)
      intro after missed
      exact ih (timed_append.mp timed).2 (between.next missed eligible)

/-- The primary hop leaves the findings before the first fallback. -/
theorem between_of_missed {budget used : AttemptBudget} {error : ExecutorError} {after : Findings}
    (missed : Findings.initial.Missed budget used error after)
    (eligible : isFallbackEligible error = true) : after.Between error used := by
  rcases missed.shape with ⟨pacing, rfl, rfl, full⟩ | ⟨_, known, entered, primary⟩
  · exact ⟨missed.opened, missed.permitted, rfl, by simp [Findings.initial], fun _ => rfl,
      fun _ => full⟩
  · refine ⟨missed.opened, missed.permitted, by rw [primary]; rfl, ?_, ?_, ?_⟩
    · rw [known]
      rintro _ ⟨⟩
      exact eligible
    · exact fun zero => absurd entered (Nat.not_lt.mpr (Nat.le_of_eq zero))
    · exact fun zero => absurd entered (Nat.not_lt.mpr (Nat.le_of_eq zero))

theorem initial_open : Findings.initial.Open := ⟨rfl, rfl, rfl, rfl, rfl⟩

/-- Every execution of a monotone clock ends with the outcome that its findings decide. -/
theorem Executes.found {payload : Json} {outcome : Option Outcome} {start : Instant}
    (executes : Executes config plan deadline payload trace outcome) (timed : Timed start trace) :
    Finds config deadline .initial trace (Findings.Awaited (fun outcome findings =>
      findings.Settled config outcome ∨ (findings.Open ∧ ∃ error,
        extractParams payload = .error error ∧ outcome = .error error)) outcome) := by
  have none : ∀ error, Findings.initial.hopError = some error → isFallbackEligible error = true := by
    simp [Findings.initial]
  have ineligible : ∀ {used budget error after}, Findings.initial.Missed budget used error after →
      after.primaryError.getD (.apiCallFailed "Max retries exceeded") = error := by
    intro used budget error after missed
    rcases missed.shape with ⟨pacing, rfl, rfl, _⟩ | ⟨_, _, _, primary⟩
    · rfl
    · rw [primary]
      rfl
  cases executes with
  | expired late => exact (finds_late initial_open late).mono fun _ ended => .inl (.inl ended)
  | invalid early rejected =>
      exact finds_early initial_open early
        (reads_nil.mpr (.inr ⟨initial_open, _, rejected, rfl⟩))
  | dropped early extracted hops =>
      exact finds_early initial_open early (hops.found initial_open rfl none fun _ => rfl)
  | succeeded early extracted hops =>
      refine finds_early initial_open early
        ((hops.found initial_open rfl none fun _ => rfl).mono ?_)
      rintro after (ended | ⟨_, impossible, _⟩)
      · exact .inl (.inl ended)
      · cases impossible
  | hopExpired early extracted hops =>
      refine finds_early initial_open early
        ((hops.found initial_open rfl none fun _ => rfl).mono ?_)
      rintro after (ended | ⟨error, same, missed⟩)
      · exact .inl (.inl ended)
      · cases same
        rcases missed.shape with ⟨_, _, impossible, _⟩ | ⟨_, known, _⟩
        · cases impossible
        · exact .inl (.inr (.inr ⟨missed.opened.awaiting, known, rfl⟩))
  | ended early extracted hops leaves =>
      refine finds_early initial_open early ((hops.left leaves timed.2.2.2 initial_open rfl none
        fun _ => rfl).mono ?_)
      exact fun _ ended => .inl (.inl ended)
  | ineligible early extracted hops leaves fatal =>
      refine finds_early initial_open early ((hops.left leaves timed.2.2.2 initial_open rfl none
        fun _ => rfl).mono ?_)
      intro after missed
      exact .inl (.inr (.inl ⟨missed.opened, by rw [ineligible missed]⟩))
  | lateFallbacks early extracted hops leaves eligible late =>
      obtain ⟨_, _, _, timed⟩ := timed
      rw [← List.append_assoc] at timed ⊢
      refine finds_early initial_open early (reads_append.mpr ((hops.left leaves
        (timed_append.mp timed).1 initial_open rfl none fun _ => rfl).mono ?_))
      intro after missed
      exact (finds_late missed.opened late).mono fun _ ended => .inl (.inl ended)
  | noFallbacks early extracted hops leaves eligible pending empty =>
      obtain ⟨_, _, _, timed⟩ := timed
      rw [← List.append_assoc] at timed ⊢
      refine finds_early initial_open early (reads_append.mpr ((hops.left leaves
        (timed_append.mp timed).1 initial_open rfl none fun _ => rfl).mono ?_))
      intro after missed
      exact finds_early missed.opened pending
        (reads_nil.mpr (.inl (.inr (.inl ⟨missed.opened, by rw [ineligible missed]⟩))))
  | fallbacks early extracted hops leaves eligible pending nonempty continued =>
      obtain ⟨_, _, _, timed⟩ := timed
      rw [← List.append_assoc] at timed ⊢
      obtain ⟨first, second⟩ := timed_append.mp timed
      refine finds_early initial_open early (reads_append.mpr ((hops.left leaves
        first initial_open rfl none fun _ => rfl).mono ?_))
      intro after missed
      refine finds_early missed.opened pending
        ((continued.found second.2.2.2 (between_of_missed missed eligible)).mono ?_)
      intro final settled
      cases outcome with
      | none => exact settled
      | some outcome => exact .inl settled

end Hops

end Opmux.Executor
