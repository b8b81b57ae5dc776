import OpmuxGateway.Construction.Executor.OpenAi
import OpmuxGateway.Proof.Executor.DeadlineSafety

/-
This file follows a Retry-After value from its header to the next provider call.
-/

namespace Opmux.Executor
open Observer Program

/-- A header value asks for no call before this wall-clock time. -/
def notBefore (chrono : Chrono) (value : String) (wall : Int) : Option Int :=
  let trimmed := trim value
  if trimmed.isEmpty then none
  else if trimmed.toList.all Char.isDigit then
    some (wall + Duration.second * digitsValue trimmed.toList)
  else parseHttpDate chrono trimmed

/-- The conversions keep a count below `2 ^ 64` and a date after whole milliseconds. -/
def RetryAfterFits (chrono : Chrono) (deadline : RequestDeadline)
    (value : String) (wall : Int) (seen : Instant) : Prop :=
  let trimmed := trim value
  if trimmed.toList.all Char.isDigit then digitsValue trimmed.toList < 2 ^ 64
  else ∀ date, parseHttpDate chrono trimmed = some date →
    date ≤ wall ∨ (Duration.millisecond : Int) ∣ date - wall ∨
      deadline.deadline < seen + Duration.fromMillis (Duration.asMillis (date - wall).toNat)

/-- A call answers with the classification of a response whose header was read during it. -/
inductive ReadsRetryAfter (chrono : Chrono)
    (fromSlice : List UInt8 → Option Json) (origin : Int) (value : String) (wall : Int)
    (seen cutoff : Instant) (reply : CallReply) (span : Span) : Prop
  | intro {header : List UInt8} {trace : List VendorEvent} {outcome : Option ExecutorError}
      (text : headerToStr header = some value)
      (run : (classifyTooManyRequests chrono fromSlice cutoff (some header)).Runs trace
        outcome)
      (read : (⟨.systemTime, wall, seen⟩ : VendorEvent) ∈ trace)
      (within : span.issued ≤ seen ∧ seen ≤ span.answered)
      (advances : wall = origin + seen)
      (delivered : reply = callReply trace outcome)

section Classification

variable {chrono : Chrono} {fromSlice : List UInt8 → Option Json}
  {cutoff : Instant} {trace : List VendorEvent}

/-- A readable header reads the wall clock once. -/
theorem readRetryAfter_runs {header : List UInt8} {value : String} {outcome : Option (Option Nat)}
    (text : headerToStr header = some value)
    (run : (readRetryAfter chrono (some header)).Runs trace outcome) :
    ∃ now stamp, trace = [⟨.systemTime, now, stamp⟩] ∧
      outcome = some (retryAfterHeaderMs chrono value now) := by
  simp only [readRetryAfter, Option.bind_some, text] at run
  rw [runs_request_bind] at run
  obtain ⟨now, stamp, rest, rfl, rfl, rfl⟩ := run
  exact ⟨now, stamp, rfl, rfl⟩

/-- A classification answers with the converted header or with the exhausted quota. -/
theorem classify_runs {header : List UInt8} {value : String} {outcome : Option ExecutorError}
    (text : headerToStr header = some value)
    (run : (classifyTooManyRequests chrono fromSlice cutoff (some header)).Runs trace
      outcome) :
    ∃ now stamp rest, trace = ⟨.systemTime, now, stamp⟩ :: rest ∧
      (∀ wall seen, (⟨.systemTime, wall, seen⟩ : VendorEvent) ∉ rest) ∧
      ∃ error, (callReply trace outcome = .ready (.error error) ∨
          callReply trace outcome = .elapsed (some error)) ∧
        (error = .quotaExceeded ∨
          error = .rateLimitExceeded "openai" (retryAfterHeaderMs chrono value now)) := by
  unfold classifyTooManyRequests at run
  rw [runs_bind] at run
  rcases run with ⟨first, converted, second, rfl, reading, run⟩ | ⟨_, impossible⟩
  · obtain ⟨now, stamp, rfl, same⟩ := readRetryAfter_runs text reading
    cases same
    rw [runs_request_bind] at run
    obtain ⟨_, observed, second, rfl, run⟩ := run
    rw [runs_request_bind] at run
    obtain ⟨clock, clocked, second, rfl, run⟩ := run
    refine ⟨now, stamp, _, rfl, ?_⟩
    simp only at run
    split at run
    · obtain ⟨rfl, rfl⟩ := run
      exact ⟨by simp, _, .inl rfl, .inr rfl⟩
    · rw [runs_request_bind] at run
      obtain ⟨reply, awaited, second, rfl, run⟩ := run
      rcases reply with _ | (body | _ | _)
      · obtain ⟨rfl, rfl⟩ := run
        exact ⟨by simp, _, .inr rfl, .inr rfl⟩
      · simp only at run
        split at run
        · rw [runs_request_bind] at run
          obtain ⟨_, refined, second, rfl, rfl, rfl⟩ := run
          exact ⟨by simp, _, .inl rfl, .inl rfl⟩
        · obtain ⟨rfl, rfl⟩ := run
          exact ⟨by simp, _, .inl rfl, .inr rfl⟩
      · obtain ⟨rfl, rfl⟩ := run
        exact ⟨by simp, _, .inl rfl, .inr rfl⟩
      · obtain ⟨rfl, rfl⟩ := run
        exact ⟨by simp, _, .inl rfl, .inr rfl⟩
  · obtain ⟨_, _, _, impossible⟩ := readRetryAfter_runs text impossible
    cases impossible

end Classification

/-- The converted header keeps the whole wait of a value that fits. -/
theorem retryAfterHeaderMs_fits {chrono : Chrono} {deadline : RequestDeadline} {value : String}
    {wall earliest : Int} {seen : Instant} (asked : notBefore chrono value wall = some earliest)
    (fits : RetryAfterFits chrono deadline value wall seen) :
    ∃ wait : Duration, retryAfterHeaderMs chrono value wall = some (durationMs wait) ∧
      (earliest ≤ wall ∨ earliest = wall + wait ∧ (Duration.millisecond ∣ wait ∨
        deadline.deadline < seen + Duration.fromMillis (Duration.asMillis wait))) := by
  unfold notBefore at asked
  unfold RetryAfterFits at fits
  simp only [retryAfterHeaderMs, parseRetryAfter]
  simp only at asked fits
  split at asked
  · cases asked
  rename_i nonempty
  rw [if_neg nonempty]
  split at asked
  · rename_i digits
    rw [if_pos digits] at fits ⊢
    cases asked
    have parsed : parseU64 (trim value) = some (digitsValue (trim value).toList) := by
      unfold parseU64
      exact if_pos (Nat.le_sub_one_of_lt fits)
    refine ⟨Duration.fromSecs (digitsValue (trim value).toList), ?_, .inr ⟨?_, .inl ?_⟩⟩
    · rw [parsed]
      rfl
    · rw [Duration.fromSecs, Nat.cast_mul]
    · exact Dvd.dvd.mul_right (by decide) _
  · rename_i digits
    rw [if_neg digits] at fits ⊢
    refine ⟨(earliest - wall).toNat, by rw [asked]; rfl, ?_⟩
    rcases fits earliest asked with past | whole | late
    · exact .inl past
    · by_cases past : earliest ≤ wall
      · exact .inl past
      · refine .inr ⟨by omega, .inl ?_⟩
        rw [← Int.natCast_dvd_natCast, Int.toNat_of_nonneg (by omega)]
        exact whole
    · by_cases past : earliest ≤ wall
      · exact .inl past
      · exact .inr ⟨by omega, .inr late⟩

section Pacing

variable {config : ExecutorConfig} {deadline : RequestDeadline} {findings : Findings}
  {trace : List Event}

variable (config deadline findings) in
/-- A failure clears the pacing, and only a reading or a finished wait adds to it. -/
theorem observe_pacing (event : Event) :
    (observe config deadline findings event).pacing = findings.pacing ∨
      (observe config deadline findings event).pacing = ⟨none, none⟩ ∨
      (∃ now span, event = .clock .remaining now span ∧
        (observe config deadline findings event).pacing =
          { findings.pacing with remainingRead := some now }) ∨
      ∃ limit wait span, event = .sleep limit wait (some .ready) span ∧
        (observe config deadline findings event).pacing =
          { findings.pacing with waited := some wait } := by
  obtain ⟨request, reply, span⟩ := event
  cases request with
  | clock site =>
      cases site with
      | isExpired =>
          rw [observe]
          split
          · exact .inl rfl
          · unfold Findings.examine
            split
            · exact .inl rfl
            · split
              · exact .inl rfl
              · exact .inr (.inl rfl)
      | remaining =>
          have kept : (findings.compare (deadline.deadline - reply)).pacing = findings.pacing := by
            unfold Findings.compare
            split
            · split <;> rfl
            · split <;> rfl
          refine .inr (.inr (.inl ⟨reply, span, rfl, ?_⟩))
          rw [observe, Findings.readAt, kept]
      | _ => exact .inl rfl
  | sleep limit wait =>
      rcases reply with _ | (_ | _)
      · exact .inl rfl
      · exact .inr (.inr (.inr ⟨limit, wait, span, rfl, rfl⟩))
      · exact .inl rfl
  | admission plan =>
      cases reply with
      | reject retryAfterMs => exact .inr (.inl rfl)
      | _ => exact .inl rfl
  | _ => exact .inl rfl

/-- A finished wait of the pacing is a sleep of the trace. -/
theorem foldl_waited {wait : Duration} (clear : findings.pacing = ⟨none, none⟩)
    (waited : (trace.foldl (observe config deadline) findings).pacing.waited = some wait) :
    ∃ before limit span after, trace = before ++ .sleep limit wait (some .ready) span :: after := by
  obtain ⟨before, event, after, rfl, missing, found⟩ :=
    exists_turn (observe config deadline) (fun findings => findings.pacing.waited = some wait)
      (by simp [clear]) waited
  rcases observe_pacing config deadline _ event with same | same | ⟨_, _, _, same⟩ |
    ⟨limit, slept, span, rfl, same⟩
  · rw [same] at found
    exact absurd found missing
  · rw [same] at found
    cases found
  · rw [same] at found
    exact absurd found missing
  · rw [same] at found
    cases found
    exact ⟨before, limit, span, after, rfl⟩

/-- A reading of the pacing is a reading of the trace. -/
theorem foldl_remainingRead {now : Instant} (clear : findings.pacing = ⟨none, none⟩)
    (read : (trace.foldl (observe config deadline) findings).pacing.remainingRead = some now) :
    ∃ span, Event.clock .remaining now span ∈ trace := by
  obtain ⟨before, event, after, rfl, missing, found⟩ :=
    exists_turn (observe config deadline)
      (fun findings => findings.pacing.remainingRead = some now) (by simp [clear]) read
  rcases observe_pacing config deadline _ event with same | same | ⟨_, span, rfl, same⟩ |
    ⟨_, _, _, _, same⟩
  · rw [same] at found
    exact absurd found missing
  · rw [same] at found
    cases found
  · rw [same] at found
    cases found
    exact ⟨span, by simp⟩
  · rw [same] at found
    exact absurd found missing

/-- An error that cannot fall back stays the error of its hop in a trace without calls. -/
theorem foldl_failedWith {error : ExecutorError} (failed : findings.FailedWith error)
    (fatal : isFallbackEligible error = false)
    (always : Always (observe config deadline) (Allowed config deadline) findings trace)
    (uncalled : calls trace = []) :
    (trace.foldl (observe config deadline) findings).FailedWith error := by
  induction trace generalizing findings with
  | nil => exact failed
  | cons event rest ih =>
      rw [calls, List.filterMap_cons] at uncalled
      cases silent : calledPlan event with
      | some plan =>
          rw [silent] at uncalled
          cases uncalled
      | none =>
          rw [silent] at uncalled
          exact ih (failed.observe fatal always.1 silent) always.2 uncalled

end Pacing

/-- The first call of a trace follows events without calls. -/
theorem exists_first_call {trace : List Event} (called : calls trace ≠ []) :
    ∃ quiet event rest, trace = quiet ++ event :: rest ∧ calls quiet = [] ∧
      calledPlan event ≠ none := by
  induction trace with
  | nil => exact absurd rfl called
  | cons event rest ih =>
      cases silent : calledPlan event with
      | some plan => exact ⟨[], event, rest, rfl, rfl, by simp [silent]⟩
      | none =>
          rw [calls, List.filterMap_cons, silent] at called
          obtain ⟨quiet, later, tail, rfl, uncalled, found⟩ := ih called
          refine ⟨event :: quiet, later, tail, rfl, ?_, found⟩
          rw [calls, List.filterMap_cons, silent]
          exact uncalled

/-- A call after a failed call needs a retryable error and its whole provider delay. -/
theorem waited_before_call {config : ExecutorConfig} {deadline : RequestDeadline}
    {findings : Findings} {error : ExecutorError} {plan : RoutePlan} {params : ExecutionParams}
    {cutoff : Instant} {reply : Option CallReply} {span : Span} {middle after : List Event}
    (always : Always (observe config deadline) (Allowed config deadline) findings
      (middle ++ .call plan params cutoff reply span :: after))
    (failed : findings.FailedWith error) (clear : findings.pacing = ⟨none, none⟩)
    (fatal : isFallbackEligible error = false) :
    isRetryableError error = true ∧ ∀ ms, retryAfterOf error = some ms → 0 < ms →
      ∃ first limit slept rest now reading,
        middle = first ++ .sleep limit (Duration.fromMillis ms) (some .ready) slept :: rest ∧
        Event.clock .remaining now reading ∈ first ∧
        Duration.fromMillis ms ≤ deadline.deadline - now := by
  have called : calls (middle ++ [.call plan params cutoff reply span]) ≠ [] := by
    rw [calls_append]
    exact List.append_ne_nil_of_right_ne_nil _ (List.cons_ne_nil _ _)
  obtain ⟨quiet, event, rest, same, uncalled, found⟩ := exists_first_call called
  rw [List.append_cons, same, List.append_assoc, always_append, List.cons_append,
    always_cons] at always
  obtain ⟨early, allowed, _⟩ := always
  have known := (foldl_failedWith failed fatal early uncalled).hopError
  have within : ∃ rest, middle = quiet ++ rest := by
    rcases List.eq_nil_or_concat rest with rfl | ⟨rest, last, rfl⟩
    · exact ⟨[], by simpa using (List.append_inj' same rfl).1⟩
    · rw [List.concat_eq_append, ← List.cons_append, ← List.append_assoc] at same
      exact ⟨event :: rest, (List.append_inj' same rfl).1⟩
  obtain ⟨request, answered, stamp⟩ := event
  cases request with
  | call called own limit =>
      obtain ⟨_, _, waited, retryable, _⟩ := allowed
      refine ⟨retryable error known, ?_⟩
      intro ms delay positive
      have slept := waited ms (by rw [known]; exact delay) positive
      obtain ⟨first, limit, span, tail, rfl⟩ := foldl_waited clear slept
      rw [always_append, always_cons] at early
      obtain ⟨_, ⟨_, _, now, read, fits⟩, _⟩ := early
      obtain ⟨reading, member⟩ := foldl_remainingRead clear read
      obtain ⟨rest, rfl⟩ := within
      exact ⟨first, limit, span, tail ++ rest, now, reading, by simp, member, fits⟩
  | _ => exact absurd rfl found

/-- A classified call fails with the converted header or with the exhausted quota. -/
theorem ReadsRetryAfter.fails {chrono : Chrono} {fromSlice : List UInt8 → Option Json}
    {origin wall : Int} {value : String} {seen cutoff : Instant} {reply : CallReply} {span : Span}
    (reads : ReadsRetryAfter chrono fromSlice origin value wall seen cutoff reply span) :
    ∃ error, (∀ attemptTimeout, callOutcome reply attemptTimeout = .error error) ∧
      (error = .quotaExceeded ∨
        error = .rateLimitExceeded "openai" (retryAfterHeaderMs chrono value wall)) := by
  obtain ⟨text, run, read, _, _, rfl⟩ := reads
  obtain ⟨now, stamp, rest, rfl, once, error, delivered, classified⟩ := classify_runs text run
  rcases List.mem_cons.mp read with same | later
  · cases same
    refine ⟨error, ?_, classified⟩
    intro attemptTimeout
    rcases delivered with ready | elapsed
    · rw [ready]
      rfl
    · rw [elapsed]
      rfl
  · exact absurd later (once wall seen)

/-- A provider delay in whole milliseconds is not lost when it is short enough to be slept. -/
theorem wait_le_fromMillis {wait : Duration} {ms : Nat} (same : durationMs wait = ms)
    (short : ms ≤ 300000) (whole : Duration.millisecond ∣ wait) :
    wait = Duration.fromMillis ms := by
  have unclamped : Duration.asMillis wait = ms := by
    unfold durationMs clampU64 u64Max at same
    omega
  rw [← unclamped, Duration.fromMillis, Duration.asMillis, Nat.mul_div_cancel' whole]

/-- A failed call before another call was examined in time and left its error. -/
theorem examined_before_call {config : ExecutorConfig} {deadline : RequestDeadline}
    {findings : Findings} {error : ExecutorError} {called next : RoutePlan}
    {params nextParams : ExecutionParams} {cutoff nextCutoff : Instant} {reply : CallReply}
    {nextReply : Option CallReply} {span nextSpan : Span} {middle after : List Event}
    (always : Always (observe config deadline) (Allowed config deadline) findings
      (.call called params cutoff (some reply) span ::
        (middle ++ .call next nextParams nextCutoff nextReply nextSpan :: after)))
    (failed : ∀ attemptTimeout, callOutcome reply attemptTimeout = .error error) :
    ∃ now read rest failure, middle = .clock .isExpired now read :: rest ∧
      now < deadline.deadline ∧ Findings.FailedWith error failure ∧
      failure.pacing = ⟨none, none⟩ ∧
      Always (observe config deadline) (Allowed config deadline) failure
        (rest ++ .call next nextParams nextCutoff nextReply nextSpan :: after) := by
  obtain ⟨_, always⟩ := always
  cases middle with
  | nil =>
      -- The event after a completed call is its examination, and never the next call.
      obtain ⟨_, _, impossible⟩ := allowed_awaiting always.1 (Option.some_ne_none _)
      cases impossible
  | cons event rest =>
      obtain ⟨now, read, rfl⟩ := allowed_awaiting always.1 (Option.some_ne_none _)
      obtain ⟨_, always⟩ := always
      have early : now < deadline.deadline := by
        by_contra late
        rw [observe_late (Nat.le_of_not_lt late)] at always
        have silent := Findings.Final.calls (.inr (.inl rfl)) always
        rw [List.append_eq, calls_append] at silent
        exact absurd (List.append_eq_nil_iff.mp silent).2 (List.cons_ne_nil _ _)
      have missed : (observe config deadline findings
          (.call called params cutoff (some reply) span)).examine =
          ({ findings with
            awaiting := none
            hopCalls := findings.hopCalls + 1 } : Findings).fail error := by
        simp only [observe, Findings.examine, Option.map_some, failed]
      rw [observe_examine early, missed] at always
      exact ⟨now, read, rest, _, rfl, early, ⟨rfl, rfl⟩, rfl, always⟩

/-- No later call of a request starts before the time that a Retry-After value asks for.
The whole wait is slept before it. -/
def RetryAfterHonoured (chrono : Chrono) (fromSlice : List UInt8 → Option Json) (origin : Int)
    (deadline : RequestDeadline) (value : String) (wall : Int) (seen : Instant) : Prop :=
  ∀ (config : ExecutorConfig) (plan : RoutePlan) (payload : Json) (start : Instant)
    (trace : List Event) (outcome : Option Outcome) (earliest : Int)
    (before middle after : List Event) (called next : RoutePlan)
    (params nextParams : ExecutionParams) (cutoff nextCutoff : Instant) (reply : CallReply)
    (nextReply : Option CallReply) (span nextSpan : Span),
    Timed start trace →
    deadline.deadline ≤ start + Duration.fromMillis 300000 →
    (execute config plan payload deadline).Runs trace outcome →
    trace = before ++ .call called params cutoff (some reply) span ::
      (middle ++ .call next nextParams nextCutoff nextReply nextSpan :: after) →
    ReadsRetryAfter chrono fromSlice origin value wall seen cutoff reply span →
    notBefore chrono value wall = some earliest →
    earliest ≤ origin + nextSpan.issued ∧
      (earliest ≤ wall ∨ ∃ limit wait slept, Event.sleep limit wait (some .ready) slept ∈ middle ∧
        earliest ≤ wall + wait)

/-- A Retry-After value that the conversions keep is honoured. -/
theorem retry_after_honoured (chrono : Chrono) (fromSlice : List UInt8 → Option Json)
    (origin : Int) (deadline : RequestDeadline) (value : String) (wall : Int) (seen : Instant)
    (fits : RetryAfterFits chrono deadline value wall seen) :
    RetryAfterHonoured chrono fromSlice origin deadline value wall seen := by
  intro config plan payload start trace outcome earliest before middle after called next params
    nextParams cutoff nextCutoff reply nextReply span nextSpan timed policy run shape reads asked
  obtain ⟨always, _⟩ := (executes_of_runs config plan deadline run).found timed
  subst shape
  obtain ⟨error, failed, classified⟩ := reads.fails
  obtain ⟨_, _, _, ⟨_, inside⟩, advances, _⟩ := reads
  rw [always_append] at always
  obtain ⟨now, read, rest, failure, rfl, early, failing, clear, always⟩ :=
    examined_before_call always.2 failed
  obtain ⟨begun, issued, answered, _, timed⟩ := timed_append.mp timed
  obtain ⟨between, later, _⟩ := timed_append.mp timed
  have examined := (between.reading (List.mem_cons_self ..)).1
  have fatal : isFallbackEligible error = false := by
    rcases classified with rfl | rfl <;> rfl
  obtain ⟨retryable, waits⟩ := waited_before_call always failing clear fatal
  obtain ⟨wait, converted, kept⟩ := retryAfterHeaderMs_fits asked fits
  rcases classified with rfl | rfl
  · cases retryable
  rw [converted] at waits
  have passed : seen ≤ nextSpan.issued :=
    Nat.le_trans inside (Nat.le_trans between.le_leftAt later)
  rcases kept with past | ⟨rfl, whole⟩
  · exact ⟨by lia, .inl past⟩
  rcases Nat.eq_zero_or_pos (durationMs wait) with zero | positive
  · -- A wait below one millisecond is no wait at all when it is whole.
    have nothing : wait = 0 := by
      rcases whole with whole | late
      · rw [wait_le_fromMillis zero (Nat.zero_le _) whole, Duration.fromMillis_zero]
      · have none : Duration.asMillis wait = 0 := by
          unfold durationMs clampU64 u64Max at zero
          omega
        rw [none, Duration.fromMillis_zero] at late
        lia
    subst nothing
    exact ⟨by lia, .inl (by simp)⟩
  · obtain ⟨first, limit, sleeping, tail, instant, reading, rfl, member, fitting⟩ :=
      waits _ rfl positive
    obtain ⟨opened, checked, _, between⟩ := between
    have slept := Nat.le_trans between.slept later
    have measured := ((timed_append.mp between).1.reading member).1
    have begin : start ≤ instant :=
      calc
        start ≤ span.issued := Nat.le_trans begun.le_leftAt issued
        _ ≤ span.answered := answered
        _ ≤ read.answered := Nat.le_trans opened checked
        _ ≤ instant := measured
    have observed : seen ≤ read.answered := Nat.le_trans inside (Nat.le_trans opened checked)
    -- The wait fits before the deadline, so the millisecond count is far below its limit.
    have short : durationMs wait ≤ 300000 := by
      refine Nat.le_of_mul_le_mul_left (c := Duration.millisecond) ?_ Duration.millisecond_pos
      change Duration.fromMillis _ ≤ Duration.fromMillis _
      generalize Duration.fromMillis (durationMs wait) = delay at fitting
      generalize Duration.fromMillis 300000 = limit at policy
      lia
    have whole : Duration.millisecond ∣ wait := by
      rcases whole with whole | late
      · exact whole
      · exfalso
        have unclamped : Duration.asMillis wait = durationMs wait := by
          unfold durationMs clampU64 u64Max at short ⊢
          omega
        rw [unclamped] at late
        have room := Duration.fromMillis_pos positive
        generalize Duration.fromMillis (durationMs wait) = delay at fitting late room
        lia
    have same := wait_le_fromMillis rfl short whole
    rw [← same] at slept
    refine ⟨?_, .inr ⟨limit, Duration.fromMillis (durationMs wait), sleeping, by simp,
      Int.le_of_eq ?_⟩⟩
    · have reached : seen + wait ≤ nextSpan.issued :=
        Nat.le_trans (Nat.add_le_add_right observed wait) slept
      lia
    · rw [← same]

/-- The attempt clock of this vendor stands still, and its body is never readable. -/
def stillVendor (wall : Int) : (request : VendorRequest) → VendorReply request × Instant × Unit
  | .systemTime => (wall, 0, ())
  | .attemptClock => (0, 0, ())
  | .observe _ => ((), 0, ())
  | .readBody _ => (some .failed, 0, ())

/-- This library knows one date. -/
def oneDate : Chrono := ⟨fun _ => some 1000000000, fun _ _ => none⟩

/-- The digits of `2 ^ 64`. -/
def hugeDelay : String := "18446744073709551616"

def oneSecondDate : String := "Thu, 01 Jan 1970 00:00:01 GMT"

def headerBytes (value : String) : List UInt8 := value.toList.map fun c => UInt8.ofNat c.toNat

/-- The first call is throttled, and the second call succeeds. -/
def retryingScript (retryAfterMs : Option Nat) : Script :=
  ⟨0, [.ready (.error (.rateLimitExceeded "openai" retryAfterMs)),
    .ready (.ok ⟨"hi", "assistant", "m", 1, 1, .finite 0, "stop"⟩)]⟩

def retryingProgram : Effect Outcome :=
  execute ⟨10, 1, 3, 2000⟩ failoverPlan (.object [("messages", .array [])]) ⟨2000000000⟩

/-- The events of the retried request. -/
@[irreducible] def retryingTrace (retryAfterMs : Option Nat) : List Event :=
  (retryingProgram.drive Script.answer (retryingScript retryAfterMs)).1

/-- A throttled response of the still vendor reads its header at the instant zero. -/
theorem throttledResponse_reads {wall : Int} {value : String} {retryAfterMs : Option Nat}
    (text : headerToStr (headerBytes value) = some value)
    (converted : retryAfterHeaderMs oneDate value wall = retryAfterMs) :
    ReadsRetryAfter oneDate (fun _ => none) wall value wall 0 10000000
      (.ready (.error (.rateLimitExceeded "openai" retryAfterMs))) ⟨0, 0⟩ := by
  have run := runs_drive (fun _ => stillVendor wall) ()
    (classifyTooManyRequests oneDate (fun _ => none) 10000000 (some (headerBytes value)))
  have driven : (classifyTooManyRequests oneDate (fun _ => none) 10000000
      (some (headerBytes value))).drive (fun _ => stillVendor wall) () =
      ([⟨.systemTime, wall, 0⟩,
        ⟨.observe (.rateLimitExceeded "openai" retryAfterMs), (), 0⟩, ⟨.attemptClock, (0 : Nat), 0⟩,
        ⟨.readBody 5000000, some .failed, 0⟩],
        some (.rateLimitExceeded "openai" retryAfterMs)) := by
    subst converted
    simp only [classifyTooManyRequests, readRetryAfter, Option.bind_some, text]
    rfl
  rw [driven] at run
  exact .intro text run (List.mem_cons_self ..) ⟨Nat.le_refl 0, Nat.le_refl 0⟩ (by simp) rfl

def callSpan : Event → Option Span
  | ⟨.call _ _ _, _, span⟩ => some span
  | _ => none

theorem callSpan_eq_some {event : Event} {span : Span} (found : callSpan event = some span) :
    ∃ plan params cutoff reply, event = .call plan params cutoff reply span := by
  unfold callSpan at found
  split at found
  · cases found
    exact ⟨_, _, _, _, rfl⟩
  · cases found

/-- An honoured value delays the second call of the retried request. -/
theorem honoured_next_call (wall earliest : Int) (value : String) (retryAfterMs : Option Nat)
    (later : Nat) (nextSpan : Span) (outcome : Option Outcome)
    (timed : Timed 0 (retryingTrace retryAfterMs))
    (run : retryingProgram.Runs (retryingTrace retryAfterMs) outcome)
    (text : headerToStr (headerBytes value) = some value)
    (converted : retryAfterHeaderMs oneDate value wall = retryAfterMs)
    (asked : notBefore oneDate value wall = some earliest)
    (throttled : (retryingTrace retryAfterMs)[6]?.bind throttledCall =
      some (retryAfterMs, 10000000, ⟨0, 0⟩))
    (retried : ((retryingTrace retryAfterMs).drop 7)[later]?.bind callSpan = some nextSpan)
    (honoured : RetryAfterHonoured oneDate (fun _ => none) wall ⟨2000000000⟩ value wall 0) :
    earliest ≤ wall + nextSpan.issued := by
  obtain ⟨event, first, same⟩ := Option.bind_eq_some_iff.mp throttled
  obtain ⟨next, second, spanned⟩ := Option.bind_eq_some_iff.mp retried
  obtain ⟨called, params, rfl⟩ := throttledCall_eq_some same
  obtain ⟨retry, retryParams, cutoff, reply, rfl⟩ := callSpan_eq_some spanned
  have shape := split_getElem first
  rw [split_getElem second] at shape
  exact (honoured ⟨10, 1, 3, 2000⟩ failoverPlan (.object [("messages", .array [])]) 0
    (retryingTrace retryAfterMs) outcome earliest _ _ _ _ _ _ _ _ _ _ _ _ _
    timed (by decide) run shape (throttledResponse_reads text converted) asked).1

theorem oneSecondDate_fits : RetryAfterFits oneDate ⟨2000000000⟩ oneSecondDate 0 0 := by
  unfold RetryAfterFits
  rw [if_neg (by decide)]
  rintro date ⟨⟩
  exact .inr (.inl (by decide))

theorem retry_after_honoured_example :
    (1000000000 : Int) ≤ 0 + (1000000000 : Nat) :=
  honoured_next_call 0 1000000000 oneSecondDate (some 1000) 11 ⟨1000000000, 1000000000⟩
    _ (by unfold retryingTrace; exact (retryingScript (some 1000)).timed retryingProgram)
    (by unfold retryingTrace; exact retryingProgram.runs_drive _ (retryingScript (some 1000)))
    (by decide) (by decide) (by decide) (by unfold retryingTrace; decide)
    (by unfold retryingTrace; decide)
    (retry_after_honoured oneDate (fun _ => none) 0 ⟨2000000000⟩ oneSecondDate 0 0
      oneSecondDate_fits)

/-- A count of `2 ^ 64` seconds is not waited for, and a date is met one nanosecond early. -/
theorem retry_after_shortened :
    ¬ RetryAfterHonoured oneDate (fun _ => none) 0 ⟨2000000000⟩ hugeDelay 0 0 ∧
      ¬ RetryAfterHonoured oneDate (fun _ => none) 1 ⟨2000000000⟩ oneSecondDate 1 0 := by
  constructor
  · intro honoured
    have kept := honoured_next_call 0 (Duration.second * 2 ^ 64) hugeDelay none 10 ⟨0, 0⟩
      _ (by unfold retryingTrace; exact (retryingScript none).timed retryingProgram)
      (by unfold retryingTrace; exact retryingProgram.runs_drive _ (retryingScript none))
      (by decide) (by decide) (by decide)
      (by unfold retryingTrace; decide) (by unfold retryingTrace; decide) honoured
    revert kept
    decide
  · intro honoured
    have kept := honoured_next_call 1 1000000000 oneSecondDate (some 999) 11
      ⟨999000000, 999000000⟩ _
      (by unfold retryingTrace; exact (retryingScript (some 999)).timed retryingProgram)
      (by unfold retryingTrace; exact retryingProgram.runs_drive _ (retryingScript (some 999)))
      (by decide) (by decide) (by decide)
      (by unfold retryingTrace; decide) (by unfold retryingTrace; decide) honoured
    revert kept
    decide

end Opmux.Executor
