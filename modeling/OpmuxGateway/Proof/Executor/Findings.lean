import OpmuxGateway.Library.Observer
import OpmuxGateway.Proof.Executor.ExecutionDerivation

/-
This file reads a trace as the findings that decide its outcome.
-/

namespace Opmux.Executor
open Observer

/-- The pacing of a failed attempt is its last remaining-time reading and its finished wait. -/
structure Pacing where
  remainingRead : Option Instant
  waited : Option Duration

/-- The findings keep what the checks of a trace have shown so far. -/
structure Findings where
  hops : Nat
  hopCalls : Nat
  permitted : Bool
  hopError : Option ExecutorError
  primaryError : Option ExecutorError
  cutoffRead : Option Instant
  timeoutRead : Option Instant
  awaiting : Option (CallReply × Instant)
  jitter : Option Nat
  pacing : Pacing
  success : Option ExecutionResult
  expired : Bool
  throttled : Option ExecutorError

namespace Findings

/-- Nothing is found before the first event. -/
def initial : Findings where
  hops := 0
  hopCalls := 0
  permitted := false
  hopError := none
  primaryError := none
  cutoffRead := none
  timeoutRead := none
  awaiting := none
  jitter := none
  pacing := ⟨none, none⟩
  success := none
  expired := false
  throttled := none

/-- The error of an attempt or of an admission is the error of the newest hop. -/
def fail (findings : Findings) (error : ExecutorError) : Findings :=
  { findings with
    hopError := some error
    pacing := ⟨none, none⟩
    primaryError := if findings.hops ≤ 1 then some error else findings.primaryError }

/-- An examination before the deadline finds the result or the error of the completed call. -/
def examine (findings : Findings) : Findings :=
  match findings.awaiting with
  | none => findings
  | some (reply, cutoff) =>
      match callOutcome reply (cutoff - findings.timeoutRead.getD 0) with
      | .ok result => { findings with awaiting := none, success := some result }
      | .error error => { findings with awaiting := none }.fail error

/-- A reading of the remaining time is compared with the planned wait. -/
def compare (findings : Findings) (remaining : Duration) : Findings :=
  match findings.hopError.bind retryAfterOf with
  | some ms =>
      if 0 < ms ∧ remaining < Duration.fromMillis ms then
        { findings with throttled := findings.throttled.or findings.hopError }
      else findings
  | none =>
      match findings.jitter with
      | some ms =>
          { findings with
            jitter := none
            expired := findings.expired || decide (remaining < Duration.fromMillis ms) }
      | none => findings

def readAt (findings : Findings) (now : Instant) : Findings :=
  { findings with pacing := { findings.pacing with remainingRead := some now } }

def wait (findings : Findings) (delay : Duration) : Findings :=
  { findings with pacing := { findings.pacing with waited := some delay } }

/-- An admission starts a new hop, and a rejection is the error of that hop. -/
def enterHop (findings : Findings) (plan : RoutePlan) (admission : Circuit.CircuitAdmission) :
    Findings :=
  let findings := { findings with
    hops := findings.hops + 1, hopCalls := 0, permitted := true, hopError := none }
  match admission with
  | .reject retryAfterMs =>
      { findings with permitted := false }.fail (.circuitOpen plan.vendorId retryAfterMs)
  | _ => findings

end Findings

/-- The jitter that a retry plans from its entropy. -/
def plannedJitter (config : ExecutorConfig) (attempt : Nat) (raw : Option UInt64) : Nat :=
  match raw with
  | none => 0
  | some raw => raw.toNat % min (retryWindowMs config attempt + 1) u64Max

/-- Each event adds its finding. -/
def observe (config : ExecutorConfig) (deadline : RequestDeadline) (findings : Findings) :
    Event → Findings
  | ⟨.clock .isExpired, now, _⟩ =>
      if deadline.deadline ≤ now then { findings with awaiting := none, expired := true }
      else findings.examine
  | ⟨.clock .attemptCutoff, now, _⟩ =>
      { findings with
        cutoffRead := some now
        expired := findings.expired || decide (deadline.deadline ≤ now) }
  | ⟨.clock .attemptTimeout, now, _⟩ => { findings with timeoutRead := some now }
  | ⟨.clock .remaining, now, _⟩ =>
      (findings.compare (deadline.deadline - now)).readAt now
  | ⟨.entropy, raw, _⟩ =>
      { findings with jitter := some (plannedJitter config findings.hopCalls raw) }
  | ⟨.sleep _ wait, reply, _⟩ =>
      match reply with
      | some .ready => findings.wait wait
      | some .elapsed => { findings with expired := true }
      | none => findings
  | ⟨.call _ _ cutoff, reply, _⟩ =>
      { findings with
        awaiting := reply.map fun reply => (reply, cutoff)
        hopCalls := findings.hopCalls + 1 }
  | ⟨.admission plan, admission, _⟩ => findings.enterHop plan admission
  | ⟨.settle _ _, _, _⟩ | ⟨.dropPermit _, _, _⟩ => { findings with permitted := false }
  | _ => findings

/-- No final outcome is found yet, and no completed call waits for its examination. -/
structure Findings.Open (findings : Findings) : Prop where
  success : findings.success = none
  expired : findings.expired = false
  throttled : findings.throttled = none
  awaiting : findings.awaiting = none
  jitter : findings.jitter = none

/-- A success, an expiry, or a throttled hop decides an outcome. -/
def Findings.Ended (config : ExecutorConfig) (findings : Findings) (outcome : Outcome) : Prop :=
  findings.awaiting = none ∧
    match outcome with
    | .ok result => findings.success = some result ∧ findings.expired = false
    | .error error => findings.success = none ∧
        (error = .deadlineExceeded ∧ (findings.expired = true ∨ config.timeoutMs = 0) ∨
          findings.expired = false ∧ findings.throttled = some error ∧
            findings.hopError = some error)

/-- A provider delay of the failed attempt was slept in full. -/
def Findings.Waited (findings : Findings) : Prop :=
  ∀ ms, findings.hopError.bind retryAfterOf = some ms → 0 < ms →
    findings.pacing.waited = some (Duration.fromMillis ms)

/-- A call needs open findings of a permitted hop, and a new hop needs an eligible error. -/
def Allowed (config : ExecutorConfig) (deadline : RequestDeadline) (findings : Findings) :
    Event → Prop
  | ⟨.call _ _ cutoff, _, _⟩ =>
      findings.Open ∧ findings.permitted = true ∧ findings.Waited ∧
        (∀ error, findings.hopError = some error → isRetryableError error = true) ∧
        ∃ now, findings.cutoffRead = some now ∧ now < deadline.deadline ∧ now < cutoff ∧
          cutoff ≤ min (now + Duration.fromMillis config.timeoutMs) deadline.deadline
  | ⟨.admission _, _, _⟩ =>
      findings.Open ∧ findings.permitted = false ∧
        ∀ error, findings.hopError = some error → isFallbackEligible error = true
  | ⟨.sleep limit wait, _, _⟩ => findings.awaiting = none ∧ limit ≤ deadline.deadline ∧
      ∃ now, findings.pacing.remainingRead = some now ∧ wait ≤ deadline.deadline - now
  | ⟨.clock .isExpired, _, _⟩ => True
  | _ => findings.awaiting = none

/-- A trace is found when every event of it is allowed by the findings before it. -/
abbrev Finds (config : ExecutorConfig) (deadline : RequestDeadline) (findings : Findings)
    (trace : List Event) (post : Findings → Prop) : Prop :=
  Reads (observe config deadline) (Allowed config deadline) findings trace post

/-- A check keeps the findings, or it ends the request as they decide. -/
def Findings.Checked (config : ExecutorConfig) (before : Findings) (result : Option ExecutorError)
    (after : Findings) : Prop :=
  match result with
  | none => ∃ pacing, after = { before with pacing := pacing }
  | some error => after.Ended config (.error error)

/-- A wait keeps the findings and is long enough, or it ends the request as they decide. -/
def Findings.Prepared (config : ExecutorConfig) (before : Findings)
    (result : Option ExecutorError) (after : Findings) : Prop :=
  match result with
  | none => (∃ pacing, after = { before with pacing := pacing }) ∧ after.Waited
  | some error => after.Ended config (.error error)

/-- A dropped program leaves no completed call, and a finished one is checked. -/
def Findings.Awaited {Value : Type} (check : Value → Findings → Prop) (result : Option Value)
    (after : Findings) : Prop :=
  match result with
  | none => after.awaiting = none
  | some value => check value after

/-- The findings of a hop whose attempts are open with one error. -/
structure Findings.Holding (entered : Nat) (primary lastError : Option ExecutorError)
    (findings : Findings) : Prop where
  opened : findings.Open
  permitted : findings.permitted = true
  hops : findings.hops = entered
  hopError : findings.hopError = lastError
  primaryError : findings.primaryError = if entered ≤ 1 then lastError else primary

theorem Findings.Open.paced {findings : Findings} (opened : findings.Open) (pacing : Pacing) :
    Findings.Open { findings with pacing := pacing } :=
  ⟨opened.success, opened.expired, opened.throttled, opened.awaiting, opened.jitter⟩

theorem Findings.Holding.paced {entered : Nat} {primary lastError : Option ExecutorError}
    {findings : Findings} (holding : findings.Holding entered primary lastError) (pacing : Pacing) :
    Findings.Holding entered primary lastError { findings with pacing := pacing } :=
  ⟨holding.opened.paced pacing, holding.permitted, holding.hops, holding.hopError,
    holding.primaryError⟩

/-- The outcome of a hop is decided, or it is the own error of the hop. -/
def Findings.Closed (config : ExecutorConfig) (entered : Nat) (primary : Option ExecutorError)
    (outcome : Outcome) (after : Findings) : Prop :=
  after.Ended config outcome ∨
    ∃ error, outcome = .error error ∧ after.Holding entered primary (some error)

/-- A step finishes the hop, or the hop continues with a retryable error. -/
def Findings.Stepped (config : ExecutorConfig) (entered : Nat) (primary : Option ExecutorError)
    (attempt : Nat) (step : AttemptStep) (after : Findings) : Prop :=
  match step with
  | .finished outcome => after.Closed config entered primary outcome
  | .failed error => after.Holding entered primary (some error) ∧ after.hopCalls = attempt ∧
      isRetryableError error = true
  | .stopped => False

section Readings

variable {config : ExecutorConfig} {plan : RoutePlan} {params : ExecutionParams}
  {deadline : RequestDeadline} {findings : Findings} {trace : List Event}

theorem Findings.Open.examine (opened : findings.Open) : findings.examine = findings := by
  unfold Findings.examine
  rw [opened.awaiting]

/-- An early reading of the deadline examines the completed call. -/
theorem observe_examine {now : Instant} {span : Span} (early : now < deadline.deadline) :
    observe config deadline findings (.clock .isExpired now span) = findings.examine :=
  if_neg (Nat.not_le.mpr early)

/-- An early reading of the deadline leaves open findings as they are. -/
theorem observe_early {now : Instant} {span : Span} (opened : findings.Open)
    (early : now < deadline.deadline) :
    observe config deadline findings (.clock .isExpired now span) = findings := by
  rw [observe_examine early, opened.examine]

/-- A late reading of the deadline finds the expiry. -/
theorem observe_late {now : Instant} {span : Span} (late : deadline.deadline ≤ now) :
    observe config deadline findings (.clock .isExpired now span) =
      { findings with awaiting := none, expired := true } :=
  if_pos late

theorem observe_remaining {now : Instant} {span : Span} :
    observe config deadline findings (.clock .remaining now span) =
      (findings.compare (deadline.deadline - now)).readAt now := rfl

@[simp] theorem observe_record {event : ExecutionEvent} {span : Span} :
    observe config deadline findings (.record event span) = findings := rfl

/-- A found success and a found expiry stay found. -/
theorem observe_keeps (findings : Findings) (event : Event) :
    (findings.success ≠ none → (observe config deadline findings event).success ≠ none) ∧
      (findings.expired = true → (observe config deadline findings event).expired = true) := by
  have examined : (findings.success ≠ none → findings.examine.success ≠ none) ∧
      (findings.expired = true → findings.examine.expired = true) := by
    unfold Findings.examine
    split
    · exact ⟨id, id⟩
    · split
      · exact ⟨fun _ => Option.some_ne_none _, id⟩
      · exact ⟨id, id⟩
  obtain ⟨request, reply, span⟩ := event
  cases request with
  | clock site =>
      cases site with
      | isExpired =>
          rw [observe]
          split
          · exact ⟨id, fun _ => rfl⟩
          · exact examined
      | remaining =>
          rw [observe, Findings.compare]
          split
          · split <;> exact ⟨id, id⟩
          · split
            · exact ⟨id, fun expired => by simp [Findings.readAt, expired]⟩
            · exact ⟨id, id⟩
      | attemptCutoff => exact ⟨id, fun expired => by simp [observe, expired]⟩
      | attemptTimeout => exact ⟨id, id⟩
  | sleep limit wait =>
      rcases reply with _ | (_ | _)
      · exact ⟨id, id⟩
      · exact ⟨id, id⟩
      · exact ⟨id, fun _ => rfl⟩
  | admission plan => cases reply <;> exact ⟨id, id⟩
  | _ => exact ⟨id, id⟩

/-- Open findings that meet the deadline end the request. -/
theorem ended_late {findings after : Findings} (opened : findings.Open)
    (awaiting : after.awaiting = none) (success : after.success = findings.success)
    (expired : after.expired = true) : after.Ended config (.error .deadlineExceeded) :=
  ⟨awaiting, success.trans opened.success, .inl ⟨rfl, .inl expired⟩⟩

/-- A late check and its record end the request. -/
theorem finds_late {now : Instant} {span recorded : Span} (opened : findings.Open)
    (late : deadline.deadline ≤ now) :
    Finds config deadline findings
      [.clock .isExpired now span, .record .deadlineExceeded recorded]
      (Findings.Ended config · (.error .deadlineExceeded)) := by
  simp only [reads_cons, reads_nil, observe_late late, observe_record]
  exact ⟨trivial, rfl, ended_late opened rfl rfl rfl⟩

/-- A trace after an early check is found when its rest is found. -/
theorem finds_early {now : Instant} {span : Span} {post : Findings → Prop} (opened : findings.Open)
    (early : now < deadline.deadline) (rest : Finds config deadline findings trace post) :
    Finds config deadline findings (.clock .isExpired now span :: trace) post := by
  rw [Finds, reads_cons, observe_early opened early]
  exact ⟨trivial, rest⟩

theorem Checks.found {result : Option ExecutorError} (checked : Checks deadline trace result)
    (opened : findings.Open) :
    Finds config deadline findings trace fun after =>
      match result with
      | none => after = findings
      | some error => after.Ended config (.error error) := by
  cases checked with
  | passed early => exact finds_early opened early (reads_nil.mpr rfl)
  | expired late => exact finds_late opened late

/-- Only an error of the hop can end the request with its provider delay. -/
theorem Ends.found {error : ExecutorError} {result : Option ExecutorError}
    (ended : Ends deadline error trace result) (opened : findings.Open)
    (own : retryAfterOf error ≠ none → findings.hopError = some error) :
    Finds config deadline findings trace (findings.Checked config result) := by
  cases ended with
  | expired late => exact finds_late opened late
  | unthrottled early free => exact finds_early opened early (reads_nil.mpr ⟨findings.pacing, rfl⟩)
  | @fits now span later next ms early throttled fitting =>
      have kept : findings.compare (deadline.deadline - later) = findings := by
        have known := own (by simp [throttled])
        have fits : ¬ (0 < ms ∧ deadline.deadline - later < Duration.fromMillis ms) := by
          rintro ⟨positive, long⟩
          rcases fitting with zero | short
          · omega
          · exact absurd long (Nat.not_lt.mpr short)
        simp only [Findings.compare, known, Option.bind_some, throttled, fits, if_false]
      apply finds_early opened early
      simp only [reads_cons, reads_nil, observe_remaining, kept]
      exact ⟨opened.awaiting, _, rfl⟩
  | @exceeds now span later next ms early throttled positive long =>
      have known := own (by simp [throttled])
      have found : findings.compare (deadline.deadline - later) =
          { findings with throttled := some error } := by
        simp only [Findings.compare, known, Option.bind_some, throttled, positive, long, and_self,
          if_true, opened.throttled, Option.none_or]
      apply finds_early opened early
      simp only [reads_cons, reads_nil, observe_remaining, found]
      exact ⟨opened.awaiting, opened.awaiting, opened.success,
        .inr ⟨opened.expired, rfl, known⟩⟩

/-- The retry of an attempt plans with the error and the count of its hop. -/
structure Retrying (findings : Findings) (attempt : Nat) (lastError : Option ExecutorError)
    (retryAfterMs : Option Nat) : Prop where
  hopError : findings.hopError = lastError
  hopCalls : findings.hopCalls = attempt
  delay : retryAfterMs = lastError.bind retryAfterOf

/-- A reading after a planned delay keeps the findings, or it finds that the delay is too long. -/
theorem Plans.found {attempt ms : Nat} {lastError : Option ExecutorError}
    {retryAfterMs : Option Nat} {minimum : Bool}
    (planned : Plans config attempt retryAfterMs trace ms minimum) (opened : findings.Open)
    (retrying : Retrying findings attempt lastError retryAfterMs) (now : Instant) (span : Span) :
    Finds config deadline findings (trace ++ [.clock .remaining now span]) fun after =>
      (Duration.fromMillis ms ≤ deadline.deadline - now → after = findings.readAt now) ∧
        (deadline.deadline - now < Duration.fromMillis ms →
          after = if minimum then { findings.readAt now with throttled := lastError }
            else { findings.readAt now with expired := true }) := by
  obtain ⟨rfl, rfl, delay⟩ := retrying
  cases planned with
  | minimum =>
      simp only [List.nil_append, reads_cons, reads_nil, observe_remaining, Findings.compare,
        ← delay]
      refine ⟨opened.awaiting, ?_, ?_⟩
      · intro fits
        rw [if_neg (fun both => absurd both.2 (Nat.not_lt.mpr fits))]
      · intro long
        have positive : 0 < ms := by
          rcases Nat.eq_zero_or_pos ms with rfl | positive
          · simp at long
          · exact positive
        simp only [positive, long, and_self, if_true, opened.throttled, Option.none_or]
        rfl
  | jitter jittered =>
      have compared : ∀ delayMs, ({ findings with jitter := some delayMs } : Findings).compare
          (deadline.deadline - now) = { findings with
            jitter := none
            expired := decide (deadline.deadline - now < Duration.fromMillis delayMs) } := by
        intro delayMs
        simp only [Findings.compare, ← delay, opened.expired, Bool.false_or]
      -- The window is sampled at most once, and a closed window waits for nothing.
      have sampled : ∀ (raw : Option UInt64) (taken : Span),
          Finds config deadline findings
            ([.entropy raw taken] ++ [.clock .remaining now span]) fun after =>
            (Duration.fromMillis (plannedJitter config findings.hopCalls raw) ≤
                deadline.deadline - now → after = findings.readAt now) ∧
              (deadline.deadline - now <
                  Duration.fromMillis (plannedJitter config findings.hopCalls raw) →
                after = { findings.readAt now with expired := true }) := by
        intro raw taken
        simp only [List.singleton_append, reads_cons, reads_nil, observe_remaining]
        refine ⟨opened.awaiting, opened.awaiting, ?_, ?_⟩
        · intro fits
          refine (congrArg (Findings.readAt · now) (compared _)).trans ?_
          rw [decide_eq_false (Nat.not_lt.mpr fits), ← opened.jitter, ← opened.expired]
        · intro long
          refine (congrArg (Findings.readAt · now) (compared _)).trans ?_
          rw [decide_eq_true long, ← opened.jitter]
          rfl
      cases jittered with
      | closed zero =>
          simp only [List.nil_append, reads_cons, reads_nil, observe_remaining, Findings.compare,
            ← delay, opened.jitter]
          refine ⟨opened.awaiting, fun _ => trivial, ?_⟩
          intro long
          simp at long
      | @noEntropy taken positive => exact sampled none taken
      | @sampled raw taken positive => exact sampled (some raw) taken

/-- The provider delay of the hop is the delay that its retry plans. -/
theorem Plans.minimum_eq {attempt ms own : Nat} {lastError : Option ExecutorError}
    {retryAfterMs : Option Nat} {minimum : Bool}
    (planned : Plans config attempt retryAfterMs trace ms minimum)
    (retrying : Retrying findings attempt lastError retryAfterMs)
    (delayed : findings.hopError.bind retryAfterOf = some own) : ms = own := by
  have same : retryAfterMs = some own := by
    rw [retrying.delay, ← retrying.hopError, delayed]
  subst same
  cases planned
  rfl

/-- A retry wait keeps the findings, or it ends the request as the findings decide. -/
theorem Waits.found {attempt : Nat} {lastError : Option ExecutorError}
    {retryAfterMs : Option Nat} {result : Option (Option ExecutorError)}
    (waited : Waits config plan deadline attempt lastError retryAfterMs trace result)
    (opened : findings.Open) (retrying : Retrying findings attempt lastError retryAfterMs) :
    Finds config deadline findings trace
      (Findings.Awaited (findings.Prepared config) result) := by
  -- The check after a wait adds nothing to a wait that is long enough.
  have checking : ∀ {pacing : Pacing} {checks : List Event} {result : Option ExecutorError},
      Checks deadline checks result →
      Findings.Waited { findings with pacing := pacing } →
      Finds config deadline { findings with pacing := pacing } checks
        (Findings.Awaited (findings.Prepared config) (some result)) := by
    intro pacing checks result checked enough
    refine (checked.found (opened.paced pacing)).mono ?_
    intro after shape
    cases result with
    | none =>
        cases shape
        exact ⟨⟨pacing, rfl⟩, enough⟩
    | some error => exact shape
  cases waited with
  | @immediate first ms minimum now span checks result planned zero checked =>
      rw [List.append_cons, Finds, reads_append]
      refine (planned.found opened retrying now span).mono fun middle known => ?_
      obtain ⟨kept, _⟩ := known
      obtain rfl := kept (by rw [zero]; exact Nat.zero_le _)
      refine checking checked ?_
      intro own delayed positive
      rw [← planned.minimum_eq retrying delayed, Duration.fromMillis_eq_zero.mp zero] at positive
      exact absurd positive (Nat.lt_irrefl 0)
  | @slept first ms minimum now span slept checks result planned fitting checked =>
      rw [List.append_cons, Finds, reads_append]
      refine (planned.found opened retrying now span).mono fun middle known => ?_
      obtain ⟨kept, _⟩ := known
      obtain rfl := kept fitting
      rw [reads_cons]
      refine ⟨⟨opened.awaiting, Nat.le_refl _, now, rfl, fitting⟩, checking checked ?_⟩
      intro own delayed positive
      rw [← planned.minimum_eq retrying delayed]
  | @elapsed first ms minimum now span slept recorded planned fitting =>
      rw [List.append_cons, Finds, reads_append]
      refine (planned.found opened retrying now span).mono fun middle known => ?_
      obtain ⟨kept, _⟩ := known
      obtain rfl := kept fitting
      simp only [reads_cons, reads_nil, observe_record]
      exact ⟨⟨opened.awaiting, Nat.le_refl _, now, rfl, fitting⟩, opened.awaiting,
        ended_late opened opened.awaiting rfl rfl⟩
  | @dropped first ms minimum now span slept planned fitting =>
      rw [List.append_cons, Finds, reads_append]
      refine (planned.found opened retrying now span).mono fun middle known => ?_
      obtain ⟨kept, _⟩ := known
      obtain rfl := kept fitting
      simp only [reads_cons, reads_nil]
      exact ⟨⟨opened.awaiting, Nat.le_refl _, now, rfl, fitting⟩, opened.awaiting⟩
  | @cannotFit first ms now span planned long =>
      obtain ⟨vendor, throttled⟩ :
          ∃ vendor, lastError = some (.rateLimitExceeded vendor (some ms)) := by
        have delay := retrying.delay
        cases planned
        cases lastError with
        | none => cases delay
        | some error =>
            cases error with
            | rateLimitExceeded vendor after =>
                cases after with
                | none => cases delay
                | some after =>
                    cases delay
                    exact ⟨vendor, rfl⟩
            | _ => cases delay
      refine (planned.found opened retrying now span).mono fun after known => ?_
      obtain ⟨_, exceeded⟩ := known
      rw [exceeded long, throttled]
      exact ⟨opened.awaiting, opened.success,
        .inr ⟨opened.expired, rfl, retrying.hopError.trans throttled⟩⟩
  | @tooLong first ms now span recorded planned long =>
      rw [List.append_cons, Finds, reads_append]
      refine (planned.found opened retrying now span).mono fun middle known => ?_
      obtain ⟨_, exceeded⟩ := known
      rw [exceeded long, if_neg Bool.false_ne_true]
      simp only [reads_cons, reads_nil, observe_record]
      exact ⟨opened.awaiting, ended_late opened opened.awaiting rfl rfl⟩

/-- An error continues the attempts of its hop, or it closes the hop. -/
theorem Continues.found {error : ExecutorError} {step : AttemptStep} {entered : Nat}
    {primary : Option ExecutorError} (continued : Continues deadline error trace step)
    (holding : findings.Holding entered primary (some error)) :
    Finds config deadline findings trace
      (Findings.Stepped config entered primary findings.hopCalls step) := by
  cases continued with
  | permanent fatal =>
      exact reads_nil.mpr (.inr ⟨error, rfl, holding⟩)
  | failed retryable spared =>
      refine (spared.found holding.opened fun _ => holding.hopError).mono ?_
      rintro after ⟨pacing, rfl⟩
      exact ⟨holding.paced pacing, rfl, retryable⟩
  | ended retryable terminated =>
      exact (terminated.found holding.opened fun _ => holding.hopError).mono fun _ ended =>
        .inl ended

/-- The examination of a call adds the finding of that call. -/
theorem Examines.found {reply : CallReply} {cutoff later : Instant} {step : AttemptStep}
    {entered : Nat} {primary lastError : Option ExecutorError}
    (examined : Examines plan deadline reply (cutoff - later) trace step)
    (holding : findings.Holding entered primary lastError)
    (read : findings.timeoutRead = some later) :
    Finds config deadline { findings with awaiting := some (reply, cutoff) } trace
      (Findings.Stepped config entered primary findings.hopCalls step) := by
  have opened := holding.opened
  cases examined with
  | @expired now span recorded marked late =>
      simp only [reads_cons, reads_nil, observe_late late, observe_record]
      exact ⟨trivial, rfl, rfl, .inl (ended_late opened rfl rfl rfl)⟩
  | @succeeded now span recorded used result early ready =>
      subst ready
      have found : ({ findings with awaiting := some (.ready (.ok result), cutoff) } :
          Findings).examine = { findings with awaiting := none, success := some result } := rfl
      simp only [reads_cons, reads_nil, observe_examine early, found, observe_record]
      exact ⟨trivial, rfl, rfl, .inl ⟨rfl, rfl, opened.expired⟩⟩
  | @failed now span recorded error rest step early missed continued =>
      have found : ({ findings with awaiting := some (reply, cutoff) } : Findings).examine =
          ({ findings with awaiting := none } : Findings).fail error := by
        simp only [Findings.examine, read, Option.getD_some, missed]
      have failing : (({ findings with awaiting := none } : Findings).fail error).Holding entered
          primary (some error) := by
        refine ⟨⟨opened.success, opened.expired, opened.throttled, rfl, opened.jitter⟩,
          holding.permitted, holding.hops, rfl, ?_⟩
        have primaryError := holding.primaryError
        simp only [Findings.fail, holding.hops, primaryError]
        split
        · rfl
        · rfl
      simp only [reads_cons, observe_examine early, found, observe_record]
      exact ⟨trivial, rfl, continued.found failing⟩

/-- A started attempt is called with open findings and a cutoff before the deadline. -/
theorem Starts.found {attempt : Nat} {budget : AttemptBudget} {entered : Nat}
    {primary lastError : Option ExecutorError} {result : Option (AttemptStep × AttemptBudget)}
    (start : Starts config plan params deadline attempt budget trace result)
    (holding : findings.Holding entered primary lastError)
    (retryable : ∀ error, lastError = some error → isRetryableError error = true)
    (waited : findings.Waited) :
    Finds config deadline findings trace (Findings.Awaited
      (fun pair => Findings.Stepped config entered primary (findings.hopCalls + 1) pair.1)
      result) := by
  have opened := holding.opened
  -- A cutoff reading before the deadline only keeps its instant.
  have read : ∀ {now : Instant} {span : Span}, now < deadline.deadline →
      observe config deadline findings (.clock .attemptCutoff now span) =
        { findings with cutoffRead := some now } := by
    intro now span early
    change ({ findings with
      cutoffRead := some now
      expired := findings.expired || decide (deadline.deadline ≤ now) } : Findings) = _
    rw [decide_eq_false (Nat.not_le.mpr early), Bool.or_false]
  have silent : ∀ {retry rest : List Event} {post : Findings → Prop} {state : Findings},
      Retries plan attempt retry → state.awaiting = none →
      Finds config deadline state rest post → Finds config deadline state (retry ++ rest) post := by
    intro retry rest post state retried quiet finds
    cases retried with
    | first zero => exact finds
    | later positive =>
        rw [List.singleton_append, Finds, reads_cons]
        exact ⟨quiet, finds⟩
  have permitted : ∀ {now : Instant}, now < deadline.deadline → 0 < config.timeoutMs →
      now < callCutoff config deadline now ∧ callCutoff config deadline now ≤
        min (now + Duration.fromMillis config.timeoutMs) deadline.deadline := by
    intro now early timed
    have positive := Duration.fromMillis_pos timed
    rw [callCutoff, min_comm]
    exact ⟨lt_min (Nat.lt_add_of_pos_right positive) early, le_refl _⟩
  have retrying : ∀ error, findings.hopError = some error → isRetryableError error = true := by
    rw [holding.hopError]
    exact retryable
  cases start with
  | @noCutoff now span recorded late =>
      simp only [reads_cons, reads_nil, observe_record]
      refine ⟨opened.awaiting, opened.awaiting, .inl ⟨opened.awaiting, opened.success,
        .inl ⟨rfl, ?_⟩⟩⟩
      rcases late with late | zero
      · left
        change (findings.expired || decide (deadline.deadline ≤ now)) = true
        rw [decide_eq_true late, Bool.or_true]
      · exact .inr zero
  | @dropped now span retry later next called lost checked recorded early timed room retried =>
      rw [List.cons_append, Finds, reads_cons, read early]
      refine ⟨opened.awaiting, silent retried opened.awaiting ?_⟩
      simp only [reads_cons, reads_nil, observe_record]
      refine ⟨opened.awaiting, ⟨⟨opened.success, opened.expired, opened.throttled,
        opened.awaiting, opened.jitter⟩, holding.permitted, waited, retrying, now, rfl, early,
        permitted early timed⟩, trivial, ?_⟩
      -- The examination of a dropped call finds nothing but a reached deadline.
      by_cases late : deadline.deadline ≤ lost
      · rw [observe_late late]
        exact ⟨rfl, rfl⟩
      · rw [observe_examine (Nat.lt_of_not_le late)]
        exact ⟨rfl, rfl⟩
  | @examined now span retry later next reply called rest step early timed room retried examined =>
      rw [List.cons_append, Finds, reads_cons, read early]
      refine ⟨opened.awaiting, silent retried opened.awaiting ?_⟩
      simp only [reads_cons]
      refine ⟨opened.awaiting, ⟨⟨opened.success, opened.expired, opened.throttled,
        opened.awaiting, opened.jitter⟩, holding.permitted, waited, retrying, now, rfl, early,
        permitted early timed⟩, ?_⟩
      have called : ({ findings with
          cutoffRead := some now
          timeoutRead := some later
          hopCalls := findings.hopCalls + 1 } : Findings).Holding entered primary lastError :=
        ⟨⟨opened.success, opened.expired, opened.throttled, opened.awaiting, opened.jitter⟩,
          holding.permitted, holding.hops, holding.hopError, holding.primaryError⟩
      exact examined.found called rfl

end Readings

end Opmux.Executor
