import OpmuxGateway.Proof.Executor.CallBounds
import OpmuxGateway.Proof.Executor.HopFindings

/-
This file proves that an execution returns the outcome of its findings and then calls nobody.
-/

namespace Opmux.Executor
open Observer

/-- A success wins, then an expiry, then a throttled hop, and then the error of the primary hop. -/
def Findings.decision (findings : Findings) : Outcome :=
  match findings.success with
  | some result => .ok result
  | none =>
      if findings.expired then .error .deadlineExceeded
      else
        match findings.throttled with
        | some error => .error error
        | none => .error (findings.primaryError.getD (.apiCallFailed "Max retries exceeded"))

/-- The newest hop failed with an error, and none of its calls waits for its examination. -/
structure Findings.FailedWith (error : ExecutorError) (findings : Findings) : Prop where
  awaiting : findings.awaiting = none
  hopError : findings.hopError = some error

/-- A closed hop left its own error. -/
structure Findings.ClosedWith (error : ExecutorError) (findings : Findings) : Prop
    extends Findings.FailedWith error findings where
  permitted : findings.permitted = false

/-- A final finding is a success, an expiry, a throttled hop, or a closed hop that cannot fall
back. -/
def Findings.Final (findings : Findings) : Prop :=
  findings.success ≠ none ∨ findings.expired = true ∨ findings.throttled ≠ none ∨
    ∃ error, findings.ClosedWith error ∧ isFallbackEligible error = false

/-- A vendor never returns the deadline error itself. -/
def CallReply.Genuine (reply : CallReply) : Prop :=
  reply ≠ .ready (.error .deadlineExceeded) ∧ reply ≠ .elapsed (some .deadlineExceeded)

def Genuine : Event → Prop
  | ⟨.call _ _ _, reply, _⟩ => ∀ answered, reply = some answered → answered.Genuine
  | _ => True

/-- Findings of genuine vendors hold no deadline error. -/
structure Findings.Sincere (findings : Findings) : Prop where
  hopError : findings.hopError ≠ some .deadlineExceeded
  awaiting : ∀ reply cutoff, findings.awaiting = some (reply, cutoff) →
    ∀ attemptTimeout, callOutcome reply attemptTimeout ≠ .error .deadlineExceeded

section Decision

variable {config : ExecutorConfig} {deadline : RequestDeadline} {findings : Findings}

theorem callOutcome_genuine {reply : CallReply} (genuine : reply.Genuine)
    (attemptTimeout : Duration) :
    callOutcome reply attemptTimeout ≠ .error .deadlineExceeded := by
  obtain ⟨ready, elapsed⟩ := genuine
  intro same
  rcases reply with outcome | (_ | observed)
  · cases same
    exact ready rfl
  · cases same
  · cases same
    exact elapsed rfl

theorem Findings.Sincere.examine (sincere : findings.Sincere) : findings.examine.Sincere := by
  unfold Findings.examine
  split
  · exact sincere
  · rename_i reply cutoff waiting
    split
    · exact ⟨sincere.hopError, by simp⟩
    · rename_i error missed
      refine ⟨?_, by simp [Findings.fail]⟩
      rintro ⟨⟩
      exact sincere.awaiting reply cutoff waiting _ missed

theorem Findings.Sincere.compare (sincere : findings.Sincere) (remaining : Duration) :
    (findings.compare remaining).Sincere := by
  obtain ⟨hopError, awaiting⟩ := sincere
  unfold Findings.compare
  split
  · split <;> exact ⟨hopError, awaiting⟩
  · split <;> exact ⟨hopError, awaiting⟩

/-- A genuine event keeps the findings sincere. -/
theorem Findings.Sincere.observe (sincere : findings.Sincere) {event : Event}
    (genuine : Genuine event) : (observe config deadline findings event).Sincere := by
  obtain ⟨hopError, awaiting⟩ := id sincere
  obtain ⟨request, reply, span⟩ := event
  cases request with
  | clock site =>
      cases site with
      | isExpired =>
          rw [Executor.observe]
          split
          · exact ⟨hopError, by simp⟩
          · exact sincere.examine
      | remaining => exact ⟨(sincere.compare _).hopError, (sincere.compare _).awaiting⟩
      | attemptCutoff => exact ⟨hopError, awaiting⟩
      | attemptTimeout => exact ⟨hopError, awaiting⟩
  | call plan params cutoff =>
      refine ⟨hopError, ?_⟩
      intro answered limit same attemptTimeout
      cases reply with
      | none => cases same
      | some reply =>
          cases same
          exact callOutcome_genuine (genuine _ rfl) attemptTimeout
  | sleep limit wait =>
      rcases reply with _ | (_ | _) <;> exact ⟨hopError, awaiting⟩
  | admission plan =>
      cases reply with
      | reject retryAfterMs => exact ⟨by rintro ⟨⟩, awaiting⟩
      | _ => exact ⟨by rintro ⟨⟩, awaiting⟩
  | _ => exact ⟨hopError, awaiting⟩

theorem sincere_of_genuine {trace : List Event} (genuine : ∀ event ∈ trace, Genuine event)
    (sincere : findings.Sincere) :
    (trace.foldl (observe config deadline) findings).Sincere := by
  induction trace generalizing findings with
  | nil => exact sincere
  | cons event rest ih =>
      exact ih (fun later member => genuine later (List.mem_cons_of_mem event member))
        (sincere.observe (genuine event (List.mem_cons_self ..)))

/-- A settled outcome is the decision of its findings. -/
theorem Findings.Settled.decision {outcome : Outcome} (settled : findings.Settled config outcome)
    (policy : 0 < config.timeoutMs) (sincere : findings.Sincere) : outcome = findings.decision := by
  rcases settled with ⟨_, ended⟩ | ⟨opened, rfl⟩ | ⟨_, known, _⟩
  · cases outcome with
    | ok result => simp [Findings.decision, ended.1]
    | error error =>
        obtain ⟨success, ⟨rfl, expired | zero⟩ | ⟨expired, throttled, _⟩⟩ := ended
        · simp [Findings.decision, success, expired]
        · exact absurd policy (by omega)
        · simp [Findings.decision, success, expired, throttled]
  · simp [Findings.decision, opened.success, opened.expired, opened.throttled]
  · exact absurd known sincere.hopError

/-- A final finding allows no call. -/
theorem Findings.Final.silent (final : findings.Final) {event : Event}
    (allowed : Allowed config deadline findings event) : calledPlan event = none := by
  obtain ⟨request, reply, span⟩ := event
  cases request with
  | call plan params cutoff =>
      obtain ⟨opened, permitted, _⟩ := allowed
      rcases final with success | expired | throttled | ⟨error, closed, fatal⟩
      · exact absurd opened.success success
      · exact absurd (opened.expired.symm.trans expired) Bool.false_ne_true
      · exact absurd opened.throttled throttled
      · exact absurd (closed.permitted.symm.trans permitted) Bool.false_ne_true
  | _ => rfl

/-- An error that cannot fall back stays the error of its hop until the next call. -/
theorem Findings.FailedWith.observe {error : ExecutorError} (failed : findings.FailedWith error)
    (fatal : isFallbackEligible error = false) {event : Event}
    (allowed : Allowed config deadline findings event) (silent : calledPlan event = none) :
    (observe config deadline findings event).FailedWith error := by
  obtain ⟨awaiting, known⟩ := id failed
  obtain ⟨request, reply, span⟩ := event
  cases request with
  | clock site =>
      cases site with
      | isExpired =>
          rw [Executor.observe]
          split
          · exact ⟨rfl, known⟩
          · rw [Findings.examine, awaiting]
            exact failed
      | remaining =>
          rw [Executor.observe, Findings.compare]
          split
          · split <;> exact ⟨awaiting, known⟩
          · split <;> exact ⟨awaiting, known⟩
      | _ => exact ⟨awaiting, known⟩
  | call plan params cutoff => cases silent
  | sleep limit wait =>
      rcases reply with _ | (_ | _) <;> exact ⟨awaiting, known⟩
  | admission plan =>
      exact absurd (fatal.symm.trans (allowed.2.2 error known)) Bool.false_ne_true
  | _ => exact ⟨awaiting, known⟩

/-- Only an admission opens a hop. -/
theorem observe_permitted {event : Event} (closed : findings.permitted = false)
    (unadmitted : ∀ plan admission span, event ≠ .admission plan admission span) :
    (observe config deadline findings event).permitted = false := by
  obtain ⟨request, reply, span⟩ := event
  cases request with
  | clock site =>
      cases site with
      | isExpired =>
          rw [observe]
          split
          · exact closed
          · unfold Findings.examine
            split
            · exact closed
            · split <;> exact closed
      | remaining =>
          rw [observe, Findings.compare]
          split
          · split <;> exact closed
          · split <;> exact closed
      | _ => exact closed
  | sleep limit wait => rcases reply with _ | (_ | _) <;> exact closed
  | admission plan => exact absurd rfl (unadmitted plan reply span)
  | settle permit outcome => rfl
  | dropPermit permit => rfl
  | _ => exact closed

/-- A closed hop that cannot fall back stays the last one. -/
theorem Findings.ClosedWith.observe {error : ExecutorError} (closed : findings.ClosedWith error)
    (fatal : isFallbackEligible error = false) {event : Event}
    (allowed : Allowed config deadline findings event) (silent : calledPlan event = none) :
    (observe config deadline findings event).ClosedWith error := by
  refine ⟨closed.toFailedWith.observe fatal allowed silent, observe_permitted closed.permitted ?_⟩
  rintro plan admission span rfl
  exact absurd (fatal.symm.trans (allowed.2.2 error closed.hopError)) Bool.false_ne_true

/-- A final finding stays final. -/
theorem Findings.Final.observe (final : findings.Final) {event : Event}
    (allowed : Allowed config deadline findings event) :
    (observe config deadline findings event).Final := by
  rcases id final with success | expired | throttled | ⟨error, closed, fatal⟩
  · exact .inl ((observe_keeps findings event).1 success)
  · exact .inr (.inl ((observe_keeps findings event).2 expired))
  · refine .inr (.inr (.inl ?_))
    rcases observe_throttled config deadline findings event with same |
      ⟨_, _, error, _, _, _, _, _, _, same⟩
    · rw [same]
      exact throttled
    · rw [same]
      simp
  · exact .inr (.inr (.inr ⟨error, closed.observe fatal allowed (final.silent allowed), fatal⟩))

/-- An allowed trace has no call after a final finding. -/
theorem Findings.Final.calls {trace : List Event} (final : findings.Final)
    (always : Always (Executor.observe config deadline) (Allowed config deadline) findings trace) :
    Executor.calls trace = [] := by
  induction trace generalizing findings with
  | nil => rfl
  | cons event rest ih =>
      rw [Executor.calls, List.filterMap_cons, final.silent always.1]
      exact ih (final.observe always.1) always.2

end Decision

/-- An execution returns the decision of its findings and calls nobody after a final finding. -/
theorem execute_decides (config : ExecutorConfig) (plan : RoutePlan) (payload : Json)
    (params : ExecutionParams) (deadline : RequestDeadline) (start : Instant) (trace : List Event)
    (outcome : Option Outcome) (accepted : extractParams payload = .ok params)
    (policy : 0 < config.timeoutMs) (timed : Timed start trace)
    (genuine : ∀ event ∈ trace, Genuine event)
    (run : (execute config plan payload deadline).Runs trace outcome) :
    (∀ result, outcome = some result →
      result = (trace.foldl (observe config deadline) .initial).decision) ∧
    ∀ first rest, trace = first ++ rest →
      (first.foldl (observe config deadline) .initial).Final → calls rest = [] := by
  obtain ⟨always, settled⟩ := (executes_of_runs config plan deadline run).found timed
  refine ⟨?_, ?_⟩
  · rintro result rfl
    rcases settled with settled | ⟨_, error, rejected, _⟩
    · exact settled.decision policy (sincere_of_genuine genuine ⟨by rintro ⟨⟩, by rintro _ _ ⟨⟩⟩)
    · rw [accepted] at rejected
      cases rejected
  · rintro first rest rfl final
    rw [always_append] at always
    exact final.calls always.2

/-- The primary hop is throttled for longer than the remaining time. -/
def throttlingScript : Script :=
  ⟨0, [.ready (.error (.networkError "reset")),
    .ready (.error (.rateLimitExceeded "openai" (some 5000)))]⟩

/-- A script of genuine replies gives genuine events. -/
theorem Script.genuine {Value : Type} (program : Effect Value) (script : Script)
    (replies : ∀ reply ∈ script.replies, reply.Genuine) :
    ∀ event ∈ (program.drive Script.answer script).1, Genuine event := by
  induction program generalizing script with
  | pure value => simp [Program.drive]
  | halt => simp [Program.drive]
  | ask request next ih =>
      obtain ⟨now, rest⟩ := script
      simp only [Program.drive, List.mem_cons]
      rintro event (rfl | member)
      · cases request with
        | call plan params cutoff =>
            rintro reply same
            rcases rest with _ | ⟨outcome | observed, rest⟩
            · cases same
            · cases same
              exact replies _ (List.mem_cons_self ..)
            · cases same
              exact replies _ (List.mem_cons_self ..)
        | _ => trivial
      · refine ih _ _ ?_ event member
        cases request with
        | call plan params cutoff =>
            rcases rest with _ | ⟨outcome | observed, rest⟩
            · exact replies
            · exact fun reply later => replies reply (List.mem_cons_of_mem _ later)
            · exact fun reply later => replies reply (List.mem_cons_of_mem _ later)
        | _ => exact replies

theorem execute_decides_example :
    (calls (failoverProgram.drive Script.answer throttlingScript).1).length = 2 ∧
      ∀ result, (failoverProgram.drive Script.answer throttlingScript).2 = some result →
        result = ((failoverProgram.drive Script.answer throttlingScript).1.foldl
          (observe ⟨10, 1, 3, 2000⟩ ⟨1000000000⟩) .initial).decision :=
  ⟨by decide, (execute_decides ⟨10, 1, 3, 2000⟩ failoverPlan _ ⟨[], none, some 7, none, false⟩
    ⟨1000000000⟩ 0 _ _ (by rfl) (by decide) (throttlingScript.timed failoverProgram)
    (throttlingScript.genuine failoverProgram (by simp [throttlingScript, CallReply.Genuine]))
    (failoverProgram.runs_drive Script.answer throttlingScript)).1⟩

end Opmux.Executor
