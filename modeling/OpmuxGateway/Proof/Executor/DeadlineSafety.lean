import OpmuxGateway.Proof.Executor.Decision

/-
This file proves that no call, wait, or success of an execution passes the request deadline.
-/

namespace Opmux.Executor
open Observer

/-- The instant of an attempt cutoff reading. -/
def cutoffInstant : Event → Option Instant
  | ⟨.clock .attemptCutoff, now, _⟩ => some now
  | _ => none

/-- The latest instant at which a trace computed an attempt cutoff. -/
def latestCutoffReading (trace : List Event) : Option Instant :=
  (trace.filterMap cutoffInstant).getLast?

section Readings

variable {config : ExecutorConfig} {deadline : RequestDeadline} {findings : Findings}
  {trace : List Event}

/-- Only a cutoff reading changes the cutoff instant of the findings. -/
theorem observe_cutoffRead (event : Event) :
    (observe config deadline findings event).cutoffRead =
      (cutoffInstant event).or findings.cutoffRead := by
  obtain ⟨request, reply, span⟩ := event
  cases request with
  | clock site =>
      cases site with
      | isExpired =>
          rw [observe]
          split
          · rfl
          · unfold Findings.examine
            split
            · rfl
            · split <;> rfl
      | remaining =>
          rw [observe, Findings.compare]
          split
          · split <;> rfl
          · split <;> rfl
      | attemptCutoff => rfl
      | attemptTimeout => rfl
  | sleep limit wait => rcases reply with _ | (_ | _) <;> rfl
  | admission plan => cases reply <;> rfl
  | _ => rfl

theorem foldl_cutoffRead :
    (trace.foldl (observe config deadline) .initial).cutoffRead = latestCutoffReading trace := by
  induction trace using List.reverseRecOn with
  | nil => rfl
  | append_singleton before event ih =>
      rw [List.foldl_append, List.foldl_cons, List.foldl_nil, observe_cutoffRead, ih,
        latestCutoffReading, latestCutoffReading, List.filterMap_append]
      cases read : cutoffInstant event with
      | none => simp [read]
      | some now => simp [read]

/-- Only a call leaves a completed call for the next event. -/
theorem observe_awaiting {event : Event} {reply : CallReply} {cutoff : Instant}
    (allowed : Allowed config deadline findings event)
    (awaiting : (observe config deadline findings event).awaiting = some (reply, cutoff)) :
    ∃ plan params span, event = .call plan params cutoff (some reply) span := by
  obtain ⟨request, answered, span⟩ := event
  cases request with
  | clock site =>
      cases site with
      | isExpired =>
          exfalso
          rw [observe] at awaiting
          split at awaiting
          · cases awaiting
          · unfold Findings.examine at awaiting
            split at awaiting
            · rename_i none
              rw [none] at awaiting
              cases awaiting
            · split at awaiting <;> cases awaiting
      | remaining =>
          exfalso
          have kept : (findings.compare (deadline.deadline - answered)).awaiting =
              findings.awaiting := by
            unfold Findings.compare
            split
            · split <;> rfl
            · split <;> rfl
          have impossible := allowed.symm.trans (kept.symm.trans awaiting)
          cases impossible
      | _ => cases allowed.symm.trans awaiting
  | call plan params limit =>
      cases answered with
      | none => cases awaiting
      | some answered =>
          cases awaiting
          exact ⟨plan, params, span, rfl⟩
  | sleep limit wait =>
      exfalso
      rcases answered with _ | (_ | _) <;> cases allowed.1.symm.trans awaiting
  | admission plan => cases answered <;> cases allowed.1.awaiting.symm.trans awaiting
  | _ => cases allowed.symm.trans awaiting

/-- A completed call is examined by the next event. -/
theorem allowed_awaiting {event : Event} (allowed : Allowed config deadline findings event)
    (awaiting : findings.awaiting ≠ none) : ∃ now span, event = .clock .isExpired now span := by
  obtain ⟨request, answered, span⟩ := event
  cases request with
  | clock site =>
      cases site with
      | isExpired => exact ⟨answered, span, rfl⟩
      | _ => exact absurd allowed awaiting
  | call plan params cutoff => exact absurd allowed.1.awaiting awaiting
  | admission plan => exact absurd allowed.1.awaiting awaiting
  | sleep limit wait => exact absurd allowed.1 awaiting
  | _ => exact absurd allowed awaiting

/-- Only an early examination of a ready result finds a success. -/
theorem observe_success {event : Event} {result : ExecutionResult}
    (missing : findings.success ≠ some result)
    (found : (observe config deadline findings event).success = some result) :
    ∃ now span cutoff, event = .clock .isExpired now span ∧ now < deadline.deadline ∧
      findings.awaiting = some (.ready (.ok result), cutoff) := by
  obtain ⟨request, reply, span⟩ := event
  cases request with
  | clock site =>
      cases site with
      | isExpired =>
          rw [observe] at found
          split at found
          · exact absurd found missing
          · rename_i early
            unfold Findings.examine at found
            split at found
            · exact absurd found missing
            · rename_i answered cutoff awaiting
              split at found
              · rename_i own ready
                cases found
                refine ⟨reply, span, cutoff, rfl, Nat.lt_of_not_le early, ?_⟩
                rcases answered with outcome | (_ | _)
                · have same : outcome = .ok _ := ready
                  rw [awaiting, same]
                · cases ready
                · cases ready
              · exact absurd found missing
      | remaining =>
          rw [observe, Findings.compare] at found
          split at found
          · split at found <;> exact absurd found missing
          · split at found <;> exact absurd found missing
      | _ => exact absurd found missing
  | sleep limit wait =>
      rcases reply with _ | (_ | _) <;> exact absurd found missing
  | admission plan => cases reply <;> exact absurd found missing
  | _ => exact absurd found missing

theorem Findings.Settled.awaiting {outcome : Outcome}
    (settled : findings.Settled config outcome) : findings.awaiting = none := by
  rcases settled with ended | ⟨opened, _⟩ | ⟨awaiting, _⟩
  · exact ended.1
  · exact opened.awaiting
  · exact awaiting

/-- An expiry decides every settled outcome. -/
theorem Findings.Settled.expired {outcome : Outcome} (settled : findings.Settled config outcome)
    (expired : findings.expired = true) : outcome = .error .deadlineExceeded := by
  rcases settled with ⟨_, ended⟩ | ⟨opened, _⟩ | ⟨_, _, rfl⟩
  · cases outcome with
    | ok result => exact absurd (ended.2.symm.trans expired) Bool.false_ne_true
    | error error =>
        obtain ⟨_, ⟨rfl, _⟩ | ⟨early, _⟩⟩ := ended
        · rfl
        · exact absurd (early.symm.trans expired) Bool.false_ne_true
  · exact absurd (opened.expired.symm.trans expired) Bool.false_ne_true
  · rfl

/-- A found success is the ready result of the last call, and no call follows it. -/
theorem success_examined {result : ExecutionResult}
    (always : Always (observe config deadline) (Allowed config deadline) .initial trace)
    (success : (trace.foldl (observe config deadline) .initial).success = some result) :
    ∃ before called params cutoff span now read after,
      trace = before ++ .call called params cutoff (some (.ready (.ok result))) span ::
        .clock .isExpired now read :: after ∧ now < deadline.deadline ∧ calls after = [] := by
  obtain ⟨earlier, event, after, rfl, missing, found⟩ :=
    exists_turn (observe config deadline)
      (fun findings => findings.success = some result) (by rintro ⟨⟩) success
  obtain ⟨now, read, cutoff, rfl, early, awaiting⟩ := observe_success missing found
  rw [always_append, always_cons] at always
  -- The completed call is the event just before its examination.
  rcases List.eq_nil_or_concat earlier with rfl | ⟨before, last, rfl⟩
  · cases awaiting
  rw [List.concat_eq_append, always_append, always_cons] at always
  rw [List.concat_eq_append, List.foldl_append, List.foldl_cons, List.foldl_nil] at awaiting
  obtain ⟨called, params, span, rfl⟩ := observe_awaiting always.1.2.1 awaiting
  refine ⟨before, called, params, cutoff, span, now, read, after, by simp, early, ?_⟩
  have final : Findings.Final (observe config deadline (List.foldl (observe config deadline)
      .initial (before.concat (.call called params cutoff (some (.ready (.ok result))) span)))
      (.clock .isExpired now read)) := by
    refine .inl ?_
    rw [found]
    exact Option.some_ne_none result
  rw [List.concat_eq_append] at final
  exact final.calls always.2.2

end Readings

/-- Every awaited call and wait ends by the deadline, and a late check ends the request. -/
theorem execute_respects_deadline (config : ExecutorConfig) (plan : RoutePlan) (payload : Json)
    (deadline : RequestDeadline) (start : Instant) (trace : List Event) (outcome : Option Outcome)
    (timed : Timed start trace)
    (run : (execute config plan payload deadline).Runs trace outcome) :
    (∀ before called params cutoff reply span after,
      trace = before ++ .call called params cutoff reply span :: after →
      ∃ now, latestCutoffReading before = some now ∧ now < deadline.deadline ∧ now < cutoff ∧
        cutoff ≤ min (now + Duration.fromMillis config.timeoutMs) deadline.deadline) ∧
    (∀ before limit wait reply span after,
      trace = before ++ .sleep limit wait reply span :: after → limit ≤ deadline.deadline) ∧
    (∀ result, outcome = some (.ok result) → ∃ before called params cutoff span now read after,
      trace = before ++ .call called params cutoff (some (.ready (.ok result))) span ::
        .clock .isExpired now read :: after ∧ now < deadline.deadline ∧ calls after = []) ∧
    (∀ before called params cutoff reply span after,
      trace = before ++ .call called params cutoff (some reply) span :: after →
      ∃ now read rest, after = .clock .isExpired now read :: rest) ∧
    ∀ first now read rest, trace = first ++ .clock .isExpired now read :: rest →
      deadline.deadline ≤ now → calls rest = [] ∧
        ∀ result, outcome = some result → result = .error .deadlineExceeded := by
  obtain ⟨always, settled⟩ := (executes_of_runs config plan deadline run).found timed
  have split := (always_iff_split _ _).mp always
  refine ⟨?_, ?_, ?_, ?_, ?_⟩
  · intro before called params cutoff reply span after same
    obtain ⟨_, _, _, _, now, read, early, bounds⟩ := split _ _ _ same
    rw [foldl_cutoffRead] at read
    exact ⟨now, read, early, bounds⟩
  · intro before limit wait reply span after same
    exact (split _ _ _ same).2.1
  · rintro result rfl
    apply success_examined always
    rcases settled with (ended | ⟨_, impossible⟩ | ⟨_, _, impossible⟩) | ⟨_, _, _, impossible⟩
    · exact ended.2.1
    · cases impossible
    · cases impossible
    · cases impossible
  · rintro before called params cutoff reply span after rfl
    rw [always_append, always_cons] at always
    cases after with
    | nil =>
        exfalso
        rw [List.foldl_append, List.foldl_cons, List.foldl_nil] at settled
        have awaiting : (observe config deadline (before.foldl (observe config deadline) .initial)
            (.call called params cutoff (some reply) span)).awaiting = none := by
          rcases outcome with _ | outcome
          · exact settled
          · rcases settled with settled | ⟨opened, _⟩
            · exact settled.awaiting
            · exact opened.awaiting
        cases awaiting
    | cons event rest =>
        obtain ⟨now, read, rfl⟩ := allowed_awaiting always.2.2.1 (Option.some_ne_none _)
        exact ⟨now, read, rest, rfl⟩
  · rintro first now read rest rfl late
    rw [always_append, always_cons] at always
    have expired : (observe config deadline (first.foldl (observe config deadline) .initial)
        (.clock .isExpired now read)).expired = true := by
      rw [observe_late late]
    refine ⟨Findings.Final.calls (.inr (.inl expired)) always.2.2, ?_⟩
    rintro result rfl
    have still := foldl_keeps (observe config deadline)
      (fun findings => findings.expired = true)
      (fun findings event => (observe_keeps findings event).2) expired rest
    rw [List.foldl_append, List.foldl_cons] at settled
    rcases settled with settled | ⟨opened, _⟩
    · exact settled.expired still
    · exact absurd (opened.expired.symm.trans still) Bool.false_ne_true

/-- The first call elapses at the deadline. -/
def elapsingScript : Script := ⟨0, [.elapsed none]⟩

def elapsingProgram : Effect Outcome :=
  execute ⟨10, 1, 3, 2000⟩ failoverPlan (.object [("messages", .array [])]) ⟨10000000⟩

theorem execute_respects_deadline_example :
    (elapsingProgram.drive Script.answer elapsingScript).2.isSome = true ∧
      ∀ first now read rest, (elapsingProgram.drive Script.answer elapsingScript).1 =
          first ++ .clock .isExpired now read :: rest → 10000000 ≤ now → calls rest = [] ∧
        ∀ result, (elapsingProgram.drive Script.answer elapsingScript).2 = some result →
          result = .error .deadlineExceeded :=
  ⟨by decide, (execute_respects_deadline ⟨10, 1, 3, 2000⟩ failoverPlan _ ⟨10000000⟩ 0 _ _
    (elapsingScript.timed elapsingProgram)
    (elapsingProgram.runs_drive Script.answer elapsingScript)).2.2.2.2⟩

end Opmux.Executor
