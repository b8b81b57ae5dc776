import OpmuxGateway.Construction.Executor.Service

/-
This file gives an environment that answers calls from a script.
-/

namespace Opmux.Executor
open Circuit (TargetCircuitRegistry)

/-- The environment keeps its clock and the replies of the next calls. -/
structure Script where
  now : Instant
  replies : List CallReply

/-- Every target is closed, every wait is slept, and a call without a reply is dropped. -/
def Script.answer (script : Script) : (request : Request) → Reply request × Span × Script
  | .clock _ => (script.now, ⟨script.now, script.now⟩, script)
  | .entropy => (some 0, ⟨script.now, script.now⟩, script)
  | .sleep _ wait =>
      (some .ready, ⟨script.now, script.now + wait⟩, { script with now := script.now + wait })
  | .call _ _ cutoff =>
      match script.replies with
      | [] => (none, ⟨script.now, script.now⟩, script)
      | .ready outcome :: rest =>
          (some (.ready outcome), ⟨script.now, script.now⟩, ⟨script.now, rest⟩)
      | .elapsed observed :: rest =>
          (some (.elapsed observed), ⟨script.now, max script.now cutoff⟩,
            ⟨max script.now cutoff, rest⟩)
  | .admission plan =>
      (.allow (TargetCircuitRegistry.closedPermit plan.targetId 0), ⟨script.now, script.now⟩,
        script)
  | .settle _ _ | .dropPermit _ | .record _ => ((), ⟨script.now, script.now⟩, script)

/-- A scripted answer is coherent, and the clock of the script follows it. -/
theorem Script.answer_coherent (script : Script) (request : Request) :
    script.now = (script.answer request).2.1.issued ∧
      (script.answer request).2.1.issued ≤ (script.answer request).2.1.answered ∧
      (script.answer request).2.1.answered = (script.answer request).2.2.now ∧
      Coherent ⟨request, (script.answer request).1, (script.answer request).2.1⟩ := by
  obtain ⟨now, replies⟩ := script
  cases request with
  | call plan params cutoff =>
      rcases replies with _ | ⟨outcome | observed, rest⟩
      · simp [answer, Coherent]
      · simp [answer, Coherent]
      · exact ⟨rfl, Nat.le_max_left .., rfl, fun _ _ => Nat.le_max_right ..⟩
  | sleep limit wait => simp [answer, Coherent]
  | _ => simp [answer, Coherent]

/-- Every scripted run has a monotone clock. -/
theorem Script.timed {Value : Type} (program : Effect Value) (script : Script) :
    Timed script.now (program.drive Script.answer script).1 := by
  induction program generalizing script with
  | pure value => trivial
  | halt => trivial
  | ask request next ih =>
      obtain ⟨issued, ordered, answered, coherent⟩ := script.answer_coherent request
      refine ⟨Nat.le_of_eq issued, ordered, coherent, ?_⟩
      have tail := ih (script.answer request).1 (script.answer request).2.2
      rwa [← answered] at tail

/-- A known event of a scripted trace splits it. -/
theorem split_getElem {events : List Event} {index : Nat} {event : Event}
    (found : events[index]? = some event) :
    events = events.take index ++ event :: events.drop (index + 1) := by
  obtain ⟨within, rfl⟩ := List.getElem?_eq_some_iff.mp found
  rw [List.getElem_cons_drop, List.take_append_drop]

/-- The delay, the cutoff, and the span of a throttled call. -/
def throttledCall : Event → Option (Option Nat × Instant × Span)
  | ⟨.call _ _ cutoff, some (.ready (.error (.rateLimitExceeded "openai" retryAfterMs))), span⟩ =>
      some (retryAfterMs, cutoff, span)
  | _ => none

theorem throttledCall_eq_some {event : Event} {retryAfterMs : Option Nat} {cutoff : Instant}
    {span : Span} (found : throttledCall event = some (retryAfterMs, cutoff, span)) :
    ∃ plan params, event = ⟨.call plan params cutoff,
      some (.ready (.error (.rateLimitExceeded "openai" retryAfterMs))), span⟩ := by
  unfold throttledCall at found
  split at found
  · cases found
    exact ⟨_, _, rfl⟩
  · cases found

end Opmux.Executor
