import OpmuxGateway.Proof.Executor.AttemptDerivation

/-
This file gives the order of the clock readings in a timed trace.
-/

namespace Opmux.Executor

/-- A trace that starts at an instant is left at the end of its last exchange. -/
def leftAt (start : Instant) (trace : List Event) : Instant :=
  trace.foldl (fun _ event => event.stamp.answered) start

theorem timed_append {start : Instant} {first second : List Event} :
    Timed start (first ++ second) ↔ Timed start first ∧ Timed (leftAt start first) second := by
  induction first generalizing start with
  | nil => simp [Timed, leftAt]
  | cons event rest ih =>
      simp only [List.cons_append, Timed, ih, leftAt, List.foldl_cons, and_assoc]

theorem Timed.le_leftAt {start : Instant} {trace : List Event} (timed : Timed start trace) :
    start ≤ leftAt start trace := by
  induction trace generalizing start with
  | nil => exact Nat.le_refl start
  | cons event rest ih =>
      obtain ⟨issued, answered, _, timed⟩ := timed
      exact Nat.le_trans issued (Nat.le_trans answered (ih timed))

/-- A clock reading lies between the start and the end of its trace. -/
theorem Timed.reading {start : Instant} {trace : List Event} (timed : Timed start trace)
    {site : ClockSite} {now : Instant} {span : Span}
    (member : Event.clock site now span ∈ trace) : start ≤ now ∧ now ≤ leftAt start trace := by
  obtain ⟨before, after, rfl⟩ := List.append_of_mem member
  obtain ⟨early, issued, answered, ⟨low, high⟩, late⟩ := timed_append.mp timed
  constructor
  · exact Nat.le_trans early.le_leftAt (Nat.le_trans issued low)
  · rw [leftAt, List.foldl_append, List.foldl_cons]
    exact Nat.le_trans high late.le_leftAt

/-- A clock reading of the first part is not after a clock reading of the second part. -/
theorem Timed.readings {start : Instant} {first second : List Event}
    (timed : Timed start (first ++ second)) {site next : ClockSite} {now later : Instant}
    {span spanned : Span} (early : Event.clock site now span ∈ first)
    (late : Event.clock next later spanned ∈ second) : now ≤ later := by
  obtain ⟨before, after⟩ := timed_append.mp timed
  exact Nat.le_trans (before.reading early).2 (after.reading late).1

/-- A finished wait passes before the end of its trace. -/
theorem Timed.slept {start limit : Instant} {wait : Duration} {slept : Span}
    {first rest : List Event}
    (timed : Timed start (first ++ .sleep limit wait (some .ready) slept :: rest)) :
    start + wait ≤ leftAt start (first ++ .sleep limit wait (some .ready) slept :: rest) := by
  obtain ⟨early, issued, _, ⟨finished, _⟩, late⟩ := timed_append.mp timed
  rw [leftAt, List.foldl_append, List.foldl_cons]
  calc
    start + wait ≤ slept.issued + wait := Nat.add_le_add_right (Nat.le_trans early.le_leftAt issued) _
    _ ≤ slept.answered := finished rfl
    _ ≤ _ := late.le_leftAt

end Opmux.Executor
