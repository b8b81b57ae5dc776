import Mathlib

/-
This file gives observers, which read a finite trace from its first event to its last one.
-/

namespace Observer

variable {State Event : Type}

/-- A trace is allowed when each event is allowed in the state that the observer reached. -/
def Always (step : State → Event → State) (allowed : State → Event → Prop) (state : State) :
    List Event → Prop
  | [] => True
  | event :: rest => allowed state event ∧ Always step allowed (step state event) rest

variable {step : State → Event → State} {allowed : State → Event → Prop}

@[simp] theorem always_nil (state : State) : Always step allowed state [] := trivial

@[simp] theorem always_cons (state : State) (event : Event) (rest : List Event) :
    Always step allowed state (event :: rest) ↔
      allowed state event ∧ Always step allowed (step state event) rest := Iff.rfl

/-- An observer continues over the second part of a trace where the first part left it. -/
theorem always_append (state : State) (first second : List Event) :
    Always step allowed state (first ++ second) ↔
      Always step allowed state first ∧ Always step allowed (first.foldl step state) second := by
  induction first generalizing state with
  | nil => simp
  | cons event rest ih => simp [ih, and_assoc]

/-- An allowed trace allows the event of each of its positions. -/
theorem always_iff_split (state : State) (trace : List Event) :
    Always step allowed state trace ↔
      ∀ before event after, trace = before ++ event :: after →
        allowed (before.foldl step state) event := by
  constructor
  · rintro always before event after rfl
    rw [always_append] at always
    exact always.2.1
  · intro split
    induction trace generalizing state with
    | nil => trivial
    | cons event rest ih =>
        refine ⟨split [] event rest rfl, ih (step state event) ?_⟩
        rintro before later after rfl
        exact split (event :: before) later after rfl

/-- An allowed trace is read when the observer ends in a state of the postcondition. -/
def Reads (step : State → Event → State) (allowed : State → Event → Prop) (state : State)
    (trace : List Event) (post : State → Prop) : Prop :=
  Always step allowed state trace ∧ post (trace.foldl step state)

@[simp] theorem reads_nil {state : State} {post : State → Prop} :
    Reads step allowed state [] post ↔ post state := by
  simp [Reads]

@[simp] theorem reads_cons {state : State} {event : Event} {rest : List Event}
    {post : State → Prop} :
    Reads step allowed state (event :: rest) post ↔
      allowed state event ∧ Reads step allowed (step state event) rest post := by
  simp [Reads, and_assoc]

/-- The second part of a trace is read from the states that the first part ends in. -/
theorem reads_append {state : State} {first second : List Event} {post : State → Prop} :
    Reads step allowed state (first ++ second) post ↔
      Reads step allowed state first fun middle => Reads step allowed middle second post := by
  simp [Reads, always_append, and_assoc]

theorem Reads.mono {state : State} {trace : List Event} {post weaker : State → Prop}
    (reads : Reads step allowed state trace post) (weaken : ∀ state, post state → weaker state) :
    Reads step allowed state trace weaker :=
  ⟨reads.1, weaken _ reads.2⟩

/-- A property that no event removes stays through a trace. -/
theorem foldl_keeps (step : State → Event → State) (property : State → Prop)
    (keeps : ∀ state event, property state → property (step state event)) {state : State}
    (holds : property state) (trace : List Event) : property (trace.foldl step state) := by
  induction trace generalizing state with
  | nil => exact holds
  | cons event rest ih => exact ih (keeps state event holds)

/-- A property that a trace brings is brought by one of its events. -/
theorem exists_turn (step : State → Event → State) (property : State → Prop) {state : State}
    {trace : List Event}
    (missing : ¬ property state) (brought : property (trace.foldl step state)) :
    ∃ before event after, trace = before ++ event :: after ∧
      ¬ property (before.foldl step state) ∧ property (step (before.foldl step state) event) := by
  induction trace generalizing state with
  | nil => exact absurd brought missing
  | cons event rest ih =>
      by_cases now : property (step state event)
      · exact ⟨[], event, rest, rfl, missing, now⟩
      · obtain ⟨before, later, after, rfl, absent, found⟩ := ih now brought
        exact ⟨event :: before, later, after, rfl, absent, found⟩

/-- A weight that grows with each gained event counts them over an allowed trace. -/
theorem Always.count (weight : State → Nat) (gained : Event → Bool)
    (counts : ∀ state event, allowed state event →
      weight (step state event) = weight state + (gained event).toNat)
    {state : State} {trace : List Event} (always : Always step allowed state trace) :
    weight (trace.foldl step state) = weight state + trace.countP gained := by
  induction trace generalizing state with
  | nil => rfl
  | cons event rest ih =>
      have now := counts state event always.1
      have later := ih always.2
      have counted : (if gained event = true then 1 else 0) = (gained event).toNat := by
        cases gained event with
        | false => rfl
        | true => rfl
      rw [List.foldl_cons, List.countP_cons, counted]
      omega

end Observer
