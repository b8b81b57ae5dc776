import Mathlib

/-
This file gives an abstract circuit breaker.
Its closed phase keeps the completed calls themselves and not a counter.
-/

namespace Breaker

/-- A completed call succeeds, fails for a moment, or fails for good. -/
inductive Verdict where
  | success
  | transient
  | permanent
  deriving DecidableEq, Repr

/-- A ticket belongs to a normal call or to a recovery probe. -/
inductive Role where
  | normal
  | probe
  deriving DecidableEq, Repr

/-- The closed phase keeps the verdicts of its own tickets in completion order. -/
inductive Phase (Time : Type) where
  | closed (history : List Verdict)
  | opened (reopenAt : Time)
  | halfOpen (owned : Bool)
  deriving DecidableEq, Repr

/-- Each phase has one generation, and its tickets carry that generation. -/
structure State (Time Generation : Type) where
  generation : Generation
  phase : Phase Time
  deriving DecidableEq, Repr

/-- A caller asks for admission, reports a verdict, or abandons its ticket. -/
inductive Action (Time Generation : Type) where
  | admission (now : Time)
  | settle (role : Role) (generation : Generation) (verdict : Verdict) (now : Time)
  | abandon (role : Role) (generation : Generation)

/-- The policy fixes the failure limit, the end of a cooldown, and the next generation. -/
structure Policy (Time Generation : Type) where
  limit : Nat
  reopen : Time → Time
  next : Generation → Generation

/-- The answer to an admission request. -/
inductive Decision where
  | allow
  | reject
  | probe
  deriving DecidableEq, Repr

/-- This number counts the transient failures after the last success. -/
def failuresSinceSuccess (history : List Verdict) : Nat :=
  (history.reverse.takeWhile (· ≠ .success)).count .transient

@[simp] theorem failuresSinceSuccess_nil : failuresSinceSuccess [] = 0 := rfl

@[simp] theorem failuresSinceSuccess_success (history : List Verdict) :
    failuresSinceSuccess (history ++ [.success]) = 0 := by
  simp [failuresSinceSuccess]

@[simp] theorem failuresSinceSuccess_transient (history : List Verdict) :
    failuresSinceSuccess (history ++ [.transient]) = failuresSinceSuccess history + 1 := by
  simp [failuresSinceSuccess]

@[simp] theorem failuresSinceSuccess_permanent (history : List Verdict) :
    failuresSinceSuccess (history ++ [.permanent]) = failuresSinceSuccess history := by
  simp [failuresSinceSuccess]

variable {Time Generation : Type} (policy : Policy Time Generation)

/-- A probe starts a new generation that one caller owns. -/
def State.probing (state : State Time Generation) : State Time Generation :=
  ⟨policy.next state.generation, .halfOpen true⟩

/-- An opening starts a new generation and one cooldown. -/
def State.opening (state : State Time Generation) (now : Time) : State Time Generation :=
  ⟨policy.next state.generation, .opened (policy.reopen now)⟩

/-- A closing starts a new generation with an empty history. -/
def State.closing (state : State Time Generation) : State Time Generation :=
  ⟨policy.next state.generation, .closed []⟩

/-- A normal ticket of the closed generation adds its verdict to the history. -/
def State.recordVerdict (state : State Time Generation) (history : List Verdict)
    (verdict : Verdict) (now : Time) : State Time Generation :=
  if verdict = .transient ∧ failuresSinceSuccess (history ++ [verdict]) = policy.limit then
    state.opening policy now
  else { state with phase := .closed (history ++ [verdict]) }

variable [LinearOrder Time] [DecidableEq Generation]

/-- Admission allows in the closed phase and gives the probe after the cooldown. -/
def State.decide (state : State Time Generation) (now : Time) : Decision :=
  match state.phase with
  | .closed _ => .allow
  | .opened reopenAt => if now < reopenAt then .reject else .probe
  | .halfOpen true => .reject
  | .halfOpen false => .probe

/-- One action changes the breaker only through a ticket of the current generation. -/
def step (state : State Time Generation) : Action Time Generation → State Time Generation
  | .admission now => if state.decide now = .probe then state.probing policy else state
  | .settle role generation verdict now =>
      if generation = state.generation then
        match role, state.phase with
        | .normal, .closed history => state.recordVerdict policy history verdict now
        | .probe, .halfOpen _ =>
            if verdict = .transient then state.opening policy now else state.closing policy
        | _, _ => state
      else state
  | .abandon role generation =>
      if role = .probe ∧ generation = state.generation then
        match state.phase with
        | .halfOpen _ => { state with phase := .halfOpen false }
        | _ => state
      else state

/-- A run of actions applies them in order. -/
def run (state : State Time Generation) (actions : List (Action Time Generation)) :
    State Time Generation := actions.foldl (step policy) state

/-- A closed breaker opens exactly at the transient failure that reaches the limit. -/
theorem opens_iff (state : State Time Generation) (history : List Verdict)
    (closed : state.phase = .closed history) (action : Action Time Generation) :
    (∃ reopenAt, (step policy state action).phase = .opened reopenAt) ↔
      ∃ now, action = .settle .normal state.generation .transient now ∧
        failuresSinceSuccess (history ++ [.transient]) = policy.limit := by
  cases action with
  | admission now => simp [step, State.decide, closed]
  | settle role generation verdict now =>
      by_cases current : generation = state.generation
      · cases role with
        | normal =>
            by_cases reaches : verdict = .transient ∧
                failuresSinceSuccess (history ++ [verdict]) = policy.limit
            · obtain ⟨rfl, full⟩ := reaches
              rw [failuresSinceSuccess_transient] at full
              simp [step, current, closed, State.recordVerdict, State.opening, full]
            · simp only [step, current, if_true, closed, State.recordVerdict, if_neg reaches]
              constructor
              · rintro ⟨reopenAt, impossible⟩
                cases impossible
              · rintro ⟨_, same, full⟩
                cases same
                exact absurd ⟨rfl, full⟩ reaches
        | probe => simp [step, current, closed]
      · simp [step, current, closed]
  | abandon role generation =>
      simp only [step, closed]
      split <;> simp [closed]

/-- A half-open breaker closes exactly when its own probe succeeds or fails for good. -/
theorem closes_iff (state : State Time Generation) (owned : Bool)
    (half : state.phase = .halfOpen owned) (action : Action Time Generation) :
    (∃ history, (step policy state action).phase = .closed history) ↔
      ∃ verdict now, action = .settle .probe state.generation verdict now ∧
        verdict ≠ .transient := by
  cases action with
  | admission now =>
      cases owned <;> simp [step, State.decide, half, State.probing]
  | settle role generation verdict now =>
      by_cases current : generation = state.generation
      · cases role with
        | normal => simp [step, half]
        | probe =>
            cases verdict <;>
              simp [step, current, half, State.opening, State.closing]
      · simp [step, current, half]
  | abandon role generation =>
      simp only [step, half]
      split <;> simp [half]

/-- A half-open breaker opens again exactly when its own probe fails for a moment. -/
theorem reopens_iff (state : State Time Generation) (owned : Bool)
    (half : state.phase = .halfOpen owned) (action : Action Time Generation) :
    (∃ reopenAt, (step policy state action).phase = .opened reopenAt) ↔
      ∃ now, action = .settle .probe state.generation .transient now := by
  cases action with
  | admission now =>
      cases owned <;> simp [step, State.decide, half, State.probing]
  | settle role generation verdict now =>
      by_cases current : generation = state.generation
      · cases role with
        | normal => simp [step, half]
        | probe =>
            cases verdict <;>
              simp [step, current, half, State.opening, State.closing]
      · simp [step, current, half]
  | abandon role generation =>
      simp only [step, half]
      split <;> simp [half]

end Breaker
