import OpmuxGateway.Proof.Executor.CallBounds

/-
This file proves which hops one execution calls and which parameters its calls carry.
-/

namespace Opmux.Executor

/-- An event is an allowed call, or it is no call. -/
def Carries (allowed : RoutePlan → ExecutionParams → Prop) : Event → Prop
  | ⟨.call plan params _, _, _⟩ => allowed plan params
  | _ => True

/-- A call of an execution goes to its own target or to a fallback that can serve it. -/
def Called (plan : RoutePlan) (params : ExecutionParams) (hop : RoutePlan) : Prop :=
  hop = plan ∨ hop ∈ plan.fallbackPlans ∧ hopSupportsParams hop params = true

section Calls

variable {allowed : RoutePlan → ExecutionParams → Prop} {config : ExecutorConfig}
  {plan : RoutePlan} {params : ExecutionParams} {deadline : RequestDeadline} {trace : List Event}

theorem carries_silent (silent : ∀ event ∈ trace, Silent event) :
    ∀ event ∈ trace, Carries allowed event := by
  intro event member
  obtain ⟨request, reply, span⟩ := event
  cases request with
  | call plan params cutoff => exact (silent _ member).elim
  | _ => trivial

theorem carries_append {first second : List Event} (left : ∀ event ∈ first, Carries allowed event)
    (right : ∀ event ∈ second, Carries allowed event) :
    ∀ event ∈ first ++ second, Carries allowed event :=
  fun event member => (List.mem_append.mp member).elim (left event) (right event)

theorem carries_cons {event : Event} (first : Carries allowed event)
    (rest : ∀ event ∈ trace, Carries allowed event) :
    ∀ other ∈ event :: trace, Carries allowed other :=
  List.forall_mem_cons.mpr ⟨first, rest⟩

theorem Starts.carries {attempt : Nat} {budget : AttemptBudget}
    {result : Option (AttemptStep × AttemptBudget)} (permitted : allowed plan params)
    (start : Starts config plan params deadline attempt budget trace result) :
    ∀ event ∈ trace, Carries allowed event := by
  rcases start.shape with
    ⟨silent, _⟩ | ⟨_, before, cutoff, reply, span, after, rfl, quiet, still, _⟩
  · exact carries_silent silent
  · exact carries_append (carries_silent quiet) (carries_cons permitted (carries_silent still))

/-- Each attempt of a hop calls its own plan with the parameters of the request. -/
theorem Attempts.carries {left attempt : Nat} {budget : AttemptBudget}
    {lastError : Option ExecutorError} {retryAfterMs : Option Nat}
    {result : Option (Outcome × AttemptBudget)} (permitted : allowed plan params)
    (attempts : Attempts config plan params deadline left attempt budget lastError retryAfterMs
      trace result) : ∀ event ∈ trace, Carries allowed event := by
  induction attempts with
  | exhausted => simp
  | expired late => exact carries_silent (by simp)
  | spent early full => exact carries_silent (by simp)
  | waitDropped early spare prepared => exact carries_cons trivial (carries_silent prepared.silent)
  | waitEnded early spare prepared => exact carries_cons trivial (carries_silent prepared.silent)
  | callDropped early spare prepared start =>
      exact carries_cons trivial
        (carries_append (carries_silent prepared.silent) (start.carries permitted))
  | finished early spare prepared start =>
      exact carries_cons trivial
        (carries_append (carries_silent prepared.silent) (start.carries permitted))
  | continued early spare prepared start continued ih =>
      exact carries_cons trivial (carries_append (carries_silent prepared.silent)
        (carries_append (start.carries permitted) ih))

theorem Settles.carries {permit : Circuit.CircuitPermit} (settles : Settles permit trace) :
    ∀ event ∈ trace, Carries allowed event := by
  cases settles with
  | completed => exact carries_cons trivial (by simp)
  | released => exact carries_cons trivial (by simp)

theorem Hops.carries {budget : AttemptBudget} {result : Option (Outcome × AttemptBudget)}
    (permitted : allowed plan params)
    (hops : Hops config plan params deadline budget trace result) :
    ∀ event ∈ trace, Carries allowed event := by
  cases hops with
  | expired late => exact carries_silent (by simp)
  | spent early full => exact carries_silent (by simp)
  | rejected early spare => exact carries_cons trivial (carries_cons trivial (by simp))
  | dropped early spare admits attempts =>
      exact carries_cons trivial (carries_cons trivial
        (carries_append (attempts.carries permitted) (carries_cons trivial (by simp))))
  | settled early spare admits attempts settles =>
      exact carries_cons trivial (carries_cons trivial (carries_append (attempts.carries permitted)
        (settles_of_runs config admits settles).2.carries))

/-- The fallback loop calls only fallbacks that can serve the parameters. -/
theorem Falls.carries {primaryError : ExecutorError} {fallbackPlans : List RoutePlan}
    {budget : AttemptBudget} {fromTarget : String} {outcome : Option Outcome}
    (permitted : ∀ hop ∈ fallbackPlans, hopSupportsParams hop params = true → allowed hop params)
    (falls : Falls config params deadline primaryError fallbackPlans budget fromTarget trace
      outcome) : ∀ event ∈ trace, Carries allowed event := by
  induction falls with
  | finished finished => exact carries_silent finished.silent
  | expired late => exact carries_silent (by simp)
  | skipped early unsupported falls ih =>
      exact carries_cons trivial (ih fun hop member => permitted hop (by simp [member]))
  | dropped early supported hops =>
      exact carries_cons trivial (carries_cons trivial
        (hops.carries (permitted _ (by simp) supported)))
  | succeeded early supported hops =>
      exact carries_cons trivial (carries_cons trivial
        (hops.carries (permitted _ (by simp) supported)))
  | hopExpired early supported hops =>
      exact carries_cons trivial (carries_cons trivial
        (hops.carries (permitted _ (by simp) supported)))
  | ended early supported hops leaves =>
      exact carries_cons trivial (carries_cons trivial (carries_append
        (hops.carries (permitted _ (by simp) supported)) (carries_silent leaves.silent)))
  | ineligible early supported hops leaves fatal finished =>
      exact carries_cons trivial (carries_cons trivial (carries_append
        (hops.carries (permitted _ (by simp) supported)) (carries_append
          (carries_silent leaves.silent) (carries_silent finished.silent))))
  | continued early supported hops leaves eligible continued ih =>
      exact carries_cons trivial (carries_cons trivial (carries_append
        (hops.carries (permitted _ (by simp) supported)) (carries_append
          (carries_silent leaves.silent)
          (ih fun hop member => permitted hop (by simp [member])))))

/-- The calls of an execution carry its extracted parameters and go to its own hops. -/
theorem Executes.carries {payload : Json} {outcome : Option Outcome}
    (executes : Executes config plan deadline payload trace outcome) :
    ∀ event ∈ trace, Carries (fun hop params =>
      extractParams payload = .ok params ∧ Called plan params hop) event := by
  have own {params : ExecutionParams} (extracted : extractParams payload = .ok params) :
      extractParams payload = .ok params ∧ Called plan params plan := ⟨extracted, .inl rfl⟩
  cases executes with
  | expired late => exact carries_silent (by simp)
  | invalid early rejected => exact carries_silent (by simp)
  | dropped early extracted hops => exact carries_cons trivial (hops.carries (own extracted))
  | succeeded early extracted hops => exact carries_cons trivial (hops.carries (own extracted))
  | hopExpired early extracted hops => exact carries_cons trivial (hops.carries (own extracted))
  | ended early extracted hops leaves =>
      exact carries_cons trivial
        (carries_append (hops.carries (own extracted)) (carries_silent leaves.silent))
  | ineligible early extracted hops leaves fatal =>
      exact carries_cons trivial
        (carries_append (hops.carries (own extracted)) (carries_silent leaves.silent))
  | lateFallbacks early extracted hops leaves eligible late =>
      exact carries_cons trivial (carries_append (hops.carries (own extracted))
        (carries_append (carries_silent leaves.silent) (carries_silent (by simp))))
  | noFallbacks early extracted hops leaves eligible pending empty =>
      exact carries_cons trivial (carries_append (hops.carries (own extracted))
        (carries_append (carries_silent leaves.silent) (carries_silent (by simp))))
  | fallbacks early extracted hops leaves eligible pending nonempty continued =>
      exact carries_cons trivial (carries_append (hops.carries (own extracted))
        (carries_append (carries_silent leaves.silent) (carries_cons trivial
          (continued.carries fun hop member supported =>
            ⟨extracted, .inr ⟨member, supported⟩⟩))))

end Calls

end Opmux.Executor
