import OpmuxGateway.Proof.Executor.AttemptDerivation

/-
This file gives the derivations of the hops, the fallbacks, and the whole execution.
-/

namespace Opmux.Executor
open Program
open Circuit (CircuitPermit CircuitAdmission)

namespace AttemptBudget

/-- A budget has no remaining slot exactly when all of its slots are started. -/
theorem remaining_eq_zero (budget : AttemptBudget) :
    budget.remaining = 0 ↔ budget.maxTotal ≤ budget.started := by
  unfold remaining
  by_cases inside : budget.started ≤ budget.maxTotal
  · rw [if_pos inside, ← UInt32.toNat_inj, UInt32.toNat_sub_of_le _ _ inside,
      UInt32.le_iff_toNat_le]
    rw [UInt32.le_iff_toNat_le] at inside
    change _ = 0 ↔ _
    omega
  · rw [if_neg inside, UInt32.le_iff_toNat_le]
    rw [UInt32.le_iff_toNat_le] at inside
    simp only [true_iff]
    omega

/-- This budget has started one more call. -/
def next (budget : AttemptBudget) : AttemptBudget :=
  { budget with started := saturatingAdd budget.started 1 }

end AttemptBudget

variable (config : ExecutorConfig) (plan : RoutePlan) (params : ExecutionParams)
  (deadline : RequestDeadline)

/-- An attempt after the first one waits before its call. -/
inductive Prepares (attempt : Nat) (lastError : Option ExecutorError) (retryAfterMs : Option Nat) :
    List Event → Option (Option ExecutorError) → Prop
  | first (zero : attempt = 0) : Prepares attempt lastError retryAfterMs [] (some none)
  | retry {trace result} (positive : 0 < attempt)
      (waited : Waits config plan deadline attempt lastError retryAfterMs trace result) :
      Prepares attempt lastError retryAfterMs trace result

theorem prepares_of_runs {attempt : Nat} {lastError : Option ExecutorError}
    {retryAfterMs : Option Nat} {trace : List Event} {outcome : Option (Option ExecutorError)}
    (run : (prepareAttempt config plan deadline attempt lastError retryAfterMs).Runs trace
      outcome) :
    Prepares config plan deadline attempt lastError retryAfterMs trace outcome := by
  unfold prepareAttempt at run
  split at run
  · rename_i positive
    exact .retry positive (waits_of_runs config plan deadline run)
  · rename_i zero
    obtain ⟨rfl, rfl⟩ := run
    exact .first (by omega)

/-- The attempts of one hop run until a final outcome or an empty budget. -/
inductive Attempts : Nat → Nat → AttemptBudget → Option ExecutorError → Option Nat →
    List Event → Option (Outcome × AttemptBudget) → Prop
  | exhausted {attempt budget lastError retryAfterMs} :
      Attempts 0 attempt budget lastError retryAfterMs [] (some (exhausted lastError, budget))
  | expired {left attempt budget lastError retryAfterMs now span recorded}
      (late : deadline.deadline ≤ now) :
      Attempts (left + 1) attempt budget lastError retryAfterMs
        [.clock .isExpired now span, .record .deadlineExceeded recorded]
        (some (.error .deadlineExceeded, budget))
  | spent {left attempt budget lastError retryAfterMs now span}
      (early : now < deadline.deadline) (full : budget.maxTotal ≤ budget.started) :
      Attempts (left + 1) attempt budget lastError retryAfterMs [.clock .isExpired now span]
        (some (exhausted lastError, budget))
  | waitDropped {left attempt budget lastError retryAfterMs now span trace}
      (early : now < deadline.deadline) (spare : budget.started < budget.maxTotal)
      (prepared : Prepares config plan deadline attempt lastError retryAfterMs trace none) :
      Attempts (left + 1) attempt budget lastError retryAfterMs
        (.clock .isExpired now span :: trace) none
  | waitEnded {left attempt budget lastError retryAfterMs now span trace error}
      (early : now < deadline.deadline) (spare : budget.started < budget.maxTotal)
      (prepared : Prepares config plan deadline attempt lastError retryAfterMs trace
        (some (some error))) :
      Attempts (left + 1) attempt budget lastError retryAfterMs
        (.clock .isExpired now span :: trace) (some (.error error, budget))
  | callDropped {left attempt budget lastError retryAfterMs now span trace started}
      (early : now < deadline.deadline) (spare : budget.started < budget.maxTotal)
      (prepared : Prepares config plan deadline attempt lastError retryAfterMs trace (some none))
      (start : Starts config plan params deadline attempt budget started none) :
      Attempts (left + 1) attempt budget lastError retryAfterMs
        (.clock .isExpired now span :: (trace ++ started)) none
  | finished {left attempt budget lastError retryAfterMs now span trace started outcome used}
      (early : now < deadline.deadline) (spare : budget.started < budget.maxTotal)
      (prepared : Prepares config plan deadline attempt lastError retryAfterMs trace (some none))
      (start : Starts config plan params deadline attempt budget started
        (some (.finished outcome, used))) :
      Attempts (left + 1) attempt budget lastError retryAfterMs
        (.clock .isExpired now span :: (trace ++ started)) (some (outcome, used))
  | continued {left attempt budget lastError retryAfterMs now span trace started error used rest
      result}
      (early : now < deadline.deadline) (spare : budget.started < budget.maxTotal)
      (prepared : Prepares config plan deadline attempt lastError retryAfterMs trace (some none))
      (start : Starts config plan params deadline attempt budget started
        (some (.failed error, used)))
      (continued : Attempts left (attempt + 1) used (some error) (retryAfterOf error) rest
        result) :
      Attempts (left + 1) attempt budget lastError retryAfterMs
        (.clock .isExpired now span :: (trace ++ (started ++ rest))) result

/-- A started attempt with a spare slot is never stopped. -/
theorem starts_not_stopped {attempt : Nat} {budget used : AttemptBudget} {trace : List Event}
    (start : Starts config plan params deadline attempt budget trace (some (.stopped, used))) :
    False := by
  generalize same : some (AttemptStep.stopped, used) = result at start
  cases start with
  | noCutoff late => cases same
  | dropped early timed room retried => cases same
  | examined early timed room retried examined =>
      cases same
      cases examined with
      | failed early missed continued => cases continued

theorem attempts_of_runs {left attempt : Nat} {budget : AttemptBudget}
    {lastError : Option ExecutorError} {retryAfterMs : Option Nat} {trace : List Event}
    {outcome : Option (Outcome × AttemptBudget)}
    (run : (executeAttemptsFrom config plan params deadline left attempt budget lastError
      retryAfterMs).Runs trace outcome) :
    Attempts config plan params deadline left attempt budget lastError retryAfterMs trace
      outcome := by
  induction left generalizing attempt budget lastError retryAfterMs trace with
  | zero =>
      obtain ⟨rfl, rfl⟩ := run
      exact .exhausted
  | succ left ih =>
      simp only [executeAttemptsFrom, readClock] at run
      rw [runs_request_bind] at run
      obtain ⟨now, span, rest, rfl, run⟩ := run
      by_cases late : deadline.deadline ≤ now
      · simp only [RequestDeadline.isExpired, late, decide_true, if_true,
          runs_deadlineExceeded_bind, runs_pure] at run
        obtain ⟨recorded, _, rfl, rfl, rfl⟩ := run
        exact .expired late
      have early := Nat.lt_of_not_le late
      simp only [RequestDeadline.isExpired, late, decide_false, Bool.false_eq_true, if_false,
        AttemptBudget.remaining_eq_zero] at run
      by_cases full : budget.maxTotal ≤ budget.started
      · simp only [full, if_true, runs_pure] at run
        obtain ⟨rfl, rfl⟩ := run
        exact .spent early full
      have spare := UInt32.not_le.mp full
      rw [if_neg full, runs_bind] at run
      rcases run with ⟨first, prepared, second, rfl, preparing, run⟩ | ⟨rfl, preparing⟩
      · have prepares := prepares_of_runs config plan deadline preparing
        cases prepared with
        | some error =>
            obtain ⟨rfl, rfl⟩ := run
            rw [List.append_nil]
            exact .waitEnded early spare prepares
        | none =>
            simp only at run
            rw [runs_bind] at run
            rcases run with ⟨started, ⟨step, used⟩, rest, rfl, starting, run⟩ | ⟨rfl, starting⟩
            · have starts := starts_of_runs config plan params deadline spare starting
              cases step with
              | finished result =>
                  obtain ⟨rfl, rfl⟩ := run
                  rw [List.append_nil]
                  exact .finished early spare prepares starts
              | stopped => exact (starts_not_stopped config plan params deadline starts).elim
              | failed error => exact .continued early spare prepares starts (ih run)
            · exact .callDropped early spare prepares
                (starts_of_runs config plan params deadline spare starting)
      · exact .waitDropped early spare (prepares_of_runs config plan deadline preparing)

/-- An admitted hop owns a permit and a retry limit. -/
inductive Admits : CircuitAdmission → CircuitPermit → UInt32 → (Outcome → Effect Unit) → Prop
  | probe {permit} : Admits (.probe permit) permit 0 (settleProbe permit)
  | allow {permit} : Admits (.allow permit) permit config.maxRetries (settleClosed permit)

/-- A hop is refused, rejected, dropped, or settled with its outcome. -/
inductive Hops (budget : AttemptBudget) : List Event → Option (Outcome × AttemptBudget) → Prop
  | expired {now span recorded} (late : deadline.deadline ≤ now) :
      Hops budget [.clock .isExpired now span, .record .deadlineExceeded recorded]
        (some (.error .deadlineExceeded, budget))
  | spent {now span} (early : now < deadline.deadline) (full : budget.maxTotal ≤ budget.started) :
      Hops budget [.clock .isExpired now span]
        (some (.error (.apiCallFailed "Max retries exceeded"), budget))
  | rejected {now span retryAfterMs asked} (early : now < deadline.deadline)
      (spare : budget.started < budget.maxTotal) :
      Hops budget [.clock .isExpired now span, .admission plan (.reject retryAfterMs) asked]
        (some (.error (.circuitOpen plan.vendorId retryAfterMs), budget))
  | dropped {now span admission permit maxRetries settlement asked trace released}
      (early : now < deadline.deadline) (spare : budget.started < budget.maxTotal)
      (admitted : Admits config admission permit maxRetries settlement)
      (attempts : Attempts config plan params deadline (maxRetries.toNat + 1) 0 budget none none
        trace none) :
      Hops budget (.clock .isExpired now span :: .admission plan admission asked ::
        (trace ++ [.dropPermit permit released])) none
  | settled {now span admission permit maxRetries settlement asked trace outcome used closing}
      (early : now < deadline.deadline) (spare : budget.started < budget.maxTotal)
      (admitted : Admits config admission permit maxRetries settlement)
      (attempts : Attempts config plan params deadline (maxRetries.toNat + 1) 0 budget none none
        trace (some (outcome, used)))
      (settles : (settlement outcome).Runs closing (some ())) :
      Hops budget (.clock .isExpired now span :: .admission plan admission asked ::
        (trace ++ closing)) (some (outcome, used))

/-- The permit of a hop is settled once or dropped once. -/
inductive Settles (permit : CircuitPermit) : List Event → Prop
  | completed {outcome span} : Settles permit [.settle permit outcome span]
  | released {span} : Settles permit [.dropPermit permit span]

theorem settles_of_settle {permit : CircuitPermit} {completion : Circuit.CompletionOutcome}
    {trace : List Event} {result : Option Unit}
    (run : (settle permit completion).Runs trace result) :
    result = some () ∧ Settles permit trace := by
  unfold settle at run
  rw [runs_request] at run
  obtain ⟨_, span, rfl, rfl⟩ := run
  exact ⟨rfl, .completed⟩

theorem settles_of_drop {permit : CircuitPermit} {trace : List Event} {result : Option Unit}
    (run : (dropPermit permit).Runs trace result) :
    result = some () ∧ ∃ span, trace = [.dropPermit permit span] := by
  unfold dropPermit at run
  rw [runs_request] at run
  obtain ⟨_, span, rfl, rfl⟩ := run
  exact ⟨rfl, span, rfl⟩

/-- A settlement always finishes. -/
theorem settles_of_runs {admission : CircuitAdmission} {permit : CircuitPermit}
    {maxRetries : UInt32} {settlement : Outcome → Effect Unit}
    (admitted : Admits config admission permit maxRetries settlement) {outcome : Outcome}
    {trace : List Event} {result : Option Unit}
    (run : (settlement outcome).Runs trace result) : result = some () ∧ Settles permit trace := by
  have released : ∀ {trace result}, (dropPermit permit).Runs trace result →
      result = some () ∧ Settles permit trace := by
    intro trace result dropped
    obtain ⟨rfl, span, rfl⟩ := settles_of_drop dropped
    exact ⟨rfl, .released⟩
  cases admitted with
  | probe =>
      unfold settleProbe at run
      split at run
      · exact settles_of_settle run
      · exact released run
      · split at run
        · exact settles_of_settle run
        · exact settles_of_settle run
  | allow =>
      unfold settleClosed at run
      split at run
      · exact settles_of_settle run
      · exact released run
      · split at run
        · exact settles_of_settle run
        · exact released run

/-- The body of an admitted hop is one guarded attempt loop and one settlement. -/
theorem admitted_of_runs {admission : CircuitAdmission} {permit : CircuitPermit}
    {maxRetries : UInt32} {settlement : Outcome → Effect Unit} {budget : AttemptBudget}
    (admitted : Admits config admission permit maxRetries settlement) {trace : List Event}
    {result : Option (Outcome × AttemptBudget)}
    (run : ((executeAttempts config plan params deadline budget maxRetries).onDrop
        (dropPermit permit) >>= fun pair => settlement pair.1 >>= fun _ =>
          Pure.pure (pair.1, pair.2)).Runs trace result) :
    (∃ attempts span, trace = attempts ++ [.dropPermit permit span] ∧ result = none ∧
      Attempts config plan params deadline (maxRetries.toNat + 1) 0 budget none none attempts
        none) ∨
    (∃ attempts closing outcome used, trace = attempts ++ closing ∧
      result = some (outcome, used) ∧
      Attempts config plan params deadline (maxRetries.toNat + 1) 0 budget none none attempts
        (some (outcome, used)) ∧
      (settlement outcome).Runs closing (some ())) := by
  rw [runs_bind] at run
  simp only [runs_onDrop] at run
  rcases run with ⟨attempts, ⟨outcome, used⟩, second, rfl, guarded, run⟩ | ⟨rfl, guarded⟩
  · rcases guarded with ⟨_, same, attempting⟩ | ⟨impossible, _⟩
    · cases same
      rw [runs_bind] at run
      rcases run with ⟨closing, _, rest, rfl, settling, rfl, rfl⟩ | ⟨rfl, settling⟩
      · rw [List.append_nil]
        exact .inr ⟨attempts, closing, outcome, used, rfl, rfl,
          attempts_of_runs config plan params deadline attempting, settling⟩
      · obtain ⟨impossible, _⟩ := settles_of_runs config admitted settling
        cases impossible
    · cases impossible
  · rcases guarded with ⟨_, impossible, _⟩ | ⟨_, attempts, released, _, rfl, dropped, cleaned⟩
    · cases impossible
    · obtain ⟨_, span, rfl⟩ := settles_of_drop cleaned
      exact .inl ⟨attempts, span, rfl, rfl,
        attempts_of_runs config plan params deadline dropped⟩

theorem hops_of_runs {budget : AttemptBudget} {trace : List Event}
    {outcome : Option (Outcome × AttemptBudget)}
    (run : (executeHop config plan params deadline budget).Runs trace outcome) :
    Hops config plan params deadline budget trace outcome := by
  unfold executeHop readClock at run
  rw [runs_request_bind] at run
  obtain ⟨now, span, rest, rfl, run⟩ := run
  by_cases late : deadline.deadline ≤ now
  · simp only [RequestDeadline.isExpired, late, decide_true, if_true,
      runs_deadlineExceeded_bind, runs_pure] at run
    obtain ⟨recorded, _, rfl, rfl, rfl⟩ := run
    exact .expired late
  have early := Nat.lt_of_not_le late
  simp only [RequestDeadline.isExpired, late, decide_false, Bool.false_eq_true, if_false,
    AttemptBudget.remaining_eq_zero] at run
  by_cases full : budget.maxTotal ≤ budget.started
  · simp only [full, if_true, runs_pure] at run
    obtain ⟨rfl, rfl⟩ := run
    exact .spent early full
  have spare := UInt32.not_le.mp full
  rw [if_neg full, runs_request_bind] at run
  obtain ⟨admission, asked, rest, rfl, run⟩ := run
  have settled : ∀ {permit maxRetries settlement},
      Admits config admission permit maxRetries settlement →
      ((executeAttempts config plan params deadline budget maxRetries).onDrop
        (dropPermit permit) >>= fun pair => settlement pair.1 >>= fun _ =>
          Pure.pure (pair.1, pair.2)).Runs rest outcome →
      Hops config plan params deadline budget
        (.clock .isExpired now span :: .admission plan admission asked :: rest) outcome := by
    intro permit maxRetries settlement admitted body
    rcases admitted_of_runs config plan params deadline admitted body with
      ⟨attempts, released, rfl, rfl, derivation⟩ |
        ⟨attempts, closing, result, used, rfl, rfl, derivation, settles⟩
    · exact .dropped early spare admitted derivation
    · exact .settled early spare admitted derivation settles
  cases admission with
  | allow permit => exact settled .allow run
  | reject retryAfterMs =>
      obtain ⟨rfl, rfl⟩ := run
      exact .rejected early spare
  | probe permit => exact settled .probe run

/-- The last check returns the expiry or the primary error. -/
inductive Finishes (primaryError : ExecutorError) : List Event → Outcome → Prop
  | primary {now span} (early : now < deadline.deadline) :
      Finishes primaryError [.clock .isExpired now span] (.error primaryError)
  | expired {now span recorded} (late : deadline.deadline ≤ now) :
      Finishes primaryError [.clock .isExpired now span, .record .deadlineExceeded recorded]
        (.error .deadlineExceeded)

theorem finishes_of_runs {primaryError : ExecutorError} {trace : List Event}
    {outcome : Option Outcome}
    (run : (finishFallbacks deadline primaryError).Runs trace outcome) :
    ∃ result, outcome = some result ∧ Finishes deadline primaryError trace result := by
  unfold finishFallbacks readClock at run
  rw [runs_request_bind] at run
  obtain ⟨now, span, rest, rfl, run⟩ := run
  by_cases late : deadline.deadline ≤ now
  · simp only [RequestDeadline.isExpired, late, decide_true, if_true,
      runs_deadlineExceeded_bind, runs_pure] at run
    obtain ⟨recorded, _, rfl, rfl, rfl⟩ := run
    exact ⟨_, rfl, .expired late⟩
  · simp only [RequestDeadline.isExpired, late, decide_false, Bool.false_eq_true, if_false,
      runs_pure] at run
    obtain ⟨rfl, rfl⟩ := run
    exact ⟨_, rfl, .primary (Nat.lt_of_not_le late)⟩

/-- A failed hop ends the request, or the request looks for a later target. -/
inductive Leaves (error : ExecutorError) : List Event → Option ExecutorError → Prop
  | ended {trace terminal} (other : error ≠ .deadlineExceeded)
      (ended : Ends deadline error trace (some terminal)) : Leaves error trace (some terminal)
  | spared {trace} (other : error ≠ .deadlineExceeded) (spared : Ends deadline error trace none) :
      Leaves error trace none

variable {deadline} in
theorem Leaves.other {error : ExecutorError} {trace : List Event} {result : Option ExecutorError}
    (leaves : Leaves deadline error trace result) : error ≠ .deadlineExceeded := by
  cases leaves with
  | ended other ended => exact other
  | spared other spared => exact other

/-- The fallback loop skips, tries, and leaves its hops in order. -/
inductive Falls (primaryError : ExecutorError) : List RoutePlan → AttemptBudget → String →
    List Event → Option Outcome → Prop
  | finished {budget fromTarget trace outcome}
      (finished : Finishes deadline primaryError trace outcome) :
      Falls primaryError [] budget fromTarget trace (some outcome)
  | expired {fallback rest budget fromTarget now span recorded} (late : deadline.deadline ≤ now) :
      Falls primaryError (fallback :: rest) budget fromTarget
        [.clock .isExpired now span, .record .deadlineExceeded recorded]
        (some (.error .deadlineExceeded))
  | skipped {fallback rest budget fromTarget now span trace outcome}
      (early : now < deadline.deadline) (unsupported : hopSupportsParams fallback params = false)
      (falls : Falls primaryError rest budget fromTarget trace outcome) :
      Falls primaryError (fallback :: rest) budget fromTarget
        (.clock .isExpired now span :: trace) outcome
  | dropped {fallback rest budget fromTarget now span recorded hop}
      (early : now < deadline.deadline) (supported : hopSupportsParams fallback params = true)
      (hops : Hops config fallback params deadline budget hop none) :
      Falls primaryError (fallback :: rest) budget fromTarget
        (.clock .isExpired now span ::
          .record (.fallback fromTarget fallback.targetId) recorded :: hop) none
  | succeeded {fallback rest budget fromTarget now span recorded hop result used}
      (early : now < deadline.deadline) (supported : hopSupportsParams fallback params = true)
      (hops : Hops config fallback params deadline budget hop (some (.ok result, used))) :
      Falls primaryError (fallback :: rest) budget fromTarget
        (.clock .isExpired now span ::
          .record (.fallback fromTarget fallback.targetId) recorded :: hop) (some (.ok result))
  | hopExpired {fallback rest budget fromTarget now span recorded hop used}
      (early : now < deadline.deadline) (supported : hopSupportsParams fallback params = true)
      (hops : Hops config fallback params deadline budget hop
        (some (.error .deadlineExceeded, used))) :
      Falls primaryError (fallback :: rest) budget fromTarget
        (.clock .isExpired now span ::
          .record (.fallback fromTarget fallback.targetId) recorded :: hop)
        (some (.error .deadlineExceeded))
  | ended {fallback rest budget fromTarget now span recorded hop error used trace terminal}
      (early : now < deadline.deadline) (supported : hopSupportsParams fallback params = true)
      (hops : Hops config fallback params deadline budget hop (some (.error error, used)))
      (leaves : Leaves deadline error trace (some terminal)) :
      Falls primaryError (fallback :: rest) budget fromTarget
        (.clock .isExpired now span ::
          .record (.fallback fromTarget fallback.targetId) recorded :: (hop ++ trace))
        (some (.error terminal))
  | ineligible {fallback rest budget fromTarget now span recorded hop error used trace finish
      outcome}
      (early : now < deadline.deadline) (supported : hopSupportsParams fallback params = true)
      (hops : Hops config fallback params deadline budget hop (some (.error error, used)))
      (leaves : Leaves deadline error trace none) (fatal : isFallbackEligible error = false)
      (finished : Finishes deadline primaryError finish outcome) :
      Falls primaryError (fallback :: rest) budget fromTarget
        (.clock .isExpired now span ::
          .record (.fallback fromTarget fallback.targetId) recorded :: (hop ++ (trace ++ finish)))
        (some outcome)
  | continued {fallback rest budget fromTarget now span recorded hop error used trace falls
      outcome}
      (early : now < deadline.deadline) (supported : hopSupportsParams fallback params = true)
      (hops : Hops config fallback params deadline budget hop (some (.error error, used)))
      (leaves : Leaves deadline error trace none) (eligible : isFallbackEligible error = true)
      (continued : Falls primaryError rest used fallback.targetId falls outcome) :
      Falls primaryError (fallback :: rest) budget fromTarget
        (.clock .isExpired now span ::
          .record (.fallback fromTarget fallback.targetId) recorded :: (hop ++ (trace ++ falls)))
        outcome

/-- A program that examines a failed hop ends the request or continues it. -/
theorem leaves_of_runs {Value : Type} {error : ExecutorError} (other : error ≠ .deadlineExceeded)
    {next : Option ExecutorError → Effect Value} {onTerminal : ExecutorError → Effect Value}
    (terminal : ∀ terminal, next (some terminal) = observeTerminal terminal >>= onTerminal)
    {trace : List Event} {outcome : Option Value}
    (run : (terminateForProviderMinimum error deadline >>= next).Runs trace outcome) :
    ∃ before after, trace = before ++ after ∧
      ((∃ terminal, Leaves deadline error before (some terminal) ∧
          (onTerminal terminal).Runs after outcome) ∨
        Leaves deadline error before none ∧ (next none).Runs after outcome) := by
  rw [runs_bind] at run
  rcases run with ⟨first, value, second, rfl, terminating, run⟩ | ⟨_, impossible⟩
  · cases value with
    | none =>
        exact ⟨first, second, rfl, .inr ⟨.spared other (ends_none_of_runs deadline terminating),
          run⟩⟩
    | some found =>
        rw [terminal, runs_bind] at run
        rcases run with ⟨before, value, after, rfl, observing, run⟩ | ⟨_, impossible⟩
        · obtain ⟨rfl, ended⟩ := ends_some_of_runs deadline terminating observing
          exact ⟨first ++ before, after, by rw [List.append_assoc],
            .inl ⟨_, .ended other ended, run⟩⟩
        · obtain ⟨impossible, _⟩ := runs_observeTerminal impossible
          cases impossible
  · obtain ⟨_, impossible, _⟩ := terminates_of_runs deadline impossible
    cases impossible

theorem falls_of_runs {primaryError : ExecutorError} {fallbackPlans : List RoutePlan}
    {budget : AttemptBudget} {fromTarget : String} {trace : List Event}
    {outcome : Option Outcome}
    (run : (tryFallbacks config params primaryError deadline fallbackPlans budget
      fromTarget).Runs trace outcome) :
    Falls config params deadline primaryError fallbackPlans budget fromTarget trace outcome := by
  induction fallbackPlans generalizing budget fromTarget trace with
  | nil =>
      obtain ⟨result, rfl, finished⟩ := finishes_of_runs deadline run
      exact .finished finished
  | cons fallback rest ih =>
      simp only [tryFallbacks, readClock] at run
      rw [runs_request_bind] at run
      obtain ⟨now, span, tail, rfl, run⟩ := run
      by_cases late : deadline.deadline ≤ now
      · simp only [RequestDeadline.isExpired, late, decide_true, if_true,
          runs_deadlineExceeded_bind, runs_pure] at run
        obtain ⟨recorded, _, rfl, rfl, rfl⟩ := run
        exact .expired late
      have early := Nat.lt_of_not_le late
      simp only [RequestDeadline.isExpired, late, decide_false, Bool.false_eq_true,
        if_false] at run
      by_cases unsupported : hopSupportsParams fallback params = false
      · rw [if_pos unsupported] at run
        exact .skipped early unsupported (ih run)
      have supported := eq_true_of_ne_false unsupported
      rw [if_neg unsupported, record, runs_request_bind] at run
      obtain ⟨_, recorded, tail, rfl, run⟩ := run
      rw [runs_bind] at run
      rcases run with ⟨hop, ⟨result, used⟩, after, rfl, hopping, run⟩ | ⟨rfl, hopping⟩
      · have hops := hops_of_runs config fallback params deadline hopping
        rcases result with error | result
        · by_cases expired : error = .deadlineExceeded
          · subst expired
            obtain ⟨rfl, rfl⟩ := run
            rw [List.append_nil]
            exact .hopExpired early supported hops
          · have examined : ∃ next : Option ExecutorError → Effect Outcome,
                (∀ terminal, next (some terminal) = observeTerminal terminal >>= fun ended =>
                  Pure.pure (Except.error ended)) ∧
                next none = (if isFallbackEligible error = true then
                    tryFallbacks config params primaryError deadline rest used fallback.targetId
                  else finishFallbacks deadline primaryError) ∧
                (terminateForProviderMinimum error deadline >>= next).Runs after outcome := by
              cases error with
              | deadlineExceeded => exact absurd rfl expired
              | _ => exact ⟨_, fun _ => rfl, rfl, run⟩
            obtain ⟨next, terminated, spared, run⟩ := examined
            obtain ⟨trace, finish, rfl, ⟨terminal, leaves, rfl, rfl⟩ | ⟨leaves, run⟩⟩ :=
              leaves_of_runs deadline expired terminated run
            · rw [List.append_nil]
              exact .ended early supported hops leaves
            · cases eligible : isFallbackEligible error with
              | true =>
                  simp only [spared, eligible, if_true] at run
                  exact .continued early supported hops leaves eligible (ih run)
              | false =>
                  simp only [spared, eligible, Bool.false_eq_true, if_false] at run
                  obtain ⟨result, rfl, finished⟩ := finishes_of_runs deadline run
                  exact .ineligible early supported hops leaves eligible finished
        · obtain ⟨rfl, rfl⟩ := run
          rw [List.append_nil]
          exact .succeeded early supported hops
      · exact .dropped early supported (hops_of_runs config fallback params deadline hopping)

/-- An execution is refused, ends at its primary hop, or continues with its fallbacks. -/
inductive Executes (payload : Json) : List Event → Option Outcome → Prop
  | expired {now span recorded} (late : deadline.deadline ≤ now) :
      Executes payload [.clock .isExpired now span, .record .deadlineExceeded recorded]
        (some (.error .deadlineExceeded))
  | invalid {now span error} (early : now < deadline.deadline)
      (rejected : extractParams payload = .error error) :
      Executes payload [.clock .isExpired now span] (some (.error error))
  | dropped {now span params hop} (early : now < deadline.deadline)
      (extracted : extractParams payload = .ok params)
      (hops : Hops config plan params deadline (.new config.maxTotalAttempts) hop none) :
      Executes payload (.clock .isExpired now span :: hop) none
  | succeeded {now span params hop result used} (early : now < deadline.deadline)
      (extracted : extractParams payload = .ok params)
      (hops : Hops config plan params deadline (.new config.maxTotalAttempts) hop
        (some (.ok result, used))) :
      Executes payload (.clock .isExpired now span :: hop) (some (.ok result))
  | hopExpired {now span params hop used} (early : now < deadline.deadline)
      (extracted : extractParams payload = .ok params)
      (hops : Hops config plan params deadline (.new config.maxTotalAttempts) hop
        (some (.error .deadlineExceeded, used))) :
      Executes payload (.clock .isExpired now span :: hop) (some (.error .deadlineExceeded))
  | ended {now span params hop error used trace terminal} (early : now < deadline.deadline)
      (extracted : extractParams payload = .ok params)
      (hops : Hops config plan params deadline (.new config.maxTotalAttempts) hop
        (some (.error error, used)))
      (leaves : Leaves deadline error trace (some terminal)) :
      Executes payload (.clock .isExpired now span :: (hop ++ trace)) (some (.error terminal))
  | ineligible {now span params hop error used trace} (early : now < deadline.deadline)
      (extracted : extractParams payload = .ok params)
      (hops : Hops config plan params deadline (.new config.maxTotalAttempts) hop
        (some (.error error, used)))
      (leaves : Leaves deadline error trace none) (fatal : isFallbackEligible error = false) :
      Executes payload (.clock .isExpired now span :: (hop ++ trace)) (some (.error error))
  | lateFallbacks {now span params hop error used trace later next recorded}
      (early : now < deadline.deadline) (extracted : extractParams payload = .ok params)
      (hops : Hops config plan params deadline (.new config.maxTotalAttempts) hop
        (some (.error error, used)))
      (leaves : Leaves deadline error trace none) (eligible : isFallbackEligible error = true)
      (late : deadline.deadline ≤ later) :
      Executes payload (.clock .isExpired now span :: (hop ++ (trace ++
        [.clock .isExpired later next, .record .deadlineExceeded recorded])))
        (some (.error .deadlineExceeded))
  | noFallbacks {now span params hop error used trace later next}
      (early : now < deadline.deadline) (extracted : extractParams payload = .ok params)
      (hops : Hops config plan params deadline (.new config.maxTotalAttempts) hop
        (some (.error error, used)))
      (leaves : Leaves deadline error trace none) (eligible : isFallbackEligible error = true)
      (pending : later < deadline.deadline) (empty : plan.fallbackPlans = []) :
      Executes payload (.clock .isExpired now span :: (hop ++ (trace ++
        [.clock .isExpired later next]))) (some (.error error))
  | fallbacks {now span params hop error used trace later next falls outcome}
      (early : now < deadline.deadline) (extracted : extractParams payload = .ok params)
      (hops : Hops config plan params deadline (.new config.maxTotalAttempts) hop
        (some (.error error, used)))
      (leaves : Leaves deadline error trace none) (eligible : isFallbackEligible error = true)
      (pending : later < deadline.deadline) (nonempty : plan.fallbackPlans ≠ [])
      (continued : Falls config params deadline error plan.fallbackPlans used plan.targetId falls
        outcome) :
      Executes payload (.clock .isExpired now span :: (hop ++ (trace ++
        .clock .isExpired later next :: falls))) outcome

theorem executes_of_runs {payload : Json} {trace : List Event} {outcome : Option Outcome}
    (run : (execute config plan payload deadline).Runs trace outcome) :
    Executes config plan deadline payload trace outcome := by
  unfold execute readClock at run
  rw [runs_request_bind] at run
  obtain ⟨now, span, tail, rfl, run⟩ := run
  by_cases late : deadline.deadline ≤ now
  · simp only [RequestDeadline.isExpired, late, decide_true, if_true,
      runs_deadlineExceeded_bind, runs_pure] at run
    obtain ⟨recorded, _, rfl, rfl, rfl⟩ := run
    exact .expired late
  have early := Nat.lt_of_not_le late
  simp only [RequestDeadline.isExpired, late, decide_false, Bool.false_eq_true, if_false] at run
  cases extracted : extractParams payload with
  | error error =>
      simp only [extracted, runs_pure] at run
      obtain ⟨rfl, rfl⟩ := run
      exact .invalid early extracted
  | ok params =>
      simp only [extracted] at run
      rw [runs_bind] at run
      rcases run with ⟨hop, ⟨result, used⟩, after, rfl, hopping, run⟩ | ⟨rfl, hopping⟩
      · have hops := hops_of_runs config plan params deadline hopping
        rcases result with error | result
        · by_cases expired : error = .deadlineExceeded
          · subst expired
            obtain ⟨rfl, rfl⟩ := run
            rw [List.append_nil]
            exact .hopExpired early extracted hops
          · have examined : ∃ next : Option ExecutorError → Effect Outcome,
                (∀ terminal, next (some terminal) = observeTerminal terminal >>= fun ended =>
                  Pure.pure (Except.error ended)) ∧
                next none = (if isFallbackEligible error = true then
                    executeFallbacks config plan.fallbackPlans params error deadline used
                      plan.targetId
                  else Pure.pure (Except.error error)) ∧
                (terminateForProviderMinimum error deadline >>= next).Runs after outcome := by
              cases error with
              | deadlineExceeded => exact absurd rfl expired
              | _ => exact ⟨_, fun _ => rfl, rfl, run⟩
            obtain ⟨next, terminated, spared, run⟩ := examined
            obtain ⟨trace, finish, rfl, ⟨terminal, leaves, rfl, rfl⟩ | ⟨leaves, proceed⟩⟩ :=
              leaves_of_runs deadline expired terminated run
            · rw [List.append_nil]
              exact .ended early extracted hops leaves
            · cases eligible : isFallbackEligible error with
              | false =>
                  simp only [spared, eligible, Bool.false_eq_true, if_false, runs_pure] at proceed
                  obtain ⟨rfl, rfl⟩ := proceed
                  rw [List.append_nil]
                  exact .ineligible early extracted hops leaves eligible
              | true =>
                  simp only [spared, eligible, if_true, executeFallbacks, readClock] at proceed
                  rw [runs_request_bind] at proceed
                  obtain ⟨later, next, tail, rfl, proceed⟩ := proceed
                  by_cases late : deadline.deadline ≤ later
                  · simp only [RequestDeadline.isExpired, late, decide_true, if_true,
                      runs_deadlineExceeded_bind, runs_pure] at proceed
                    obtain ⟨recorded, _, rfl, rfl, rfl⟩ := proceed
                    exact .lateFallbacks early extracted hops leaves eligible late
                  have pending := Nat.lt_of_not_le late
                  simp only [RequestDeadline.isExpired, late, decide_false, Bool.false_eq_true,
                    if_false, List.isEmpty_iff] at proceed
                  by_cases empty : plan.fallbackPlans = []
                  · rw [if_pos empty] at proceed
                    obtain ⟨rfl, rfl⟩ := proceed
                    exact .noFallbacks early extracted hops leaves eligible pending empty
                  · rw [if_neg empty] at proceed
                    exact .fallbacks early extracted hops leaves eligible pending empty
                      (falls_of_runs config params deadline proceed)
        · obtain ⟨rfl, rfl⟩ := run
          rw [List.append_nil]
          exact .succeeded early extracted hops
      · exact .dropped early extracted (hops_of_runs config plan params deadline hopping)

end Opmux.Executor
