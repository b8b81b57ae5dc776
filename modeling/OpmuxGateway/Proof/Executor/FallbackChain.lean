import OpmuxGateway.Proof.Executor.Metrics

/-
This file compares the fallback events of one execution with the hops that it evaluates.
-/

namespace Opmux.Executor
open Circuit (CircuitPermit CircuitAdmission)

def ExecutionEvent.fellBack : ExecutionEvent → Option (String × String)
  | .fallback fromTarget toTarget => some (fromTarget, toTarget)
  | _ => none

/-- The adjacent targets of the fallback events. -/
def fallbackEvents (trace : List Event) : List (String × String) :=
  (recorded trace).filterMap ExecutionEvent.fellBack

def askedTarget : Event → Option String
  | ⟨.admission plan, _, _⟩ => some plan.targetId
  | _ => none

/-- The targets whose circuits were asked for an admission. -/
def askedTargets (trace : List Event) : List String := trace.filterMap askedTarget

/-- The chain of a list pairs each target with the next one. -/
def chain : List String → List (String × String)
  | first :: second :: rest => (first, second) :: chain (second :: rest)
  | _ => []

theorem chain_length (first : String) (rest : List String) :
    (chain (first :: rest)).length = rest.length := by
  induction rest generalizing first with
  | nil => rfl
  | cons second rest ih => simp [chain, ih]

/-- A trace opens early when its first expiry check reads an instant before the deadline. -/
def OpensEarly (deadline : RequestDeadline) (trace : List Event) : Prop :=
  ∀ now span rest, trace = .clock .isExpired now span :: rest → now < deadline.deadline

/-- Every recorded fallback has a spare attempt, and the check of its hop is early. -/
def Entered (limit : Nat) (deadline : RequestDeadline) (used : Nat) (trace : List Event) : Prop :=
  ∀ before fromTarget toTarget span after,
    trace = before ++ .record (.fallback fromTarget toTarget) span :: after →
      used + (calls before).length < limit ∧ OpensEarly deadline after

/-- A plain event records no fallback and asks for no admission. -/
def Plain (event : Event) : Prop := fallbackEvents [event] = [] ∧ askedTarget event = none

section Entries

variable {limit used : Nat} {deadline : RequestDeadline}

theorem fallbackEvents_append (first second : List Event) :
    fallbackEvents (first ++ second) = fallbackEvents first ++ fallbackEvents second := by
  rw [fallbackEvents, recorded_append, List.filterMap_append]
  rfl

theorem askedTargets_append (first second : List Event) :
    askedTargets (first ++ second) = askedTargets first ++ askedTargets second :=
  List.filterMap_append

theorem Silent.plain {event : Event} (silent : Silent event) : Plain event := by
  obtain ⟨request, reply, stamp⟩ := event
  cases request with
  | record event =>
      cases event with
      | fallback fromTarget toTarget => exact silent.elim
      | _ => exact ⟨rfl, rfl⟩
  | call plan params cutoff => exact silent.elim
  | admission plan => exact silent.elim
  | settle permit outcome => exact silent.elim
  | dropPermit permit => exact silent.elim
  | _ => exact ⟨rfl, rfl⟩

/-- A trace without fallback events only takes its calls from the limit. -/
theorem entered_append {first second : List Event} (none : fallbackEvents first = []) :
    Entered limit deadline used (first ++ second) ↔
      Entered limit deadline (used + (calls first).length) second := by
  constructor
  · rintro entered before fromTarget toTarget span after rfl
    have opened := entered (first ++ before) fromTarget toTarget span after (by simp)
    rwa [calls_append, List.length_append, ← Nat.add_assoc] at opened
  · intro entered before fromTarget toTarget span after same
    rcases List.append_eq_append_iff.mp same with ⟨middle, rfl, rest⟩ | ⟨middle, rfl, rest⟩
    · have opened := entered middle fromTarget toTarget span after rest
      rwa [Nat.add_assoc, ← List.length_append, ← calls_append] at opened
    · cases middle with
      | nil =>
          have opened := entered [] fromTarget toTarget span after rest.symm
          rwa [List.append_nil] at opened
      | cons event middle =>
          obtain ⟨rfl, rfl⟩ := List.cons_eq_cons.mp rest
          rw [fallbackEvents_append] at none
          cases (List.append_eq_nil_iff.mp none).2

/-- A recorded fallback is entered when its own hop is entered. -/
theorem entered_fallback {fromTarget toTarget : String} {span : Span} {rest : List Event} :
    Entered limit deadline used (.record (.fallback fromTarget toTarget) span :: rest) ↔
      (used < limit ∧ OpensEarly deadline rest) ∧ Entered limit deadline used rest := by
  constructor
  · intro entered
    refine ⟨entered [] fromTarget toTarget span rest rfl, ?_⟩
    rintro before fromTarget' toTarget' span' after rfl
    exact entered (.record (.fallback fromTarget toTarget) span :: before) fromTarget' toTarget'
      span' after rfl
  · rintro ⟨first, entered⟩ before fromTarget' toTarget' span' after same
    cases before with
    | nil =>
        cases same
        exact first
    | cons event before =>
        obtain ⟨rfl, rfl⟩ := List.cons_eq_cons.mp same
        exact entered before fromTarget' toTarget' span' after rfl

/-- A trace without fallback events is entered. -/
theorem entered_none {trace : List Event} (none : fallbackEvents trace = []) :
    Entered limit deadline used trace := by
  have empty : Entered limit deadline (used + (calls trace).length) [] := by
    intro before fromTarget toTarget span after same
    simp at same
  simpa using (entered_append none).mpr empty

theorem plain_events {trace : List Event} (plain : ∀ event ∈ trace, Plain event) :
    fallbackEvents trace = [] ∧ askedTargets trace = [] := by
  induction trace with
  | nil => exact ⟨rfl, rfl⟩
  | cons event rest ih =>
      obtain ⟨recorded, asked⟩ := plain event (List.mem_cons_self ..)
      obtain ⟨others, later⟩ := ih fun event member => plain event (List.mem_cons_of_mem _ member)
      constructor
      · rw [← List.singleton_append, fallbackEvents_append, recorded, others]
        rfl
      · rw [askedTargets, List.filterMap_cons, asked]
        exact later

end Entries

section Loop

variable {config : ExecutorConfig} {plan : RoutePlan} {params : ExecutionParams}
  {deadline : RequestDeadline} {trace : List Event}

theorem plain_silent (silent : ∀ event ∈ trace, Silent event) : ∀ event ∈ trace, Plain event :=
  fun event member => (silent event member).plain

theorem LoopEvent.plain {event : Event} (inside : LoopEvent event) : Plain event := by
  rcases inside with silent | called
  · exact silent.plain
  · obtain ⟨request, reply, stamp⟩ := event
    cases request with
    | call plan params cutoff => exact ⟨rfl, rfl⟩
    | _ => exact absurd rfl called

/-- An evaluated hop asks its own circuit, and a refused hop asks none. -/
structure Evaluates (plan : RoutePlan) (deadline : RequestDeadline) (budget : AttemptBudget)
    (trace : List Event) : Prop where
  opened : ∃ now span rest, trace = .clock .isExpired now span :: rest
  unrecorded : fallbackEvents trace = []
  asked : (OpensEarly deadline trace ∧ budget.started.toNat < budget.maxTotal.toNat) ∧
      askedTargets trace = [plan.targetId] ∨
    ¬ (budget.started.toNat < budget.maxTotal.toNat ∧ OpensEarly deadline trace) ∧
      askedTargets trace = []

theorem Hops.evaluates {budget : AttemptBudget} {result : Option (Outcome × AttemptBudget)}
    (hops : Hops config plan params deadline budget trace result) :
    Evaluates plan deadline budget trace := by
  have opens : ∀ {now : Instant} {span : Span} {rest : List Event}, now < deadline.deadline →
      OpensEarly deadline (.clock .isExpired now span :: rest) := by
    intro now span rest early _ _ _ same
    cases same
    exact early
  have admitted : ∀ {now : Instant} {span asked : Span} {admission : CircuitAdmission}
      {attempts closing : List Event} {permit : CircuitPermit}, now < deadline.deadline →
      budget.started < budget.maxTotal → (∀ event ∈ attempts, Plain event) →
      Settles permit closing →
      Evaluates plan deadline budget (.clock .isExpired now span ::
        .admission plan admission asked :: (attempts ++ closing)) := by
    intro now span asked admission attempts closing permit early spare plain settles
    obtain ⟨unrecorded, unasked⟩ := plain_events plain
    have closed : fallbackEvents closing = [] ∧ askedTargets closing = [] := by
      cases settles <;> exact ⟨rfl, rfl⟩
    refine ⟨⟨_, _, _, rfl⟩, ?_, .inl ⟨⟨opens early, UInt32.lt_iff_toNat_lt.mp spare⟩, ?_⟩⟩
    · change fallbackEvents (attempts ++ closing) = []
      rw [fallbackEvents_append, unrecorded, closed.1]
      rfl
    · change plan.targetId :: askedTargets (attempts ++ closing) = _
      rw [askedTargets_append, unasked, closed.2]
      rfl
  have plain : ∀ {left : Nat} {attempts : List Event}
      {result : Option (Outcome × AttemptBudget)},
      Attempts config plan params deadline left 0 budget none none attempts result →
      ∀ event ∈ attempts, Plain event :=
    fun attempts event member => (attempts.loopEvents event member).plain
  cases hops with
  | expired late =>
      refine ⟨⟨_, _, _, rfl⟩, rfl, .inr ⟨fun ⟨_, early⟩ => ?_, rfl⟩⟩
      exact absurd (early _ _ _ rfl) (Nat.not_lt.mpr late)
  | spent early full =>
      refine ⟨⟨_, _, _, rfl⟩, rfl, .inr ⟨fun ⟨spare, _⟩ => ?_, rfl⟩⟩
      exact absurd spare (Nat.not_lt.mpr (UInt32.le_iff_toNat_le.mp full))
  | rejected early spare =>
      exact ⟨⟨_, _, _, rfl⟩, rfl, .inl ⟨⟨opens early, UInt32.lt_iff_toNat_lt.mp spare⟩, rfl⟩⟩
  | dropped early spare admits attempts =>
      exact admitted early spare (plain attempts) .released
  | settled early spare admits attempts settles =>
      exact admitted early spare (plain attempts) (settles_of_runs config admits settles).2

/-- A trace follows its fallbacks when its events are the chain exactly for entered hops. -/
structure Follows (limit : Nat) (deadline : RequestDeadline) (used : Nat) (fromTarget : String)
    (trace : List Event) : Prop where
  bounded : (askedTargets trace).length ≤ (fallbackEvents trace).length
  chained : fallbackEvents trace = chain (fromTarget :: askedTargets trace) ↔
    Entered limit deadline used trace

/-- A plain part passes its calls to the part after it. -/
theorem Follows.after {limit used : Nat} {fromTarget : String} {first second : List Event}
    (plain : ∀ event ∈ first, Plain event)
    (follows : Follows limit deadline (used + (calls first).length) fromTarget second) :
    Follows limit deadline used fromTarget (first ++ second) := by
  obtain ⟨unrecorded, unasked⟩ := plain_events plain
  constructor
  · rw [askedTargets_append, unasked, fallbackEvents_append, unrecorded]
    exact follows.bounded
  · rw [askedTargets_append, unasked, fallbackEvents_append, unrecorded,
      entered_append unrecorded]
    exact follows.chained

theorem follows_plain {limit used : Nat} {fromTarget : String}
    (plain : ∀ event ∈ trace, Plain event) : Follows limit deadline used fromTarget trace := by
  obtain ⟨unrecorded, unasked⟩ := plain_events plain
  refine ⟨by simp [unasked, unrecorded], ?_⟩
  rw [unasked, unrecorded]
  exact ⟨fun _ => entered_none unrecorded, fun _ => rfl⟩

/-- A fallback is followed exactly when its hop and its later fallbacks are. -/
theorem Evaluates.follows {budget : AttemptBudget} {fromTarget : String} {now : Instant}
    {span marked : Span} {hop rest : List Event} (evaluates : Evaluates plan deadline budget hop)
    (follows : Follows budget.maxTotal.toNat deadline
      (budget.started.toNat + (calls hop).length) plan.targetId rest) :
    Follows budget.maxTotal.toNat deadline budget.started.toNat fromTarget
      (.clock .isExpired now span ::
        .record (.fallback fromTarget plan.targetId) marked :: (hop ++ rest)) := by
  have check : ∀ event ∈ [Event.clock .isExpired now span], Plain event :=
    plain_silent (by simp)
  refine Follows.after check ?_
  change Follows _ _ budget.started.toNat _ _
  obtain ⟨later, beginning, tail, opened⟩ := evaluates.opened
  have early : OpensEarly deadline (hop ++ rest) ↔ OpensEarly deadline hop := by
    subst opened
    constructor
    · rintro early _ _ _ ⟨⟩
      exact early _ _ _ rfl
    · rintro early _ _ _ ⟨⟩
      exact early _ _ _ rfl
  have events : fallbackEvents
      (.record (.fallback fromTarget plan.targetId) marked :: (hop ++ rest)) =
        (fromTarget, plan.targetId) :: fallbackEvents rest := by
    change (fromTarget, plan.targetId) :: fallbackEvents (hop ++ rest) = _
    rw [fallbackEvents_append, evaluates.unrecorded]
    rfl
  have asked : askedTargets
      (.record (.fallback fromTarget plan.targetId) marked :: (hop ++ rest)) =
        askedTargets hop ++ askedTargets rest := askedTargets_append hop rest
  have bounded := follows.bounded
  rcases evaluates.asked with ⟨⟨opens, spare⟩, own⟩ | ⟨closed, own⟩
  · constructor
    · rw [events, asked, own]
      simpa using bounded
    · rw [events, asked, own, entered_fallback, entered_append evaluates.unrecorded, early]
      change (fromTarget, plan.targetId) :: fallbackEvents rest =
        (fromTarget, plan.targetId) :: chain (plan.targetId :: askedTargets rest) ↔ _
      rw [List.cons_eq_cons, follows.chained]
      exact ⟨fun same => ⟨⟨spare, opens⟩, same.2⟩, fun known => ⟨rfl, known.2⟩⟩
  · constructor
    · rw [events, asked, own]
      exact Nat.le_succ_of_le bounded
    · rw [events, asked, own, entered_fallback, early]
      constructor
      · intro same
        have lengths := congrArg List.length same
        rw [List.nil_append, chain_length, List.length_cons] at lengths
        omega
      · rintro ⟨opened, _⟩
        exact absurd opened closed

/-- A used budget passes its calls and its limit to the next hop. -/
theorem Hops.consumed {budget used : AttemptBudget} {outcome : Outcome}
    (hops : Hops config plan params deadline budget trace (some (outcome, used))) :
    Consumed budget used (calls trace).length := by
  obtain ⟨_, _, _, consumed⟩ := hops.blocks
  exact consumed outcome used rfl

theorem Falls.follows {primaryError : ExecutorError} {fallbackPlans : List RoutePlan}
    {budget : AttemptBudget} {fromTarget : String} {outcome : Option Outcome}
    (falls : Falls config params deadline primaryError fallbackPlans budget fromTarget trace
      outcome) :
    Follows budget.maxTotal.toNat deadline budget.started.toNat fromTarget trace := by
  have none : ∀ {used : Nat} {limit : Nat} {fromTarget : String},
      Follows limit deadline used fromTarget [] := follows_plain (by simp)
  induction falls with
  | finished finished => exact follows_plain (plain_silent finished.silent)
  | expired late => exact follows_plain (plain_silent (by simp))
  | @skipped fallback rest budget fromTarget now span trace outcome early unsupported falls ih =>
      have check : ∀ event ∈ [Event.clock .isExpired now span], Plain event :=
        plain_silent (by simp)
      exact Follows.after check ih
  | dropped early supported hops => simpa using hops.evaluates.follows none
  | succeeded early supported hops => simpa using hops.evaluates.follows none
  | hopExpired early supported hops => simpa using hops.evaluates.follows none
  | ended early supported hops leaves =>
      exact hops.evaluates.follows (follows_plain (plain_silent leaves.silent))
  | ineligible early supported hops leaves fatal finished =>
      exact hops.evaluates.follows
        (follows_plain (plain_silent (silent_append leaves.silent finished.silent)))
  | continued early supported hops leaves eligible continued ih =>
      have consumed := hops.consumed
      rw [consumed.maxTotal, consumed.started] at ih
      refine hops.evaluates.follows (Follows.after (plain_silent leaves.silent) ?_)
      rwa [calls_silent leaves.silent]

end Loop

/-- A primary hop that is left with an error has asked its own circuit. -/
theorem Hops.primary {config : ExecutorConfig} {plan : RoutePlan} {params : ExecutionParams}
    {deadline : RequestDeadline} {trace : List Event} {error : ExecutorError}
    {used : AttemptBudget} (other : error ≠ .deadlineExceeded)
    (hops : Hops config plan params deadline (.new config.maxTotalAttempts) trace
      (some (.error error, used))) : askedTargets trace = [plan.targetId] := by
  generalize same : some (Except.error error, used) = result at hops
  have evaluates := hops.evaluates
  cases hops with
  | expired late =>
      cases same
      exact absurd rfl other
  | spent early full =>
      exact absurd (AttemptBudget.new_spare config.maxTotalAttempts) (UInt32.not_lt.mpr full)
  | rejected early spare => rfl
  | dropped early spare admits attempts => cases same
  | settled early spare admits attempts settles =>
      rcases evaluates.asked with ⟨_, own⟩ | ⟨_, impossible⟩
      · exact own
      · cases impossible

section Request

variable {config : ExecutorConfig} {plan : RoutePlan} {params : ExecutionParams}
  {deadline : RequestDeadline} {trace : List Event} {limit : Nat}

/-- An execution without a fallback event asks for at most one admission. -/
theorem Evaluates.alone {budget : AttemptBudget} {hop rest : List Event}
    (evaluates : Evaluates plan deadline budget hop) (now : Instant) (span : Span)
    (plain : ∀ event ∈ rest, Plain event) :
    fallbackEvents (.clock .isExpired now span :: (hop ++ rest)) =
        chain (askedTargets (.clock .isExpired now span :: (hop ++ rest))) ↔
      Entered limit deadline 0 (.clock .isExpired now span :: (hop ++ rest)) := by
  obtain ⟨unrecorded, unasked⟩ := plain_events plain
  have events : fallbackEvents (.clock .isExpired now span :: (hop ++ rest)) = [] := by
    change fallbackEvents (hop ++ rest) = []
    rw [fallbackEvents_append, evaluates.unrecorded, unrecorded]
    rfl
  have single : chain (askedTargets (.clock .isExpired now span :: (hop ++ rest))) = [] := by
    change chain (askedTargets (hop ++ rest)) = []
    rw [askedTargets_append, unasked]
    rcases evaluates.asked with ⟨_, own⟩ | ⟨_, own⟩ <;> rw [own] <;> rfl
  exact ⟨fun _ => entered_none events, fun _ => events.trans single.symm⟩

/-- An asked primary hop starts the chain of its fallbacks. -/
theorem Evaluates.leads {budget : AttemptBudget} {hop rest : List Event}
    (evaluates : Evaluates plan deadline budget hop) (own : askedTargets hop = [plan.targetId])
    (now : Instant) (span : Span)
    (follows : Follows limit deadline (calls hop).length plan.targetId rest) :
    fallbackEvents (.clock .isExpired now span :: (hop ++ rest)) =
        chain (askedTargets (.clock .isExpired now span :: (hop ++ rest))) ↔
      Entered limit deadline 0 (.clock .isExpired now span :: (hop ++ rest)) := by
  have events : fallbackEvents (.clock .isExpired now span :: (hop ++ rest)) =
      fallbackEvents rest := by
    change fallbackEvents (hop ++ rest) = _
    rw [fallbackEvents_append, evaluates.unrecorded]
    rfl
  have asked : askedTargets (.clock .isExpired now span :: (hop ++ rest)) =
      plan.targetId :: askedTargets rest := by
    change askedTargets (hop ++ rest) = _
    rw [askedTargets_append, own]
    rfl
  have quiet : fallbackEvents (.clock .isExpired now span :: hop) = [] := evaluates.unrecorded
  have entered : Entered limit deadline 0 ((.clock .isExpired now span :: hop) ++ rest) ↔
      Entered limit deadline (0 + (calls hop).length) rest := entered_append quiet
  rw [events, asked, follows.chained, ← Nat.zero_add (calls hop).length]
  exact entered.symm

theorem Executes.chained {payload : Json} {outcome : Option Outcome}
    (executes : Executes config plan deadline payload trace outcome) :
    fallbackEvents trace = chain (askedTargets trace) ↔
      Entered (AttemptBudget.new config.maxTotalAttempts).maxTotal.toNat deadline 0 trace := by
  have unmoved : ∀ {trace : List Event}, (∀ event ∈ trace, Plain event) →
      (fallbackEvents trace = chain (askedTargets trace) ↔
        Entered (AttemptBudget.new config.maxTotalAttempts).maxTotal.toNat deadline 0 trace) := by
    intro trace plain
    obtain ⟨unrecorded, unasked⟩ := plain_events plain
    rw [unrecorded, unasked]
    exact ⟨fun _ => entered_none unrecorded, fun _ => rfl⟩
  have noEvent : ∀ event ∈ ([] : List Event), Plain event := by simp
  cases executes with
  | expired late => exact unmoved (plain_silent (by simp))
  | invalid early rejected => exact unmoved (plain_silent (by simp))
  | @dropped now span params hop early extracted hops =>
      simpa using hops.evaluates.alone now span noEvent
  | @succeeded now span params hop result used early extracted hops =>
      simpa using hops.evaluates.alone now span noEvent
  | @hopExpired now span params hop used early extracted hops =>
      simpa using hops.evaluates.alone now span noEvent
  | @ended now span params hop error used trace terminal early extracted hops leaves =>
      exact hops.evaluates.alone now span (plain_silent leaves.silent)
  | @ineligible now span params hop error used trace early extracted hops leaves fatal =>
      exact hops.evaluates.alone now span (plain_silent leaves.silent)
  | @lateFallbacks now span params hop error used trace later next marked early extracted hops
      leaves eligible late =>
      exact hops.evaluates.alone now span
        (plain_silent (silent_append leaves.silent (by simp)))
  | @noFallbacks now span params hop error used trace later next early extracted hops leaves
      eligible pending empty =>
      exact hops.evaluates.alone now span
        (plain_silent (silent_append leaves.silent (by simp)))
  | @fallbacks now span params hop error used trace later next falls outcome early extracted hops
      leaves eligible pending nonempty continued =>
      have consumed := hops.consumed
      have silent : ∀ event ∈ trace ++ [Event.clock .isExpired later next], Silent event :=
        silent_append leaves.silent (by simp)
      have follows := continued.follows
      rw [consumed.maxTotal, consumed.started] at follows
      have started : (AttemptBudget.new config.maxTotalAttempts).started.toNat +
          (calls hop).length = (calls hop).length +
            (calls (trace ++ [Event.clock .isExpired later next])).length := by
        rw [calls_silent silent]
        exact Nat.zero_add _
      rw [started] at follows
      have joined := Follows.after (plain_silent silent) follows
      rw [List.append_assoc] at joined
      exact hops.evaluates.leads (hops.primary leaves.other) now span joined

end Request

/-- The fallback events are the chain of the asked hops exactly when each recorded one is entered. -/
theorem fallback_events_chain (config : ExecutorConfig) (plan : RoutePlan) (payload : Json)
    (deadline : RequestDeadline) (trace : List Event) (outcome : Option Outcome)
    (run : (execute config plan payload deadline).Runs trace outcome) :
    fallbackEvents trace = chain (askedTargets trace) ↔
      Entered (max 1 config.maxTotalAttempts.toNat) deadline 0 trace := by
  have chained := (executes_of_runs config plan deadline run).chained
  have limit : (AttemptBudget.new config.maxTotalAttempts).maxTotal.toNat =
      max 1 config.maxTotalAttempts.toNat := max_one_toNat config.maxTotalAttempts
  rwa [limit] at chained

/-- A spare attempt evaluates the recorded fallback. -/
theorem fallback_events_chain_example :
    Entered 3 ⟨1000000000⟩ 0 (failoverProgram.drive Script.answer failoverScript).1 :=
  (fallback_events_chain ⟨10, 1, 3, 2000⟩ failoverPlan _ ⟨1000000000⟩ _ _
    (failoverProgram.runs_drive Script.answer failoverScript)).mp (by decide)

/-- The only attempt fails, and its fallback is recorded but never evaluated. -/
def spentProgram : Effect Outcome :=
  execute ⟨10, 0, 1, 2000⟩ failoverPlan (.object [("messages", .array [])]) ⟨1000000000⟩

def spentScript : Script := ⟨0, [.ready (.error (.networkError "reset"))]⟩

theorem spent_fallback_recorded :
    ¬ ∀ config plan payload deadline trace outcome,
      (execute config plan payload deadline).Runs trace outcome →
        fallbackEvents trace = chain (askedTargets trace) := by
  intro always
  have chained := always ⟨10, 0, 1, 2000⟩ failoverPlan (.object [("messages", .array [])])
    ⟨1000000000⟩ _ _ (spentProgram.runs_drive Script.answer spentScript)
  have recorded : fallbackEvents (spentProgram.drive Script.answer spentScript).1 =
    [("a", "b")] := by decide
  have asked : askedTargets (spentProgram.drive Script.answer spentScript).1 = ["a"] := by decide
  rw [recorded, asked] at chained
  cases chained

end Opmux.Executor
