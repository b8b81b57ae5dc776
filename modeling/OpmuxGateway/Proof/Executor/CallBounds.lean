import OpmuxGateway.Proof.Executor.ExecutionDerivation
import OpmuxGateway.Proof.Executor.ScriptedEnvironment

/-
This file bounds the provider calls of one execution.
-/

namespace Opmux.Executor
open Circuit (CircuitPermit CircuitAdmission)

/-- A silent event reads a clock or entropy, waits, or records an attempt metric. -/
@[simp] def Silent : Event → Prop
  | ⟨.clock _, _, _⟩ | ⟨.entropy, _, _⟩ | ⟨.sleep _ _, _, _⟩ => True
  | ⟨.record (.fallback _ _), _, _⟩ => False
  | ⟨.record _, _, _⟩ => True
  | _ => False

/-- The plan of a call event. -/
def calledPlan : Event → Option RoutePlan
  | ⟨.call plan _ _, _, _⟩ => some plan
  | _ => none

/-- The plans of the started provider calls in their order. -/
def calls (trace : List Event) : List RoutePlan := trace.filterMap calledPlan

/-- A hop record keeps the admission of one hop and the calls after it. -/
structure HopRecord where
  plan : RoutePlan
  admission : CircuitAdmission
  calls : List RoutePlan

/-- An admission starts a record, and a call belongs to the newest record. -/
def observeHop (records : List HopRecord) : Event → List HopRecord
  | ⟨.admission plan, admission, _⟩ => ⟨plan, admission, []⟩ :: records
  | ⟨.call plan _ _, _, _⟩ =>
      match records with
      | [] => []
      | record :: rest => { record with calls := record.calls ++ [plan] } :: rest
  | _ => records

/-- The hop records of a trace, oldest first. -/
def hopRecords (trace : List Event) : List HopRecord := (trace.foldl observeHop []).reverse

/-- An allowed hop may retry, a probe calls once, and a rejected hop never calls. -/
def HopRecord.limit (config : ExecutorConfig) (record : HopRecord) : Nat :=
  match record.admission with
  | .allow _ => config.maxRetries.toNat + 1
  | .probe _ => 1
  | .reject _ => 0

theorem calls_append (first second : List Event) :
    calls (first ++ second) = calls first ++ calls second := List.filterMap_append

/-- A silent trace starts no call. -/
theorem calls_silent {trace : List Event} (silent : ∀ event ∈ trace, Silent event) :
    calls trace = [] := by
  rw [calls, List.filterMap_eq_nil_iff]
  intro event member
  have quiet := silent event member
  obtain ⟨request, reply, stamp⟩ := event
  cases request with
  | call plan params cutoff => exact quiet.elim
  | _ => rfl

/-- A silent trace changes no hop record. -/
theorem observeHop_silent {trace : List Event} (silent : ∀ event ∈ trace, Silent event)
    (records : List HopRecord) : trace.foldl observeHop records = records := by
  induction trace with
  | nil => rfl
  | cons event rest ih =>
      have quiet := silent event (List.mem_cons_self ..)
      have same : observeHop records event = records := by
        obtain ⟨request, reply, stamp⟩ := event
        cases request with
        | call plan params cutoff => exact quiet.elim
        | admission plan => exact quiet.elim
        | _ => rfl
      rw [List.foldl_cons, same]
      exact ih fun later member => silent later (List.mem_cons_of_mem event member)

section Silence

variable {config : ExecutorConfig} {plan : RoutePlan} {params : ExecutionParams}
  {deadline : RequestDeadline} {trace : List Event}

theorem silent_append {first second : List Event} (left : ∀ event ∈ first, Silent event)
    (right : ∀ event ∈ second, Silent event) : ∀ event ∈ first ++ second, Silent event := by
  intro event member
  rcases List.mem_append.mp member with early | late
  · exact left event early
  · exact right event late

theorem Ends.silent {error : ExecutorError} {result : Option ExecutorError}
    (ended : Ends deadline error trace result) : ∀ event ∈ trace, Silent event := by
  cases ended <;> simp

theorem Checks.silent {result : Option ExecutorError} (checked : Checks deadline trace result) :
    ∀ event ∈ trace, Silent event := by
  cases checked <;> simp

theorem Plans.silent {attempt ms : Nat} {retryAfterMs : Option Nat} {minimum : Bool}
    (planned : Plans config attempt retryAfterMs trace ms minimum) :
    ∀ event ∈ trace, Silent event := by
  cases planned with
  | minimum => simp
  | jitter jittered => cases jittered <;> simp

theorem Waits.silent {attempt : Nat} {lastError : Option ExecutorError}
    {retryAfterMs : Option Nat} {result : Option (Option ExecutorError)}
    (waited : Waits config plan deadline attempt lastError retryAfterMs trace result) :
    ∀ event ∈ trace, Silent event := by
  cases waited with
  | immediate planned zero checked =>
      apply silent_append planned.silent
      simpa using checked.silent
  | slept planned fits checked =>
      apply silent_append planned.silent
      simpa using checked.silent
  | elapsed planned fits => exact silent_append planned.silent (by simp)
  | dropped planned fits => exact silent_append planned.silent (by simp)
  | cannotFit planned long => exact silent_append planned.silent (by simp)
  | tooLong planned long => exact silent_append planned.silent (by simp)

theorem Prepares.silent {attempt : Nat} {lastError : Option ExecutorError}
    {retryAfterMs : Option Nat} {result : Option (Option ExecutorError)}
    (prepared : Prepares config plan deadline attempt lastError retryAfterMs trace result) :
    ∀ event ∈ trace, Silent event := by
  cases prepared with
  | first zero => simp
  | retry positive waited => exact waited.silent

theorem Continues.silent {error : ExecutorError} {step : AttemptStep}
    (continued : Continues deadline error trace step) : ∀ event ∈ trace, Silent event := by
  cases continued with
  | permanent fatal => simp
  | failed retryable spared => exact spared.silent
  | ended retryable terminated => exact terminated.silent

theorem Examines.silent {reply : CallReply} {attemptTimeout : Duration} {step : AttemptStep}
    (examined : Examines plan deadline reply attemptTimeout trace step) :
    ∀ event ∈ trace, Silent event := by
  cases examined with
  | expired late => simp
  | succeeded early ready => simp
  | failed early missed continued => simpa using continued.silent

theorem Retries.silent {attempt : Nat} (retried : Retries plan attempt trace) :
    ∀ event ∈ trace, Silent event := by
  cases retried <;> simp

theorem Finishes.silent {primaryError : ExecutorError} {outcome : Outcome}
    (finished : Finishes deadline primaryError trace outcome) : ∀ event ∈ trace, Silent event := by
  cases finished <;> simp

theorem Leaves.silent {error : ExecutorError} {result : Option ExecutorError}
    (leaves : Leaves deadline error trace result) : ∀ event ∈ trace, Silent event := by
  cases leaves with
  | ended other ended => exact ended.silent
  | spared other spared => exact spared.silent

/-- A started attempt has no call, or it has one call between silent events. -/
theorem Starts.shape {attempt : Nat} {budget : AttemptBudget}
    {result : Option (AttemptStep × AttemptBudget)}
    (start : Starts config plan params deadline attempt budget trace result) :
    ((∀ event ∈ trace, Silent event) ∧
        result = some (.finished (.error .deadlineExceeded), budget)) ∨
      (budget.started < budget.maxTotal ∧ ∃ before cutoff reply span after,
        trace = before ++ .call plan params cutoff reply span :: after ∧
        (∀ event ∈ before, Silent event) ∧ (∀ event ∈ after, Silent event) ∧
        ∀ step used, result = some (step, used) → used = budget.next) := by
  cases start with
  | noCutoff late =>
      left
      exact ⟨by simp, rfl⟩
  | @dropped now span retry later next called lost checked recorded early timed room retried =>
      right
      refine ⟨room, .clock .attemptCutoff now span :: (retry ++ [.clock .attemptTimeout later next]),
        callCutoff config deadline now, none, called, [.clock .isExpired lost checked,
          .record (.attempt plan.targetId
            (if deadline.isExpired lost then .deadline else .cancelled)) recorded],
        by simp, ?_, by simp, by simp⟩
      have tail : ∀ event ∈ [Event.clock .attemptTimeout later next], Silent event := by
        simp
      simpa using silent_append retried.silent tail
  | @examined now span retry later next reply called after step early timed room retried examined =>
      right
      refine ⟨room, .clock .attemptCutoff now span :: (retry ++ [.clock .attemptTimeout later next]),
        callCutoff config deadline now, some reply, called, after, by simp, ?_, examined.silent, ?_⟩
      · have tail : ∀ event ∈ [Event.clock .attemptTimeout later next], Silent event := by
          simp
        simpa using silent_append retried.silent tail
      · rintro _ _ ⟨⟩
        rfl

end Silence

/-- A used budget has started exactly the counted calls. -/
structure Consumed (budget used : AttemptBudget) (count : Nat) : Prop where
  maxTotal : used.maxTotal = budget.maxTotal
  started : used.started.toNat = budget.started.toNat + count

theorem Consumed.none (budget : AttemptBudget) : Consumed budget budget 0 := ⟨rfl, rfl⟩

theorem Consumed.next {budget : AttemptBudget} (room : budget.started < budget.maxTotal) :
    Consumed budget budget.next 1 :=
  ⟨rfl, saturatingAdd_one (UInt32.lt_iff_toNat_lt.mp room)⟩

theorem Consumed.trans {budget middle used : AttemptBudget} {first second : Nat}
    (left : Consumed budget middle first) (right : Consumed middle used second) :
    Consumed budget used (first + second) :=
  ⟨right.maxTotal.trans left.maxTotal, by rw [right.started, left.started, Nat.add_assoc]⟩

/-- The calls of one attempt loop belong to its plan and stay inside its limits. -/
structure Counted (plan : RoutePlan) (budget : AttemptBudget) (trace : List Event)
    (result : Option (Outcome × AttemptBudget)) (count : Nat) : Prop where
  calls : calls trace = List.replicate count plan
  records : ∀ record rest, trace.foldl observeHop (record :: rest) =
    { record with calls := record.calls ++ List.replicate count plan } :: rest
  within : budget.started.toNat + count ≤ max budget.started.toNat budget.maxTotal.toNat
  used : ∀ outcome used, result = some (outcome, used) → Consumed budget used count

/-- A silent attempt loop counts no call. -/
theorem counted_silent {plan : RoutePlan} {budget : AttemptBudget} {trace : List Event}
    {result : Option (Outcome × AttemptBudget)} (silent : ∀ event ∈ trace, Silent event)
    (kept : ∀ outcome used, result = some (outcome, used) → used = budget) :
    Counted plan budget trace result 0 where
  calls := calls_silent silent
  records record rest := by simp [observeHop_silent silent]
  within := Nat.le_max_left ..
  used outcome used same := by
    rw [kept outcome used same]
    exact .none budget

/-- One call and the calls after it take one slot more. -/
theorem counted_call {plan : RoutePlan} {budget : AttemptBudget} (params : ExecutionParams)
    (cutoff : Instant) (reply : Option CallReply) (span : Span) {before after rest : List Event}
    {result : Option (Outcome × AttemptBudget)} {count : Nat}
    (room : budget.started < budget.maxTotal) (quiet : ∀ event ∈ before, Silent event)
    (still : ∀ event ∈ after, Silent event) (counted : Counted plan budget.next rest result count) :
    Counted plan budget (before ++ .call plan params cutoff reply span :: (after ++ rest)) result
      (count + 1) where
  calls := by
    rw [calls_append, calls_silent quiet, List.nil_append, calls, List.filterMap_cons]
    change plan :: calls (after ++ rest) = _
    rw [calls_append, calls_silent still, List.nil_append, counted.calls, List.replicate_succ]
  records record tail := by
    rw [List.foldl_append, observeHop_silent quiet, List.foldl_cons, List.foldl_append]
    change rest.foldl observeHop (after.foldl observeHop
      ({ record with calls := record.calls ++ [plan] } :: tail)) = _
    rw [observeHop_silent still, counted.records]
    simp [List.replicate_succ]
  within := by
    have within := counted.within
    have started := (Consumed.next room).started
    have below := UInt32.lt_iff_toNat_lt.mp room
    rw [started, (Consumed.next room).maxTotal] at within
    omega
  used outcome used same := by
    rw [Nat.add_comm]
    exact (Consumed.next room).trans (counted.used outcome used same)

section Bounds

variable {config : ExecutorConfig} {plan : RoutePlan} {params : ExecutionParams}
  {deadline : RequestDeadline} {trace : List Event}

/-- An attempt loop starts at most one call for each remaining attempt. -/
theorem Attempts.counted {left attempt : Nat} {budget : AttemptBudget}
    {lastError : Option ExecutorError} {retryAfterMs : Option Nat}
    {result : Option (Outcome × AttemptBudget)}
    (attempts : Attempts config plan params deadline left attempt budget lastError retryAfterMs
      trace result) : ∃ count, count ≤ left ∧ Counted plan budget trace result count := by
  induction attempts with
  | exhausted => exact ⟨0, Nat.le_refl 0, counted_silent (by simp) (by simp +contextual)⟩
  | expired late =>
      exact ⟨0, Nat.zero_le _, counted_silent (by simp) (by simp +contextual)⟩
  | spent early full =>
      exact ⟨0, Nat.zero_le _, counted_silent (by simp) (by simp +contextual)⟩
  | waitDropped early spare prepared =>
      refine ⟨0, Nat.zero_le _, counted_silent ?_ (by simp)⟩
      simpa using prepared.silent
  | waitEnded early spare prepared =>
      refine ⟨0, Nat.zero_le _, counted_silent ?_ (by simp +contextual)⟩
      simpa using prepared.silent
  | @callDropped left attempt budget lastError retryAfterMs now span trace started early spare
      prepared start =>
      rcases start.shape with ⟨_, impossible⟩ | ⟨room, before, cutoff, reply, called, after, rfl,
        quiet, still, _⟩
      · cases impossible
      · refine ⟨1, Nat.succ_pos left, ?_⟩
        have none : Counted plan budget.next [] (none : Option (Outcome × AttemptBudget)) 0 :=
          counted_silent (by simp) (by simp)
        have ready : ∀ event ∈ Event.clock .isExpired now span :: trace, Silent event := by
          simpa using prepared.silent
        have silent := silent_append ready quiet
        simpa using counted_call params cutoff reply called room silent still none
  | @finished left attempt budget lastError retryAfterMs now span trace started outcome used early
      spare prepared start =>
      rcases start.shape with ⟨silent, same⟩ | ⟨room, before, cutoff, reply, called, after, rfl,
        quiet, still, same⟩
      · refine ⟨0, Nat.zero_le _, counted_silent ?_ ?_⟩
        · simpa using silent_append prepared.silent silent
        · rintro _ _ ⟨⟩
          cases same
          rfl
      · refine ⟨1, Nat.succ_pos left, ?_⟩
        obtain rfl := same _ _ rfl
        have none : Counted plan budget.next [] (some (outcome, budget.next)) 0 :=
          counted_silent (by simp) (by simp +contextual)
        have ready : ∀ event ∈ Event.clock .isExpired now span :: trace, Silent event := by
          simpa using prepared.silent
        have silent := silent_append ready quiet
        simpa using counted_call params cutoff reply called room silent still none
  | @continued left attempt budget lastError retryAfterMs now span trace started error used rest
      result early spare prepared start continued ih =>
      obtain ⟨count, bounded, counted⟩ := ih
      rcases start.shape with ⟨_, same⟩ | ⟨room, before, cutoff, reply, called, after, rfl, quiet,
        still, same⟩
      · cases same
      · obtain rfl := same _ _ rfl
        refine ⟨count + 1, Nat.succ_le_succ bounded, ?_⟩
        have ready : ∀ event ∈ Event.clock .isExpired now span :: trace, Silent event := by
          simpa using prepared.silent
        have silent := silent_append ready quiet
        simpa using counted_call params cutoff reply called room silent still counted

/-- An event of an attempt loop is silent or a call. -/
def LoopEvent (event : Event) : Prop := Silent event ∨ calledPlan event ≠ none

theorem Starts.loopEvents {attempt : Nat} {budget : AttemptBudget}
    {result : Option (AttemptStep × AttemptBudget)}
    (start : Starts config plan params deadline attempt budget trace result) :
    ∀ event ∈ trace, LoopEvent event := by
  rcases start.shape with ⟨silent, _⟩ | ⟨_, before, cutoff, reply, span, after, rfl, quiet, still, _⟩
  · exact fun event member => .inl (silent event member)
  · intro event member
    rcases List.mem_append.mp member with early | member
    · exact .inl (quiet event early)
    · rcases List.mem_cons.mp member with rfl | late
      · exact .inr (by simp [calledPlan])
      · exact .inl (still event late)

/-- An attempt loop neither asks for an admission, nor writes a permit, nor records a fallback. -/
theorem Attempts.loopEvents {left attempt : Nat} {budget : AttemptBudget}
    {lastError : Option ExecutorError} {retryAfterMs : Option Nat}
    {result : Option (Outcome × AttemptBudget)}
    (attempts : Attempts config plan params deadline left attempt budget lastError retryAfterMs
      trace result) : ∀ event ∈ trace, LoopEvent event := by
  have check : ∀ (now : Instant) (span : Span), LoopEvent (.clock .isExpired now span) :=
    fun now span => .inl trivial
  have quiet : ∀ {trace : List Event}, (∀ event ∈ trace, Silent event) →
      ∀ event ∈ trace, LoopEvent event := fun silent event member => .inl (silent event member)
  have joined : ∀ {first second : List Event}, (∀ event ∈ first, LoopEvent event) →
      (∀ event ∈ second, LoopEvent event) → ∀ event ∈ first ++ second, LoopEvent event :=
    fun left right event member => (List.mem_append.mp member).elim (left event) (right event)
  induction attempts with
  | exhausted => simp
  | expired late => exact quiet (by simp)
  | spent early full => exact quiet (by simp)
  | waitDropped early spare prepared =>
      exact List.forall_mem_cons.mpr ⟨check _ _, quiet prepared.silent⟩
  | waitEnded early spare prepared =>
      exact List.forall_mem_cons.mpr ⟨check _ _, quiet prepared.silent⟩
  | callDropped early spare prepared start =>
      exact List.forall_mem_cons.mpr
        ⟨check _ _, joined (quiet prepared.silent) start.loopEvents⟩
  | finished early spare prepared start =>
      exact List.forall_mem_cons.mpr
        ⟨check _ _, joined (quiet prepared.silent) start.loopEvents⟩
  | continued early spare prepared start continued ih =>
      exact List.forall_mem_cons.mpr
        ⟨check _ _, joined (quiet prepared.silent) (joined start.loopEvents ih)⟩

/-- The hop records of a trace own their calls and stay inside the budget. -/
structure Blocks (config : ExecutorConfig) (budget : AttemptBudget) (trace : List Event)
    (blocks : List HopRecord) : Prop where
  records : ∀ records, trace.foldl observeHop records = blocks.reverse ++ records
  calls : calls trace = blocks.flatMap HopRecord.calls
  owned : ∀ record ∈ blocks, ∀ called ∈ record.calls, called = record.plan
  limited : ∀ record ∈ blocks, record.calls.length ≤ record.limit config
  within : budget.started.toNat + (Executor.calls trace).length ≤
    max budget.started.toNat budget.maxTotal.toNat

/-- A silent trace has no hop record. -/
theorem blocks_silent (config : ExecutorConfig) (budget : AttemptBudget)
    (silent : ∀ event ∈ trace, Silent event) : Blocks config budget trace [] where
  records records := by simp [observeHop_silent silent]
  calls := calls_silent silent
  owned := by simp
  limited := by simp
  within := by
    rw [calls_silent silent]
    exact Nat.le_max_left ..

/-- The records of a second trace follow the records of the first one. -/
theorem Blocks.append {budget used : AttemptBudget} {first second : List Event}
    {left right : List HopRecord} (head : Blocks config budget first left)
    (consumed : Consumed budget used (Executor.calls first).length)
    (tail : Blocks config used second right) :
    Blocks config budget (first ++ second) (left ++ right) where
  records records := by
    rw [List.foldl_append, head.records, tail.records, List.reverse_append, List.append_assoc]
  calls := by rw [calls_append, head.calls, tail.calls, List.flatMap_append]
  owned record member := (List.mem_append.mp member).elim (head.owned record) (tail.owned record)
  limited record member :=
    (List.mem_append.mp member).elim (head.limited record) (tail.limited record)
  within := by
    have before := head.within
    have after := tail.within
    rw [consumed.started, consumed.maxTotal] at after
    rw [calls_append, List.length_append]
    omega

/-- A hop has one record of its plan unless its budget is empty or its deadline is over. -/
theorem Hops.blocks {budget : AttemptBudget} {result : Option (Outcome × AttemptBudget)}
    (hops : Hops config plan params deadline budget trace result) :
    ∃ blocks, Blocks config budget trace blocks ∧
      (blocks = [] ∧ (budget.maxTotal ≤ budget.started ∨
          result = some (.error .deadlineExceeded, budget)) ∨
        ∃ record, blocks = [record] ∧ record.plan = plan) ∧
      ∀ outcome used, result = some (outcome, used) →
        Consumed budget used (calls trace).length := by
  have admitted : ∀ {now span admission permit maxRetries settlement asked attempts closing}
      {result : Option (Outcome × AttemptBudget)},
      Admits config admission permit maxRetries settlement →
      Attempts config plan params deadline (maxRetries.toNat + 1) 0 budget none none attempts
        result → Settles permit closing →
      ∃ record, Blocks config budget (.clock .isExpired now span :: .admission plan admission asked ::
          (attempts ++ closing)) [record] ∧ record.plan = plan ∧
        ∀ outcome used, result = some (outcome, used) →
          Consumed budget used (calls (.clock .isExpired now span ::
            .admission plan admission asked :: (attempts ++ closing))).length := by
    intro now span admission permit maxRetries settlement asked attempts closing result admits
      attempting settles
    obtain ⟨count, bounded, counted⟩ := attempting.counted
    have ending : calls closing = [] ∧ ∀ records, closing.foldl observeHop records = records := by
      cases settles <;> exact ⟨rfl, fun _ => rfl⟩
    have called : calls (.clock .isExpired now span :: .admission plan admission asked ::
        (attempts ++ closing)) = List.replicate count plan := by
      change calls (attempts ++ closing) = _
      rw [calls_append, ending.1, List.append_nil, counted.calls]
    refine ⟨⟨plan, admission, List.replicate count plan⟩, ⟨?_, ?_, ?_, ?_, ?_⟩, rfl, ?_⟩
    · intro records
      simp only [List.foldl_cons, List.foldl_append]
      change closing.foldl observeHop
        (attempts.foldl observeHop (⟨plan, admission, []⟩ :: records)) = _
      rw [counted.records, ending.2]
      simp
    · rw [called]
      simp
    · simp +contextual [List.mem_replicate]
    · have limit : maxRetries.toNat + 1 ≤
          HopRecord.limit config ⟨plan, admission, List.replicate count plan⟩ := by
        cases admits <;> exact Nat.le_refl _
      simpa using Nat.le_trans bounded limit
    · rw [called, List.length_replicate]
      exact counted.within
    · intro outcome used same
      rw [called, List.length_replicate]
      exact counted.used outcome used same
  cases hops with
  | expired late =>
      refine ⟨[], blocks_silent config budget (by simp), .inl ⟨rfl, .inr rfl⟩, ?_⟩
      rintro _ _ ⟨⟩
      exact .none budget
  | spent early full =>
      refine ⟨[], blocks_silent config budget (by simp), .inl ⟨rfl, .inl full⟩, ?_⟩
      rintro _ _ ⟨⟩
      exact .none budget
  | @rejected now span retryAfterMs asked early spare =>
      refine ⟨[⟨plan, .reject retryAfterMs, []⟩],
        ⟨fun _ => rfl, rfl, by simp, by simp, Nat.le_max_left ..⟩, .inr ⟨_, rfl, rfl⟩, ?_⟩
      rintro _ _ ⟨⟩
      exact .none budget
  | dropped early spare admits attempts =>
      obtain ⟨record, held, own, consumed⟩ := admitted admits attempts .released
      exact ⟨[record], held, .inr ⟨record, rfl, own⟩, consumed⟩
  | settled early spare admits attempts settles =>
      obtain ⟨record, held, own, consumed⟩ :=
        admitted admits attempts (settles_of_runs config admits settles).2
      exact ⟨[record], held, .inr ⟨record, rfl, own⟩, consumed⟩

/-- An evaluated fallback has at most one record, which belongs to a supported plan. -/
theorem Hops.fallbackBlocks {budget : AttemptBudget} {fallback : RoutePlan} (fromTarget : String)
    (now : Instant) (span recorded : Span) {result : Option (Outcome × AttemptBudget)}
    (supported : hopSupportsParams fallback params = true)
    (hops : Hops config fallback params deadline budget trace result) :
    ∃ blocks, Blocks config budget (.clock .isExpired now span ::
        .record (.fallback fromTarget fallback.targetId) recorded :: trace) blocks ∧
      (blocks.map HopRecord.plan).Sublist [fallback] ∧
      (∀ record ∈ blocks, hopSupportsParams record.plan params = true) ∧
      ∀ outcome used, result = some (outcome, used) →
        Consumed budget used (calls (.clock .isExpired now span ::
          .record (.fallback fromTarget fallback.targetId) recorded :: trace)).length := by
  obtain ⟨blocks, held, shape, consumed⟩ := hops.blocks
  refine ⟨blocks, ⟨held.records, held.calls, held.owned, held.limited, held.within⟩, ?_, ?_,
    consumed⟩
  · rcases shape with ⟨rfl, _⟩ | ⟨record, rfl, rfl⟩ <;> simp
  · rcases shape with ⟨rfl, _⟩ | ⟨record, rfl, rfl⟩
    · simp
    · simpa using supported

/-- The fallback records belong to supported plans in catalog order. -/
theorem Falls.blocks {primaryError : ExecutorError} {fallbackPlans : List RoutePlan}
    {budget : AttemptBudget} {fromTarget : String} {result : Option Outcome}
    (falls : Falls config params deadline primaryError fallbackPlans budget fromTarget trace
      result) :
    ∃ blocks, Blocks config budget trace blocks ∧
      (blocks.map HopRecord.plan).Sublist fallbackPlans ∧
      ∀ record ∈ blocks, hopSupportsParams record.plan params = true := by
  have last : ∀ {fallback : RoutePlan} {rest : List RoutePlan} {fromTarget : String}
      {budget : AttemptBudget} {now : Instant} {span recorded : Span} {hop after : List Event}
      {outcome : Outcome} {used : AttemptBudget},
      hopSupportsParams fallback params = true →
      Hops config fallback params deadline budget hop (some (outcome, used)) →
      (∃ blocks, Blocks config used after blocks ∧ (blocks.map HopRecord.plan).Sublist rest ∧
        ∀ record ∈ blocks, hopSupportsParams record.plan params = true) →
      ∃ blocks, Blocks config budget (.clock .isExpired now span ::
          .record (.fallback fromTarget fallback.targetId) recorded :: (hop ++ after)) blocks ∧
        (blocks.map HopRecord.plan).Sublist (fallback :: rest) ∧
        ∀ record ∈ blocks, hopSupportsParams record.plan params = true := by
    intro fallback rest fromTarget budget now span recorded hop after outcome used supported hops
    rintro ⟨later, tail, ordered, able⟩
    obtain ⟨first, head, single, served, consumed⟩ := hops.fallbackBlocks fromTarget now span
      recorded supported
    refine ⟨first ++ later, head.append (consumed _ _ rfl) tail, ?_, ?_⟩
    · simpa using single.append ordered
    · intro record member
      exact (List.mem_append.mp member).elim (served record) (able record)
  have quiet : ∀ {budget : AttemptBudget} {trace : List Event} {rest : List RoutePlan},
      (∀ event ∈ trace, Silent event) →
      ∃ blocks, Blocks config budget trace blocks ∧ (blocks.map HopRecord.plan).Sublist rest ∧
        ∀ record ∈ blocks, hopSupportsParams record.plan params = true :=
    fun silent => ⟨[], blocks_silent config _ silent, List.nil_sublist _, by simp⟩
  have noEvent : ∀ event ∈ ([] : List Event), Silent event := by simp
  induction falls with
  | finished finished => exact quiet finished.silent
  | expired late => exact quiet (by simp)
  | skipped early unsupported falls ih =>
      obtain ⟨blocks, held, ordered, able⟩ := ih
      exact ⟨blocks, ⟨held.records, held.calls, held.owned, held.limited, held.within⟩,
        ordered.cons _, able⟩
  | dropped early supported hops =>
      obtain ⟨blocks, held, single, able, _⟩ := hops.fallbackBlocks _ _ _ _ supported
      exact ⟨blocks, held, single.trans (by simp), able⟩
  | succeeded early supported hops =>
      simpa using last supported hops (quiet noEvent)
  | hopExpired early supported hops =>
      simpa using last supported hops (quiet noEvent)
  | ended early supported hops leaves => exact last supported hops (quiet leaves.silent)
  | ineligible early supported hops leaves fatal finished =>
      exact last supported hops (quiet (silent_append leaves.silent finished.silent))
  | continued early supported hops leaves eligible falls ih =>
      obtain ⟨blocks, held, ordered, able⟩ := ih
      refine last supported hops ⟨[] ++ blocks, ?_, ordered, able⟩
      refine (blocks_silent config _ leaves.silent).append ?_ held
      rw [calls_silent leaves.silent]
      exact .none _

/-- A new budget has a slot. -/
theorem AttemptBudget.new_spare (maxTotal : UInt32) :
    (AttemptBudget.new maxTotal).started < (AttemptBudget.new maxTotal).maxTotal := by
  rw [UInt32.lt_iff_toNat_lt]
  change 0 < (max maxTotal 1).toNat
  rw [max_one_toNat]
  omega

/-- The records of an execution are the primary record and the fallback records. -/
theorem Executes.blocks {payload : Json} {result : Option Outcome}
    (executes : Executes config plan deadline payload trace result) :
    ∃ blocks, Blocks config (.new config.maxTotalAttempts) trace blocks ∧
      (blocks = [] ∨ ∃ record fallbacks, blocks = record :: fallbacks ∧ record.plan = plan ∧
        (fallbacks.map HopRecord.plan).Sublist plan.fallbackPlans ∧
        ∀ params, extractParams payload = .ok params →
          ∀ fallback ∈ fallbacks, hopSupportsParams fallback.plan params = true) := by
  have single : ∀ {params : ExecutionParams} {now : Instant} {span : Span} {hop : List Event}
      {result : Option (Outcome × AttemptBudget)},
      Hops config plan params deadline (.new config.maxTotalAttempts) hop result →
      ∃ blocks, Blocks config (.new config.maxTotalAttempts) (.clock .isExpired now span :: hop)
          blocks ∧
        (blocks = [] ∨ ∃ record fallbacks, blocks = record :: fallbacks ∧ record.plan = plan ∧
          (fallbacks.map HopRecord.plan).Sublist plan.fallbackPlans ∧
          ∀ params, extractParams payload = .ok params →
            ∀ fallback ∈ fallbacks, hopSupportsParams fallback.plan params = true) := by
    intro params now span hop result hops
    obtain ⟨blocks, held, shape, _⟩ := hops.blocks
    refine ⟨blocks, ⟨held.records, held.calls, held.owned, held.limited, held.within⟩, ?_⟩
    rcases shape with ⟨rfl, _⟩ | ⟨record, rfl, own⟩
    · exact .inl rfl
    · exact .inr ⟨record, [], rfl, own, by simp, by simp⟩
  have followed : ∀ {params : ExecutionParams} {now : Instant} {span : Span}
      {hop after : List Event} {error : ExecutorError} {used : AttemptBudget}
      {later : List HopRecord}, error ≠ .deadlineExceeded → extractParams payload = .ok params →
      Hops config plan params deadline (.new config.maxTotalAttempts) hop
        (some (.error error, used)) →
      Blocks config used after later → (later.map HopRecord.plan).Sublist plan.fallbackPlans →
      (∀ record ∈ later, hopSupportsParams record.plan params = true) →
      ∃ blocks, Blocks config (.new config.maxTotalAttempts)
          (.clock .isExpired now span :: (hop ++ after)) blocks ∧
        (blocks = [] ∨ ∃ record fallbacks, blocks = record :: fallbacks ∧ record.plan = plan ∧
          (fallbacks.map HopRecord.plan).Sublist plan.fallbackPlans ∧
          ∀ params, extractParams payload = .ok params →
            ∀ fallback ∈ fallbacks, hopSupportsParams fallback.plan params = true) := by
    intro params now span hop after error used later other extracted hops tail ordered able
    obtain ⟨blocks, held, shape, consumed⟩ := hops.blocks
    rcases shape with ⟨_, full | expired⟩ | ⟨record, rfl, own⟩
    · exact absurd (AttemptBudget.new_spare config.maxTotalAttempts) (UInt32.not_lt.mpr full)
    · cases expired
      exact absurd rfl other
    · have joined := held.append (consumed _ _ rfl) tail
      refine ⟨record :: later, ⟨joined.records, joined.calls, joined.owned, joined.limited,
        joined.within⟩, .inr ⟨record, later, rfl, own, ordered, ?_⟩⟩
      intro found same fallback member
      cases extracted.symm.trans same
      exact able fallback member
  have quiet : ∀ {budget : AttemptBudget} {trace : List Event},
      (∀ event ∈ trace, Silent event) → Blocks config budget trace [] :=
    fun silent => blocks_silent config _ silent
  cases executes with
  | expired late => exact ⟨[], quiet (by simp), .inl rfl⟩
  | invalid early rejected => exact ⟨[], quiet (by simp), .inl rfl⟩
  | dropped early extracted hops => exact single hops
  | succeeded early extracted hops => exact single hops
  | hopExpired early extracted hops => exact single hops
  | ended early extracted hops leaves =>
      exact followed leaves.other extracted hops (quiet leaves.silent) (by simp) (by simp)
  | ineligible early extracted hops leaves fatal =>
      exact followed leaves.other extracted hops (quiet leaves.silent) (by simp) (by simp)
  | lateFallbacks early extracted hops leaves eligible late =>
      exact followed leaves.other extracted hops
        (quiet (silent_append leaves.silent (by simp))) (by simp) (by simp)
  | noFallbacks early extracted hops leaves eligible pending empty =>
      exact followed leaves.other extracted hops
        (quiet (silent_append leaves.silent (by simp))) (by simp) (by simp)
  | @fallbacks now span params hop error used trace later next falls outcome early extracted hops
      leaves eligible pending nonempty continued =>
      obtain ⟨blocks, held, ordered, able⟩ := continued.blocks
      have checked : ∀ event ∈ [Event.clock .isExpired later next], Silent event := by
        simp
      have silent := silent_append leaves.silent checked
      have kept : Consumed used used (calls (trace ++ [.clock .isExpired later next])).length := by
        rw [calls_silent silent]
        exact .none used
      have joined := (blocks_silent config used silent).append kept held
      refine followed leaves.other extracted hops ?_ ordered able
      simpa using joined

end Bounds

/-- A skipped fallback passes its budget to the next one. -/
theorem tryFallbacks_skips {config : ExecutorConfig} {params : ExecutionParams}
    {primaryError : ExecutorError} {deadline : RequestDeadline} {skipped : RoutePlan}
    {rest : List RoutePlan} {budget : AttemptBudget} {fromTarget : String} {trace : List Event}
    {result : Option Outcome} (unsupported : hopSupportsParams skipped params = false)
    (run : (tryFallbacks config params primaryError deadline (skipped :: rest) budget
      fromTarget).Runs trace result) :
    calls trace = [] ∨ ∃ check after, trace = check :: after ∧
      (tryFallbacks config params primaryError deadline rest budget fromTarget).Runs after
        result := by
  simp only [tryFallbacks, readClock] at run
  rw [Program.runs_request_bind] at run
  obtain ⟨now, span, after, rfl, run⟩ := run
  by_cases late : deadline.deadline ≤ now
  · simp only [RequestDeadline.isExpired, late, decide_true, if_true,
      runs_deadlineExceeded_bind, Program.runs_pure] at run
    obtain ⟨recorded, _, rfl, rfl, rfl⟩ := run
    exact .inl rfl
  · simp only [RequestDeadline.isExpired, late, decide_false, Bool.false_eq_true, if_false] at run
    rw [if_pos unsupported] at run
    exact .inr ⟨_, after, rfl, run⟩

/-- A supported hop covers every requested token count. -/
theorem hopSupportsParams_le {plan : RoutePlan} {params : ExecutionParams} {requested : Int}
    (supported : hopSupportsParams plan params = true) (asked : params.maxTokens = some requested) :
    requested ≤ plan.maxOutputTokens.toNat := by
  simp only [hopSupportsParams, asked] at supported
  split at supported
  · simp only [Bool.and_eq_true, decide_eq_true_eq] at supported
    exact supported.2
  · omega

/-- An execution starts a bounded number of calls in catalog order, and only a call uses budget. -/
theorem execute_calls_bounded (config : ExecutorConfig) (plan : RoutePlan) (payload : Json)
    (deadline : RequestDeadline) (trace : List Event) (outcome : Option Outcome)
    (run : (execute config plan payload deadline).Runs trace outcome) :
    (calls trace).length ≤ max 1 config.maxTotalAttempts.toNat ∧
      calls trace = (hopRecords trace).flatMap HopRecord.calls ∧
      (∀ record ∈ hopRecords trace, record.calls.length ≤ record.limit config ∧
        ∀ called ∈ record.calls, called = record.plan) ∧
      (hopRecords trace = [] ∨ ∃ primary fallbacks, hopRecords trace = primary :: fallbacks ∧
        primary.plan = plan ∧ (fallbacks.map HopRecord.plan).Sublist plan.fallbackPlans ∧
        ∀ params requested, extractParams payload = .ok params →
          params.maxTokens = some requested → ∀ fallback ∈ fallbacks,
            requested ≤ fallback.plan.maxOutputTokens.toNat) ∧
      (∀ hop params budget hopTrace result used,
        (executeHop config hop params deadline budget).Runs hopTrace (some (result, used)) →
          used.maxTotal = budget.maxTotal ∧
            used.started.toNat = budget.started.toNat + (calls hopTrace).length) ∧
      ∀ skipped rest params primaryError budget fromTarget loopTrace result,
        hopSupportsParams skipped params = false →
        (tryFallbacks config params primaryError deadline (skipped :: rest) budget
          fromTarget).Runs loopTrace result →
        calls loopTrace = [] ∨ ∃ check after, loopTrace = check :: after ∧
          (tryFallbacks config params primaryError deadline rest budget fromTarget).Runs after
            result := by
  obtain ⟨blocks, held, shape⟩ := (executes_of_runs config plan deadline run).blocks
  have records : hopRecords trace = blocks := by
    rw [hopRecords, held.records, List.append_nil, List.reverse_reverse]
  rw [records]
  refine ⟨?_, held.calls, fun record member => ⟨held.limited record member,
    held.owned record member⟩, ?_, ?_, ?_⟩
  · have within := held.within
    have room := max_one_toNat config.maxTotalAttempts
    change 0 + _ ≤ max 0 (max config.maxTotalAttempts 1).toNat at within
    omega
  · refine shape.imp_right ?_
    rintro ⟨primary, fallbacks, same, own, ordered, able⟩
    refine ⟨primary, fallbacks, same, own, ordered, ?_⟩
    intro params requested extracted asked fallback member
    exact hopSupportsParams_le (able params extracted fallback member) asked
  · intro hop params budget hopTrace result used hopRun
    obtain ⟨_, _, _, consumed⟩ := (hops_of_runs config hop params deadline hopRun).blocks
    exact ⟨(consumed result used rfl).maxTotal, (consumed result used rfl).started⟩
  · intro skipped rest params primaryError budget fromTarget loopTrace result unsupported loopRun
    exact tryFallbacks_skips unsupported loopRun

/-- The first target fails twice, and the fallback target answers. -/
def failoverScript : Script :=
  ⟨0, [.ready (.error (.networkError "reset")), .ready (.error (.apiCallFailed "500")),
    .ready (.ok ⟨"hi", "assistant", "m", 1, 1, .finite 0, "stop"⟩)]⟩

def failoverPlan : RoutePlan := ⟨"openai", "a", "m", 100, [⟨"openai", "b", "n", 100, []⟩]⟩

def failoverProgram : Effect Outcome :=
  execute ⟨10, 1, 3, 2000⟩ failoverPlan
    (.object [("messages", .array []), ("max_tokens", .number (.posInt 7))]) ⟨1000000000⟩

theorem execute_calls_bounded_example :
    (calls (failoverProgram.drive Script.answer failoverScript).1).map RoutePlan.targetId =
        ["a", "a", "b"] ∧
      (calls (failoverProgram.drive Script.answer failoverScript).1).length ≤ 3 :=
  ⟨by decide, (execute_calls_bounded ⟨10, 1, 3, 2000⟩ failoverPlan _ ⟨1000000000⟩ _ _
    (failoverProgram.runs_drive Script.answer failoverScript)).1⟩

end Opmux.Executor
