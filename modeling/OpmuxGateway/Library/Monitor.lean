import OpmuxGateway.Library.Observer
import OpmuxGateway.Library.Outcomes

/-
This file gives monitors, which follow an interactive program through its replies.
-/

/-- A monitor allows each request in its state and moves with each reply. -/
structure Monitor (State Request : Type) (Reply : Request → Type) where
  step : State → (request : Request) → Reply request → State
  allowed : State → Request → Prop

namespace Monitor

variable {State Request : Type} {Reply : Request → Type} {Stamp : Type}

/-- A monitor reads the request and the reply of an exchange. -/
def read (monitor : Monitor State Request Reply) (state : State)
    (exchange : Exchange Request Reply Stamp) : State :=
  monitor.step state exchange.request exchange.reply

def permits (monitor : Monitor State Request Reply) (state : State)
    (exchange : Exchange Request Reply Stamp) : Prop :=
  monitor.allowed state exchange.request

/-- A request is still when it is allowed and no reply moves the monitor. -/
def Still (monitor : Monitor State Request Reply) (state : State) (request : Request) : Prop :=
  monitor.allowed state request ∧ ∀ reply, monitor.step state request reply = state

/-- The monitor of a larger set of requests follows the embedded ones. -/
def embedded {Outer : Type} {OuterReply : Outer → Type}
    (monitor : Monitor State Outer OuterReply) (inject : Request → Outer)
    (replies : ∀ request, OuterReply (inject request) ≃ Reply request) :
    Monitor State Request Reply where
  step state request reply := monitor.step state (inject request) ((replies request).symm reply)
  allowed state request := monitor.allowed state (inject request)

end Monitor

namespace Program

variable {State Request : Type} {Reply : Request → Type} {Stamp Value Result : Type}

/-- Each run of an obedient program is allowed and ends in its postcondition. -/
def Obeys (monitor : Monitor State Request Reply) (state : State)
    (program : Program Request Reply Value) (post : State → Option Value → Prop) : Prop :=
  match program with
  | .pure value => post state (some value)
  | .halt => post state none
  | .ask request next => monitor.allowed state request ∧
      ∀ reply, (next reply).Obeys monitor (monitor.step state request reply) post

variable {monitor : Monitor State Request Reply} {state : State}
  {program : Program Request Reply Value} {post : State → Option Value → Prop}

@[simp] theorem obeys_pure {value : Value} :
    (Pure.pure value : Program Request Reply Value).Obeys monitor state post ↔
      post state (some value) := Iff.rfl

@[simp] theorem obeys_halt :
    (halt : Program Request Reply Value).Obeys monitor state post ↔ post state none := Iff.rfl

@[simp] theorem obeys_request {asked : Request} {post : State → Option (Reply asked) → Prop} :
    (Program.request asked : Program Request Reply (Reply asked)).Obeys monitor state post ↔
      monitor.allowed state asked ∧
        ∀ reply, post (monitor.step state asked reply) (some reply) := Iff.rfl

theorem Obeys.mono {weaker : State → Option Value → Prop}
    (obeys : program.Obeys monitor state post)
    (weaken : ∀ last outcome, post last outcome → weaker last outcome) :
    program.Obeys monitor state weaker := by
  induction program generalizing state with
  | pure value => exact weaken _ _ obeys
  | halt => exact weaken _ _ obeys
  | ask request next ih => exact ⟨obeys.1, fun reply => ih reply (obeys.2 reply)⟩

/-- The second program starts where the first one ends, and a drop ends both. -/
def Continues (monitor : Monitor State Request Reply)
    (next : Value → Program Request Reply Result) (post : State → Option Result → Prop)
    (state : State) : Option Value → Prop
  | some value => (next value).Obeys monitor state post
  | none => post state none

theorem obeys_bind {next : Value → Program Request Reply Result}
    {last : State → Option Result → Prop} :
    (program >>= next).Obeys monitor state last ↔
      program.Obeys monitor state (Continues monitor next last) := by
  change (program.bind next).Obeys monitor state last ↔ _
  induction program generalizing state with
  | pure value => rfl
  | halt => rfl
  | ask request rest ih =>
      apply and_congr Iff.rfl
      apply forall_congr'
      intro reply
      exact ih reply

/-- A sequence obeys when each end of its first program lets the second one obey. -/
theorem Obeys.bind {next : Value → Program Request Reply Result}
    {last : State → Option Result → Prop} (first : program.Obeys monitor state post)
    (dropped : ∀ later, post later none → last later none)
    (second : ∀ later value, post later (some value) →
      (next value).Obeys monitor later last) :
    (program >>= next).Obeys monitor state last := by
  apply obeys_bind.mpr
  apply first.mono
  intro later outcome ended
  cases outcome with
  | none => exact dropped later ended
  | some value => exact second later value ended

/-- A bind after one request obeys for each of its replies. -/
theorem obeys_request_bind {asked : Request} {next : Reply asked → Program Request Reply Result}
    {last : State → Option Result → Prop} :
    (Program.request asked >>= next).Obeys monitor state last ↔ monitor.allowed state asked ∧
      ∀ reply, (next reply).Obeys monitor (monitor.step state asked reply) last := Iff.rfl

theorem obeys_attempt {post : State → Option (Option Value) → Prop} :
    program.attempt.Obeys monitor state post ↔
      program.Obeys monitor state fun later outcome => post later (some outcome) := by
  induction program generalizing state with
  | pure value => rfl
  | halt => rfl
  | ask request next ih =>
      apply and_congr Iff.rfl
      apply forall_congr'
      intro reply
      exact ih reply

/-- A dropped program ends with its cleanup. -/
theorem Obeys.onDrop {cleanup : Program Request Reply Unit}
    {last : State → Option Value → Prop} (first : program.Obeys monitor state post)
    (finished : ∀ later value, post later (some value) → last later (some value))
    (cleaned : ∀ later, post later none →
      cleanup.Obeys monitor later fun final _ => last final none) :
    (program.onDrop cleanup).Obeys monitor state last := by
  induction program generalizing state with
  | pure value => exact finished state value first
  | halt =>
      apply Obeys.bind (cleaned state first)
      · intro later ended
        exact ended
      · intro later _ ended
        exact ended
  | ask request next ih => exact ⟨first.1, fun reply => ih reply (first.2 reply)⟩

theorem obeys_embed {Outer : Type} {OuterReply : Outer → Type} {inject : Request → Outer}
    {replies : ∀ request, OuterReply (inject request) ≃ Reply request}
    {monitor : Monitor State Outer OuterReply}
    (obeys : program.Obeys (monitor.embedded inject replies) state post) :
    (program.embed inject replies).Obeys monitor state post := by
  induction program generalizing state with
  | pure value => exact obeys
  | halt => exact obeys
  | ask request next ih =>
      refine ⟨obeys.1, fun reply => ih _ ?_⟩
      have same : (monitor.embedded inject replies).step state request (replies request reply) =
          monitor.step state (inject request) reply := by
        simp [Monitor.embedded]
      rw [← same]
      exact obeys.2 (replies request reply)

theorem Asks.mono {allowed wider : Request → Prop} (asks : program.Asks allowed)
    (widen : ∀ request, allowed request → wider request) : program.Asks wider := by
  induction program with
  | pure value => trivial
  | halt => trivial
  | ask request next ih => exact ⟨widen request asks.1, fun reply => ih reply (asks.2 reply)⟩

theorem asks_onDrop {allowed : Request → Prop} {cleanup : Program Request Reply Unit}
    (asks : program.Asks allowed) (cleans : cleanup.Asks allowed) :
    (program.onDrop cleanup).Asks allowed := by
  induction program with
  | pure value => trivial
  | halt => exact asks_bind cleans fun _ => trivial
  | ask request next ih => exact ⟨asks.1, fun reply => ih reply (asks.2 reply)⟩

theorem asks_attempt {allowed : Request → Prop} (asks : program.Asks allowed) :
    program.attempt.Asks allowed := by
  induction program with
  | pure value => trivial
  | halt => trivial
  | ask request next ih => exact ⟨asks.1, fun reply => ih reply (asks.2 reply)⟩

/-- A program that asks only still requests leaves the monitor where it is. -/
theorem Asks.obeys {possible : Value → Prop} (asks : program.Asks (monitor.Still state))
    (returns : program.Returns possible) :
    program.Obeys monitor state fun later outcome =>
      later = state ∧ ∀ value, outcome = some value → possible value := by
  induction returns with
  | pure found =>
      refine ⟨rfl, ?_⟩
      rintro _ ⟨⟩
      exact found
  | halt =>
      refine ⟨rfl, ?_⟩
      rintro _ ⟨⟩
  | ask _ ih =>
      refine ⟨asks.1.1, fun reply => ?_⟩
      rw [asks.1.2 reply]
      exact ih reply (asks.2 reply)

/-- The monitor allows each run of an obedient program and ends in its postcondition. -/
theorem Obeys.runs {trace : List (Exchange Request Reply Stamp)} {outcome : Option Value}
    (obeys : program.Obeys monitor state post) (run : program.Runs trace outcome) :
    Observer.Reads monitor.read monitor.permits state trace fun last => post last outcome := by
  induction program generalizing state trace with
  | pure value =>
      obtain ⟨rfl, rfl⟩ := run
      exact Observer.reads_nil.mpr obeys
  | halt =>
      obtain ⟨rfl, rfl⟩ := run
      exact Observer.reads_nil.mpr obeys
  | ask request next ih =>
      obtain ⟨reply, stamp, rest, rfl, later⟩ := run
      exact Observer.reads_cons.mpr ⟨obeys.1, ih reply (obeys.2 reply) later⟩

section Serving

variable {Environment : Type}
  {answer : Environment → (request : Request) → Reply request × Environment}
  {environment : Environment}

/-- The requests that a served program asks. -/
def asked (answer : Environment → (request : Request) → Reply request × Environment)
    (environment : Environment) (program : Program Request Reply Value) : List Request :=
  match program with
  | .pure _ | .halt => []
  | .ask request next =>
      request :: asked answer (answer environment request).2 (next (answer environment request).1)

theorem asked_bind {next : Value → Program Request Reply Result} :
    (program >>= next).asked answer environment = program.asked answer environment ++
      match program.serve answer environment with
      | (some value, later) => (next value).asked answer later
      | (none, _) => [] := by
  change (program.bind next).asked answer environment = _
  induction program generalizing environment with
  | pure value => rfl
  | halt => rfl
  | ask request rest ih => exact congrArg (request :: ·) (ih _)

theorem asked_attempt :
    program.attempt.asked answer environment = program.asked answer environment := by
  induction program generalizing environment with
  | pure value => rfl
  | halt => rfl
  | ask request next ih => exact congrArg (request :: ·) (ih _)

theorem serve_attempt : program.attempt.serve answer environment =
    (some (program.serve answer environment).1, (program.serve answer environment).2) := by
  induction program generalizing environment with
  | pure value => rfl
  | halt => rfl
  | ask request next ih => exact ih _

/-- Two environments that answer the allowed requests alike serve an obedient program alike. -/
theorem Obeys.serve_related {Related : State → Environment → Environment → Prop}
    {permitted : Request → Prop}
    (alike : ∀ state request first second, monitor.allowed state request → permitted request →
      Related state first second → ∃ reply firstLater secondLater,
        answer first request = (reply, firstLater) ∧
        answer second request = (reply, secondLater) ∧
        Related (monitor.step state request reply) firstLater secondLater)
    {first second : Environment} (obeys : program.Obeys monitor state post)
    (asks : ∀ request ∈ program.asked answer first, permitted request)
    (related : Related state first second) :
    ∃ outcome firstLast secondLast last, program.serve answer first = (outcome, firstLast) ∧
      program.serve answer second = (outcome, secondLast) ∧
      Related last firstLast secondLast ∧ post last outcome := by
  induction program generalizing state first second with
  | pure value => exact ⟨some value, first, second, state, rfl, rfl, related, obeys⟩
  | halt => exact ⟨none, first, second, state, rfl, rfl, related, obeys⟩
  | ask request next ih =>
      obtain ⟨reply, firstLater, secondLater, one, two, later⟩ :=
        alike state request first second obeys.1 (asks request List.mem_cons_self) related
      have rest : ∀ request ∈ (next reply).asked answer firstLater, permitted request := by
        intro other member
        refine asks other (List.mem_cons_of_mem _ ?_)
        rwa [one]
      rw [serve, serve, one, two]
      exact ih reply (obeys.2 reply) rest later

/-- A program that asks only allowed requests is served alike by two related environments. -/
theorem Asks.serve_related {Related : Environment → Environment → Prop}
    {allowed : Request → Prop} (asks : program.Asks allowed)
    (alike : ∀ request first second, allowed request → Related first second →
      ∃ reply firstLater secondLater, answer first request = (reply, firstLater) ∧
        answer second request = (reply, secondLater) ∧ Related firstLater secondLater)
    {first second : Environment} (related : Related first second) :
    ∃ outcome firstLast secondLast, program.serve answer first = (outcome, firstLast) ∧
      program.serve answer second = (outcome, secondLast) ∧ Related firstLast secondLast := by
  induction program generalizing first second with
  | pure value => exact ⟨some value, first, second, rfl, rfl, related⟩
  | halt => exact ⟨none, first, second, rfl, rfl, related⟩
  | ask request next ih =>
      obtain ⟨reply, firstLater, secondLater, one, two, later⟩ :=
        alike request first second asks.1 related
      rw [serve, serve, one, two]
      exact ih reply (asks.2 reply) later

/-- What each allowed answer keeps holds after an obedient program. -/
theorem Obeys.serve_keeps {Holds : State → Environment → Prop}
    (kept : ∀ state request environment, monitor.allowed state request →
      Holds state environment → Holds (monitor.step state request (answer environment request).1)
        (answer environment request).2)
    (obeys : program.Obeys monitor state post) (start : Holds state environment) :
    ∃ last, Holds last (program.serve answer environment).2 ∧
      post last (program.serve answer environment).1 := by
  induction program generalizing state environment with
  | pure value => exact ⟨state, start, obeys⟩
  | halt => exact ⟨state, start, obeys⟩
  | ask request next ih => exact ih _ (obeys.2 _) (kept state request environment obeys.1 start)

end Serving

end Program
