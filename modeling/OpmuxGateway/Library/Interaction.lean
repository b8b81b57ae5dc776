import Mathlib

/-
This file gives interactive programs and the finite traces of their runs.
A program asks its environment for replies, and the environment may drop the program.
-/

/-- An interactive program returns a value, is dropped, or asks for one more reply. -/
inductive Program (Request : Type) (Reply : Request → Type) (Value : Type) where
  | pure (value : Value)
  | halt
  | ask (request : Request) (next : Reply request → Program Request Reply Value)

/-- An exchange is one request with its reply and the stamp of the environment. -/
structure Exchange (Request : Type) (Reply : Request → Type) (Stamp : Type) where
  request : Request
  reply : Reply request
  stamp : Stamp

/-- An embedded exchange keeps its reply and its stamp. -/
def Exchange.embed {Request Outer : Type} {Reply : Request → Type} {OuterReply : Outer → Type}
    {Stamp : Type} (inject : Request → Outer)
    (replies : ∀ request, OuterReply (inject request) ≃ Reply request)
    (exchange : Exchange Request Reply Stamp) : Exchange Outer OuterReply Stamp :=
  ⟨inject exchange.request, (replies exchange.request).symm exchange.reply, exchange.stamp⟩

namespace Program

variable {Request : Type} {Reply : Request → Type} {Stamp Value Result : Type}

/-- The second program starts with the value of the first one. -/
def bind (program : Program Request Reply Value) (next : Value → Program Request Reply Result) :
    Program Request Reply Result :=
  match program with
  | .pure value => next value
  | .halt => .halt
  | .ask request rest => .ask request fun reply => (rest reply).bind next

instance : Monad (Program Request Reply) where
  pure := .pure
  bind := bind

theorem bind_pure_same (program : Program Request Reply Value) : program.bind .pure = program := by
  induction program with
  | pure value => rfl
  | halt => rfl
  | ask request next ih =>
      rw [bind]
      congr
      funext reply
      exact ih reply

theorem bind_bind {Last : Type} (program : Program Request Reply Value)
    (first : Value → Program Request Reply Result) (second : Result → Program Request Reply Last) :
    (program.bind first).bind second = program.bind fun value => (first value).bind second := by
  induction program with
  | pure value => rfl
  | halt => rfl
  | ask request next ih =>
      simp only [bind]
      congr
      funext reply
      exact ih reply

instance : LawfulMonad (Program Request Reply) :=
  LawfulMonad.mk' _ bind_pure_same (fun _ _ => rfl) bind_bind

/-- This program asks for one reply and returns it. -/
def request (request : Request) : Program Request Reply (Reply request) := .ask request .pure

/-- A dropped program first runs its cleanup, and a finished one does not. -/
def onDrop (program : Program Request Reply Value) (cleanup : Program Request Reply Unit) :
    Program Request Reply Value :=
  match program with
  | .pure value => .pure value
  | .halt => cleanup.bind fun _ => .halt
  | .ask request next => .ask request fun reply => (next reply).onDrop cleanup

/-- An attempt survives the drop of its program. -/
def attempt (program : Program Request Reply Value) : Program Request Reply (Option Value) :=
  match program with
  | .pure value => .pure (some value)
  | .halt => .pure none
  | .ask request next => .ask request fun reply => (next reply).attempt

/-- An embedded program asks its requests inside a larger set of requests. -/
def embed {Outer : Type} {OuterReply : Outer → Type} (inject : Request → Outer)
    (replies : ∀ request, OuterReply (inject request) ≃ Reply request)
    (program : Program Request Reply Value) : Program Outer OuterReply Value :=
  match program with
  | .pure value => .pure value
  | .halt => .halt
  | .ask request next => .ask (inject request) fun reply =>
      (next (replies request reply)).embed inject replies

/-- A run records every exchange, and a dropped run has no value. -/
def Runs (program : Program Request Reply Value) (trace : List (Exchange Request Reply Stamp))
    (outcome : Option Value) : Prop :=
  match program with
  | .pure value => trace = [] ∧ outcome = some value
  | .halt => trace = [] ∧ outcome = none
  | .ask request next => ∃ reply stamp rest,
      trace = ⟨request, reply, stamp⟩ :: rest ∧ (next reply).Runs rest outcome

variable {trace : List (Exchange Request Reply Stamp)}

@[simp] theorem runs_pure {value : Value} {outcome : Option Value} :
    (Pure.pure value : Program Request Reply Value).Runs trace outcome ↔
      trace = [] ∧ outcome = some value := Iff.rfl

@[simp] theorem runs_halt {outcome : Option Value} :
    (halt : Program Request Reply Value).Runs trace outcome ↔ trace = [] ∧ outcome = none :=
  Iff.rfl

/-- A run of a bind splits into a run of the first program and a run of the second one. -/
theorem runs_bind {program : Program Request Reply Value}
    {next : Value → Program Request Reply Result} {outcome : Option Result} :
    (program >>= next).Runs trace outcome ↔
      (∃ before value after, trace = before ++ after ∧ program.Runs before (some value) ∧
        (next value).Runs after outcome) ∨
      (outcome = none ∧ program.Runs trace none) := by
  change (program.bind next).Runs trace outcome ↔ _
  induction program generalizing trace with
  | pure value =>
      simp only [bind, Runs, reduceCtorEq, and_false, or_false, Option.some.injEq]
      constructor
      · intro run
        exact ⟨[], value, trace, rfl, ⟨rfl, rfl⟩, run⟩
      · rintro ⟨_, _, after, rfl, ⟨rfl, rfl⟩, run⟩
        exact run
  | halt =>
      simp only [bind, Runs, reduceCtorEq, and_false, false_and, exists_false, false_or, and_true]
      exact And.comm
  | ask request rest ih =>
      simp only [bind, Runs, ih]
      constructor
      · rintro ⟨reply, stamp, tail, rfl, ⟨before, value, after, rfl, first, second⟩ |
          ⟨dropped, run⟩⟩
        · exact .inl ⟨⟨request, reply, stamp⟩ :: before, value, after, rfl,
            ⟨reply, stamp, before, rfl, first⟩, second⟩
        · exact .inr ⟨dropped, reply, stamp, tail, rfl, run⟩
      · rintro (⟨_, value, after, rfl, ⟨reply, stamp, before, rfl, first⟩, second⟩ |
          ⟨dropped, reply, stamp, tail, rfl, run⟩)
        · exact ⟨reply, stamp, before ++ after, rfl, .inl ⟨before, value, after, rfl, first, second⟩⟩
        · exact ⟨reply, stamp, tail, rfl, .inr ⟨dropped, run⟩⟩

/-- A sequence of two programs that can fail succeeds when both of them do. -/
theorem runs_except_bind_ok {Error : Type} {program : ExceptT Error (Program Request Reply) Value}
    {next : Value → ExceptT Error (Program Request Reply) Result} {result : Result} :
    Program.Runs (program >>= next).run trace (some (.ok result)) ↔
      ∃ before value after, trace = before ++ after ∧
        Program.Runs program.run before (some (.ok value)) ∧
        Program.Runs (next value).run after (some (.ok result)) := by
  change Program.Runs (program.run >>= ExceptT.bindCont next) trace (some (.ok result)) ↔ _
  rw [runs_bind]
  constructor
  · rintro (⟨before, value, after, split, first, second⟩ | ⟨dropped, _⟩)
    · cases value with
      | ok value => exact ⟨before, value, after, split, first, second⟩
      | error error =>
          obtain ⟨_, failed⟩ := second
          cases failed
    · cases dropped
  · rintro ⟨before, value, after, split, first, second⟩
    exact .inl ⟨before, .ok value, after, split, first, second⟩

/-- A program that cannot fail succeeds with its value. -/
theorem runs_except_lift_ok {Error : Type} {program : Program Request Reply Value}
    {value : Value} :
    Program.Runs (liftM program : ExceptT Error (Program Request Reply) Value).run trace
      (some (.ok value)) ↔ program.Runs trace (some value) := by
  change (program >>= fun value => Pure.pure (Except.ok value : Except Error Value)).Runs trace
    (some (.ok value)) ↔ _
  rw [runs_bind]
  constructor
  · rintro (⟨before, found, after, rfl, first, rfl, same⟩ | ⟨dropped, _⟩)
    · rw [Option.some.injEq, Except.ok.injEq] at same
      rwa [List.append_nil, same]
    · cases dropped
  · intro run
    exact .inl ⟨trace, value, [], (List.append_nil trace).symm, run, rfl, rfl⟩

/-- A single request always gets one reply. -/
@[simp] theorem runs_request {asked : Request} {outcome : Option (Reply asked)} :
    (Program.request asked : Program Request Reply (Reply asked)).Runs trace outcome ↔
      ∃ reply stamp, trace = [⟨asked, reply, stamp⟩] ∧ outcome = some reply := by
  simp only [Program.request, Runs]
  constructor
  · rintro ⟨reply, stamp, _, rfl, rfl, same⟩
    exact ⟨reply, stamp, rfl, same⟩
  · rintro ⟨reply, stamp, rfl, same⟩
    exact ⟨reply, stamp, [], rfl, rfl, same⟩

/-- A bind after one request starts with the exchange of that request. -/
theorem runs_request_bind {asked : Request} {next : Reply asked → Program Request Reply Result}
    {outcome : Option Result} :
    (Program.request asked >>= next).Runs trace outcome ↔
      ∃ reply stamp rest, trace = ⟨asked, reply, stamp⟩ :: rest ∧
        (next reply).Runs rest outcome := Iff.rfl

/-- A finished run needs no cleanup, and a dropped run ends with its cleanup. -/
theorem runs_onDrop {program : Program Request Reply Value}
    {cleanup : Program Request Reply Unit} {outcome : Option Value} :
    (program.onDrop cleanup).Runs trace outcome ↔
      (∃ value, outcome = some value ∧ program.Runs trace (some value)) ∨
      (outcome = none ∧ ∃ before after result, trace = before ++ after ∧
        program.Runs before none ∧ cleanup.Runs after result) := by
  induction program generalizing trace with
  | pure value =>
      simp only [onDrop, Runs, reduceCtorEq, and_false, false_and, exists_false, or_false,
        Option.some.injEq]
      constructor
      · rintro ⟨rfl, rfl⟩
        exact ⟨value, rfl, rfl, rfl⟩
      · rintro ⟨_, rfl, rfl, rfl⟩
        exact ⟨rfl, rfl⟩
  | halt =>
      simp only [onDrop, Runs, reduceCtorEq, and_false, exists_false, false_or]
      rw [show cleanup.bind (fun _ => (halt : Program Request Reply Value)) =
        (cleanup >>= fun _ => halt) from rfl, runs_bind]
      constructor
      · rintro (⟨before, value, after, rfl, first, rfl, rfl⟩ | ⟨rfl, run⟩)
        · exact ⟨rfl, [], before, some value, by simp, ⟨rfl, trivial⟩, first⟩
        · exact ⟨rfl, [], trace, none, rfl, ⟨rfl, trivial⟩, run⟩
      · rintro ⟨rfl, _, after, result, rfl, ⟨rfl, _⟩, run⟩
        cases result with
        | none => exact .inr ⟨rfl, run⟩
        | some value => exact .inl ⟨after, value, [], by simp, run, rfl, rfl⟩
  | ask request next ih =>
      simp only [onDrop, Runs, ih]
      constructor
      · rintro ⟨reply, stamp, rest, rfl, ⟨value, rfl, run⟩ |
          ⟨rfl, before, after, result, rfl, dropped, clean⟩⟩
        · exact .inl ⟨value, rfl, reply, stamp, rest, rfl, run⟩
        · exact .inr ⟨rfl, ⟨request, reply, stamp⟩ :: before, after, result, rfl,
            ⟨reply, stamp, before, rfl, dropped⟩, clean⟩
      · rintro (⟨value, rfl, reply, stamp, rest, rfl, run⟩ |
          ⟨rfl, _, after, result, rfl, ⟨reply, stamp, before, rfl, dropped⟩, clean⟩)
        · exact ⟨reply, stamp, rest, rfl, .inl ⟨value, rfl, run⟩⟩
        · exact ⟨reply, stamp, before ++ after, rfl,
            .inr ⟨rfl, before, after, result, rfl, dropped, clean⟩⟩

/-- An attempt has the trace of its program and always a value. -/
theorem runs_attempt {program : Program Request Reply Value} {outcome : Option (Option Value)} :
    program.attempt.Runs trace outcome ↔
      ∃ result, outcome = some result ∧ program.Runs trace result := by
  induction program generalizing trace with
  | pure value =>
      simp only [attempt, Runs]
      constructor
      · rintro ⟨rfl, rfl⟩
        exact ⟨some value, rfl, rfl, rfl⟩
      · rintro ⟨_, rfl, rfl, rfl⟩
        exact ⟨rfl, rfl⟩
  | halt =>
      simp only [attempt, Runs]
      constructor
      · rintro ⟨rfl, rfl⟩
        exact ⟨none, rfl, rfl, rfl⟩
      · rintro ⟨_, rfl, rfl, rfl⟩
        exact ⟨rfl, rfl⟩
  | ask request next ih =>
      simp only [attempt, Runs, ih]
      constructor
      · rintro ⟨reply, stamp, rest, rfl, result, rfl, run⟩
        exact ⟨result, rfl, reply, stamp, rest, rfl, run⟩
      · rintro ⟨result, rfl, reply, stamp, rest, rfl, run⟩
        exact ⟨reply, stamp, rest, rfl, result, rfl, run⟩

section Embed

variable {Outer : Type} {OuterReply : Outer → Type} {inject : Request → Outer}
  {replies : ∀ request, OuterReply (inject request) ≃ Reply request}

/-- A run of an embedded program is an embedded run. -/
theorem runs_embed {program : Program Request Reply Value}
    {trace : List (Exchange Outer OuterReply Stamp)} {outcome : Option Value} :
    (program.embed inject replies).Runs trace outcome ↔
      ∃ inner, trace = inner.map (Exchange.embed inject replies) ∧ program.Runs inner outcome := by
  induction program generalizing trace with
  | pure value =>
      simp only [embed, Runs]
      constructor
      · rintro ⟨rfl, rfl⟩
        exact ⟨[], rfl, rfl, rfl⟩
      · rintro ⟨_, rfl, rfl, rfl⟩
        exact ⟨rfl, rfl⟩
  | halt =>
      simp only [embed, Runs]
      constructor
      · rintro ⟨rfl, rfl⟩
        exact ⟨[], rfl, rfl, rfl⟩
      · rintro ⟨_, rfl, rfl, rfl⟩
        exact ⟨rfl, rfl⟩
  | ask request next ih =>
      simp only [embed, Runs, ih]
      constructor
      · rintro ⟨reply, stamp, _, rfl, inner, rfl, run⟩
        exact ⟨⟨request, replies request reply, stamp⟩ :: inner, by simp [Exchange.embed],
          replies request reply, stamp, inner, rfl, run⟩
      · rintro ⟨_, rfl, reply, stamp, inner, rfl, run⟩
        refine ⟨(replies request).symm reply, stamp, _, rfl, inner, rfl, ?_⟩
        rw [Equiv.apply_symm_apply]
        exact run

end Embed

/-- An environment answers each request and keeps its own state. -/
def drive {Environment : Type}
    (answer : Environment → (request : Request) → Reply request × Stamp × Environment)
    (environment : Environment) (program : Program Request Reply Value) :
    List (Exchange Request Reply Stamp) × Option Value :=
  match program with
  | .pure value => ([], some value)
  | .halt => ([], none)
  | .ask request next =>
      let (reply, stamp, later) := answer environment request
      let (trace, outcome) := drive answer later (next reply)
      (⟨request, reply, stamp⟩ :: trace, outcome)

/-- Every environment gives a run of every program. -/
theorem runs_drive {Environment : Type}
    (answer : Environment → (request : Request) → Reply request × Stamp × Environment)
    (environment : Environment) (program : Program Request Reply Value) :
    program.Runs (program.drive answer environment).1 (program.drive answer environment).2 := by
  induction program generalizing environment with
  | pure value => exact ⟨rfl, rfl⟩
  | halt => exact ⟨rfl, rfl⟩
  | ask request next ih =>
      exact ⟨(answer environment request).1, (answer environment request).2.1, _, rfl,
        ih _ _⟩

/-- Every exchange of a driven run is an answer of its environment. -/
theorem drive_answers {Environment : Type}
    (answer : Environment → (request : Request) → Reply request × Stamp × Environment)
    (environment : Environment) (program : Program Request Reply Value) :
    ∀ exchange ∈ (program.drive answer environment).1,
      ∃ state, exchange.reply = (answer state exchange.request).1 := by
  induction program generalizing environment with
  | pure value => simp [drive]
  | halt => simp [drive]
  | ask request next ih =>
      intro exchange member
      rcases List.mem_cons.mp member with rfl | later
      · exact ⟨environment, rfl⟩
      · exact ih _ _ exchange later

/-- A served program leaves its value and the last state of its environment. -/
def serve {Environment : Type}
    (answer : Environment → (request : Request) → Reply request × Environment)
    (environment : Environment) (program : Program Request Reply Value) :
    Option Value × Environment :=
  match program with
  | .pure value => (some value, environment)
  | .halt => (none, environment)
  | .ask request next =>
      let (reply, later) := answer environment request
      serve answer later (next reply)

section Serve

variable {Environment : Type}
  {answer : Environment → (request : Request) → Reply request × Environment}
  {environment : Environment}

@[simp] theorem serve_pure {value : Value} :
    (Pure.pure value : Program Request Reply Value).serve answer environment =
      (some value, environment) := rfl

@[simp] theorem serve_halt :
    (halt : Program Request Reply Value).serve answer environment = (none, environment) := rfl

@[simp] theorem serve_request {asked : Request} :
    (Program.request asked : Program Request Reply (Reply asked)).serve answer environment =
      (some (answer environment asked).1, (answer environment asked).2) := rfl

/-- The second program is served where the first one left the environment. -/
@[simp] theorem serve_bind {program : Program Request Reply Value}
    {next : Value → Program Request Reply Result} :
    (program >>= next).serve answer environment =
      match program.serve answer environment with
      | (some value, later) => (next value).serve answer later
      | (none, later) => (none, later) := by
  change (program.bind next).serve answer environment = _
  induction program generalizing environment with
  | pure value => rfl
  | halt => rfl
  | ask request rest ih => exact ih _

@[simp] theorem serve_except_pure {Error : Type} {value : Value} :
    Program.serve answer environment
        (Pure.pure value : ExceptT Error (Program Request Reply) Value).run =
      (some (.ok value), environment) := rfl

@[simp] theorem serve_except_throw {Error : Type} {error : Error} :
    Program.serve answer environment
        (throw error : ExceptT Error (Program Request Reply) Value).run =
      (some (.error error), environment) := rfl

/-- A known value needs no request. -/
@[simp] theorem serve_except_ok {Error : Type} {value : Value}
    {next : Value → ExceptT Error (Program Request Reply) Result} :
    Program.serve answer environment (ExceptT.mk (Pure.pure (.ok value)) >>= next).run =
      Program.serve answer environment (next value).run := rfl

@[simp] theorem serve_except_error {Error : Type} {error : Error}
    {next : Value → ExceptT Error (Program Request Reply) Result} :
    Program.serve answer environment (ExceptT.mk (Pure.pure (.error error)) >>= next).run =
      (some (.error error), environment) := rfl

/-- A program that cannot fail is served as it is. -/
@[simp] theorem serve_except_lift {Error : Type} {program : Program Request Reply Value} :
    Program.serve answer environment
        (liftM program : ExceptT Error (Program Request Reply) Value).run =
      match program.serve answer environment with
      | (some value, later) => (some (.ok value), later)
      | (none, later) => (none, later) := by
  change Program.serve answer environment
    (program >>= fun value => Pure.pure (Except.ok value : Except Error Value)) = _
  rw [serve_bind]
  rcases program.serve answer environment with ⟨_ | value, later⟩
  · rfl
  · rfl

/-- An error of the first program is the error of the sequence. -/
@[simp] theorem serve_except_bind {Error : Type}
    {program : ExceptT Error (Program Request Reply) Value}
    {next : Value → ExceptT Error (Program Request Reply) Result} :
    Program.serve answer environment (program >>= next).run =
      match Program.serve answer environment program.run with
      | (some (.ok value), later) => Program.serve answer later (next value).run
      | (some (.error error), later) => (some (.error error), later)
      | (none, later) => (none, later) := by
  change Program.serve answer environment (program.run >>= ExceptT.bindCont next) = _
  rw [serve_bind]
  rcases Program.serve answer environment program.run with ⟨_ | _ | value, later⟩
  · rfl
  · rfl
  · rfl

end Serve

/-- A program asks only allowed requests, whatever it is answered. -/
def Asks (allowed : Request → Prop) : Program Request Reply Value → Prop
  | .pure _ | .halt => True
  | .ask request next => allowed request ∧ ∀ reply, (next reply).Asks allowed

section Asks

variable {allowed : Request → Prop}

theorem asks_bind {program : Program Request Reply Value}
    {next : Value → Program Request Reply Result} (first : program.Asks allowed)
    (second : ∀ value, (next value).Asks allowed) : (program >>= next).Asks allowed := by
  change (program.bind next).Asks allowed
  induction program with
  | pure value => exact second value
  | halt => trivial
  | ask request rest ih => exact ⟨first.1, fun reply => ih reply (first.2 reply)⟩

theorem asks_request {asked : Request} (permitted : allowed asked) :
    (Program.request asked : Program Request Reply (Reply asked)).Asks allowed :=
  ⟨permitted, fun _ => trivial⟩

theorem asks_except_bind {Error : Type} {program : ExceptT Error (Program Request Reply) Value}
    {next : Value → ExceptT Error (Program Request Reply) Result}
    (first : Program.Asks allowed program.run)
    (second : ∀ value, Program.Asks allowed (next value).run) :
    Program.Asks allowed (program >>= next).run := by
  change Program.Asks allowed (program.run >>= ExceptT.bindCont next)
  apply asks_bind first
  intro result
  cases result with
  | error error => trivial
  | ok value => exact second value

/-- A known value needs no request. -/
theorem asks_except_ok {Error : Type} {value : Value}
    {next : Value → ExceptT Error (Program Request Reply) Result} :
    Program.Asks allowed (ExceptT.mk (Pure.pure (.ok value)) >>= next).run ↔
      Program.Asks allowed (next value).run := Iff.rfl

theorem asks_except_lift {Error : Type} {program : Program Request Reply Value}
    (asks : program.Asks allowed) :
    Program.Asks allowed (liftM program : ExceptT Error (Program Request Reply) Value).run :=
  asks_bind asks fun _ => trivial

/-- Every exchange of a run is a request that its program may ask. -/
theorem Asks.runs {program : Program Request Reply Value}
    {trace : List (Exchange Request Reply Stamp)} {outcome : Option Value}
    (asks : program.Asks allowed) (run : program.Runs trace outcome) :
    ∀ exchange ∈ trace, allowed exchange.request := by
  induction program generalizing trace with
  | pure value =>
      obtain ⟨rfl, -⟩ := run
      simp
  | halt =>
      obtain ⟨rfl, -⟩ := run
      simp
  | ask request next ih =>
      obtain ⟨reply, stamp, rest, rfl, later⟩ := run
      intro exchange member
      cases member with
      | head => exact asks.1
      | tail _ member => exact ih reply (asks.2 reply) later exchange member

/-- Each program asks only requests. -/
theorem asks_all (program : Program Request Reply Value) : program.Asks fun _ => True := by
  induction program with
  | pure value => trivial
  | halt => trivial
  | ask request next ih => exact ⟨trivial, ih⟩

/-- What each allowed answer keeps holds after a program that asks only those. -/
theorem serve_invariant {Environment : Type}
    {answer : Environment → (request : Request) → Reply request × Environment}
    (Holds : Environment → Prop)
    (kept : ∀ environment request, allowed request → Holds environment →
      Holds (answer environment request).2)
    {environment : Environment} {program : Program Request Reply Value}
    (asks : program.Asks allowed) (start : Holds environment) :
    Holds (program.serve answer environment).2 := by
  induction program generalizing environment with
  | pure value => exact start
  | halt => exact start
  | ask request next ih => exact ih _ (asks.2 _) (kept environment request asks.1 start)

end Asks

end Program
