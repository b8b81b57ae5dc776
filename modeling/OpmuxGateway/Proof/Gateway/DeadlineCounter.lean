import OpmuxGateway.Construction.Gateway.Protected
import OpmuxGateway.Proof.Auth.HandlerErrors
import OpmuxGateway.Proof.Executor.Metrics
import OpmuxGateway.Proof.Ingress.RequestErrors

/-
This file proves when the deadline counter agrees with the answer of a protected request.
-/

namespace Opmux.Gateway

open Auth (AuthContext AuthError AuthProgram AuthenticateError KeyHandlerFails fails_authenticate
  fails_createApiKey fails_listApiKeys fails_revokeApiKey)
open Executor (Genuine execute expiries)
open Ingress (IngressError IngressRequest IngressResponse IngressService ingressHandler
  parseIngressRequest processAdmitted)

def executionEvent : GatewayEvent → Option Executor.Event
  | ⟨.execution request, reply, span⟩ => some ⟨request, reply, span⟩
  | _ => none

/-- The events of the execution inside a trace. -/
def executions (trace : List GatewayEvent) : List Executor.Event := trace.filterMap executionEvent

/-- The number of the increments of the deadline counter. -/
def deadlineCount (trace : List GatewayEvent) : Nat := expiries (executions trace)

def ProtectedResponse.isDeadlineExceeded : ProtectedResponse → Bool
  | .failed error => error.code.asStr == "DEADLINE_EXCEEDED"
  | _ => false

/-- The counter is incremented once for an answered expiry and not at all otherwise. -/
def CountsExpiry (trace : List GatewayEvent) (outcome : Option ProtectedResponse) : Prop :=
  deadlineCount trace =
    if outcome.map ProtectedResponse.isDeadlineExceeded = some true then 1 else 0

/-- The authentication and the early check of the service notice an expiry without recording it. -/
def NoticesUnrecorded (deadline : Instant) : GatewayEvent → Prop
  | ⟨.clock .authIsExpired, (now : Nat), _⟩ => deadline ≤ now
  | ⟨.clock .ingressIsExpired, (now : Nat), _⟩ => deadline ≤ now
  | ⟨.timer .authentication _, (elapsed : Bool), _⟩ => elapsed = true
  | _ => False

/-- A quiet request neither notices an expiry nor records one. -/
def Quiet : GatewayRequest → Prop
  | .clock .authIsExpired | .clock .ingressIsExpired | .timer .authentication _
  | .execution _ => False
  | _ => True

/-- A trace counts what it answers, or it answers an expiry that it did not count. -/
inductive Reported (deadline : Instant) (trace : List GatewayEvent) (answered : Option Bool) :
    Prop
  | counted : (∀ event ∈ trace, ¬NoticesUnrecorded deadline event) →
      deadlineCount trace = (if answered = some true then 1 else 0) →
      Reported deadline trace answered
  | missed : (∃ event ∈ trace, NoticesUnrecorded deadline event) → answered = some true →
      deadlineCount trace = 0 → Reported deadline trace answered

/-- Each run of a reporting program is reported under the classification of its value. -/
def Reports {Value : Type} (deadline : Instant) (expiry : Value → Bool)
    (program : GatewayEffect Value) : Prop :=
  ∀ trace outcome, program.Runs trace outcome → (∀ event ∈ executions trace, Genuine event) →
    Reported deadline trace (outcome.map expiry)

section Rules

variable {Value Result : Type} {deadline : Instant} {trace first second : List GatewayEvent}
  {program : GatewayEffect Value} {next : Value → GatewayEffect Result}
  {expiry : Value → Bool} {last : Result → Bool} {possible : Value → Prop}

theorem executions_append : executions (first ++ second) = executions first ++ executions second :=
  List.filterMap_append

theorem deadlineCount_append :
    deadlineCount (first ++ second) = deadlineCount first + deadlineCount second := by
  rw [deadlineCount, executions_append, Executor.expiries_append]
  rfl

theorem notices_not_quiet {event : GatewayEvent} (quiet : Quiet event.request) :
    ¬NoticesUnrecorded deadline event := by
  obtain ⟨request, reply, span⟩ := event
  cases request with
  | clock site =>
      cases site with
      | authIsExpired | ingressIsExpired => exact quiet.elim
      | requestStart | processingStart | processingEnd => exact id
  | timer site limit =>
      cases site with
      | authentication => exact quiet.elim
      | request => exact id
  | _ => exact id

/-- A quiet trace holds no event of an execution and notices nothing. -/
theorem quiet_trace (deadline : Instant) (quiet : ∀ event ∈ trace, Quiet event.request) :
    (∀ event ∈ trace, ¬NoticesUnrecorded deadline event) ∧ executions trace = [] := by
  constructor
  · intro event member
    exact notices_not_quiet (quiet event member)
  · apply List.filterMap_eq_nil_iff.mpr
    rintro ⟨request, reply, span⟩ member
    have calm := quiet _ member
    cases request with
    | execution request => exact calm.elim
    | _ => rfl

/-- A report that answers no expiry leaves the report to what follows. -/
theorem Reported.after_silent {answered : Option Bool}
    (reported : Reported deadline second answered)
    (silent : Reported deadline first (some false)) :
    Reported deadline (first ++ second) answered := by
  cases silent with
  | missed _ answers => cases answers
  | counted unnoticed none =>
      have count : deadlineCount (first ++ second) = deadlineCount second := by
        rw [deadlineCount_append, none]
        simp
      cases reported with
      | counted calm counts =>
          refine .counted (fun event member => ?_) (count.trans counts)
          rcases List.mem_append.mp member with early | late
          · exact unnoticed event early
          · exact calm event late
      | missed noticed answers counts =>
          obtain ⟨event, member, notices⟩ := noticed
          exact .missed ⟨event, List.mem_append_right _ member, notices⟩ answers
            (count.trans counts)

theorem Reported.before_quiet {answered : Option Bool}
    (reported : Reported deadline first answered)
    (quiet : ∀ event ∈ second, Quiet event.request) :
    Reported deadline (first ++ second) answered := by
  obtain ⟨unnoticed, silent⟩ := quiet_trace deadline quiet
  have count : deadlineCount (first ++ second) = deadlineCount first := by
    rw [deadlineCount, executions_append, silent, List.append_nil]
    rfl
  cases reported with
  | counted calm counts =>
      refine .counted (fun event member => ?_) (count.trans counts)
      rcases List.mem_append.mp member with early | late
      · exact calm event early
      · exact unnoticed event late
  | missed noticed answers counts =>
      obtain ⟨event, member, notices⟩ := noticed
      exact .missed ⟨event, List.mem_append_left _ member, notices⟩ answers (count.trans counts)

theorem reported_quiet {answered : Option Bool} (quiet : ∀ event ∈ trace, Quiet event.request)
    (other : answered ≠ some true) : Reported deadline trace answered := by
  obtain ⟨unnoticed, silent⟩ := quiet_trace deadline quiet
  refine .counted unnoticed ?_
  rw [if_neg other, deadlineCount, silent]
  rfl

theorem reports_pure {value : Value} (other : expiry value = false) :
    Reports deadline expiry (pure value) := by
  rintro _ _ ⟨rfl, rfl⟩ _
  exact reported_quiet (by simp) (by simp [other])

/-- A quiet program never answers an expiry. -/
theorem reports_quiet (quiet : program.Asks Quiet)
    (others : program.Returns fun value => expiry value = false) :
    Reports deadline expiry program := by
  intro trace outcome run _
  apply reported_quiet (quiet.runs run)
  cases outcome with
  | none => simp
  | some value => simp [others.runs run]

/-- An expiry of the beginning ends the program, and the rest reports otherwise. -/
theorem reports_sequence (begun : Reports deadline expiry program)
    (ends : ∀ value, expiry value = true →
      ∃ result, next value = pure result ∧ last result = true)
    (rest : ∀ value, expiry value = false → Reports deadline last (next value)) :
    Reports deadline last (program >>= next) := by
  intro trace outcome run genuine
  rcases Program.runs_bind.mp run with ⟨before, value, after, rfl, first, second⟩ | ⟨rfl, dropped⟩
  · rw [executions_append] at genuine
    have reported := begun before (some value) first fun event member =>
      genuine event (List.mem_append_left _ member)
    cases expired : expiry value with
    | true =>
        obtain ⟨result, same, answered⟩ := ends value expired
        rw [same] at second
        obtain ⟨rfl, rfl⟩ := second
        rw [List.append_nil]
        simpa only [Option.map_some, expired, answered] using reported
    | false =>
        have later := rest value expired after outcome second fun event member =>
          genuine event (List.mem_append_right _ member)
        simp only [Option.map_some, expired] at reported
        exact later.after_silent reported
  · exact begun trace none dropped genuine

/-- A quiet beginning leaves the report to the rest. -/
theorem reports_bind_returns (quiet : program.Asks Quiet) (returns : program.Returns possible)
    (rest : ∀ value, possible value → Reports deadline last (next value)) :
    Reports deadline last (program >>= next) := by
  intro trace outcome run genuine
  rcases Program.runs_bind.mp run with ⟨before, value, after, rfl, begun, ended⟩ | ⟨rfl, dropped⟩
  · rw [executions_append] at genuine
    have later := rest value (returns.runs begun) after outcome ended fun event member =>
      genuine event (List.mem_append_right _ member)
    exact later.after_silent (reported_quiet (quiet.runs begun) (by simp))
  · exact reported_quiet (quiet.runs dropped) (by simp)

theorem reports_bind (quiet : program.Asks Quiet)
    (rest : ∀ value, Reports deadline last (next value)) :
    Reports deadline last (program >>= next) :=
  reports_bind_returns quiet (Program.returns_all program) fun value _ => rest value

/-- A quiet end that is never dropped keeps the report of the beginning. -/
theorem reports_finish (begun : Reports deadline expiry program)
    (finishes : ∀ value (trace : List GatewayEvent) outcome, (next value).Runs trace outcome →
      (∀ event ∈ trace, Quiet event.request) ∧ outcome.map last = some (expiry value)) :
    Reports deadline last (program >>= next) := by
  intro trace outcome run genuine
  rcases Program.runs_bind.mp run with ⟨before, value, after, rfl, first, second⟩ | ⟨rfl, dropped⟩
  · rw [executions_append] at genuine
    obtain ⟨quiet, same⟩ := finishes value after outcome second
    rw [same]
    exact (begun before (some value) first fun event member =>
      genuine event (List.mem_append_left _ member)).before_quiet quiet
  · exact begun trace none dropped genuine

/-- A quiet cleanup keeps the report of a dropped program. -/
theorem reports_onDrop {cleanup : GatewayEffect Unit} (begun : Reports deadline expiry program)
    (quiet : cleanup.Asks Quiet) : Reports deadline expiry (program.onDrop cleanup) := by
  intro trace outcome run genuine
  rcases Program.runs_onDrop.mp run with ⟨value, rfl, finished⟩ |
    ⟨rfl, before, after, result, rfl, dropped, cleaned⟩
  · exact begun trace (some value) finished genuine
  · rw [executions_append] at genuine
    exact (begun before none dropped fun event member =>
      genuine event (List.mem_append_left _ member)).before_quiet (quiet.runs cleaned)

/-- A check that ends an expired request misses the count. -/
theorem reports_check {check : RequestDeadline} {site : ClockSite}
    (checks : site = .authIsExpired ∨ site = .ingressIsExpired)
    {next : Instant → GatewayEffect Result}
    (late : ∀ now, check.isExpired now = true →
      ∃ value, next now = pure value ∧ last value = true)
    (early : ∀ now, check.isExpired now = false → Reports check.deadline last (next now)) :
    Reports check.deadline last (readClock site >>= next) := by
  intro trace outcome run genuine
  obtain ⟨now, span, rest, rfl, later⟩ := Program.runs_request_bind.mp run
  have notices : NoticesUnrecorded check.deadline ⟨.clock site, now, span⟩ ↔
      check.isExpired now = true := by
    rcases checks with rfl | rfl
    · simp [NoticesUnrecorded, RequestDeadline.isExpired]
    · simp [NoticesUnrecorded, RequestDeadline.isExpired]
  cases expired : check.isExpired now with
  | true =>
      obtain ⟨value, same, answered⟩ := late now expired
      rw [same] at later
      obtain ⟨rfl, rfl⟩ := later
      exact .missed ⟨_, List.mem_singleton_self _, notices.mpr expired⟩ (by simp [answered]) rfl
  | false =>
      cases early now expired rest outcome later genuine with
      | counted calm counts =>
          refine .counted (fun event member => ?_) counts
          cases member with
          | head => exact fun noticed => by simp [notices.mp noticed] at expired
          | tail _ member => exact calm event member
      | missed noticed answers counts =>
          obtain ⟨event, member, found⟩ := noticed
          exact .missed ⟨event, List.mem_cons_of_mem _ member, found⟩ answers counts

end Rules

/-- The early check and the executor end a generation with the same error. -/
def generationExpiry {Value : Type} : Except IngressError Value → Bool
  | .error (.executionFailed .deadlineExceeded) => true
  | _ => false

def outcomeExpiry : Executor.Outcome → Bool
  | .error .deadlineExceeded => true
  | _ => false

theorem generationExpiry_unexecuted {Value : Type} {error : IngressError}
    (other : ∀ cause, error ≠ .executionFailed cause) :
    generationExpiry (.error error : Except IngressError Value) = false := by
  cases error with
  | executionFailed cause => exact absurd rfl (other cause)
  | _ => rfl

section Generation

variable {toVec : Json → Option (List UInt8)} {service : IngressService}
  {request : IngressRequest} {deadline : RequestDeadline} {limit : Instant}

/-- The executor records each expiry that ends an execution. -/
theorem reports_execution (config : Executor.ExecutorConfig) (plan : RoutePlan) (payload : Json) :
    Reports limit outcomeExpiry (runExecution (execute config plan payload deadline)) := by
  intro trace outcome run genuine
  obtain ⟨inner, rfl, executed⟩ := Program.runs_embed.mp run
  have same : executions (inner.map (Exchange.embed GatewayRequest.execution
      fun _ => Equiv.refl _)) = inner := by
    rw [executions, List.filterMap_map]
    exact List.filterMap_some
  rw [same] at genuine
  obtain ⟨_, _, _, _, expired, other⟩ :=
    Executor.execution_metrics_balance config plan payload deadline inner outcome executed genuine
  refine .counted ?_ ?_
  · intro event member
    obtain ⟨own, _, rfl⟩ := List.mem_map.mp member
    exact id
  · rw [deadlineCount, same]
    by_cases ended : outcome = some (.error .deadlineExceeded)
    · rw [expired ended, ended]
      rfl
    · rw [other ended, if_neg]
      intro answered
      obtain ⟨result, rfl, expiry⟩ := Option.map_eq_some_iff.mp answered
      unfold outcomeExpiry at expiry
      split at expiry
      · exact ended rfl
      · cases expiry

theorem reports_executeLlmCall (plan : RoutePlan) (payload : Json) :
    Reports limit generationExpiry (service.executeLlmCall plan payload deadline) := by
  refine reports_finish (reports_execution service.config plan payload) ?_
  intro result trace outcome run
  cases result with
  | ok result =>
      obtain ⟨rfl, rfl⟩ := run
      exact ⟨by simp, rfl⟩
  | error error =>
      obtain ⟨rfl, rfl⟩ := run
      refine ⟨by simp, ?_⟩
      cases error with
      | deadlineExceeded => rfl
      | _ => rfl

theorem reports_processRequest :
    Reports deadline.deadline generationExpiry (service.processRequest request deadline) := by
  refine reports_check (.inr rfl) ?_ ?_
  · intro now expired
    exact ⟨.error (.executionFailed .deadlineExceeded), by rw [if_pos expired], rfl⟩
  · intro now early
    rw [if_neg (by simp [early])]
    refine reports_bind (Program.asks_request trivial) fun start => ?_
    split
    · rename_i error failed
      exact reports_pure (generationExpiry_unexecuted
        (Ingress.resolveRoute_unexecuted _ _ _ error failed))
    · unfold IngressService.processResolved
      split
      · exact reports_pure rfl
      · refine reports_finish (reports_executeLlmCall _ _) ?_
        intro result trace outcome run
        cases result with
        | ok result =>
            obtain ⟨finish, span, rest, rfl, rfl, rfl⟩ := Program.runs_request_bind.mp run
            exact ⟨by simp [Quiet], rfl⟩
        | error error =>
            obtain ⟨rfl, rfl⟩ := run
            refine ⟨by simp, ?_⟩
            cases error with
            | executionFailed cause =>
                cases cause with
                | deadlineExceeded => rfl
                | _ => rfl
            | _ => rfl

/-- The release of the permit changes no report. -/
theorem reports_processAdmitted :
    Reports deadline.deadline generationExpiry (processAdmitted service request deadline) := by
  have release : (Program.request GatewayRequest.releasePermit : GatewayEffect Unit).Asks Quiet :=
    ⟨trivial, fun _ => trivial⟩
  refine reports_finish (reports_onDrop reports_processRequest release) ?_
  intro result trace outcome run
  obtain ⟨_, span, rest, rfl, rfl, rfl⟩ := Program.runs_request_bind.mp run
  exact ⟨by simp [Quiet], rfl⟩

theorem reports_ingressHandler (kind : Auth.ApiKeyKind) (body : Json) :
    Reports deadline.deadline generationExpiry
      (ingressHandler toVec service kind body deadline) := by
  unfold ingressHandler
  split
  · exact reports_pure rfl
  · split
    · rename_i error failed
      exact reports_pure (generationExpiry_unexecuted
        (Ingress.parseIngressRequest_unexecuted _ _ _ error failed))
    · refine reports_bind (Program.asks_request trivial) fun granted => ?_
      split
      · exact reports_processAdmitted
      · exact reports_pure rfl
      · exact reports_bind (Program.asks_request trivial) fun _ => reports_pure rfl

end Generation

section Protected

variable {state : AppState} {request : ProtectedRequest} {deadline : RequestDeadline}
  {limit : Instant}

theorem runAuth_quiet {Value : Type} (program : AuthProgram Value) :
    (runAuth program).Asks Quiet :=
  Program.asks_embed fun _ => trivial

/-- A handler of the keys never answers an expiry. -/
theorem reports_runKeyHandler {Value : Type} {respond : Value → ProtectedResponse}
    {handler : ExceptT AuthError AuthProgram Value} (fails : KeyHandlerFails handler)
    (answers : ∀ value, (respond value).isDeadlineExceeded = false) :
    Reports limit ProtectedResponse.isDeadlineExceeded (runKeyHandler respond handler) := by
  refine reports_quiet (Program.asks_bind (runAuth_quiet _) fun result => ?_)
    (Program.returns_bind (Program.Returns.embed fails) fun result possible => ?_)
  · cases result with
    | ok value => trivial
    | error error => trivial
  · cases result with
    | ok value => exact .pure (answers value)
    | error error =>
        have other : error ≠ .deadlineExceeded := possible error rfl
        refine .pure ?_
        cases error with
        | deadlineExceeded => exact absurd rfl other
        | _ => rfl

theorem apiJson_quiet : (apiJson state request).Asks Quiet := by
  unfold apiJson
  split
  · trivial
  · refine Program.asks_bind (Program.asks_request trivial) fun found => ?_
    split
    · trivial
    · trivial
    · trivial

/-- A rejected body is never an expiry. -/
theorem apiJson_returns : (apiJson state request).Returns fun result =>
    ∀ error, result = .error error → (ProtectedResponse.failed error).isDeadlineExceeded = false := by
  unfold apiJson
  split
  · refine .pure ?_
    rintro _ ⟨⟩
    rfl
  · refine Program.returns_bind (Program.returns_all _) fun found _ => ?_
    split
    · exact .halt
    · exact .pure (by rintro _ ⟨⟩)
    · rename_i rejection
      refine .pure ?_
      rintro _ ⟨⟩
      cases rejection with
      | bytesRejection tooLarge =>
          cases tooLarge with
          | true => rfl
          | false => rfl
      | _ => rfl

/-- A handler reports the expiries that its executor records. -/
theorem reports_handleRoute (actor : AuthContext) :
    Reports deadline.deadline ProtectedResponse.isDeadlineExceeded
      (handleRoute state request actor deadline) := by
  unfold handleRoute
  split
  · refine reports_bind_returns apiJson_quiet apiJson_returns fun result possible => ?_
    cases result with
    | error error => exact reports_pure (possible error rfl)
    | ok body =>
        refine reports_finish (reports_ingressHandler actor.kind body) ?_
        intro result trace outcome run
        cases result with
        | ok response =>
            obtain ⟨rfl, rfl⟩ := run
            exact ⟨by simp, rfl⟩
        | error error =>
            obtain ⟨rfl, rfl⟩ := run
            refine ⟨by simp, ?_⟩
            cases error with
            | executionFailed cause =>
                cases cause with
                | _ => rfl
            | _ => rfl
  · refine reports_bind_returns apiJson_quiet apiJson_returns fun result possible => ?_
    cases result with
    | error error => exact reports_pure (possible error rfl)
    | ok body => exact reports_runKeyHandler (fails_createApiKey body) fun _ => rfl
  · exact reports_runKeyHandler (fails_listApiKeys _) fun _ => rfl
  · exact reports_pure rfl
  · exact reports_runKeyHandler (fails_revokeApiKey _) fun _ => rfl

/-- A timeout finishes with its work, or its timer follows the dropped work. -/
theorem runs_timeoutAt {Value : Type} {site : TimerSite} {work : GatewayEffect Value}
    {trace : List GatewayEvent} {outcome : Option (Option Value)} :
    (timeoutAt site limit work).Runs trace outcome ↔
      (∃ value, outcome = some (some value) ∧ work.Runs trace (some value)) ∨
      (∃ before elapsed span, trace = before ++ [⟨.timer site limit, elapsed, span⟩] ∧
        work.Runs before none ∧ outcome = if elapsed = true then some none else none) := by
  unfold timeoutAt
  rw [Program.runs_bind]
  constructor
  · rintro (⟨before, attempted, after, rfl, first, second⟩ | ⟨rfl, dropped⟩)
    · obtain ⟨result, same, run⟩ := Program.runs_attempt.mp first
      cases same
      cases attempted with
      | some value =>
          obtain ⟨rfl, rfl⟩ := second
          exact .inl ⟨value, rfl, by simpa using run⟩
      | none =>
          obtain ⟨elapsed, span, rest, rfl, ended⟩ := Program.runs_request_bind.mp second
          cases elapsed with
          | true =>
              obtain ⟨rfl, rfl⟩ := ended
              exact .inr ⟨before, true, span, rfl, run, rfl⟩
          | false =>
              obtain ⟨rfl, rfl⟩ := ended
              exact .inr ⟨before, false, span, rfl, run, rfl⟩
    · obtain ⟨result, missing, _⟩ := Program.runs_attempt.mp dropped
      cases missing
  · rintro (⟨value, rfl, run⟩ | ⟨before, elapsed, span, rfl, run, rfl⟩)
    · exact .inl ⟨trace, some value, [], (List.append_nil _).symm,
        Program.runs_attempt.mpr ⟨some value, rfl, run⟩, rfl, rfl⟩
    · refine .inl ⟨before, none, _, rfl, Program.runs_attempt.mpr ⟨none, rfl, run⟩, ?_⟩
      refine Program.runs_request_bind.mpr ⟨elapsed, span, [], rfl, ?_⟩
      cases elapsed with
      | true => exact ⟨rfl, rfl⟩
      | false => exact ⟨rfl, rfl⟩

def authenticationExpiry : Except AuthenticateError AuthContext → Bool
  | .error .deadlineExceeded => true
  | _ => false

/-- The authentication misses the expiry that its own check or its own timer notices. -/
theorem reports_authenticateWithDeadline (presented : String) :
    Reports deadline.deadline authenticationExpiry
      (authenticateWithDeadline state presented deadline) := by
  refine reports_check (.inl rfl) ?_ ?_
  · intro now expired
    exact ⟨.error .deadlineExceeded, by rw [if_pos expired], rfl⟩
  · intro now early
    rw [if_neg (by simp [early])]
    have quiet := runAuth_quiet (Auth.AuthService.authenticate state.hashCredential presented).run
    have returns : (runAuth (Auth.AuthService.authenticate state.hashCredential
        presented).run).Returns fun result =>
          ∀ error, result = .error error → error ≠ AuthenticateError.deadlineExceeded :=
      (fails_authenticate presented).embed
    generalize runAuth (Auth.AuthService.authenticate state.hashCredential presented).run = work
      at quiet returns
    intro trace outcome run _
    rcases Program.runs_bind.mp run with ⟨first, found, second, rfl, timed, ended⟩ | ⟨rfl, timed⟩
    · rcases runs_timeoutAt.mp timed with ⟨result, same, worked⟩ |
        ⟨before, elapsed, span, rfl, worked, same⟩
      · cases same
        obtain ⟨rfl, rfl⟩ := ended
        rw [List.append_nil]
        refine reported_quiet (quiet.runs worked) ?_
        have other := returns.runs worked
        cases result with
        | ok actor => simp [authenticationExpiry]
        | error error =>
            cases error with
            | deadlineExceeded => exact absurd rfl (other _ rfl)
            | _ => simp [authenticationExpiry]
      · cases elapsed with
        | false => cases same
        | true =>
            cases same
            obtain ⟨rfl, rfl⟩ := ended
            obtain ⟨_, silent⟩ := quiet_trace deadline.deadline (quiet.runs worked)
            refine .missed ⟨⟨.timer .authentication deadline.deadline, true, span⟩, by simp, rfl⟩
              rfl ?_
            rw [deadlineCount, List.append_nil, executions_append, silent]
            rfl
    · rcases runs_timeoutAt.mp timed with ⟨result, same, _⟩ |
        ⟨before, elapsed, span, rfl, worked, same⟩
      · cases same
      · cases elapsed with
        | true => cases same
        | false =>
            obtain ⟨calm, silent⟩ := quiet_trace deadline.deadline (quiet.runs worked)
            refine .counted (fun event member => ?_) ?_
            · rcases List.mem_append.mp member with early | last
              · exact calm event early
              · cases List.mem_singleton.mp last
                simp [NoticesUnrecorded]
            · rw [deadlineCount, executions_append, silent]
              rfl

theorem reports_authMiddleware :
    Reports deadline.deadline ProtectedResponse.isDeadlineExceeded
      (authMiddleware state request deadline) := by
  unfold authMiddleware
  split
  · exact reports_pure rfl
  · refine reports_sequence (reports_authenticateWithDeadline _) ?_ ?_
    · intro result expired
      unfold authenticationExpiry at expired
      split at expired
      · exact ⟨_, rfl, rfl⟩
      · cases expired
    · intro result pending
      cases result with
      | ok actor => exact reports_handleRoute actor
      | error error =>
          cases error with
          | deadlineExceeded => cases pending
          | _ => exact reports_pure rfl

/-- The middleware records the expiry that its own timer notices. -/
theorem reports_timed {work : GatewayEffect ProtectedResponse}
    (reports : Reports limit ProtectedResponse.isDeadlineExceeded work) :
    Reports limit ProtectedResponse.isDeadlineExceeded (do
      match ← timeoutAt .request limit work with
      | some response => return response
      | none => do
          runExecution (Executor.record .deadlineExceeded)
          return .failed ⟨.deadlineExceeded, "The request deadline was exceeded", none⟩) := by
  have unanswered {before : List GatewayEvent} (elapsed : Bool) (span : Executor.Span)
      (worked : work.Runs before none) (genuine : ∀ event ∈ executions before, Genuine event) :
      (∀ event ∈ before ++ [⟨.timer .request limit, elapsed, span⟩],
        ¬NoticesUnrecorded limit event) ∧ deadlineCount before = 0 := by
    cases reports before none worked genuine with
    | missed _ answered => cases answered
    | counted calm count =>
        refine ⟨fun event member => ?_, count⟩
        rcases List.mem_append.mp member with early | last
        · exact calm event early
        · cases List.mem_singleton.mp last
          exact id
  intro trace outcome run genuine
  rcases Program.runs_bind.mp run with ⟨first, found, second, rfl, timed, ended⟩ | ⟨rfl, timed⟩
  · rw [executions_append] at genuine
    have early : ∀ event ∈ executions first, Genuine event := fun event member =>
      genuine event (List.mem_append_left _ member)
    rcases runs_timeoutAt.mp timed with ⟨response, same, worked⟩ |
      ⟨before, elapsed, span, rfl, worked, same⟩
    · cases same
      obtain ⟨rfl, rfl⟩ := ended
      rw [List.append_nil]
      exact reports first _ worked early
    · cases elapsed with
      | false => cases same
      | true =>
          cases same
          obtain ⟨_, marked, rest, rfl, rfl, rfl⟩ := Program.runs_request_bind.mp ended
          rw [executions_append] at early
          obtain ⟨calm, count⟩ := unanswered true span worked fun event member =>
            early event (List.mem_append_left _ member)
          refine .counted (fun event member => ?_) ?_
          · rcases List.mem_append.mp member with waited | last
            · exact calm event waited
            · cases List.mem_singleton.mp last
              exact id
          · rw [deadlineCount_append, deadlineCount_append, count]
            rfl
  · rcases runs_timeoutAt.mp timed with ⟨response, same, worked⟩ |
      ⟨before, elapsed, span, rfl, worked, same⟩
    · cases same
    · cases elapsed with
      | true => cases same
      | false =>
          rw [executions_append] at genuine
          obtain ⟨calm, count⟩ := unanswered false span worked fun event member =>
            genuine event (List.mem_append_left _ member)
          refine .counted calm ?_
          rw [deadlineCount_append, count]
          rfl

/-- Each run of a protected request reads its start first and is reported at its deadline. -/
theorem reports_deadlineMiddleware {trace : List GatewayEvent}
    {outcome : Option ProtectedResponse}
    (run : (deadlineMiddleware state request).Runs trace outcome)
    (genuine : ∀ event ∈ executions trace, Genuine event) :
    ∃ start span rest, trace = ⟨.clock .requestStart, start, span⟩ :: rest ∧
      Reported (start + state.settings.limits.protectedRequestDeadline) trace
        (outcome.map ProtectedResponse.isDeadlineExceeded) := by
  obtain ⟨start, span, rest, rfl, later⟩ := Program.runs_request_bind.mp run
  refine ⟨start, span, rest, rfl, ?_⟩
  have reported := reports_timed (reports_authMiddleware) rest outcome later genuine
  have silent : Reported (start + state.settings.limits.protectedRequestDeadline)
      [⟨.clock .requestStart, start, span⟩] (some false) :=
    reported_quiet (by simp [Quiet]) (by simp)
  exact reported.after_silent silent

end Protected

/-- The deadline of a protected request follows its first reading of the clock. -/
def requestDeadline (settings : Settings) : List GatewayEvent → Instant
  | ⟨.clock .requestStart, (start : Nat), _⟩ :: _ => start + settings.limits.protectedRequestDeadline
  | _ => 0

/-- The counter agrees with the answer exactly when no layer notices an expiry unrecorded. -/
theorem deadline_counted_iff (state : AppState) (request : ProtectedRequest)
    (trace : List GatewayEvent) (outcome : Option ProtectedResponse)
    (run : (deadlineMiddleware state request).Runs trace outcome)
    (genuine : ∀ event ∈ executions trace, Genuine event) :
    CountsExpiry trace outcome ↔
      ∀ event ∈ trace, ¬NoticesUnrecorded (requestDeadline state.settings trace) event := by
  obtain ⟨start, span, rest, rfl, reported⟩ := reports_deadlineMiddleware run genuine
  cases reported with
  | counted calm count => exact ⟨fun _ => calm, fun _ => count⟩
  | missed noticed answered count =>
      constructor
      · intro counts
        rw [CountsExpiry, count, answered] at counts
        simp at counts
      · intro calm
        obtain ⟨event, member, notices⟩ := noticed
        exact absurd notices (calm event member)

theorem zeroBytes_length : (List.replicate 32 (0 : UInt8)).length = Auth.keyDigestLen := rfl

/-- A state whose service has no targets and whose digests are all equal. -/
def plainState : AppState where
  ingress := ⟨⟨.default, ⟨1, "default", ∅, ∅⟩,
    ⟨10, 1, 1, 1, 1, 1, 1, 1, 1, 1000, 1000, 4000, 1000⟩, .dummyLocal⟩, ⟨1000, 0, 1, 0⟩⟩
  hashCredential _ := ⟨List.replicate 32 0, zeroBytes_length⟩
  toVec _ := some []

/-- A generation request with the key header `k`. -/
def keyedRequest : ProtectedRequest := ⟨[[107]], none, .generate⟩

/-- The stored row of an inference key. -/
def inferenceRow : Auth.ApiKeyRecord :=
  ⟨1, 2, ⟨List.replicate 32 0, zeroBytes_length⟩, "d", "n", .inference, 0, none, none⟩

/-- The store answers or stalls, every later await is dropped, and each timer elapses. -/
def stallingAnswers (stored : Bool) : (request : GatewayRequest) → request.Reply
  | .clock _ => (0 : Nat)
  | .timer _ _ => true
  | .extractBody => none
  | .auth .utcNow => (0 : Nat)
  | .auth .newUuid => (0 : Fin (2 ^ 128))
  | .auth (.fillBytes _) => none
  | .auth (.store (.authenticateDigest _ _)) =>
      if stored then some (.ok (some inferenceRow)) else none
  | .auth (.store _) => none
  | .execution (.clock _) => (0 : Nat)
  | .execution .entropy => none
  | .execution (.sleep _ _) => none
  | .execution (.call _ _ _) => none
  | .execution (.admission _) => Circuit.CircuitAdmission.reject 0
  | .execution (.settle _ _) => ()
  | .execution (.dropPermit _) => ()
  | .execution (.record _) => ()
  | .tryAcquire => .ok ()
  | .releasePermit => ()
  | .recordOverloadRejected => ()

/-- The run of a request whose environment keeps stalling. -/
def stalledRun (stored : Bool) : List GatewayEvent × Option ProtectedResponse :=
  (deadlineMiddleware plainState keyedRequest).drive
    (fun (_ : Unit) request => (stallingAnswers stored request, ⟨0, 0⟩, ())) ()

theorem stalledRun_runs (stored : Bool) :
    (deadlineMiddleware plainState keyedRequest).Runs (stalledRun stored).1 (stalledRun stored).2 :=
  Program.runs_drive _ _ _

/-- An expiry during the extraction of the body is counted by the outer middleware. -/
theorem deadline_counted_iff_example : CountsExpiry (stalledRun true).1 (stalledRun true).2 := by
  have recorded : executions (stalledRun true).1 =
      [⟨.record .deadlineExceeded, (), ⟨0, 0⟩⟩] := rfl
  refine (deadline_counted_iff plainState keyedRequest _ _ (stalledRun_runs true) ?_).mpr ?_
  · rw [recorded]
    simp [Genuine]
  · have stalled : (stalledRun true).1 =
        [⟨.clock .requestStart, (0 : Nat), ⟨0, 0⟩⟩, ⟨.clock .authIsExpired, (0 : Nat), ⟨0, 0⟩⟩,
          ⟨.auth .utcNow, (0 : Nat), ⟨0, 0⟩⟩,
          ⟨.auth (.store (.authenticateDigest ⟨List.replicate 32 0, rfl⟩ 0)),
            some (.ok (some inferenceRow)), ⟨0, 0⟩⟩,
          ⟨.extractBody, none, ⟨0, 0⟩⟩, ⟨.timer .request 10, true, ⟨0, 0⟩⟩,
          ⟨.execution (.record .deadlineExceeded), (), ⟨0, 0⟩⟩] := rfl
    have limit : requestDeadline plainState.settings (stalledRun true).1 = (10 : Nat) := rfl
    rw [limit, stalled]
    simp [NoticesUnrecorded]

/-- An expiry during the authentication is answered and not counted. -/
theorem authentication_expiry_uncounted :
    ¬∀ (state : AppState) (request : ProtectedRequest) (trace : List GatewayEvent)
      (outcome : Option ProtectedResponse),
      (deadlineMiddleware state request).Runs trace outcome →
      (∀ event ∈ executions trace, Genuine event) → CountsExpiry trace outcome := by
  intro always
  have counts := always plainState keyedRequest _ _ (stalledRun_runs false) (by rintro _ ⟨⟩)
  have none : deadlineCount (stalledRun false).1 = 0 := rfl
  have answered : (stalledRun false).2.map ProtectedResponse.isDeadlineExceeded = some true := rfl
  rw [CountsExpiry, none, answered] at counts
  simp at counts

end Opmux.Gateway
