import OpmuxGateway.Construction.Gateway.Protected
import OpmuxGateway.Library.Monitor
import OpmuxGateway.Proof.Gateway.DeadlineCounter
import OpmuxGateway.Proof.Ingress.Rejections
import OpmuxGateway.Proof.Ingress.RequestContract

/-
This file proves how a protected request uses the admission of generations.
-/

namespace Opmux.Gateway

open Auth (ApiKeyKind AuthContext AuthError AuthProgram)
open Ingress (IngressError IngressRequest IngressResponse IngressService ingressHandler
  processAdmitted)

/-- A request is admitted and released, or it is refused, or it never asks. -/
inductive AdmissionStage where
  | idle
  | held
  | released
  | refused
  | counted
  | closed
  deriving DecidableEq, Repr

namespace AdmissionStage

def step (stage : AdmissionStage) : (request : GatewayRequest) → request.Reply → AdmissionStage
  | .tryAcquire, .ok () => .held
  | .tryAcquire, .error .noPermits => .refused
  | .tryAcquire, .error .closed => .closed
  | .releasePermit, _ => .released
  | .recordOverloadRejected, _ => .counted
  | _, _ => stage

/-- Only the holder of a permit executes, and no request waits between a refusal and its count. -/
def Allows (stage : AdmissionStage) : GatewayRequest → Prop
  | .tryAcquire => stage = .idle
  | .releasePermit => stage = .held
  | .recordOverloadRejected => stage = .refused
  | .execution (.record .deadlineExceeded) => stage = .idle ∨ stage = .held ∨ stage = .released
  | .execution _ => stage = .held
  | .clock .ingressIsExpired | .clock .processingStart | .clock .processingEnd => stage = .held
  | .timer .request _ => stage = .idle ∨ stage = .released
  | .clock .requestStart | .clock .authIsExpired | .timer .authentication _ | .extractBody
  | .auth _ => stage = .idle

/-- The stage after a trace. -/
def after (trace : List GatewayEvent) : AdmissionStage :=
  trace.foldl (fun stage event => stage.step event.request event.reply) .idle

end AdmissionStage

def admissionMonitor : Monitor AdmissionStage GatewayRequest GatewayRequest.Reply :=
  ⟨AdmissionStage.step, AdmissionStage.Allows⟩

def ProtectedResponse.code : ProtectedResponse → Option ErrorCode
  | .failed error => some error.code
  | _ => none

/-- A finished or dropped request holds no permit, and its answer reports its admission. -/
structure Settled (stage : AdmissionStage) (outcome : Option ProtectedResponse) : Prop where
  unheld : stage ≠ .held
  unrefused : stage ≠ .refused
  counted : stage = .counted ↔ outcome.bind ProtectedResponse.code = some .overloaded
  closed : stage = .closed ↔ outcome.bind ProtectedResponse.code = some .draining
  generated : ∀ response, outcome = some (.generated response) → stage = .released

/-- A generation result reports the stage that its handler ends in. -/
structure Generated (stage : AdmissionStage)
    (outcome : Option (Except IngressError IngressResponse)) : Prop where
  unheld : stage ≠ .held
  unrefused : stage ≠ .refused
  counted : stage = .counted ↔ outcome = some (.error .overloaded)
  closed : stage = .closed ↔ outcome = some (.error .draining)
  generated : ∀ response, outcome = some (.ok response) → stage = .released

section Rules

variable {Value : Type} {deadline : RequestDeadline}

theorem settled_other {response : ProtectedResponse} {stage : AdmissionStage}
    (resting : stage = .idle ∨ stage = .released)
    (others : ∀ code, response.code = some code → code ≠ .overloaded ∧ code ≠ .draining)
    (failed : stage = .idle → ∀ value, response ≠ .generated value) :
    Settled stage (some response) := by
  have overloaded : response.code ≠ some .overloaded := fun same => (others _ same).1 rfl
  have draining : response.code ≠ some .draining := fun same => (others _ same).2 rfl
  rcases resting with rfl | rfl
  · exact ⟨by simp, by simp, by simpa using overloaded, by simpa using draining,
      fun value same => absurd (Option.some.inj same) (failed rfl value)⟩
  · exact ⟨by simp, by simp, by simpa using overloaded, by simpa using draining, fun _ _ => rfl⟩

theorem settled_dropped {stage : AdmissionStage} (resting : stage = .idle ∨ stage = .released) :
    Settled stage none := by
  rcases resting with rfl | rfl
  · exact ⟨by simp, by simp, by simp, by simp, by simp⟩
  · exact ⟨by simp, by simp, by simp, by simp, by simp⟩

end Rules

/-- A timeout asks the requests of its work and of its timer. -/
theorem asks_timeoutAt {Value : Type} {site : TimerSite} {limit : Instant}
    {work : GatewayEffect Value} {allowed : GatewayRequest → Prop} (asks : work.Asks allowed)
    (timer : allowed (.timer site limit)) : (timeoutAt site limit work).Asks allowed := by
  refine Program.asks_bind (Program.asks_attempt asks) fun result => ?_
  cases result with
  | some value => trivial
  | none =>
      refine Program.asks_bind (Program.asks_request timer) fun elapsed => ?_
      cases elapsed with
      | true => trivial
      | false => trivial

/-- A timeout ends with its work, or its timer follows the dropped work. -/
theorem obeys_timeoutAt {State Value : Type}
    {monitor : Monitor State GatewayRequest GatewayRequest.Reply} {state : State}
    {site : TimerSite} {limit : Instant} {work : GatewayEffect Value}
    {post : State → Option Value → Prop} {last : State → Option (Option Value) → Prop}
    (worked : work.Obeys monitor state post)
    (finished : ∀ later value, post later (some value) → last later (some (some value)))
    (dropped : ∀ later, post later none → monitor.allowed later (.timer site limit) ∧
      last (monitor.step later (.timer site limit) true) (some none) ∧
      last (monitor.step later (.timer site limit) false) none) :
    (timeoutAt site limit work).Obeys monitor state last := by
  unfold timeoutAt
  apply Program.obeys_bind.mpr
  apply Program.obeys_attempt.mpr
  apply worked.mono
  intro later outcome ended
  cases outcome with
  | some value => exact finished later value ended
  | none =>
      obtain ⟨allowed, elapses, pends⟩ := dropped later ended
      refine ⟨allowed, fun elapsed => ?_⟩
      cases elapsed with
      | true => exact elapses
      | false => exact pends

section Generation

variable {toVec : Json → Option (List UInt8)} {service : IngressService}
  {request : IngressRequest} {deadline : RequestDeadline}

/-- The processing of a generation reads its clocks and executes. -/
inductive Processing : GatewayRequest → Prop
  | ingressIsExpired : Processing (.clock .ingressIsExpired)
  | processingStart : Processing (.clock .processingStart)
  | processingEnd : Processing (.clock .processingEnd)
  | execution (request : Executor.Request) : Processing (.execution request)

/-- The processing leaves a held permit held. -/
theorem Processing.still {request : GatewayRequest} (processing : Processing request) :
    admissionMonitor.Still .held request := by
  cases processing with
  | ingressIsExpired | processingStart | processingEnd => exact ⟨rfl, fun _ => rfl⟩
  | execution request =>
      constructor
      · change AdmissionStage.Allows _ _
        unfold AdmissionStage.Allows
        split <;> simp_all
      · intro reply
        rfl

theorem asks_processRequest : (service.processRequest request deadline).Asks Processing := by
  refine Program.asks_bind (Program.asks_request .ingressIsExpired) fun now => ?_
  split
  · trivial
  · refine Program.asks_bind (Program.asks_request .processingStart) fun start => ?_
    split
    · trivial
    · unfold IngressService.processResolved
      split
      · trivial
      · refine Program.asks_bind ?_ fun result => ?_
        · refine Program.asks_bind (Program.asks_embed .execution) fun result => ?_
          cases result with
          | ok result => trivial
          | error error => trivial
        · cases result with
          | error error => trivial
          | ok result =>
              exact Program.asks_bind (Program.asks_request .processingEnd) fun _ => trivial

/-- An admitted request releases its permit when it finishes and when it is dropped. -/
theorem obeys_processAdmitted :
    (processAdmitted service request deadline).Obeys admissionMonitor .held Generated := by
  have worked : ((service.processRequest request deadline).onDrop
      (Program.request GatewayRequest.releasePermit)).Obeys admissionMonitor .held
        fun stage outcome => (outcome = none → stage = .released) ∧ ∀ result,
          outcome = some result → stage = .held ∧ result.Rejects IngressError.IsProcessed := by
    apply Program.Obeys.onDrop
      ((asks_processRequest.mono fun _ => Processing.still).obeys
        (Ingress.processRequest_returns service request deadline))
    · rintro stage result ⟨rfl, possible⟩
      refine ⟨by simp, ?_⟩
      rintro _ ⟨⟩
      exact ⟨rfl, possible result rfl⟩
    · rintro stage ⟨rfl, _⟩
      exact ⟨rfl, fun _ => ⟨fun _ => rfl, by simp⟩⟩
  unfold processAdmitted
  refine worked.bind ?_ ?_
  · rintro stage ⟨released, _⟩
    rw [released rfl]
    exact ⟨by simp, by simp, by simp, by simp, by simp⟩
  · rintro stage result ⟨_, finished⟩
    obtain ⟨rfl, possible⟩ := finished result rfl
    refine ⟨rfl, fun _ => ⟨by simp [admissionMonitor, AdmissionStage.step],
      by simp [admissionMonitor, AdmissionStage.step], ?_, ?_, fun _ _ => rfl⟩⟩
    · constructor
      · rintro ⟨⟩
      · rintro ⟨⟩
        cases possible _ rfl
    · constructor
      · rintro ⟨⟩
      · rintro ⟨⟩
        cases possible _ rfl

/-- A rejected request answers its own error and never asks for a permit. -/
theorem generated_rejected {error : IngressError}
    (other : error ≠ .overloaded ∧ error ≠ .draining) :
    Generated .idle (some (.error error)) :=
  ⟨by simp, by simp, by simp [other.1], by simp [other.2], by simp⟩

theorem obeys_ingressHandler (kind : ApiKeyKind) (body : Json) :
    (ingressHandler toVec service kind body deadline).Obeys admissionMonitor .idle Generated := by
  unfold ingressHandler
  split
  · exact generated_rejected (by simp)
  · split
    · rename_i error failed
      obtain ⟨message, rfl⟩ := Ingress.parseIngressRequest_rejects _ _ _ _ failed
      exact generated_rejected (by simp)
    · refine ⟨rfl, fun reply => ?_⟩
      cases reply with
      | ok granted => exact obeys_processAdmitted
      | error denied =>
          cases denied with
          | closed => exact ⟨nofun, nofun, by simp [admissionMonitor, AdmissionStage.step],
              by simp [admissionMonitor, AdmissionStage.step], nofun⟩
          | noPermits =>
              refine ⟨rfl, fun _ => ?_⟩
              exact ⟨nofun, nofun, by simp [admissionMonitor, AdmissionStage.step],
                by simp [admissionMonitor, AdmissionStage.step], nofun⟩

end Generation

section Protected

variable {state : AppState} {request : ProtectedRequest} {deadline : RequestDeadline}

theorem runAuth_still {Value : Type} (program : AuthProgram Value) :
    (runAuth program).Asks (admissionMonitor.Still .idle) :=
  Program.asks_embed fun _ => ⟨rfl, fun _ => rfl⟩

theorem asks_apiJson {allowed : GatewayRequest → Prop} (reads : allowed .extractBody) :
    (apiJson state request).Asks allowed := by
  unfold apiJson
  split
  · trivial
  · refine Program.asks_bind (Program.asks_request reads) fun found => ?_
    split
    · trivial
    · trivial
    · trivial

/-- A body is rejected for its length, its type, or its content. -/
inductive BodyRejection : ErrorCode → Prop
  | tooLarge : BodyRejection .payloadTooLarge
  | unsupported : BodyRejection .unsupportedMediaType
  | invalid : BodyRejection .invalidJson

theorem apiJson_rejects : (apiJson state request).Returns fun result =>
    result.Rejects fun error => BodyRejection error.code := by
  unfold apiJson
  split
  · exact .pure (Except.rejects_error .tooLarge)
  · refine Program.returns_bind (Program.returns_all _) fun found _ => ?_
    split
    · exact .halt
    · exact .pure Except.rejects_ok
    · rename_i rejection
      refine .pure (Except.rejects_error ?_)
      cases rejection with
      | missingJsonContentType => exact .unsupported
      | bytesRejection tooLarge =>
          cases tooLarge with
          | true => exact .tooLarge
          | false => exact .invalid
      | _ => exact .invalid

theorem authError_code (error : AuthError) :
    error.httpMapping.code ≠ .overloaded ∧ error.httpMapping.code ≠ .draining := by
  cases error with
  | _ => simp [AuthError.httpMapping]

theorem BodyRejection.other {code : ErrorCode} (rejection : BodyRejection code) :
    code ≠ .overloaded ∧ code ≠ .draining := by
  cases rejection with
  | _ => simp

/-- A failed answer of another layer leaves the admission idle. -/
theorem settled_failed {error : HttpError}
    (other : error.code ≠ .overloaded ∧ error.code ≠ .draining) :
    Settled .idle (some (.failed error)) :=
  settled_other (.inl rfl) (by rintro _ ⟨⟩; exact other) fun _ => nofun

theorem obeys_runKeyHandler {Value : Type} {respond : Value → ProtectedResponse}
    (handler : ExceptT AuthError AuthProgram Value)
    (answers : ∀ value, (respond value).code = none)
    (others : ∀ value response, respond value ≠ .generated response) :
    (runKeyHandler respond handler).Obeys admissionMonitor .idle Settled := by
  refine Program.Obeys.bind ((runAuth_still _).obeys (Program.returns_all _)) ?_ ?_
  · rintro _ ⟨rfl, _⟩
    exact settled_dropped (.inl rfl)
  · rintro _ result ⟨rfl, _⟩
    cases result with
    | ok value =>
        exact settled_other (.inl rfl) (by simp [answers value]) fun _ => others value
    | error error => exact settled_failed (authError_code error)

/-- The answer of a generation reports the stage of its admission. -/
theorem settled_generation {stage : AdmissionStage} {error : IngressError}
    (generated : Generated stage (some (.error error))) :
    Settled stage (some (.failed error.intoResponse)) := by
  refine ⟨generated.unheld, generated.unrefused, generated.counted.trans ?_,
    generated.closed.trans ?_, nofun⟩
  · cases error with
    | executionFailed cause =>
        cases cause with
        | _ => simp [ProtectedResponse.code, IngressError.intoResponse, Ingress.executorHttpMapping]
    | _ => simp [ProtectedResponse.code, IngressError.intoResponse]
  · cases error with
    | executionFailed cause =>
        cases cause with
        | _ => simp [ProtectedResponse.code, IngressError.intoResponse, Ingress.executorHttpMapping]
    | _ => simp [ProtectedResponse.code, IngressError.intoResponse]

theorem obeys_handleRoute (actor : AuthContext) :
    (handleRoute state request actor deadline).Obeys admissionMonitor .idle Settled := by
  have body : (apiJson state request).Obeys admissionMonitor .idle _ :=
    (asks_apiJson ⟨rfl, fun _ => rfl⟩).obeys apiJson_rejects
  unfold handleRoute
  split
  · refine body.bind ?_ ?_
    · rintro _ ⟨rfl, _⟩
      exact settled_dropped (.inl rfl)
    · rintro _ result ⟨rfl, possible⟩
      cases result with
      | error error => exact settled_failed (possible _ rfl error rfl).other
      | ok body =>
          refine (obeys_ingressHandler actor.kind body).bind ?_ ?_
          · intro stage dropped
            exact ⟨dropped.unheld, dropped.unrefused, by simpa using dropped.counted,
              by simpa using dropped.closed, nofun⟩
          · intro stage result generated
            cases result with
            | ok response =>
                have released := generated.generated response rfl
                exact settled_other (.inr released) nofun (by simp [released])
            | error error => exact settled_generation generated
  · refine body.bind ?_ ?_
    · rintro _ ⟨rfl, _⟩
      exact settled_dropped (.inl rfl)
    · rintro _ result ⟨rfl, possible⟩
      cases result with
      | error error => exact settled_failed (possible _ rfl error rfl).other
      | ok body => exact obeys_runKeyHandler _ (fun _ => rfl) nofun
  · exact obeys_runKeyHandler _ (fun _ => rfl) nofun
  · exact settled_failed (by simp)
  · exact obeys_runKeyHandler _ (fun _ => rfl) nofun

/-- The authentication of a request never asks for a permit. -/
theorem obeys_authMiddleware :
    (authMiddleware state request deadline).Obeys admissionMonitor .idle Settled := by
  unfold authMiddleware
  split
  · exact settled_failed (authError_code _)
  · rename_i presented _
    have still : (authenticateWithDeadline state presented deadline).Asks
        (admissionMonitor.Still .idle) := by
      refine Program.asks_bind (Program.asks_request ⟨rfl, fun _ => rfl⟩) fun now => ?_
      split
      · trivial
      · refine Program.asks_bind ?_ fun result => ?_
        · exact asks_timeoutAt (runAuth_still _) ⟨rfl, fun _ => rfl⟩
        · cases result with
          | none => trivial
          | some result => trivial
    refine (still.obeys (Program.returns_all _)).bind ?_ ?_
    · rintro _ ⟨rfl, _⟩
      exact settled_dropped (.inl rfl)
    · rintro _ result ⟨rfl, _⟩
      cases result with
      | error error => exact settled_failed (authError_code _)
      | ok actor => exact obeys_handleRoute actor

/-- A dropped request is idle, or it has released its permit. -/
theorem Settled.resting {stage : AdmissionStage} (settled : Settled stage none) :
    stage = .idle ∨ stage = .released := by
  cases stage with
  | idle => exact .inl rfl
  | released => exact .inr rfl
  | held => exact absurd rfl settled.unheld
  | refused => exact absurd rfl settled.unrefused
  | counted => cases settled.counted.mp rfl
  | closed => cases settled.closed.mp rfl

theorem obeys_deadlineMiddleware :
    (deadlineMiddleware state request).Obeys admissionMonitor .idle Settled := by
  refine Program.obeys_request_bind.mpr ⟨rfl, fun start => ?_⟩
  refine Program.obeys_bind.mpr (obeys_timeoutAt obeys_authMiddleware ?_ ?_)
  · intro stage response settled
    exact settled
  · intro stage settled
    have resting := settled.resting
    refine ⟨resting, ⟨?_, fun _ => ?_⟩, settled⟩
    · exact resting.imp_right .inr
    · exact settled_other resting (by rintro _ ⟨⟩; simp) fun _ => nofun

end Protected

/-- The events that move the admission of a request. -/
inductive AdmissionMove where
  | grant
  | release
  | refuse
  | count
  | close
  deriving DecidableEq, Repr

def admissionMove (event : GatewayEvent) : Option AdmissionMove :=
  match event with
  | ⟨.tryAcquire, .ok (), _⟩ => some .grant
  | ⟨.tryAcquire, .error .noPermits, _⟩ => some .refuse
  | ⟨.tryAcquire, .error .closed, _⟩ => some .close
  | ⟨.releasePermit, _, _⟩ => some .release
  | ⟨.recordOverloadRejected, _, _⟩ => some .count
  | _ => none

/-- The number of the events of a trace that make one move. -/
def moveCount (move : AdmissionMove) (trace : List GatewayEvent) : Nat :=
  trace.countP fun event => admissionMove event = some move

/-- An allowed event makes the move of its stage, or it moves nothing. -/
inductive Moves : AdmissionStage → Option AdmissionMove → AdmissionStage → Prop
  | still (stage : AdmissionStage) : Moves stage none stage
  | grant : Moves .idle (some .grant) .held
  | release : Moves .held (some .release) .released
  | refuse : Moves .idle (some .refuse) .refused
  | count : Moves .refused (some .count) .counted
  | close : Moves .idle (some .close) .closed

theorem moves_of_allowed (stage : AdmissionStage) (event : GatewayEvent)
    (allowed : admissionMonitor.permits stage event) :
    Moves stage (admissionMove event) (admissionMonitor.read stage event) := by
  obtain ⟨request, reply, span⟩ := event
  cases request with
  | tryAcquire =>
      cases allowed
      cases reply with
      | ok granted => exact .grant
      | error denied =>
          cases denied with
          | closed => exact .close
          | noPermits => exact .refuse
  | releasePermit =>
      cases allowed
      exact .release
  | recordOverloadRejected =>
      cases allowed
      exact .count
  | _ => exact .still stage

/-- The stages after a move. -/
def AdmissionMove.stages : AdmissionMove → List AdmissionStage
  | .grant => [.held, .released]
  | .release => [.released]
  | .refuse => [.refused, .counted]
  | .count => [.counted]
  | .close => [.closed]

/-- A move brings a request into its stages, and no other move does. -/
theorem Moves.enters {stage next : AdmissionStage} {made : Option AdmissionMove}
    (moves : Moves stage made next) (move : AdmissionMove) :
    (if next ∈ move.stages then 1 else 0) =
      (if stage ∈ move.stages then 1 else 0) + (decide (made = some move)).toNat := by
  cases moves with
  | still stage => simp
  | _ => cases move with
    | _ => rfl

/-- An allowed trace makes each move at most once, and its stage tells which ones it made. -/
theorem moveCount_stage (move : AdmissionMove) {trace : List GatewayEvent}
    (always : Observer.Always admissionMonitor.read admissionMonitor.permits .idle trace) :
    moveCount move trace = if AdmissionStage.after trace ∈ move.stages then 1 else 0 := by
  have counted := always.count (fun stage => if stage ∈ move.stages then 1 else 0)
    (fun event => decide (admissionMove event = some move))
    fun stage event allowed => (moves_of_allowed stage event allowed).enters move
  have idle : AdmissionStage.idle ∉ move.stages := by
    cases move with
    | _ => decide
  rw [if_neg idle, Nat.zero_add] at counted
  exact counted.symm

/-- A protected request acquires and releases at most one permit, works only while it holds the
permit, and reports each refusal once, whatever drops it. -/
theorem admission_used_once (state : AppState) (request : ProtectedRequest)
    (trace : List GatewayEvent) (outcome : Option ProtectedResponse)
    (run : (deadlineMiddleware state request).Runs trace outcome) :
    (∀ before event after, trace = before ++ event :: after →
      (AdmissionStage.after before).Allows event.request) ∧
      moveCount .grant trace ≤ 1 ∧ moveCount .release trace = moveCount .grant trace ∧
      moveCount .count trace = moveCount .refuse trace ∧
      (moveCount .count trace =
        if outcome.bind ProtectedResponse.code = some .overloaded then 1 else 0) ∧
      (moveCount .close trace =
        if outcome.bind ProtectedResponse.code = some .draining then 1 else 0) ∧
      ∀ response, outcome = some (.generated response) → moveCount .grant trace = 1 := by
  obtain ⟨always, settled⟩ := obeys_deadlineMiddleware.runs run
  change Settled (AdmissionStage.after trace) outcome at settled
  rw [moveCount_stage .grant always, moveCount_stage .release always,
    moveCount_stage .refuse always, moveCount_stage .count always, moveCount_stage .close always]
  refine ⟨(Observer.always_iff_split _ _).mp always, by split <;> simp, ?_, ?_, ?_, ?_, ?_⟩
  · simp [AdmissionMove.stages, settled.unheld]
  · simp [AdmissionMove.stages, settled.unrefused]
  · simp only [AdmissionMove.stages, List.mem_singleton, settled.counted]
  · simp only [AdmissionMove.stages, List.mem_singleton, settled.closed]
  · intro response answered
    rw [settled.generated response answered]
    rfl

/-- The store finds the key, the body is a greeting, and every permit is taken. -/
def saturatedAnswers (request : GatewayRequest) : request.Reply :=
  match request with
  | .extractBody => some (.ok Ingress.greeting)
  | .tryAcquire => .error .noPermits
  | request => stallingAnswers true request

/-- The run of a generation request in a saturated process. -/
def saturatedRun : List GatewayEvent × Option ProtectedResponse :=
  (deadlineMiddleware plainState keyedRequest).drive
    (fun (_ : Unit) request => (saturatedAnswers request, ⟨0, 0⟩, ())) ()

/-- A saturated process counts its refusal once and grants nothing. -/
theorem admission_used_once_example :
    moveCount .count saturatedRun.1 = 1 ∧ moveCount .grant saturatedRun.1 ≤ 1 := by
  obtain ⟨_, granted, _, _, counted, _⟩ := admission_used_once plainState keyedRequest
    saturatedRun.1 saturatedRun.2 (Program.runs_drive _ _ _)
  have answered : saturatedRun.2.bind ProtectedResponse.code = some .overloaded := rfl
  rw [if_pos answered] at counted
  exact ⟨counted, granted⟩

end Opmux.Gateway
