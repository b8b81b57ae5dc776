import OpmuxGateway.Proof.Auth.StoreGrowth
import OpmuxGateway.Proof.Gateway.AdmissionProtocol

/-
This file proves that a protected request does only what its authenticated key may do.
-/

namespace Opmux.Gateway

open Auth (ApiKeyKind AuthContext AuthError AuthProgram AuthRequest AuthenticateError KeyDigest
  StoreRequest Uuid)
open Ingress (IngressError IngressRequest IngressResponse IngressService ingressHandler
  processAdmitted)

/-- A row that the store finds for the presented key gives the identity unless it is revoked. -/
def identityStep (identity : Option AuthContext) :
    (request : GatewayRequest) → request.Reply → Option AuthContext
  | .auth (.store (.authenticateDigest _ _)), some (.ok (some record)) =>
      if record.isRevoked then identity else some ⟨record.clientId, record.id, record.kind⟩
  | _, _ => identity

/-- The identity that a trace has authenticated. -/
def identityAfter (trace : List GatewayEvent) : Option AuthContext :=
  trace.foldl (fun identity event => identityStep identity event.request event.reply) none

/-- Before its authentication a request reads its deadline and looks up its presented key. -/
inductive Anonymous (state : AppState) (request : ProtectedRequest) : GatewayRequest → Prop
  | requestStart : Anonymous state request (.clock .requestStart)
  | authIsExpired : Anonymous state request (.clock .authIsExpired)
  | timer (site : TimerSite) (deadline : Instant) :
      Anonymous state request (.timer site deadline)
  | utcNow : Anonymous state request (.auth .utcNow)
  | lookup (presented : String) (usedAt : Auth.Timestamp) :
      presentedApiKey request.apiKeys = some presented → Anonymous state request
        (.auth (.store (.authenticateDigest (state.hashCredential presented) usedAt)))
  | expiry : Anonymous state request (.execution (.record .deadlineExceeded))

/-- A generation uses the admission and is processed. -/
inductive GenerationWork : GatewayRequest → Prop
  | processing {request : GatewayRequest} : Processing request → GenerationWork request
  | tryAcquire : GenerationWork .tryAcquire
  | releasePermit : GenerationWork .releasePermit
  | recordOverloadRejected : GenerationWork .recordOverloadRejected

/-- The work on the keys stays inside the tenant of its actor. -/
inductive KeyWork (actor : AuthContext) : ProtectedRoute → AuthRequest → Prop
  | createClock : KeyWork actor .createKey .utcNow
  | createId : KeyWork actor .createKey .newUuid
  | createSecret (count : Nat) : KeyWork actor .createKey (.fillBytes count)
  | insert (key : Auth.NewApiKey) : key.clientId = actor.clientId →
      KeyWork actor .createKey (.store (.insertKey key))
  | list (query : Option String) (limit offset : Int) (kind : Option ApiKeyKind) :
      1 ≤ limit → limit ≤ Auth.maxKeyListLimit → 0 ≤ offset →
      KeyWork actor (.listKeys query)
        (.store (.listKeysForClient actor.clientId limit offset kind))
  | revokeClock (keyId : Uuid) : KeyWork actor (.revokeKey (some keyId)) .utcNow
  | revoke (keyId : Uuid) (now : Auth.Timestamp) : KeyWork actor (.revokeKey (some keyId))
      (.store (.revokeKey actor.clientId keyId now))

/-- The kind of the key and the route decide what an authenticated request may ask. -/
inductive Authorized (route : ProtectedRoute) (actor : AuthContext) : GatewayRequest → Prop
  | extractBody : route = .generate ∨ route = .createKey → Authorized route actor .extractBody
  | timer (deadline : Instant) : Authorized route actor (.timer .request deadline)
  | expiry : Authorized route actor (.execution (.record .deadlineExceeded))
  | generation {request : GatewayRequest} : route = .generate → actor.kind = .inference →
      GenerationWork request → Authorized route actor request
  | keyWork {request : AuthRequest} : actor.kind = .management → KeyWork actor route request →
      Authorized route actor (.auth request)

def Admits (state : AppState) (request : ProtectedRequest) :
    Option AuthContext → GatewayRequest → Prop
  | none => Anonymous state request
  | some actor => Authorized request.route actor

/-- An answer tells what the authentication of its request was. -/
inductive Answered (route : ProtectedRoute) : Option AuthContext → ProtectedResponse → Prop
  | unauthenticated (error : HttpError) :
      error.code = .unauthorized ∨ error.code = .authDependencyUnavailable ∨
        error.code = .deadlineExceeded → Answered route none (.failed error)
  | failed (actor : AuthContext) (error : HttpError) : error.code ≠ .unauthorized →
      Answered route (some actor) (.failed error)
  | generated (actor : AuthContext) (response : IngressResponse) : route = .generate →
      actor.kind = .inference → Answered route (some actor) (.generated response)
  | created (actor : AuthContext) (issued : Auth.IssuedKey) : route = .createKey →
      actor.kind = .management → Answered route (some actor) (.created issued)
  | listed (actor : AuthContext) (query : Option String) (inventory : Auth.KeyInventory) :
      route = .listKeys query → actor.kind = .management →
      Answered route (some actor) (.listed inventory)
  | revoked (actor : AuthContext) (keyId : Uuid) : route = .revokeKey (some keyId) →
      actor.kind = .management → Answered route (some actor) .revoked

def authorityMonitor (state : AppState) (request : ProtectedRequest) :
    Monitor (Option AuthContext) GatewayRequest GatewayRequest.Reply :=
  ⟨identityStep, Admits state request⟩

/-- A request that is authenticated ends with its own identity and an answer to it. -/
def Ends (route : ProtectedRoute) (identity : Option AuthContext) :
    Option ProtectedResponse → Prop
  | some response => Answered route identity response
  | none => True

section Keys

variable {hashCredential : String → KeyDigest} {actor : AuthContext}

theorem asks_issueKey {kind : ApiKeyKind} {name : String}
    {issuance : ExceptT Auth.ProvisionError AuthProgram Auth.IssuedKey}
    (issues : Auth.ProvisioningService.issueKey hashCredential actor.clientId kind name =
      issuance) : Program.Asks (KeyWork actor .createKey) issuance.run := by
  rw [← issues, Auth.ProvisioningService.issueKey]
  cases Auth.validateName name with
  | error error => trivial
  | ok stored =>
      rw [Program.asks_except_ok]
      apply Auth.asks_generated hashCredential fun count => .createSecret count
      intro payload displayRandom
      apply Program.asks_except_bind (Program.asks_except_lift (Auth.asks_newUuid .createId))
      intro id
      apply Program.asks_except_bind (Program.asks_except_lift (Auth.asks_utcNow .createClock))
      intro createdAt
      exact Program.asks_except_bind (Auth.asks_provisionStore (.insert _ rfl)) fun _ => trivial

theorem asks_createKey (name : String) (kind : ApiKeyKind) :
    Program.Asks (KeyWork actor .createKey)
      (Auth.AuthService.createKey hashCredential actor name kind).run := by
  unfold Auth.AuthService.createKey
  generalize issues : Auth.ProvisioningService.issueKey hashCredential actor.clientId kind name =
    issuance
  refine Program.asks_except_bind trivial fun _ => ?_
  refine Program.asks_except_bind (Program.asks_except_lift (asks_issueKey issues)) fun issued => ?_
  cases issued with
  | error error => trivial
  | ok issued => trivial

/-- A created key belongs to the tenant of the key that creates it. -/
theorem asks_createApiKey (body : Json) :
    Program.Asks (KeyWork actor .createKey) (Auth.createApiKey hashCredential actor body).run := by
  refine Program.asks_except_bind trivial fun _ => ?_
  refine Program.asks_except_bind trivial fun parsed => ?_
  exact asks_createKey parsed.1 parsed.2

/-- A listing and its look ahead stay inside the bounds of a page. -/
theorem asks_listApiKeys (query : Option String) :
    Program.Asks (KeyWork actor (.listKeys query)) (Auth.listApiKeys actor query).run := by
  refine Program.asks_except_bind trivial fun _ => ?_
  refine Program.asks_except_bind trivial fun options => ?_
  refine Program.asks_except_bind trivial fun _ => ?_
  split
  · trivial
  · rename_i limited
    obtain ⟨least, most⟩ := not_not.mp limited
    split
    · trivial
    · rename_i positive
      have first : 0 ≤ options.offset := not_lt.mp positive
      refine Program.asks_except_bind (Auth.asks_serviceStore (.list _ _ _ _ least most first))
        fun records => Program.asks_except_bind ?_ fun _ => trivial
      unfold Auth.AuthService.hasMore
      split
      · split
        · rename_i next sum
          refine Program.asks_except_bind (Auth.asks_serviceStore ?_) fun _ => trivial
          refine .list _ _ _ _ le_rfl (by decide) ?_
          unfold Auth.checkedAddI64 at sum
          split at sum
          · cases sum
            omega
          · cases sum
        · trivial
      · trivial

theorem asks_revokeApiKey (keyId : Uuid) :
    Program.Asks (KeyWork actor (.revokeKey (some keyId))) (Auth.revokeApiKey actor keyId).run := by
  refine Program.asks_except_bind trivial fun _ => ?_
  refine Program.asks_except_bind trivial fun _ => ?_
  refine Program.asks_except_bind
    (Program.asks_except_lift (Program.asks_request (.revokeClock keyId))) fun now => ?_
  refine Program.asks_except_bind (Auth.asks_serviceStore (.revoke keyId now)) fun outcome => ?_
  cases outcome with
  | revoked record => trivial
  | alreadyRevoked record => trivial
  | notFound => trivial

end Keys

section Errors

variable {hashCredential : String → KeyDigest} {actor : AuthContext} {Value : Type}

/-- The handlers of the keys never reject the credentials themselves. -/
def Authentic (error : AuthError) : Prop := error ≠ .invalidCredentials

theorem fails_requireManagement : Program.Fails Authentic
    (ExceptT.mk (pure (Auth.AuthService.requireManagement actor)) :
      ExceptT AuthError AuthProgram _) := by
  refine Program.fails_known fun error failed => ?_
  unfold Auth.AuthService.requireManagement at failed
  split at failed
  · cases failed
    exact nofun
  · cases failed

theorem fails_serviceStore (request : StoreRequest) :
    Program.Fails Authentic (Auth.AuthService.serviceStore request) := by
  refine Program.fails_bind (Program.fails_lift _) fun result => ?_
  cases result with
  | ok value => exact Program.fails_pure
  | error error =>
      refine Program.fails_throw ?_
      cases error with
      | _ => exact nofun

theorem rejects_input {message : String} :
    (.error (.invalidInput message) : Except AuthError Value).Rejects Authentic :=
  Except.rejects_error nofun

theorem fails_createKey (name : String) (kind : ApiKeyKind) :
    Program.Fails Authentic (Auth.AuthService.createKey hashCredential actor name kind) := by
  refine Program.fails_bind fails_requireManagement fun _ => ?_
  refine Program.fails_bind (Program.fails_lift _) fun result => ?_
  cases result with
  | ok issued => exact Program.fails_pure
  | error error =>
      refine Program.fails_throw ?_
      cases error with
      | _ => exact nofun

theorem fails_createApiKey (body : Json) :
    Program.Fails Authentic (Auth.createApiKey hashCredential actor body) := by
  have parsed : (Auth.parseCreateKeyRequest body).Rejects Authentic := by
    unfold Auth.parseCreateKeyRequest
    split
    · exact rejects_input
    · split
      · exact rejects_input
      · split
        · exact rejects_input
        · split
          · exact rejects_input
          · dsimp only
            split
            · exact Except.rejects_ok
            · split
              · exact Except.rejects_ok
              · exact rejects_input
  refine Program.fails_bind fails_requireManagement fun _ => ?_
  exact Program.fails_bind (Program.fails_known parsed) fun parsed =>
    fails_createKey parsed.1 parsed.2

theorem readListOption_rejects (options : Auth.KeyListOptions) (key value : String) :
    (Auth.readListOption options key value).Rejects Authentic := by
  have number (raw field : String) : (Auth.parseI64Query raw field).Rejects Authentic := by
    unfold Auth.parseI64Query
    split
    · exact Except.rejects_ok
    · exact rejects_input
  unfold Auth.readListOption
  split
  · exact rejects_input
  · split
    · refine (number _ _).bind fun limit => ?_
      split
      · exact Except.rejects_ok
      · exact rejects_input
    · split
      · refine (number _ _).bind fun offset => ?_
        split
        · exact rejects_input
        · exact Except.rejects_ok
      · split
        · refine Except.Rejects.bind ?_ fun _ => Except.rejects_ok
          unfold Auth.parseKindQuery
          split
          · exact Except.rejects_ok
          · split
            · exact Except.rejects_ok
            · exact rejects_input
        · exact rejects_input

theorem readListPairs_rejects (seen : List String) (options : Auth.KeyListOptions)
    (pairs : List (List Char)) : (Auth.readListPairs seen options pairs).Rejects Authentic := by
  induction pairs generalizing seen options with
  | nil => exact Except.rejects_ok
  | cons pair rest ih =>
      rw [Auth.readListPairs]
      split
      · exact ih seen options
      · dsimp only
        split
        · exact rejects_input
        · exact (readListOption_rejects _ _ _).bind fun options => ih _ options

theorem fails_listApiKeys (query : Option String) :
    Program.Fails Authentic (Auth.listApiKeys actor query) := by
  have parsed : (Auth.parseListKeysQuery query).Rejects Authentic := by
    unfold Auth.parseListKeysQuery
    split
    · exact Except.rejects_ok
    · exact readListPairs_rejects _ _ _
  refine Program.fails_bind fails_requireManagement fun _ => ?_
  refine Program.fails_bind (Program.fails_known parsed) fun options => ?_
  refine Program.fails_bind fails_requireManagement fun _ => ?_
  split
  · exact Program.fails_throw nofun
  · split
    · exact Program.fails_throw nofun
    · refine Program.fails_bind (fails_serviceStore _) fun records => ?_
      refine Program.fails_bind ?_ fun _ => Program.fails_pure
      unfold Auth.AuthService.hasMore
      split
      · split
        · exact Program.fails_bind (fails_serviceStore _) fun _ => Program.fails_pure
        · exact Program.fails_pure
      · exact Program.fails_pure

theorem fails_revokeApiKey (keyId : Uuid) :
    Program.Fails Authentic (Auth.revokeApiKey actor keyId) := by
  refine Program.fails_bind fails_requireManagement fun _ => ?_
  refine Program.fails_bind fails_requireManagement fun _ => ?_
  refine Program.fails_bind (Program.fails_lift _) fun now => ?_
  refine Program.fails_bind (fails_serviceStore _) fun outcome => ?_
  split
  · exact Program.fails_pure
  · exact Program.fails_pure
  · exact Program.fails_throw nofun

end Errors

section Protected

variable {state : AppState} {request : ProtectedRequest} {deadline : RequestDeadline}
  {actor : AuthContext}

/-- The work on the keys never looks up a credential. -/
theorem identityStep_keyWork {route : ProtectedRoute} {asked : AuthRequest}
    (work : KeyWork actor route asked) (identity : Option AuthContext) (reply : asked.Reply) :
    identityStep identity (.auth asked) reply = identity := by
  cases work with
  | _ => rfl

theorem still_keyWork (manager : actor.kind = .management) {asked : AuthRequest}
    (work : KeyWork actor request.route asked) :
    (authorityMonitor state request).Still (some actor) (.auth asked) :=
  ⟨.keyWork manager work, identityStep_keyWork work _⟩

theorem still_generation (routed : request.route = .generate) (kind : actor.kind = .inference)
    {asked : GatewayRequest} (work : GenerationWork asked) :
    (authorityMonitor state request).Still (some actor) asked := by
  refine ⟨.generation routed kind work, fun reply => ?_⟩
  cases work with
  | processing processing => cases processing with
    | _ => rfl
  | _ => rfl

theorem asks_processAdmitted {service : IngressService} {ingress : IngressRequest} :
    (processAdmitted service ingress deadline).Asks GenerationWork := by
  have release : (Program.request GatewayRequest.releasePermit : GatewayEffect Unit).Asks
      GenerationWork := Program.asks_request .releasePermit
  refine Program.asks_bind (Program.asks_onDrop
    (asks_processRequest.mono fun _ => .processing) release) fun result => ?_
  exact Program.asks_bind release fun _ => trivial

theorem asks_ingressHandler {toVec : Json → Option (List UInt8)} {service : IngressService}
    (body : Json) :
    (ingressHandler toVec service .inference body deadline).Asks GenerationWork := by
  unfold ingressHandler
  rw [if_neg (by simp)]
  split
  · trivial
  · refine ⟨.tryAcquire, fun granted => ?_⟩
    cases granted with
    | ok granted => exact asks_processAdmitted
    | error denied =>
        cases denied with
        | closed => trivial
        | noPermits => exact ⟨.recordOverloadRejected, fun _ => trivial⟩

/-- An answered failure of an authenticated request is not one of its credentials. -/
theorem obeys_failed {error : HttpError} (other : error.code ≠ .unauthorized) :
    (pure (.failed error) : GatewayEffect ProtectedResponse).Obeys (authorityMonitor state request)
      (some actor) (Ends request.route) :=
  .failed actor error other

theorem BodyRejection.known {code : ErrorCode} (rejection : BodyRejection code) :
    code ≠ .unauthorized := by
  cases rejection with
  | _ => exact nofun

/-- The answer of a generation never reports its credentials. -/
theorem intoResponse_known {error : IngressError} (other : error ≠ .authenticationRequired) :
    error.intoResponse.code ≠ .unauthorized := by
  cases error with
  | executionFailed cause => cases cause with
    | _ => exact nofun
  | authenticationRequired => exact absurd rfl other
  | _ => exact nofun

/-- A generation works for an inference key and refuses every other one. -/
theorem authority_generation (routed : request.route = .generate) (body : Json) :
    (ingressHandler state.toVec state.ingress actor.kind body deadline).Obeys
      (authorityMonitor state request) (some actor) fun identity outcome =>
        identity = some actor ∧ ∀ result, outcome = some result →
          (∀ response, result = .ok response → actor.kind = .inference) ∧
          result.Rejects fun error => error ≠ .authenticationRequired := by
  have returns := Ingress.ingressHandler_returns state.toVec state.ingress actor.kind body deadline
  by_cases kind : actor.kind = .inference
  · have asks : (ingressHandler state.toVec state.ingress .inference body deadline).Asks
        GenerationWork := asks_ingressHandler body
    rw [kind] at returns ⊢
    apply ((asks.mono fun _ => still_generation routed kind).obeys returns).mono
    rintro _ outcome ⟨rfl, possible⟩
    exact ⟨rfl, fun result found => ⟨fun _ _ => rfl, possible result found⟩⟩
  · rw [ingressHandler, if_pos kind]
    refine ⟨rfl, ?_⟩
    rintro _ ⟨⟩
    exact ⟨nofun, Except.rejects_error nofun⟩

theorem requireManagement_denied (other : actor.kind ≠ .management) :
    Auth.AuthService.requireManagement actor = .error .capabilityDenied := by
  rw [Auth.AuthService.requireManagement, if_pos other]

/-- A handler of the keys works for a management key and refuses every other one. -/
theorem authority_runKeyHandler {Value : Type} {respond : Value → ProtectedResponse}
    {handler : ExceptT AuthError AuthProgram Value} (fails : Program.Fails Authentic handler)
    (works : Program.Asks (KeyWork actor request.route) handler.run)
    (denied : actor.kind ≠ .management → handler.run = pure (.error .capabilityDenied))
    (answers : actor.kind = .management → ∀ value,
      Answered request.route (some actor) (respond value)) :
    (runKeyHandler respond handler).Obeys (authorityMonitor state request) (some actor)
      (Ends request.route) := by
  unfold runKeyHandler
  by_cases manager : actor.kind = .management
  · have asks : (runAuth handler.run).Asks
        ((authorityMonitor state request).Still (some actor)) :=
      (works.mono fun _ => still_keyWork manager).embed
    refine (asks.obeys fails.embed).bind (fun _ _ => trivial) ?_
    rintro _ result ⟨rfl, possible⟩
    cases result with
    | ok value => exact answers manager value
    | error error =>
        have other : error ≠ .invalidCredentials := possible _ rfl error rfl
        refine obeys_failed ?_
        cases error with
        | invalidCredentials => exact absurd rfl other
        | _ => exact nofun
  · rw [denied manager]
    exact obeys_failed nofun

theorem authority_handleRoute :
    (handleRoute state request actor deadline).Obeys (authorityMonitor state request) (some actor)
      (Ends request.route) := by
  have body (reads : request.route = .generate ∨ request.route = .createKey) :
      (apiJson state request).Obeys (authorityMonitor state request) (some actor)
        fun identity outcome => identity = some actor ∧ ∀ result, outcome = some result →
          result.Rejects fun error => BodyRejection error.code :=
    (asks_apiJson ⟨.extractBody reads, fun _ => rfl⟩).obeys apiJson_rejects
  unfold handleRoute
  split
  · rename_i routed
    refine (body (.inl routed)).bind (fun _ _ => trivial) ?_
    rintro _ result ⟨rfl, possible⟩
    cases result with
    | error error => exact obeys_failed (possible _ rfl error rfl).known
    | ok body =>
        refine (authority_generation routed body).bind (fun _ _ => trivial) ?_
        rintro _ result ⟨rfl, possible⟩
        obtain ⟨kind, others⟩ := possible result rfl
        cases result with
        | ok response => exact .generated actor response routed (kind response rfl)
        | error error => exact obeys_failed (intoResponse_known (others error rfl))
  · rename_i routed
    refine (body (.inr routed)).bind (fun _ _ => trivial) ?_
    rintro _ result ⟨rfl, possible⟩
    cases result with
    | error error => exact obeys_failed (possible _ rfl error rfl).known
    | ok body =>
        refine authority_runKeyHandler (fails_createApiKey body) ?_ ?_ ?_
        · rw [routed]
          exact asks_createApiKey body
        · intro other
          unfold Auth.createApiKey
          rw [requireManagement_denied other]
          rfl
        · intro manager issued
          exact .created actor issued routed manager
  · rename_i query routed
    refine authority_runKeyHandler (fails_listApiKeys query) ?_ ?_ ?_
    · rw [routed]
      exact asks_listApiKeys query
    · intro other
      unfold Auth.listApiKeys
      rw [requireManagement_denied other]
      rfl
    · intro manager inventory
      exact .listed actor query inventory routed manager
  · exact obeys_failed nofun
  · rename_i keyId routed
    refine authority_runKeyHandler (fails_revokeApiKey keyId) ?_ ?_ ?_
    · rw [routed]
      exact asks_revokeApiKey keyId
    · intro other
      unfold Auth.revokeApiKey
      rw [requireManagement_denied other]
      rfl
    · intro manager _
      exact .revoked actor keyId routed manager

/-- An authentication ends with the identity of the row that it found. -/
def Authenticates (identity : Option AuthContext) :
    Option (Except AuthenticateError AuthContext) → Prop
  | some (.ok actor) => identity = some actor
  | some (.error _) | none => identity = none

theorem authority_authenticate {presented : String}
    (single : presentedApiKey request.apiKeys = some presented) :
    (runAuth (Auth.AuthService.authenticate state.hashCredential presented).run).Obeys
      (authorityMonitor state request) none Authenticates := by
  apply Program.obeys_embed
  refine ⟨.utcNow, fun now => ⟨.lookup presented now single, fun answer => ?_⟩⟩
  cases answer with
  | none => rfl
  | some answer =>
      cases answer with
      | error error => rfl
      | ok found =>
          cases found with
          | none => rfl
          | some record =>
              change Program.Obeys _ (if record.isRevoked = true then none else some _)
                (if record.isRevoked = true then throw .invalidCredentials else pure _ :
                  ExceptT AuthenticateError AuthProgram AuthContext).run Authenticates
              split
              · rfl
              · rfl

theorem authority_authenticateWithDeadline {presented : String}
    (single : presentedApiKey request.apiKeys = some presented) :
    (authenticateWithDeadline state presented deadline).Obeys (authorityMonitor state request) none
      Authenticates := by
  refine Program.obeys_request_bind.mpr ⟨.authIsExpired, fun now => ?_⟩
  split
  · rfl
  · refine Program.obeys_bind.mpr (obeys_timeoutAt (authority_authenticate single) ?_ ?_)
    · intro identity result authenticated
      exact authenticated
    · rintro _ ⟨⟩
      exact ⟨.timer _ _, rfl, rfl⟩

theorem authority_authMiddleware :
    (authMiddleware state request deadline).Obeys (authorityMonitor state request) none
      fun identity outcome => Ends request.route identity outcome := by
  unfold authMiddleware
  split
  · exact .unauthenticated _ (.inl rfl)
  · rename_i presented single
    refine (authority_authenticateWithDeadline single).bind (fun _ _ => trivial) ?_
    intro identity result authenticated
    cases result with
    | ok actor =>
        cases authenticated
        exact authority_handleRoute
    | error error =>
        cases authenticated
        refine .unauthenticated _ ?_
        cases error with
        | invalidCredentials => exact .inl rfl
        | storeUnavailable => exact .inr (.inl rfl)
        | deadlineExceeded => exact .inr (.inr rfl)

theorem authority_deadlineMiddleware :
    (deadlineMiddleware state request).Obeys (authorityMonitor state request) none
      (Ends request.route) := by
  refine Program.obeys_request_bind.mpr ⟨.requestStart, fun start => ?_⟩
  refine Program.obeys_bind.mpr (obeys_timeoutAt authority_authMiddleware ?_ ?_)
  · intro identity response answered
    exact answered
  · intro identity _
    cases identity with
    | none =>
        exact ⟨.timer _ _, ⟨.expiry, fun _ => .unauthenticated _ (.inr (.inr rfl))⟩, trivial⟩
    | some actor =>
        exact ⟨.timer _, ⟨.expiry, fun _ => .failed actor _ nofun⟩, trivial⟩

end Protected

/-- A protected request looks up only its own single key, and after the store has answered an
unrevoked row it does and answers only what the route and the row permit. -/
theorem request_authority (state : AppState) (request : ProtectedRequest)
    (trace : List GatewayEvent) (outcome : Option ProtectedResponse)
    (run : (deadlineMiddleware state request).Runs trace outcome) :
    (∀ before event after, trace = before ++ event :: after →
      Admits state request (identityAfter before) event.request) ∧
      ∀ response, outcome = some response →
        Answered request.route (identityAfter trace) response := by
  obtain ⟨always, ends⟩ := authority_deadlineMiddleware.runs run
  refine ⟨(Observer.always_iff_split _ _).mp always, ?_⟩
  rintro response rfl
  exact ends

/-- A saturated process refuses a generation of an inference key that it authenticated. -/
theorem request_authority_example : Answered .generate (some ⟨2, 1, .inference⟩)
    (.failed ⟨.overloaded, "The service is overloaded", some 1⟩) := by
  have authority := request_authority plainState keyedRequest saturatedRun.1 saturatedRun.2
    (Program.runs_drive _ _ _)
  have found : identityAfter saturatedRun.1 = some ⟨2, 1, .inference⟩ := rfl
  rw [found] at authority
  exact authority.2 _ rfl

end Opmux.Gateway
