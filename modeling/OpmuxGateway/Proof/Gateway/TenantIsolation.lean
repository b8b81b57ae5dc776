import OpmuxGateway.Construction.Gateway.Deployment
import OpmuxGateway.Proof.Auth.TenantView
import OpmuxGateway.Proof.Gateway.RequestAuthority

/-
This file proves that a tenant neither changes nor sees the keys of the other tenants.
-/

namespace Opmux.Gateway

open Auth (ApiKeyRow AuthContext AuthDatabase AuthRequest ClientRow KeyDigest StoreRequest
  TenantView Uuid)

/-- A request presents no credential and draws no identifier of these rows. -/
def GatewayRequest.Avoids (rows : List ApiKeyRow) : GatewayRequest → Prop
  | .auth (.store (.authenticateDigest digest _)) => ∀ row ∈ rows, row.keyDigest ≠ digest.bytes
  | .auth (.store (.insertKey key)) => key.Avoids rows
  | _ => True

variable {World : Type} {outside : World → (request : GatewayRequest) → request.Reply × World}
  {state : AppState} {request : ProtectedRequest} {tenant : Uuid} {origin other : AuthDatabase}

/-- Two deployments differ at most in the keys of the other tenants. -/
structure SameTenant (tenant : Uuid) (origin other : AuthDatabase)
    (identity : Option AuthContext) (first second : Deployment World) : Prop where
  view : TenantView tenant origin other first.replica.database second.replica.database
  readings : first.replica.readings = second.replica.readings
  world : first.world = second.world
  identity : ∀ actor, identity = some actor → actor.clientId = tenant

/-- A protected request asks only for operations of the tenant that it authenticated. -/
theorem admits_bound {identity : Option AuthContext} {asked : StoreRequest}
    {rows : List ApiKeyRow} (admits : Admits state request identity (.auth (.store asked)))
    (owner : ∀ actor, identity = some actor → actor.clientId = tenant)
    (avoids : GatewayRequest.Avoids rows (.auth (.store asked))) : asked.Bound tenant rows := by
  cases identity with
  | none =>
      cases admits with
      | lookup presented usedAt single => exact avoids
  | some actor =>
      have own := owner actor rfl
      cases admits with
      | generation _ _ work =>
          cases work with
          | processing processing => cases processing
      | keyWork _ work =>
          generalize request.route = route at work
          cases work with
          | insert key inserts => exact ⟨inserts.trans own, avoids⟩
          | list query limit offset kind _ _ _ => exact own
          | revoke keyId now => exact own

/-- What the identity and every answered row satisfy holds of the next identity. -/
theorem identityStep_keeps {holds : AuthContext → Prop} {identity : Option AuthContext}
    {digest : KeyDigest} {usedAt : Auth.Timestamp}
    {reply : GatewayRequest.Reply (.auth (.store (.authenticateDigest digest usedAt)))}
    (before : ∀ actor, identity = some actor → holds actor)
    (found : ∀ record, reply = some (.ok (some record)) →
      holds ⟨record.clientId, record.id, record.kind⟩) :
    ∀ actor, identityStep identity (.auth (.store (.authenticateDigest digest usedAt))) reply =
      some actor → holds actor := by
  intro actor stepped
  cases reply with
  | none => exact before actor stepped
  | some answer =>
      cases answer with
      | error error => exact before actor stepped
      | ok row =>
          cases row with
          | none => exact before actor stepped
          | some record =>
              change (if record.isRevoked = true then identity else some _) = some actor at stepped
              split at stepped
              · exact before actor stepped
              · cases stepped
                exact found record rfl

/-- Both deployments answer each request of the tenant alike. -/
theorem SameTenant.answer
    (outside : World → (request : GatewayRequest) → request.Reply × World)
    {identity : Option AuthContext} {first second : Deployment World}
    (known : tenant ∈ origin.clients.map ClientRow.id ↔ tenant ∈ other.clients.map ClientRow.id)
    {asked : GatewayRequest} (admits : Admits state request identity asked)
    (avoids : asked.Avoids (origin.foreign tenant ++ other.foreign tenant))
    (same : SameTenant tenant origin other identity first second) :
    ∃ reply firstLater secondLater, first.answer outside asked = (reply, firstLater) ∧
      second.answer outside asked = (reply, secondLater) ∧
      SameTenant tenant origin other (identityStep identity asked reply) firstLater
        secondLater := by
  obtain ⟨⟨firstDatabase, firstReadings⟩, firstWorld⟩ := first
  obtain ⟨⟨secondDatabase, secondReadings⟩, secondWorld⟩ := second
  obtain ⟨view, rfl, rfl, owner⟩ := same
  cases asked with
  | auth asked =>
      cases asked with
      | store asked =>
          have bound := admits_bound admits owner avoids
          obtain ⟨alike, later⟩ := StoreRequest.perform_view view known bound
          refine ⟨_, _, _, rfl, Prod.ext alike.symm rfl, ⟨later, rfl, rfl, ?_⟩⟩
          cases asked with
          | authenticateDigest digest usedAt =>
              exact identityStep_keeps owner (Auth.authenticate_view view usedAt bound).2.2
          | _ => exact owner
      | utcNow | newUuid | fillBytes => exact ⟨_, _, _, rfl, rfl, ⟨view, rfl, rfl, owner⟩⟩
  | _ => exact ⟨_, _, _, rfl, rfl, ⟨view, rfl, rfl, owner⟩⟩

/-- Both deployments serve a protected request of the tenant alike. -/
theorem SameTenant.serve {first second : Deployment World}
    (known : tenant ∈ origin.clients.map ClientRow.id ↔ tenant ∈ other.clients.map ClientRow.id)
    (avoids : ∀ asked ∈ (deadlineMiddleware state request).asked (Deployment.answer outside) first,
      asked.Avoids (origin.foreign tenant ++ other.foreign tenant))
    (same : SameTenant tenant origin other none first second) :
    ((deadlineMiddleware state request).serve (Deployment.answer outside) first).1 =
        ((deadlineMiddleware state request).serve (Deployment.answer outside) second).1 ∧
      SameTenant tenant origin other none
        ((deadlineMiddleware state request).serve (Deployment.answer outside) first).2
        ((deadlineMiddleware state request).serve (Deployment.answer outside) second).2 := by
  have alike (identity : Option AuthContext) (asked : GatewayRequest)
      (one two : Deployment World)
      (admits : (authorityMonitor state request).allowed identity asked)
      (permitted : asked.Avoids (origin.foreign tenant ++ other.foreign tenant))
      (related : SameTenant tenant origin other identity one two) :=
    related.answer outside known admits permitted
  obtain ⟨outcome, firstLast, secondLast, last, one, two, related, _⟩ :=
    authority_deadlineMiddleware.serve_related alike avoids same
  rw [one, two]
  exact ⟨rfl, related.view, related.readings, related.world, nofun⟩

section Session

variable {deployment : Deployment World} {requests : List ProtectedRequest}

/-- A session serves its first request and continues where that request left the deployment. -/
theorem serveSession_cons {served : Option ProtectedResponse × Deployment World}
    (first : (deadlineMiddleware state request).serve (Deployment.answer outside) deployment =
      served) :
    serveSession outside state (request :: requests) deployment =
      ((serveSession outside state requests served.2).1.map (served.1 :: ·),
        (serveSession outside state requests served.2).2) := by
  rw [← first]
  simp only [serveSession, session, List.mapM_cons, Program.serve_bind, Program.serve_attempt]
  generalize ((deadlineMiddleware state request).serve (Deployment.answer outside) deployment) =
    served
  cases Program.serve (Deployment.answer outside) served.2
    (requests.mapM fun request => (deadlineMiddleware state request).attempt) with
  | mk answers later =>
      cases answers with
      | none => rfl
      | some answers => rfl

/-- A session asks the requests of each of its members. -/
theorem asked_session_cons :
    (session state (request :: requests)).asked (Deployment.answer outside) deployment =
      (deadlineMiddleware state request).asked (Deployment.answer outside) deployment ++
        (session state requests).asked (Deployment.answer outside)
          ((deadlineMiddleware state request).serve (Deployment.answer outside) deployment).2 := by
  simp only [session, List.mapM_cons, Program.asked_bind, Program.asked_attempt,
    Program.serve_attempt]
  generalize ((deadlineMiddleware state request).serve (Deployment.answer outside) deployment) =
    served
  cases Program.serve (Deployment.answer outside) served.2
    (requests.mapM fun request => (deadlineMiddleware state request).attempt) with
  | mk answers later =>
      cases answers with
      | none => exact congrArg _ (List.append_nil _)
      | some answers => exact congrArg _ (List.append_nil _)

end Session

/-- Both deployments serve a session of the tenant alike. -/
theorem SameTenant.session (requests : List ProtectedRequest) {first second : Deployment World}
    (known : tenant ∈ origin.clients.map ClientRow.id ↔ tenant ∈ other.clients.map ClientRow.id)
    (avoids : ∀ asked ∈ (session state requests).asked (Deployment.answer outside) first,
      asked.Avoids (origin.foreign tenant ++ other.foreign tenant))
    (same : SameTenant tenant origin other none first second) :
    (serveSession outside state requests first).1 = (serveSession outside state requests second).1 ∧
      SameTenant tenant origin other none (serveSession outside state requests first).2
        (serveSession outside state requests second).2 := by
  induction requests generalizing first second with
  | nil => exact ⟨rfl, same⟩
  | cons request rest ih =>
      rw [asked_session_cons] at avoids
      obtain ⟨answered, later⟩ := same.serve known fun asked member =>
        avoids asked (List.mem_append_left _ member)
      obtain ⟨answers, last⟩ := ih (fun asked member =>
        avoids asked (List.mem_append_right _ member)) later
      rw [serveSession_cons rfl, serveSession_cons rfl, answered, answers]
      exact ⟨rfl, last⟩

/-- Databases that differ only in the keys of the other tenants serve a session of a tenant
alike, and they keep the keys of the other tenants as they are. -/
theorem tenant_isolation (outside : World → (request : GatewayRequest) → request.Reply × World)
    (state : AppState) (tenant : Uuid) (requests : List ProtectedRequest)
    (first second : AuthDatabase) (readings : Auth.Readings) (world : World)
    (own : first.own tenant = second.own tenant)
    (known : tenant ∈ first.clients.map ClientRow.id ↔ tenant ∈ second.clients.map ClientRow.id)
    (avoids : ∀ asked ∈ (session state requests).asked (Deployment.answer outside)
        ⟨⟨first, readings⟩, world⟩,
      asked.Avoids (first.foreign tenant ++ second.foreign tenant)) :
    (serveSession outside state requests ⟨⟨first, readings⟩, world⟩).1 =
        (serveSession outside state requests ⟨⟨second, readings⟩, world⟩).1 ∧
      (serveSession outside state requests ⟨⟨first, readings⟩, world⟩).2.world =
        (serveSession outside state requests ⟨⟨second, readings⟩, world⟩).2.world ∧
      TenantView tenant first second
        (serveSession outside state requests ⟨⟨first, readings⟩, world⟩).2.replica.database
        (serveSession outside state requests ⟨⟨second, readings⟩, world⟩).2.replica.database := by
  have same : SameTenant tenant first second none ⟨⟨first, readings⟩, world⟩
      ⟨⟨second, readings⟩, world⟩ := ⟨⟨own, rfl, rfl, rfl, rfl⟩, rfl, rfl, nofun⟩
  obtain ⟨answers, last⟩ := same.session requests known avoids
  exact ⟨answers, last.world, last.view⟩

/-- A tenant with one management key, and the same tenant beside another one. -/
def managedTenant : AuthDatabase := (Auth.creation 10).apply (fun _ => Auth.zeroDigest) .empty

def otherRow : ApiKeyRow :=
  ⟨9, 8, List.replicate 32 1, "opk_other", "n", "management", 0, none, none⟩

def twoTenants : AuthDatabase :=
  ((managedTenant.insertClient ⟨8, "other", 0⟩).toOption.bind fun database =>
    (database.insertKey otherRow).toOption).getD .empty

def managedState : AppState := { plainState with hashCredential := fun _ => Auth.zeroDigest }

/-- This request revokes the key of the other tenant. -/
def foreignRevocation : ProtectedRequest := ⟨[[107]], none, .revokeKey (some 9)⟩

def stalledWorld (world : Unit) (request : GatewayRequest) : request.Reply × Unit :=
  (stallingAnswers true request, world)

/-- A replica that reads its clock twice. -/
def managedReplica (database : AuthDatabase) : Deployment Unit :=
  ⟨⟨database, ⟨[20, 30], [], []⟩⟩, ()⟩

/-- Revoking the key of another tenant and revoking an unknown key are the same to a tenant. -/
theorem tenant_isolation_example :
    (serveSession stalledWorld managedState [foreignRevocation] (managedReplica twoTenants)).1 =
        (serveSession stalledWorld managedState [foreignRevocation]
          (managedReplica managedTenant)).1 ∧
      (serveSession stalledWorld managedState [foreignRevocation]
        (managedReplica twoTenants)).2.replica.database.foreign 1 = [otherRow] := by
  have others : twoTenants.foreign 1 = [otherRow] := by decide +kernel
  have alone : managedTenant.foreign 1 = [] := by decide +kernel
  have isolated := tenant_isolation stalledWorld managedState 1 [foreignRevocation] twoTenants
    managedTenant ⟨[20, 30], [], []⟩ () (by decide +kernel) (by decide +kernel) ?_
  · exact ⟨isolated.1, isolated.2.2.firstForeign.trans others⟩
  · have asks : (session managedState [foreignRevocation]).asked (Deployment.answer stalledWorld)
        (managedReplica twoTenants) =
          [.clock .requestStart, .clock .authIsExpired, .auth .utcNow,
            .auth (.store (.authenticateDigest Auth.zeroDigest 20)), .auth .utcNow,
            .auth (.store (.revokeKey 1 9 30))] := rfl
    change ∀ asked ∈ (session managedState [foreignRevocation]).asked
      (Deployment.answer stalledWorld) (managedReplica twoTenants), _
    rw [asks, others, alone]
    simp [GatewayRequest.Avoids, otherRow, Auth.zeroDigest]

section Inference

variable {requests : List ProtectedRequest} {database : AuthDatabase}

/-- The digests of the credentials that these requests present. -/
def Presents (state : AppState) (requests : List ProtectedRequest) (digest : KeyDigest) : Prop :=
  ∃ request ∈ requests, ∃ presented, presentedApiKey request.apiKeys = some presented ∧
    digest = state.hashCredential presented

/-- Every presented credential that is stored is the one of an inference key. -/
def InferenceOnly (state : AppState) (requests : List ProtectedRequest)
    (database : AuthDatabase) : Prop :=
  ∀ digest, Presents state requests digest → ∀ row ∈ database.apiKeys,
    row.keyDigest = digest.bytes → row.kind = "inference"

/-- An inference session has recorded only uses and authenticated only inference keys. -/
structure Inferring (state : AppState) (requests : List ProtectedRequest)
    (origin : AuthDatabase) (identity : Option AuthContext) (deployment : Deployment World) :
    Prop where
  used : origin.Used (Presents state requests) deployment.replica.database
  kind : ∀ actor, identity = some actor → actor.kind = .inference

/-- Recorded uses keep the kinds of the presented keys. -/
theorem InferenceOnly.used {origin : AuthDatabase} (only : InferenceOnly state requests origin)
    (used : origin.Used (Presents state requests) database) :
    InferenceOnly state requests database := by
  intro digest presents row member digested
  obtain ⟨before, stored, kept⟩ := used.earlier member
  obtain ⟨digests, kinds⟩ := kept.same
  rw [kinds]
  exact only digest presents before stored (digests ▸ digested)

/-- Each answer keeps an inference session one. -/
theorem Inferring.answer {origin : AuthDatabase} {identity : Option AuthContext}
    {deployment : Deployment World} (only : InferenceOnly state requests origin)
    (member : request ∈ requests) {asked : GatewayRequest}
    (admits : Admits state request identity asked)
    (inferring : Inferring state requests origin identity deployment) :
    Inferring state requests origin
      (identityStep identity asked (deployment.answer outside asked).1)
      (deployment.answer outside asked).2 := by
  obtain ⟨used, kind⟩ := inferring
  cases asked with
  | auth asked =>
      cases identity with
      | some actor =>
          have inference := kind actor rfl
          cases admits with
          | generation _ _ work =>
              cases work with
              | processing processing => cases processing
          | keyWork manager _ =>
              rw [inference] at manager
              cases manager
      | none =>
          cases admits with
          | utcNow => exact ⟨used, nofun⟩
          | lookup presented usedAt single =>
              have presents : Presents state requests (state.hashCredential presented) :=
                ⟨request, member, presented, single, rfl⟩
              refine ⟨used.trans (Auth.authenticate_used _ usedAt presents),
                identityStep_keeps kind fun record answered => ?_⟩
              obtain ⟨row, stored, digested, same⟩ := Auth.authenticate_row answered
              have inference : record.kind.asStr = "inference" := by
                rw [← only.used used _ presents row stored digested, same]
                rfl
              cases found : record.kind with
              | inference => rfl
              | management =>
                  rw [found] at inference
                  exact absurd inference (by decide)
  | _ => exact ⟨used, kind⟩

/-- A session of inference keys changes nothing but the later uses of the presented keys. -/
theorem inference_session (outside : World → (request : GatewayRequest) → request.Reply × World)
    (state : AppState) (requests : List ProtectedRequest) (database : AuthDatabase)
    (readings : Auth.Readings) (world : World) (only : InferenceOnly state requests database) :
    database.Used (Presents state requests)
      (serveSession outside state requests ⟨⟨database, readings⟩, world⟩).2.replica.database := by
  have serves (rest : List ProtectedRequest) (within : ∀ request ∈ rest, request ∈ requests)
      (deployment : Deployment World)
      (used : database.Used (Presents state requests) deployment.replica.database) :
      database.Used (Presents state requests)
        (serveSession outside state rest deployment).2.replica.database := by
    induction rest generalizing deployment with
    | nil => exact used
    | cons request rest ih =>
        rw [serveSession_cons rfl]
        have start : Inferring state requests database none deployment := ⟨used, nofun⟩
        have kept (identity : Option AuthContext) (asked : GatewayRequest)
            (environment : Deployment World)
            (admits : (authorityMonitor state request).allowed identity asked)
            (inferring : Inferring state requests database identity environment) :
            Inferring state requests database
              (identityStep identity asked (environment.answer outside asked).1)
              (environment.answer outside asked).2 :=
          inferring.answer only (within request List.mem_cons_self) admits
        obtain ⟨_, inferring, _⟩ := authority_deadlineMiddleware.serve_keeps kept start
        exact ih (fun other member => within other (List.mem_cons_of_mem _ member)) _ inferring.used
  exact serves requests (fun _ member => member) _ (.refl database)

end Inference

/-- The managed tenant with one more key for inference. -/
def inferenceTenant : AuthDatabase :=
  (managedTenant.insertKey
    ⟨5, 1, List.replicate 32 0, "opk_infer", "n", "inference", 0, none, none⟩).toOption.getD .empty

theorem inferenceTenant_apiKeys : inferenceTenant.apiKeys = [Auth.createdRow 10,
    ⟨5, 1, List.replicate 32 0, "opk_infer", "n", "inference", 0, none, none⟩] := by
  decide +kernel

/-- A generation with the inference key records at most the use of that key. -/
theorem inference_session_example : inferenceTenant.Used (Presents plainState [keyedRequest])
    (serveSession stalledWorld plainState [keyedRequest]
      (managedReplica inferenceTenant)).2.replica.database := by
  refine inference_session stalledWorld plainState [keyedRequest] inferenceTenant
    ⟨[20, 30], [], []⟩ () ?_
  rintro _ ⟨request, _, presented, _, rfl⟩ row member digested
  rw [inferenceTenant_apiKeys] at member
  simp only [List.mem_cons, List.not_mem_nil, or_false] at member
  rcases member with rfl | rfl
  · change Auth.zeroDigest.bytes = List.replicate 32 0 at digested
    exact absurd digested (by decide)
  · rfl

end Opmux.Gateway
