import OpmuxGateway.Construction.Auth.FailingStore
import OpmuxGateway.Library.Observer
import OpmuxGateway.Proof.Auth.StoreGrowth

/-
This file proves that a provisioning attempt adds its complete data or nothing.
-/

namespace Opmux.Auth

/-- An interrupted operation leaves its complete data or the database before it. -/
inductive Atomic {Error Value : Type} (before : AuthDatabase)
    (Complete : Value → AuthDatabase → Prop) :
    Option (Except Error Value) × AuthDatabase → Prop
  | finished {value : Value} {later : AuthDatabase} (complete : Complete value later) :
      Atomic before Complete (some (.ok value), later)
  | failed (error : Error) : Atomic before Complete (some (.error error), before)
  | dropped : Atomic before Complete (none, before)
  | committed {value : Value} {later : AuthDatabase} (complete : Complete value later) :
      Atomic before Complete (none, later)

/-- A failing session leaves the result of a transaction and the committed database. -/
def FailingSession.finish {Value : Type} (failing : FailingSession)
    (transaction : Transaction Value) : Option (Except AuthStoreError Value) × AuthDatabase :=
  let (outcome, last) := Program.serve FailingSession.answer failing transaction.run
  (outcome, last.session.committed)

/-- A statement is served, is rejected without an effect, or is dropped before or after it. -/
theorem FailingSession.answer_cases (failing : FailingSession) (statement : Statement) :
    failing.answer statement =
        ((failing.session.answer statement).1,
          ⟨(failing.session.answer statement).2, failing.faults.tail⟩) ∨
      (∃ error, failing.answer statement =
        (some (.error error), ⟨failing.session, failing.faults.tail⟩)) ∨
      ∃ session, (session = failing.session ∨ session = (failing.session.answer statement).2) ∧
        failing.answer statement = (none, ⟨session, failing.faults.tail⟩) := by
  unfold FailingSession.answer
  dsimp only
  cases failing.faults.headD .served with
  | served => exact .inl rfl
  | rejected error => exact .inr (.inl ⟨error, rfl⟩)
  | dropped applied =>
      right
      right
      cases applied with
      | false => exact ⟨_, .inl rfl, rfl⟩
      | true => exact ⟨_, .inr rfl, rfl⟩

section Rules

variable {before working : AuthDatabase} {Value : Type}
  {Complete : Value → AuthDatabase → Prop} {faults : List Fault}

/-- A transaction starts from the committed database. -/
theorem atomic_begin {next : Unit → Transaction Value}
    (rest : ∀ faults, Atomic before Complete
      (FailingSession.finish ⟨⟨before, some before⟩, faults⟩ (next ()))) :
    Atomic before Complete
      (FailingSession.finish ⟨⟨before, none⟩, faults⟩ (attempt .begin >>= next)) := by
  unfold FailingSession.finish at *
  rw [serve_attempt]
  rcases FailingSession.answer_cases ⟨⟨before, none⟩, faults⟩ .begin with
    served | ⟨error, rejected⟩ | ⟨session, rfl | rfl, dropped⟩
  · rw [served]
    exact rest faults.tail
  · rw [rejected]
    exact .failed _
  · rw [dropped]
    exact .dropped
  · rw [dropped]
    exact .dropped

/-- A transaction that rolls back leaves the database before it, even when the rollback fails. -/
theorem atomic_rollback {failing : FailingSession} (kept : failing.session.committed = before)
    (error : AuthStoreError) :
    Atomic before Complete
      ((failing.answer .rollback).1.map fun _ => (.error error : Except AuthStoreError Value),
        (failing.answer .rollback).2.session.committed) := by
  subst kept
  rcases failing.answer_cases .rollback with
    served | ⟨failure, rejected⟩ | ⟨session, rfl | rfl, dropped⟩
  · rw [served]
    exact .failed error
  · rw [rejected]
    exact .failed error
  · rw [dropped]
    exact .dropped
  · rw [dropped]
    exact .dropped

/-- A statement of a transaction leaves the committed database alone. -/
theorem atomic_attemptOrRollback {statement : Statement}
    {next : statement.Rows → Transaction Value}
    (inside : ((⟨before, some working⟩ : Session).answer statement).2.committed = before)
    (rest : ∀ rows session faults,
      (⟨before, some working⟩ : Session).answer statement = (some (.ok rows), session) →
        Atomic before Complete (FailingSession.finish ⟨session, faults⟩ (next rows))) :
    Atomic before Complete
      (FailingSession.finish ⟨⟨before, some working⟩, faults⟩
        (attemptOrRollback statement >>= next)) := by
  unfold FailingSession.finish at *
  rw [serve_attemptOrRollback]
  rcases answered : (⟨before, some working⟩ : Session).answer statement with ⟨answer, session⟩
  rw [answered] at inside
  rcases FailingSession.answer_cases ⟨⟨before, some working⟩, faults⟩ statement with
    served | ⟨error, rejected⟩ | ⟨session, rfl | rfl, dropped⟩
  · rw [served, answered]
    rcases answer with _ | error | rows
    · dsimp only at inside ⊢
      rw [inside]
      exact .dropped
    · exact atomic_rollback inside _
    · exact rest rows session faults.tail answered
  · rw [rejected]
    exact @atomic_rollback before Value Complete ⟨⟨before, some working⟩, faults.tail⟩ rfl _
  · rw [dropped]
    exact .dropped
  · rw [dropped, answered]
    dsimp only at inside ⊢
    rw [inside]
    exact .dropped

/-- An inserted client is written to the transaction only. -/
theorem atomic_insertClient {client : NewClient} {next : ClientRow → Transaction Value}
    (rest : ∀ later faults, working.insertClient client.toRow = .ok later →
      Atomic before Complete
        (FailingSession.finish ⟨⟨before, some later⟩, faults⟩ (next client.toRow))) :
    Atomic before Complete
      (FailingSession.finish ⟨⟨before, some working⟩, faults⟩
        (attemptOrRollback (.insertClient client) >>= next)) := by
  apply atomic_attemptOrRollback
  · simp only [Session.answer, Session.current, Option.getD_some]
    split
    · rfl
    · rfl
  · intro rows session faults answered
    simp only [Session.answer, Session.current, Option.getD_some] at answered
    split at answered
    · rename_i later inserted
      cases answered
      exact rest later faults inserted
    · cases answered

/-- An inserted key is written to the transaction only, and its row decodes. -/
theorem atomic_insertKeyRow {key : NewApiKey} {next : ApiKeyRecord → Transaction Value}
    (rest : ∀ later faults, working.insertKey key.toRow = .ok later →
      Atomic before Complete
        (FailingSession.finish ⟨⟨before, some later⟩, faults⟩ (next key.toRecord))) :
    Atomic before Complete
      (FailingSession.finish ⟨⟨before, some working⟩, faults⟩
        (PostgresAuthStore.insertKeyRow key >>= next)) := by
  rw [PostgresAuthStore.insertKeyRow, bind_assoc]
  apply atomic_attemptOrRollback
  · simp only [Session.answer, Session.current, Option.getD_some]
    split
    · rfl
    · rfl
  · intro rows session faults answered
    simp only [Session.answer, Session.current, Option.getD_some] at answered
    split at answered
    · rename_i later inserted
      cases answered
      have decodes : apiKeyFromRow key.toRow = .ok key.toRecord := apiKeyFromRow_eq_ok.mpr rfl
      rw [decodeOrRollback, decodes]
      exact rest later faults inserted
    · cases answered

/-- A rejected commit leaves the database before the transaction. -/
theorem atomic_commit {value : Value} (complete : Complete value working) :
    Atomic before Complete
      (FailingSession.finish ⟨⟨before, some working⟩, faults⟩
        (attempt .commit >>= fun _ => pure value)) := by
  unfold FailingSession.finish
  rw [serve_attempt]
  rcases FailingSession.answer_cases ⟨⟨before, some working⟩, faults⟩ .commit with
    served | ⟨error, rejected⟩ | ⟨session, rfl | rfl, dropped⟩
  · rw [served]
    exact .finished complete
  · rw [rejected]
    exact .failed _
  · rw [dropped]
    exact .dropped
  · rw [dropped]
    exact .committed complete

end Rules

section Transactions

variable {before : AuthDatabase} {faults : List Fault}

/-- A client and one key are added together. -/
def AddsTenant (before : AuthDatabase) (client : NewClient) (key : NewApiKey)
    (later : AuthDatabase) : Prop :=
  later.clients = before.clients ++ [client.toRow] ∧
    later.apiKeys = before.apiKeys ++ [key.toRow]

/-- One key is added, and the clients stay. -/
def AddsKey (before : AuthDatabase) (key : NewApiKey) (later : AuthDatabase) : Prop :=
  later.clients = before.clients ∧ later.apiKeys = before.apiKeys ++ [key.toRow]

theorem provisionClientWithKey_atomic (client : NewClient) (key : NewApiKey) :
    Atomic before (fun _ => AddsTenant before client key)
      ((PostgresAuthStore.provisionClientWithKey client key).performUnder faults before) := by
  unfold PostgresAuthStore.provisionClientWithKey
  split
  · exact .failed _
  · apply atomic_begin
    intro faults
    apply atomic_insertClient
    intro middle faults added
    apply atomic_insertKeyRow
    intro later faults inserted
    apply atomic_commit
    obtain ⟨keys, clients⟩ := AuthDatabase.insertClient_eq_ok added
    obtain ⟨rows, owners⟩ := AuthDatabase.insertKey_eq_ok inserted
    exact ⟨owners.trans clients, by rw [rows, keys]⟩

theorem insertKey_atomic (key : NewApiKey) :
    Atomic before (fun _ => AddsKey before key)
      ((PostgresAuthStore.insertKey key).performUnder faults before) := by
  apply atomic_begin
  intro faults
  apply atomic_insertKeyRow
  intro later faults inserted
  apply atomic_commit
  obtain ⟨rows, owners⟩ := AuthDatabase.insertKey_eq_ok inserted
  exact ⟨owners, rows⟩

end Transactions

/-- A replica leaves the result of a service and the shared database. -/
def Replica.finish {Error Value : Type} (faults : List Fault) (replica : Replica)
    (program : ExceptT Error AuthProgram Value) : Option (Except Error Value) × AuthDatabase :=
  let (outcome, last) := Program.serve (Replica.answerUnder faults) replica program.run
  (outcome, last.database)

theorem finish_ok {Error First Value : Type} {faults : List Fault} {replica : Replica}
    {value : First} {next : First → ExceptT Error AuthProgram Value} :
    Replica.finish faults replica (ExceptT.mk (pure (.ok value)) >>= next) =
      Replica.finish faults replica (next value) := rfl

section Services

variable {before : AuthDatabase} {faults : List Fault} {readings : Readings} {Error Value : Type}
  {Complete : Value → AuthDatabase → Prop}

/-- A reading keeps the database. -/
def AuthRequest.Reads : AuthRequest → Prop
  | .store _ => False
  | _ => True

/-- What comes after the readings of a service decides whether it is atomic. -/
theorem atomic_reads {First : Type} {first : ExceptT Error AuthProgram First}
    {next : First → ExceptT Error AuthProgram Value}
    (reads : Program.Asks AuthRequest.Reads first.run)
    (rest : ∀ value readings,
      Atomic before Complete (Replica.finish faults ⟨before, readings⟩ (next value))) :
    Atomic before Complete (Replica.finish faults ⟨before, readings⟩ (first >>= next)) := by
  have kept : (Program.serve (Replica.answerUnder faults) ⟨before, readings⟩ first.run).2.database =
      before := by
    apply Program.serve_invariant (fun replica : Replica => replica.database = before) _ reads rfl
    intro replica request read same
    cases request with
    | store => exact read.elim
    | utcNow | newUuid | fillBytes => exact same
  unfold Replica.finish at *
  rw [Program.serve_except_bind]
  rcases served : Program.serve (Replica.answerUnder faults) ⟨before, readings⟩ first.run with
    ⟨outcome, database, later⟩
  rw [served] at kept
  dsimp only at kept
  subst kept
  rcases outcome with _ | error | value
  · exact .dropped
  · exact .failed error
  · exact rest value later

/-- The store operation of a service decides what it leaves. -/
theorem atomic_provisionStore {request : StoreRequest} {finish : request.Value → Value}
    {Stored : request.Value → AuthDatabase → Prop}
    (stored : Atomic before Stored (request.transaction.performUnder faults before))
    (complete : ∀ value later, Stored value later → Complete (finish value) later) :
    Atomic before Complete (Replica.finish faults ⟨before, readings⟩
      (provisionStore request >>= fun value => pure (finish value))) := by
  unfold Replica.finish provisionStore callStore
  simp only [Program.serve_except_bind, Program.serve_except_lift, Program.serve_bind,
    Program.serve_request, Replica.answerUnder]
  rcases left : request.transaction.performUnder faults before with ⟨outcome, later⟩
  rw [left] at stored
  cases stored with
  | finished stored => exact .finished (complete _ _ stored)
  | failed error => exact .failed _
  | dropped => exact .dropped
  | committed stored => exact .committed (complete _ _ stored)

/-- A service that maps an error leaves what the provisioning left. -/
theorem atomic_mapped {program : ExceptT ProvisionError AuthProgram Value}
    {next : Except ProvisionError Value → ExceptT AuthError AuthProgram Value}
    (passes : ∀ value, next (.ok value) = pure value)
    (maps : ∀ error, next (.error error) = throw (.fromProvision error))
    (atomic : Atomic before Complete (Replica.finish faults ⟨before, readings⟩ program)) :
    Atomic before Complete (Replica.finish faults ⟨before, readings⟩
      (liftM (ExceptT.run program) >>= next)) := by
  unfold Replica.finish at *
  rw [Program.serve_except_bind, Program.serve_except_lift]
  rcases served : Program.serve (Replica.answerUnder faults) ⟨before, readings⟩ program.run with
    ⟨outcome, last⟩
  rw [served] at atomic
  cases atomic with
  | finished complete =>
      dsimp only
      rw [passes]
      exact .finished complete
  | failed error =>
      dsimp only
      rw [maps]
      exact .failed _
  | dropped => exact .dropped
  | committed complete => exact .committed complete

theorem generateCredential_reads (hashCredential : String → KeyDigest) :
    Program.Asks AuthRequest.Reads (generateCredential hashCredential).run := by
  apply Program.asks_except_bind (asks_fillBytes trivial)
  intro payload
  apply Program.asks_except_bind (asks_fillBytes trivial)
  intro displayRandom
  trivial

end Services

section Provisioning

variable (hashCredential : String → KeyDigest) (faults : List Fault) (readings : Readings)
  {before : AuthDatabase}

open ProvisioningService

/-- The new tenant is named as the operator asked, and its key is the initial management key. -/
def TenantOf (displayName : String) (before later : AuthDatabase) : Prop :=
  ∃ client key, validateName displayName = .ok client.displayName ∧
    key.clientId = client.id ∧ key.kind = .management ∧ key.name = initialManagementKeyName ∧
    key.createdAt = client.createdAt ∧ AddsTenant before client key later

/-- The new key belongs to the given client, and it has the given kind and name. -/
def KeyOf (clientId : Uuid) (kind : ApiKeyKind) (name : String) (before later : AuthDatabase) :
    Prop :=
  ∃ key : NewApiKey, key.clientId = clientId ∧ key.kind = kind ∧ validateName name = .ok key.name ∧
    AddsKey before key later

theorem createTenant_atomic (displayName : String) :
    Atomic before (fun _ => TenantOf displayName before)
      (Replica.finish faults ⟨before, readings⟩ (createTenant hashCredential displayName)) := by
  unfold createTenant
  cases validated : validateName displayName with
  | error error => exact .failed error
  | ok accepted =>
      rw [finish_ok]
      apply atomic_reads (generateCredential_reads hashCredential)
      intro generated readings
      apply atomic_reads (Program.asks_except_lift (asks_utcNow trivial))
      intro createdAt readings
      apply atomic_reads (Program.asks_except_lift (asks_newUuid trivial))
      intro owner readings
      apply atomic_reads (Program.asks_except_lift (asks_newUuid trivial))
      intro id readings
      apply atomic_provisionStore (provisionClientWithKey_atomic _ _)
      intro records later added
      exact ⟨_, _, validated, rfl, rfl, rfl, rfl, added⟩

theorem issueKey_atomic (clientId : Uuid) (kind : ApiKeyKind) (name : String) :
    Atomic before (fun _ => KeyOf clientId kind name before)
      (Replica.finish faults ⟨before, readings⟩ (issueKey hashCredential clientId kind name)) := by
  unfold issueKey
  cases validated : validateName name with
  | error error => exact .failed error
  | ok accepted =>
      rw [finish_ok]
      apply atomic_reads (generateCredential_reads hashCredential)
      intro generated readings
      apply atomic_reads (Program.asks_except_lift (asks_newUuid trivial))
      intro id readings
      apply atomic_reads (Program.asks_except_lift (asks_utcNow trivial))
      intro createdAt readings
      apply atomic_provisionStore (insertKey_atomic ⟨id, clientId, generated.digest,
        generated.displayId, accepted, kind, createdAt⟩)
      intro record later added
      exact ⟨_, rfl, rfl, validated, added⟩

theorem createKey_atomic (actor : AuthContext) (name : String) (kind : ApiKeyKind) :
    Atomic before (fun _ => KeyOf actor.clientId kind name before)
      (Replica.finish faults ⟨before, readings⟩
        (AuthService.createKey hashCredential actor name kind)) := by
  unfold AuthService.createKey
  cases AuthService.requireManagement actor with
  | error error => exact .failed error
  | ok permitted =>
      rw [finish_ok]
      exact atomic_mapped (fun _ => rfl) (fun _ => rfl)
        (issueKey_atomic hashCredential faults readings actor.clientId kind name)

/-- The complete data of an attempt. -/
def Provisioning.Complete (before : AuthDatabase) : Provisioning → AuthDatabase → Prop
  | .createTenant displayName => TenantOf displayName before
  | .issueKey clientId kind name => KeyOf clientId kind name before
  | .createKey actor name kind => KeyOf actor.clientId kind name before

/-- An attempt leaves the database as its answer says. -/
structure Settles (before : AuthDatabase) (Complete : AuthDatabase → Prop) (answer : Option Bool)
    (later : AuthDatabase) : Prop where
  succeeded : answer = some true → Complete later
  failed : answer = some false → later = before
  whole : later = before ∨ Complete later

theorem Atomic.settles {Error Value : Type} {Complete : AuthDatabase → Prop}
    {result : Option (Except Error Value) × AuthDatabase}
    (atomic : Atomic before (fun _ => Complete) result) :
    Settles before Complete (result.1.map Except.isOk) result.2 := by
  cases atomic with
  | finished complete => exact ⟨fun _ => complete, (by cases ·), .inr complete⟩
  | failed error => exact ⟨(by cases ·), fun _ => rfl, .inl rfl⟩
  | dropped => exact ⟨(by cases ·), (by cases ·), .inl rfl⟩
  | committed complete => exact ⟨(by cases ·), (by cases ·), .inr complete⟩

theorem attempt_settles (provisioning : Provisioning) :
    Settles before (provisioning.Complete before)
      (provisioning.attempt hashCredential faults readings before).1
      (provisioning.attempt hashCredential faults readings before).2 := by
  have leaves {Error Value : Type} (program : ExceptT Error AuthProgram Value) :
      AuthProgram.runUnder program.run faults before readings =
        Replica.finish faults ⟨before, readings⟩ program := rfl
  cases provisioning with
  | createTenant displayName =>
      simp only [Provisioning.attempt, Provisioning.Complete, leaves]
      exact (createTenant_atomic hashCredential faults readings displayName).settles
  | issueKey clientId kind name =>
      simp only [Provisioning.attempt, Provisioning.Complete, leaves]
      exact (issueKey_atomic hashCredential faults readings clientId kind name).settles
  | createKey actor name kind =>
      simp only [Provisioning.attempt, Provisioning.Complete, leaves]
      exact (createKey_atomic hashCredential faults readings actor name kind).settles

/-- The management key that a client was created with is stored beside it. -/
def ClientRow.HasInitialKey (client : ClientRow) (database : AuthDatabase) : Prop :=
  ∃ row ∈ database.apiKeys, row.clientId = client.id ∧ row.kind = "management" ∧
    row.name = initialManagementKeyName ∧ row.createdAt = client.createdAt

/-- The attempts only add to a database, and they add no client without its initial key. -/
structure Grows (start later : AuthDatabase) : Prop where
  keys : start.apiKeys <+: later.apiKeys
  clients : ∀ client ∈ later.clients, client ∈ start.clients ∨ client.HasInitialKey later

theorem ClientRow.HasInitialKey.later {client : ClientRow} {later : AuthDatabase}
    (keyed : client.HasInitialKey before) (keys : before.apiKeys <+: later.apiKeys) :
    client.HasInitialKey later := by
  obtain ⟨row, member, columns⟩ := keyed
  exact ⟨row, keys.subset member, columns⟩

theorem Grows.refl (start : AuthDatabase) : Grows start start :=
  ⟨List.prefix_rfl, fun _ member => .inl member⟩

/-- The complete data of an attempt keeps every client keyed. -/
theorem Grows.complete {start later : AuthDatabase} {provisioning : Provisioning}
    (grows : Grows start before) (complete : provisioning.Complete before later) :
    Grows start later := by
  have keyed {clientId : Uuid} {kind : ApiKeyKind} {name : String}
      (added : KeyOf clientId kind name before later) : Grows start later := by
    obtain ⟨key, -, -, -, clients, keys⟩ := added
    have grown : before.apiKeys <+: later.apiKeys := keys ▸ List.prefix_append _ _
    refine ⟨grows.keys.trans grown, fun client member => ?_⟩
    rw [clients] at member
    exact (grows.clients client member).imp_right fun keyed => keyed.later grown
  cases provisioning with
  | createTenant displayName =>
      obtain ⟨created, key, -, owner, kind, name, together, clients, keys⟩ := complete
      have grown : before.apiKeys <+: later.apiKeys := keys ▸ List.prefix_append _ _
      refine ⟨grows.keys.trans grown, fun client member => ?_⟩
      rw [clients, List.mem_append, List.mem_singleton] at member
      cases member with
      | inl old => exact (grows.clients client old).imp_right fun keyed => keyed.later grown
      | inr new =>
          right
          subst new
          refine ⟨key.toRow, ?_, owner, ?_, name, together⟩
          · rw [keys]
            exact List.mem_append_right _ List.mem_cons_self
          · rw [NewApiKey.toRow, kind]
            rfl
  | issueKey clientId kind name => exact keyed complete
  | createKey actor name kind => exact keyed complete

end Provisioning

/-- An attempt meets its own faults and makes its own readings. -/
structure ProvisioningAttempt where
  provisioning : Provisioning
  faults : List Fault
  readings : Readings

/-- The database after attempts that follow one another. -/
def attemptAll (hashCredential : String → KeyDigest) (start : AuthDatabase)
    (attempts : List ProvisioningAttempt) : AuthDatabase :=
  attempts.foldl (fun database attempt =>
    (attempt.provisioning.attempt hashCredential attempt.faults attempt.readings database).2) start

/-- Each attempt adds its complete data or nothing, and no client is ever without its first key. -/
theorem provisioning_atomic (hashCredential : String → KeyDigest) (start : AuthDatabase)
    (attempts : List ProvisioningAttempt) :
    Grows start (attemptAll hashCredential start attempts) ∧
      ∀ (faults : List Fault) (readings : Readings) (provisioning : Provisioning),
        let (answer, later) := provisioning.attempt hashCredential faults readings
          (attemptAll hashCredential start attempts)
        Settles (attemptAll hashCredential start attempts)
          (provisioning.Complete (attemptAll hashCredential start attempts)) answer later := by
  refine ⟨?_, fun faults readings provisioning => attempt_settles _ _ _ _⟩
  apply Observer.foldl_keeps _ _ _ (Grows.refl start)
  intro database attempt grows
  have settles : Settles database _ _ _ :=
    attempt_settles hashCredential attempt.faults attempt.readings attempt.provisioning
  rcases settles.whole with same | complete
  · rw [same]
    exact grows
  · exact grows.complete complete

end Opmux.Auth
