import OpmuxGateway.Proof.Auth.ReplicaOperations

/-
This file says what the operations of the replicas can change in the key table.
-/

namespace Opmux.Auth

/-- A statement changes a database in one of four ways. -/
def Statement.Changes (before after : AuthDatabase) : Statement → Prop
  | .insertClient client => before.insertClient client.toRow = .ok after
  | .insertKey key => before.insertKey key.toRow = .ok after
  | .touch keyId clientId usedAt =>
      ∃ rows, before.touch keyId clientId usedAt = .ok (rows, after)
  | .revoke keyId clientId revokedAt =>
      ∃ rows, before.revoke keyId clientId revokedAt = .ok (rows, after)
  | _ => False

/-- The databases that a session can still commit or return to. -/
def Session.snapshots (session : Session) : List AuthDatabase :=
  session.committed :: session.working.toList

theorem Session.current_mem (session : Session) : session.current ∈ session.snapshots := by
  rcases session with ⟨committed, _ | working⟩
  · exact List.mem_cons_self
  · exact List.mem_cons_of_mem _ List.mem_cons_self

theorem Session.mem_write {session : Session} {database snapshot : AuthDatabase}
    (member : snapshot ∈ (session.write database).snapshots) :
    snapshot = database ∨ snapshot ∈ session.snapshots := by
  rcases session with ⟨committed, _ | working⟩
  · left
    simpa [Session.write, Session.snapshots] using member
  · rcases List.mem_cons.mp member with rfl | rest
    · exact .inr List.mem_cons_self
    · exact .inl (List.mem_singleton.mp rest)

/-- A statement adds at most one snapshot, which is its change of the current one. -/
theorem Session.answer_snapshots (session : Session) (statement : Statement)
    {snapshot : AuthDatabase} (member : snapshot ∈ (session.answer statement).2.snapshots) :
    snapshot ∈ session.snapshots ∨ statement.Changes session.current snapshot := by
  cases statement with
  | acquire | findByDigest | lockByDigest | findOwned | page => exact .inl member
  | begin =>
      left
      simp only [Session.answer, Session.snapshots, Option.toList_some, List.mem_cons,
        List.not_mem_nil, or_false, or_self] at member
      exact member ▸ List.mem_cons_self
  | commit =>
      left
      simp only [Session.answer, Session.snapshots, Option.toList_none, List.mem_singleton]
        at member
      exact member ▸ session.current_mem
  | rollback =>
      left
      simp only [Session.answer, Session.snapshots, Option.toList_none, List.mem_singleton]
        at member
      exact member ▸ List.mem_cons_self
  | insertClient client =>
      simp only [Session.answer] at member
      split at member
      · rename_i database inserted
        rcases Session.mem_write member with rfl | old
        · exact .inr inserted
        · exact .inl old
      · exact .inl member
  | insertKey key =>
      simp only [Session.answer] at member
      split at member
      · rename_i database inserted
        rcases Session.mem_write member with rfl | old
        · exact .inr inserted
        · exact .inl old
      · exact .inl member
  | touch keyId clientId usedAt =>
      simp only [Session.answer] at member
      split at member
      · rename_i rows database touched
        rcases Session.mem_write member with rfl | old
        · exact .inr ⟨rows, touched⟩
        · exact .inl old
      · exact .inl member
  | revoke keyId clientId revokedAt =>
      simp only [Session.answer] at member
      split at member
      · rename_i rows database revoked
        rcases Session.mem_write member with rfl | old
        · exact .inr ⟨rows, revoked⟩
        · exact .inl old
      · exact .inl member

section Related

variable {Related : AuthDatabase → AuthDatabase → Prop} {allowed : Statement → Prop}

/-- A transaction relates two databases when each of its statements does. -/
theorem Transaction.perform_related (refl : ∀ database, Related database database)
    (trans : ∀ first second third, Related first second → Related second third →
      Related first third)
    (changes : ∀ statement before after, allowed statement →
      statement.Changes before after → Related before after)
    {Value : Type} {transaction : Transaction Value}
    (asks : Program.Asks allowed transaction.run) (database : AuthDatabase) :
    Related database (transaction.perform database).2 := by
  have start : ∀ snapshot ∈ (⟨database, none⟩ : Session).snapshots, Related database snapshot := by
    intro snapshot member
    rw [List.mem_singleton.mp member]
    exact refl database
  have kept := Program.serve_invariant
    (fun session : Session => ∀ snapshot ∈ session.snapshots, Related database snapshot)
    (fun session statement permitted related snapshot member => by
      rcases session.answer_snapshots statement member with old | changed
      · exact related snapshot old
      · exact trans _ _ _ (related _ session.current_mem)
          (changes statement _ _ permitted changed))
    asks start
  exact kept _ List.mem_cons_self

/-- A replica relates two databases when each of its transactions does. -/
theorem AuthProgram.runOn_related {permitted : AuthRequest → Prop}
    (refl : ∀ database, Related database database)
    (trans : ∀ first second third, Related first second → Related second third →
      Related first third)
    (performs : ∀ request, permitted (.store request) → ∀ database,
      Related database (request.transaction.perform database).2)
    {Value : Type} {program : AuthProgram Value} (asks : program.Asks permitted)
    (database : AuthDatabase) (readings : Readings) :
    Related database (program.runOn database readings).2 := by
  have start : Related database (⟨database, readings⟩ : Replica).database := refl database
  exact Program.serve_invariant (fun replica : Replica => Related database replica.database)
    (fun replica request allowed related => by
      cases request with
      | utcNow | newUuid | fillBytes => exact related
      | store request => exact trans _ _ _ related (performs request allowed replica.database))
    asks start

end Related

/-- No statement changes these columns of a stored key. -/
structure FixedKey where
  clientId : Uuid
  id : Uuid
  displayId : String
  name : String
  kind : String
  createdAt : Timestamp

def ApiKeyRow.fixed (row : ApiKeyRow) : FixedKey :=
  ⟨row.clientId, row.id, row.displayId, row.name, row.kind, row.createdAt⟩

namespace AuthDatabase

variable {before after : AuthDatabase}

/-- The fixed columns of the whole key table. -/
def fixedKeys (database : AuthDatabase) : List FixedKey := database.apiKeys.map ApiKeyRow.fixed

/-- Later databases only append keys. -/
def Extends (before after : AuthDatabase) : Prop := before.fixedKeys <+: after.fixedKeys

/-- Without a creation, later databases keep the fixed columns of every key. -/
def Kept (before after : AuthDatabase) : Prop := before.fixedKeys = after.fixedKeys

theorem Kept.refl (database : AuthDatabase) : database.Kept database := rfl

theorem Kept.trans {middle : AuthDatabase} (first : before.Kept middle)
    (second : middle.Kept after) : before.Kept after := Eq.trans first second

theorem insertKey_eq_ok {row : ApiKeyRow} (inserted : before.insertKey row = .ok after) :
    after.apiKeys = before.apiKeys ++ [row] ∧ after.clients = before.clients := by
  unfold insertKey at inserted
  split_ifs at inserted
  cases inserted
  exact ⟨rfl, rfl⟩

theorem insertClient_eq_ok {row : ClientRow} (inserted : before.insertClient row = .ok after) :
    after.apiKeys = before.apiKeys ∧ after.clients = before.clients ++ [row] := by
  unfold insertClient at inserted
  split_ifs at inserted
  cases inserted
  exact ⟨rfl, rfl⟩

/-- An update of no fixed column keeps the fixed columns of the whole table. -/
theorem updateKeys_kept {matching : ApiKeyRow → Bool} {assign : ApiKeyRow → ApiKeyRow}
    {rows : List ApiKeyRow} (updated : before.updateKeys matching assign = .ok (rows, after))
    (same : ∀ row, (assign row).fixed = row.fixed) : Kept before after := by
  obtain ⟨-, keys, -⟩ := updateKeys_eq_ok updated
  rw [Kept, fixedKeys, fixedKeys, keys, List.map_map]
  apply List.map_congr_left
  intro row _
  simp only [Function.comp_apply, rewriteRow]
  split
  · exact (same row).symm
  · rfl

end AuthDatabase

/-- Only one statement adds a key. -/
def Statement.KeepsKeys : Statement → Prop
  | .insertKey _ => False
  | _ => True

theorem Statement.changes_kept {before after : AuthDatabase} {statement : Statement}
    (keeps : statement.KeepsKeys) (changed : statement.Changes before after) :
    before.Kept after := by
  cases statement with
  | insertKey => exact keeps.elim
  | insertClient client =>
      rw [AuthDatabase.Kept, AuthDatabase.fixedKeys, AuthDatabase.fixedKeys,
        (AuthDatabase.insertClient_eq_ok changed).1]
  | touch keyId clientId usedAt =>
      obtain ⟨rows, updated⟩ := changed
      exact AuthDatabase.updateKeys_kept updated fun _ => rfl
  | revoke keyId clientId revokedAt =>
      obtain ⟨rows, updated⟩ := changed
      exact AuthDatabase.updateKeys_kept updated fun _ => rfl
  | acquire | begin | commit | rollback | findByDigest | lockByDigest | findOwned | page =>
      exact changed.elim

theorem Statement.changes_extends {before after : AuthDatabase} {statement : Statement}
    (changed : statement.Changes before after) : before.Extends after := by
  by_cases keeps : statement.KeepsKeys
  · have kept : before.fixedKeys = after.fixedKeys := changes_kept keeps changed
    rw [AuthDatabase.Extends, kept]
  · cases statement with
    | insertKey key =>
        rw [AuthDatabase.Extends, AuthDatabase.fixedKeys, AuthDatabase.fixedKeys,
          (AuthDatabase.insertKey_eq_ok changed).1, List.map_append]
        exact List.prefix_append _ _
    | insertClient | touch | revoke | acquire | begin | commit | rollback | findByDigest
    | lockByDigest | findOwned | page => exact absurd trivial keeps

section Operations

variable (hashCredential : String → KeyDigest)

/-- Every operation of every replica only appends keys. -/
theorem perform_extends (request : StoreRequest) (database : AuthDatabase) :
    database.Extends (request.transaction.perform database).2 :=
  Transaction.perform_related (fun _ => List.prefix_rfl)
    (fun _ _ _ first second => first.trans second)
    (fun _ _ _ _ changed => Statement.changes_extends changed)
    (Program.asks_all _) database

theorem apply_extends (operation : Operation) (database : AuthDatabase) :
    database.Extends (operation.apply hashCredential database) := by
  have runs {Value : Type} (program : AuthProgram Value) (readings : Readings) :
      database.Extends (program.runOn database readings).2 :=
    AuthProgram.runOn_related (fun _ => List.prefix_rfl)
      (fun _ _ _ first second => first.trans second)
      (fun request _ database => perform_extends request database)
      (Program.asks_all program) database readings
  cases operation with
  | store request => exact perform_extends request database
  | createTenant | issueKey | createKey | listKeys | revokeKey | authenticate => exact runs _ _

section Asks

variable {allowed : Statement → Prop} {Value : Type}

theorem asks_execute {statement : Statement} (permitted : allowed statement) :
    Program.Asks allowed (execute statement).run := by
  apply Program.asks_except_bind
  · exact Program.asks_except_lift (Program.asks_request permitted)
  · intro answer
    cases answer with
    | none => trivial
    | some rows => trivial

theorem asks_attempt {statement : Statement} (permitted : allowed statement) :
    Program.Asks allowed (attempt statement).run := by
  apply Program.asks_except_bind (asks_execute permitted)
  intro answer
  cases answer with
  | error error => trivial
  | ok rows => trivial

theorem asks_rollbackErr (permitted : allowed .rollback) (error : AuthStoreError) :
    Program.Asks allowed (rollbackErr error : Transaction Value).run :=
  Program.asks_except_bind (asks_execute permitted) fun _ => trivial

theorem asks_attemptOrRollback {statement : Statement} (permitted : allowed statement)
    (rollback : allowed .rollback) :
    Program.Asks allowed (attemptOrRollback statement).run := by
  apply Program.asks_except_bind (asks_execute permitted)
  intro answer
  cases answer with
  | error error => exact asks_rollbackErr rollback _
  | ok rows => trivial

theorem asks_decodeOrRollback (rollback : allowed .rollback) (row : ApiKeyRow) :
    Program.Asks allowed (decodeOrRollback row).run := by
  unfold decodeOrRollback
  split
  · trivial
  · exact asks_rollbackErr rollback _

end Asks

/-- The operations of the store that add a key. -/
def StoreRequest.Creates : StoreRequest → Prop
  | .provisionClientWithKey _ _ | .insertKey _ => True
  | _ => False

/-- Every other operation of the store sends no statement that adds a key. -/
theorem StoreRequest.keeps {request : StoreRequest} (keeps : ¬ request.Creates) :
    Program.Asks Statement.KeepsKeys request.transaction.run := by
  cases request with
  | provisionClientWithKey | insertKey => exact absurd trivial keeps
  | findKeyByDigest digest =>
      apply Program.asks_except_bind (asks_attempt trivial)
      intro found
      cases found with
      | none => trivial
      | some row => exact Program.asks_except_bind trivial fun _ => trivial
  | authenticateDigest digest usedAt =>
      apply Program.asks_except_bind (asks_attempt trivial)
      intro _
      apply Program.asks_except_bind (asks_attempt trivial)
      intro _
      apply Program.asks_except_bind (asks_attemptOrRollback trivial trivial)
      intro locked
      cases locked with
      | none => exact Program.asks_except_bind (asks_attempt trivial) fun _ => trivial
      | some row =>
          apply Program.asks_except_bind (asks_decodeOrRollback trivial row)
          intro record
          split
          · exact Program.asks_except_bind (asks_attempt trivial) fun _ => trivial
          · apply Program.asks_except_bind (asks_attemptOrRollback trivial trivial)
            intro _
            exact Program.asks_except_bind (asks_attempt trivial) fun _ => trivial
  | touchLastUsed clientId keyId usedAt =>
      exact Program.asks_except_bind (asks_attempt trivial) fun _ => trivial
  | listKeysForClient clientId limit offset kind =>
      change Program.Asks _ (PostgresAuthStore.listKeysForClient clientId limit offset kind).run
      unfold PostgresAuthStore.listKeysForClient
      split
      · trivial
      · apply Program.asks_except_bind (asks_attempt trivial)
        intro rows
        trivial
  | revokeKey clientId keyId revokedAt =>
      apply Program.asks_except_bind (asks_attempt trivial)
      intro _
      apply Program.asks_except_bind (asks_attemptOrRollback trivial trivial)
      intro revoked
      cases revoked with
      | some row =>
          apply Program.asks_except_bind (asks_decodeOrRollback trivial row)
          intro record
          exact Program.asks_except_bind (asks_attempt trivial) fun _ => trivial
      | none =>
          apply Program.asks_except_bind (asks_attemptOrRollback trivial trivial)
          intro existing
          apply Program.asks_except_bind (asks_attempt trivial)
          intro _
          cases existing with
          | none => trivial
          | some row => exact Program.asks_except_bind trivial fun _ => trivial

/-- The operations of the replicas that create a key. -/
def Operation.Creates : Operation → Prop
  | .createTenant .. | .issueKey .. | .createKey .. => True
  | .store request => request.Creates
  | _ => False

theorem perform_kept {request : StoreRequest} (keeps : ¬ request.Creates)
    (database : AuthDatabase) : database.Kept (request.transaction.perform database).2 :=
  Transaction.perform_related (fun _ => AuthDatabase.Kept.refl _)
    (fun _ _ _ first second => first.trans second)
    (fun _ _ _ allowed changed => Statement.changes_kept allowed changed)
    (StoreRequest.keeps keeps) database

/-- The service requests that add no key. -/
def AuthRequest.KeepsKeys : AuthRequest → Prop
  | .store request => ¬ request.Creates
  | _ => True

section ServiceAsks

variable {permitted : AuthRequest → Prop} {Value : Type}

theorem asks_utcNow (allowed : permitted .utcNow) : utcNow.Asks permitted :=
  Program.asks_request allowed

theorem asks_callStore {request : StoreRequest} (allowed : permitted (.store request)) :
    (callStore request).Asks permitted := by
  apply Program.asks_bind (Program.asks_request allowed)
  intro answer
  cases answer with
  | none => trivial
  | some result => trivial

theorem asks_serviceStore {request : StoreRequest} (allowed : permitted (.store request)) :
    Program.Asks permitted (AuthService.serviceStore request).run := by
  apply Program.asks_except_bind (Program.asks_except_lift (asks_callStore allowed))
  intro answer
  cases answer with
  | error error => trivial
  | ok value => trivial

theorem asks_provisionStore {request : StoreRequest} (allowed : permitted (.store request)) :
    Program.Asks permitted (provisionStore request).run := by
  apply Program.asks_except_bind (Program.asks_except_lift (asks_callStore allowed))
  intro answer
  cases answer with
  | error error => trivial
  | ok value => trivial

theorem asks_newUuid (allowed : permitted .newUuid) : newUuid.Asks permitted :=
  Program.asks_request allowed

theorem asks_fillBytes {count : Nat} (allowed : permitted (.fillBytes count)) :
    Program.Asks permitted (fillBytes count).run := by
  apply Program.asks_except_bind (Program.asks_except_lift (Program.asks_request allowed))
  intro reply
  cases reply with
  | none => trivial
  | some bytes => trivial

/-- What follows a generation gets an assembled credential. -/
theorem asks_generated {next : GeneratedCredential → ExceptT ProvisionError AuthProgram Value}
    (allowed : ∀ count, permitted (.fillBytes count))
    (rest : ∀ (payload : Vector UInt8 secretPayloadLen)
      (displayRandom : Vector UInt8 displayIdRandomLen),
      Program.Asks permitted
        (next (assembleCredential hashCredential payload.toList displayRandom.toList)).run) :
    Program.Asks permitted (generateCredential hashCredential >>= next).run := by
  simp only [generateCredential, bind_assoc, pure_bind]
  apply Program.asks_except_bind (asks_fillBytes (allowed _))
  intro payload
  apply Program.asks_except_bind (asks_fillBytes (allowed _))
  intro displayRandom
  exact rest payload displayRandom

end ServiceAsks

theorem hasMore_keeps (actor : AuthContext) (options : KeyListOptions)
    (records : List ApiKeyRecord) :
    Program.Asks AuthRequest.KeepsKeys (AuthService.hasMore actor options records).run := by
  unfold AuthService.hasMore
  split
  · split
    · exact Program.asks_except_bind (asks_serviceStore not_false) fun _ => trivial
    · trivial
  · trivial

/-- A page and its look ahead only read. -/
theorem listKeys_keeps (actor : AuthContext) (options : KeyListOptions) :
    Program.Asks AuthRequest.KeepsKeys (AuthService.listKeys actor options).run := by
  refine Program.asks_except_bind trivial fun _ => ?_
  split
  · trivial
  · split
    · trivial
    · apply Program.asks_except_bind (asks_serviceStore not_false)
      intro records
      exact Program.asks_except_bind (hasMore_keeps actor options records) fun _ => trivial

theorem revokeKey_keeps (actor : AuthContext) (keyId : Uuid) :
    Program.Asks AuthRequest.KeepsKeys (AuthService.revokeKey actor keyId).run := by
  refine Program.asks_except_bind trivial fun _ => ?_
  apply Program.asks_except_bind (Program.asks_except_lift (asks_utcNow trivial))
  intro now
  apply Program.asks_except_bind (asks_serviceStore not_false)
  intro outcome
  cases outcome with
  | revoked | alreadyRevoked | notFound => trivial

theorem authenticate_keeps (presented : String) :
    Program.Asks AuthRequest.KeepsKeys (AuthService.authenticate hashCredential presented).run := by
  apply Program.asks_except_bind (Program.asks_except_lift (asks_utcNow trivial))
  intro now
  apply Program.asks_except_bind (Program.asks_except_lift (asks_callStore not_false))
  intro answer
  split
  · trivial
  · trivial
  · split
    · trivial
    · trivial

/-- Without a creation, an operation keeps the fixed columns of every key. -/
theorem apply_kept {operation : Operation} (keeps : ¬ operation.Creates)
    (database : AuthDatabase) : database.Kept (operation.apply hashCredential database) := by
  have runs {Value : Type} {program : AuthProgram Value}
      (asks : program.Asks AuthRequest.KeepsKeys) (readings : Readings) :
      database.Kept (program.runOn database readings).2 :=
    AuthProgram.runOn_related (fun _ => AuthDatabase.Kept.refl _)
      (fun _ _ _ first second => first.trans second)
      (fun request permitted database => perform_kept permitted database) asks database readings
  cases operation with
  | createTenant | issueKey | createKey => exact absurd trivial keeps
  | store request => exact perform_kept keeps database
  | listKeys actor options => exact runs (listKeys_keeps actor options) _
  | revokeKey actor keyId now => exact runs (revokeKey_keeps actor keyId) _
  | authenticate presented now => exact runs (authenticate_keeps hashCredential presented) _

end Operations

end Opmux.Auth
