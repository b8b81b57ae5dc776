import OpmuxGateway.Construction.Auth.Schema
import OpmuxGateway.Library.Interaction

/-
This file gives the transactions of the Postgres store as programs of statements.
-/

namespace Opmux.Auth

/-- The statements that the store sends over one connection. -/
inductive Statement where
  | acquire
  | begin
  | commit
  | rollback
  | insertClient (client : NewClient)
  | insertKey (key : NewApiKey)
  | findByDigest (digest : KeyDigest)
  | lockByDigest (digest : KeyDigest)
  | touch (keyId clientId : Uuid) (usedAt : Timestamp)
  | revoke (keyId clientId : Uuid) (revokedAt : Timestamp)
  | findOwned (keyId clientId : Uuid)
  | page (clientId : Uuid) (limit offset : Int) (kind : Option String)

/-- The rows that a statement returns. -/
abbrev Statement.Rows : Statement → Type
  | .acquire | .begin | .commit | .rollback => Unit
  | .insertClient _ => ClientRow
  | .insertKey _ => ApiKeyRow
  | .touch _ _ _ => Option (Option Timestamp)
  | .findByDigest _ | .lockByDigest _ | .revoke _ _ _ | .findOwned _ _ => Option ApiKeyRow
  | .page _ _ _ _ => List ApiKeyRow

/-- An awaited statement is missing when the transaction is dropped during the await. -/
abbrev Statement.Answer (statement : Statement) : Type :=
  Option (Except SqlxError statement.Rows)

/-- A transaction ends with a value or with a store error, unless it is dropped. -/
abbrev Transaction := ExceptT AuthStoreError (Program Statement Statement.Answer)

def execute (statement : Statement) : Transaction (Except SqlxError statement.Rows) := do
  match ← (Program.request statement : Program _ Statement.Answer _) with
  | some answer => pure answer
  | none => (Program.halt : Program Statement Statement.Answer _)

/-- This operation maps the error of a statement and leaves with it. -/
def attempt (statement : Statement) : Transaction statement.Rows := do
  match ← execute statement with
  | .ok rows => pure rows
  | .error error => throw (.fromSqlx error)

/-- The answer of the rollback is discarded. -/
def rollbackErr {Value : Type} (error : AuthStoreError) : Transaction Value := do
  let _ ← execute .rollback
  throw error

/-- A failed statement inside a transaction rolls it back. -/
def attemptOrRollback (statement : Statement) : Transaction statement.Rows := do
  match ← execute statement with
  | .ok rows => pure rows
  | .error error => rollbackErr (.fromSqlx error)

def clientFromRow (row : ClientRow) : ClientRecord := ⟨row.id, row.displayName, row.createdAt⟩

def apiKeyFromRow (row : ApiKeyRow) : Except AuthStoreError ApiKeyRecord := do
  let digest ← KeyDigest.fromSlice row.keyDigest
  let kind ← (ApiKeyKind.parse row.kind).mapError .fromSqlx
  pure ⟨row.id, row.clientId, digest, row.displayId, row.name, kind, row.createdAt,
    row.lastUsedAt, row.revokedAt⟩

/-- A row that does not decode rolls its transaction back. -/
def decodeOrRollback (row : ApiKeyRow) : Transaction ApiKeyRecord :=
  match apiKeyFromRow row with
  | .ok record => pure record
  | .error error => rollbackErr error

namespace PostgresAuthStore

/-- An insertion decodes its returned row before the caller commits. -/
def insertKeyRow (key : NewApiKey) : Transaction ApiKeyRecord := do
  let row ← attemptOrRollback (.insertKey key)
  decodeOrRollback row

def provisionClientWithKey (client : NewClient) (key : NewApiKey) :
    Transaction (ClientRecord × ApiKeyRecord) := do
  if key.clientId ≠ client.id then throw .unknownClient
  attempt .begin
  let row ← attemptOrRollback (.insertClient client)
  let keyRecord ← insertKeyRow key
  attempt .commit
  pure (clientFromRow row, keyRecord)

def insertKey (key : NewApiKey) : Transaction ApiKeyRecord := do
  attempt .begin
  let record ← insertKeyRow key
  attempt .commit
  pure record

def findKeyByDigest (digest : KeyDigest) : Transaction (Option ApiKeyRecord) := do
  match ← attempt (.findByDigest digest) with
  | none => pure none
  | some row => some <$> ExceptT.mk (pure (apiKeyFromRow row))

/-- The row stays locked from the lookup to the end of the transaction. -/
def authenticateDigestOn (digest : KeyDigest) (usedAt : Timestamp) :
    Transaction (Option ApiKeyRecord) := do
  attempt .begin
  match ← attemptOrRollback (.lockByDigest digest) with
  | none =>
      attempt .commit
      pure none
  | some row =>
      let record ← decodeOrRollback row
      if record.isRevoked then
        attempt .commit
        pure (some record)
      else
        let updated ← attemptOrRollback (.touch record.id record.clientId usedAt)
        attempt .commit
        -- An update that matches no row returns nothing and keeps the locked value.
        pure (some { record with lastUsedAt := updated.getD record.lastUsedAt })

def authenticateDigest (digest : KeyDigest) (usedAt : Timestamp) :
    Transaction (Option ApiKeyRecord) := do
  attempt .acquire
  authenticateDigestOn digest usedAt

/-- The write reports whether it changed one row. -/
def touchLastUsed (clientId keyId : Uuid) (usedAt : Timestamp) : Transaction Bool := do
  let updated ← attempt (.touch keyId clientId usedAt)
  pure updated.isSome

def listKeysForClient (clientId : Uuid) (limit offset : Int) (kind : Option ApiKeyKind) :
    Transaction (List ApiKeyRecord) := do
  if ¬(1 ≤ limit ∧ limit ≤ maxKeyListLimit) ∨ offset < 0 then throw .invalidLimit
  let rows ← attempt (.page clientId limit offset (kind.map ApiKeyKind.asStr))
  ExceptT.mk (pure (rows.mapM apiKeyFromRow))

def revokeKey (clientId keyId : Uuid) (revokedAt : Timestamp) : Transaction RevokeOutcome := do
  attempt .begin
  match ← attemptOrRollback (.revoke keyId clientId revokedAt) with
  | some row =>
      let record ← decodeOrRollback row
      attempt .commit
      pure (.revoked record)
  | none =>
      let existing ← attemptOrRollback (.findOwned keyId clientId)
      attempt .commit
      match existing with
      | some row => .alreadyRevoked <$> ExceptT.mk (pure (apiKeyFromRow row))
      | none => pure .notFound

end PostgresAuthStore

/-- The operations of the trait `AuthStore`. -/
inductive StoreRequest where
  | provisionClientWithKey (client : NewClient) (key : NewApiKey)
  | insertKey (key : NewApiKey)
  | findKeyByDigest (digest : KeyDigest)
  | authenticateDigest (digest : KeyDigest) (usedAt : Timestamp)
  | touchLastUsed (clientId keyId : Uuid) (usedAt : Timestamp)
  | listKeysForClient (clientId : Uuid) (limit offset : Int) (kind : Option ApiKeyKind)
  | revokeKey (clientId keyId : Uuid) (revokedAt : Timestamp)

abbrev StoreRequest.Value : StoreRequest → Type
  | .provisionClientWithKey _ _ => ClientRecord × ApiKeyRecord
  | .insertKey _ => ApiKeyRecord
  | .findKeyByDigest _ | .authenticateDigest _ _ => Option ApiKeyRecord
  | .touchLastUsed _ _ _ => Bool
  | .listKeysForClient _ _ _ _ => List ApiKeyRecord
  | .revokeKey _ _ _ => RevokeOutcome

/-- The Postgres store implements each operation by its transaction. -/
def StoreRequest.transaction : (request : StoreRequest) → Transaction request.Value
  | .provisionClientWithKey client key => PostgresAuthStore.provisionClientWithKey client key
  | .insertKey key => PostgresAuthStore.insertKey key
  | .findKeyByDigest digest => PostgresAuthStore.findKeyByDigest digest
  | .authenticateDigest digest usedAt => PostgresAuthStore.authenticateDigest digest usedAt
  | .touchLastUsed clientId keyId usedAt =>
      PostgresAuthStore.touchLastUsed clientId keyId usedAt
  | .listKeysForClient clientId limit offset kind =>
      PostgresAuthStore.listKeysForClient clientId limit offset kind
  | .revokeKey clientId keyId revokedAt => PostgresAuthStore.revokeKey clientId keyId revokedAt

/-- The stored row of a new key has no use and no revocation. -/
def NewApiKey.toRow (key : NewApiKey) : ApiKeyRow :=
  ⟨key.id, key.clientId, key.digest.bytes, key.displayId, key.name, key.kind.asStr,
    key.createdAt, none, none⟩

def NewClient.toRow (client : NewClient) : ClientRow :=
  ⟨client.id, client.displayName, client.createdAt⟩

/-- A session sees the committed database until its transaction begins. -/
structure Session where
  committed : AuthDatabase
  working : Option AuthDatabase

namespace Session

def current (session : Session) : AuthDatabase := session.working.getD session.committed

/-- A statement outside a transaction commits its own write. -/
def write (session : Session) (database : AuthDatabase) : Session :=
  if session.working.isSome then { session with working := some database }
  else { session with committed := database }

/-- A reachable database answers each statement on the current snapshot. -/
def answer (session : Session) : (statement : Statement) → statement.Answer × Session
  | .acquire => (some (.ok ()), session)
  | .begin => (some (.ok ()), { session with working := some session.committed })
  | .commit => (some (.ok ()), ⟨session.current, none⟩)
  | .rollback => (some (.ok ()), { session with working := none })
  | .insertClient client =>
      match session.current.insertClient client.toRow with
      | .ok database => (some (.ok client.toRow), session.write database)
      | .error error => (some (.error (.database error)), session)
  | .insertKey key =>
      match session.current.insertKey key.toRow with
      | .ok database => (some (.ok key.toRow), session.write database)
      | .error error => (some (.error (.database error)), session)
  | .findByDigest digest | .lockByDigest digest =>
      (some (.ok (session.current.findByDigest digest)), session)
  | .touch keyId clientId usedAt =>
      match session.current.touch keyId clientId usedAt with
      | .ok (rows, database) =>
          (some (.ok (rows.head?.map ApiKeyRow.lastUsedAt)), session.write database)
      | .error error => (some (.error (.database error)), session)
  | .revoke keyId clientId revokedAt =>
      match session.current.revoke keyId clientId revokedAt with
      | .ok (rows, database) => (some (.ok rows.head?), session.write database)
      | .error error => (some (.error (.database error)), session)
  | .findOwned keyId clientId => (some (.ok (session.current.findOwned keyId clientId)), session)
  | .page clientId limit offset kind =>
      (some (.ok (session.current.page clientId limit offset kind)), session)

end Session

/-- A transaction that runs alone leaves its result and the committed database. -/
def Transaction.perform {Value : Type} (transaction : Transaction Value)
    (database : AuthDatabase) : Option (Except AuthStoreError Value) × AuthDatabase :=
  let (outcome, session) := Program.serve Session.answer ⟨database, none⟩ transaction.run
  (outcome, session.committed)

end Opmux.Auth
