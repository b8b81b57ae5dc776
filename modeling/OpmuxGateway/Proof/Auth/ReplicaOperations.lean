import OpmuxGateway.Construction.Auth.Replica
import OpmuxGateway.Proof.Auth.StoreOperations

/-
This file reduces the operations of a replica to the transactions of the store.
-/

namespace Opmux.Auth

open AuthService

variable {replica : Replica} {Result : Type}

/-- A service continues with the value of its transaction or leaves with the mapped error. -/
theorem serve_serviceStore {request : StoreRequest}
    {next : request.Value → ExceptT AuthError AuthProgram Result} :
    Program.serve Replica.answer replica (serviceStore request >>= next).run =
      match request.transaction.perform replica.database with
      | (some (.ok value), later) =>
          Program.serve Replica.answer { replica with database := later } (next value).run
      | (some (.error error), later) =>
          (some (.error (.fromStore error)), { replica with database := later })
      | (none, later) => (none, { replica with database := later }) := by
  rw [Program.serve_except_bind, serviceStore, callStore, Program.serve_except_bind,
    Program.serve_except_lift, Program.serve_bind, Program.serve_request]
  simp only [Replica.answer]
  rcases request.transaction.perform replica.database with ⟨_ | error | value, later⟩
  · rfl
  · rfl
  · rfl

section Operations

variable {database : AuthDatabase} {now : Timestamp} {actor : AuthContext} {keyId : Uuid}

/-- The service hashes the credential, reads its clock, and awaits one transaction. -/
theorem runOn_authenticate (hashCredential : String → KeyDigest) (presented : String) :
    AuthProgram.runOn (authenticate hashCredential presented).run database (.at now) =
      match (PostgresAuthStore.authenticateDigest (hashCredential presented) now).perform
          database with
      | (some (.error _), later) => (some (.error .storeUnavailable), later)
      | (some (.ok none), later) => (some (.error .invalidCredentials), later)
      | (some (.ok (some record)), later) =>
          (some (if record.isRevoked then .error .invalidCredentials
            else .ok ⟨record.clientId, record.id, record.kind⟩), later)
      | (none, later) => (none, later) := by
  rw [AuthProgram.runOn, authenticate]
  simp only [Program.serve_except_bind, Program.serve_except_lift, utcNow, callStore,
    Program.serve_request, Program.serve_bind, Replica.answer, Readings.at, List.headD_cons,
    StoreRequest.transaction]
  rcases (PostgresAuthStore.authenticateDigest (hashCredential presented) now).perform database
    with ⟨_ | _ | _ | record, later⟩
  · rfl
  · rfl
  · rfl
  · cases revoked : record.isRevoked with
    | true => simp [revoked]
    | false => simp [revoked]

/-- A manager reads its clock and awaits one transaction on a key of its tenant. -/
theorem runOn_revokeKey (manager : actor.kind = .management) :
    AuthProgram.runOn (revokeKey actor keyId).run database (.at now) =
      match (PostgresAuthStore.revokeKey actor.clientId keyId now).perform database with
      | (some (.error error), later) => (some (.error (.fromStore error)), later)
      | (some (.ok .notFound), later) => (some (.error .keyNotFound), later)
      | (some (.ok _), later) => (some (.ok ()), later)
      | (none, later) => (none, later) := by
  have allowed : requireManagement actor = .ok () := by
    simp [requireManagement, manager]
  rw [AuthProgram.runOn, revokeKey, allowed, Program.serve_except_ok, Program.serve_except_bind,
    Program.serve_except_lift, utcNow, Program.serve_request]
  simp only [Replica.answer, Readings.at, List.headD_cons]
  rw [serve_serviceStore]
  simp only [StoreRequest.transaction]
  rcases (PostgresAuthStore.revokeKey actor.clientId keyId now).perform database
    with ⟨_ | error | record | record | _, later⟩
  · rfl
  · rfl
  · rfl
  · rfl
  · rfl

end Operations

/-- This credential encodes a payload of zero bytes. -/
def zeroCredential : String := credentialPrefix ++ base64UrlSafeNoPad (List.replicate 32 0)

/-- This digest is SHA-256 of the zero credential. -/
def zeroDigest : KeyDigest :=
  ⟨[175, 10, 19, 35, 152, 175, 253, 230, 62, 34, 21, 64, 227, 151, 187, 255,
    162, 45, 191, 111, 12, 126, 11, 203, 16, 20, 235, 81, 172, 249, 169, 241], rfl⟩

/-- A replica creates a tenant at one time with zero entropy. -/
def creation (now : Timestamp) : Operation :=
  .createTenant "acme"
    ⟨[now], [1, 2], List.replicate 2 fun count => some (Vector.replicate count 0)⟩

/-- The key that this replica creates. -/
def createdRow (now : Timestamp) : ApiKeyRow :=
  ⟨2, 1, zeroDigest.bytes, "opk_AAAAAAAAAAAAAAAAAAAAAA", initialManagementKeyName,
    "management", now, none, none⟩

theorem creation_apiKeys :
    ((creation 10).apply (fun _ => zeroDigest) .empty).apiKeys = [createdRow 10] := by
  decide +kernel

end Opmux.Auth
