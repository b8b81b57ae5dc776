import OpmuxGateway.Proof.Auth.ReplicaOperations

/-
This file relates the clock readings of the replicas to the order checks of the key table.
-/

namespace Opmux.Auth

variable (hashCredential : String → KeyDigest)

/-- Legitimate operations authenticate an active key and revoke an active key of the tenant. -/
def Operation.Legitimate (database : AuthDatabase) : Operation → Prop
  | .authenticate presented _ =>
      ∃ row ∈ database.apiKeys, row.keyDigest = (hashCredential presented).bytes ∧
        row.revokedAt = none
  | .revokeKey actor keyId _ =>
      actor.kind = .management ∧ ∃ row ∈ database.apiKeys,
        row.id = keyId ∧ row.clientId = actor.clientId ∧ row.revokedAt = none
  | _ => False

/-- A legitimate operation succeeds when the service returns its value. -/
def Operation.Succeeds (database : AuthDatabase) : Operation → Prop
  | .authenticate presented now =>
      ∃ context, (AuthProgram.runOn (AuthService.authenticate hashCredential presented).run
        database (.at now)).1 = some (.ok context)
  | .revokeKey actor keyId now =>
      (AuthProgram.runOn (AuthService.revokeKey actor keyId).run database (.at now)).1 =
        some (.ok ())
  | _ => True

/-- A first use and a revocation read a clock that is not before the creation of the key. -/
def Operation.OnTime (database : AuthDatabase) : Operation → Prop
  | .authenticate presented now =>
      ∀ row ∈ database.apiKeys, row.keyDigest = (hashCredential presented).bytes →
        row.lastUsedAt.isSome ∨ row.createdAt ≤ now
  | .revokeKey _ keyId now => ∀ row ∈ database.apiKeys, row.id = keyId → row.createdAt ≤ now
  | _ => True

section Steps

variable {database : AuthDatabase} {row : ApiKeyRow} {now : Timestamp}

/-- An active key is authenticated exactly when its use is accepted. -/
theorem authenticate_succeeds_iff {presented : String} (member : row ∈ database.apiKeys)
    (digest : row.keyDigest = (hashCredential presented).bytes) (active : row.revokedAt = none) :
    (Operation.authenticate presented now).Succeeds hashCredential database ↔
      row.lastUsedAt.isSome ∨ row.createdAt ≤ now := by
  rw [← AuthDatabase.touch_accepted_iff member active now, Operation.Succeeds,
    runOn_authenticate]
  obtain ⟨record, rfl⟩ := ApiKeyRow.accepted_decodes (database.apiKeysAccepted row member)
  have found := AuthDatabase.findByDigest_eq_some.mpr ⟨member, digest⟩
  have unrevoked : record.isRevoked = false := by
    change record.revokedAt.isSome = false
    rw [show record.revokedAt = none from active]
    rfl
  cases touched : database.touch record.id record.clientId now with
  | error error =>
      rw [perform_authenticate_rejected found unrevoked touched]
      constructor
      · rintro ⟨context, failed⟩
        cases failed
      · rintro ⟨rows, later, recorded⟩
        exact absurd (touched.symm.trans recorded) (by simp)
  | ok result =>
      obtain ⟨rows, later⟩ := result
      rw [perform_authenticate_recorded found unrevoked touched]
      constructor
      · intro _
        exact ⟨rows, later, touched⟩
      · intro _
        refine ⟨⟨record.clientId, record.id, record.kind⟩, ?_⟩
        have same : ({ record with lastUsedAt :=
            (rows.head?.map ApiKeyRow.lastUsedAt).getD record.lastUsedAt } :
              ApiKeyRecord).isRevoked = false := unrevoked
        simp only [same, Bool.false_eq_true, if_false]

/-- An active key of the tenant is revoked exactly when its revocation is accepted. -/
theorem revoke_succeeds_iff {actor : AuthContext} (manager : actor.kind = .management)
    (member : row ∈ database.apiKeys) (owner : row.clientId = actor.clientId)
    (active : row.revokedAt = none) :
    (Operation.revokeKey actor row.id now).Succeeds hashCredential database ↔
      row.createdAt ≤ now := by
  rw [← AuthDatabase.revoke_accepted_iff member active now, Operation.Succeeds,
    runOn_revokeKey manager, ← owner]
  cases revoked : database.revoke row.id row.clientId now with
  | error error =>
      rw [perform_revoke_rejected revoked]
      simp
  | ok result =>
      obtain ⟨rows, later⟩ := result
      obtain ⟨record, decoded⟩ := ApiKeyRow.accepted_decodes (database.apiKeysAccepted row member)
      have written : rows.head? =
          some { record with revokedAt := some now : ApiKeyRecord }.toRow := by
        rw [AuthDatabase.updateKeys_head member ?_ ?_ revoked, ← decoded]
        · rfl
        · simp [AuthDatabase.revocable, ApiKeyRow.owned, active]
        · intro other matched
          simp only [AuthDatabase.revocable, Bool.and_eq_true] at matched
          exact (AuthDatabase.owned_iff.mp matched.1).1
      rw [perform_revoke_first revoked written]
      simp

end Steps

/-- A legitimate operation succeeds exactly when it is on time. -/
theorem succeeds_iff_onTime {database : AuthDatabase} {operation : Operation}
    (legitimate : operation.Legitimate hashCredential database) :
    operation.Succeeds hashCredential database ↔ operation.OnTime hashCredential database := by
  cases operation with
  | authenticate presented now =>
      obtain ⟨row, member, digest, active⟩ := legitimate
      rw [authenticate_succeeds_iff hashCredential member digest active]
      constructor
      · intro ordered other present same
        rw [AuthDatabase.digest_unique present member (same.trans digest.symm)]
        exact ordered
      · intro onTime
        exact onTime row member digest
  | revokeKey actor keyId now =>
      obtain ⟨manager, row, member, rfl, owner, active⟩ := legitimate
      rw [revoke_succeeds_iff hashCredential manager member owner active]
      constructor
      · intro ordered other present same
        rw [AuthDatabase.id_unique present member same]
        exact ordered
      · intro onTime
        exact onTime row member rfl
  | createTenant | issueKey | createKey | listKeys | store => exact legitimate.elim

/-- The checks reject no legitimate operation of a run exactly when each one is on time. -/
theorem order_checks_accept (database : AuthDatabase) (operations : List Operation) :
    (∀ before operation after, operations = before ++ operation :: after →
      operation.Legitimate hashCredential (before.foldl (Operation.apply hashCredential) database) →
      operation.Succeeds hashCredential (before.foldl (Operation.apply hashCredential) database)) ↔
    ∀ before operation after, operations = before ++ operation :: after →
      operation.Legitimate hashCredential (before.foldl (Operation.apply hashCredential) database) →
      operation.OnTime hashCredential (before.foldl (Operation.apply hashCredential) database) := by
  constructor
  · intro accepted before operation after split legitimate
    exact (succeeds_iff_onTime hashCredential legitimate).mp
      (accepted before operation after split legitimate)
  · intro onTime before operation after split legitimate
    exact (succeeds_iff_onTime hashCredential legitimate).mpr
      (onTime before operation after split legitimate)

/-- A replica with a slower clock rejects the first use of a new key. -/
theorem slow_clock_rejects :
    ¬ ∀ (hashCredential : String → KeyDigest) (database : AuthDatabase)
      (operations : List Operation) before operation after,
      operations = before ++ operation :: after →
      operation.Legitimate hashCredential (before.foldl (Operation.apply hashCredential) database) →
      operation.Succeeds hashCredential
        (before.foldl (Operation.apply hashCredential) database) := by
  intro accepted
  have member : createdRow 10 ∈ ((creation 10).apply (fun _ => zeroDigest) .empty).apiKeys := by
    rw [creation_apiKeys]
    exact List.mem_singleton_self _
  have used := accepted (fun _ => zeroDigest) .empty [creation 10, .authenticate zeroCredential 9]
    [creation 10] (.authenticate zeroCredential 9) [] rfl ⟨createdRow 10, member, rfl, rfl⟩
  rcases (authenticate_succeeds_iff (fun _ => zeroDigest) member rfl rfl).mp used with
    before | created
  · cases before
  · exact absurd created (by decide)

end Opmux.Auth
