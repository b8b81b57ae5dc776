import OpmuxGateway.Construction.Auth.Store

/-
This file says what each transaction of the store does to a database that it has alone.
-/

namespace Opmux.Auth

/-- The row that a record was read from. -/
def ApiKeyRecord.toRow (record : ApiKeyRecord) : ApiKeyRow :=
  ⟨record.id, record.clientId, record.digest.bytes, record.displayId, record.name,
    record.kind.asStr, record.createdAt, record.lastUsedAt, record.revokedAt⟩

/-- The record that the stored row of a new key decodes to. -/
def NewApiKey.toRecord (key : NewApiKey) : ApiKeyRecord :=
  ⟨key.id, key.clientId, key.digest, key.displayId, key.name, key.kind, key.createdAt, none, none⟩

theorem ApiKeyKind.parse_eq_ok {raw : String} {kind : ApiKeyKind} :
    ApiKeyKind.parse raw = .ok kind ↔ kind.asStr = raw := by
  unfold ApiKeyKind.parse
  split
  · rename_i same
    subst same
    cases kind <;> simp [asStr]
  · split
    · rename_i same
      subst same
      cases kind <;> simp [asStr]
    · rename_i notManagement notInference
      cases kind <;> simp_all [asStr, eq_comm]

theorem KeyDigest.fromSlice_eq_ok {bytes : List UInt8} {digest : KeyDigest} :
    KeyDigest.fromSlice bytes = .ok digest ↔ digest.bytes = bytes := by
  unfold KeyDigest.fromSlice
  split
  · rename_i length
    rw [Except.ok.injEq, KeyDigest.mk.injEq]
    exact eq_comm
  · rename_i length
    simp only [reduceCtorEq, false_iff]
    rintro rfl
    exact length digest.length_eq

/-- Decoding inverts the row of a record, and it accepts nothing else. -/
theorem apiKeyFromRow_eq_ok {row : ApiKeyRow} {record : ApiKeyRecord} :
    apiKeyFromRow row = .ok record ↔ record.toRow = row := by
  constructor
  · intro decoded
    unfold apiKeyFromRow at decoded
    cases digested : KeyDigest.fromSlice row.keyDigest with
    | error error => simp [digested, bind, Except.bind] at decoded
    | ok digest =>
        cases parsed : ApiKeyKind.parse row.kind with
        | error error =>
            simp [digested, parsed, bind, Except.bind, Except.mapError] at decoded
        | ok kind =>
            simp only [digested, parsed, bind, Except.bind, Except.mapError, pure, Except.pure,
              Except.ok.injEq] at decoded
            subst decoded
            have bytes := KeyDigest.fromSlice_eq_ok.mp digested
            have token := ApiKeyKind.parse_eq_ok.mp parsed
            simp [ApiKeyRecord.toRow, bytes, token]
  · rintro rfl
    have digested : KeyDigest.fromSlice record.digest.bytes = .ok record.digest :=
      KeyDigest.fromSlice_eq_ok.mpr rfl
    have parsed : ApiKeyKind.parse record.kind.asStr = .ok record.kind :=
      ApiKeyKind.parse_eq_ok.mpr rfl
    simp [apiKeyFromRow, ApiKeyRecord.toRow, digested, parsed, bind, Except.bind,
      Except.mapError, pure, Except.pure]

namespace ApiKeyRow

variable {row : ApiKeyRow}

/-- The checks of one row as facts about its columns. -/
theorem accepted_iff : row.accepted ↔
    row.keyDigest.length = 32 ∧ (row.displayId ≠ "" ∧ row.displayId.toList.all isDisplayChar) ∧
      (8 ≤ row.displayId.length ∧ row.displayId.length ≤ 64) ∧
      (row.kind = "management" ∨ row.kind = "inference") ∧
      (∀ usedAt, row.lastUsedAt = some usedAt → row.createdAt ≤ usedAt) ∧
      (1 ≤ row.name.length ∧ row.name.length ≤ 128) ∧
      (∀ revokedAt, row.revokedAt = some revokedAt → row.createdAt ≤ revokedAt) := by
  simp [accepted, checks, Option.all_eq_true]

/-- A stored row always decodes. -/
theorem accepted_decodes (accepted : row.accepted) :
    ∃ record : ApiKeyRecord, record.toRow = row := by
  obtain ⟨length, -, -, kinds, -⟩ := accepted_iff.mp accepted
  obtain ⟨kind, same⟩ : ∃ kind : ApiKeyKind, kind.asStr = row.kind := by
    rcases kinds with kind | kind
    · exact ⟨.management, kind.symm⟩
    · exact ⟨.inference, kind.symm⟩
  refine ⟨⟨row.id, row.clientId, ⟨row.keyDigest, length⟩, row.displayId, row.name, kind,
    row.createdAt, row.lastUsedAt, row.revokedAt⟩, ?_⟩
  simp [ApiKeyRecord.toRow, same]

/-- The order of its creation and its use is the only check that a use can break. -/
theorem accepted_used (accepted : row.accepted) (usedAt : Timestamp) :
    ({ row with lastUsedAt := some usedAt } : ApiKeyRow).accepted ↔ row.createdAt ≤ usedAt := by
  simp only [accepted_iff] at accepted ⊢
  simp only [Option.some.injEq, forall_eq']
  tauto

/-- The order of its creation and its revocation is the only check a revocation can break. -/
theorem accepted_revoked (accepted : row.accepted) (revokedAt : Timestamp) :
    ({ row with revokedAt := some revokedAt } : ApiKeyRow).accepted ↔
      row.createdAt ≤ revokedAt := by
  simp only [accepted_iff] at accepted ⊢
  simp only [Option.some.injEq, forall_eq']
  tauto

end ApiKeyRow

namespace AuthDatabase

variable {database later : AuthDatabase} {matching : ApiKeyRow → Bool}
  {assign : ApiKeyRow → ApiKeyRow} {rows : List ApiKeyRow}

/-- An accepted update rewrites the matching rows in their places. -/
theorem updateKeys_eq_ok (updated : database.updateKeys matching assign = .ok (rows, later)) :
    rows = (database.apiKeys.filter matching).map assign ∧
      later.apiKeys = database.apiKeys.map (rewriteRow matching assign) ∧
      later.clients = database.clients := by
  unfold updateKeys at updated
  dsimp only at updated
  split at updated
  · split at updated
    · cases updated
    · rw [Except.ok.injEq, Prod.mk.injEq] at updated
      obtain ⟨rfl, rfl⟩ := updated
      exact ⟨rfl, rfl, rfl⟩
  · cases updated

theorem rewriteRow_identity (immutable : ∀ row, (assign row).identity = row.identity)
    (row : ApiKeyRow) : (rewriteRow matching assign row).identity = row.identity := by
  unfold rewriteRow
  split
  · exact immutable row
  · rfl

theorem rewritten_identity (immutable : ∀ row, (assign row).identity = row.identity) :
    (database.apiKeys.map (rewriteRow matching assign)).map ApiKeyRow.identity =
      database.apiKeys.map ApiKeyRow.identity := by
  rw [List.map_map]
  exact List.map_congr_left fun row _ => rewriteRow_identity immutable row

/-- An update of no identity column is accepted exactly when each rewritten row is. -/
theorem updateKeys_accepted_iff (immutable : ∀ row, (assign row).identity = row.identity) :
    (∃ rows later, database.updateKeys matching assign = .ok (rows, later)) ↔
      ∀ row ∈ database.apiKeys, matching row → (assign row).accepted := by
  unfold updateKeys
  dsimp only
  rw [dif_pos (rewritten_identity immutable)]
  constructor
  · rintro ⟨rows, later, updated⟩ row member matched
    split at updated
    · cases updated
    · rename_i rejected
      have checked := List.find?_eq_none.mp rejected (rewriteRow matching assign row)
        (List.mem_map_of_mem member)
      simpa [rewriteRow, matched] using checked
  · intro checked
    split
    · rename_i row rejected
      have broken := List.find?_some rejected
      obtain ⟨before, present, rfl⟩ := List.mem_map.mp (List.mem_of_find?_eq_some rejected)
      unfold rewriteRow at broken
      split at broken
      · rename_i matched
        simp [checked before present matched] at broken
      · simp [database.apiKeysAccepted before present] at broken
    · exact ⟨_, _, rfl⟩

/-- A search that at most one row meets finds every row that meets it. -/
theorem find_unique {Row : Type} {rows : List Row} {test : Row → Bool} {row : Row}
    (unique : ∀ first ∈ rows, ∀ second ∈ rows, test first → test second → first = second) :
    rows.find? test = some row ↔ row ∈ rows ∧ test row := by
  constructor
  · intro found
    exact ⟨List.mem_of_find?_eq_some found, List.find?_some found⟩
  · rintro ⟨member, met⟩
    cases found : rows.find? test with
    | none => exact absurd met (List.find?_eq_none.mp found row member)
    | some other =>
        rw [unique other (List.mem_of_find?_eq_some found) row member
          (List.find?_some found) met]

/-- At most one row has a given digest. -/
theorem digest_unique {first second : ApiKeyRow} (member : first ∈ database.apiKeys)
    (other : second ∈ database.apiKeys) (same : first.keyDigest = second.keyDigest) :
    first = second :=
  List.inj_on_of_nodup_map database.keyDigestKey member other same

/-- At most one row has a given identifier. -/
theorem id_unique {first second : ApiKeyRow} (member : first ∈ database.apiKeys)
    (other : second ∈ database.apiKeys) (same : first.id = second.id) : first = second :=
  List.inj_on_of_nodup_map database.apiKeysPkey member other same

theorem findByDigest_eq_some {digest : KeyDigest} {row : ApiKeyRow} :
    database.findByDigest digest = some row ↔
      row ∈ database.apiKeys ∧ row.keyDigest = digest.bytes := by
  rw [findByDigest, find_unique, decide_eq_true_eq]
  intro first member second other met matched
  rw [decide_eq_true_eq] at met matched
  exact digest_unique member other (met.trans matched.symm)

theorem owned_iff {keyId clientId : Uuid} {row : ApiKeyRow} :
    row.owned keyId clientId ↔ row.id = keyId ∧ row.clientId = clientId := by
  simp [ApiKeyRow.owned]

/-- An update that only one row matches returns that row as it is rewritten. -/
theorem updateKeys_head {row : ApiKeyRow} (member : row ∈ database.apiKeys)
    (matched : matching row) (sameId : ∀ other, matching other → other.id = row.id)
    (updated : database.updateKeys matching assign = .ok (rows, later)) :
    rows.head? = some (assign row) := by
  obtain ⟨rfl, -⟩ := updateKeys_eq_ok updated
  have found : database.apiKeys.find? matching = some row := by
    apply (find_unique ?_).mpr ⟨member, matched⟩
    intro first present second other met found
    exact id_unique present other ((sameId first met).trans (sameId second found).symm)
  rw [List.head?_map, List.head?_filter, found, Option.map_some]

theorem used_identity (usedAt : Timestamp) (row : ApiKeyRow) :
    ({ row with lastUsedAt := some usedAt } : ApiKeyRow).identity = row.identity := rfl

theorem revoked_identity (revokedAt : Timestamp) (row : ApiKeyRow) :
    ({ row with revokedAt := some revokedAt } : ApiKeyRow).identity = row.identity := rfl

/-- The use of an active key is recorded unless it is its first use and before its creation. -/
theorem touch_accepted_iff {row : ApiKeyRow} (member : row ∈ database.apiKeys)
    (active : row.revokedAt = none) (usedAt : Timestamp) :
    (∃ rows later, database.touch row.id row.clientId usedAt = .ok (rows, later)) ↔
      row.lastUsedAt.isSome ∨ row.createdAt ≤ usedAt := by
  rw [touch, updateKeys_accepted_iff (used_identity usedAt)]
  constructor
  · intro checked
    cases used : row.lastUsedAt with
    | some lastUsedAt => exact .inl rfl
    | none =>
        right
        apply (ApiKeyRow.accepted_used (database.apiKeysAccepted row member) usedAt).mp
        apply checked row member
        simp [usable, ApiKeyRow.owned, active, used]
  · intro ordered other present matched
    simp only [usable, Bool.and_eq_true] at matched
    obtain ⟨⟨owned, -⟩, newer⟩ := matched
    obtain rfl := id_unique present member (owned_iff.mp owned).1
    have accepted := database.apiKeysAccepted other present
    apply (ApiKeyRow.accepted_used accepted usedAt).mpr
    rcases ordered with used | created
    · obtain ⟨lastUsedAt, same⟩ := Option.isSome_iff_exists.mp used
      have first := (ApiKeyRow.accepted_iff.mp accepted).2.2.2.2.1 lastUsedAt same
      have later : lastUsedAt < usedAt := by simpa [same] using newer
      exact first.trans later.le
    · exact created

/-- The revocation of an active key is recorded unless it is before the creation of the key. -/
theorem revoke_accepted_iff {row : ApiKeyRow} (member : row ∈ database.apiKeys)
    (active : row.revokedAt = none) (revokedAt : Timestamp) :
    (∃ rows later, database.revoke row.id row.clientId revokedAt = .ok (rows, later)) ↔
      row.createdAt ≤ revokedAt := by
  rw [revoke, updateKeys_accepted_iff (revoked_identity revokedAt)]
  constructor
  · intro checked
    apply (ApiKeyRow.accepted_revoked (database.apiKeysAccepted row member) revokedAt).mp
    apply checked row member
    simp [revocable, ApiKeyRow.owned, active]
  · intro ordered other present matched
    simp only [revocable, Bool.and_eq_true] at matched
    obtain rfl := id_unique present member (owned_iff.mp matched.1).1
    exact (ApiKeyRow.accepted_revoked (database.apiKeysAccepted other present) revokedAt).mpr
      ordered

end AuthDatabase

@[simp] theorem Session.write_some (committed working database : AuthDatabase) :
    (⟨committed, some working⟩ : Session).write database = ⟨committed, some database⟩ := rfl

section Serve

variable {session : Session} {Value Result : Type}

@[simp] theorem serve_acquire {next : Unit → Transaction Result} :
    Program.serve Session.answer session (attempt .acquire >>= next).run =
      Program.serve Session.answer session (next ()).run := rfl

@[simp] theorem serve_begin {next : Unit → Transaction Result} :
    Program.serve Session.answer session (attempt .begin >>= next).run =
      Program.serve Session.answer ⟨session.committed, some session.committed⟩ (next ()).run := rfl

@[simp] theorem serve_commit {next : Unit → Transaction Result} :
    Program.serve Session.answer session (attempt .commit >>= next).run =
      Program.serve Session.answer ⟨session.current, none⟩ (next ()).run := rfl

@[simp] theorem serve_decode {record : ApiKeyRecord}
    {next : ApiKeyRecord → Transaction Result} :
    Program.serve Session.answer session (decodeOrRollback record.toRow >>= next).run =
      Program.serve Session.answer session (next record).run := by
  rw [decodeOrRollback, apiKeyFromRow_eq_ok.mpr rfl]
  rfl

section Environments

variable {Environment : Type} {environment : Environment}
  {answer : Environment → (statement : Statement) → statement.Answer × Environment}

/-- A statement outside a transaction leaves the operation with its error. -/
theorem serve_attempt {statement : Statement} {next : statement.Rows → Transaction Result} :
    Program.serve answer environment (attempt statement >>= next).run =
      match answer environment statement with
      | (some (.ok rows), later) => Program.serve answer later (next rows).run
      | (some (.error error), later) => (some (.error (.fromSqlx error)), later)
      | (none, later) => (none, later) := by
  rw [Program.serve_except_bind, attempt, Program.serve_except_bind, execute,
    Program.serve_except_bind, Program.serve_except_lift, Program.serve_request]
  rcases answer environment statement with ⟨_ | error | rows, later⟩
  · rfl
  · rfl
  · rfl

/-- A rollback leaves with its error whether it is accepted or not. -/
theorem serve_rollbackErr (error : AuthStoreError) :
    Program.serve answer environment (rollbackErr error : Transaction Value).run =
      ((answer environment .rollback).1.map fun _ => .error error,
        (answer environment .rollback).2) := by
  rw [rollbackErr, execute, Program.serve_except_bind, Program.serve_except_bind,
    Program.serve_except_lift, Program.serve_request]
  rcases answer environment .rollback with ⟨_ | rolled, last⟩
  · rfl
  · rfl

/-- A failed statement of a transaction rolls it back before it leaves with its error. -/
theorem serve_attemptOrRollback {statement : Statement}
    {next : statement.Rows → Transaction Result} :
    Program.serve answer environment (attemptOrRollback statement >>= next).run =
      match answer environment statement with
      | (some (.ok rows), later) => Program.serve answer later (next rows).run
      | (some (.error error), later) =>
          ((answer later .rollback).1.map fun _ => .error (.fromSqlx error),
            (answer later .rollback).2)
      | (none, later) => (none, later) := by
  rw [Program.serve_except_bind, attemptOrRollback, Program.serve_except_bind, execute,
    Program.serve_except_bind, Program.serve_except_lift, Program.serve_request]
  rcases answer environment statement with ⟨_ | error | rows, later⟩
  · rfl
  · simp only [Program.serve_except_pure, serve_rollbackErr]
    rcases answer later .rollback with ⟨_ | rolled, last⟩
    · rfl
    · rfl
  · rfl

end Environments

end Serve

section Transactions

open PostgresAuthStore

variable {database later : AuthDatabase} {digest : KeyDigest} {usedAt revokedAt : Timestamp}
  {record : ApiKeyRecord} {rows : List ApiKeyRow} {error : DatabaseError}
  {clientId keyId : Uuid}

theorem perform_authenticate_missing (missing : database.findByDigest digest = none) :
    (authenticateDigest digest usedAt).perform database = (some (.ok none), database) := by
  rw [Transaction.perform, authenticateDigest, serve_acquire, authenticateDigestOn, serve_begin,
    serve_attemptOrRollback]
  simp only [Session.answer, Session.current, missing, Option.getD_some]
  rfl

/-- A revoked key is returned as it is stored. -/
theorem perform_authenticate_revoked (found : database.findByDigest digest = some record.toRow)
    (revoked : record.isRevoked = true) :
    (authenticateDigest digest usedAt).perform database = (some (.ok (some record)), database) := by
  rw [Transaction.perform, authenticateDigest, serve_acquire, authenticateDigestOn, serve_begin,
    serve_attemptOrRollback]
  simp only [Session.answer, Session.current, found, Option.getD_some, serve_decode, revoked,
    if_true]
  rfl

/-- A rejected use of an active key leaves with the mapped error and writes nothing. -/
theorem perform_authenticate_rejected (found : database.findByDigest digest = some record.toRow)
    (active : record.isRevoked = false)
    (failed : database.touch record.id record.clientId usedAt = .error error) :
    (authenticateDigest digest usedAt).perform database =
      (some (.error (.fromSqlx (.database error))), database) := by
  rw [Transaction.perform, authenticateDigest, serve_acquire, authenticateDigestOn, serve_begin,
    serve_attemptOrRollback]
  simp only [Session.answer, Session.current, found, Option.getD_some, serve_decode, active,
    Bool.false_eq_true, if_false]
  rw [serve_attemptOrRollback]
  simp only [Session.answer, Session.current, Option.getD_some, failed, Option.map_some]

/-- An accepted use of an active key commits its write. -/
theorem perform_authenticate_recorded (found : database.findByDigest digest = some record.toRow)
    (active : record.isRevoked = false)
    (touched : database.touch record.id record.clientId usedAt = .ok (rows, later)) :
    (authenticateDigest digest usedAt).perform database =
      (some (.ok (some { record with
        lastUsedAt := (rows.head?.map ApiKeyRow.lastUsedAt).getD record.lastUsedAt })), later) := by
  rw [Transaction.perform, authenticateDigest, serve_acquire, authenticateDigestOn, serve_begin,
    serve_attemptOrRollback]
  simp only [Session.answer, Session.current, found, Option.getD_some, serve_decode, active,
    Bool.false_eq_true, if_false]
  rw [serve_attemptOrRollback]
  simp only [Session.answer, Session.current, Option.getD_some, touched]
  rfl

/-- A rejected revocation leaves with the mapped error and writes nothing. -/
theorem perform_revoke_rejected (failed : database.revoke keyId clientId revokedAt = .error error) :
    (PostgresAuthStore.revokeKey clientId keyId revokedAt).perform database =
      (some (.error (.fromSqlx (.database error))), database) := by
  rw [Transaction.perform, PostgresAuthStore.revokeKey, serve_begin, serve_attemptOrRollback]
  simp only [Session.answer, Session.current, Option.getD_some, failed, Option.map_some]

/-- A first revocation commits its write and returns the written row. -/
theorem perform_revoke_first
    (revoked : database.revoke keyId clientId revokedAt = .ok (rows, later))
    (written : rows.head? = some record.toRow) :
    (PostgresAuthStore.revokeKey clientId keyId revokedAt).perform database =
      (some (.ok (.revoked record)), later) := by
  rw [Transaction.perform, PostgresAuthStore.revokeKey, serve_begin, serve_attemptOrRollback]
  simp only [Session.answer, Session.current, Option.getD_some, revoked, written, serve_decode]
  rfl

/-- Stored rows always decode. -/
theorem mapM_apiKeyFromRow {rows : List ApiKeyRow} (accepted : ∀ row ∈ rows, row.accepted) :
    ∃ records, rows.mapM apiKeyFromRow = .ok records ∧
      records.map ApiKeyRecord.toRow = rows := by
  induction rows with
  | nil => exact ⟨[], rfl, rfl⟩
  | cons row rest ih =>
      obtain ⟨record, decoded⟩ := ApiKeyRow.accepted_decodes (accepted row List.mem_cons_self)
      obtain ⟨records, mapped, rows⟩ :=
        ih fun row member => accepted row (List.mem_cons_of_mem _ member)
      refine ⟨record :: records, ?_, by rw [List.map_cons, decoded, rows]⟩
      rw [List.mapM_cons, apiKeyFromRow_eq_ok.mpr decoded, mapped]
      rfl

/-- A page is a read of stored rows. -/
theorem perform_listKeys {limit offset : Int} {kind : Option ApiKeyKind} (low : 1 ≤ limit)
    (high : limit ≤ maxKeyListLimit) (start : 0 ≤ offset) :
    ∃ records : List ApiKeyRecord,
      records.map ApiKeyRecord.toRow =
        database.page clientId limit offset (kind.map ApiKeyKind.asStr) ∧
      (listKeysForClient clientId limit offset kind).perform database =
        (some (.ok records), database) := by
  have stored : ∀ row ∈ database.page clientId limit offset (kind.map ApiKeyKind.asStr),
      row.accepted := by
    intro row member
    have listed := List.mem_of_mem_drop (List.mem_of_mem_take member)
    rw [AuthDatabase.inventory, List.mem_insertionSort, List.mem_filter] at listed
    exact database.apiKeysAccepted row listed.1
  obtain ⟨records, mapped, rows⟩ := mapM_apiKeyFromRow stored
  have valid : ¬ (¬ (1 ≤ limit ∧ limit ≤ maxKeyListLimit) ∨ offset < 0) := by
    rw [not_or, not_not, not_lt]
    exact ⟨⟨low, high⟩, start⟩
  refine ⟨records, rows, ?_⟩
  rw [Transaction.perform, listKeysForClient, if_neg valid, serve_attempt]
  simp only [Session.answer, Session.current, Option.getD_none, mapped]
  rfl

end Transactions

end Opmux.Auth
