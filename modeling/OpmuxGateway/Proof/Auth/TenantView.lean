import OpmuxGateway.Library.Monitor
import OpmuxGateway.Proof.Auth.StoreGrowth

/-
This file proves that the store shows each tenant its own keys and nothing else.
-/

namespace Opmux.Auth

namespace AuthDatabase

/-- The keys of one tenant in the order of the table. -/
def own (database : AuthDatabase) (tenant : Uuid) : List ApiKeyRow :=
  database.apiKeys.filter fun row => row.clientId = tenant

/-- The keys of every other tenant in the order of the table. -/
def foreign (database : AuthDatabase) (tenant : Uuid) : List ApiKeyRow :=
  database.apiKeys.filter fun row => row.clientId ≠ tenant

theorem mem_own {database : AuthDatabase} {tenant : Uuid} {row : ApiKeyRow} :
    row ∈ database.own tenant ↔ row ∈ database.apiKeys ∧ row.clientId = tenant := by
  simp [own]

theorem mem_foreign {database : AuthDatabase} {tenant : Uuid} {row : ApiKeyRow} :
    row ∈ database.foreign tenant ↔ row ∈ database.apiKeys ∧ row.clientId ≠ tenant := by
  simp [foreign]

end AuthDatabase

/-- Two databases show a tenant the same keys, and they keep the other rows of their origins. -/
structure TenantView (tenant : Uuid) (origin other first second : AuthDatabase) : Prop where
  own : first.own tenant = second.own tenant
  firstForeign : first.foreign tenant = origin.foreign tenant
  secondForeign : second.foreign tenant = other.foreign tenant
  firstClients : first.clients = origin.clients
  secondClients : second.clients = other.clients

/-- A new key shares no identifier and no secret with these rows. -/
structure NewApiKey.Avoids (key : NewApiKey) (rows : List ApiKeyRow) : Prop where
  id : ∀ row ∈ rows, row.id ≠ key.id
  digest : ∀ row ∈ rows, row.keyDigest ≠ key.digest.bytes
  displayId : ∀ row ∈ rows, row.displayId ≠ key.displayId

section Updates

variable {tenant : Uuid} {origin other first second database later : AuthDatabase}
  {matching : ApiKeyRow → Bool} {assign : ApiKeyRow → ApiKeyRow}

open AuthDatabase

/-- An update of no identity column is decided by its first rejected row. -/
theorem updateKeys_decided (immutable : ∀ row, (assign row).identity = row.identity) :
    (∃ row, (database.apiKeys.map (rewriteRow matching assign)).find? (fun row => !row.accepted) =
        some row ∧ database.updateKeys matching assign = .error row.checkViolation) ∨
      (database.apiKeys.map (rewriteRow matching assign)).find? (fun row => !row.accepted) = none ∧
        ∃ later, database.updateKeys matching assign =
          .ok ((database.apiKeys.filter matching).map assign, later) := by
  unfold updateKeys
  dsimp only
  rw [dif_pos (rewritten_identity immutable)]
  split
  · rename_i row rejected
    exact .inl ⟨row, rejected, rfl⟩
  · rename_i rejected
    exact .inr ⟨rejected, _, rfl⟩

/-- The rows that an update of one tenant rejects are rows of that tenant. -/
theorem find_rejected (inside : ∀ row, matching row → row.clientId = tenant) :
    (database.apiKeys.map (rewriteRow matching assign)).find? (fun row => !row.accepted) =
      ((database.own tenant).map (rewriteRow matching assign)).find? fun row => !row.accepted := by
  rw [List.find?_map, List.find?_map, own, List.find?_filter]
  congr 1
  apply List.find?_congr
  intro row member
  rw [Function.comp_apply]
  cases matched : matching row with
  | true => simp [inside row matched]
  | false =>
      have accepted : (rewriteRow matching assign row).accepted = true := by
        rw [rewriteRow, if_neg (by simp [matched])]
        exact database.apiKeysAccepted row member
      simp [accepted]

theorem rewriteRow_clientId (immutable : ∀ row, (assign row).identity = row.identity)
    (row : ApiKeyRow) : (rewriteRow matching assign row).clientId = row.clientId :=
  congrArg (fun columns => columns.2.1) (rewriteRow_identity immutable row)

/-- An update of one tenant rewrites the rows of the tenant and leaves the others. -/
theorem updateKeys_own (immutable : ∀ row, (assign row).identity = row.identity)
    {rows : List ApiKeyRow} (inside : ∀ row, matching row → row.clientId = tenant)
    (updated : database.updateKeys matching assign = .ok (rows, later)) :
    later.own tenant = (database.own tenant).map (rewriteRow matching assign) ∧
      later.foreign tenant = database.foreign tenant ∧ later.clients = database.clients := by
  obtain ⟨-, keys, clients⟩ := updateKeys_eq_ok updated
  have kept (test : Uuid → Bool) :
      later.apiKeys.filter (fun row => test row.clientId) =
        (database.apiKeys.filter fun row => test row.clientId).map
          (rewriteRow matching assign) := by
    rw [keys, List.filter_map]
    congr 1
    apply List.filter_congr
    intro row _
    rw [Function.comp_apply, rewriteRow_clientId immutable]
  refine ⟨kept fun owner => owner = tenant, ?_, clients⟩
  refine (kept fun owner => owner ≠ tenant).trans ?_
  have fixed : ∀ row ∈ database.foreign tenant, rewriteRow matching assign row = row := by
    intro row member
    have away := (mem_foreign.mp member).2
    have unmatched : matching row = false := by
      by_contra matched
      exact away (inside row (by simpa using matched))
    simp [rewriteRow, unmatched]
  exact (List.map_congr_left fixed).trans (List.map_id _)

theorem filter_own (inside : ∀ row, matching row → row.clientId = tenant) :
    database.apiKeys.filter matching = (database.own tenant).filter matching := by
  rw [own, List.filter_filter]
  apply List.filter_congr
  intro row _
  cases matched : matching row with
  | false => rfl
  | true => simp [inside row matched]

/-- An update of one tenant ends alike in two databases that show it the same keys. -/
theorem updateKeys_view (view : TenantView tenant origin other first second)
    (immutable : ∀ row, (assign row).identity = row.identity)
    (inside : ∀ row, matching row → row.clientId = tenant) :
    (∃ error, first.updateKeys matching assign = .error error ∧
        second.updateKeys matching assign = .error error) ∨
      ∃ rows firstLater secondLater,
        first.updateKeys matching assign = .ok (rows, firstLater) ∧
        second.updateKeys matching assign = .ok (rows, secondLater) ∧
        TenantView tenant origin other firstLater secondLater := by
  have same : (first.apiKeys.map (rewriteRow matching assign)).find? (fun row => !row.accepted) =
      (second.apiKeys.map (rewriteRow matching assign)).find? fun row => !row.accepted := by
    rw [find_rejected inside, find_rejected inside, view.own]
  rcases updateKeys_decided immutable with ⟨row, broken, failed⟩ | ⟨sound, firstLater, updated⟩
  · left
    rcases updateKeys_decided immutable with ⟨also, breaks, fails⟩ | ⟨sound, _⟩
    · rw [same, breaks, Option.some.injEq] at broken
      exact ⟨_, failed, broken ▸ fails⟩
    · rw [same, sound] at broken
      cases broken
  · right
    rcases updateKeys_decided immutable with ⟨also, breaks, _⟩ | ⟨_, secondLater, updates⟩
    · rw [same, breaks] at sound
      cases sound
    · rw [filter_own inside] at updated updates
      rw [← view.own] at updates
      refine ⟨_, firstLater, secondLater, updated, updates, ?_⟩
      obtain ⟨firstOwn, firstForeign, firstClients⟩ := updateKeys_own immutable inside updated
      obtain ⟨secondOwn, secondForeign, secondClients⟩ := updateKeys_own immutable inside updates
      exact ⟨by rw [firstOwn, secondOwn, view.own], firstForeign.trans view.firstForeign,
        secondForeign.trans view.secondForeign, firstClients.trans view.firstClients,
        secondClients.trans view.secondClients⟩

end Updates

section Reads

variable {tenant : Uuid} {origin other first second database later : AuthDatabase}

open AuthDatabase

/-- A search for a row of the tenant looks only at the rows of the tenant. -/
theorem find_own {test : ApiKeyRow → Bool}
    (inside : ∀ row ∈ database.apiKeys, test row → row.clientId = tenant) :
    database.apiKeys.find? test = (database.own tenant).find? test := by
  rw [own, List.find?_filter]
  apply List.find?_congr
  intro row member
  cases met : test row with
  | false => simp
  | true => simp [inside row member met]

/-- A digest of no other tenant finds the same row of the tenant in both databases. -/
theorem findByDigest_view (view : TenantView tenant origin other first second)
    {digest : KeyDigest}
    (avoids : ∀ row ∈ origin.foreign tenant ++ other.foreign tenant, row.keyDigest ≠ digest.bytes) :
    first.findByDigest digest = second.findByDigest digest ∧
      ∀ row, first.findByDigest digest = some row → row ∈ first.own tenant := by
  have inside {database : AuthDatabase}
      (away : ∀ row ∈ database.foreign tenant, row.keyDigest ≠ digest.bytes) :
      ∀ row ∈ database.apiKeys, decide (row.keyDigest = digest.bytes) = true →
        row.clientId = tenant := by
    intro row member found
    by_contra elsewhere
    exact away row (mem_foreign.mpr ⟨member, elsewhere⟩) (by simpa using found)
  have firstInside := inside (view.firstForeign ▸ fun row member =>
    avoids row (List.mem_append_left _ member))
  have secondInside := inside (view.secondForeign ▸ fun row member =>
    avoids row (List.mem_append_right _ member))
  constructor
  · rw [findByDigest, findByDigest, find_own firstInside, find_own secondInside, view.own]
  · intro row found
    obtain ⟨member, digested⟩ := findByDigest_eq_some.mp found
    exact mem_own.mpr ⟨member, firstInside row member (by simpa using digested)⟩

theorem findOwned_view (view : TenantView tenant origin other first second) (keyId : Uuid) :
    first.findOwned keyId tenant = second.findOwned keyId tenant := by
  have inside (database : AuthDatabase) : ∀ row ∈ database.apiKeys,
      row.owned keyId tenant = true → row.clientId = tenant :=
    fun row _ found => (owned_iff.mp found).2
  rw [findOwned, findOwned, find_own (inside first), find_own (inside second), view.own]

theorem page_view (view : TenantView tenant origin other first second) (limit offset : Int)
    (kind : Option String) :
    first.page tenant limit offset kind = second.page tenant limit offset kind := by
  have listing (database : AuthDatabase) :
      database.apiKeys.filter (listed tenant kind) =
        (database.own tenant).filter (listed tenant kind) :=
    filter_own fun row found => by simpa [listed] using (Bool.and_eq_true_iff.mp found).1
  rw [page, page, inventory, inventory, listing first, listing second, view.own]

/-- A value that no other tenant uses is used in a database when the tenant uses it. -/
theorem mem_column {Key : Type} (column : ApiKeyRow → Key) {value : Key}
    (avoids : ∀ row ∈ database.foreign tenant, column row ≠ value) :
    value ∈ database.apiKeys.map column ↔ value ∈ (database.own tenant).map column := by
  constructor
  · intro member
    obtain ⟨row, stored, rfl⟩ := List.mem_map.mp member
    by_cases owned : row.clientId = tenant
    · exact List.mem_map_of_mem (mem_own.mpr ⟨stored, owned⟩)
    · exact absurd rfl (avoids row (mem_foreign.mpr ⟨stored, owned⟩))
  · intro member
    obtain ⟨row, stored, rfl⟩ := List.mem_map.mp member
    exact List.mem_map_of_mem (mem_own.mp stored).1

/-- A database with one more key of the tenant. -/
theorem TenantView.append {key : ApiKeyRow} {firstLater secondLater : AuthDatabase}
    (view : TenantView tenant origin other first second) (owner : key.clientId = tenant)
    (one : firstLater.apiKeys = first.apiKeys ++ [key] ∧ firstLater.clients = first.clients)
    (two : secondLater.apiKeys = second.apiKeys ++ [key] ∧ secondLater.clients = second.clients) :
    TenantView tenant origin other firstLater secondLater := by
  have owned {before after : AuthDatabase} (added : after.apiKeys = before.apiKeys ++ [key]) :
      after.own tenant = before.own tenant ++ [key] := by
    rw [AuthDatabase.own, AuthDatabase.own, added, List.filter_append, List.filter_singleton]
    simp [owner]
  have kept {before after : AuthDatabase} (added : after.apiKeys = before.apiKeys ++ [key]) :
      after.foreign tenant = before.foreign tenant := by
    rw [foreign, foreign, added, List.filter_append, List.filter_singleton]
    simp [owner]
  exact ⟨by rw [owned one.1, owned two.1, view.own], (kept one.1).trans view.firstForeign,
    (kept two.1).trans view.secondForeign, one.2.trans view.firstClients,
    two.2.trans view.secondClients⟩

/-- An insertion is decided by the columns that its constraints read. -/
theorem insertKey_alike {row : ApiKeyRow}
    (ids : row.id ∈ first.apiKeys.map ApiKeyRow.id ↔ row.id ∈ second.apiKeys.map ApiKeyRow.id)
    (digests : row.keyDigest ∈ first.apiKeys.map ApiKeyRow.keyDigest ↔
      row.keyDigest ∈ second.apiKeys.map ApiKeyRow.keyDigest)
    (displays : row.displayId ∈ first.apiKeys.map ApiKeyRow.displayId ↔
      row.displayId ∈ second.apiKeys.map ApiKeyRow.displayId)
    (owners : row.clientId ∈ first.clients.map ClientRow.id ↔
      row.clientId ∈ second.clients.map ClientRow.id) :
    (∃ error, first.insertKey row = .error error ∧ second.insertKey row = .error error) ∨
      ∃ firstLater secondLater, first.insertKey row = .ok firstLater ∧
        second.insertKey row = .ok secondLater := by
  simp only [AuthDatabase.insertKey, ids, digests, displays, owners]
  split_ifs <;> simp

/-- An insertion of the tenant ends alike in two databases that show it the same keys. -/
theorem insertKey_view (view : TenantView tenant origin other first second) {key : NewApiKey}
    (known : tenant ∈ origin.clients.map ClientRow.id ↔ tenant ∈ other.clients.map ClientRow.id)
    (owner : key.clientId = tenant)
    (avoids : key.Avoids (origin.foreign tenant ++ other.foreign tenant)) :
    (∃ error, first.insertKey key.toRow = .error error ∧
        second.insertKey key.toRow = .error error) ∨
      ∃ firstLater secondLater, first.insertKey key.toRow = .ok firstLater ∧
        second.insertKey key.toRow = .ok secondLater ∧
        TenantView tenant origin other firstLater secondLater := by
  have column {Key : Type} (read : ApiKeyRow → Key)
      (away : ∀ row ∈ origin.foreign tenant ++ other.foreign tenant,
        read row ≠ read key.toRow) :
      read key.toRow ∈ first.apiKeys.map read ↔ read key.toRow ∈ second.apiKeys.map read := by
    rw [mem_column read (view.firstForeign ▸ fun row member =>
        away row (List.mem_append_left _ member)),
      mem_column read (view.secondForeign ▸ fun row member =>
        away row (List.mem_append_right _ member)), view.own]
  have ids := column ApiKeyRow.id avoids.id
  have digests := column ApiKeyRow.keyDigest avoids.digest
  have displays := column ApiKeyRow.displayId avoids.displayId
  have owners : key.toRow.clientId ∈ first.clients.map ClientRow.id ↔
      key.toRow.clientId ∈ second.clients.map ClientRow.id := by
    rw [show key.toRow.clientId = tenant from owner, view.firstClients, view.secondClients, known]
  obtain failed | ⟨firstLater, secondLater, inserted, inserts⟩ :=
    insertKey_alike ids digests displays owners
  · exact .inl failed
  · exact .inr ⟨firstLater, secondLater, inserted, inserts,
      view.append owner (insertKey_eq_ok inserted) (insertKey_eq_ok inserts)⟩

end Reads

/-- Two sessions show a tenant the same keys in each of their snapshots. -/
inductive SessionView (tenant : Uuid) (origin other : AuthDatabase) : Session → Session → Prop
  | idle {first second : AuthDatabase} : TenantView tenant origin other first second →
      SessionView tenant origin other ⟨first, none⟩ ⟨second, none⟩
  | working {first second firstWorking secondWorking : AuthDatabase} :
      TenantView tenant origin other first second →
      TenantView tenant origin other firstWorking secondWorking →
      SessionView tenant origin other ⟨first, some firstWorking⟩ ⟨second, some secondWorking⟩

/-- A statement is bound to a tenant when it reads and writes only keys of that tenant. -/
def Statement.Bound (tenant : Uuid) (rows : List ApiKeyRow) : Statement → Prop
  | .insertClient _ => False
  | .insertKey key => key.clientId = tenant ∧ key.Avoids rows
  | .findByDigest digest | .lockByDigest digest => ∀ row ∈ rows, row.keyDigest ≠ digest.bytes
  | .touch _ clientId _ | .revoke _ clientId _ | .findOwned _ clientId | .page clientId _ _ _ =>
      clientId = tenant
  | .acquire | .begin | .commit | .rollback => True

/-- An operation of the store is bound to a tenant when each of its statements is. -/
def StoreRequest.Bound (tenant : Uuid) (rows : List ApiKeyRow) : StoreRequest → Prop
  | .insertKey key => key.clientId = tenant ∧ key.Avoids rows
  | .authenticateDigest digest _ => ∀ row ∈ rows, row.keyDigest ≠ digest.bytes
  | .listKeysForClient clientId _ _ _ | .revokeKey clientId _ _ => clientId = tenant
  | .provisionClientWithKey _ _ | .findKeyByDigest _ | .touchLastUsed _ _ _ => False

section Sessions

variable {tenant : Uuid} {origin other : AuthDatabase}

namespace SessionView

variable {first second : Session}

theorem current (view : SessionView tenant origin other first second) :
    TenantView tenant origin other first.current second.current := by
  cases view with
  | idle committed => exact committed
  | working _ working => exact working

theorem write (view : SessionView tenant origin other first second)
    {firstLater secondLater : AuthDatabase}
    (later : TenantView tenant origin other firstLater secondLater) :
    SessionView tenant origin other (first.write firstLater) (second.write secondLater) := by
  cases view with
  | idle _ => exact .idle later
  | working committed _ => exact .working committed later

/-- An update of the tenant answers alike in both sessions. -/
theorem answer_update (view : SessionView tenant origin other first second)
    {matching : ApiKeyRow → Bool} {assign : ApiKeyRow → ApiKeyRow} {Rows : Type}
    (immutable : ∀ row, (assign row).identity = row.identity)
    (inside : ∀ row, matching row → row.clientId = tenant) (read : List ApiKeyRow → Rows) :
    ∃ reply firstLater secondLater,
      (match first.current.updateKeys matching assign with
        | .ok (rows, database) => (some (.ok (read rows)), first.write database)
        | .error error => (some (.error (SqlxError.database error)), first)) =
          ((reply : Option (Except SqlxError Rows)), firstLater) ∧
      (match second.current.updateKeys matching assign with
        | .ok (rows, database) => (some (.ok (read rows)), second.write database)
        | .error error => (some (.error (SqlxError.database error)), second)) =
          (reply, secondLater) ∧
      SessionView tenant origin other firstLater secondLater := by
  rcases updateKeys_view view.current immutable inside with
    ⟨error, failed, fails⟩ | ⟨rows, firstLater, secondLater, updated, updates, later⟩
  · rw [failed, fails]
    exact ⟨_, _, _, rfl, rfl, view⟩
  · rw [updated, updates]
    exact ⟨_, _, _, rfl, rfl, view.write later⟩

/-- A bound statement is answered alike in both sessions. -/
theorem answer (view : SessionView tenant origin other first second)
    (known : tenant ∈ origin.clients.map ClientRow.id ↔ tenant ∈ other.clients.map ClientRow.id)
    {statement : Statement}
    (bound : statement.Bound tenant (origin.foreign tenant ++ other.foreign tenant)) :
    ∃ reply firstLater secondLater, first.answer statement = (reply, firstLater) ∧
      second.answer statement = (reply, secondLater) ∧
      SessionView tenant origin other firstLater secondLater := by
  cases statement with
  | insertClient client => exact bound.elim
  | acquire => exact ⟨_, _, _, rfl, rfl, view⟩
  | begin =>
      refine ⟨_, _, _, rfl, rfl, ?_⟩
      cases view with
      | idle committed => exact .working committed committed
      | working committed _ => exact .working committed committed
  | commit => exact ⟨_, _, _, rfl, rfl, .idle view.current⟩
  | rollback =>
      refine ⟨_, _, _, rfl, rfl, ?_⟩
      cases view with
      | idle committed => exact .idle committed
      | working committed _ => exact .idle committed
  | insertKey key =>
      obtain ⟨owner, avoids⟩ := bound
      simp only [Session.answer]
      rcases insertKey_view view.current known owner avoids with
        ⟨error, failed, fails⟩ | ⟨firstLater, secondLater, inserted, inserts, later⟩
      · rw [failed, fails]
        exact ⟨_, _, _, rfl, rfl, view⟩
      · rw [inserted, inserts]
        exact ⟨_, _, _, rfl, rfl, view.write later⟩
  | findByDigest digest =>
      simp only [Session.answer, (findByDigest_view view.current bound).1]
      exact ⟨_, _, _, rfl, rfl, view⟩
  | lockByDigest digest =>
      simp only [Session.answer, (findByDigest_view view.current bound).1]
      exact ⟨_, _, _, rfl, rfl, view⟩
  | touch keyId clientId usedAt =>
      cases bound
      apply view.answer_update (AuthDatabase.used_identity usedAt) _
        fun rows => rows.head?.map ApiKeyRow.lastUsedAt
      intro row matched
      simp only [AuthDatabase.usable, Bool.and_eq_true] at matched
      exact (AuthDatabase.owned_iff.mp matched.1.1).2
  | revoke keyId clientId revokedAt =>
      cases bound
      apply view.answer_update (AuthDatabase.revoked_identity revokedAt) _ List.head?
      intro row matched
      simp only [AuthDatabase.revocable, Bool.and_eq_true] at matched
      exact (AuthDatabase.owned_iff.mp matched.1).2
  | findOwned keyId clientId =>
      cases bound
      simp only [Session.answer, findOwned_view view.current keyId]
      exact ⟨_, _, _, rfl, rfl, view⟩
  | page clientId limit offset kind =>
      cases bound
      simp only [Session.answer, page_view view.current limit offset kind]
      exact ⟨_, _, _, rfl, rfl, view⟩

end SessionView

/-- Every other bound operation than the authentication sends only bound statements. -/
theorem StoreRequest.asks_bound {rows : List ApiKeyRow} {request : StoreRequest}
    (bound : request.Bound tenant rows)
    (other : ∀ digest usedAt, request ≠ .authenticateDigest digest usedAt) :
    Program.Asks (Statement.Bound tenant rows) request.transaction.run := by
  cases request with
  | provisionClientWithKey | findKeyByDigest | touchLastUsed => exact bound.elim
  | authenticateDigest digest usedAt => exact absurd rfl (other digest usedAt)
  | insertKey key =>
      apply Program.asks_except_bind (asks_attempt trivial)
      intro _
      apply Program.asks_except_bind
      · exact Program.asks_except_bind (asks_attemptOrRollback bound trivial)
          fun row => asks_decodeOrRollback trivial row
      · intro record
        exact Program.asks_except_bind (asks_attempt trivial) fun _ => trivial
  | listKeysForClient clientId limit offset kind =>
      change Program.Asks _ (PostgresAuthStore.listKeysForClient clientId limit offset kind).run
      unfold PostgresAuthStore.listKeysForClient
      split
      · trivial
      · exact Program.asks_except_bind (asks_attempt bound) fun _ => trivial
  | revokeKey clientId keyId revokedAt =>
      apply Program.asks_except_bind (asks_attempt trivial)
      intro _
      apply Program.asks_except_bind (asks_attemptOrRollback bound trivial)
      intro revoked
      cases revoked with
      | some row =>
          apply Program.asks_except_bind (asks_decodeOrRollback trivial row)
          intro record
          exact Program.asks_except_bind (asks_attempt trivial) fun _ => trivial
      | none =>
          apply Program.asks_except_bind (asks_attemptOrRollback bound trivial)
          intro existing
          apply Program.asks_except_bind (asks_attempt trivial)
          intro _
          cases existing with
          | none => trivial
          | some row => exact Program.asks_except_bind trivial fun _ => trivial

variable {first second : AuthDatabase}

/-- A transaction of bound statements ends alike in both databases. -/
theorem Transaction.perform_view (view : TenantView tenant origin other first second)
    (known : tenant ∈ origin.clients.map ClientRow.id ↔ tenant ∈ other.clients.map ClientRow.id)
    {Value : Type} {transaction : Transaction Value}
    (asks : Program.Asks
      (Statement.Bound tenant (origin.foreign tenant ++ other.foreign tenant)) transaction.run) :
    (transaction.perform first).1 = (transaction.perform second).1 ∧
      TenantView tenant origin other (transaction.perform first).2
        (transaction.perform second).2 := by
  have alike (statement : Statement) (one two : Session)
      (bound : statement.Bound tenant (origin.foreign tenant ++ other.foreign tenant))
      (view : SessionView tenant origin other one two) := view.answer known bound
  obtain ⟨outcome, firstLast, secondLast, one, two, last⟩ :=
    asks.serve_related alike (.idle view)
  unfold Transaction.perform
  rw [one, two]
  refine ⟨rfl, ?_⟩
  cases last with
  | idle committed => exact committed
  | working committed _ => exact committed

/-- A presented credential of no other tenant is authenticated alike in both databases. -/
theorem authenticate_view (view : TenantView tenant origin other first second)
    {digest : KeyDigest} (usedAt : Timestamp)
    (avoids : ∀ row ∈ origin.foreign tenant ++ other.foreign tenant,
      row.keyDigest ≠ digest.bytes) :
    ((PostgresAuthStore.authenticateDigest digest usedAt).perform first).1 =
        ((PostgresAuthStore.authenticateDigest digest usedAt).perform second).1 ∧
      TenantView tenant origin other
        ((PostgresAuthStore.authenticateDigest digest usedAt).perform first).2
        ((PostgresAuthStore.authenticateDigest digest usedAt).perform second).2 ∧
      ∀ record, ((PostgresAuthStore.authenticateDigest digest usedAt).perform first).1 =
        some (.ok (some record)) → record.clientId = tenant := by
  obtain ⟨same, owned⟩ := findByDigest_view view avoids
  cases found : first.findByDigest digest with
  | none =>
      rw [perform_authenticate_missing found, perform_authenticate_missing (same ▸ found)]
      exact ⟨rfl, view, by rintro _ ⟨⟩⟩
  | some row =>
      have member := AuthDatabase.mem_own.mp (owned row found)
      obtain ⟨record, rfl⟩ := ApiKeyRow.accepted_decodes (first.apiKeysAccepted row member.1)
      have finds := same ▸ found
      have owner : record.clientId = tenant := member.2
      cases revoked : record.isRevoked with
      | true =>
          rw [perform_authenticate_revoked found revoked,
            perform_authenticate_revoked finds revoked]
          refine ⟨rfl, view, ?_⟩
          rintro _ ⟨⟩
          exact owner
      | false =>
          have inside : ∀ row, AuthDatabase.usable record.id record.clientId usedAt row →
              row.clientId = tenant := by
            intro row matched
            simp only [AuthDatabase.usable, Bool.and_eq_true] at matched
            exact (AuthDatabase.owned_iff.mp matched.1.1).2.trans owner
          rcases updateKeys_view view (AuthDatabase.used_identity usedAt) inside with
            ⟨error, failed, fails⟩ | ⟨rows, firstLater, secondLater, updated, updates, later⟩
          · rw [perform_authenticate_rejected found revoked failed,
              perform_authenticate_rejected finds revoked fails]
            exact ⟨rfl, view, by rintro _ ⟨⟩⟩
          · rw [perform_authenticate_recorded found revoked updated,
              perform_authenticate_recorded finds revoked updates]
            refine ⟨rfl, later, ?_⟩
            rintro _ ⟨⟩
            exact owner

/-- A bound operation ends alike in both databases. -/
theorem StoreRequest.perform_view (view : TenantView tenant origin other first second)
    (known : tenant ∈ origin.clients.map ClientRow.id ↔ tenant ∈ other.clients.map ClientRow.id)
    {request : StoreRequest}
    (bound : request.Bound tenant (origin.foreign tenant ++ other.foreign tenant)) :
    (request.transaction.perform first).1 = (request.transaction.perform second).1 ∧
      TenantView tenant origin other (request.transaction.perform first).2
        (request.transaction.perform second).2 := by
  by_cases authenticates : ∃ digest usedAt, request = .authenticateDigest digest usedAt
  · obtain ⟨digest, usedAt, rfl⟩ := authenticates
    obtain ⟨same, later, _⟩ := authenticate_view view usedAt bound
    exact ⟨same, later⟩
  · push Not at authenticates
    exact Transaction.perform_view view known (StoreRequest.asks_bound bound authenticates)

end Sessions

/-- A row stays as it is, or a later use of an active key with one of these digests is recorded. -/
def ApiKeyRow.Used (presented : KeyDigest → Prop) (before after : ApiKeyRow) : Prop :=
  after = before ∨ before.revokedAt = none ∧
    (∃ digest, presented digest ∧ before.keyDigest = digest.bytes) ∧
    ∃ usedAt, after = { before with lastUsedAt := some usedAt } ∧
      ∀ earlier, before.lastUsedAt = some earlier → earlier < usedAt

/-- Later databases record only uses of active keys with these digests. -/
def AuthDatabase.Used (presented : KeyDigest → Prop) (before after : AuthDatabase) : Prop :=
  after.clients = before.clients ∧
    List.Forall₂ (ApiKeyRow.Used presented) before.apiKeys after.apiKeys

section Use

variable {presented : KeyDigest → Prop}

theorem ApiKeyRow.Used.trans {first second third : ApiKeyRow} (one : first.Used presented second)
    (two : second.Used presented third) : first.Used presented third := by
  rcases one with rfl | ⟨active, known, usedAt, rfl, later⟩
  · exact two
  · rcases two with rfl | ⟨_, _, again, rfl, last⟩
    · exact .inr ⟨active, known, usedAt, rfl, later⟩
    · refine .inr ⟨active, known, again, rfl, ?_⟩
      intro earlier used
      exact (later earlier used).trans (last usedAt rfl)

/-- A recorded use changes neither the digest nor the kind of its row. -/
theorem ApiKeyRow.Used.same {before after : ApiKeyRow} (used : before.Used presented after) :
    after.keyDigest = before.keyDigest ∧ after.kind = before.kind := by
  rcases used with rfl | ⟨_, _, _, rfl, _⟩
  · exact ⟨rfl, rfl⟩
  · exact ⟨rfl, rfl⟩

theorem AuthDatabase.Used.refl (database : AuthDatabase) : database.Used presented database :=
  ⟨rfl, List.forall₂_same.mpr fun _ _ => .inl rfl⟩

theorem AuthDatabase.Used.trans {first second third : AuthDatabase}
    (one : first.Used presented second) (two : second.Used presented third) :
    first.Used presented third := by
  have rows {before middle after : List ApiKeyRow}
      (one : List.Forall₂ (ApiKeyRow.Used presented) before middle)
      (two : List.Forall₂ (ApiKeyRow.Used presented) middle after) :
      List.Forall₂ (ApiKeyRow.Used presented) before after := by
    induction one generalizing after with
    | nil => exact two
    | cons row _ ih =>
        cases two with
        | cons next rest => exact .cons (row.trans next) (ih rest)
  exact ⟨two.1.trans one.1, rows one.2 two.2⟩

/-- Each later row comes from an earlier one. -/
theorem AuthDatabase.Used.earlier {before after : AuthDatabase}
    (used : before.Used presented after) {row : ApiKeyRow} (member : row ∈ after.apiKeys) :
    ∃ earlier ∈ before.apiKeys, earlier.Used presented row := by
  have rows {first second : List ApiKeyRow}
      (related : List.Forall₂ (ApiKeyRow.Used presented) first second) (found : row ∈ second) :
      ∃ earlier ∈ first, earlier.Used presented row := by
    induction related with
    | nil => cases found
    | cons kept _ ih =>
        cases found with
        | head => exact ⟨_, List.mem_cons_self, kept⟩
        | tail _ found =>
            obtain ⟨earlier, stored, kept⟩ := ih found
            exact ⟨earlier, List.mem_cons_of_mem _ stored, kept⟩
  exact rows used.2 member

/-- An authentication records at most one use, which is one of its own digest. -/
theorem authenticate_used (database : AuthDatabase) {digest : KeyDigest} (usedAt : Timestamp)
    (known : presented digest) :
    database.Used presented
      ((PostgresAuthStore.authenticateDigest digest usedAt).perform database).2 := by
  cases found : database.findByDigest digest with
  | none =>
      rw [perform_authenticate_missing found]
      exact .refl database
  | some row =>
      obtain ⟨member, digested⟩ := AuthDatabase.findByDigest_eq_some.mp found
      obtain ⟨record, rfl⟩ := ApiKeyRow.accepted_decodes (database.apiKeysAccepted row member)
      cases revoked : record.isRevoked with
      | true =>
          rw [perform_authenticate_revoked found revoked]
          exact .refl database
      | false =>
          cases touched : database.touch record.id record.clientId usedAt with
          | error error =>
              rw [perform_authenticate_rejected found revoked touched]
              exact .refl database
          | ok result =>
              obtain ⟨rows, later⟩ := result
              rw [perform_authenticate_recorded found revoked touched]
              obtain ⟨-, keys, clients⟩ := AuthDatabase.updateKeys_eq_ok touched
              refine ⟨clients, ?_⟩
              rw [keys, List.forall₂_map_right_iff]
              refine List.forall₂_same.mpr fun other stored => ?_
              unfold AuthDatabase.rewriteRow
              split
              · rename_i usable
                simp only [AuthDatabase.usable, Bool.and_eq_true] at usable
                obtain ⟨⟨owned, active⟩, newer⟩ := usable
                have same := AuthDatabase.id_unique stored member
                  (AuthDatabase.owned_iff.mp owned).1
                refine .inr ⟨by simpa using active, ⟨digest, known, same ▸ digested⟩, usedAt, rfl,
                  fun earlier used => ?_⟩
                simpa [used] using newer
              · exact .inl rfl

/-- An answered authentication describes the stored row of its digest. -/
theorem authenticate_row {database : AuthDatabase} {digest : KeyDigest} {usedAt : Timestamp}
    {record : ApiKeyRecord}
    (answered : ((PostgresAuthStore.authenticateDigest digest usedAt).perform database).1 =
      some (.ok (some record))) :
    ∃ row ∈ database.apiKeys, row.keyDigest = digest.bytes ∧
      row = { record.toRow with lastUsedAt := row.lastUsedAt } := by
  cases found : database.findByDigest digest with
  | none =>
      rw [perform_authenticate_missing found] at answered
      cases answered
  | some row =>
      obtain ⟨member, digested⟩ := AuthDatabase.findByDigest_eq_some.mp found
      obtain ⟨stored, rfl⟩ := ApiKeyRow.accepted_decodes (database.apiKeysAccepted row member)
      refine ⟨stored.toRow, member, digested, ?_⟩
      cases revoked : stored.isRevoked with
      | true =>
          rw [perform_authenticate_revoked found revoked] at answered
          cases answered
          rfl
      | false =>
          cases touched : database.touch stored.id stored.clientId usedAt with
          | error error =>
              rw [perform_authenticate_rejected found revoked touched] at answered
              cases answered
          | ok result =>
              obtain ⟨rows, later⟩ := result
              rw [perform_authenticate_recorded found revoked touched] at answered
              cases answered
              rfl

end Use

end Opmux.Auth
