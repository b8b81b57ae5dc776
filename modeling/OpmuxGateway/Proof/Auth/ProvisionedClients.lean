import OpmuxGateway.Library.Monitor
import OpmuxGateway.Proof.Auth.DurableAnswers

/-
This file says that no interleaving, failure, or lost answer commits a client without a key.
-/

namespace Opmux.Auth

/-- An open transaction may have a client that waits for its key. -/
inductive TransactionPhase where
  | closed
  | opened (waiting : Option Uuid)

/-- A client is inserted inside a transaction and gets its key before the commit. -/
def pairing : Monitor TransactionPhase Statement Statement.Answer where
  step phase statement reply :=
    match reply with
    | some (.ok _) =>
        match statement with
        | .begin => .opened none
        | .commit | .rollback => .closed
        | .insertClient client => .opened (some client.id)
        | .insertKey _ =>
            match phase with
            | .closed => .closed
            | .opened _ => .opened none
        | _ => phase
    | some (.error _) | none => .closed
  allowed phase
    | .begin => phase = .closed
    | .commit => ∀ client, phase ≠ .opened (some client)
    | .insertClient _ => phase = .opened none
    | .insertKey key => ∀ client, phase = .opened (some client) → key.clientId = client
    | _ => True

/-- The clients of a transaction have their keys in it, except the one that waits. -/
def Paired : TransactionPhase → Connection → Prop
  | .closed, connection => ∀ writes held, connection ≠ .working writes held
  | .opened waiting, connection => ∃ writes held, connection = .working writes held ∧
      ∀ client, Write.client client ∈ writes →
        waiting = some client.id ∨ ∃ key, Write.key key ∈ writes ∧ key.clientId = client.id

section Programs

variable {Result : Type} {statement : Statement} {next : statement.Rows → Transaction Result}
  {phase : TransactionPhase}

/-- A program keeps the pairing when the monitor allows each of its statements. -/
def Pairs (phase : TransactionPhase) (program : Transaction Result) : Prop :=
  Program.Obeys pairing phase program.run fun _ _ => True

theorem pairs_attempt (permitted : pairing.allowed phase statement)
    (continued : ∀ rows, Pairs (pairing.step phase statement (some (.ok rows))) (next rows)) :
    Pairs phase (attempt statement >>= next) := by
  refine ⟨permitted, ?_⟩
  intro reply
  cases reply with
  | none => trivial
  | some answer =>
      cases answer with
      | ok rows => exact continued rows
      | error error => trivial

theorem pairs_rollbackErr {Value : Type} {error : AuthStoreError}
    {next : Value → Transaction Result} :
    Pairs phase ((rollbackErr error : Transaction Value) >>= next) := by
  refine ⟨trivial, ?_⟩
  intro reply
  cases reply with
  | none => trivial
  | some answer => trivial

theorem pairs_attemptOrRollback (permitted : pairing.allowed phase statement)
    (continued : ∀ rows, Pairs (pairing.step phase statement (some (.ok rows))) (next rows)) :
    Pairs phase (attemptOrRollback statement >>= next) := by
  refine ⟨permitted, ?_⟩
  intro reply
  cases reply with
  | none => trivial
  | some answer =>
      cases answer with
      | ok rows => exact continued rows
      | error error => exact pairs_rollbackErr

theorem pairs_decodeOrRollback {row : ApiKeyRow} {next : ApiKeyRecord → Transaction Result}
    (continued : ∀ record, Pairs phase (next record)) :
    Pairs phase (decodeOrRollback row >>= next) := by
  unfold decodeOrRollback
  cases apiKeyFromRow row with
  | ok record => exact continued record
  | error error => exact pairs_rollbackErr

/-- A commit is allowed when no client waits. -/
theorem pairs_commit {value : Transaction Result} (ended : Pairs .closed value) :
    Pairs (.opened none) (attempt .commit >>= fun _ => value) := by
  refine pairs_attempt ?_ fun _ => ended
  intro client same
  cases same

/-- The decoding of an answered row sends nothing. -/
theorem pairs_decoded {row : ApiKeyRow} {found : ApiKeyRecord → Result} :
    Pairs phase (found <$> ExceptT.mk (pure (apiKeyFromRow row))) := by
  cases apiKeyFromRow row with
  | ok record => trivial
  | error error => trivial

theorem pairs_insertKeyRow {key : NewApiKey} {waiting : Option Uuid}
    {next : ApiKeyRecord → Transaction Result}
    (owned : ∀ client, waiting = some client → key.clientId = client)
    (continued : ∀ record, Pairs (.opened none) (next record)) :
    Pairs (.opened waiting) (PostgresAuthStore.insertKeyRow key >>= next) := by
  rw [PostgresAuthStore.insertKeyRow, bind_assoc]
  apply pairs_attemptOrRollback
  · intro client same
    exact owned client (TransactionPhase.opened.inj same)
  · intro row
    exact pairs_decodeOrRollback continued

/-- Every operation of the store keeps the pairing. -/
theorem pairs_transaction (request : StoreRequest) : Pairs .closed request.transaction := by
  cases request with
  | provisionClientWithKey client key =>
      change Pairs .closed (PostgresAuthStore.provisionClientWithKey client key)
      unfold PostgresAuthStore.provisionClientWithKey
      split
      · trivial
      · rename_i owned
        refine pairs_attempt rfl fun _ => pairs_attemptOrRollback rfl fun row => ?_
        refine pairs_insertKeyRow ?_ fun record => pairs_commit trivial
        rintro _ ⟨⟩
        exact not_not.mp owned
  | insertKey key =>
      refine pairs_attempt rfl fun _ => pairs_insertKeyRow ?_ fun record => pairs_commit trivial
      rintro _ ⟨⟩
  | findKeyByDigest digest =>
      refine pairs_attempt trivial fun found => ?_
      cases found with
      | none => trivial
      | some row => exact pairs_decoded
  | authenticateDigest digest usedAt =>
      refine pairs_attempt trivial fun _ => pairs_attempt rfl fun _ =>
        pairs_attemptOrRollback trivial fun found => ?_
      cases found with
      | none => exact pairs_commit trivial
      | some row =>
          refine pairs_decodeOrRollback fun record => ?_
          split
          · exact pairs_commit trivial
          · exact pairs_attemptOrRollback trivial fun updated => pairs_commit trivial
  | touchLastUsed clientId keyId usedAt => exact pairs_attempt trivial fun _ => trivial
  | listKeysForClient clientId limit offset kind =>
      change Pairs .closed (PostgresAuthStore.listKeysForClient clientId limit offset kind)
      unfold PostgresAuthStore.listKeysForClient
      split
      · trivial
      · refine pairs_attempt trivial fun rows => ?_
        cases rows.mapM apiKeyFromRow with
        | ok records => trivial
        | error error => trivial
  | revokeKey clientId keyId revokedAt =>
      refine pairs_attempt rfl fun _ => pairs_attemptOrRollback trivial fun changed => ?_
      cases changed with
      | some row => exact pairs_decodeOrRollback fun record => pairs_commit trivial
      | none =>
          refine pairs_attemptOrRollback trivial fun existing => pairs_commit ?_
          cases existing with
          | none => trivial
          | some row => exact pairs_decoded

end Programs

section Connections

variable {committed later : AuthDatabase} {writes : List Write} {connection : Connection}
  {phase : TransactionPhase}

theorem mem_clients_applyAll (applied : committed.applyAll writes = .ok later) {client : ClientRow}
    (member : client ∈ later.clients) :
    client ∈ committed.clients ∨ Write.client client ∈ writes := by
  induction writes generalizing committed with
  | nil =>
      cases applied
      exact .inl member
  | cons write rest ih =>
      obtain ⟨middle, first, last⟩ := applyAll_cons applied
      rcases ih last with old | wrote
      · cases write with
        | client row =>
            rw [(AuthDatabase.insertClient_eq_ok first).2, List.mem_append,
              List.mem_singleton] at old
            rcases old with old | rfl
            · exact .inl old
            · exact .inr List.mem_cons_self
        | key row =>
            rw [(AuthDatabase.insertKey_eq_ok first).2] at old
            exact .inl old
        | version row =>
            rw [(Write.apply_version first).1] at old
            exact .inl old
      · exact .inr (List.mem_cons_of_mem _ wrote)

/-- Only the insertion of a client writes one. -/
theorem evaluate_clients {statement : Statement} {effect : Effect statement.Rows}
    (evaluated : statement.evaluate committed = .ok effect)
    (other : ∀ client, statement ≠ .insertClient client) (client : ClientRow) :
    Write.client client ∉ effect.writes := by
  cases statement with
  | insertClient new => exact absurd rfl (other new)
  | insertKey key => simp [(evaluate_insertKey evaluated).2]
  | touch keyId clientId usedAt =>
      obtain ⟨rows, last, -, rfl⟩ := evaluate_touch evaluated
      simp [Effect.ofUpdate]
  | revoke keyId clientId revokedAt =>
      obtain ⟨rows, last, -, rfl⟩ := evaluate_revoke evaluated
      simp [Effect.ofUpdate]
  | acquire | begin | commit | rollback | findByDigest | lockByDigest | findOwned | page =>
      cases evaluated
      exact List.not_mem_nil

/-- A connection without a transaction is closed. -/
theorem paired_failed (connection : Connection) (statement : Statement) :
    Paired .closed (connection.failed statement) := by
  intro writes held same
  rcases failed_closed connection statement with idle | aborted
  · rw [idle] at same
    cases same
  · rw [aborted] at same
    cases same

/-- A query outside a transaction leaves none. -/
theorem paired_query {statement : Statement} {rows : statement.Rows}
    (paired : Paired .closed connection)
    (replied : (connection.query committed statement).reply = .ok rows) :
    Paired .closed (connection.query committed statement).connection := by
  intro writes held same
  cases connection with
  | working wrote locked => exact paired wrote locked rfl
  | aborted => cases replied
  | idle =>
      simp only [Connection.query] at same
      split at same
      · cases same
      · split at same
        · cases same
        · cases same

/-- An answered query of an open transaction pairs the clients that its writes keep paired. -/
theorem paired_written {statement : Statement} {rows : statement.Rows}
    {waiting next : Option Uuid} (paired : Paired (.opened waiting) connection)
    (replied : (connection.query committed statement).reply = .ok rows)
    (keeps : ∀ effect visible, statement.evaluate visible = .ok effect → ∀ client,
      waiting = some client → next = some client ∨
        ∃ key, Write.key key ∈ effect.writes ∧ key.clientId = client)
    (adds : ∀ effect visible, statement.evaluate visible = .ok effect → ∀ client,
      Write.client client ∈ effect.writes → next = some client.id) :
    Paired (.opened next) (connection.query committed statement).connection := by
  obtain ⟨writes, held, rfl, pairs⟩ := paired
  obtain ⟨visible, effect, -, evaluated, -, same⟩ := query_answered replied
  refine ⟨_, _, same, ?_⟩
  intro client member
  rcases List.mem_append.mp member with old | new
  · rcases pairs client old with waits | ⟨key, found, owner⟩
    · rcases keeps effect visible evaluated client.id waits with still | ⟨key, found, owner⟩
      · exact .inl still
      · exact .inr ⟨key, List.mem_append_right _ found, owner⟩
    · exact .inr ⟨key, List.mem_append_left _ found, owner⟩
  · exact .inl (adds effect visible evaluated client new)

/-- A query that inserts nothing keeps the phase of its connection. -/
theorem paired_unchanged {statement : Statement} {rows : statement.Rows}
    (paired : Paired phase connection)
    (replied : (connection.query committed statement).reply = .ok rows)
    (other : ∀ client, statement ≠ .insertClient client) :
    Paired phase (connection.query committed statement).connection := by
  cases phase with
  | closed => exact paired_query paired replied
  | opened waiting =>
      apply paired_written paired replied
      · intro effect visible evaluated client waits
        exact .inl waits
      · intro effect visible evaluated client wrote
        exact absurd wrote (evaluate_clients evaluated other client)

/-- The connection follows the monitor. -/
theorem paired_after {entry : Entry} (paired : Paired phase connection)
    (permitted : pairing.allowed phase entry.request)
    (served : ∀ rows, entry.reply = some (.ok rows) →
      (connection.serve entry.stamp.before entry.request).reply = .ok rows) :
    Paired (pairing.step phase entry.request entry.reply) (connection.after entry) := by
  obtain ⟨statement, reply, stamp⟩ := entry
  cases reply with
  | none =>
      intro writes held same
      cases same
  | some answer =>
      cases answer with
      | error error => exact paired_failed connection statement
      | ok rows =>
          have replied := served rows rfl
          cases statement with
          | acquire => exact paired
          | rollback =>
              intro writes held same
              cases same
          | begin =>
              cases permitted
              cases connection with
              | idle => exact ⟨[], [], rfl, fun client member => absurd member List.not_mem_nil⟩
              | aborted => cases replied
              | working writes held => exact absurd rfl (paired writes held)
          | commit =>
              intro writes held same
              cases connection with
              | idle | aborted => cases same
              | working wrote locked =>
                  simp only [Connection.after, Connection.serve, Connection.commit] at same replied
                  split at same
                  · cases same
                  · rename_i refused
                    rw [refused] at replied
                    cases replied
          | insertClient client =>
              cases permitted
              apply paired_written paired replied
              · intro effect visible evaluated other waits
                cases waits
              · intro effect visible evaluated other wrote
                rw [evaluate_insertClient evaluated, List.mem_singleton] at wrote
                cases wrote
                rfl
          | insertKey key =>
              cases phase with
              | closed => exact paired_query paired replied
              | opened waiting =>
                  apply paired_written paired replied
                  · intro effect visible evaluated client waits
                    right
                    refine ⟨key.toRow, ?_, permitted client (congrArg _ waits)⟩
                    rw [(evaluate_insertKey evaluated).2]
                    exact List.mem_singleton_self _
                  · intro effect visible evaluated client wrote
                    rw [(evaluate_insertKey evaluated).2, List.mem_singleton] at wrote
                    cases wrote
          | findByDigest | lockByDigest | touch | revoke | findOwned | page =>
              apply paired_unchanged paired replied
              intro client same
              cases same

/-- A committed key of ordered writes is stored for its client. -/
theorem applyAll_owner (applied : committed.applyAll writes = .ok later)
    (follows : ∀ row ∈ keyRows writes, Follows committed row) (ordered : Ordered (keyRows writes))
    {key : ApiKeyRow} (wrote : Write.key key ∈ writes) :
    ∃ row ∈ later.apiKeys, row.clientId = key.clientId := by
  obtain ⟨row, stored, known⟩ := applyAll_inserted applied wrote
  have written : key ∈ keyRows writes := List.mem_filterMap.mpr ⟨_, wrote, rfl⟩
  have evolved := (applyAll_evolves applied follows ordered).2 row stored key written known.symm
  exact ⟨row, stored, congrArg FixedKey.clientId evolved.fixed⟩

/-- A query commits no client, because clients are inserted inside a transaction. -/
theorem query_clients {statement : Statement} (paired : Paired phase connection)
    (inside : phase = .closed → ∀ new, statement ≠ .insertClient new) {client : ClientRow}
    (member : client ∈ (connection.query committed statement).committed.clients) :
    client ∈ committed.clients := by
  cases connection with
  | aborted => exact member
  | working writes held =>
      simp only [Connection.query] at member
      split at member
      · exact member
      · split at member
        · exact member
        · exact member
  | idle =>
      simp only [Connection.query] at member
      have closed : phase = .closed := by
        cases phase with
        | closed => rfl
        | opened waiting =>
            obtain ⟨writes, held, same, -⟩ := paired
            cases same
      cases evaluated : statement.evaluate committed with
      | error error =>
          rw [evaluated] at member
          exact member
      | ok effect =>
          simp only [evaluated] at member
          cases applied : committed.applyAll effect.writes with
          | error error =>
              rw [applied] at member
              exact member
          | ok next =>
              simp only [applied] at member
              rcases mem_clients_applyAll applied member with old | wrote
              · exact old
              · exact absurd wrote (evaluate_clients evaluated (inside closed) client)

/-- A commit adds a client only together with its key. -/
theorem commit_clients {owners : Resource → Option Nat} {number : Nat}
    (guarded : connection.Guarded committed owners number) (paired : Paired phase connection)
    (permitted : pairing.allowed phase .commit) {client : ClientRow}
    (member : client ∈ (connection.commit committed).committed.clients) :
    client ∈ committed.clients ∨
      ∃ row ∈ (connection.commit committed).committed.apiKeys, row.clientId = client.id := by
  cases connection with
  | idle | aborted => exact .inl member
  | working writes held =>
      simp only [Connection.commit] at member ⊢
      cases applied : committed.applyAll writes with
      | error error =>
          rw [applied] at member
          exact .inl member
      | ok next =>
          simp only [applied] at member ⊢
          rcases mem_clients_applyAll applied member with old | wrote
          · exact .inl old
          · right
            cases phase with
            | closed => exact absurd rfl (paired writes held)
            | opened waiting =>
                obtain ⟨_, _, same, pairs⟩ := paired
                cases same
                rcases pairs client wrote with waits | ⟨key, found, owner⟩
                · exact absurd (congrArg _ waits) (permitted client.id)
                · obtain ⟨row, stored, known⟩ :=
                    applyAll_owner applied guarded.follows guarded.ordered found
                  exact ⟨row, stored, known.trans owner⟩

/-- A statement commits a new client only together with its key. -/
theorem serve_clients {owners : Resource → Option Nat} {number : Nat} {statement : Statement}
    (guarded : connection.Guarded committed owners number) (paired : Paired phase connection)
    (permitted : pairing.allowed phase statement) {client : ClientRow}
    (member : client ∈ (connection.serve committed statement).committed.clients) :
    client ∈ committed.clients ∨
      ∃ row ∈ (connection.serve committed statement).committed.apiKeys,
        row.clientId = client.id := by
  cases statement with
  | acquire | rollback => exact .inl member
  | begin =>
      cases connection with
      | idle | working | aborted => exact .inl member
  | commit => exact commit_clients guarded paired permitted member
  | insertClient new =>
      refine .inl (query_clients paired ?_ member)
      intro closed
      rw [permitted] at closed
      cases closed
  | insertKey | findByDigest | lockByDigest | touch | revoke | findOwned | page =>
      refine .inl (query_clients paired ?_ member)
      intro _ new same
      cases same

end Connections

namespace SharedStore

variable {database : AuthDatabase} {store next : SharedStore} {event : StoreEvent}

/-- Each committed client was there at the start or has a key, and each task keeps the pairing. -/
structure Provisioned (database : AuthDatabase) (store : SharedStore) : Prop where
  clients : ∀ client ∈ store.committed.clients, client ∈ database.clients ∨
    ∃ row ∈ store.committed.apiKeys, row.clientId = client.id
  tasks : ∀ number task, store.tasks number = some task →
    ∃ phase, Paired phase task.connection ∧
      task.rest.Obeys pairing phase fun _ _ => True

/-- A delivery keeps the pairing of its task. -/
theorem exchange_paired {number : Nat} {task : Task} {statement : Statement}
    {rest : statement.Answer → Program Statement Statement.Answer
      (Except AuthStoreError task.request.Value)} {delivery : Delivery} {phase : TransactionPhase}
    (paired : Paired phase task.connection) (obeys : task.rest.Obeys pairing phase fun _ _ => True)
    (asks : task.rest = .ask statement rest) {later : Task}
    (current : (store.exchange number task statement rest delivery).tasks number = some later) :
    ∃ phase, Paired phase later.connection ∧ later.rest.Obeys pairing phase fun _ _ => True := by
  rw [asks] at obeys
  obtain ⟨permitted, continued⟩ := obeys
  simp only [exchange, Function.update_self, Option.some.injEq] at current
  subst current
  let entry : Entry := ⟨statement, delivery.reply (task.connection.serve store.committed statement),
    ⟨store.committed, store.committed⟩⟩
  have moved : Paired (pairing.step phase entry.request entry.reply)
      (task.connection.after entry) := by
    apply paired_after paired permitted
    intro rows replied
    cases delivery with
    | answered => exact Option.some.inj replied
    | failed error applied => cases replied
    | dropped applied => cases replied
  rw [after_delivery] at moved
  exact ⟨_, moved, continued _⟩

theorem step_provisioned (guarded : store.Guarded) (provisioned : store.Provisioned database)
    (stepped : system.step store event = some next) : next.Provisioned database := by
  have evolves := (step_guarded guarded stepped).2
  rcases step_cases stepped with ⟨number, request, -, absent, rfl⟩ |
    ⟨number, delivery, task, statement, rest, -, known, asks, granted, rfl⟩
  · refine ⟨provisioned.clients, ?_⟩
    intro other task current
    by_cases same : other = number
    · subst same
      simp only [Function.update_self, Option.some.injEq] at current
      subst current
      refine ⟨.closed, ?_, pairs_transaction request⟩
      intro writes held working
      cases working
    · simp only [Function.update_of_ne same] at current
      exact provisioned.tasks other task current
  · obtain ⟨phase, paired, obeys⟩ := provisioned.tasks number task known
    constructor
    · intro client member
      have kept (old : client ∈ store.committed.clients) :
          client ∈ database.clients ∨ ∃ row ∈ (store.exchange number task statement rest
            delivery).committed.apiKeys, row.clientId = client.id := by
        rcases provisioned.clients client old with first | ⟨row, stored, owner⟩
        · exact .inl first
        · obtain ⟨later, shown, evolved⟩ := evolves.keys row stored
          exact .inr ⟨later, shown, (congrArg FixedKey.clientId evolved.fixed).trans owner⟩
      simp only [exchange, Delivery.committed] at member kept ⊢
      cases applied : delivery.applied with
      | false =>
          rw [applied] at member kept
          exact kept member
      | true =>
          rw [applied] at member kept
          rw [asks] at obeys
          rcases serve_clients (guarded.connections number task known) paired obeys.1 member with
            old | owned
          · exact kept old
          · exact .inr owned
    · intro other later current
      by_cases same : other = number
      · subst same
        exact exchange_paired paired obeys asks current
      · simp only [exchange, Function.update_of_ne same] at current
        exact provisioned.tasks other later current

/-- Every reachable client was there at the start or has a key. -/
theorem clients_have_keys (database : AuthDatabase) (events : List StoreEvent)
    (store : SharedStore) (reached : system.run (fresh database) events = some store) :
    ∀ client ∈ store.committed.clients, client ∈ database.clients ∨
      ∃ row ∈ store.committed.apiKeys, row.clientId = client.id := by
  have kept := system.run_invariant (fun state => state.Guarded ∧ state.Provisioned database) ?_
    ⟨fresh_guarded database, ⟨fun client member => .inl member, nofun⟩⟩ reached
  · exact kept.2.clients
  · rintro state event next ⟨guarded, provisioned⟩ stepped
    exact ⟨(step_guarded guarded stepped).1, step_provisioned guarded provisioned stepped⟩

def tenant : NewClient := ⟨1, "acme", 40⟩

/-- A tenant is inserted while a second task uses its key, and the answer of its commit is lost. -/
def lostCommitRun : List StoreEvent :=
  [.start 0 (.provisionClientWithKey tenant workerKey),
    .start 1 (.authenticateDigest workerKey.digest 50)] ++
    List.replicate 3 (.exchange 0 .answered) ++ List.replicate 2 (.exchange 1 .answered) ++
    [.exchange 0 (.dropped true)] ++ List.replicate 3 (.exchange 1 .answered)

/-- The tenant of the lost answer is stored with its key. -/
theorem clients_have_keys_example :
    ∃ row ∈ (serverAfter (fresh .empty) lostCommitRun).committed.apiKeys,
      row.clientId = tenant.id := by
  have stored : (serverAfter (fresh .empty) lostCommitRun).committed.clients = [tenant.toRow] := by
    decide +kernel
  have kept := clients_have_keys .empty lostCommitRun _ (serverAfter_run (by decide +kernel))
    tenant.toRow (by simp [stored])
  rcases kept with first | owned
  · cases first
  · exact owned

end SharedStore

end Opmux.Auth
