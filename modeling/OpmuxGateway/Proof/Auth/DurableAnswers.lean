import OpmuxGateway.Proof.Auth.RevocationSafety

/-
This file says that answered creations and uses are kept in every later state of a run.
-/

namespace Opmux.Auth

theorem evaluate_insertClient {database : AuthDatabase} {client : NewClient}
    {effect : Effect ClientRow}
    (evaluated : (Statement.insertClient client).evaluate database = .ok effect) :
    effect.writes = [.client client.toRow] := by
  cases inserted : database.insertClient client.toRow with
  | error error =>
      rw [Statement.evaluate, inserted] at evaluated
      cases evaluated
  | ok later =>
      rw [Statement.evaluate, inserted] at evaluated
      cases evaluated
      rfl

theorem evaluate_insertKey {database : AuthDatabase} {key : NewApiKey}
    {effect : Effect ApiKeyRow}
    (evaluated : (Statement.insertKey key).evaluate database = .ok effect) :
    effect.rows = key.toRow ∧ effect.writes = [.key key.toRow] := by
  cases inserted : database.insertKey key.toRow with
  | error error =>
      rw [Statement.evaluate, inserted] at evaluated
      cases evaluated
  | ok later =>
      rw [Statement.evaluate, inserted] at evaluated
      cases evaluated
      exact ⟨rfl, rfl⟩

/-- An applied insertion finds its identifier free. -/
theorem applyAll_fresh {committed later : AuthDatabase} {writes : List Write} {row : ApiKeyRow}
    (applied : committed.applyAll writes = .ok later) (wrote : Write.key row ∈ writes) :
    ∀ stored ∈ committed.apiKeys, stored.id ≠ row.id := by
  induction writes generalizing committed with
  | nil => cases wrote
  | cons write rest ih =>
      obtain ⟨middle, first, last⟩ := applyAll_cons applied
      rcases List.mem_cons.mp wrote with same | inside
      · rw [← same] at first
        exact insertKey_fresh first
      · intro stored member known
        obtain ⟨shown, kept, same⟩ := Write.apply_ids first ⟨stored, member, known⟩
        exact ih last inside shown kept same

/-- A key that is inserted after writes of no key is new at its commit and is stored by it. -/
theorem recorded_insertion {writes : List Write} {held : List ApiKeyRow} {key : NewApiKey}
    {row : ApiKeyRow} {added ended : Around}
    (keyless : keyRows writes = [])
    (explained : Observer.Always Connection.after Connection.Explains (.working writes held)
      [⟨.insertKey key, some (.ok row), added⟩, ⟨.commit, some (.ok ()), ended⟩]) :
    row = key.toRow ∧ (∀ stored ∈ ended.before.apiKeys, stored.id ≠ key.id) ∧
      key.toRow ∈ ended.after.apiKeys := by
  obtain ⟨inserts, commits, -⟩ := explained
  have replied : ((Connection.working writes held).query added.before (.insertKey key)).reply =
      .ok row := (inserts.served row rfl).1
  change ((Connection.working writes held).query added.before
    (.insertKey key)).connection.Explains _ at commits
  obtain ⟨visible, effect, -, evaluated, rfl, connection⟩ := query_answered replied
  obtain ⟨same, written⟩ := evaluate_insertKey evaluated
  rw [connection, written] at commits
  obtain ⟨committing, after⟩ := commits.served () rfl
  rw [← after]
  have applied := commit_applied committing
  have wrote : Write.key key.toRow ∈ writes ++ [.key key.toRow] :=
    List.mem_append_right _ (List.mem_singleton_self _)
  refine ⟨same, applyAll_fresh applied wrote, ?_⟩
  have rows : keyRows (writes ++ [.key key.toRow]) = [key.toRow] := by
    rw [keyRows, List.filterMap_append, ← keyRows, keyless]
    rfl
  obtain ⟨found, stored, known⟩ := applyAll_inserted applied wrote
  have last := mem_applyAll applied stored
  rw [rows] at last
  rcases last with wrote | ⟨_, apart⟩
  · rwa [List.mem_singleton.mp wrote] at stored
  · exact absurd known (apart _ (List.mem_singleton_self _))

section Runs

variable {client : NewClient} {key : NewApiKey} {record : ApiKeyRecord} {log : List Entry}

/-- An inserted row decodes to the record with which the run continues. -/
theorem runs_insertKeyRow_ok {Result : Type} {next : ApiKeyRecord → Transaction Result}
    {value : Result}
    (run : Program.Runs (PostgresAuthStore.insertKeyRow key >>= next).run log (some (.ok value))) :
    ∃ record added rest, log = ⟨.insertKey key, some (.ok record.toRow), added⟩ :: rest ∧
      Program.Runs (next record).run rest (some (.ok value)) := by
  rw [PostgresAuthStore.insertKeyRow, bind_assoc] at run
  obtain ⟨row, added, rest, rfl, ending⟩ := runs_attemptOrRollback_ok run
  obtain ⟨record, decoded, continued⟩ := runs_decodeOrRollback_ok ending
  rw [← apiKeyFromRow_eq_ok.mp decoded]
  exact ⟨record, added, rest, rfl, continued⟩

/-- An insertion that returns its record has committed it. -/
theorem runs_insertKey (run : Program.Runs (PostgresAuthStore.insertKey key).run log
    (some (.ok record))) :
    ∃ begun added ended, log = [⟨.begin, some (.ok ()), begun⟩,
      ⟨.insertKey key, some (.ok record.toRow), added⟩, ⟨.commit, some (.ok ()), ended⟩] := by
  obtain ⟨_, begun, opening, rfl, opened⟩ := runs_attempt_ok run
  obtain ⟨kept, added, rest, rfl, ending⟩ := runs_insertKeyRow_ok opened
  obtain ⟨_, ended, last, rfl, done⟩ := runs_attempt_ok ending
  obtain ⟨rfl, same⟩ := done
  cases same
  exact ⟨begun, added, ended, rfl⟩

/-- A provisioning that returns its records has committed them. -/
theorem runs_provision {clientRecord : ClientRecord}
    (run : Program.Runs (PostgresAuthStore.provisionClientWithKey client key).run log
      (some (.ok (clientRecord, record)))) :
    ∃ begun row joined added ended, log = [⟨.begin, some (.ok ()), begun⟩,
      ⟨.insertClient client, some (.ok row), joined⟩,
      ⟨.insertKey key, some (.ok record.toRow), added⟩, ⟨.commit, some (.ok ()), ended⟩] := by
  unfold PostgresAuthStore.provisionClientWithKey at run
  split at run
  · cases run.2
  · obtain ⟨_, begun, opening, rfl, opened⟩ := runs_attempt_ok run
    obtain ⟨row, joined, middle, rfl, inserting⟩ := runs_attemptOrRollback_ok opened
    obtain ⟨kept, added, rest, rfl, ending⟩ := runs_insertKeyRow_ok inserting
    obtain ⟨_, ended, last, rfl, done⟩ := runs_attempt_ok ending
    obtain ⟨rfl, same⟩ := done
    cases same
    exact ⟨begun, row, joined, added, ended, rfl⟩

/-- An authentication that returns no key has looked for its digest under a lock. -/
theorem runs_authenticate_missing {digest : KeyDigest} {usedAt : Timestamp}
    (run : Program.Runs (PostgresAuthStore.authenticateDigest digest usedAt).run log
      (some (.ok none))) :
    ∃ acquired begun found rest, log = ⟨.acquire, some (.ok ()), acquired⟩ ::
      ⟨.begin, some (.ok ()), begun⟩ :: ⟨.lockByDigest digest, some (.ok none), found⟩ :: rest := by
  obtain ⟨_, acquired, opening, rfl, opened⟩ := runs_attempt_ok run
  obtain ⟨_, begun, locking, rfl, working⟩ := runs_attempt_ok opened
  obtain ⟨locked, found, rest, rfl, ending⟩ := runs_attemptOrRollback_ok working
  cases locked with
  | none => exact ⟨acquired, begun, found, rest, rfl⟩
  | some row =>
      obtain ⟨record, decoded, decided⟩ := runs_decodeOrRollback_ok ending
      split at decided
      · obtain ⟨_, stamp, last, rfl, done⟩ := runs_attempt_ok decided
        cases done.2
      · obtain ⟨updated, touched, ending, rfl, committing⟩ := runs_attemptOrRollback_ok decided
        obtain ⟨_, stamp, last, rfl, done⟩ := runs_attempt_ok committing
        cases done.2

end Runs

/-- A finished task has created this key alone or together with its client. -/
inductive Task.Creates (task : Task) (key : NewApiKey) (record : ApiKeyRecord) : Prop where
  | inserted (answers : task.Answers (.insertKey key) (.ok record))
  | provisioned (client : NewClient) (clientRecord : ClientRecord)
      (answers : task.Answers (.provisionClientWithKey client key) (.ok (clientRecord, record)))

section Tasks

variable {committed : AuthDatabase} {task : Task} {key : NewApiKey} {record : ApiKeyRecord}

/-- The last statement of a creation commits its key, whose identifier is free until then. -/
theorem created_last (recorded : task.Recorded committed) (created : task.Creates key record) :
    ∃ earlier ended, task.log = earlier ++ [⟨.commit, some (.ok ()), ended⟩] ∧
      record.toRow = key.toRow ∧ (∀ stored ∈ ended.before.apiKeys, stored.id ≠ key.id) ∧
      key.toRow ∈ ended.after.apiKeys := by
  have explained := recorded.explained
  cases created with
  | inserted answers =>
      obtain ⟨begun, added, ended, sent⟩ := runs_insertKey (Task.Answers.runs recorded answers)
      rw [sent] at explained ⊢
      obtain ⟨_, inserts⟩ := explained
      exact ⟨[_, _], ended, rfl, recorded_insertion rfl inserts⟩
  | provisioned client clientRecord answers =>
      obtain ⟨begun, row, joined, added, ended, sent⟩ :=
        runs_provision (Task.Answers.runs recorded answers)
      rw [sent] at explained ⊢
      obtain ⟨_, joins, inserts⟩ := explained
      have replied : ((Connection.working [] []).query joined.before (.insertClient client)).reply =
          .ok row := (joins.served row rfl).1
      obtain ⟨visible, effect, -, evaluated, -, connection⟩ := query_answered replied
      change Observer.Always Connection.after Connection.Explains
        ((Connection.working [] []).query joined.before (.insertClient client)).connection _
        at inserts
      rw [connection, evaluate_insertClient evaluated] at inserts
      exact ⟨[_, _, _], ended, rfl, recorded_insertion rfl inserts⟩

/-- A created key is stored at the commit of its task. -/
theorem created_stored (recorded : task.Recorded committed) (created : task.Creates key record) :
    record.toRow = key.toRow ∧ ∃ entry ∈ task.log, key.toRow ∈ entry.stamp.after.apiKeys := by
  obtain ⟨earlier, ended, sent, same, -, stored⟩ := created_last recorded created
  refine ⟨same, ⟨.commit, some (.ok ()), ended⟩, ?_, stored⟩
  rw [sent]
  exact List.mem_append_right _ (List.mem_singleton_self _)

/-- A created key is still stored when its task is recorded. -/
theorem created_kept (recorded : task.Recorded committed) (created : task.Creates key record) :
    ∃ row ∈ committed.apiKeys, row.fixed = key.toRow.fixed ∧ row.keyDigest = key.digest.bytes := by
  obtain ⟨-, entry, member, inserted⟩ := created_stored recorded created
  obtain ⟨row, stored, moved⟩ := (recorded.past entry member).2.keys _ inserted
  exact ⟨row, stored, moved.fixed, moved.digest⟩

/-- A stored digest is found by every lock that reads it later. -/
theorem missing_absurd {earlier : AuthDatabase} {digest : KeyDigest} {usedAt : Timestamp}
    {row : ApiKeyRow} (recorded : task.Recorded committed)
    (answers : task.Answers (.authenticateDigest digest usedAt) (.ok none))
    (locks : ∀ entry ∈ task.log, entry.request = .lockByDigest digest →
      earlier.Evolves entry.stamp.before)
    (stored : row ∈ earlier.apiKeys) (digested : row.keyDigest = digest.bytes) : False := by
  have explained := recorded.explained
  obtain ⟨acquired, begun, found, rest, sent⟩ :=
    runs_authenticate_missing (Task.Answers.runs recorded answers)
  rw [sent] at explained locks
  obtain ⟨_, _, lock, -⟩ := explained
  have read : found.before.findByDigest digest = none := Except.ok.inj (lock.served none rfl).1
  have evolves := locks _ (List.mem_cons_of_mem _ (List.mem_cons_of_mem _ List.mem_cons_self)) rfl
  obtain ⟨kept, shown, evolved⟩ := evolves.keys row stored
  have known := AuthDatabase.findByDigest_eq_some.mpr ⟨shown, evolved.digest.trans digested⟩
  rw [read] at known
  cases known

/-- A use of an active key leaves its last use at the moment of the use or later. -/
theorem touch_moves {database later : AuthDatabase} {row : ApiKeyRow} {rows : List ApiKeyRow}
    {usedAt : Timestamp} (stored : row ∈ database.apiKeys) (active : row.revokedAt = none)
    (touched : database.touch row.id row.clientId usedAt = .ok (rows, later)) :
    ∃ last, (rows.head?.map ApiKeyRow.lastUsedAt).getD row.lastUsedAt = some last ∧
      usedAt ≤ last := by
  by_cases usable : AuthDatabase.usable row.id row.clientId usedAt row
  · rw [AuthDatabase.updateKeys_head stored usable (fun _ => usable_id) touched]
    exact ⟨usedAt, rfl, le_refl usedAt⟩
  · rw [touch_unusable stored usable touched]
    have owned : row.owned row.id row.clientId = true := AuthDatabase.owned_iff.mpr ⟨rfl, rfl⟩
    cases used : row.lastUsedAt with
    | none => simp [AuthDatabase.usable, owned, active, used] at usable
    | some last =>
        simp only [AuthDatabase.usable, owned, active, used, Option.isNone_none, Option.all_some,
          Bool.and_self, Bool.true_and, decide_eq_true_eq, not_lt] at usable
        exact ⟨last, rfl, usable⟩

/-- An accepted authentication has committed a last use that is not before its moment. -/
theorem used_stored {digest : KeyDigest} {usedAt : Timestamp} (recorded : task.Recorded committed)
    (answers : task.Answers (.authenticateDigest digest usedAt) (.ok (some record)))
    (active : record.isRevoked = false) :
    record.digest.bytes = digest.bytes ∧
      (∃ entry ∈ task.log, record.toRow ∈ entry.stamp.after.apiKeys) ∧
      ∃ last, record.lastUsedAt = some last ∧ usedAt ≤ last := by
  have explained := recorded.explained
  rcases runs_authenticate (Task.Answers.runs recorded answers) with
    ⟨row, locked, acquired, begun, found, rest, sent, decoded, unrevoked, answered⟩ | quiet
  · obtain ⟨updated, touched, commits, rfl, same⟩ := answered record rfl
    rw [sent] at explained ⊢
    obtain ⟨read, held, member, later⟩ := locked_row explained
    obtain ⟨stored, -, after⟩ := recorded_use member later
    obtain ⟨rows, last, others, touching, updates, -⟩ := touch_answered later.1
    subst decoded
    have unset : locked.toRow.revokedAt = none := by
      simpa [ApiKeyRecord.isRevoked, ApiKeyRecord.toRow] using unrevoked
    have moved := touch_moves stored unset touching
    rw [updates] at moved
    have digested := (AuthDatabase.findByDigest_eq_some.mp read).2
    rw [same]
    refine ⟨digested, ⟨⟨.commit, some (.ok ()), commits⟩, ?_, after⟩, moved⟩
    exact List.mem_cons_of_mem _ (List.mem_cons_of_mem _ (List.mem_cons_of_mem _
      (List.mem_cons_of_mem _ List.mem_cons_self)))
  · rw [quiet.revoked record rfl] at active
    cases active

end Tasks

namespace SharedStore

/-- A second key of the tenant. -/
def workerKey : NewApiKey :=
  ⟨3, 1, ⟨List.replicate 32 1, rfl⟩, "opk_AQEBAQEBAQEBAQEBAQEBAQ", "worker", .inference, 40⟩

def workerRecord : ApiKeyRecord :=
  ⟨3, 1, workerKey.digest, "opk_AQEBAQEBAQEBAQEBAQEBAQ", "worker", .inference, 40, none, none⟩

/-- The first task inserts the key. -/
def workerRun : List StoreEvent :=
  .start 0 (.insertKey workerKey) :: List.replicate 3 (.exchange 0 .answered)

/-- The second task uses the key after the third task has begun. -/
def useRun : List StoreEvent :=
  [.start 1 (.authenticateDigest workerKey.digest 50), .start 2 (.revokeKey 1 3 60),
    .exchange 2 .answered] ++ List.replicate 5 (.exchange 1 .answered)

/-- The third task revokes the key and commits. -/
def retireRun : List StoreEvent := List.replicate 2 (.exchange 2 .answered)

def workerServer : SharedStore := serverAfter tenantServer workerRun

def usedServer : SharedStore := serverAfter tenantServer (workerRun ++ useRun)

/-- A created key is stored in every later state, and no later lock misses it. -/
theorem creation_durable (database : AuthDatabase) (earlier later : List StoreEvent)
    (middle final : SharedStore) (reached : system.run (fresh database) earlier = some middle)
    (continued : system.run middle later = some final) (number : Nat) (task : Task)
    (known : middle.tasks number = some task) (key : NewApiKey) (record : ApiKeyRecord)
    (created : task.Creates key record) :
    record.toRow = key.toRow ∧
      (∃ row ∈ final.committed.apiKeys, row.fixed = key.toRow.fixed ∧
        row.keyDigest = key.digest.bytes) ∧
      ∀ reader lookup usedAt, final.tasks reader = some lookup →
        lookup.Answers (.authenticateDigest key.digest usedAt) (.ok none) →
        ∃ before, middle.tasks reader = some before ∧
          ∃ entry ∈ before.log, entry.request = .lockByDigest key.digest := by
  obtain ⟨guarded, -⟩ := run_guarded (fresh_guarded database) reached
  obtain ⟨keeps, evolves⟩ := run_guarded guarded continued
  have recorded := guarded.recorded number task known
  obtain ⟨same, -⟩ := created_stored recorded created
  obtain ⟨stored, shown, fixed, digested⟩ := created_kept recorded created
  refine ⟨same, ?_, ?_⟩
  · obtain ⟨kept, present, evolved⟩ := evolves.keys stored shown
    exact ⟨kept, present, evolved.fixed.trans fixed, evolved.digest.trans digested⟩
  · intro reader lookup usedAt current answers
    by_contra unlocked
    have locks : ∀ entry ∈ lookup.log, entry.request = .lockByDigest key.digest →
        middle.committed.Evolves entry.stamp.before := by
      apply run_later (fun sent => sent = .lockByDigest key.digest) guarded ?_ continued current
      intro before present entry member sent
      exact unlocked ⟨before, present, entry, member, sent⟩
    exact missing_absurd (keeps.recorded reader lookup current) answers locks shown digested

/-- The created key is stored after a task has used and another has revoked it. -/
theorem creation_durable_example :
    ∃ row ∈ (serverAfter workerServer (useRun ++ retireRun)).committed.apiKeys,
      row.fixed = workerKey.toRow.fixed := by
  have answers : ∃ task, workerServer.tasks 0 = some task ∧
      task.Answers (.insertKey workerKey) (.ok workerRecord) := ⟨_, rfl, _, _, rfl⟩
  obtain ⟨task, known, answered⟩ := answers
  obtain ⟨-, ⟨row, stored, same, -⟩, -⟩ := creation_durable _ workerRun (useRun ++ retireRun)
    workerServer _ (serverAfter_run (by decide +kernel)) (serverAfter_run (by decide +kernel)) 0
    task known workerKey workerRecord (.inserted answered)
  exact ⟨row, stored, same⟩

/-- No later event loses the use that an accepted authentication has recorded. -/
theorem use_durable (database : AuthDatabase) (earlier later : List StoreEvent)
    (middle final : SharedStore) (reached : system.run (fresh database) earlier = some middle)
    (continued : system.run middle later = some final) (number : Nat) (task : Task)
    (known : middle.tasks number = some task) (digest : KeyDigest) (usedAt : Timestamp)
    (record : ApiKeyRecord)
    (answers : task.Answers (.authenticateDigest digest usedAt) (.ok (some record)))
    (active : record.isRevoked = false) :
    ∃ row ∈ final.committed.apiKeys, row.fixed = record.toRow.fixed ∧
      row.keyDigest = digest.bytes ∧ ∃ last, row.lastUsedAt = some last ∧ usedAt ≤ last := by
  obtain ⟨guarded, -⟩ := run_guarded (fresh_guarded database) reached
  obtain ⟨-, evolves⟩ := run_guarded guarded continued
  have recorded := guarded.recorded number task known
  obtain ⟨digested, ⟨entry, member, stored⟩, used, last, advanced⟩ :=
    used_stored recorded answers active
  obtain ⟨row, kept, evolved⟩ := ((recorded.past entry member).2.trans evolves).keys _ stored
  obtain ⟨latest, shown, moved⟩ := evolved.used used last
  exact ⟨row, kept, evolved.fixed, evolved.digest.trans digested,
    latest, shown, advanced.trans moved⟩

/-- The revoked key keeps the use of the second task. -/
theorem use_durable_example :
    ∃ row ∈ (serverAfter usedServer retireRun).committed.apiKeys,
      row.keyDigest = workerKey.digest.bytes ∧
      ∃ last, row.lastUsedAt = some last ∧ (50 : Timestamp) ≤ last := by
  have answers : ∃ task, usedServer.tasks 1 = some task ∧
      task.Answers (.authenticateDigest workerKey.digest 50)
        (.ok (some { workerRecord with lastUsedAt := some 50 })) := ⟨_, rfl, _, _, rfl⟩
  obtain ⟨task, known, answered⟩ := answers
  obtain ⟨row, stored, -, digested, used⟩ := use_durable _ (workerRun ++ useRun) retireRun
    usedServer _ (serverAfter_run (by decide +kernel)) (serverAfter_run (by decide +kernel)) 1 task
    known workerKey.digest 50 { workerRecord with lastUsedAt := some 50 } answered rfl
  exact ⟨row, stored, digested, used⟩

section Distinct

variable {store next : SharedStore} {event : StoreEvent} {number : Nat} {task : Task}
  {key : NewApiKey} {record : ApiKeyRecord}

/-- A creation that an event finishes has found its identifier free. -/
theorem step_created (guarded : next.Guarded) (stepped : system.step store event = some next)
    (current : next.tasks number = some task) (created : task.Creates key record) :
    store.tasks number = some task ∨ (∃ delivery, event = .exchange number delivery) ∧
      ∀ stored ∈ store.committed.apiKeys, stored.id ≠ key.id := by
  obtain ⟨earlier, ended, sent, -, fresh, -⟩ :=
    created_last (guarded.recorded number task current) created
  rcases step_cases stepped with ⟨started, request, -, absent, rfl⟩ |
    ⟨exchanged, delivery, before, statement, rest, rfl, known, asks, -, rfl⟩
  · by_cases same : number = started
    · subst same
      simp only [Function.update_self, Option.some.injEq] at current
      subst current
      exact absurd sent.symm (by simp)
    · simp only [Function.update_of_ne same] at current
      exact .inl current
  · by_cases same : number = exchanged
    · subst same
      right
      refine ⟨⟨delivery, rfl⟩, ?_⟩
      simp only [exchange, Function.update_self, Option.some.injEq] at current
      subst current
      have last := congrArg List.getLast? sent
      rw [List.getLast?_concat, List.getLast?_concat, Option.some.injEq] at last
      have moment := congrArg (fun entry : Entry => entry.stamp.before) last
      rw [← moment] at fresh
      exact fresh
    · simp only [exchange, Function.update_of_ne same] at current
      exact .inl current

/-- The finished creations of different tasks have different identifiers. -/
def Distinct (store : SharedStore) : Prop :=
  ∀ first second, first ≠ second → ∀ one other, store.tasks first = some one →
    store.tasks second = some other → ∀ key record otherKey otherRecord,
      one.Creates key record → other.Creates otherKey otherRecord → key.id ≠ otherKey.id

theorem step_distinct (guarded : store.Guarded) (distinct : store.Distinct)
    (stepped : system.step store event = some next) : next.Distinct := by
  have keeps := (step_guarded guarded stepped).1
  intro first second different one other known otherKnown key record otherKey otherRecord created
    otherCreated
  rcases step_created keeps stepped known created with old | ⟨⟨delivery, here⟩, fresh⟩
  · rcases step_created keeps stepped otherKnown otherCreated with before | ⟨-, otherFresh⟩
    · exact distinct first second different one other old before key record otherKey otherRecord
        created otherCreated
    · obtain ⟨row, stored, fixed, -⟩ := created_kept (guarded.recorded first one old) created
      rw [← show row.id = key.id from congrArg FixedKey.id fixed]
      exact otherFresh row stored
  · rcases step_created keeps stepped otherKnown otherCreated with before | ⟨⟨_, there⟩, -⟩
    · obtain ⟨row, stored, fixed, -⟩ :=
        created_kept (guarded.recorded second other before) otherCreated
      rw [← show row.id = otherKey.id from congrArg FixedKey.id fixed]
      exact (fresh row stored).symm
    · rw [here] at there
      cases there
      exact absurd rfl different

end Distinct

/-- No two tasks are both told that they created one key, one digest, or one display identifier. -/
theorem creations_distinct (database : AuthDatabase) (events : List StoreEvent)
    (store : SharedStore) (reached : system.run (fresh database) events = some store)
    (first second : Nat) (different : first ≠ second) (one other : Task)
    (known : store.tasks first = some one) (otherKnown : store.tasks second = some other)
    (key otherKey : NewApiKey) (record otherRecord : ApiKeyRecord)
    (created : one.Creates key record) (otherCreated : other.Creates otherKey otherRecord) :
    key.id ≠ otherKey.id ∧ key.digest ≠ otherKey.digest ∧ key.displayId ≠ otherKey.displayId := by
  have kept := system.run_invariant (fun state => state.Guarded ∧ state.Distinct) ?_
    ⟨fresh_guarded database, ?_⟩ reached
  · obtain ⟨guarded, distinct⟩ := kept
    have apart := distinct first second different one other known otherKnown key record otherKey
      otherRecord created otherCreated
    obtain ⟨row, stored, fixed, digested⟩ :=
      created_kept (guarded.recorded first one known) created
    obtain ⟨otherRow, otherStored, otherFixed, otherDigested⟩ :=
      created_kept (guarded.recorded second other otherKnown) otherCreated
    have rows : row ≠ otherRow := by
      rintro rfl
      exact apart (congrArg FixedKey.id (fixed.symm.trans otherFixed))
    refine ⟨apart, ?_, ?_⟩
    · rintro same
      apply rows
      apply AuthDatabase.digest_unique stored otherStored
      rw [digested, otherDigested, same]
    · intro same
      apply rows
      apply List.inj_on_of_nodup_map store.committed.displayIdKey stored otherStored
      exact (congrArg FixedKey.displayId fixed).trans
        (same.trans (congrArg FixedKey.displayId otherFixed).symm)
  · rintro state event next ⟨guarded, distinct⟩ stepped
    exact ⟨(step_guarded guarded stepped).1, step_distinct guarded distinct stepped⟩
  · intro first second different one other known
    cases known

/-- A third key of the tenant. -/
def spareKey : NewApiKey :=
  ⟨4, 1, ⟨List.replicate 32 2, rfl⟩, "opk_AgICAgICAgICAgICAgICAg", "spare", .inference, 40⟩

def spareRecord : ApiKeyRecord :=
  ⟨4, 1, spareKey.digest, "opk_AgICAgICAgICAgICAgICAg", "spare", .inference, 40, none, none⟩

/-- Two tasks insert their keys in turns. -/
def turnsRun : List StoreEvent :=
  [.start 0 (.insertKey workerKey), .start 1 (.insertKey spareKey)] ++
    (List.replicate 3 [.exchange 0 .answered, .exchange 1 .answered]).flatten

/-- Both tasks have created their keys. -/
theorem creations_distinct_example :
    workerKey.id ≠ spareKey.id ∧ workerKey.digest ≠ spareKey.digest ∧
      workerKey.displayId ≠ spareKey.displayId := by
  have answers : (∃ task, (serverAfter tenantServer turnsRun).tasks 0 = some task ∧
      task.Answers (.insertKey workerKey) (.ok workerRecord)) ∧
      ∃ task, (serverAfter tenantServer turnsRun).tasks 1 = some task ∧
        task.Answers (.insertKey spareKey) (.ok spareRecord) :=
    ⟨⟨_, rfl, _, _, rfl⟩, ⟨_, rfl, _, _, rfl⟩⟩
  obtain ⟨⟨one, known, answered⟩, ⟨other, otherKnown, otherAnswered⟩⟩ := answers
  exact creations_distinct _ turnsRun _ (serverAfter_run (by decide +kernel)) 0 1 (by decide) one
    other known otherKnown workerKey spareKey workerRecord spareRecord (.inserted answered)
    (.inserted otherAnswered)

end SharedStore

end Opmux.Auth
