import OpmuxGateway.Proof.Auth.InterleavedStore
import OpmuxGateway.Proof.Auth.StoreOperations

/-
This file says what an authentication can conclude while revocations interleave with it.
-/

namespace Opmux.Auth

section Logs

variable {Value Result : Type} {statement : Statement} {next : statement.Rows → Transaction Result}
  {log : List Entry} {outcome : Option (Except AuthStoreError Result)}

/-- A transaction that fails or is dropped at a statement sends at most its rollback. -/
structure Interrupted (statement : Statement) (log : List Entry)
    (outcome : Option (Except AuthStoreError Result)) : Prop where
  failed : ∀ value, outcome ≠ some (.ok value)
  sent : ∀ entry ∈ log, entry.request = statement ∨ entry.request = .rollback

theorem Interrupted.alone {reply : statement.Answer} {stamp : Around}
    (failed : ∀ value, outcome ≠ some (.ok value)) :
    Interrupted statement [⟨statement, reply, stamp⟩] outcome := by
  refine ⟨failed, ?_⟩
  intro entry member
  rw [List.mem_singleton.mp member]
  exact .inl rfl

theorem runs_rollbackErr {error : AuthStoreError} {next : Value → Transaction Result}
    (run : Program.Runs ((rollbackErr error : Transaction Value) >>= next).run log outcome) :
    Interrupted .rollback log outcome := by
  obtain ⟨reply, stamp, rest, rfl, run⟩ := run
  cases reply with
  | none =>
      obtain ⟨rfl, rfl⟩ := run
      exact .alone nofun
  | some answer =>
      obtain ⟨rfl, rfl⟩ : rest = [] ∧ outcome = some (.error error) := run
      exact .alone nofun

/-- A run of an attempt continues with its rows, or it is interrupted. -/
theorem runs_attempt (run : Program.Runs (attempt statement >>= next).run log outcome) :
    (∃ rows stamp rest, log = ⟨statement, some (.ok rows), stamp⟩ :: rest ∧
      Program.Runs (next rows).run rest outcome) ∨ Interrupted statement log outcome := by
  obtain ⟨reply, stamp, rest, rfl, run⟩ := run
  cases reply with
  | none =>
      obtain ⟨rfl, rfl⟩ := run
      exact .inr (.alone nofun)
  | some answer =>
      cases answer with
      | ok rows => exact .inl ⟨rows, stamp, rest, rfl, run⟩
      | error error =>
          obtain ⟨rfl, rfl⟩ : rest = [] ∧ outcome = some (.error (.fromSqlx error)) := run
          exact .inr (.alone nofun)

theorem runs_attemptOrRollback
    (run : Program.Runs (attemptOrRollback statement >>= next).run log outcome) :
    (∃ rows stamp rest, log = ⟨statement, some (.ok rows), stamp⟩ :: rest ∧
      Program.Runs (next rows).run rest outcome) ∨ Interrupted statement log outcome := by
  obtain ⟨reply, stamp, rest, rfl, run⟩ := run
  cases reply with
  | none =>
      obtain ⟨rfl, rfl⟩ := run
      exact .inr (.alone nofun)
  | some answer =>
      cases answer with
      | ok rows => exact .inl ⟨rows, stamp, rest, rfl, run⟩
      | error error =>
          obtain ⟨reply, after, last, rfl, run⟩ := run
          have sent : ∀ entry ∈ [(⟨statement, some (.error error), stamp⟩ : Entry),
              ⟨.rollback, reply, after⟩],
              entry.request = statement ∨ entry.request = .rollback := by
            simp
          cases reply with
          | none =>
              obtain ⟨rfl, rfl⟩ := run
              exact .inr ⟨nofun, sent⟩
          | some answer =>
              obtain ⟨rfl, rfl⟩ : last = [] ∧ outcome = some (.error (.fromSqlx error)) := run
              exact .inr ⟨nofun, sent⟩

/-- A row that does not decode rolls back, and a decoded one continues. -/
theorem runs_decodeOrRollback {row : ApiKeyRow} {next : ApiKeyRecord → Transaction Result}
    (run : Program.Runs (decodeOrRollback row >>= next).run log outcome) :
    (∃ record, apiKeyFromRow row = .ok record ∧ Program.Runs (next record).run log outcome) ∨
      Interrupted .rollback log outcome := by
  unfold decodeOrRollback at run
  cases decoded : apiKeyFromRow row with
  | ok record =>
      rw [decoded] at run
      exact .inl ⟨record, rfl, run⟩
  | error error =>
      rw [decoded] at run
      exact .inr (runs_rollbackErr run)

variable {value : Result}

/-- A run that returns a value continues with the rows of each of its statements. -/
theorem runs_attempt_ok
    (run : Program.Runs (attempt statement >>= next).run log (some (.ok value))) :
    ∃ rows stamp rest, log = ⟨statement, some (.ok rows), stamp⟩ :: rest ∧
      Program.Runs (next rows).run rest (some (.ok value)) := by
  rcases runs_attempt run with continued | interrupted
  · exact continued
  · exact absurd rfl (interrupted.failed value)

theorem runs_attemptOrRollback_ok
    (run : Program.Runs (attemptOrRollback statement >>= next).run log (some (.ok value))) :
    ∃ rows stamp rest, log = ⟨statement, some (.ok rows), stamp⟩ :: rest ∧
      Program.Runs (next rows).run rest (some (.ok value)) := by
  rcases runs_attemptOrRollback run with continued | interrupted
  · exact continued
  · exact absurd rfl (interrupted.failed value)

theorem runs_decodeOrRollback_ok {row : ApiKeyRow} {next : ApiKeyRecord → Transaction Result}
    (run : Program.Runs (decodeOrRollback row >>= next).run log (some (.ok value))) :
    ∃ record, apiKeyFromRow row = .ok record ∧
      Program.Runs (next record).run log (some (.ok value)) := by
  rcases runs_decodeOrRollback run with continued | interrupted
  · exact continued
  · exact absurd rfl (interrupted.failed value)

end Logs

/-- The statements that write a row. -/
def Statement.Writes : Statement → Prop
  | .insertClient _ | .insertKey _ | .touch _ _ _ | .revoke _ _ _ => True
  | _ => False

section Authentication

variable {digest : KeyDigest} {usedAt : Timestamp} {log : List Entry}
  {outcome : Option (Except AuthStoreError (Option ApiKeyRecord))}

/-- An authentication that found an active row under its lock has sent these statements. -/
structure Active (digest : KeyDigest) (usedAt : Timestamp) (log : List Entry)
    (outcome : Option (Except AuthStoreError (Option ApiKeyRecord))) (row : ApiKeyRow)
    (locked : ApiKeyRecord) (acquired begun found : Around) (rest : List Entry) : Prop where
  sent : log = ⟨.acquire, some (.ok ()), acquired⟩ :: ⟨.begin, some (.ok ()), begun⟩ ::
    ⟨.lockByDigest digest, some (.ok (some row)), found⟩ :: rest
  decoded : locked.toRow = row
  active : locked.isRevoked = false
  answered : ∀ record, outcome = some (.ok (some record)) → ∃ updated touched committed,
    rest = [⟨.touch row.id row.clientId usedAt, some (.ok updated), touched⟩,
      ⟨.commit, some (.ok ()), committed⟩] ∧
    record = { locked with lastUsedAt := updated.getD locked.lastUsedAt }

/-- An authentication that writes nothing returns at most a revoked key. -/
structure Quiet (log : List Entry)
    (outcome : Option (Except AuthStoreError (Option ApiKeyRecord))) : Prop where
  reads : ∀ entry ∈ log, ¬ entry.request.Writes
  revoked : ∀ record, outcome = some (.ok (some record)) → record.isRevoked

theorem Interrupted.quiet {statement : Statement} (interrupted : Interrupted statement log outcome)
    (reads : ¬ statement.Writes) : Quiet log outcome := by
  refine ⟨?_, fun record answered => absurd answered (interrupted.failed _)⟩
  intro entry member
  rcases interrupted.sent entry member with same | same
  · rwa [same]
  · rw [same]
    exact not_false

theorem Quiet.cons {entry : Entry} (quiet : Quiet log outcome) (reads : ¬ entry.request.Writes) :
    Quiet (entry :: log) outcome := by
  refine ⟨?_, quiet.revoked⟩
  intro other member
  rcases List.mem_cons.mp member with rfl | rest
  · exact reads
  · exact quiet.reads other rest

/-- An authentication finds an active row under its lock, or it is quiet. -/
theorem runs_authenticate
    (run : Program.Runs (PostgresAuthStore.authenticateDigest digest usedAt).run log outcome) :
    (∃ row locked acquired begun found rest,
      Active digest usedAt log outcome row locked acquired begun found rest) ∨
      Quiet log outcome := by
  rcases runs_attempt run with ⟨_, acquired, opening, rfl, opened⟩ | interrupted
  · rcases runs_attempt opened with ⟨_, begun, locking, rfl, working⟩ | interrupted
    · rcases runs_attemptOrRollback working with ⟨locked, found, rest, rfl, ending⟩ | interrupted
      · cases locked with
        | none =>
            right
            rcases runs_attempt ending with ⟨_, stamp, last, rfl, done⟩ | interrupted
            · obtain ⟨rfl, rfl⟩ := done
              refine ⟨?_, nofun⟩
              simp [Statement.Writes]
            · exact .cons (.cons (.cons (interrupted.quiet not_false) not_false) not_false)
                not_false
        | some row =>
            rcases runs_decodeOrRollback ending with ⟨record, decoded, decided⟩ | interrupted
            · split at decided
              · rename_i revoked
                right
                rcases runs_attempt decided with ⟨_, stamp, last, rfl, done⟩ | interrupted
                · obtain ⟨rfl, rfl⟩ := done
                  refine ⟨?_, ?_⟩
                  · simp [Statement.Writes]
                  · rintro _ ⟨⟩
                    exact revoked
                · exact (.cons (.cons (.cons (interrupted.quiet not_false) not_false) not_false)
                    not_false)
              · rename_i active
                left
                refine ⟨row, record, acquired, begun, found, rest, rfl,
                  apiKeyFromRow_eq_ok.mp decoded, by simpa using active, ?_⟩
                intro answer answered
                subst answered
                obtain ⟨updated, touched, ending, rfl, committing⟩ :=
                  runs_attemptOrRollback_ok decided
                obtain ⟨_, committed, last, rfl, done⟩ := runs_attempt_ok committing
                obtain ⟨rfl, same⟩ := done
                have identity : record.id = row.id ∧ record.clientId = row.clientId := by
                  rw [← apiKeyFromRow_eq_ok.mp decoded]
                  exact ⟨rfl, rfl⟩
                refine ⟨updated, touched, committed, ?_,
                  Option.some.inj (Except.ok.inj (Option.some.inj same))⟩
                rw [identity.1, identity.2]
            · exact .inr (.cons (.cons (.cons (interrupted.quiet not_false) not_false) not_false)
                not_false)
      · exact .inr (.cons (.cons (interrupted.quiet not_false) not_false) not_false)
    · exact .inr (.cons (interrupted.quiet not_false) not_false)
  · exact .inr (interrupted.quiet not_false)

/-- The lock reads the committed row, and the row stays held after it. -/
theorem locked_row {row : ApiKeyRow} {acquired begun found : Around} {rest : List Entry}
    (explained : Observer.Always Connection.after Connection.Explains .idle
      (⟨.acquire, some (.ok ()), acquired⟩ :: ⟨.begin, some (.ok ()), begun⟩ ::
        ⟨.lockByDigest digest, some (.ok (some row)), found⟩ :: rest)) :
    found.before.findByDigest digest = some row ∧
      ∃ held, row ∈ held ∧
        Observer.Always Connection.after Connection.Explains (.working [] held) rest := by
  obtain ⟨_, _, locks, later⟩ := explained
  have read : found.before.findByDigest digest = some row :=
    Except.ok.inj (locks.served (some row) rfl).1
  refine ⟨read, _, ?_, later⟩
  apply List.mem_append_left
  rw [List.mem_filter]
  exact ⟨(AuthDatabase.findByDigest_eq_some.mp read).1, by simp [read]⟩

/-- A committed version of a stored key is stored when no other version has its identifier. -/
theorem applyAll_version {before after : AuthDatabase} {row : ApiKeyRow} {rows : List ApiKeyRow}
    (applied : before.applyAll (rows.map .version) = .ok after) (written : row ∈ rows)
    (alone : ∀ other ∈ rows, other = row) (kept : ∃ stored ∈ before.apiKeys, stored.id = row.id) :
    row ∈ after.apiKeys := by
  obtain ⟨final, shown, same⟩ := applyAll_ids applied kept
  have last := mem_applyAll applied shown
  rw [keyRows_versions] at last
  rcases last with wrote | ⟨_, apart⟩
  · rwa [alone final wrote] at shown
  · exact absurd same (apart row written)

/-- An update that only one row matches writes only that row. -/
theorem update_alone {database later : AuthDatabase} {matching : ApiKeyRow → Bool}
    {assign : ApiKeyRow → ApiKeyRow} {rows : List ApiKeyRow} {keyId : Uuid}
    (updated : database.updateKeys matching assign = .ok (rows, later))
    (own : ∀ row, matching row → row.id = keyId) {row : ApiKeyRow} (member : row ∈ rows) :
    ∀ other ∈ rows, other = row := by
  obtain ⟨rfl, -⟩ := AuthDatabase.updateKeys_eq_ok updated
  obtain ⟨origin, found, rfl⟩ := List.mem_map.mp member
  obtain ⟨present, matched⟩ := List.mem_filter.mp found
  intro other wrote
  obtain ⟨second, found, rfl⟩ := List.mem_map.mp wrote
  obtain ⟨stored, meets⟩ := List.mem_filter.mp found
  rw [AuthDatabase.id_unique stored present ((own second meets).trans (own origin matched).symm)]

theorem usable_id {keyId clientId : Uuid} {row : ApiKeyRow}
    (usable : AuthDatabase.usable keyId clientId usedAt row) : row.id = keyId := by
  simp only [AuthDatabase.usable, Bool.and_eq_true] at usable
  exact (AuthDatabase.owned_iff.mp usable.1.1).1

/-- A use of a key that is not usable changes no row. -/
theorem touch_unusable {database later : AuthDatabase} {row : ApiKeyRow} {rows : List ApiKeyRow}
    (stored : row ∈ database.apiKeys)
    (unusable : ¬ AuthDatabase.usable row.id row.clientId usedAt row)
    (touched : database.touch row.id row.clientId usedAt = .ok (rows, later)) : rows = [] := by
  obtain ⟨written, -⟩ := AuthDatabase.updateKeys_eq_ok touched
  rw [written, List.map_eq_nil_iff, List.filter_eq_nil_iff]
  intro other member matched
  exact unusable (AuthDatabase.id_unique member stored (usable_id matched) ▸ matched)

/-- A committed use of an unchanged row stores its advanced last use. -/
theorem applyAll_touch {database later before after : AuthDatabase} {row : ApiKeyRow}
    {rows : List ApiKeyRow} (stored : row ∈ database.apiKeys)
    (touched : database.touch row.id row.clientId usedAt = .ok (rows, later))
    (kept : row ∈ before.apiKeys) (applied : before.applyAll (rows.map .version) = .ok after) :
    { row with lastUsedAt := (rows.head?.map ApiKeyRow.lastUsedAt).getD row.lastUsedAt } ∈
      after.apiKeys := by
  by_cases usable : AuthDatabase.usable row.id row.clientId usedAt row
  · have head := AuthDatabase.updateKeys_head stored usable (fun _ => usable_id) touched
    have written := List.mem_of_head? head
    rw [head]
    exact applyAll_version applied written (update_alone touched (fun _ => usable_id) written)
      ⟨row, kept, rfl⟩
  · rw [touch_unusable stored usable touched] at applied ⊢
    cases applied
    exact kept

/-- An answered query of a transaction adds its writes and holds the rows that it has locked. -/
theorem query_answered {committed : AuthDatabase} {writes : List Write} {held : List ApiKeyRow}
    {statement : Statement} {rows : statement.Rows}
    (answered : ((Connection.working writes held).query committed statement).reply = .ok rows) :
    ∃ visible effect, committed.applyAll writes = .ok visible ∧
      statement.evaluate visible = .ok effect ∧ effect.rows = rows ∧
      ((Connection.working writes held).query committed statement).connection =
        .working (writes ++ effect.writes)
          (committed.apiKeys.filter (fun row => .row row.id ∈ effect.resources) ++ held) := by
  simp only [Connection.query] at answered ⊢
  cases seen : committed.applyAll writes with
  | error error =>
      rw [seen] at answered
      cases answered
  | ok visible =>
      simp only [seen] at answered ⊢
      cases evaluated : statement.evaluate visible with
      | error error =>
          rw [evaluated] at answered
          cases answered
      | ok effect =>
          simp only [evaluated] at answered ⊢
          exact ⟨visible, effect, rfl, evaluated, Except.ok.inj answered, rfl⟩

theorem evaluate_touch {database : AuthDatabase} {keyId clientId : Uuid}
    {effect : Effect (Option (Option Timestamp))}
    (evaluated : (Statement.touch keyId clientId usedAt).evaluate database = .ok effect) :
    ∃ rows later, database.touch keyId clientId usedAt = .ok (rows, later) ∧
      effect = .ofUpdate (rows.head?.map ApiKeyRow.lastUsedAt) rows := by
  cases touching : database.touch keyId clientId usedAt with
  | error error =>
      rw [Statement.evaluate, touching] at evaluated
      cases evaluated
  | ok answer =>
      rw [Statement.evaluate, touching] at evaluated
      cases evaluated
      exact ⟨answer.1, answer.2, rfl, rfl⟩

theorem evaluate_revoke {database : AuthDatabase} {keyId clientId : Uuid} {revokedAt : Timestamp}
    {effect : Effect (Option ApiKeyRow)}
    (evaluated : (Statement.revoke keyId clientId revokedAt).evaluate database = .ok effect) :
    ∃ rows later, database.revoke keyId clientId revokedAt = .ok (rows, later) ∧
      effect = .ofUpdate rows.head? rows := by
  cases revoking : database.revoke keyId clientId revokedAt with
  | error error =>
      rw [Statement.evaluate, revoking] at evaluated
      cases evaluated
  | ok answer =>
      rw [Statement.evaluate, revoking] at evaluated
      cases evaluated
      exact ⟨answer.1, answer.2, rfl, rfl⟩

/-- An answered commit has applied the writes of its transaction. -/
theorem commit_applied {committed : AuthDatabase} {writes : List Write} {held : List ApiKeyRow}
    (answered : ((Connection.working writes held).serve committed .commit).reply = .ok ()) :
    committed.applyAll writes =
      .ok ((Connection.working writes held).serve committed .commit).committed := by
  simp only [Connection.serve, Connection.commit] at answered ⊢
  split at answered
  · rename_i applied
    simp only [applied]
  · cases answered

/-- An answered use in a transaction without writes answers and writes what it has updated. -/
theorem touch_answered {row : ApiKeyRow} {held : List ApiKeyRow}
    {updated : Option (Option Timestamp)} {touched : Around}
    (touches : (Connection.working [] held).Explains
      ⟨.touch row.id row.clientId usedAt, some (.ok updated), touched⟩) :
    ∃ rows later locked, touched.before.touch row.id row.clientId usedAt = .ok (rows, later) ∧
      rows.head?.map ApiKeyRow.lastUsedAt = updated ∧
      (Connection.working [] held).after
        ⟨.touch row.id row.clientId usedAt, some (.ok updated), touched⟩ =
          .working (rows.map .version) (locked ++ held) := by
  have replied : ((Connection.working [] held).query touched.before
      (.touch row.id row.clientId usedAt)).reply = .ok updated := (touches.served updated rfl).1
  obtain ⟨visible, effect, seen, evaluated, same, connection⟩ := query_answered replied
  cases seen
  obtain ⟨rows, later, touching, rfl⟩ := evaluate_touch evaluated
  exact ⟨rows, later, _, touching, same, connection⟩

/-- The row that an authentication has locked is committed unchanged until its own commit. -/
theorem recorded_use {row : ApiKeyRow} {held : List ApiKeyRow} {updated : Option (Option Timestamp)}
    {touched committed : Around} (locked : row ∈ held)
    (explained : Observer.Always Connection.after Connection.Explains (.working [] held)
      [⟨.touch row.id row.clientId usedAt, some (.ok updated), touched⟩,
        ⟨.commit, some (.ok ()), committed⟩]) :
    row ∈ touched.before.apiKeys ∧ row ∈ committed.before.apiKeys ∧
      { row with lastUsedAt := updated.getD row.lastUsedAt } ∈ committed.after.apiKeys := by
  obtain ⟨touches, commits, -⟩ := explained
  have stored := touches.held row locked
  obtain ⟨rows, later, others, touching, same, connection⟩ := touch_answered touches
  rw [connection] at commits
  have kept := commits.held row (List.mem_append_right _ locked)
  refine ⟨stored, kept, ?_⟩
  rw [← same]
  apply applyAll_touch stored touching kept
  obtain ⟨committing, after⟩ := commits.served () rfl
  rw [← after]
  exact commit_applied committing

/-- Each program has a run in which every further statement is dropped. -/
theorem exists_dropped {Value : Type} (program : Program Statement Statement.Answer Value)
    (stamp : Around) : ∃ (tail : List Entry) (outcome : Option Value),
      program.Runs tail outcome ∧ ∀ entry ∈ tail, entry.reply = none ∧ entry.stamp = stamp := by
  induction program with
  | pure value => exact ⟨[], some value, ⟨rfl, rfl⟩, nofun⟩
  | halt => exact ⟨[], none, ⟨rfl, rfl⟩, nofun⟩
  | ask statement next ih =>
      obtain ⟨tail, outcome, run, dropped⟩ := ih none
      refine ⟨⟨statement, none, stamp⟩ :: tail, outcome, ⟨none, stamp, tail, rfl, run⟩, ?_⟩
      intro entry member
      rcases List.mem_cons.mp member with rfl | rest
      · exact ⟨rfl, rfl⟩
      · exact dropped entry rest

/-- Dropped statements are explained while the held rows are committed. -/
theorem explains_dropped {committed : AuthDatabase} {connection : Connection} {tail : List Entry}
    (held : ∀ row ∈ connection.held, row ∈ committed.apiKeys)
    (dropped : ∀ entry ∈ tail, entry.reply = none ∧ entry.stamp = ⟨committed, committed⟩) :
    Observer.Always Connection.after Connection.Explains connection tail := by
  induction tail generalizing connection with
  | nil => trivial
  | cons entry rest ih =>
      obtain ⟨lost, moment⟩ := dropped entry List.mem_cons_self
      have idle : connection.after entry = .idle := by
        rw [Connection.after, lost]
      refine ⟨⟨?_, ?_⟩, ?_⟩
      · rw [moment]
        exact held
      · intro rows replied
        rw [lost] at replied
        cases replied
      · rw [idle]
        apply ih
        · intro row member
          exact absurd member List.not_mem_nil
        · intro other member
          exact dropped other (List.mem_cons_of_mem _ member)

end Authentication

/-- A finished task has this result of its operation. -/
def Task.Answers (task : Task) (request : StoreRequest)
    (result : Except AuthStoreError request.Value) : Prop :=
  ∃ connection log, task = ⟨request, .pure result, connection, log⟩

/-- These statements lock an active row, attempt to record its use, and commit. -/
structure LockedUse (digest : KeyDigest) (usedAt : Timestamp) (log : List Entry)
    (row : ApiKeyRow) : Prop where
  digested : row.keyDigest = digest.bytes
  active : row.revokedAt = none
  committed : ∃ updated acquired begun found touched committed,
    log = [⟨.acquire, some (.ok ()), acquired⟩, ⟨.begin, some (.ok ()), begun⟩,
      ⟨.lockByDigest digest, some (.ok (some row)), found⟩,
      ⟨.touch row.id row.clientId usedAt, some (.ok updated), touched⟩,
      ⟨.commit, some (.ok ()), committed⟩] ∧
    row ∈ found.before.apiKeys ∧ row ∈ touched.before.apiKeys ∧ row ∈ committed.before.apiKeys ∧
    { row with lastUsedAt := updated.getD row.lastUsedAt } ∈ committed.after.apiKeys

section Tasks

variable {committed : AuthDatabase} {task : Task} {digest : KeyDigest} {usedAt : Timestamp}

/-- A finished task has run its operation to its result. -/
theorem Task.Answers.runs {request : StoreRequest} {result : Except AuthStoreError request.Value}
    (recorded : task.Recorded committed) (answers : task.Answers request result) :
    Program.Runs request.transaction.run task.log (some result) := by
  obtain ⟨connection, log, rfl⟩ := answers
  have run := recorded.runs [] (some result) ⟨rfl, rfl⟩
  rwa [List.append_nil] at run

/-- The log of a task extends to a whole run, whose further statements are dropped. -/
theorem Task.Recorded.completes (recorded : task.Recorded committed)
    (held : ∀ row ∈ task.connection.held, row ∈ committed.apiKeys) :
    ∃ tail outcome, Program.Runs task.request.transaction.run (task.log ++ tail) outcome ∧
      Observer.Always Connection.after Connection.Explains .idle (task.log ++ tail) ∧
      ∀ entry ∈ tail, entry.stamp = ⟨committed, committed⟩ := by
  obtain ⟨tail, outcome, run, dropped⟩ := exists_dropped task.rest ⟨committed, committed⟩
  refine ⟨tail, outcome, recorded.runs tail outcome run, ?_, fun entry member =>
    (dropped entry member).2⟩
  rw [Observer.always_append, ← recorded.connected]
  exact ⟨recorded.explained, explains_dropped held dropped⟩

/-- An active answer comes from a row that was active from its lock to its commit. -/
theorem active_answer {record : ApiKeyRecord} (recorded : task.Recorded committed)
    (answers : task.Answers (.authenticateDigest digest usedAt) (.ok (some record)))
    (active : record.isRevoked = false) :
    ∃ row, LockedUse digest usedAt task.log row ∧ record.clientId = row.clientId ∧
      record.id = row.id ∧ record.kind.asStr = row.kind := by
  have explained := recorded.explained
  rcases runs_authenticate (Task.Answers.runs recorded answers) with
    ⟨row, locked, acquired, begun, found, rest, sent, decoded, unrevoked, answered⟩ | quiet
  · obtain ⟨updated, touched, commits, rfl, same⟩ := answered record rfl
    rw [sent] at explained
    obtain ⟨read, held, member, later⟩ := locked_row explained
    obtain ⟨stored, digested⟩ := AuthDatabase.findByDigest_eq_some.mp read
    obtain ⟨touching, committing, after⟩ := recorded_use member later
    have unset : row.revokedAt = none := by
      rw [← decoded]
      change locked.revokedAt = none
      simpa [ApiKeyRecord.isRevoked] using unrevoked
    refine ⟨row, ⟨digested, unset, updated, acquired, begun, found, touched, commits, sent, stored,
      touching, committing, after⟩, ?_⟩
    rw [same, ← decoded]
    exact ⟨rfl, rfl, rfl⟩
  · rw [quiet.revoked record rfl] at active
    cases active

/-- A locked row that is active was not revoked before its lock. -/
theorem unlocked_quiet {earlier : AuthDatabase} {row : ApiKeyRow}
    {outcome : Option (Except AuthStoreError (Option ApiKeyRecord))} {log : List Entry}
    (run : Program.Runs (PostgresAuthStore.authenticateDigest digest usedAt).run log outcome)
    (explained : Observer.Always Connection.after Connection.Explains .idle log)
    (locks : ∀ entry ∈ log, entry.request = .lockByDigest digest →
      earlier.Evolves entry.stamp.before)
    (stored : row ∈ earlier.apiKeys) (revoked : row.revokedAt.isSome)
    (digested : row.keyDigest = digest.bytes) : Quiet log outcome := by
  rcases runs_authenticate run with
    ⟨shown, locked, acquired, begun, found, rest, rfl, decoded, unrevoked, -⟩ | quiet
  · obtain ⟨read, -⟩ := locked_row explained
    obtain ⟨present, known⟩ := AuthDatabase.findByDigest_eq_some.mp read
    have kept := (locks _ (List.mem_cons_of_mem _ (List.mem_cons_of_mem _ List.mem_cons_self))
      rfl).frozen stored revoked
    have same := AuthDatabase.digest_unique kept present (digested.trans known.symm)
    rw [same, ← decoded] at revoked
    rw [ApiKeyRecord.isRevoked] at unrevoked
    exact absurd revoked (by simpa [ApiKeyRecord.toRow] using unrevoked)
  · exact quiet

section Revocation

variable {keyId clientId : Uuid} {revokedAt : Timestamp} {record : ApiKeyRecord}
  {log : List Entry}

/-- A revocation that returns its record has updated one row and committed. -/
theorem runs_revoke
    (run : Program.Runs (PostgresAuthStore.revokeKey clientId keyId revokedAt).run log
      (some (.ok (.revoked record)))) :
    ∃ begun updated committed,
      log = [⟨.begin, some (.ok ()), begun⟩,
        ⟨.revoke keyId clientId revokedAt, some (.ok (some record.toRow)), updated⟩,
        ⟨.commit, some (.ok ()), committed⟩] := by
  obtain ⟨_, begun, opening, rfl, opened⟩ := runs_attempt_ok run
  obtain ⟨changed, updated, rest, rfl, ending⟩ := runs_attemptOrRollback_ok opened
  cases changed with
  | none =>
      obtain ⟨existing, found, last, rfl, finding⟩ := runs_attemptOrRollback_ok ending
      obtain ⟨_, stamp, final, rfl, done⟩ := runs_attempt_ok finding
      cases existing with
      | none => cases done.2
      | some row =>
          have ended : Program.Runs (ExceptT.run (RevokeOutcome.alreadyRevoked <$>
              ExceptT.mk (pure (apiKeyFromRow row) : Program Statement Statement.Answer _)))
              final (some (.ok (.revoked record))) := done
          cases decoded : apiKeyFromRow row with
          | ok found =>
              rw [decoded] at ended
              cases ended.2
          | error error =>
              rw [decoded] at ended
              cases ended.2
  | some row =>
      obtain ⟨found, decoded, decided⟩ := runs_decodeOrRollback_ok ending
      obtain ⟨_, committed, last, rfl, done⟩ := runs_attempt_ok decided
      obtain ⟨rfl, same⟩ := done
      cases same
      rw [apiKeyFromRow_eq_ok.mp decoded]
      exact ⟨begun, updated, committed, rfl⟩

/-- The returned row of a committed revocation is stored after it. -/
theorem recorded_revocation {begun updated ended : Around} {row : ApiKeyRow}
    (explained : Observer.Always Connection.after Connection.Explains .idle
      [⟨.begin, some (.ok ()), begun⟩,
        ⟨.revoke keyId clientId revokedAt, some (.ok (some row)), updated⟩,
        ⟨.commit, some (.ok ()), ended⟩]) :
    row.id = keyId ∧ row.clientId = clientId ∧ row.revokedAt = some revokedAt ∧
      row ∈ ended.after.apiKeys := by
  obtain ⟨_, updates, commits, -⟩ := explained
  have replied : ((Connection.working [] []).query updated.before
      (.revoke keyId clientId revokedAt)).reply = .ok (some row) :=
    (updates.served (some row) rfl).1
  change ((Connection.working [] []).query updated.before
    (.revoke keyId clientId revokedAt)).connection.Explains _ at commits
  obtain ⟨visible, effect, seen, evaluated, head, connection⟩ := query_answered replied
  cases seen
  obtain ⟨rows, later, revoking, rfl⟩ := evaluate_revoke evaluated
  rw [connection] at commits
  have wrote : row ∈ rows := List.mem_of_head? head
  have revocable_id (other : ApiKeyRow)
      (revocable : AuthDatabase.revocable keyId clientId other) :
      other.id = keyId ∧ other.clientId = clientId := by
    simp only [AuthDatabase.revocable, Bool.and_eq_true] at revocable
    exact AuthDatabase.owned_iff.mp revocable.1
  obtain ⟨written, -⟩ := AuthDatabase.updateKeys_eq_ok revoking
  have source := wrote
  rw [written] at source
  obtain ⟨origin, found, rfl⟩ := List.mem_map.mp source
  obtain ⟨present, revocable⟩ := List.mem_filter.mp found
  obtain ⟨sameId, sameClient⟩ := revocable_id origin revocable
  refine ⟨sameId, sameClient, rfl, ?_⟩
  obtain ⟨committing, after⟩ := commits.served () rfl
  rw [← after]
  apply applyAll_version (commit_applied committing) wrote
    (update_alone revoking (fun other matched => (revocable_id other matched).1) wrote)
  refine ⟨origin, commits.held origin (List.mem_append_left _ ?_), rfl⟩
  exact List.mem_filter.mpr ⟨present, decide_eq_true (List.mem_map.mpr ⟨_, wrote, rfl⟩)⟩

end Revocation

end Tasks

namespace SharedStore

variable {middle final : SharedStore} {events : List StoreEvent}

/-- A new entry of a log starts from the committed rows of its moment. -/
theorem step_logs {event : StoreEvent} {number : Nat} {task : Task} {entry : Entry}
    (stepped : system.step middle event = some final) (current : final.tasks number = some task)
    (member : entry ∈ task.log) :
    (∃ earlier, middle.tasks number = some earlier ∧ entry ∈ earlier.log) ∨
      entry.stamp.before = middle.committed := by
  rcases step_cases stepped with ⟨started, request, -, absent, rfl⟩ |
    ⟨exchanged, delivery, earlier, statement, rest, -, known, asks, -, rfl⟩
  · by_cases same : number = started
    · subst same
      simp only [Function.update_self, Option.some.injEq] at current
      subst current
      cases member
    · simp only [Function.update_of_ne same] at current
      exact .inl ⟨task, current, member⟩
  · by_cases same : number = exchanged
    · subst same
      simp only [exchange, Function.update_self, Option.some.injEq] at current
      subst current
      rcases List.mem_append.mp member with old | new
      · exact .inl ⟨earlier, known, old⟩
      · right
        rw [List.mem_singleton.mp new]
    · simp only [exchange, Function.update_of_ne same] at current
      exact .inl ⟨task, current, member⟩

/-- A task that has not sent a statement yet sends it on later committed rows. -/
theorem run_later (sends : Statement → Prop) {number : Nat} (guarded : middle.Guarded)
    (unsent : ∀ task, middle.tasks number = some task → ∀ entry ∈ task.log, ¬ sends entry.request)
    (reached : system.run middle events = some final) {task : Task}
    (current : final.tasks number = some task) :
    ∀ entry ∈ task.log, sends entry.request → middle.committed.Evolves entry.stamp.before := by
  have kept := system.run_invariant
    (fun state => (state.Guarded ∧ middle.committed.Evolves state.committed) ∧
      ∀ task, state.tasks number = some task → ∀ entry ∈ task.log, sends entry.request →
        middle.committed.Evolves entry.stamp.before) ?_
    ⟨⟨guarded, .refl _⟩, fun task known entry member sent =>
      absurd sent (unsent task known entry member)⟩ reached
  · exact kept.2 task current
  · rintro state event next ⟨⟨holds, evolved⟩, later⟩ stepped
    obtain ⟨keeps, moved⟩ := step_guarded holds stepped
    refine ⟨⟨keeps, evolved.trans moved⟩, ?_⟩
    intro task known entry member sent
    rcases step_logs stepped known member with ⟨earlier, kept, old⟩ | started
    · exact later earlier kept entry old sent
    · rwa [started]

/-- A server whose only tenant has one management key. -/
def tenantServer : SharedStore := fresh ((creation 10).apply (fun _ => zeroDigest) .empty)

/-- The first task begins, revokes the key, and commits. -/
def revocationRun : List StoreEvent :=
  .start 0 (.revokeKey 1 2 20) :: List.replicate 3 (.exchange 0 .answered)

/-- The second task acquires a connection, begins, locks the key, and ends its transaction. -/
def authenticationRun (statements : Nat) : List StoreEvent :=
  .start 1 (.authenticateDigest zeroDigest 30) :: List.replicate statements (.exchange 1 .answered)

def serverAfter (store : SharedStore) (events : List StoreEvent) : SharedStore :=
  (system.run store events).getD store

theorem serverAfter_run {store : SharedStore} {events : List StoreEvent}
    (finished : (system.run store events).isSome) :
    system.run store events = some (serverAfter store events) := by
  obtain ⟨final, reached⟩ := Option.isSome_iff_exists.mp finished
  rw [serverAfter, reached, Option.getD_some]

def revokedServer : SharedStore := serverAfter tenantServer revocationRun

def deniedServer : SharedStore := serverAfter revokedServer (authenticationRun 4)

def revokedRow : ApiKeyRow := { createdRow 10 with revokedAt := some 20 }

theorem revokedServer_apiKeys : revokedServer.committed.apiKeys = [revokedRow] := by
  decide +kernel

/-- No run of the server loses a row or changes the identity, the revocation, or the order of the
uses of a key. -/
theorem interleaved_key_history (database : AuthDatabase) (earlier later : List StoreEvent)
    (middle final : SharedStore) (reached : system.run (fresh database) earlier = some middle)
    (continued : system.run middle later = some final) :
    (∀ row ∈ middle.committed.clients, row ∈ final.committed.clients) ∧
      ∀ row ∈ middle.committed.apiKeys, ∃ kept ∈ final.committed.apiKeys,
        kept.fixed = row.fixed ∧ kept.keyDigest = row.keyDigest ∧
        (row.revokedAt.isSome → kept = row) ∧
        ∀ used, row.lastUsedAt = some used →
          ∃ last, kept.lastUsedAt = some last ∧ used ≤ last := by
  obtain ⟨guarded, -⟩ := run_guarded (fresh_guarded database) reached
  obtain ⟨-, evolves⟩ := run_guarded guarded continued
  refine ⟨evolves.clients, ?_⟩
  intro row member
  obtain ⟨kept, stored, evolved⟩ := evolves.keys row member
  exact ⟨kept, stored, evolved.fixed, evolved.digest, evolved.revoked, evolved.used⟩

/-- The revoked key is still stored after its denied authentication. -/
theorem interleaved_key_history_example :
    ∃ kept ∈ deniedServer.committed.apiKeys, kept = revokedRow := by
  have history := interleaved_key_history _ revocationRun (authenticationRun 4) revokedServer
    deniedServer (serverAfter_run (by decide +kernel)) (serverAfter_run (by decide +kernel))
  obtain ⟨kept, found, -, -, same, -⟩ := history.2 revokedRow (by simp [revokedServer_apiKeys])
  exact ⟨kept, found, same rfl⟩

/-- An authentication that locks after a committed revocation writes nothing and is denied. -/
theorem revocation_denies (database : AuthDatabase) (earlier later : List StoreEvent)
    (middle final : SharedStore) (reached : system.run (fresh database) earlier = some middle)
    (continued : system.run middle later = some final) (row : ApiKeyRow) (digest : KeyDigest)
    (stored : row ∈ middle.committed.apiKeys) (revoked : row.revokedAt.isSome)
    (digested : row.keyDigest = digest.bytes) (number : Nat) (task : Task) (usedAt : Timestamp)
    (current : final.tasks number = some task)
    (asked : task.request = .authenticateDigest digest usedAt)
    (unlocked : ∀ before, middle.tasks number = some before →
      ∀ entry ∈ before.log, entry.request ≠ .lockByDigest digest) :
    (∀ entry ∈ task.log, ¬ entry.request.Writes) ∧
      ∀ record, task.Answers (.authenticateDigest digest usedAt) (.ok (some record)) →
        record.isRevoked := by
  obtain ⟨guarded, -⟩ := run_guarded (fresh_guarded database) reached
  obtain ⟨keeps, evolved⟩ := run_guarded guarded continued
  obtain ⟨request, rest, connection, log⟩ := task
  subst asked
  have recorded := keeps.recorded number _ current
  have locks : ∀ entry ∈ log, entry.request = .lockByDigest digest →
      middle.committed.Evolves entry.stamp.before :=
    run_later (fun sent => sent = .lockByDigest digest) guarded unlocked continued current
  constructor
  · obtain ⟨tail, outcome, run, explained, moment⟩ := recorded.completes fun row member =>
      ((keeps.connections number _ current).held row member).2
    have quiet : Quiet (log ++ tail) outcome := by
      refine unlocked_quiet run explained ?_ stored revoked digested
      intro entry member locked
      rcases List.mem_append.mp member with old | new
      · exact locks entry old locked
      · rw [moment entry new]
        exact evolved
    intro entry member
    exact quiet.reads entry (List.mem_append_left _ member)
  · intro record answers
    exact (unlocked_quiet (Task.Answers.runs recorded answers) recorded.explained locks stored
      revoked digested).revoked record rfl

/-- The revoked management key is denied and writes nothing. -/
theorem revocation_denies_example :
    ∃ task, deniedServer.tasks 1 = some task ∧ ¬ ∃ entry ∈ task.log, entry.request.Writes := by
  have current : (deniedServer.tasks 1).isSome := by decide +kernel
  obtain ⟨task, known⟩ := Option.isSome_iff_exists.mp current
  have asked : (deniedServer.tasks 1).map Task.request =
      some (.authenticateDigest zeroDigest 30) := rfl
  rw [known, Option.map_some, Option.some.injEq] at asked
  have absent : revokedServer.tasks 1 = none := Option.isNone_iff_eq_none.mp (by decide +kernel)
  have denied := revocation_denies _ revocationRun (authenticationRun 4) revokedServer deniedServer
    (serverAfter_run (by decide +kernel)) (serverAfter_run (by decide +kernel)) revokedRow
    zeroDigest (by simp [revokedServer_apiKeys]) rfl rfl 1 task 30 known asked
    (fun before present => absurd (absent.symm.trans present) nofun)
  exact ⟨task, known, fun found => denied.1 found.choose found.choose_spec.1 found.choose_spec.2⟩

/-- A returned revocation is the final row of its key in every later state. -/
theorem revocation_committed (database : AuthDatabase) (earlier later : List StoreEvent)
    (middle final : SharedStore) (reached : system.run (fresh database) earlier = some middle)
    (continued : system.run middle later = some final) (number : Nat) (task : Task)
    (known : middle.tasks number = some task) (clientId keyId : Uuid) (revokedAt : Timestamp)
    (record : ApiKeyRecord)
    (answers : task.Answers (.revokeKey clientId keyId revokedAt) (.ok (.revoked record))) :
    record.id = keyId ∧ record.clientId = clientId ∧ record.revokedAt = some revokedAt ∧
      record.toRow ∈ final.committed.apiKeys := by
  obtain ⟨guarded, -⟩ := run_guarded (fresh_guarded database) reached
  obtain ⟨-, evolved⟩ := run_guarded guarded continued
  have recorded := guarded.recorded number task known
  have explained := recorded.explained
  obtain ⟨begun, updated, committed, sent⟩ := runs_revoke (Task.Answers.runs recorded answers)
  rw [sent] at explained
  obtain ⟨sameId, sameClient, revoked, stored⟩ := recorded_revocation explained
  refine ⟨sameId, sameClient, revoked, ?_⟩
  have past := (recorded.past _ (sent ▸ List.mem_cons_of_mem _ (List.mem_cons_of_mem _
    List.mem_cons_self))).2
  exact (past.trans evolved).frozen stored (by rw [revoked]; rfl)

/-- The record that the first task returns. -/
def revokedRecord : ApiKeyRecord :=
  ⟨2, 1, zeroDigest, "opk_AAAAAAAAAAAAAAAAAAAAAA", initialManagementKeyName, .management, 10, none,
    some 20⟩

/-- The returned revocation is still stored after the second task. -/
theorem revocation_committed_example : revokedRecord.toRow ∈ deniedServer.committed.apiKeys := by
  have answers : ∃ task, revokedServer.tasks 0 = some task ∧
      task.Answers (.revokeKey 1 2 20) (.ok (.revoked revokedRecord)) :=
    ⟨_, rfl, _, _, rfl⟩
  obtain ⟨task, known, answered⟩ := answers
  exact (revocation_committed _ revocationRun (authenticationRun 4) revokedServer deniedServer
    (serverAfter_run (by decide +kernel)) (serverAfter_run (by decide +kernel)) 0 task known 1 2 20
    revokedRecord answered).2.2.2

section Service

variable {Stamp : Type}

/-- An accepted authentication got an active record for the digest of its credential. -/
theorem authenticate_accepts {hashCredential : String → KeyDigest} {presented : String}
    {trace : List (Exchange AuthRequest AuthRequest.Reply Stamp)} {context : AuthContext}
    (run : Program.Runs (AuthService.authenticate hashCredential presented).run trace
      (some (.ok context))) :
    ∃ usedAt record stamp, record.isRevoked = false ∧
      context = ⟨record.clientId, record.id, record.kind⟩ ∧
      ⟨.store (.authenticateDigest (hashCredential presented) usedAt),
        some (.ok (some record)), stamp⟩ ∈ trace := by
  obtain ⟨usedAt, first, rest, rfl, run⟩ := run
  obtain ⟨reply, stamp, last, rfl, run⟩ := run
  cases reply with
  | none => cases run.2
  | some answer =>
      cases answer with
      | error error => cases run.2
      | ok found =>
          cases found with
          | none => cases run.2
          | some record =>
              have decided : Program.Runs (ExceptT.run
                  (if record.isRevoked then throw .invalidCredentials
                    else pure ⟨record.clientId, record.id, record.kind⟩ :
                    ExceptT AuthenticateError AuthProgram AuthContext)) last
                  (some (.ok context)) := run
              split at decided
              · cases decided.2
              · rename_i active
                have same := Except.ok.inj (Option.some.inj decided.2)
                exact ⟨usedAt, record, stamp, by simpa using active, same,
                  List.mem_cons_of_mem _ List.mem_cons_self⟩

end Service

/-- An accepted credential belongs to a row that was active in the transaction that answered it,
which locked the row, recorded its use, and committed. -/
theorem context_locked_active {Stamp : Type} (hashCredential : String → KeyDigest)
    (presented : String) (database : AuthDatabase) (events : List StoreEvent)
    (store : SharedStore) (reached : system.run (fresh database) events = some store)
    (trace : List (Exchange AuthRequest AuthRequest.Reply Stamp)) (context : AuthContext)
    (run : Program.Runs (AuthService.authenticate hashCredential presented).run trace
      (some (.ok context)))
    (answered : ∀ request result stamp, ⟨.store request, some result, stamp⟩ ∈ trace →
      ∃ number task, store.tasks number = some task ∧ task.Answers request result) :
    ∃ usedAt record stamp number task row,
      ⟨.store (.authenticateDigest (hashCredential presented) usedAt), some (.ok (some record)),
        stamp⟩ ∈ trace ∧
      store.tasks number = some task ∧
      task.Answers (.authenticateDigest (hashCredential presented) usedAt) (.ok (some record)) ∧
      LockedUse (hashCredential presented) usedAt task.log row ∧ context.clientId = row.clientId ∧
      context.keyId = row.id ∧ context.kind.asStr = row.kind := by
  obtain ⟨usedAt, record, stamp, active, rfl, asked⟩ := authenticate_accepts run
  obtain ⟨number, task, known, answers⟩ := answered _ _ _ asked
  obtain ⟨guarded, -⟩ := run_guarded (fresh_guarded database) reached
  obtain ⟨row, locked, identity⟩ :=
    active_answer (guarded.recorded number task known) answers active
  exact ⟨usedAt, record, stamp, number, task, row, asked, known, answers, locked, identity⟩

/-- The record of the key after its first use. -/
def usedRecord : ApiKeyRecord :=
  ⟨2, 1, zeroDigest, "opk_AAAAAAAAAAAAAAAAAAAAAA", initialManagementKeyName, .management, 10,
    some 30, none⟩

def acceptedServer : SharedStore := serverAfter tenantServer (authenticationRun 5)

def acceptedTrace : List (Exchange AuthRequest AuthRequest.Reply Unit) :=
  [⟨.utcNow, (30 : Timestamp), ()⟩,
    ⟨.store (.authenticateDigest zeroDigest 30), some (.ok (some usedRecord)), ()⟩]

/-- An accepted management key was locked by the second task. -/
theorem context_locked_active_example :
    ∃ usedAt record number task row, acceptedServer.tasks number = some task ∧
      task.Answers (.authenticateDigest zeroDigest usedAt) (.ok (some record)) ∧
      LockedUse zeroDigest usedAt task.log row ∧ (1 : Uuid) = row.clientId := by
  have answers : ∃ task, acceptedServer.tasks 1 = some task ∧
      task.Answers (.authenticateDigest zeroDigest 30) (.ok (some usedRecord)) :=
    ⟨_, rfl, _, _, rfl⟩
  have accepted := context_locked_active (fun _ => zeroDigest) "" _ (authenticationRun 5)
    acceptedServer (serverAfter_run (by decide +kernel)) acceptedTrace ⟨1, 2, .management⟩
    ⟨30, (), _, rfl, _, (), [], rfl, rfl, rfl⟩ ?_
  · obtain ⟨usedAt, record, _, number, task, row, _, known, answered, locked, owner, -⟩ := accepted
    exact ⟨usedAt, record, number, task, row, known, answered, locked, owner⟩
  · intro request result stamp member
    cases member with
    | tail _ member =>
        cases member with
        | head =>
            obtain ⟨task, known, answered⟩ := answers
            exact ⟨1, task, known, answered⟩
        | tail _ none => cases none

end SharedStore

end Opmux.Auth
