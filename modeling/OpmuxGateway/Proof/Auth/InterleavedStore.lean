import OpmuxGateway.Library.Observer
import OpmuxGateway.Proof.Auth.KeyHistory

/-
This file gives the invariant of the interleaved transactions of one server.
-/

namespace Opmux.Auth

namespace Connection

def writes : Connection → List Write
  | .working writes _ => writes
  | .idle | .aborted => []

def held : Connection → List ApiKeyRow
  | .working _ held => held
  | .idle | .aborted => []

/-- An open transaction owns the rows that it has read under a lock or written. -/
structure Guarded (committed : AuthDatabase) (owners : Resource → Option Nat) (number : Nat)
    (connection : Connection) : Prop where
  held : ∀ row ∈ connection.held, owners (.row row.id) = some number ∧ row ∈ committed.apiKeys
  owned : ∀ row ∈ keyRows connection.writes, owners (.row row.id) = some number
  present : ∀ row ∈ keyRows connection.writes, (∃ stored ∈ committed.apiKeys, stored.id = row.id) ∨
    ∃ added, Write.key added ∈ connection.writes ∧ added.id = row.id
  follows : ∀ row ∈ keyRows connection.writes, Follows committed row
  ordered : Ordered (keyRows connection.writes)

end Connection

/-- A task changes no row that another task owns. -/
structure Advances (owners : Resource → Option Nat) (number : Nat)
    (before after : AuthDatabase) : Prop where
  evolves : before.Evolves after
  others : ∀ row other, owners (.row row.id) = some other → other ≠ number →
    (row ∈ after.apiKeys ↔ row ∈ before.apiKeys)

section Connections

variable {committed later : AuthDatabase} {owners : Resource → Option Nat} {number : Nat}
  {connection : Connection} {writes : List Write}

open Connection

theorem Advances.refl (database : AuthDatabase) : Advances owners number database database :=
  ⟨.refl database, fun _ _ _ _ => Iff.rfl⟩

/-- The writes of free rows and of its own rows advance the committed rows. -/
theorem applyAll_advances (applied : committed.applyAll writes = .ok later)
    (follows : ∀ row ∈ keyRows writes, Follows committed row) (ordered : Ordered (keyRows writes))
    (granted : ∀ row ∈ keyRows writes, (owners (.row row.id)).all (· = number)) :
    Advances owners number committed later := by
  refine ⟨(applyAll_evolves applied follows ordered).1, ?_⟩
  intro row other owner different
  have apart : ∀ written ∈ keyRows writes, row.id ≠ written.id := by
    intro written member same
    have mine := granted written member
    rw [← same, owner] at mine
    exact different (by simpa using mine)
  constructor
  · intro member
    rcases mem_applyAll applied member with wrote | ⟨old, _⟩
    · exact absurd rfl (apart row wrote)
    · exact old
  · intro member
    exact applyAll_kept applied member apart

/-- A statement advances the committed rows. -/
theorem serve_advances (guarded : connection.Guarded committed owners number)
    (statement : Statement)
    (granted : ∀ resource ∈ (connection.serve committed statement).resources,
      (owners resource).all (· = number)) :
    Advances owners number committed (connection.serve committed statement).committed := by
  have queried (granted : ∀ resource ∈ (connection.query committed statement).resources,
      (owners resource).all (· = number)) :
      Advances owners number committed (connection.query committed statement).committed := by
    cases connection with
    | aborted => exact .refl committed
    | working writes held =>
        simp only [query]
        split
        · exact .refl committed
        · split
          · exact .refl committed
          · exact .refl committed
    | idle =>
        simp only [query] at granted ⊢
        cases evaluated : statement.evaluate committed with
        | error error => exact .refl committed
        | ok effect =>
            simp only [evaluated] at granted ⊢
            cases applied : committed.applyAll effect.writes with
            | error error => exact .refl committed
            | ok next =>
                simp only [applied] at granted ⊢
                have sound := Statement.evaluate_sound evaluated
                exact applyAll_advances applied sound.follows sound.ordered fun row member =>
                  granted _ (sound.owned row member)
  cases statement with
  | acquire | rollback => exact .refl committed
  | begin => cases connection <;> exact .refl committed
  | commit =>
      cases connection with
      | idle | aborted => exact .refl committed
      | working writes held =>
          simp only [serve, commit]
          cases applied : committed.applyAll writes with
          | error error => exact .refl committed
          | ok next =>
              refine applyAll_advances applied guarded.follows guarded.ordered fun row member => ?_
              simp [guarded.owned row member]
  | insertClient | insertKey | findByDigest | lockByDigest | touch | revoke | findOwned | page =>
      exact queried granted

/-- A connection without a transaction guards nothing. -/
theorem guarded_closed (held : connection.held = []) (writes : connection.writes = []) :
    connection.Guarded committed owners number := by
  refine ⟨?_, ?_, ?_, ?_, ?_⟩
  · simp [held]
  · simp [writes, keyRows]
  · simp [writes, keyRows]
  · simp [writes, keyRows]
  · rw [writes]
    exact List.Pairwise.nil

/-- Another task leaves the guarded rows as they are. -/
theorem Connection.Guarded.frame {others : Resource → Option Nat} {other : Nat}
    (guarded : connection.Guarded committed owners other)
    (advances : Advances owners number committed later) (different : other ≠ number)
    (kept : ∀ resource, owners resource = some other → others resource = some other) :
    connection.Guarded later others other := by
  refine ⟨?_, ?_, ?_, ?_, guarded.ordered⟩
  · intro row member
    obtain ⟨owner, stored⟩ := guarded.held row member
    exact ⟨kept _ owner, (advances.others row other owner different).mpr stored⟩
  · intro row member
    exact kept _ (guarded.owned row member)
  · intro row member
    rcases guarded.present row member with ⟨stored, found, same⟩ | added
    · obtain ⟨next, shown, moved⟩ := advances.evolves.keys stored found
      exact .inl ⟨next, shown, moved.id.trans same⟩
    · exact .inr added
  · intro row member stored found same
    have owner : owners (.row stored.id) = some other := same ▸ guarded.owned row member
    exact guarded.follows row member stored
      ((advances.others stored other owner different).mp found) same

theorem failed_closed (connection : Connection) (statement : Statement) :
    connection.failed statement = .idle ∨ connection.failed statement = .aborted := by
  cases connection with
  | idle => exact .inl rfl
  | working | aborted =>
      simp only [failed]
      split
      · exact .inl rfl
      · exact .inl rfl
      · exact .inr rfl

theorem failed_guarded (connection : Connection) (statement : Statement) :
    (connection.failed statement).Guarded committed owners number := by
  rcases failed_closed connection statement with idle | aborted
  · rw [idle]
    exact guarded_closed rfl rfl
  · rw [aborted]
    exact guarded_closed rfl rfl

/-- A transaction owns the resources of the statement that it just ran. -/
theorem query_guarded {held : List ApiKeyRow} {statement : Statement} {visible : AuthDatabase}
    {effect : Effect statement.Rows} {others : Resource → Option Nat}
    (guarded : (working writes held).Guarded committed owners number)
    (seen : committed.applyAll writes = .ok visible)
    (evaluated : statement.evaluate visible = .ok effect)
    (acquired : ∀ resource ∈ effect.resources, others resource = some number)
    (kept : ∀ resource, owners resource = some number → others resource = some number) :
    (working (writes ++ effect.writes)
      (committed.apiKeys.filter (fun row => .row row.id ∈ effect.resources) ++ held)).Guarded
        committed others number := by
  have sound := Statement.evaluate_sound evaluated
  obtain ⟨evolves, newest⟩ := applyAll_evolves seen guarded.follows guarded.ordered
  have split : keyRows (writes ++ effect.writes) = keyRows writes ++ keyRows effect.writes :=
    List.filterMap_append
  refine ⟨?_, ?_, ?_, ?_, ?_⟩
  · intro row member
    rcases List.mem_append.mp member with locked | old
    · obtain ⟨stored, needed⟩ := List.mem_filter.mp locked
      exact ⟨acquired _ (by simpa using needed), stored⟩
    · obtain ⟨owner, stored⟩ := guarded.held row old
      exact ⟨kept _ owner, stored⟩
  · intro row member
    rw [Connection.writes, split, List.mem_append] at member
    rcases member with old | new
    · exact kept _ (guarded.owned row old)
    · exact acquired _ (sound.owned row new)
  · intro row member
    rw [Connection.writes, split, List.mem_append] at member
    have earlier (old : ApiKeyRow) (wrote : old ∈ keyRows writes) (same : old.id = row.id) :
        (∃ stored ∈ committed.apiKeys, stored.id = row.id) ∨
          ∃ added, Write.key added ∈ writes ++ effect.writes ∧ added.id = row.id := by
      rw [← same]
      rcases guarded.present old wrote with stored | ⟨added, found, known⟩
      · exact .inl stored
      · exact .inr ⟨added, List.mem_append_left _ found, known⟩
    rcases member with old | new
    · exact earlier row old rfl
    · rcases sound.present row new with ⟨stored, found, same⟩ | inserted
      · rcases mem_applyAll seen found with wrote | ⟨committed, _⟩
        · exact earlier stored wrote same
        · exact .inl ⟨stored, committed, same⟩
      · exact .inr ⟨row, List.mem_append_right _ inserted, rfl⟩
  · intro row member stored found same
    rw [Connection.writes, split, List.mem_append] at member
    rcases member with old | new
    · exact guarded.follows row old stored found same
    · obtain ⟨shown, shows, moved⟩ := evolves.keys stored found
      exact moved.trans (sound.follows row new shown shows (moved.id.trans same))
  · rw [Connection.writes, split]
    refine List.pairwise_append.mpr ⟨guarded.ordered, sound.ordered, ?_⟩
    intro first old second new same
    obtain ⟨shown, shows, known⟩ : ∃ shown ∈ visible.apiKeys, shown.id = first.id := by
      rcases guarded.present first old with stored | ⟨added, found, known⟩
      · exact applyAll_ids seen stored
      · rw [← known]
        exact applyAll_inserted seen found
    exact (newest shown shows first old known.symm).trans
      (sound.follows second new shown shows (known.trans same))

/-- An answered statement leaves its connection guarded. -/
theorem serve_guarded {others : Resource → Option Nat}
    (guarded : connection.Guarded committed owners number) (statement : Statement)
    (opened : ∀ writes held,
      (connection.serve committed statement).connection = .working writes held →
        (∀ resource ∈ (connection.serve committed statement).resources,
          others resource = some number) ∧
        ∀ resource, owners resource = some number → others resource = some number) :
    (connection.serve committed statement).connection.Guarded
      (connection.serve committed statement).committed others number := by
  have unchanged (kept : ∀ writes held, connection = .working writes held →
      ∀ resource, owners resource = some number → others resource = some number) :
      connection.Guarded committed others number := by
    cases connection with
    | idle | aborted => exact guarded_closed rfl rfl
    | working writes held =>
        have kept := kept writes held rfl
        exact ⟨fun row member => ⟨kept _ (guarded.held row member).1, (guarded.held row member).2⟩,
          fun row member => kept _ (guarded.owned row member), guarded.present, guarded.follows,
          guarded.ordered⟩
  have queried (opened : ∀ writes held,
      (connection.query committed statement).connection = .working writes held →
        (∀ resource ∈ (connection.query committed statement).resources,
          others resource = some number) ∧
        ∀ resource, owners resource = some number → others resource = some number) :
      (connection.query committed statement).connection.Guarded
        (connection.query committed statement).committed others number := by
    cases connection with
    | aborted => exact failed_guarded aborted statement
    | idle =>
        simp only [query]
        split
        · exact guarded_closed rfl rfl
        · split
          · exact guarded_closed rfl rfl
          · exact guarded_closed rfl rfl
    | working writes held =>
        simp only [query] at opened ⊢
        cases seen : committed.applyAll writes with
        | error error => exact failed_guarded (working writes held) statement
        | ok visible =>
            simp only [seen] at opened ⊢
            cases evaluated : statement.evaluate visible with
            | error error => exact failed_guarded (working writes held) statement
            | ok effect =>
                simp only [evaluated] at opened ⊢
                obtain ⟨acquired, kept⟩ := opened _ _ rfl
                exact query_guarded guarded seen evaluated acquired kept
  cases statement with
  | acquire => exact unchanged fun writes held same => (opened writes held same).2
  | rollback => exact guarded_closed rfl rfl
  | begin =>
      cases connection with
      | idle | aborted => exact guarded_closed rfl rfl
      | working writes held => exact unchanged fun writes held same => (opened writes held same).2
  | commit =>
      cases connection with
      | idle | aborted => exact guarded_closed rfl rfl
      | working writes held =>
          simp only [serve, commit]
          split
          · exact guarded_closed rfl rfl
          · exact guarded_closed rfl rfl
  | insertClient | insertKey | findByDigest | lockByDigest | touch | revoke | findOwned | page =>
      exact queried opened

/-- A refused statement fails its connection and commits nothing. -/
theorem serve_refused {statement : Statement} {error : SqlxError}
    (refused : (connection.serve committed statement).reply = .error error) :
    (connection.serve committed statement).connection = connection.failed statement ∧
      (connection.serve committed statement).committed = committed := by
  have queried (refused : (connection.query committed statement).reply = .error error) :
      (connection.query committed statement).connection = connection.failed statement ∧
        (connection.query committed statement).committed = committed := by
    cases connection with
    | aborted => exact ⟨rfl, rfl⟩
    | idle | working =>
        simp only [query] at refused ⊢
        repeat' split at refused
        all_goals cases refused
        all_goals simp_all [fail]
  cases statement with
  | acquire | rollback => cases refused
  | begin =>
      cases connection with
      | idle | working => cases refused
      | aborted => exact ⟨rfl, rfl⟩
  | commit =>
      cases connection with
      | idle | aborted => cases refused
      | working writes held =>
          simp only [serve, commit] at refused ⊢
          split at refused
          · cases refused
          · simp_all [fail]
  | insertClient | insertKey | findByDigest | lockByDigest | touch | revoke | findOwned | page =>
      exact queried refused

end Connections

/-- The connection after a logged statement. -/
def Connection.after (connection : Connection) (entry : Entry) : Connection :=
  match entry.reply with
  | some (.ok _) => (connection.serve entry.stamp.before entry.request).connection
  | some (.error _) => connection.failed entry.request
  | none => .idle

/-- A logged answer is the one of the server, and the locked rows are still committed there. -/
structure Connection.Explains (connection : Connection) (entry : Entry) : Prop where
  held : ∀ row ∈ connection.held, row ∈ entry.stamp.before.apiKeys
  served : ∀ rows, entry.reply = some (.ok rows) →
    (connection.serve entry.stamp.before entry.request).reply = .ok rows ∧
      (connection.serve entry.stamp.before entry.request).committed = entry.stamp.after

/-- The log of a task is a run of its operation that the server explains. -/
structure Task.Recorded (committed : AuthDatabase) (task : Task) : Prop where
  runs : ∀ tail outcome, task.rest.Runs tail outcome →
    Program.Runs task.request.transaction.run (task.log ++ tail) outcome
  connected : task.connection = task.log.foldl Connection.after .idle
  explained : Observer.Always Connection.after Connection.Explains .idle task.log
  past : ∀ entry ∈ task.log, entry.stamp.before.Evolves entry.stamp.after ∧
    entry.stamp.after.Evolves committed

namespace SharedStore

structure Guarded (store : SharedStore) : Prop where
  connections : ∀ number task, store.tasks number = some task →
    task.connection.Guarded store.committed store.owners number
  recorded : ∀ number task, store.tasks number = some task → task.Recorded store.committed

variable {store next : SharedStore} {event : StoreEvent}

/-- An event starts a task, or it delivers one statement of a task. -/
theorem step_cases (stepped : system.step store event = some next) :
    (∃ number request, event = .start number request ∧ store.tasks number = none ∧
      next = { store with
        tasks := Function.update store.tasks number
          (some ⟨request, request.transaction.run, .idle, []⟩) }) ∨
    ∃ number delivery task statement rest, event = .exchange number delivery ∧
      store.tasks number = some task ∧ task.rest = .ask statement rest ∧
      (delivery.applied → store.grants number
        (task.connection.serve store.committed statement).resources) ∧
      next = store.exchange number task statement rest delivery := by
  cases event with
  | start number request =>
      left
      simp only [system, step, Option.isNone_iff_eq_none] at stepped
      split at stepped
      · rename_i absent
        exact ⟨number, request, rfl, absent, (Option.some.inj stepped).symm⟩
      · cases stepped
  | exchange number delivery =>
      right
      simp only [system, step, Option.bind_eq_some_iff] at stepped
      obtain ⟨task, known, stepped⟩ := stepped
      split at stepped
      · rename_i statement rest asks
        split at stepped
        · cases stepped
        · rename_i free
          refine ⟨number, delivery, task, statement, rest, rfl, known, asks, ?_,
            (Option.some.inj stepped).symm⟩
          intro applied
          simpa [applied] using free
      · cases stepped
      · cases stepped

section Exchanges

variable {number : Nat} {task : Task} {statement : Statement}
  {rest : statement.Answer → Program Statement Statement.Answer
    (Except AuthStoreError task.request.Value)} {delivery : Delivery}

/-- The log tells the connection that a delivery leaves. -/
theorem after_delivery (committed after : AuthDatabase) (connection : Connection) :
    connection.after ⟨statement, delivery.reply (connection.serve committed statement),
      ⟨committed, after⟩⟩ =
      delivery.connection connection (connection.serve committed statement) := by
  cases delivery with
  | failed | dropped => rfl
  | answered =>
      cases replied : (connection.serve committed statement).reply with
      | ok rows => simp [Connection.after, Delivery.reply, Delivery.connection, replied]
      | error error =>
          simp [Connection.after, Delivery.reply, Delivery.connection, replied,
            (serve_refused replied).1]

/-- A delivery advances the committed rows of the server. -/
theorem exchange_advances (guarded : store.Guarded) (known : store.tasks number = some task)
    (granted : delivery.applied → store.grants number
      (task.connection.serve store.committed statement).resources) :
    Advances store.owners number store.committed
      (store.exchange number task statement rest delivery).committed := by
  simp only [exchange, Delivery.committed]
  cases applied : delivery.applied with
  | false => exact .refl _
  | true =>
      apply serve_advances (guarded.connections number task known) statement
      intro resource needed
      exact List.all_eq_true.mp (granted applied) resource needed

/-- An owned resource stays with its task while another task exchanges a statement. -/
theorem exchange_owners {other : Nat} (different : other ≠ number)
    (granted : delivery.applied → store.grants number
      (task.connection.serve store.committed statement).resources)
    (resource : Resource) (owner : store.owners resource = some other) :
    (store.exchange number task statement rest delivery).owners resource = some other := by
  have mine : store.owners resource ≠ some number := by
    rw [owner]
    exact fun same => different (Option.some.inj same)
  simp only [exchange, ownersAfter]
  split
  · rename_i writes held opened
    split
    · rename_i needed
      have applied : delivery.applied = true := by
        cases delivery with
        | answered => rfl
        | dropped => cases opened
        | failed error applied =>
            rcases failed_closed task.connection statement with idle | aborted
            · simp [Delivery.connection, idle] at opened
            · simp [Delivery.connection, aborted] at opened
      have free := List.all_eq_true.mp (granted applied) resource needed
      rw [owner] at free
      exact absurd (by simpa using free) different
    · exact owner
  · rw [if_neg mine, owner]
  · rw [if_neg mine, owner]

/-- A delivery keeps the rows of its own transaction guarded. -/
theorem exchange_guards (guarded : store.Guarded) (known : store.tasks number = some task) :
    (delivery.connection task.connection
      (task.connection.serve store.committed statement)).Guarded
        (store.exchange number task statement rest delivery).committed
        (store.exchange number task statement rest delivery).owners number := by
  cases delivery with
  | failed error applied => exact failed_guarded task.connection statement
  | dropped applied => exact guarded_closed rfl rfl
  | answered =>
      refine serve_guarded (guarded.connections number task known) statement ?_
      intro writes held opened
      simp only [exchange, ownersAfter, Delivery.connection, opened]
      constructor
      · intro resource needed
        rw [if_pos needed]
      · intro resource owner
        split
        · rfl
        · exact owner

/-- A recorded task stays recorded while the committed rows evolve. -/
theorem Recorded.later {committed later : AuthDatabase} (recorded : task.Recorded committed)
    (evolves : committed.Evolves later) : task.Recorded later :=
  ⟨recorded.runs, recorded.connected, recorded.explained, fun entry member =>
    ⟨(recorded.past entry member).1, (recorded.past entry member).2.trans evolves⟩⟩

/-- A delivery records its statement. -/
theorem exchange_recorded (guarded : store.Guarded) (known : store.tasks number = some task)
    (asks : task.rest = .ask statement rest)
    (granted : delivery.applied → store.grants number
      (task.connection.serve store.committed statement).resources) {later : Task}
    (current : (store.exchange number task statement rest delivery).tasks number = some later) :
    later.Recorded (store.exchange number task statement rest delivery).committed := by
  have recorded := guarded.recorded number task known
  have evolves :
      store.committed.Evolves (store.exchange number task statement rest delivery).committed :=
    (exchange_advances guarded known granted).evolves
  simp only [exchange, Function.update_self, Option.some.injEq] at current evolves ⊢
  subst current
  refine ⟨?_, ?_, ?_, ?_⟩
  · intro tail outcome run
    rw [List.append_assoc]
    apply recorded.runs
    rw [asks]
    exact ⟨_, _, tail, rfl, run⟩
  · rw [List.foldl_append, ← recorded.connected]
    exact (after_delivery _ _ _).symm
  · rw [Observer.always_append, ← recorded.connected]
    refine ⟨recorded.explained, ?_, trivial⟩
    refine ⟨fun row member => ((guarded.connections number task known).held row member).2, ?_⟩
    intro rows replied
    cases delivery with
    | answered => exact ⟨Option.some.inj replied, rfl⟩
    | failed error applied => cases replied
    | dropped applied => cases replied
  · intro entry member
    rcases List.mem_append.mp member with old | new
    · obtain ⟨moved, reached⟩ := recorded.past entry old
      exact ⟨moved, reached.trans evolves⟩
    · rw [List.mem_singleton.mp new]
      exact ⟨evolves, .refl _⟩

theorem exchange_guarded (guarded : store.Guarded) (known : store.tasks number = some task)
    (asks : task.rest = .ask statement rest)
    (granted : delivery.applied → store.grants number
      (task.connection.serve store.committed statement).resources) :
    (store.exchange number task statement rest delivery).Guarded := by
  have advances : Advances store.owners number store.committed
      (store.exchange number task statement rest delivery).committed :=
    exchange_advances guarded known granted
  have foreign {other : Nat} (different : other ≠ number) :
      (store.exchange number task statement rest delivery).tasks other = store.tasks other :=
    Function.update_of_ne different _ _
  refine ⟨?_, ?_⟩
  · intro other later current
    by_cases same : other = number
    · subst same
      simp only [exchange, Function.update_self, Option.some.injEq] at current
      subst current
      exact exchange_guards guarded known
    · rw [foreign same] at current
      exact (guarded.connections other later current).frame advances same
        (exchange_owners same granted)
  · intro other later current
    by_cases same : other = number
    · subst same
      exact exchange_recorded guarded known asks granted current
    · rw [foreign same] at current
      exact Recorded.later (guarded.recorded other later current) advances.evolves

end Exchanges

theorem step_guarded (guarded : store.Guarded) (stepped : system.step store event = some next) :
    next.Guarded ∧ store.committed.Evolves next.committed := by
  rcases step_cases stepped with ⟨number, request, -, absent, rfl⟩ |
    ⟨number, delivery, task, statement, rest, -, known, asks, granted, rfl⟩
  · refine ⟨⟨?_, ?_⟩, .refl _⟩
    · intro other task current
      by_cases same : other = number
      · subst same
        simp only [Function.update_self, Option.some.injEq] at current
        subst current
        exact guarded_closed rfl rfl
      · simp only [Function.update_of_ne same] at current
        exact guarded.connections other task current
    · intro other task current
      by_cases same : other = number
      · subst same
        simp only [Function.update_self, Option.some.injEq] at current
        subst current
        exact ⟨fun _ _ run => run, rfl, trivial, nofun⟩
      · simp only [Function.update_of_ne same] at current
        exact guarded.recorded other task current
  · exact ⟨exchange_guarded guarded known asks granted,
      (exchange_advances guarded known granted).evolves⟩

theorem fresh_guarded (database : AuthDatabase) : (fresh database).Guarded :=
  ⟨nofun, nofun⟩

/-- Every run from a guarded server keeps it guarded and evolves its keys. -/
theorem run_guarded {events : List StoreEvent} (guarded : store.Guarded)
    (reached : system.run store events = some next) :
    next.Guarded ∧ store.committed.Evolves next.committed := by
  apply system.run_invariant
    (fun state => state.Guarded ∧ store.committed.Evolves state.committed) ?_
    ⟨guarded, .refl _⟩ reached
  rintro state event later ⟨kept, evolved⟩ stepped
  obtain ⟨keeps, moves⟩ := step_guarded kept stepped
  exact ⟨keeps, evolved.trans moves⟩

end SharedStore

end Opmux.Auth
