import OpmuxGateway.Construction.Auth.Store
import OpmuxGateway.Library.EventSystem

/-
This file gives the transactions of many tasks on one Postgres server, statement by statement.
The server follows its documented read committed isolation. A statement sees the committed rows
and the writes of its own transaction, and a transaction keeps its row locks until it ends.
-/

namespace Opmux.Auth

/-- A transaction writes new rows and new versions of stored keys. -/
inductive Write where
  | client (row : ClientRow)
  | key (row : ApiKeyRow)
  | version (row : ApiKeyRow)

/-- A version replaces the stored row of its identifier. -/
def Write.apply (database : AuthDatabase) : Write → Except DatabaseError AuthDatabase
  | .client row => database.insertClient row
  | .key row => database.insertKey row
  | .version row => Prod.snd <$> database.updateKeys (fun stored => stored.id = row.id) fun _ => row

def Write.keyRow : Write → Option ApiKeyRow
  | .client _ => none
  | .key row | .version row => some row

/-- A transaction sees its writes after the committed rows. -/
def AuthDatabase.applyAll (database : AuthDatabase) (writes : List Write) :
    Except DatabaseError AuthDatabase :=
  writes.foldlM Write.apply database

/-- Rows and entries of unique indexes are owned by one transaction at a time. -/
inductive Resource where
  | row (id : Uuid)
  | client (id : Uuid)
  | digest (bytes : List UInt8)
  | displayId (text : String)
  deriving DecidableEq

/-- A statement returns rows, writes rows, and needs resources. -/
structure Effect (Rows : Type) where
  rows : Rows
  writes : List Write
  resources : List Resource

/-- An update owns each row that it writes. -/
def Effect.ofUpdate {Rows : Type} (rows : Rows) (written : List ApiKeyRow) : Effect Rows :=
  ⟨rows, written.map .version, written.map fun row => .row row.id⟩

/-- The effect of a statement on the database that its transaction sees. -/
def Statement.evaluate (database : AuthDatabase) :
    (statement : Statement) → Except DatabaseError (Effect statement.Rows)
  | .acquire | .begin | .commit | .rollback => .ok ⟨(), [], []⟩
  | .insertClient client => do
      let _ ← database.insertClient client.toRow
      pure ⟨client.toRow, [.client client.toRow], [.client client.id]⟩
  | .insertKey key => do
      let _ ← database.insertKey key.toRow
      pure ⟨key.toRow, [.key key.toRow],
        [.row key.id, .digest key.digest.bytes, .displayId key.displayId]⟩
  | .findByDigest digest => .ok ⟨database.findByDigest digest, [], []⟩
  | .lockByDigest digest =>
      .ok ⟨database.findByDigest digest, [],
        (database.findByDigest digest).toList.map fun row => .row row.id⟩
  | .touch keyId clientId usedAt => do
      let (rows, _) ← database.touch keyId clientId usedAt
      pure (.ofUpdate (rows.head?.map ApiKeyRow.lastUsedAt) rows)
  | .revoke keyId clientId revokedAt => do
      let (rows, _) ← database.revoke keyId clientId revokedAt
      pure (.ofUpdate rows.head? rows)
  | .findOwned keyId clientId => .ok ⟨database.findOwned keyId clientId, [], []⟩
  | .page clientId limit offset kind => .ok ⟨database.page clientId limit offset kind, [], []⟩

/-- A working connection keeps its writes and the committed versions of the rows it has locked. -/
inductive Connection where
  | idle
  | working (writes : List Write) (held : List ApiKeyRow)
  | aborted

/-- The server's side of one statement is its reply and the states after it. -/
structure Service (statement : Statement) where
  reply : Except SqlxError statement.Rows
  connection : Connection
  committed : AuthDatabase
  resources : List Resource

namespace Connection

/-- A failed statement aborts its transaction, and a failed end still ends it. -/
def failed (statement : Statement) : Connection → Connection
  | .idle => .idle
  | .working _ _ | .aborted =>
      match statement with
      | .commit | .rollback => .idle
      | _ => .aborted

def fail (committed : AuthDatabase) (connection : Connection) (statement : Statement)
    (error : DatabaseError) : Service statement :=
  ⟨.error (.database error), connection.failed statement, committed, []⟩

/-- An aborted transaction refuses every statement before its end with this error. -/
def inFailedTransaction : DatabaseError := ⟨"25P02", none⟩

/-- The end of a transaction commits its writes together. -/
def commit (committed : AuthDatabase) : Connection → Service .commit
  | .working writes held =>
      match committed.applyAll writes with
      | .ok next => ⟨.ok (), .idle, next, []⟩
      | .error error => (working writes held).fail committed .commit error
  | .idle | .aborted => ⟨.ok (), .idle, committed, []⟩

/-- A statement outside a transaction commits its own writes. -/
def query (committed : AuthDatabase) (connection : Connection) (statement : Statement) :
    Service statement :=
  match connection with
  | .aborted => connection.fail committed statement inFailedTransaction
  | .idle =>
      match statement.evaluate committed with
      | .error error => connection.fail committed statement error
      | .ok effect =>
          match committed.applyAll effect.writes with
          | .error error => connection.fail committed statement error
          | .ok next => ⟨.ok effect.rows, .idle, next, effect.resources⟩
  | .working writes held =>
      match committed.applyAll writes with
      | .error error => connection.fail committed statement error
      | .ok visible =>
          match statement.evaluate visible with
          | .error error => connection.fail committed statement error
          | .ok effect =>
              let locked := committed.apiKeys.filter fun row => .row row.id ∈ effect.resources
              ⟨.ok effect.rows, .working (writes ++ effect.writes) (locked ++ held), committed,
                effect.resources⟩

/-- A begin inside a transaction keeps it. -/
def start (committed : AuthDatabase) : Connection → Service .begin
  | .idle => ⟨.ok (), .working [] [], committed, []⟩
  | .working writes held => ⟨.ok (), .working writes held, committed, []⟩
  | .aborted => aborted.fail committed .begin inFailedTransaction

/-- A statement that the server answers. -/
def serve (committed : AuthDatabase) (connection : Connection) :
    (statement : Statement) → Service statement
  | .acquire => ⟨.ok (), connection, committed, []⟩
  | .begin => connection.start committed
  | .commit => connection.commit committed
  | .rollback => ⟨.ok (), .idle, committed, []⟩
  | statement => connection.query committed statement

end Connection

/-- An entry of a log also keeps the committed databases around its statement. -/
structure Around where
  before : AuthDatabase
  after : AuthDatabase

abbrev Entry := Exchange Statement Statement.Answer Around

/-- A task is one operation of the store in some process. -/
structure Task where
  request : StoreRequest
  rest : Program Statement Statement.Answer (Except AuthStoreError request.Value)
  connection : Connection
  log : List Entry

/-- The processes and the operator tool share one server. -/
structure SharedStore where
  committed : AuthDatabase
  owners : Resource → Option Nat
  tasks : Nat → Option Task

/-- A statement is answered, or its answer is lost whether the server has applied it or not. -/
inductive Delivery where
  | answered
  | failed (error : SqlxError) (applied : Bool)
  | dropped (applied : Bool)

inductive StoreEvent where
  | start (number : Nat) (request : StoreRequest)
  | exchange (number : Nat) (delivery : Delivery)

namespace Delivery

def applied : Delivery → Bool
  | .answered => true
  | .failed _ applied | .dropped applied => applied

def reply {statement : Statement} (delivery : Delivery) (service : Service statement) :
    statement.Answer :=
  match delivery with
  | .answered => some service.reply
  | .failed error _ => some (.error error)
  | .dropped _ => none

/-- A task that loses an answer also loses its transaction. -/
def connection {statement : Statement} (delivery : Delivery) (before : Connection)
    (service : Service statement) : Connection :=
  match delivery with
  | .answered => service.connection
  | .failed _ _ => before.failed statement
  | .dropped _ => .idle

def committed {statement : Statement} (delivery : Delivery) (before : AuthDatabase)
    (service : Service statement) : AuthDatabase :=
  if delivery.applied then service.committed else before

end Delivery

namespace SharedStore

/-- A statement waits while another task owns a resource that it needs. -/
def grants (store : SharedStore) (number : Nat) (resources : List Resource) : Bool :=
  resources.all fun resource => (store.owners resource).all (· = number)

/-- The end of a transaction releases everything that it owns. -/
def ownersAfter (store : SharedStore) (number : Nat) (connection : Connection)
    (resources : List Resource) (resource : Resource) : Option Nat :=
  match connection with
  | .working _ _ => if resource ∈ resources then some number else store.owners resource
  | .idle | .aborted =>
      if store.owners resource = some number then none else store.owners resource

/-- The server takes one statement of a task, and the task continues with its reply. -/
def exchange (store : SharedStore) (number : Nat) (task : Task) (statement : Statement)
    (next : statement.Answer → Program Statement Statement.Answer
      (Except AuthStoreError task.request.Value))
    (delivery : Delivery) : SharedStore :=
  let service := task.connection.serve store.committed statement
  let reply := delivery.reply service
  let connection := delivery.connection task.connection service
  let committed := delivery.committed store.committed service
  { committed := committed
    owners := store.ownersAfter number connection service.resources
    tasks := Function.update store.tasks number (some
      ⟨task.request, next reply, connection,
        task.log ++ [⟨statement, reply, ⟨store.committed, committed⟩⟩]⟩) }

def step (store : SharedStore) : StoreEvent → Option SharedStore
  | .start number request =>
      if (store.tasks number).isNone then
        some { store with
          tasks := Function.update store.tasks number
            (some ⟨request, request.transaction.run, .idle, []⟩) }
      else none
  | .exchange number delivery =>
      (store.tasks number).bind fun task =>
        match task.rest with
        | .ask statement next =>
            let service := task.connection.serve store.committed statement
            if delivery.applied && !store.grants number service.resources then none
            else some (store.exchange number task statement next delivery)
        | .pure _ | .halt => none

/-- The runs interleave the statements of any number of tasks. -/
def system : EventSystem SharedStore StoreEvent := ⟨step⟩

/-- A server starts with its committed rows and without tasks. -/
def fresh (database : AuthDatabase) : SharedStore := ⟨database, fun _ => none, fun _ => none⟩

end SharedStore

end Opmux.Auth
