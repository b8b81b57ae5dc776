import OpmuxGateway.Construction.Auth.Service

/-
This file gives the operations of the replicas on their shared database.
-/

namespace Opmux.Auth

/-- A process reads its own clock, its own identifiers, and its own entropy. -/
structure Readings where
  clock : List Timestamp
  uuids : List Uuid
  entropy : List ((count : Nat) → Option (Vector UInt8 count))

/-- A replica is one process beside the shared database. -/
structure Replica where
  database : AuthDatabase
  readings : Readings

/-- Nothing else touches the database during an operation that a replica runs alone. -/
def Replica.answer (replica : Replica) : (request : AuthRequest) → request.Reply × Replica
  | .utcNow =>
      (replica.readings.clock.headD 0,
        { replica with readings.clock := replica.readings.clock.tail })
  | .newUuid =>
      (replica.readings.uuids.headD 0,
        { replica with readings.uuids := replica.readings.uuids.tail })
  | .fillBytes count =>
      (replica.readings.entropy.head?.bind fun fill => fill count,
        { replica with readings.entropy := replica.readings.entropy.tail })
  | .store request =>
      ((request.transaction.perform replica.database).1,
        { replica with database := (request.transaction.perform replica.database).2 })

/-- A replica that runs an operation leaves its result and the shared database. -/
def AuthProgram.runOn {Value : Type} (program : AuthProgram Value) (database : AuthDatabase)
    (readings : Readings) : Option Value × AuthDatabase :=
  let (outcome, replica) := program.serve Replica.answer ⟨database, readings⟩
  (outcome, replica.database)

/-- The operations of the gateway replicas, of the operator tool, and of the store itself. -/
inductive Operation where
  | createTenant (displayName : String) (readings : Readings)
  | issueKey (clientId : Uuid) (kind : ApiKeyKind) (name : String) (readings : Readings)
  | createKey (actor : AuthContext) (name : String) (kind : ApiKeyKind) (readings : Readings)
  | listKeys (actor : AuthContext) (options : KeyListOptions)
  | revokeKey (actor : AuthContext) (keyId : Uuid) (now : Timestamp)
  | authenticate (presented : String) (now : Timestamp)
  | store (request : StoreRequest)

/-- An operation that only reads its clock once. -/
def Readings.at (now : Timestamp) : Readings := ⟨[now], [], []⟩

/-- The database after one operation. -/
def Operation.apply (hashCredential : String → KeyDigest) (database : AuthDatabase) :
    Operation → AuthDatabase
  | .createTenant displayName readings =>
      (AuthProgram.runOn (ProvisioningService.createTenant hashCredential displayName).run database
        readings).2
  | .issueKey clientId kind name readings =>
      (AuthProgram.runOn (ProvisioningService.issueKey hashCredential clientId kind name).run
        database readings).2
  | .createKey actor name kind readings =>
      (AuthProgram.runOn (AuthService.createKey hashCredential actor name kind).run database
        readings).2
  | .listKeys actor options =>
      (AuthProgram.runOn (AuthService.listKeys actor options).run database (.at 0)).2
  | .revokeKey actor keyId now =>
      (AuthProgram.runOn (AuthService.revokeKey actor keyId).run database (.at now)).2
  | .authenticate presented now =>
      (AuthProgram.runOn (AuthService.authenticate hashCredential presented).run database
        (.at now)).2
  | .store request => (request.transaction.perform database).2

end Opmux.Auth
