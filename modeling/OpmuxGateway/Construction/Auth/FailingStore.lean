import OpmuxGateway.Construction.Auth.Replica

/-
This file gives the provisioning attempts over a database whose statements can fail.
-/

namespace Opmux.Auth

/-- A failing statement is rejected without an effect, or its transaction is dropped there. -/
inductive Fault where
  | served
  | rejected (error : SqlxError)
  | dropped (applied : Bool)

/-- The statements of a failing session meet its faults in order, and the rest are served. -/
structure FailingSession where
  session : Session
  faults : List Fault

def FailingSession.answer (failing : FailingSession) (statement : Statement) :
    statement.Answer × FailingSession :=
  let (answer, session) := failing.session.answer statement
  match failing.faults.headD .served with
  | .served => (answer, ⟨session, failing.faults.tail⟩)
  | .rejected error => (some (.error error), ⟨failing.session, failing.faults.tail⟩)
  | .dropped applied =>
      (none, ⟨if applied then session else failing.session, failing.faults.tail⟩)

/-- A transaction leaves its result and the database that it committed. -/
def Transaction.performUnder {Value : Type} (transaction : Transaction Value)
    (faults : List Fault) (database : AuthDatabase) :
    Option (Except AuthStoreError Value) × AuthDatabase :=
  let (outcome, failing) :=
    Program.serve FailingSession.answer ⟨⟨database, none⟩, faults⟩ transaction.run
  (outcome, failing.session.committed)

/-- The transactions of a replica meet the given faults. -/
def Replica.answerUnder (faults : List Fault) (replica : Replica) :
    (request : AuthRequest) → request.Reply × Replica
  | .store request =>
      let (answer, database) := request.transaction.performUnder faults replica.database
      (answer, { replica with database := database })
  | .utcNow => replica.answer .utcNow
  | .newUuid => replica.answer .newUuid
  | .fillBytes count => replica.answer (.fillBytes count)

def AuthProgram.runUnder {Value : Type} (program : AuthProgram Value) (faults : List Fault)
    (database : AuthDatabase) (readings : Readings) : Option Value × AuthDatabase :=
  let (outcome, replica) := program.serve (Replica.answerUnder faults) ⟨database, readings⟩
  (outcome, replica.database)

/-- The attempts of the operator tool and of the gateway to add data. -/
inductive Provisioning where
  | createTenant (displayName : String)
  | issueKey (clientId : Uuid) (kind : ApiKeyKind) (name : String)
  | createKey (actor : AuthContext) (name : String) (kind : ApiKeyKind)

/-- An attempt answers whether it succeeded, unless it is dropped. -/
def Provisioning.attempt (hashCredential : String → KeyDigest) (faults : List Fault)
    (readings : Readings) (database : AuthDatabase) (provisioning : Provisioning) :
    Option Bool × AuthDatabase :=
  match provisioning with
  | .createTenant displayName =>
      let (outcome, later) := AuthProgram.runUnder
        (ProvisioningService.createTenant hashCredential displayName).run faults database readings
      (outcome.map Except.isOk, later)
  | .issueKey clientId kind name =>
      let (outcome, later) := AuthProgram.runUnder
        (ProvisioningService.issueKey hashCredential clientId kind name).run faults database
        readings
      (outcome.map Except.isOk, later)
  | .createKey actor name kind =>
      let (outcome, later) := AuthProgram.runUnder
        (AuthService.createKey hashCredential actor name kind).run faults database readings
      (outcome.map Except.isOk, later)

end Opmux.Auth
