import OpmuxGateway.Construction.Auth.Provision

/-
This file gives the authentication service of the gateway.
-/

namespace Opmux.Auth

inductive AuthError where
  | invalidCredentials
  | capabilityDenied
  | invalidInput (message : String)
  | keyNotFound
  | storeUnavailable
  | deadlineExceeded
  deriving DecidableEq, Repr

inductive AuthenticateError where
  | invalidCredentials
  | storeUnavailable
  | deadlineExceeded
  deriving DecidableEq, Repr

def limitMessage : String := "limit must be between 1 and 100"

namespace AuthError

def fromAuthenticate : AuthenticateError → AuthError
  | .invalidCredentials => .invalidCredentials
  | .storeUnavailable => .storeUnavailable
  | .deadlineExceeded => .deadlineExceeded

def fromStore : AuthStoreError → AuthError
  | .invalidLimit => .invalidInput limitMessage
  | _ => .storeUnavailable

def fromProvision : ProvisionError → AuthError
  | .invalidName => .invalidInput "name must be 1 to 128 characters"
  | _ => .storeUnavailable

end AuthError

/-- This value is `i64::MIN`. -/
def i64Min : Int := -9223372036854775808

/-- This value is `i64::MAX`. -/
def i64Max : Int := 9223372036854775807

/-- This operation is `i64::checked_add`. -/
def checkedAddI64 (first second : Int) : Option Int :=
  if i64Min ≤ first + second ∧ first + second ≤ i64Max then some (first + second) else none

namespace AuthService

def requireManagement (actor : AuthContext) : Except AuthError Unit :=
  if actor.kind ≠ .management then .error .capabilityDenied else .ok ()

/-- A store error is mapped and leaves the service. -/
def serviceStore (request : StoreRequest) : ExceptT AuthError AuthProgram request.Value := do
  match ← callStore request with
  | .ok value => pure value
  | .error error => throw (.fromStore error)

def createKey (hashCredential : String → KeyDigest) (actor : AuthContext) (name : String)
    (kind : ApiKeyKind) : ExceptT AuthError AuthProgram IssuedKey := do
  ExceptT.mk (pure (requireManagement actor))
  match ← (ProvisioningService.issueKey hashCredential actor.clientId kind name).run with
  | .ok issued => pure issued
  | .error error => throw (.fromProvision error)

/-- Only a full page looks for a key after it. -/
def hasMore (actor : AuthContext) (options : KeyListOptions) (records : List ApiKeyRecord) :
    ExceptT AuthError AuthProgram Bool :=
  if (records.length : Int) = options.limit then
    match checkedAddI64 options.offset options.limit with
    | some nextOffset => do
        let peek ← serviceStore (.listKeysForClient actor.clientId 1 nextOffset options.kind)
        pure (!peek.isEmpty)
    | none => pure false
  else pure false

/-- The page and its look ahead are two queries, and the store may change between them. -/
def listKeys (actor : AuthContext) (options : KeyListOptions) :
    ExceptT AuthError AuthProgram KeyInventory := do
  ExceptT.mk (pure (requireManagement actor))
  if ¬(1 ≤ options.limit ∧ options.limit ≤ maxKeyListLimit) then
    throw (.invalidInput limitMessage)
  else if options.offset < 0 then
    throw (.invalidInput "offset must be greater than or equal to 0")
  else do
    let records ← serviceStore
      (.listKeysForClient actor.clientId options.limit options.offset options.kind)
    let more ← hasMore actor options records
    pure ⟨records.map ApiKeyMetadata.fromRecord, more⟩

def revokeKey (actor : AuthContext) (keyId : Uuid) : ExceptT AuthError AuthProgram Unit := do
  ExceptT.mk (pure (requireManagement actor))
  match ← serviceStore (.revokeKey actor.clientId keyId (← utcNow)) with
  | .revoked _ | .alreadyRevoked _ => pure ()
  | .notFound => throw .keyNotFound

def authenticate (hashCredential : String → KeyDigest) (presented : String) :
    ExceptT AuthenticateError AuthProgram AuthContext := do
  let digest := hashCredential presented
  match ← callStore (.authenticateDigest digest (← utcNow)) with
  | .error _ => throw .storeUnavailable
  | .ok none => throw .invalidCredentials
  | .ok (some record) =>
      if record.isRevoked then throw .invalidCredentials
      else pure ⟨record.clientId, record.id, record.kind⟩

end AuthService

end Opmux.Auth
