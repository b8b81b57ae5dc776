import OpmuxGateway.Construction.Auth.Store
import OpmuxGateway.Construction.Core.Text

/-
This file gives the generation of credentials and the provisioning of tenants and keys.
-/

namespace Opmux.Auth

/-- A service reads the wall clock and entropy, and it awaits the operations of the store. -/
inductive AuthRequest where
  | utcNow
  | newUuid
  | fillBytes (count : Nat)
  | store (request : StoreRequest)

/-- An awaited store operation is missing when the service is dropped during the await. -/
abbrev AuthRequest.Reply : AuthRequest → Type
  | .utcNow => Timestamp
  | .newUuid => Uuid
  | .fillBytes count => Option (Vector UInt8 count)
  | .store request => Option (Except AuthStoreError request.Value)

abbrev AuthProgram := Program AuthRequest AuthRequest.Reply

def utcNow : AuthProgram Timestamp := Program.request AuthRequest.utcNow

def newUuid : AuthProgram Uuid := Program.request AuthRequest.newUuid

def callStore (request : StoreRequest) : AuthProgram (Except AuthStoreError request.Value) := do
  match ← (Program.request (AuthRequest.store request) : AuthProgram _) with
  | some answer => pure answer
  | none => Program.halt

/-- This value is `CREDENTIAL_PREFIX`. -/
def credentialPrefix : String := "opmx_v1_"

/-- This value is `SECRET_PAYLOAD_LEN`. -/
def secretPayloadLen : Nat := 32

/-- This value is `DISPLAY_ID_RANDOM_LEN`. -/
def displayIdRandomLen : Nat := 16

/-- This value is `INITIAL_MANAGEMENT_KEY_NAME`. -/
def initialManagementKeyName : String := "initial-management"

/-- The URL-safe base64 alphabet orders upper case, lower case, digits, and two signs. -/
def base64Char (value : Nat) : Char :=
  if value < 26 then Char.ofNat (65 + value)
  else if value < 52 then Char.ofNat (71 + value)
  else if value < 62 then Char.ofNat (value - 4)
  else if value = 62 then '-'
  else '_'

/-- Three bytes are four characters, and a shorter last group has no padding. -/
def base64Chars : List UInt8 → List Char
  | first :: second :: third :: rest =>
      let value := first.toNat * 65536 + second.toNat * 256 + third.toNat
      base64Char (value / 262144) :: base64Char (value / 4096 % 64) ::
        base64Char (value / 64 % 64) :: base64Char (value % 64) :: base64Chars rest
  | [first, second] =>
      let value := first.toNat * 1024 + second.toNat * 4
      [base64Char (value / 4096), base64Char (value / 64 % 64), base64Char (value % 64)]
  | [first] => [base64Char (first.toNat / 4), base64Char (first.toNat % 4 * 16)]
  | [] => []

/-- This operation is the encoding of `URL_SAFE_NO_PAD`. -/
def base64UrlSafeNoPad (bytes : List UInt8) : String := String.ofList (base64Chars bytes)

structure GeneratedCredential where
  credential : String
  digest : KeyDigest
  displayId : String

inductive ProvisionError where
  | invalidName
  | unknownClient
  | entropyUnavailable
  | storeUnavailable
  | duplicateClient
  | duplicateDigest
  | duplicateDisplayId
  | checkViolation
  | permissionDenied
  | conflict
  deriving DecidableEq, Repr

def ProvisionError.fromStore : AuthStoreError → ProvisionError
  | .unavailable | .invalidLimit => .storeUnavailable
  | .duplicateClient => .duplicateClient
  | .duplicateDigest => .duplicateDigest
  | .duplicateDisplayId => .duplicateDisplayId
  | .unknownClient => .unknownClient
  | .checkViolation => .checkViolation
  | .permissionDenied => .permissionDenied
  | .conflict | .invalidDigestLength => .conflict

structure IssuedKey where
  clientId : Uuid
  keyId : Uuid
  displayId : String
  name : String
  kind : String
  createdAt : Timestamp
  credential : String
  deriving DecidableEq, Repr

def IssuedKey.fromRecord (record : ApiKeyRecord) (credential : String) : IssuedKey :=
  ⟨record.clientId, record.id, record.displayId, record.name, record.kind.asStr,
    record.createdAt, credential⟩

structure CreatedTenant where
  displayName : String
  key : IssuedKey
  deriving DecidableEq, Repr

/-- A name has between 1 and 128 characters after its trim. -/
def validateName (raw : String) : Except ProvisionError String :=
  let name := trim raw
  if 1 ≤ name.length ∧ name.length ≤ 128 then .ok name else .error .invalidName

section Provisioning

-- The digest of a credential is SHA-256 of its bytes.
variable (hashCredential : String → KeyDigest)

def assembleCredential (payload displayRandom : List UInt8) : GeneratedCredential :=
  let credential := credentialPrefix ++ base64UrlSafeNoPad payload
  ⟨credential, hashCredential credential, "opk_" ++ base64UrlSafeNoPad displayRandom⟩

def fillBytes (count : Nat) : ExceptT ProvisionError AuthProgram (Vector UInt8 count) := do
  match ← (Program.request (AuthRequest.fillBytes count) : AuthProgram _) with
  | some bytes => pure bytes
  | none => throw .entropyUnavailable

def generateCredential : ExceptT ProvisionError AuthProgram GeneratedCredential := do
  let payload ← fillBytes secretPayloadLen
  let displayRandom ← fillBytes displayIdRandomLen
  pure (assembleCredential hashCredential payload.toList displayRandom.toList)

/-- A store error is mapped and leaves the provisioning. -/
def provisionStore (request : StoreRequest) :
    ExceptT ProvisionError AuthProgram request.Value := do
  match ← callStore request with
  | .ok value => pure value
  | .error error => throw (.fromStore error)

namespace ProvisioningService

def createTenant (displayName : String) : ExceptT ProvisionError AuthProgram CreatedTenant := do
  let displayName ← ExceptT.mk (pure (validateName displayName))
  let generated ← generateCredential hashCredential
  let createdAt ← utcNow
  let client : NewClient := ⟨← newUuid, displayName, createdAt⟩
  let key : NewApiKey := ⟨← newUuid, client.id, generated.digest, generated.displayId,
    initialManagementKeyName, .management, createdAt⟩
  let (clientRecord, keyRecord) ← provisionStore (.provisionClientWithKey client key)
  pure ⟨clientRecord.displayName, .fromRecord keyRecord generated.credential⟩

def issueKey (clientId : Uuid) (kind : ApiKeyKind) (name : String) :
    ExceptT ProvisionError AuthProgram IssuedKey := do
  let name ← ExceptT.mk (pure (validateName name))
  let generated ← generateCredential hashCredential
  let key : NewApiKey := ⟨← newUuid, clientId, generated.digest, generated.displayId, name,
    kind, ← utcNow⟩
  let record ← provisionStore (.insertKey key)
  pure (.fromRecord record generated.credential)

end ProvisioningService

end Provisioning

end Opmux.Auth
