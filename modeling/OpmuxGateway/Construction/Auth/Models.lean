import Mathlib

/-
This file gives the persisted authentication records and the errors of their store.
-/

namespace Opmux.Auth

/-- A UUID is one number of 128 bits, and the database orders it by that number. -/
abbrev Uuid := Fin (2 ^ 128)

instance uuidNeZero : NeZero (2 ^ 128) := ⟨by norm_num⟩

/-- A timestamp counts microseconds from the Unix epoch, as its column stores it. The driver drops
the nanoseconds of a clock reading when it binds the reading, and this is the bound value. -/
abbrev Timestamp := Nat

/-- This value is `KEY_DIGEST_LEN`. -/
def keyDigestLen : Nat := 32

/-- This value is `MAX_KEY_LIST_LIMIT`. -/
def maxKeyListLimit : Int := 100

inductive AuthStoreError where
  | unavailable
  | duplicateClient
  | duplicateDigest
  | duplicateDisplayId
  | unknownClient
  | checkViolation
  | permissionDenied
  | invalidLimit
  | invalidDigestLength
  | conflict
  deriving DecidableEq, Repr

/-- A database error carries its SQLSTATE code and the name of its constraint. -/
structure DatabaseError where
  code : String
  constraint : Option String
  deriving DecidableEq, Repr

/-- Every other driver error is one value, because its mapping does not read it. -/
inductive SqlxError where
  | database (error : DatabaseError)
  | other
  deriving DecidableEq, Repr

/-- This operation is `AuthStoreError::from_sqlx`. -/
def AuthStoreError.fromSqlx : SqlxError → AuthStoreError
  | .database error =>
      if error.code = "23505" then
        if error.constraint = some "clients_pkey" then .duplicateClient
        else if error.constraint = some "api_keys_key_digest_key" then .duplicateDigest
        else if error.constraint = some "api_keys_display_id_key" then .duplicateDisplayId
        else .conflict
      else if error.code = "23503" then .unknownClient
      else if error.code = "23514" ∨ error.code = "23000" ∨ error.code = "P0001" then
        .checkViolation
      else if error.code = "42501" then .permissionDenied
      else .unavailable
  | .other => .unavailable

inductive ApiKeyKind where
  | management
  | inference
  deriving DecidableEq, Repr

namespace ApiKeyKind

def asStr : ApiKeyKind → String
  | .management => "management"
  | .inference => "inference"

/-- An unexpected kind is a decoding error of the driver. -/
def parse (raw : String) : Except SqlxError ApiKeyKind :=
  if raw = "management" then .ok .management
  else if raw = "inference" then .ok .inference
  else .error .other

end ApiKeyKind

/-- A digest always has the fixed length. -/
structure KeyDigest where
  bytes : List UInt8
  length_eq : bytes.length = keyDigestLen
  deriving DecidableEq

def KeyDigest.fromSlice (bytes : List UInt8) : Except AuthStoreError KeyDigest :=
  if length : bytes.length = keyDigestLen then .ok ⟨bytes, length⟩
  else .error .invalidDigestLength

structure NewClient where
  id : Uuid
  displayName : String
  createdAt : Timestamp
  deriving DecidableEq, Repr

structure NewApiKey where
  id : Uuid
  clientId : Uuid
  digest : KeyDigest
  displayId : String
  name : String
  kind : ApiKeyKind
  createdAt : Timestamp
  deriving DecidableEq

structure ClientRecord where
  id : Uuid
  displayName : String
  createdAt : Timestamp
  deriving DecidableEq, Repr

structure ApiKeyRecord where
  id : Uuid
  clientId : Uuid
  digest : KeyDigest
  displayId : String
  name : String
  kind : ApiKeyKind
  createdAt : Timestamp
  lastUsedAt : Option Timestamp
  revokedAt : Option Timestamp
  deriving DecidableEq

def ApiKeyRecord.isRevoked (record : ApiKeyRecord) : Bool := record.revokedAt.isSome

inductive RevokeOutcome where
  | revoked (record : ApiKeyRecord)
  | alreadyRevoked (record : ApiKeyRecord)
  | notFound
  deriving DecidableEq

/-- The identity of an authenticated request comes from the stored row. -/
structure AuthContext where
  clientId : Uuid
  keyId : Uuid
  kind : ApiKeyKind
  deriving DecidableEq, Repr

structure ApiKeyMetadata where
  clientId : Uuid
  keyId : Uuid
  displayId : String
  name : String
  kind : String
  createdAt : Timestamp
  lastUsedAt : Option Timestamp
  revokedAt : Option Timestamp
  deriving DecidableEq, Repr

/-- Public metadata omits the digest. -/
def ApiKeyMetadata.fromRecord (record : ApiKeyRecord) : ApiKeyMetadata :=
  ⟨record.clientId, record.id, record.displayId, record.name, record.kind.asStr,
    record.createdAt, record.lastUsedAt, record.revokedAt⟩

/-- The limit and the offset are `i64` values. -/
structure KeyListOptions where
  limit : Int
  offset : Int
  kind : Option ApiKeyKind
  deriving DecidableEq, Repr

structure KeyInventory where
  keys : List ApiKeyMetadata
  hasMore : Bool
  deriving DecidableEq, Repr

end Opmux.Auth
