import OpmuxGateway.Construction.Auth.Models

/-
This file gives the tables of the migration with their constraints and the statements on them.
-/

namespace Opmux.Auth

structure ClientRow where
  id : Uuid
  displayName : String
  createdAt : Timestamp
  deriving DecidableEq, Repr

structure ApiKeyRow where
  id : Uuid
  clientId : Uuid
  keyDigest : List UInt8
  displayId : String
  name : String
  kind : String
  createdAt : Timestamp
  lastUsedAt : Option Timestamp
  revokedAt : Option Timestamp
  deriving DecidableEq, Repr

/-- A text column holds every character except U+0000. -/
def isText (value : String) : Bool := value.toList.all (· ≠ Char.ofNat 0)

/-- This constraint is `clients_display_name_len`. -/
def ClientRow.accepted (row : ClientRow) : Bool :=
  1 ≤ row.displayName.length && row.displayName.length ≤ 128

/-- The display identifier uses the characters of the pattern `^[A-Za-z0-9_-]+$`. -/
def isDisplayChar (c : Char) : Bool := c.isAlphanum || c = '_' || c = '-'

namespace ApiKeyRow

/-- The check constraints of the key table in the order of their names. -/
def checks : List (String × (ApiKeyRow → Bool)) :=
  [("api_keys_digest_len", fun row => row.keyDigest.length = 32),
    ("api_keys_display_id_format", fun row =>
      row.displayId ≠ "" && row.displayId.toList.all isDisplayChar),
    ("api_keys_display_id_len", fun row =>
      8 ≤ row.displayId.length && row.displayId.length ≤ 64),
    ("api_keys_kind_known", fun row => row.kind = "management" || row.kind = "inference"),
    ("api_keys_last_used_order", fun row => row.lastUsedAt.all (row.createdAt ≤ ·)),
    ("api_keys_name_len", fun row => 1 ≤ row.name.length && row.name.length ≤ 128),
    ("api_keys_revoked_order", fun row => row.revokedAt.all (row.createdAt ≤ ·))]

def accepted (row : ApiKeyRow) : Bool := checks.all fun check => check.2 row

/-- The first rejecting constraint names the error. -/
def checkViolation (row : ApiKeyRow) : DatabaseError :=
  ⟨"23514", (checks.find? fun check => !check.2 row).map (·.1)⟩

/-- These columns are immutable by the trigger `api_keys_identity_immutable`. -/
def identity (row : ApiKeyRow) : Uuid × Uuid × List UInt8 × String × String :=
  (row.id, row.clientId, row.keyDigest, row.kind, row.displayId)

end ApiKeyRow

/-- The database keeps every constraint of the schema. -/
@[ext] structure AuthDatabase where
  clients : List ClientRow
  apiKeys : List ApiKeyRow
  clientsPkey : (clients.map ClientRow.id).Nodup
  clientsAccepted : ∀ row ∈ clients, row.accepted
  apiKeysPkey : (apiKeys.map ApiKeyRow.id).Nodup
  keyDigestKey : (apiKeys.map ApiKeyRow.keyDigest).Nodup
  displayIdKey : (apiKeys.map ApiKeyRow.displayId).Nodup
  clientFk : ∀ row ∈ apiKeys, row.clientId ∈ clients.map ClientRow.id
  apiKeysAccepted : ∀ row ∈ apiKeys, row.accepted

/-- The lookup of the revoked key reads one row by its owner and its identifier. -/
def ApiKeyRow.owned (keyId clientId : Uuid) (row : ApiKeyRow) : Bool :=
  row.id = keyId && row.clientId = clientId

namespace AuthDatabase

/-- The migration creates both tables empty. -/
def empty : AuthDatabase :=
  ⟨[], [], List.nodup_nil, by simp, List.nodup_nil, List.nodup_nil, List.nodup_nil, by simp,
    by simp⟩

theorem nodup_concat {Row Key : Type} {key : Row → Key} {rows : List Row} {row : Row}
    (unique : (rows.map key).Nodup) (fresh : key row ∉ rows.map key) :
    ((rows ++ [row]).map key).Nodup := by
  rw [List.map_append, List.nodup_append]
  refine ⟨unique, by simp, ?_⟩
  intro first firstMember second secondMember same
  rw [List.map_singleton, List.mem_singleton] at secondMember
  exact fresh (secondMember ▸ same ▸ firstMember)

/-- A new client row meets its domain, its check, and its primary key in this order. -/
def insertClient (database : AuthDatabase) (row : ClientRow) :
    Except DatabaseError AuthDatabase :=
  if isText row.displayName then
    if checked : row.accepted then
      if fresh : row.id ∉ database.clients.map ClientRow.id then
        .ok { database with
          clients := database.clients ++ [row]
          clientsPkey := nodup_concat database.clientsPkey fresh
          clientsAccepted := by
            simpa [or_imp, forall_and, checked] using database.clientsAccepted
          clientFk := fun key member => by
            rw [List.map_append]
            exact List.mem_append_left _ (database.clientFk key member) }
      else .error ⟨"23505", some "clients_pkey"⟩
    else .error ⟨"23514", some "clients_display_name_len"⟩
  else .error ⟨"22021", none⟩

/-- A new key row meets its domains, its checks, its unique indexes, and its foreign key. -/
def insertKey (database : AuthDatabase) (row : ApiKeyRow) : Except DatabaseError AuthDatabase :=
  if isText row.displayId && isText row.name then
    if checked : row.accepted then
      if freshId : row.id ∉ database.apiKeys.map ApiKeyRow.id then
        if freshDigest : row.keyDigest ∉ database.apiKeys.map ApiKeyRow.keyDigest then
          if freshDisplay : row.displayId ∉ database.apiKeys.map ApiKeyRow.displayId then
            if known : row.clientId ∈ database.clients.map ClientRow.id then
              .ok { database with
                apiKeys := database.apiKeys ++ [row]
                apiKeysPkey := nodup_concat database.apiKeysPkey freshId
                keyDigestKey := nodup_concat database.keyDigestKey freshDigest
                displayIdKey := nodup_concat database.displayIdKey freshDisplay
                clientFk := by
                  simpa [or_imp, forall_and, known] using
                    And.intro database.clientFk (by simpa using known)
                apiKeysAccepted := by
                  simpa [or_imp, forall_and, checked] using database.apiKeysAccepted }
            else .error ⟨"23503", some "api_keys_client_fk"⟩
          else .error ⟨"23505", some "api_keys_display_id_key"⟩
        else .error ⟨"23505", some "api_keys_key_digest_key"⟩
      else .error ⟨"23505", some "api_keys_pkey"⟩
    else .error row.checkViolation
  else .error ⟨"22021", none⟩

/-- An update writes its assignment to each matching row. -/
def rewriteRow (matching : ApiKeyRow → Bool) (assign : ApiKeyRow → ApiKeyRow)
    (row : ApiKeyRow) : ApiKeyRow :=
  if matching row then assign row else row

/-- An update of the key table fires the identity trigger and then the checks. -/
def updateKeys (database : AuthDatabase) (matching : ApiKeyRow → Bool)
    (assign : ApiKeyRow → ApiKeyRow) : Except DatabaseError (List ApiKeyRow × AuthDatabase) :=
  let rows := database.apiKeys
  let written := rows.map (rewriteRow matching assign)
  if immutable : written.map ApiKeyRow.identity = rows.map ApiKeyRow.identity then
    match rejected : written.find? fun row => !row.accepted with
    | some row => .error row.checkViolation
    | none =>
        have kept {Key : Type} (key : Uuid × Uuid × List UInt8 × String × String → Key) :
            written.map (key ∘ ApiKeyRow.identity) = rows.map (key ∘ ApiKeyRow.identity) := by
          rw [← List.map_map, immutable, List.map_map]
        .ok ((rows.filter matching).map assign, { database with
          apiKeys := written
          apiKeysPkey := by
            have same := kept fun columns => columns.1
            exact same ▸ database.apiKeysPkey
          keyDigestKey := by
            have same := kept fun columns => columns.2.2.1
            exact same ▸ database.keyDigestKey
          displayIdKey := by
            have same := kept fun columns => columns.2.2.2.2
            exact same ▸ database.displayIdKey
          clientFk := by
            intro row member
            have same := kept fun columns => columns.2.1
            have owner : row.clientId ∈ rows.map ApiKeyRow.clientId :=
              same ▸ List.mem_map_of_mem member
            obtain ⟨before, present, equal⟩ := List.mem_map.mp owner
            exact equal ▸ database.clientFk before present
          apiKeysAccepted := by
            intro row member
            simpa using List.find?_eq_none.mp rejected row member })
  else .error ⟨"23000", none⟩

/-- A lookup by the digest is global, and the digest is unique. -/
def findByDigest (database : AuthDatabase) (digest : KeyDigest) : Option ApiKeyRow :=
  database.apiKeys.find? fun row => row.keyDigest = digest.bytes

def findOwned (database : AuthDatabase) (keyId clientId : Uuid) : Option ApiKeyRow :=
  database.apiKeys.find? (ApiKeyRow.owned keyId clientId)

/-- Only a newer use of an active key of its owner is recorded. -/
def usable (keyId clientId : Uuid) (usedAt : Timestamp) (row : ApiKeyRow) : Bool :=
  row.owned keyId clientId && row.revokedAt.isNone && row.lastUsedAt.all (· < usedAt)

def touch (database : AuthDatabase) (keyId clientId : Uuid) (usedAt : Timestamp) :
    Except DatabaseError (List ApiKeyRow × AuthDatabase) :=
  database.updateKeys (usable keyId clientId usedAt) fun row =>
    { row with lastUsedAt := some usedAt }

/-- Only an active key of its owner is revoked. -/
def revocable (keyId clientId : Uuid) (row : ApiKeyRow) : Bool :=
  row.owned keyId clientId && row.revokedAt.isNone

def revoke (database : AuthDatabase) (keyId clientId : Uuid) (revokedAt : Timestamp) :
    Except DatabaseError (List ApiKeyRow × AuthDatabase) :=
  database.updateKeys (revocable keyId clientId) fun row =>
    { row with revokedAt := some revokedAt }

/-- The inventory is ordered by `created_at DESC, id DESC`. -/
def newestFirst (first second : ApiKeyRow) : Prop :=
  second.createdAt < first.createdAt ∨
    (second.createdAt = first.createdAt ∧ second.id ≤ first.id)

instance : DecidableRel newestFirst := fun _ _ => instDecidableOr

/-- A filter without a kind keeps both kinds. -/
def listed (clientId : Uuid) (kind : Option String) (row : ApiKeyRow) : Bool :=
  row.clientId = clientId && kind.all (row.kind = ·)

/-- The whole inventory of one tenant and one filter in its order. -/
def inventory (database : AuthDatabase) (clientId : Uuid) (kind : Option String) :
    List ApiKeyRow :=
  (database.apiKeys.filter (listed clientId kind)).insertionSort newestFirst

/-- One page of the inventory is its `LIMIT` after its `OFFSET`. -/
def page (database : AuthDatabase) (clientId : Uuid) (limit offset : Int)
    (kind : Option String) : List ApiKeyRow :=
  ((database.inventory clientId kind).drop offset.toNat).take limit.toNat

end AuthDatabase

end Opmux.Auth
