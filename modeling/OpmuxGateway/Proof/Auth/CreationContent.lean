import OpmuxGateway.Construction.Auth.Handler
import OpmuxGateway.Proof.Auth.CredentialRoundTrip
import OpmuxGateway.Proof.Auth.StoreGrowth
import OpmuxGateway.Proof.Core.Text

/-
This file compares the validation of new keys and tenants with the schema of the database.
-/

namespace Opmux.Auth

/-- The row meets the domain and the checks of every column. -/
def ApiKeyRow.Admitted (row : ApiKeyRow) : Prop :=
  isText row.displayId ∧ isText row.name ∧ isText row.kind ∧ row.accepted

def ClientRow.Admitted (row : ClientRow) : Prop := isText row.displayName ∧ row.accepted

/-- The character U+0000. -/
def nul : Char := Char.ofNat 0

theorem isText_iff {value : String} : isText value ↔ nul ∉ value.toList := by
  rw [isText, List.all_eq_true]
  constructor
  · intro text member
    have different := text nul member
    simp [nul] at different
  · intro absent c member
    rw [decide_eq_true_eq]
    rintro rfl
    exact absent member

theorem validateName_eq_ok {raw name : String} :
    validateName raw = .ok name ↔ name = trim raw ∧ 1 ≤ name.length ∧ name.length ≤ 128 := by
  unfold validateName
  dsimp only
  split
  · rename_i sized
    rw [Except.ok.injEq]
    constructor
    · rintro rfl
      exact ⟨rfl, sized⟩
    · rintro ⟨rfl, -⟩
      rfl
  · rename_i sized
    simp only [reduceCtorEq, false_iff]
    rintro ⟨rfl, bounds⟩
    exact sized bounds

/-- A validated name is stored as text exactly when the given name has no U+0000. -/
theorem validated_isText {raw name : String} (validated : validateName raw = .ok name) :
    isText name ↔ nul ∉ raw.toList := by
  obtain ⟨rfl, -⟩ := validateName_eq_ok.mp validated
  rw [isText_iff, mem_trim (by decide)]

/-- A display identifier has 26 display characters. -/
theorem displayId_shown (displayRandom : Vector UInt8 displayIdRandomLen) :
    let displayId := "opk_" ++ base64UrlSafeNoPad displayRandom.toList
    displayId.length = 26 ∧ ∀ c ∈ displayId.toList, isDisplayChar c := by
  have characters : ("opk_" ++ base64UrlSafeNoPad displayRandom.toList).toList =
      'o' :: 'p' :: 'k' :: '_' :: base64Chars displayRandom.toList := by
    have start : "opk_".toList = ['o', 'p', 'k', '_'] := rfl
    rw [String.toList_append, base64UrlSafeNoPad, start, String.toList_ofList]
    rfl
  constructor
  · rw [← String.length_toList, characters]
    simp only [List.length_cons, base64Chars_length, Vector.length_toList]
    rfl
  · rw [characters]
    simp only [List.forall_mem_cons]
    exact ⟨rfl, rfl, rfl, rfl, base64Chars_display _⟩

/-- Text of display characters is stored as it is. -/
theorem isText_of_shown {value : String} (shown : ∀ c ∈ value.toList, isDisplayChar c) :
    isText value := by
  rw [isText_iff]
  intro member
  have visible := (isDisplayChar_visible (shown nul member)).1
  exact absurd visible (by decide)

/-- The row of an assembled credential meets the schema exactly when its name is text. -/
theorem key_admitted_iff {key : NewApiKey} {displayRandom : Vector UInt8 displayIdRandomLen}
    (shown : key.displayId = "opk_" ++ base64UrlSafeNoPad displayRandom.toList)
    (sized : 1 ≤ key.name.length ∧ key.name.length ≤ 128) :
    key.toRow.Admitted ↔ isText key.name := by
  obtain ⟨length, characters⟩ := displayId_shown displayRandom
  rw [← shown] at length characters
  have nonempty : key.displayId ≠ "" := by
    intro empty
    rw [empty] at length
    cases length
  have accepted : key.toRow.accepted := by
    rw [ApiKeyRow.accepted_iff]
    refine ⟨key.digest.length_eq, ⟨nonempty, List.all_eq_true.mpr characters⟩, ?_, ?_, ?_, sized, ?_⟩
    · change 8 ≤ key.displayId.length ∧ key.displayId.length ≤ 64
      omega
    · cases kind : key.kind <;> simp [NewApiKey.toRow, kind, ApiKeyKind.asStr]
    · rintro usedAt used
      cases used
    · rintro revokedAt revoked
      cases revoked
  have kind : isText key.kind.asStr := by
    cases key.kind <;> rfl
  constructor
  · rintro ⟨-, text, -⟩
    exact text
  · intro text
    exact ⟨isText_of_shown characters, text, kind, accepted⟩

theorem client_admitted_iff {client : NewClient}
    (sized : 1 ≤ client.displayName.length ∧ client.displayName.length ≤ 128) :
    client.toRow.Admitted ↔ isText client.displayName := by
  have accepted : client.toRow.accepted := by
    simp [ClientRow.accepted, NewClient.toRow, sized]
  exact ⟨And.left, fun text => ⟨text, accepted⟩⟩

/-- What a service may store. -/
def AuthRequest.Stores (Key : NewApiKey → Prop) (Tenant : NewClient → NewApiKey → Prop) :
    AuthRequest → Prop
  | .store (.insertKey key) => Key key
  | .store (.provisionClientWithKey client key) => Tenant client key
  | .store _ => False
  | _ => True

section Services

variable (hashCredential : String → KeyDigest)

-- Its lemmas say what is used of the check, and its string operations reduce slowly.
attribute [local irreducible] validateName

/-- Every key that an issuance stores has an admitted row exactly when its name has no U+0000. -/
theorem issueKey_stores (clientId : Uuid) (kind : ApiKeyKind) (name : String) :
    Program.Asks (AuthRequest.Stores
        (fun key => key.clientId = clientId ∧ (key.toRow.Admitted ↔ nul ∉ name.toList))
        fun _ _ => False)
      (ProvisioningService.issueKey hashCredential clientId kind name).run := by
  unfold ProvisioningService.issueKey
  cases validated : validateName name with
  | error error => trivial
  | ok stored =>
      rw [Program.asks_except_ok]
      apply asks_generated hashCredential fun _ => trivial
      intro payload displayRandom
      apply Program.asks_except_bind (Program.asks_except_lift (asks_newUuid trivial))
      intro id
      apply Program.asks_except_bind (Program.asks_except_lift (asks_utcNow trivial))
      intro createdAt
      refine Program.asks_except_bind (asks_provisionStore ⟨rfl, ?_⟩) fun _ => trivial
      rw [key_admitted_iff rfl (validateName_eq_ok.mp validated).2]
      exact validated_isText validated

/-- A tenant creation stores an admitted client exactly when its name has no U+0000. -/
theorem createTenant_stores (displayName : String) :
    Program.Asks (AuthRequest.Stores (fun _ => False) fun client key =>
        key.toRow.Admitted ∧ (client.toRow.Admitted ↔ nul ∉ displayName.toList))
      (ProvisioningService.createTenant hashCredential displayName).run := by
  unfold ProvisioningService.createTenant
  cases validated : validateName displayName with
  | error error => trivial
  | ok stored =>
      rw [Program.asks_except_ok]
      apply asks_generated hashCredential fun _ => trivial
      intro payload displayRandom
      apply Program.asks_except_bind (Program.asks_except_lift (asks_utcNow trivial))
      intro createdAt
      apply Program.asks_except_bind (Program.asks_except_lift (asks_newUuid trivial))
      intro owner
      apply Program.asks_except_bind (Program.asks_except_lift (asks_newUuid trivial))
      intro id
      refine Program.asks_except_bind (asks_provisionStore ⟨?_, ?_⟩) fun _ => trivial
      · have sized : 1 ≤ initialManagementKeyName.length ∧
            initialManagementKeyName.length ≤ 128 := by decide
        have text : isText initialManagementKeyName := by decide
        exact (key_admitted_iff rfl sized).mpr text
      · rw [client_admitted_iff (validateName_eq_ok.mp validated).2]
        exact validated_isText validated

end Services

/-- The identity of a new row is already stored. -/
def ApiKeyRow.Collides (row : ApiKeyRow) (database : AuthDatabase) : Prop :=
  row.id ∈ database.apiKeys.map ApiKeyRow.id ∨
    row.keyDigest ∈ database.apiKeys.map ApiKeyRow.keyDigest ∨
    row.displayId ∈ database.apiKeys.map ApiKeyRow.displayId

/-- Without a collision, a key of a known client is inserted exactly when its row is admitted. -/
theorem insertKey_succeeds_iff {database : AuthDatabase} {key : NewApiKey}
    (known : key.clientId ∈ database.clients.map ClientRow.id)
    (fresh : ¬ key.toRow.Collides database) :
    (∃ later, database.insertKey key.toRow = .ok later) ↔ key.toRow.Admitted := by
  have kind : isText key.toRow.kind := by
    change isText key.kind.asStr
    cases key.kind <;> rfl
  have owner : key.toRow.clientId ∈ database.clients.map ClientRow.id := known
  rw [ApiKeyRow.Collides, not_or, not_or] at fresh
  obtain ⟨id, digest, displayId⟩ := fresh
  unfold AuthDatabase.insertKey
  constructor
  · rintro ⟨later, inserted⟩
    split_ifs at inserted with text accepted
    rw [Bool.and_eq_true] at text
    exact ⟨text.1, text.2, kind, accepted⟩
  · rintro ⟨display, name, -, accepted⟩
    rw [if_pos (by rw [display, name]; rfl), dif_pos accepted, dif_pos id, dif_pos digest,
      dif_pos displayId, dif_pos owner]
    exact ⟨_, rfl⟩

/-- A served insertion leaves the key or the mapped error. -/
theorem perform_insertKey (key : NewApiKey) (database : AuthDatabase) :
    (PostgresAuthStore.insertKey key).perform database =
      match database.insertKey key.toRow with
      | .ok later => (some (.ok key.toRecord), later)
      | .error error => (some (.error (.fromSqlx (.database error))), database) := by
  rw [Transaction.perform, PostgresAuthStore.insertKey, serve_begin,
    PostgresAuthStore.insertKeyRow, bind_assoc, serve_attemptOrRollback]
  simp only [Session.answer, Session.current, Option.getD_some]
  cases database.insertKey key.toRow with
  | error error => rfl
  | ok later =>
      have decodes : apiKeyFromRow key.toRow = .ok key.toRecord := apiKeyFromRow_eq_ok.mpr rfl
      simp only [decodeOrRollback, decodes]
      rfl

section Creation

variable (hashCredential : String → KeyDigest) {actor : AuthContext} {body : Json}
  {name stored : String} {kind : ApiKeyKind} {readings : Readings}
  {payload : Vector UInt8 secretPayloadLen} {displayRandom : Vector UInt8 displayIdRandomLen}

-- Its lemmas say what is used of the check, and its string operations reduce slowly.
attribute [local irreducible] validateName

/-- The source of entropy fills the two requested buffers. -/
def Readings.Fills (readings : Readings) (payload : Vector UInt8 secretPayloadLen)
    (displayRandom : Vector UInt8 displayIdRandomLen) : Prop :=
  ∃ first second rest, readings.entropy = first :: second :: rest ∧
    first secretPayloadLen = some payload ∧ second displayIdRandomLen = some displayRandom

/-- The key that a request stores is made of its name, its kind, and its readings. -/
def requestedKey (actor : AuthContext) (stored : String) (kind : ApiKeyKind)
    (readings : Readings) (payload : Vector UInt8 secretPayloadLen)
    (displayRandom : Vector UInt8 displayIdRandomLen) : NewApiKey :=
  let generated := assembleCredential hashCredential payload.toList displayRandom.toList
  ⟨readings.uuids.headD 0, actor.clientId, generated.digest, generated.displayId, stored, kind,
    readings.clock.headD 0⟩

/-- Available entropy gives an assembled credential. -/
theorem serve_generateCredential {clock : List Timestamp} {uuids : List Uuid}
    {first second : (count : Nat) → Option (Vector UInt8 count)}
    {rest : List ((count : Nat) → Option (Vector UInt8 count))} {database : AuthDatabase}
    (secret : first secretPayloadLen = some payload)
    (display : second displayIdRandomLen = some displayRandom) :
    Program.serve Replica.answer ⟨database, clock, uuids, first :: second :: rest⟩
        (generateCredential hashCredential).run =
      (some (.ok (assembleCredential hashCredential payload.toList displayRandom.toList)),
        ⟨database, clock, uuids, rest⟩) := by
  simp only [generateCredential, fillBytes, Program.serve_except_bind, Program.serve_except_lift,
    Program.serve_request, Replica.answer, List.head?_cons, Option.bind_some, secret, display,
    List.tail_cons, Program.serve_except_pure]

/-- An available issuance has the outcome of its insertion. -/
theorem serve_issueKey (actor : AuthContext) (kind : ApiKeyKind)
    (validated : validateName name = .ok stored)
    (fills : readings.Fills payload displayRandom) (database : AuthDatabase) :
    let key := requestedKey hashCredential actor stored kind readings payload displayRandom
    (Program.serve Replica.answer ⟨database, readings⟩
        (ProvisioningService.issueKey hashCredential actor.clientId kind name).run).1 =
      some (match database.insertKey key.toRow with
        | .ok _ => .ok (.fromRecord key.toRecord
            (assembleCredential hashCredential payload.toList displayRandom.toList).credential)
        | .error error => .error (.fromStore (.fromSqlx (.database error)))) := by
  obtain ⟨first, second, rest, entropy, secret, display⟩ := fills
  rcases readings with ⟨clock, uuids, _⟩
  dsimp only at entropy
  subst entropy
  unfold ProvisioningService.issueKey
  rw [validated, Program.serve_except_ok, Program.serve_except_bind,
    serve_generateCredential hashCredential secret display]
  simp only [Program.serve_except_bind, Program.serve_except_lift, newUuid, utcNow,
    Program.serve_request, Replica.answer, provisionStore, callStore, Program.serve_bind,
    StoreRequest.transaction, perform_insertKey, requestedKey]
  generalize database.insertKey _ = inserted
  cases inserted with
  | error error => rfl
  | ok later => rfl

/-- Every store error of a creation is answered as an unavailable store. -/
theorem storeError_unavailable (error : AuthStoreError) :
    AuthError.fromProvision (.fromStore error) = .storeUnavailable := by
  cases error <;> rfl

/-- An available request is answered by the outcome of its insertion. -/
theorem runOn_createApiKey (manager : actor.kind = .management)
    (parsed : parseCreateKeyRequest body = .ok (name, kind))
    (validated : validateName name = .ok stored) (fills : readings.Fills payload displayRandom)
    (database : AuthDatabase) :
    let key := requestedKey hashCredential actor stored kind readings payload displayRandom
    (AuthProgram.runOn (createApiKey hashCredential actor body).run database readings).1 =
      some (match database.insertKey key.toRow with
        | .ok _ => .ok (.fromRecord key.toRecord
            (assembleCredential hashCredential payload.toList displayRandom.toList).credential)
        | .error _ => .error .storeUnavailable) := by
  have issued := serve_issueKey hashCredential actor kind validated fills database
  have permitted : AuthService.requireManagement actor = .ok () := by
    simp [AuthService.requireManagement, manager]
  unfold AuthProgram.runOn createApiKey AuthService.createKey
  rw [permitted, parsed, Program.serve_except_ok, Program.serve_except_ok, Program.serve_except_ok,
    Program.serve_except_bind, Program.serve_except_lift]
  rcases served : Program.serve Replica.answer ⟨database, readings⟩
    (ProvisioningService.issueKey hashCredential actor.clientId kind name).run with ⟨outcome, last⟩
  rw [served] at issued
  dsimp only at issued ⊢
  subst issued
  generalize database.insertKey _ = inserted
  cases inserted with
  | error error =>
      change some (Except.error (AuthError.fromProvision (.fromStore _))) = _
      rw [storeError_unavailable]
  | ok later => rfl

/-- Without a collision, an available request succeeds exactly when its name has no U+0000. -/
theorem createApiKey_succeeds_iff (manager : actor.kind = .management)
    (parsed : parseCreateKeyRequest body = .ok (name, kind))
    (validated : validateName name = .ok stored) (fills : readings.Fills payload displayRandom)
    {database : AuthDatabase} (tenant : actor.clientId ∈ database.clients.map ClientRow.id)
    (fresh : ¬ (requestedKey hashCredential actor stored kind readings payload
      displayRandom).toRow.Collides database) :
    (∃ issued, (AuthProgram.runOn (createApiKey hashCredential actor body).run database
      readings).1 = some (.ok issued)) ↔ nul ∉ name.toList := by
  have admitted : (requestedKey hashCredential actor stored kind readings payload
      displayRandom).toRow.Admitted ↔ isText stored :=
    key_admitted_iff rfl (validateName_eq_ok.mp validated).2
  rw [runOn_createApiKey hashCredential manager parsed validated fills database,
    ← validated_isText validated, ← admitted, ← insertKey_succeeds_iff tenant fresh]
  cases database.insertKey (requestedKey hashCredential actor stored kind readings payload
    displayRandom).toRow with
  | error error => simp
  | ok later => simp

/-- Every key that a request stores belongs to its actor, and its name decides its admission. -/
theorem createApiKey_stores (manager : actor.kind = .management)
    (parsed : parseCreateKeyRequest body = .ok (name, kind)) :
    Program.Asks (AuthRequest.Stores
        (fun key => key.clientId = actor.clientId ∧ (key.toRow.Admitted ↔ nul ∉ name.toList))
        fun _ _ => False)
      (createApiKey hashCredential actor body).run := by
  have permitted : AuthService.requireManagement actor = .ok () := by
    simp [AuthService.requireManagement, manager]
  unfold createApiKey AuthService.createKey
  rw [permitted, parsed, Program.asks_except_ok, Program.asks_except_ok, Program.asks_except_ok]
  have issues := issueKey_stores hashCredential actor.clientId kind name
  refine Program.asks_except_bind (Program.asks_except_lift issues) fun issued => ?_
  cases issued with
  | error error => trivial
  | ok issued => trivial

/-- A validated request fails by its own content exactly when its name has U+0000. -/
structure RequestAdmitted (actor : AuthContext) (body : Json) (name stored : String)
    (kind : ApiKeyKind) : Prop where
  stores : ∀ (Stamp : Type) (trace : AuthTrace Stamp)
    (outcome : Option (Except AuthError IssuedKey)),
    Program.Runs (createApiKey hashCredential actor body).run trace outcome →
      ∀ exchange ∈ trace, exchange.request.Stores
        (fun key => key.clientId = actor.clientId ∧ (key.toRow.Admitted ↔ nul ∉ name.toList))
        fun _ _ => False
  succeeds : ∀ (readings : Readings) (payload : Vector UInt8 secretPayloadLen)
    (displayRandom : Vector UInt8 displayIdRandomLen) (database : AuthDatabase),
    readings.Fills payload displayRandom →
      actor.clientId ∈ database.clients.map ClientRow.id →
        ¬ (requestedKey hashCredential actor stored kind readings payload
          displayRandom).toRow.Collides database →
          ((∃ issued, (AuthProgram.runOn (createApiKey hashCredential actor body).run database
            readings).1 = some (.ok issued)) ↔ nul ∉ name.toList)

/-- The rows of a new tenant are admitted exactly when its name has no U+0000. -/
def TenantAdmitted (displayName : String) : Prop :=
  ∀ (Stamp : Type) (trace : AuthTrace Stamp)
    (outcome : Option (Except ProvisionError CreatedTenant)),
    Program.Runs (ProvisioningService.createTenant hashCredential displayName).run trace outcome →
      ∀ exchange ∈ trace, exchange.request.Stores (fun _ => False) fun client key =>
        key.toRow.Admitted ∧ (client.toRow.Admitted ↔ nul ∉ displayName.toList)

/-- The validation agrees with the schema on every name without U+0000, and on no other one. -/
theorem creation_admitted (manager : actor.kind = .management)
    (parsed : parseCreateKeyRequest body = .ok (name, kind))
    (validated : validateName name = .ok stored) :
    RequestAdmitted hashCredential actor body name stored kind ∧
      ∀ displayName, TenantAdmitted hashCredential displayName := by
  constructor
  · constructor
    · intro Stamp trace outcome run
      exact Program.Asks.runs (createApiKey_stores hashCredential manager parsed) run
    · intro readings payload displayRandom database fills tenant fresh
      exact createApiKey_succeeds_iff hashCredential manager parsed validated fills tenant fresh
  · intro displayName Stamp trace outcome run
    exact Program.Asks.runs (createTenant_stores hashCredential displayName) run

end Creation

section Example

def constantDigest : KeyDigest := ⟨List.replicate 32 0, rfl⟩

def soleManager : AuthContext := ⟨1, 2, .management⟩

/-- The database of one tenant without a key. -/
def soleTenant : AuthDatabase where
  clients := [⟨1, "tenant", 0⟩]
  apiKeys := []
  clientsPkey := List.nodup_singleton _
  clientsAccepted := by decide
  apiKeysPkey := AuthDatabase.empty.apiKeysPkey
  keyDigestKey := AuthDatabase.empty.keyDigestKey
  displayIdKey := AuthDatabase.empty.displayIdKey
  clientFk := by simp
  apiKeysAccepted := AuthDatabase.empty.apiKeysAccepted

def keyRequest (name : String) : Json :=
  .object [("name", .string name), ("kind", .string "inference")]

/-- A name of one letter is admitted. -/
theorem creation_admitted_example :
    RequestAdmitted (fun _ => constantDigest) soleManager (keyRequest "a") "a" "a" .inference ∧
      ∀ displayName, TenantAdmitted (fun _ => constantDigest) displayName :=
  creation_admitted (fun _ => constantDigest) rfl rfl rfl

/-- Entropy that fills every buffer with zeros. -/
def zeroReadings : Readings :=
  ⟨[10], [3], [fun count => some (Vector.replicate count 0), fun count =>
    some (Vector.replicate count 0)]⟩

/-- A validated name with U+0000 is answered as an unavailable store on a database without keys. -/
theorem nul_name_rejected :
    parseCreateKeyRequest (keyRequest "a\x00b") = .ok ("a\x00b", .inference) ∧
      validateName "a\x00b" = .ok "a\x00b" ∧
      (AuthProgram.runOn (createApiKey (fun _ => constantDigest) soleManager
        (keyRequest "a\x00b")).run soleTenant zeroReadings).1 =
          some (.error .storeUnavailable) := by
  have parsed : parseCreateKeyRequest (keyRequest "a\x00b") = .ok ("a\x00b", .inference) := rfl
  have validated : validateName "a\x00b" = .ok "a\x00b" := rfl
  refine ⟨parsed, validated, ?_⟩
  rw [runOn_createApiKey (fun _ => constantDigest) rfl parsed validated
    ⟨_, _, [], rfl, rfl, rfl⟩ soleTenant]
  rfl

end Example

end Opmux.Auth
