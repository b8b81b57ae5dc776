import OpmuxGateway.Construction.Auth.Service
import OpmuxGateway.Construction.Core.HttpError
import OpmuxGateway.Construction.Core.Json
import OpmuxGateway.Construction.Core.Text

/-
This file gives the requests that create, list, and revoke keys.
-/

namespace Opmux.Auth

/-- The request has a name and a kind, and it cannot select an owner. -/
def parseCreateKeyRequest (body : Json) : Except AuthError (String × ApiKeyKind) :=
  match body.asObject with
  | none => .error (.invalidInput "request body must be a JSON object")
  | some object =>
      if object.any fun entry => entry.1 = "client_id" || entry.1 = "tenant_id" then
        .error (.invalidInput "key ownership cannot be set in the request")
      else if object.any fun entry => entry.1 ≠ "name" && entry.1 ≠ "kind" then
        .error (.invalidInput "unknown field is not allowed")
      else
        match (OrderedMap.lookup object "name").bind Json.asStr with
        | none => .error (.invalidInput "name is required")
        | some name =>
            let kind := (OrderedMap.lookup object "kind").bind Json.asStr
            if kind = some "management" then .ok (name, .management)
            else if kind = some "inference" then .ok (name, .inference)
            else .error (.invalidInput "kind must be management or inference")

/-- The handler issues a key of the tenant of its actor. -/
def createApiKey (hashCredential : String → KeyDigest) (actor : AuthContext) (body : Json) :
    ExceptT AuthError AuthProgram IssuedKey := do
  ExceptT.mk (pure (AuthService.requireManagement actor))
  let (name, kind) ← ExceptT.mk (pure (parseCreateKeyRequest body))
  AuthService.createKey hashCredential actor name kind

/-- This operation is `str::parse::<i64>`. -/
def parseI64 (raw : String) : Option Int :=
  let (negative, digits) :=
    match raw.toList with
    | '-' :: digits => (true, digits)
    | '+' :: digits => (false, digits)
    | digits => (false, digits)
  if digits.isEmpty || !digits.all Char.isDigit then none
  else
    let value : Int := if negative then -(digitsValue digits : Int) else digitsValue digits
    if i64Min ≤ value ∧ value ≤ i64Max then some value else none

def parseI64Query (raw : String) (field : String) : Except AuthError Int :=
  match parseI64 raw with
  | some value => .ok value
  | none => .error (.invalidInput (field ++ " must be an integer"))

def parseKindQuery (raw : String) : Except AuthError ApiKeyKind :=
  if raw = "management" then .ok .management
  else if raw = "inference" then .ok .inference
  else .error (.invalidInput "kind must be management or inference")

def KeyListOptions.default : KeyListOptions := ⟨maxKeyListLimit, 0, none⟩

/-- One parameter of the query sets its own option. -/
def readListOption (options : KeyListOptions) (key value : String) :
    Except AuthError KeyListOptions :=
  if key = "client_id" ∨ key = "tenant_id" then
    .error (.invalidInput "key ownership cannot be set in the query")
  else if key = "limit" then do
    let limit ← parseI64Query value "limit"
    if 1 ≤ limit ∧ limit ≤ maxKeyListLimit then return { options with limit := limit }
    else .error (.invalidInput limitMessage)
  else if key = "offset" then do
    let offset ← parseI64Query value "offset"
    if offset < 0 then .error (.invalidInput "offset must be greater than or equal to 0")
    else return { options with offset := offset }
  else if key = "kind" then do
    let kind ← parseKindQuery value
    return { options with kind := some kind }
  else .error (.invalidInput "unknown query parameter is not allowed")

/-- A pair is split at its first equality sign, and a missing value is empty. -/
def splitPair (pair : List Char) : String × String :=
  let (key, value) := pair.span (· ≠ '=')
  (String.ofList key, String.ofList value.tail)

/-- The pairs are read one after the other, and no key stands twice. -/
def readListPairs (seen : List String) (options : KeyListOptions) :
    List (List Char) → Except AuthError KeyListOptions
  | [] => .ok options
  | pair :: rest =>
      if pair.isEmpty then readListPairs seen options rest
      else
        let (key, value) := splitPair pair
        if key ∈ seen then .error (.invalidInput "duplicate query parameter is not allowed")
        else do
          let options ← readListOption options key value
          readListPairs (key :: seen) options rest

def parseListKeysQuery (raw : Option String) : Except AuthError KeyListOptions :=
  match raw.filter fun value => value ≠ "" with
  | none => .ok .default
  | some raw => readListPairs [] .default (raw.toList.splitOn '&')

/-- The handler lists the keys of the tenant of its actor. -/
def listApiKeys (actor : AuthContext) (query : Option String) :
    ExceptT AuthError AuthProgram KeyInventory := do
  ExceptT.mk (pure (AuthService.requireManagement actor))
  let options ← ExceptT.mk (pure (parseListKeysQuery query))
  AuthService.listKeys actor options

/-- The handler revokes a key of the tenant of its actor. -/
def revokeApiKey (actor : AuthContext) (keyId : Uuid) : ExceptT AuthError AuthProgram Unit := do
  ExceptT.mk (pure (AuthService.requireManagement actor))
  AuthService.revokeKey actor keyId

def AuthError.httpMapping : AuthError → HttpError
  | .invalidCredentials => ⟨.unauthorized, "Authentication failed", none⟩
  | .capabilityDenied =>
      ⟨.forbidden, "You do not have permission to perform this operation.", none⟩
  | .invalidInput message => ⟨.invalidRequest, message, none⟩
  | .keyNotFound => ⟨.notFound, "API key was not found", none⟩
  | .storeUnavailable =>
      ⟨.authDependencyUnavailable, "Authentication dependency unavailable", none⟩
  | .deadlineExceeded => ⟨.deadlineExceeded, "The request deadline was exceeded", none⟩

end Opmux.Auth
