import OpmuxGateway.Construction.Auth.Handler
import OpmuxGateway.Construction.Ingress.Handler

/-
This file gives the layers around the handlers of a protected request.
-/

namespace Opmux.Gateway

open Auth (ApiKeyKind AuthContext AuthError AuthProgram AuthenticateError IssuedKey KeyDigest
  KeyInventory Uuid)
open Ingress (IngressResponse IngressService ingressHandler)

/-- The protected routes read a body, a raw query, or a path parameter. -/
inductive ProtectedRoute where
  | generate
  | createKey
  | listKeys (query : Option String)
  | revokeKey (keyId : Option Uuid)

/-- A request has its key headers, its advertised length, and its route. -/
structure ProtectedRequest where
  apiKeys : List (List UInt8)
  contentLength : Option Nat
  route : ProtectedRoute

inductive ProtectedResponse where
  | generated (response : IngressResponse)
  | created (issued : IssuedKey)
  | listed (inventory : KeyInventory)
  | revoked
  | failed (error : HttpError)

/-- The shared services of the protected routes. -/
structure AppState where
  ingress : IngressService
  hashCredential : String → KeyDigest
  toVec : Json → Option (List UInt8)

def AppState.settings (state : AppState) : Settings := state.ingress.settings

def payloadTooLarge : HttpError := ⟨.payloadTooLarge, "Request body is too large", none⟩

def mapJsonRejection : JsonRejection → HttpError
  | .missingJsonContentType =>
      ⟨.unsupportedMediaType, "Content-Type must be application/json", none⟩
  | .jsonSyntaxError | .jsonDataError =>
      ⟨.invalidJson, "Request body is not valid JSON", none⟩
  | .bytesRejection tooLarge =>
      if tooLarge then payloadTooLarge else ⟨.invalidJson, "Request body is not valid JSON", none⟩
  | .other => ⟨.invalidJson, "Request body is not valid JSON", none⟩

/-- An advertised length above the limit is rejected before the body is read. -/
def apiJson (state : AppState) (request : ProtectedRequest) :
    GatewayEffect (Except HttpError Json) :=
  if request.contentLength.any fun length =>
    decide (state.settings.limits.maxRequestBodyBytes < length)
  then return .error payloadTooLarge
  else do
    match ← Program.request GatewayRequest.extractBody with
    | none => Program.halt
    | some (.ok body) => return .ok body
    | some (.error rejection) => return .error (mapJsonRejection rejection)

/-- A handler of the keys answers with its value or with its mapped error. -/
def runKeyHandler {Value : Type} (respond : Value → ProtectedResponse)
    (handler : ExceptT AuthError AuthProgram Value) : GatewayEffect ProtectedResponse := do
  match ← runAuth handler.run with
  | .ok value => return respond value
  | .error error => return .failed error.httpMapping

/-- The route selects its extractor and its handler. -/
def handleRoute (state : AppState) (request : ProtectedRequest) (actor : AuthContext)
    (deadline : RequestDeadline) : GatewayEffect ProtectedResponse :=
  match request.route with
  | .generate => do
      match ← apiJson state request with
      | .error error => return .failed error
      | .ok body =>
          match ← ingressHandler state.toVec state.ingress actor.kind body deadline with
          | .ok response => return .generated response
          | .error error => return .failed error.intoResponse
  | .createKey => do
      match ← apiJson state request with
      | .error error => return .failed error
      | .ok body =>
          runKeyHandler .created (Auth.createApiKey state.hashCredential actor body)
  | .listKeys query => runKeyHandler .listed (Auth.listApiKeys actor query)
  | .revokeKey none => return .failed ⟨.invalidPath, "Request path is not valid", none⟩
  | .revokeKey (some keyId) => runKeyHandler (fun _ => .revoked) (Auth.revokeApiKey actor keyId)

/-- One header with one key is accepted, without blanks around it and without a comma in it. -/
def presentedApiKey (apiKeys : List (List UInt8)) : Option String :=
  match apiKeys with
  | [value] => (headerToStr value).filter fun text =>
      decide (text ≠ "") && decide (trim text = text) && decide (trim text ≠ "") &&
        !text.toList.contains ','
  | _ => none

/-- The database work of an authentication ends at the request deadline. -/
def authenticateWithDeadline (state : AppState) (presented : String) (deadline : RequestDeadline) :
    GatewayEffect (Except AuthenticateError AuthContext) := do
  let now ← readClock .authIsExpired
  if deadline.isExpired now then return .error .deadlineExceeded
  else do
    match ← timeoutAt .authentication deadline.deadline
      (runAuth (Auth.AuthService.authenticate state.hashCredential presented).run) with
    | some result => return result
    | none => return .error .deadlineExceeded

/-- Only an authenticated request reaches its handler. -/
def authMiddleware (state : AppState) (request : ProtectedRequest) (deadline : RequestDeadline) :
    GatewayEffect ProtectedResponse :=
  match presentedApiKey request.apiKeys with
  | none => return .failed AuthError.invalidCredentials.httpMapping
  | some presented => do
      match ← authenticateWithDeadline state presented deadline with
      | .error error => return .failed (AuthError.fromAuthenticate error).httpMapping
      | .ok actor => handleRoute state request actor deadline

/-- One deadline covers the authentication, the extraction, and the handler of a request. -/
def deadlineMiddleware (state : AppState) (request : ProtectedRequest) :
    GatewayEffect ProtectedResponse := do
  let start ← readClock .requestStart
  let deadline : RequestDeadline := ⟨start + state.settings.limits.protectedRequestDeadline⟩
  match ← timeoutAt .request deadline.deadline (authMiddleware state request deadline) with
  | some response => return response
  | none => do
      runExecution (Executor.record .deadlineExceeded)
      return .failed ⟨.deadlineExceeded, "The request deadline was exceeded", none⟩

end Opmux.Gateway
