import OpmuxGateway.Construction.Auth.Handler
import OpmuxGateway.Library.Outcomes

/-
This file proves that the handlers of the keys never answer an expired deadline themselves.
-/

namespace Opmux.Auth

/-- No handler of the keys answers an expiry of its own. -/
def KeyHandlerFails {Value : Type} (handler : ExceptT AuthError AuthProgram Value) : Prop :=
  Program.Fails (fun error => error ≠ AuthError.deadlineExceeded) handler

section Keys

variable {hashCredential : String → KeyDigest} {actor : AuthContext}

theorem fails_requireManagement : KeyHandlerFails
    (ExceptT.mk (pure (AuthService.requireManagement actor)) : ExceptT AuthError AuthProgram _) := by
  refine Program.fails_known ?_
  intro error failed
  unfold AuthService.requireManagement at failed
  split at failed
  · cases failed
    rintro ⟨⟩
  · cases failed

theorem fails_serviceStore (request : StoreRequest) :
    KeyHandlerFails (AuthService.serviceStore request) := by
  refine Program.fails_bind (Program.fails_lift _) fun result => ?_
  cases result with
  | ok value => exact Program.fails_pure
  | error error =>
      refine Program.fails_throw ?_
      cases error with
      | _ => rintro ⟨⟩

theorem fails_createKey (name : String) (kind : ApiKeyKind) :
    KeyHandlerFails (AuthService.createKey hashCredential actor name kind) := by
  refine Program.fails_bind fails_requireManagement fun _ => ?_
  refine Program.fails_bind (Program.fails_lift _) fun result => ?_
  cases result with
  | ok issued => exact Program.fails_pure
  | error error =>
      refine Program.fails_throw ?_
      cases error with
      | _ => rintro ⟨⟩

theorem fails_listKeys (options : KeyListOptions) :
    KeyHandlerFails (AuthService.listKeys actor options) := by
  refine Program.fails_bind fails_requireManagement fun _ => ?_
  split
  · exact Program.fails_throw (by rintro ⟨⟩)
  · split
    · exact Program.fails_throw (by rintro ⟨⟩)
    · refine Program.fails_bind (fails_serviceStore _) fun records => ?_
      refine Program.fails_bind ?_ fun _ => Program.fails_pure
      unfold AuthService.hasMore
      split
      · split
        · exact Program.fails_bind (fails_serviceStore _) fun _ => Program.fails_pure
        · exact Program.fails_pure
      · exact Program.fails_pure

theorem fails_revokeKey (keyId : Uuid) : KeyHandlerFails (AuthService.revokeKey actor keyId) := by
  refine Program.fails_bind fails_requireManagement fun _ => ?_
  refine Program.fails_bind (Program.fails_lift _) fun now => ?_
  refine Program.fails_bind (fails_serviceStore _) fun outcome => ?_
  split
  · exact Program.fails_pure
  · exact Program.fails_pure
  · exact Program.fails_throw (by rintro ⟨⟩)

/-- A rejected body is an invalid input. -/
theorem parseCreateKeyRequest_other {body : Json} {error : AuthError}
    (failed : parseCreateKeyRequest body = .error error) : error ≠ .deadlineExceeded := by
  unfold parseCreateKeyRequest at failed
  split at failed
  · cases failed
    rintro ⟨⟩
  · split at failed
    · cases failed
      rintro ⟨⟩
    · split at failed
      · cases failed
        rintro ⟨⟩
      · split at failed
        · cases failed
          rintro ⟨⟩
        · dsimp only at failed
          split at failed
          · cases failed
          · split at failed
            · cases failed
            · cases failed
              rintro ⟨⟩

/-- A rejected query is an invalid input. -/
theorem readListOption_other {options : KeyListOptions} {key value : String} {error : AuthError}
    (failed : readListOption options key value = .error error) : error ≠ .deadlineExceeded := by
  unfold readListOption parseI64Query parseKindQuery at failed
  rintro rfl
  split at failed
  · cases failed
  · split at failed
    · cases parsed : parseI64 value with
      | none =>
          rw [parsed] at failed
          cases failed
      | some limit =>
          rw [parsed] at failed
          change (if _ then _ else _) = _ at failed
          split at failed
          · cases failed
          · cases failed
    · split at failed
      · cases parsed : parseI64 value with
        | none =>
            rw [parsed] at failed
            cases failed
        | some offset =>
            rw [parsed] at failed
            change (if _ then _ else _) = _ at failed
            split at failed
            · cases failed
            · cases failed
      · split at failed
        · split at failed
          · cases failed
          · split at failed
            · cases failed
            · cases failed
        · cases failed

theorem readListPairs_other {seen : List String} {options : KeyListOptions}
    {pairs : List (List Char)} {error : AuthError}
    (failed : readListPairs seen options pairs = .error error) : error ≠ .deadlineExceeded := by
  induction pairs generalizing seen options with
  | nil => cases failed
  | cons pair rest ih =>
      rw [readListPairs] at failed
      split at failed
      · exact ih failed
      · dsimp only at failed
        split at failed
        · cases failed
          rintro ⟨⟩
        · cases read : readListOption options (splitPair pair).1 (splitPair pair).2 with
          | error cause =>
              rw [read] at failed
              cases failed
              exact readListOption_other read
          | ok later =>
              rw [read] at failed
              exact ih failed

theorem parseListKeysQuery_other {query : Option String} {error : AuthError}
    (failed : parseListKeysQuery query = .error error) : error ≠ .deadlineExceeded := by
  unfold parseListKeysQuery at failed
  split at failed
  · cases failed
  · exact readListPairs_other failed

theorem fails_createApiKey (body : Json) :
    KeyHandlerFails (createApiKey hashCredential actor body) := by
  refine Program.fails_bind fails_requireManagement fun _ => ?_
  refine Program.fails_bind (Program.fails_known fun error => parseCreateKeyRequest_other) ?_
  intro parsed
  exact fails_createKey parsed.1 parsed.2

theorem fails_listApiKeys (query : Option String) :
    KeyHandlerFails (listApiKeys actor query) := by
  refine Program.fails_bind fails_requireManagement fun _ => ?_
  refine Program.fails_bind (Program.fails_known fun error => parseListKeysQuery_other) ?_
  exact fails_listKeys

theorem fails_revokeApiKey (keyId : Uuid) : KeyHandlerFails (revokeApiKey actor keyId) :=
  Program.fails_bind fails_requireManagement fun _ => fails_revokeKey keyId

/-- The authentication itself never answers an expiry. -/
theorem fails_authenticate (presented : String) :
    Program.Fails (fun error => error ≠ AuthenticateError.deadlineExceeded)
      (AuthService.authenticate hashCredential presented) := by
  refine Program.fails_bind (Program.fails_lift _) fun now => ?_
  refine Program.fails_bind (Program.fails_lift _) fun found => ?_
  split
  · exact Program.fails_throw (by rintro ⟨⟩)
  · exact Program.fails_throw (by rintro ⟨⟩)
  · split
    · exact Program.fails_throw (by rintro ⟨⟩)
    · exact Program.fails_pure

end Keys

end Opmux.Auth
