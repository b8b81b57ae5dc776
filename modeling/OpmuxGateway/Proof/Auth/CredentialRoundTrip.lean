import OpmuxGateway.Construction.Auth.Replica
import OpmuxGateway.Proof.Auth.CredentialCodec

/-
This file proves that issued credentials are read back and looked up by their stored digests.
-/

namespace Opmux.Auth

/-- A display character is visible ASCII and not a comma. -/
theorem isDisplayChar_visible {c : Char} (shown : isDisplayChar c) :
    33 ≤ c.toNat ∧ c.toNat < 127 ∧ c ≠ ',' := by
  have range : (65 ≤ c.toNat ∧ c.toNat ≤ 90) ∨ (97 ≤ c.toNat ∧ c.toNat ≤ 122) ∨
      (48 ≤ c.toNat ∧ c.toNat ≤ 57) ∨ c.toNat = 95 ∨ c.toNat = 45 := by
    simp only [isDisplayChar, Char.isAlphanum, Char.isAlpha, Char.isUpper, Char.isLower,
      Char.isDigit, Bool.or_eq_true, Bool.and_eq_true, decide_eq_true_eq, ge_iff_le,
      UInt32.le_iff_toNat_le, Char.ext_iff, ← UInt32.toNat_inj] at shown
    simpa [or_assoc] using shown
  have comma : ','.toNat = 44 := rfl
  have other : c ≠ ',' := by
    rintro rfl
    omega
  exact ⟨by omega, by omega, other⟩

/-- Each character of the URL-safe alphabet is a display character. -/
theorem base64Char_display : ∀ value < 64, isDisplayChar (base64Char value) = true := by
  decide

/-- Encoded bytes consist of display characters. -/
theorem base64Chars_display (bytes : List UInt8) : ∀ c ∈ base64Chars bytes, isDisplayChar c := by
  fun_induction base64Chars bytes with
  | case1 first second third rest value ih =>
      have small := first.toNat_lt
      have middle := second.toNat_lt
      have last := third.toNat_lt
      simp only [List.forall_mem_cons]
      exact ⟨base64Char_display _ (by omega), base64Char_display _ (by omega),
        base64Char_display _ (by omega), base64Char_display _ (by omega), ih⟩
  | case2 first second value =>
      have small := first.toNat_lt
      have middle := second.toNat_lt
      simp only [List.forall_mem_cons]
      exact ⟨base64Char_display _ (by omega), base64Char_display _ (by omega),
        base64Char_display _ (by omega), by simp⟩
  | case3 first =>
      have small := first.toNat_lt
      simp only [List.forall_mem_cons]
      exact ⟨base64Char_display _ (by omega), base64Char_display _ (by omega), by simp⟩
  | case4 => simp

/-- Text without whitespace is its own trim. -/
theorem trim_eq_self {text : String} (solid : ∀ c ∈ text.toList, isWhitespace c = false) :
    trim text = text := by
  have kept {characters : List Char} (solid : ∀ c ∈ characters, isWhitespace c = false) :
      characters.dropWhile isWhitespace = characters := by
    cases characters with
    | nil => rfl
    | cons first rest => exact List.dropWhile_cons_of_neg (by simp [solid first])
  rw [trim, kept solid, kept fun c member => solid c (List.mem_reverse.mp member),
    List.reverse_reverse, String.ofList_toList]

/-- A header value of visible ASCII characters is read back as its text. -/
theorem headerToStr_value {text : String}
    (visible : ∀ c ∈ text.toList, 32 ≤ c.toNat ∧ c.toNat < 127) :
    headerToStr (headerValue text) = some text := by
  have single : ∀ c ∈ text.toList, String.utf8EncodeChar c = [UInt8.ofNat c.toNat] := by
    intro c member
    have small := (visible c member).2
    have one : c.utf8Size = 1 := by
      rw [Char.utf8Size_eq_one_iff, UInt32.le_iff_toNat_le]
      change c.toNat ≤ 127
      omega
    rw [String.utf8EncodeChar_eq_singleton one]
    rfl
  have bytes : headerValue text = text.toList.map fun c => UInt8.ofNat c.toNat := by
    rw [headerValue, List.flatMap_congr single, List.map_eq_flatMap]
  have back : ∀ c ∈ text.toList, (UInt8.ofNat c.toNat).toNat = c.toNat := by
    intro c member
    have small := (visible c member).2
    rw [UInt8.toNat_ofNat']
    omega
  have accepted : (headerValue text).all fun byte =>
      (32 ≤ byte.toNat && byte.toNat < 127) || byte.toNat = 9 := by
    rw [bytes, List.all_map, List.all_eq_true]
    intro c member
    have range := visible c member
    simp [back c member, range]
  rw [headerToStr, if_pos accepted, bytes, List.map_map]
  have same : text.toList.map ((fun byte => Char.ofNat byte.toNat) ∘
      fun c => UInt8.ofNat c.toNat) = text.toList.map id := by
    apply List.map_congr_left
    intro c member
    rw [Function.comp_apply, back c member, Char.ofNat_toNat, id]
  rw [same, List.map_id, String.ofList_toList]

/-- Nonempty text of display characters is a presented key as it stands. -/
theorem presentedApiKey_value {text : String} (nonempty : text ≠ "")
    (shown : ∀ c ∈ text.toList, isDisplayChar c) :
    presentedApiKey [headerValue text] = .value text := by
  have solid : ∀ c ∈ text.toList, isWhitespace c = false := by
    intro c member
    have range := isDisplayChar_visible (shown c member)
    simp [isWhitespace]
    omega
  have visible : ∀ c ∈ text.toList, 32 ≤ c.toNat ∧ c.toNat < 127 := by
    intro c member
    have range := isDisplayChar_visible (shown c member)
    omega
  have comma : ',' ∉ text.toList := fun member => (isDisplayChar_visible (shown _ member)).2.2 rfl
  simp [presentedApiKey, headerToStr_value visible, trim_eq_self solid, nonempty, comma]

/-- A text with a prefix is the prefix before the rest. -/
theorem stripPrefix_eq_some {text start rest : String} :
    stripPrefix text start = some rest ↔ text = start ++ rest := by
  unfold stripPrefix
  constructor
  · intro stripped
    split at stripped
    · rename_i same
      rw [Option.some.injEq] at stripped
      rw [← String.toList_inj, String.toList_append, ← same, ← stripped, String.toList_ofList,
        List.take_append_drop]
    · cases stripped
  · rintro rfl
    have before : (start ++ rest).toList.take start.length = start.toList := by
      rw [String.toList_append, ← String.length_toList, List.take_left]
    have after : (start ++ rest).toList.drop start.length = rest.toList := by
      rw [String.toList_append, ← String.length_toList, List.drop_left]
    rw [if_pos before, after, String.ofList_toList]

section Credentials

variable {hashCredential : String → KeyDigest}

/-- A payload is parsed exactly from the credential that is assembled from it. -/
theorem parseCredentialPayload_eq_some {text : String}
    {payload : Vector UInt8 secretPayloadLen} (displayRandom : List UInt8) :
    parseCredentialPayload text = some payload ↔
      text = (assembleCredential hashCredential payload.toList displayRandom).credential := by
  have assembled : (assembleCredential hashCredential payload.toList displayRandom).credential =
      credentialPrefix ++ base64UrlSafeNoPad payload.toList := rfl
  rw [assembled]
  unfold parseCredentialPayload
  simp only [Option.bind_eq_bind, Option.bind_eq_some_iff, stripPrefix_eq_some]
  constructor
  · rintro ⟨rest, rfl, bytes, decoded, sized⟩
    split at sized
    · rw [Option.some.injEq] at sized
      subst sized
      have spelled : base64UrlSafeNoPad bytes = rest := by
        rw [base64UrlSafeNoPad, base64Chars_bytes decoded, String.ofList_toList]
      rw [Vector.toList_mk, List.toList_toArray, spelled]
    · cases sized
  · rintro rfl
    refine ⟨_, rfl, payload.toList, ?_, ?_⟩
    · rw [base64UrlSafeNoPad, String.toList_ofList, base64Bytes_chars]
    · have length : payload.toList.length = secretPayloadLen := payload.length_toList
      rw [dif_pos length, Option.some.injEq, ← Vector.toList_inj, Vector.toList_mk,
        List.toList_toArray]

/-- A credential is a nonempty text of display characters. -/
theorem credential_shown (payload displayRandom : List UInt8) :
    (assembleCredential hashCredential payload displayRandom).credential ≠ "" ∧
      ∀ c ∈ (assembleCredential hashCredential payload displayRandom).credential.toList,
        isDisplayChar c := by
  have characters : (assembleCredential hashCredential payload displayRandom).credential.toList =
      credentialPrefix.toList ++ base64Chars payload := by
    rw [assembleCredential, String.toList_append, base64UrlSafeNoPad, String.toList_ofList]
  constructor
  · intro empty
    rw [empty] at characters
    cases characters
  · intro c member
    rw [characters, List.mem_append] at member
    cases member with
    | inl start =>
        have letters : credentialPrefix.toList = ['o', 'p', 'm', 'x', '_', 'v', '1', '_'] := rfl
        have shown : ['o', 'p', 'm', 'x', '_', 'v', '1', '_'].all isDisplayChar := rfl
        rw [letters] at start
        exact List.all_eq_true.mp shown c start
    | inr encoded => exact base64Chars_display payload c encoded

end Credentials

/-- The digest of a key that a request stores. -/
def AuthRequest.storedDigest : AuthRequest → Option KeyDigest
  | .store (.insertKey key) | .store (.provisionClientWithKey _ key) => some key.digest
  | _ => none

/-- The digest that a request looks a presented key up by. -/
def AuthRequest.presentedDigest : AuthRequest → Option KeyDigest
  | .store (.authenticateDigest digest _) => some digest
  | _ => none

abbrev AuthTrace (Stamp : Type) := List (Exchange AuthRequest AuthRequest.Reply Stamp)

section Digests

variable {Stamp : Type} {hashCredential : String → KeyDigest}

-- The check of a name has no use here, and its string operations reduce slowly.
attribute [local irreducible] validateName

/-- An issuance is a finished run of one of the two issuing operations. -/
inductive Issues (hashCredential : String → KeyDigest) : AuthTrace Stamp → IssuedKey → Prop
  | key {trace : AuthTrace Stamp} {clientId : Uuid} {kind : ApiKeyKind} {name : String}
      {issued : IssuedKey}
      (run : Program.Runs (ProvisioningService.issueKey hashCredential clientId kind name).run
        trace (some (.ok issued))) : Issues hashCredential trace issued
  | tenant {trace : AuthTrace Stamp} {displayName : String} {created : CreatedTenant}
      (run : Program.Runs (ProvisioningService.createTenant hashCredential displayName).run
        trace (some (.ok created))) : Issues hashCredential trace created.key

/-- The digests that a trace stores. -/
def storedDigests (trace : AuthTrace Stamp) : List KeyDigest :=
  (trace.map Exchange.request).filterMap AuthRequest.storedDigest

@[simp] theorem storedDigests_append (first second : AuthTrace Stamp) :
    storedDigests (first ++ second) = storedDigests first ++ storedDigests second := by
  rw [storedDigests, List.map_append, List.filterMap_append]
  rfl

theorem fillBytes_of_runs {trace : AuthTrace Stamp} {count : Nat} {bytes : Vector UInt8 count}
    (run : Program.Runs (fillBytes count).run trace (some (.ok bytes))) :
    storedDigests trace = [] := by
  obtain ⟨before, reply, after, rfl, first, second⟩ := Program.runs_except_bind_ok.mp run
  obtain ⟨reply, stamp, rfl, same⟩ := Program.runs_request.mp (Program.runs_except_lift_ok.mp first)
  cases same
  cases reply with
  | none => cases second.2
  | some filled =>
      obtain ⟨rfl, -⟩ := second
      rfl

/-- Generation asks for entropy only, and it assembles the credential from it. -/
theorem generated_of_runs {trace : AuthTrace Stamp} {generated : GeneratedCredential}
    (run : Program.Runs (generateCredential hashCredential).run trace (some (.ok generated))) :
    (∃ payload : Vector UInt8 secretPayloadLen, ∃ displayRandom : Vector UInt8 displayIdRandomLen,
      generated = assembleCredential hashCredential payload.toList displayRandom.toList) ∧
      storedDigests trace = [] := by
  obtain ⟨before, payload, rest, rfl, secret, run⟩ := Program.runs_except_bind_ok.mp run
  obtain ⟨middle, displayRandom, after, rfl, display, run⟩ := Program.runs_except_bind_ok.mp run
  obtain ⟨rfl, same⟩ := run
  have first := fillBytes_of_runs secret
  have second := fillBytes_of_runs display
  cases same
  refine ⟨⟨payload, displayRandom, rfl⟩, ?_⟩
  rw [storedDigests_append, storedDigests_append, first, second]
  rfl

theorem provisionStore_of_runs {trace : AuthTrace Stamp} {request : StoreRequest}
    {value : request.Value}
    (run : Program.Runs (provisionStore request).run trace (some (.ok value))) :
    storedDigests trace = (AuthRequest.store request).storedDigest.toList := by
  obtain ⟨before, answer, after, rfl, first, second⟩ := Program.runs_except_bind_ok.mp run
  have called := Program.runs_except_lift_ok.mp first
  cases answer with
  | error error => cases second.2
  | ok value =>
      obtain ⟨rfl, -⟩ := second
      have asked : before.map Exchange.request = [.store request] := by
        rcases Program.runs_bind.mp called with ⟨asking, reply, rest, rfl, one, two⟩ | ⟨dropped, -⟩
        · obtain ⟨_, stamp, rfl, same⟩ := Program.runs_request.mp one
          cases same
          cases reply with
          | none => cases two.2
          | some answered =>
              obtain ⟨rfl, -⟩ := two
              rfl
        · cases dropped
      rw [List.append_nil, storedDigests, asked, List.filterMap_cons]
      cases (AuthRequest.store request).storedDigest with
      | none => rfl
      | some digest => rfl

/-- A reading of the clock stores nothing. -/
theorem lifted_of_runs {trace : AuthTrace Stamp} {request : AuthRequest} {Error : Type}
    {reply : request.Reply} (unstored : request.storedDigest = none)
    (run : Program.Runs (liftM (Program.request request : AuthProgram request.Reply) :
      ExceptT Error AuthProgram request.Reply).run trace (some (.ok reply))) :
    storedDigests trace = [] := by
  obtain ⟨reply, stamp, rfl, -⟩ := Program.runs_request.mp (Program.runs_except_lift_ok.mp run)
  rw [storedDigests, List.map_cons, List.map_nil, List.filterMap_cons, unstored]
  rfl

/-- An issuance stores one key, and its digest is that of the credential that it returns. -/
theorem Issues.stores {trace : AuthTrace Stamp} {issued : IssuedKey}
    (issues : Issues hashCredential trace issued) :
    (∃ payload : Vector UInt8 secretPayloadLen, ∃ displayRandom : Vector UInt8 displayIdRandomLen,
      issued.credential =
        (assembleCredential hashCredential payload.toList displayRandom.toList).credential) ∧
      storedDigests trace = [hashCredential issued.credential] := by
  cases issues with
  | key run =>
      simp only [ProvisioningService.issueKey, Program.runs_except_bind_ok] at run
      obtain ⟨before, name, _, rfl, ⟨rfl, -⟩, generating, generated, _, rfl, generation,
        naming, id, _, rfl, named, reading, now, _, rfl, read, storing, record, _, rfl, stored,
        rfl, same⟩ := run
      obtain ⟨⟨payload, displayRandom, rfl⟩, generates⟩ := generated_of_runs generation
      cases same
      refine ⟨⟨payload, displayRandom, rfl⟩, ?_⟩
      simp only [storedDigests_append, generates, lifted_of_runs rfl named,
        lifted_of_runs rfl read, provisionStore_of_runs stored]
      rfl
  | tenant run =>
      simp only [ProvisioningService.createTenant, Program.runs_except_bind_ok] at run
      obtain ⟨before, name, _, rfl, ⟨rfl, -⟩, generating, generated, _, rfl, generation,
        reading, now, _, rfl, read, owning, owner, _, rfl, owned, naming, id, _, rfl, named,
        storing, records, _, rfl, stored, rfl, same⟩ := run
      obtain ⟨⟨payload, displayRandom, rfl⟩, generates⟩ := generated_of_runs generation
      cases same
      refine ⟨⟨payload, displayRandom, rfl⟩, ?_⟩
      simp only [storedDigests_append, generates, lifted_of_runs rfl read,
        lifted_of_runs rfl owned, lifted_of_runs rfl named, provisionStore_of_runs stored]
      rfl

/-- The digests that a trace looks presented keys up by. -/
def presentedDigests (trace : AuthTrace Stamp) : List KeyDigest :=
  (trace.map Exchange.request).filterMap AuthRequest.presentedDigest

/-- Every authentication looks the digest of the presented key up once. -/
theorem authenticate_presents {trace : AuthTrace Stamp} {presented : String}
    {outcome : Option (Except AuthenticateError AuthContext)}
    (run : Program.Runs (AuthService.authenticate hashCredential presented).run trace outcome) :
    presentedDigests trace = [hashCredential presented] := by
  obtain ⟨now, stamp, rest, rfl, answer, later, last, rfl, run⟩ := run
  have finished : last = [] := by
    match answer with
    | none => exact run.1
    | some (.error error) => exact run.1
    | some (.ok none) => exact run.1
    | some (.ok (some record)) =>
        change Program.Runs (ExceptT.run (ite _ _ _)) last outcome at run
        split at run
        · exact run.1
        · exact run.1
  rw [finished]
  rfl

/-- Issued credentials are read back, have one spelling, and are looked up as they are stored. -/
theorem credentials_round_trip (hashCredential : String → KeyDigest) :
    (∀ (payload : Vector UInt8 secretPayloadLen) (displayRandom : Vector UInt8 displayIdRandomLen),
      let generated := assembleCredential hashCredential payload.toList displayRandom.toList
      parseCredentialPayload generated.credential = some payload ∧
        presentedApiKey [headerValue generated.credential] = .value generated.credential ∧
        ∀ (other : Vector UInt8 secretPayloadLen) (otherRandom : Vector UInt8 displayIdRandomLen),
          payload ≠ other →
            generated.credential ≠
              (assembleCredential hashCredential other.toList otherRandom.toList).credential) ∧
      (∀ text payload, parseCredentialPayload text = some payload →
        ∀ displayRandom : Vector UInt8 displayIdRandomLen,
          text =
            (assembleCredential hashCredential payload.toList displayRandom.toList).credential) ∧
      ∀ (issuance : AuthTrace Stamp) (issued : IssuedKey),
        Issues hashCredential issuance issued →
          presentedApiKey [headerValue issued.credential] = .value issued.credential ∧
            ∃ digest, storedDigests issuance = [digest] ∧
              ∀ (trace : AuthTrace Stamp) (outcome : Option (Except AuthenticateError AuthContext)),
                Program.Runs (AuthService.authenticate hashCredential issued.credential).run
                  trace outcome → presentedDigests trace = [digest] := by
  refine ⟨fun payload displayRandom => ⟨?_, ?_, ?_⟩, ?_, ?_⟩
  · exact (parseCredentialPayload_eq_some displayRandom.toList).mpr rfl
  · obtain ⟨nonempty, shown⟩ := credential_shown payload.toList displayRandom.toList
    exact presentedApiKey_value nonempty shown
  · intro other otherRandom different same
    have first := (parseCredentialPayload_eq_some displayRandom.toList).mpr
      (rfl : (assembleCredential hashCredential payload.toList displayRandom.toList).credential = _)
    rw [same, (parseCredentialPayload_eq_some otherRandom.toList).mpr rfl] at first
    exact different (Option.some.inj first).symm
  · intro text payload parsed displayRandom
    exact (parseCredentialPayload_eq_some displayRandom.toList).mp parsed
  · intro issuance issued issues
    obtain ⟨⟨payload, displayRandom, assembled⟩, stored⟩ := issues.stores
    obtain ⟨nonempty, shown⟩ := credential_shown payload.toList displayRandom.toList
    rw [← assembled] at nonempty shown
    refine ⟨presentedApiKey_value nonempty shown, _, stored, ?_⟩
    intro trace outcome run
    exact authenticate_presents run

def zeroHash (_ : String) : KeyDigest := ⟨List.replicate keyDigestLen 0, List.length_replicate⟩

/-- A replica with zero entropy beside an empty database. -/
def firstReplica : Replica :=
  ⟨.empty, [10], [1, 2], List.replicate 2 fun count => some (Vector.replicate count 0)⟩

def firstTenant : AuthTrace Unit × Option (Except ProvisionError CreatedTenant) :=
  (ProvisioningService.createTenant zeroHash "acme").run.drive
    (fun replica request => ((Replica.answer replica request).1, (),
      (Replica.answer replica request).2)) firstReplica

def firstKey : IssuedKey :=
  ⟨1, 2, "opk_AAAAAAAAAAAAAAAAAAAAAA", "initial-management", "management", 10,
    "opmx_v1_AAAAAAAAAAAAAAAAAAAAAAAAAAAAAAAAAAAAAAAAAAA"⟩

example : Issues zeroHash firstTenant.1 firstKey := by
  have finished : firstTenant.2 = some (.ok ⟨"acme", firstKey⟩) := by decide +kernel
  have run : Program.Runs (ProvisioningService.createTenant zeroHash "acme").run firstTenant.1
      firstTenant.2 := Program.runs_drive _ _ _
  rw [finished] at run
  exact .tenant run

end Digests

end Opmux.Auth
