import OpmuxGateway.Construction.Auth.Service

/-
This file gives the decoding of issued credentials and the reading of the key header.
-/

namespace Opmux.Auth

/-- A character outside of the URL-safe alphabet has no value. -/
def base64Value (c : Char) : Option Nat :=
  if 65 ≤ c.toNat ∧ c.toNat < 91 then some (c.toNat - 65)
  else if 97 ≤ c.toNat ∧ c.toNat < 123 then some (c.toNat - 71)
  else if 48 ≤ c.toNat ∧ c.toNat < 58 then some (c.toNat + 4)
  else if c = '-' then some 62
  else if c = '_' then some 63
  else none

/-- A last group of one character and a last group with spare bits that are set are refused. -/
def base64Bytes : List Char → Option (List UInt8)
  | first :: second :: third :: fourth :: rest => do
      let value := (← base64Value first) * 262144 + (← base64Value second) * 4096 +
        (← base64Value third) * 64 + (← base64Value fourth)
      let bytes ← base64Bytes rest
      pure (UInt8.ofNat (value / 65536) :: UInt8.ofNat (value / 256 % 256) ::
        UInt8.ofNat (value % 256) :: bytes)
  | [first, second, third] => do
      let value := (← base64Value first) * 4096 + (← base64Value second) * 64 +
        (← base64Value third)
      guard (value % 4 = 0)
      pure [UInt8.ofNat (value / 1024), UInt8.ofNat (value / 4 % 256)]
  | [first, second] => do
      let value := (← base64Value first) * 64 + (← base64Value second)
      guard (value % 16 = 0)
      pure [UInt8.ofNat (value / 16)]
  | [_] => none
  | [] => some []

/-- This operation is `str::strip_prefix`. -/
def stripPrefix (text start : String) : Option String :=
  if text.toList.take start.length = start.toList then
    some (String.ofList (text.toList.drop start.length))
  else none

/-- The payload of a credential has exactly 32 bytes. -/
def parseCredentialPayload (credential : String) : Option (Vector UInt8 secretPayloadLen) := do
  let rest ← stripPrefix credential credentialPrefix
  let bytes ← base64Bytes rest.toList
  if length : bytes.length = secretPayloadLen then some ⟨bytes.toArray, by simpa using length⟩
  else none

inductive PresentedKey where
  | missing
  | invalid
  | value (text : String)
  deriving DecidableEq, Repr

/-- The argument lists the values of the header `X-API-Key` in the order of the request. -/
def presentedApiKey (values : List (List UInt8)) : PresentedKey :=
  match values with
  | [] => .missing
  | first :: rest =>
      if !rest.isEmpty then .invalid
      else
        match headerToStr first with
        | none => .invalid
        | some text =>
            if text.isEmpty || trim text != text || (trim text).isEmpty ||
                text.toList.contains ',' then
              .invalid
            else .value text

/-- A header value that is written as text carries the bytes of its UTF-8. -/
def headerValue (text : String) : List UInt8 := text.toList.flatMap String.utf8EncodeChar

end Opmux.Auth
