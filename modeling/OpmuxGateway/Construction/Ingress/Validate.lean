import OpmuxGateway.Construction.Core.Catalog
import OpmuxGateway.Construction.Executor.Models

/-
This file gives the parser and the bounds of a generation request.
-/

namespace Opmux.Ingress

open Executor (ExecutorError)

inductive IngressError where
  | invalidRequest (message : String)
  | authenticationRequired
  | authorizationFailed
  | requestOrchestrationFailed
  | payloadTooLarge
  | overloaded
  | draining
  | executionFailed (error : ExecutorError)
  deriving DecidableEq, Repr

structure GenerationParameters where
  temperature : Option JsonNumber
  topP : Option JsonNumber
  maxTokens : Option UInt32
  deriving DecidableEq, Repr

structure IngressRequest where
  prompt : String
  metadata : Json
  route : Option String
  allowFallback : Option Bool
  parameters : GenerationParameters

def minTemperature : Nat := 0

def maxTemperature : Nat := 2

def minTopP : Nat := 0

def maxTopP : Nat := 1

/-- Each bound is a whole number, and its text shows one decimal digit. -/
def boundText (bound : Nat) : String := toString bound ++ ".0"

def parsePrompt (value : Json) : Except IngressError String :=
  match value.asStr with
  | some prompt => .ok prompt
  | none => .error (.invalidRequest "prompt must be a string")

def parseStringControl (value : Json) (field : String) : Except IngressError String :=
  match value.asStr with
  | some control => .ok control
  | none => .error (.invalidRequest (field ++ " must be a string"))

def parseBoolControl (value : Json) (field : String) : Except IngressError Bool :=
  match value.asBool with
  | some control => .ok control
  | none => .error (.invalidRequest (field ++ " must be a boolean"))

/-- A double lies inside its bounds when it is finite and compares with both of them. -/
def insideBounds (value : F64) (min max : Nat) : Bool :=
  match value with
  | .finite value => decide ((min : ℚ) ≤ value) && decide (value ≤ max)
  | .nan | .infinite _ => false

/-- The number of the client is kept, and only its double is compared with the bounds. -/
def parseBoundedNumber (value : Json) (field : String) (min max : Nat) :
    Except IngressError JsonNumber :=
  match value with
  | .number number =>
      if insideBounds number.asF64 min max then .ok number
      else .error (.invalidRequest
        (field ++ " must be between " ++ boundText min ++ " and " ++ boundText max))
  | _ => .error (.invalidRequest (field ++ " must be a number"))

/-- This conversion is `u32::try_from` on an unsigned integer. -/
def tryU32 (value : Nat) : Option UInt32 :=
  if value ≤ u32Max then some (UInt32.ofNat value) else none

def parseMaxTokens (value : Json) : Except IngressError UInt32 :=
  match (value.asU64.bind tryU32).filter fun parsed => decide (0 < parsed) with
  | some parsed => .ok parsed
  | none => .error (.invalidRequest "max_tokens must be a positive integer")

/-- One entry of the parameters sets its own field. -/
def readParameter (parameters : GenerationParameters) (entry : String × Json) :
    Except IngressError GenerationParameters :=
  match entry.1 with
  | "temperature" => do
      let temperature ← parseBoundedNumber entry.2 "temperature" minTemperature maxTemperature
      return { parameters with temperature := some temperature }
  | "top_p" => do
      let topP ← parseBoundedNumber entry.2 "top_p" minTopP maxTopP
      return { parameters with topP := some topP }
  | "max_tokens" => do
      let maxTokens ← parseMaxTokens entry.2
      return { parameters with maxTokens := some maxTokens }
  | _ => .error (.invalidRequest "unknown parameter")

def GenerationParameters.default : GenerationParameters := ⟨none, none, none⟩

def parseParameters (value : Json) : Except IngressError GenerationParameters :=
  match value.asObject with
  | none => .error (.invalidRequest "parameters must be an object")
  | some entries => entries.foldlM readParameter GenerationParameters.default

/-- The controls of a request are read one after the other. -/
structure Controls where
  prompt : Option String
  metadata : Option Json
  route : Option String
  allowFallback : Option Bool
  parameters : GenerationParameters

/-- One entry of the body sets its own control. -/
def readControl (controls : Controls) (entry : String × Json) : Except IngressError Controls :=
  match entry.1 with
  | "prompt" => do
      let prompt ← parsePrompt entry.2
      return { controls with prompt := some prompt }
  | "metadata" => return { controls with metadata := some entry.2 }
  | "route" => do
      let route ← parseStringControl entry.2 "route"
      return { controls with route := some route }
  | "allow_fallback" => do
      let allowFallback ← parseBoolControl entry.2 "allow_fallback"
      return { controls with allowFallback := some allowFallback }
  | "parameters" => do
      let parameters ← parseParameters entry.2
      return { controls with parameters := parameters }
  | "stream" => .error (.invalidRequest "stream is not supported")
  | "rewrite" => .error (.invalidRequest "rewrite is not supported")
  | _ => .error (.invalidRequest "unknown control")

/-- The bound of the characters also bounds the bytes. -/
def validatePromptBounds (prompt : String) (limits : PolicyLimits) : Except IngressError Unit :=
  if trim prompt = "" then .error (.invalidRequest "Prompt cannot be empty")
  else if limits.maxPromptChars < prompt.length then
    .error (.invalidRequest ("Prompt exceeds maximum length of " ++
      toString limits.maxPromptChars ++ " characters"))
  else if limits.maxPromptChars < prompt.utf8ByteSize then
    .error (.invalidRequest ("Prompt exceeds maximum size of " ++
      toString limits.maxPromptChars ++ " bytes"))
  else .ok ()

section Serialization

-- The serialization of a parsed value is the one of the JSON library.
variable (toVec : Json → Option (List UInt8))

def validateMetadataSize (metadata : Json) (limits : PolicyLimits) : Except IngressError Unit :=
  if limits.maxMetadataBytes < ((toVec metadata.canonical).map List.length).getD u64Max then
    .error (.invalidRequest ("Metadata exceeds maximum size of " ++
      toString limits.maxMetadataBytes ++ " bytes"))
  else .ok ()

/-- A request has a prompt and metadata, and both of them are bounded. -/
def parseIngressRequest (body : Json) (limits : PolicyLimits) :
    Except IngressError IngressRequest :=
  match body.asObject with
  | none => .error (.invalidRequest "request must be a JSON object")
  | some entries => do
      let controls ← entries.foldlM readControl
        (⟨none, none, none, none, GenerationParameters.default⟩ : Controls)
      match controls.prompt, controls.metadata with
      | none, _ => .error (.invalidRequest "prompt is required")
      | some _, none => .error (.invalidRequest "metadata is required")
      | some prompt, some metadata => do
          validatePromptBounds prompt limits
          validateMetadataSize toVec metadata limits
          return ⟨prompt, metadata, controls.route, controls.allowFallback, controls.parameters⟩

end Serialization

end Opmux.Ingress
