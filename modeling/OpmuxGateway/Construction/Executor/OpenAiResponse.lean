import OpmuxGateway.Construction.Executor.Repository

/-
This file gives the validation of a successful chat completion and its estimated cost.
-/

namespace Opmux.Executor

/-- This value is `i64::MAX`. -/
def i64Max : Int := 9223372036854775807

/-- A double is finite and not below zero. -/
def F64.isFiniteNonnegative : F64 → Bool
  | .finite value => decide (0 ≤ value)
  | .nan | .infinite _ => false

/-- The double arithmetic gives the unrounded estimate and its rounding to eight places. -/
structure CostArithmetic where
  cost : Int → Int → ModelPricing → F64
  round : F64 → F64

def estimateSuccessfulResponseCost (arithmetic : CostArithmetic)
    (promptTokens completionTokens : Int) (pricing : Option ModelPricing) :
    Except ExecutorError F64 :=
  match pricing with
  | none => .error .missingPricing
  | some pricing =>
      if promptTokens < 0 ∨ completionTokens < 0 then .error .invalidUpstreamResult
      else if (F64.isFiniteNonnegative pricing.inputPerMillion &&
          F64.isFiniteNonnegative pricing.outputPerMillion) = false then .error .missingPricing
      else
        let cost := arithmetic.cost promptTokens completionTokens pricing
        if F64.isFiniteNonnegative cost = false then .error .invalidUpstreamResult
        else .ok (arithmetic.round cost)

def malformedJson : String := "malformed upstream JSON"

/-- A required object is `as_object` with the error of an invalid result. -/
def requiredObject : Option Json → Except ExecutorError Json
  | some (.object entries) => .ok (.object entries)
  | _ => .error .invalidUpstreamResult

/-- A required array is `as_array` with the error of an invalid result. -/
def requiredArray : Option Json → Except ExecutorError (List Json)
  | some (.array items) => .ok items
  | _ => .error .invalidUpstreamResult

def requiredString : Option Json → Except ExecutorError String
  | some (.string text) => .ok text
  | _ => .error .invalidUpstreamResult

def requiredNonemptyString (value : Option Json) : Except ExecutorError String := do
  let text ← requiredString value
  if text.isEmpty then .error .invalidUpstreamResult else .ok text

def requiredAssistantRole (value : Option Json) : Except ExecutorError String := do
  let role ← requiredString value
  if role ≠ "assistant" then .error .invalidUpstreamResult else .ok role

/-- This conversion is `i64::try_from` of an unsigned integer. -/
def tokensOfU64 (value : Nat) : Except ExecutorError Int :=
  if (value : Int) ≤ i64Max then .ok value else .error .invalidUpstreamResult

def tokensOfNumber (number : JsonNumber) : Except ExecutorError Int :=
  match number.asI64 with
  | some value => .ok value
  | none =>
      match number.asU64 with
      | some value => tokensOfU64 value
      | none => .error .invalidUpstreamResult

def requiredTokenCount : Option Json → Except ExecutorError Int
  | some (.number number) => do
      let tokens ← tokensOfNumber number
      if tokens < 0 then .error .invalidUpstreamResult else .ok tokens
  | _ => .error .invalidUpstreamResult

/-- This operation is `i64::checked_add` on two token counts. -/
def checkedAdd (first second : Int) : Except ExecutorError Int :=
  if -i64Max - 1 ≤ first + second ∧ first + second ≤ i64Max then .ok (first + second)
  else .error .invalidUpstreamResult

/-- The checks run in the order of the source, and the first failed check gives the error. -/
def validateChatCompletion (arithmetic : CostArithmetic) (value : Json)
    (pricing : Option ModelPricing) : Except ExecutorError ExecutionResult := do
  let object ← requiredObject (some value)
  let modelUsed ← requiredNonemptyString (object.get "model")
  let choices ← requiredArray (object.get "choices")
  let choice ← requiredObject choices.head?
  let message ← requiredObject (choice.get "message")
  let content ← requiredString (message.get "content")
  let role ← requiredAssistantRole (message.get "role")
  let finishReason ← requiredNonemptyString (choice.get "finish_reason")
  let usage ← requiredObject (object.get "usage")
  let promptTokens ← requiredTokenCount (usage.get "prompt_tokens")
  let completionTokens ← requiredTokenCount (usage.get "completion_tokens")
  let totalTokens ← requiredTokenCount (usage.get "total_tokens")
  let expectedTotal ← checkedAdd promptTokens completionTokens
  if totalTokens ≠ expectedTotal then .error .invalidUpstreamResult
  else do
    let totalCost ← estimateSuccessfulResponseCost arithmetic promptTokens completionTokens pricing
    .ok ⟨content, role, modelUsed, promptTokens, completionTokens, totalCost, finishReason⟩

def parseSuccessfulChatCompletion (arithmetic : CostArithmetic)
    (fromSlice : List UInt8 → Option Json) (body : List UInt8) (pricing : Option ModelPricing) :
    Except ExecutorError ExecutionResult :=
  match fromSlice body with
  | none => .error (.jsonError malformedJson)
  | some value => validateChatCompletion arithmetic value pricing

end Opmux.Executor
