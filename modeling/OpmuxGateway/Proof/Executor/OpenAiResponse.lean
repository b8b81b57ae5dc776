import OpmuxGateway.Construction.Executor.OpenAiResponse
import OpmuxGateway.Construction.Executor.Service
import OpmuxGateway.Library.Outcomes

/-
This file proves that the response parser accepts exactly the valid chat completions.
-/

namespace Opmux.Executor

open Except (bind_eq_ok)

/-- A JSON number is an integer with a given value. -/
def IsInteger (value : Int) : JsonNumber → Prop
  | .posInt number => value = number.toNat
  | .negInt number => value = number.toInt
  | .float _ => False

/-- A token count is an integer from zero to `i64::MAX`. -/
def IsTokenCount (field : Option Json) (count : Int) : Prop :=
  ∃ number, field = some (.number number) ∧ IsInteger count number ∧ 0 ≤ count ∧ count ≤ i64Max

/-- The first choice has a text message of the assistant and a reason for its end. -/
def IsChoice (choice : Json) (content finishReason : String) : Prop :=
  (∃ message, choice.get "message" = some (.object message) ∧
    (Json.object message).get "content" = some (.string content) ∧
    (Json.object message).get "role" = some (.string "assistant")) ∧
  choice.get "finish_reason" = some (.string finishReason) ∧ finishReason ≠ ""

/-- The usage has both counts and their sum. -/
def IsUsage (usage : Json) (promptTokens completionTokens : Int) : Prop :=
  IsTokenCount (usage.get "prompt_tokens") promptTokens ∧
    IsTokenCount (usage.get "completion_tokens") completionTokens ∧
    IsTokenCount (usage.get "total_tokens") (promptTokens + completionTokens)

/-- A chat completion is an object with a model, a first choice, and a usage. -/
structure IsChatCompletion (value : Json) (result : ExecutionResult) : Prop where
  object : ∃ entries, value = .object entries
  model : value.get "model" = some (.string result.modelUsed)
  named : result.modelUsed ≠ ""
  choice : ∃ entries rest, value.get "choices" = some (.array (.object entries :: rest)) ∧
    IsChoice (.object entries) result.content result.finishReason
  role : result.role = "assistant"
  usage : ∃ entries, value.get "usage" = some (.object entries) ∧
    IsUsage (.object entries) result.promptTokens result.completionTokens

section Required

variable {field : Option Json}

theorem requiredObject_eq_ok {object : Json} :
    requiredObject field = .ok object ↔
      ∃ entries, object = .object entries ∧ field = some (.object entries) := by
  unfold requiredObject
  split
  · simp [eq_comm]
  · rename_i other
    simp only [reduceCtorEq, false_iff, not_exists, not_and]
    exact fun entries _ same => other entries same

theorem requiredArray_eq_ok {items : List Json} :
    requiredArray field = .ok items ↔ field = some (.array items) := by
  unfold requiredArray
  split
  · simp
  · rename_i other
    simp only [reduceCtorEq, false_iff]
    exact other items

theorem requiredString_eq_ok {text : String} :
    requiredString field = .ok text ↔ field = some (.string text) := by
  unfold requiredString
  split
  · simp
  · rename_i other
    simp only [reduceCtorEq, false_iff]
    exact other text

theorem requiredNonemptyString_eq_ok {text : String} :
    requiredNonemptyString field = .ok text ↔ field = some (.string text) ∧ text ≠ "" := by
  unfold requiredNonemptyString
  rw [bind_eq_ok]
  constructor
  · rintro ⟨value, read, checked⟩
    split at checked
    · cases checked
    · rename_i nonempty
      cases checked
      exact ⟨requiredString_eq_ok.mp read, by simpa using nonempty⟩
  · rintro ⟨rfl, nonempty⟩
    exact ⟨text, rfl, by simp [nonempty]⟩

theorem requiredAssistantRole_eq_ok {role : String} :
    requiredAssistantRole field = .ok role ↔
      field = some (.string "assistant") ∧ role = "assistant" := by
  unfold requiredAssistantRole
  rw [bind_eq_ok]
  constructor
  · rintro ⟨value, read, checked⟩
    split at checked
    · cases checked
    · rename_i assistant
      cases checked
      cases not_not.mp assistant
      exact ⟨requiredString_eq_ok.mp read, rfl⟩
  · rintro ⟨rfl, rfl⟩
    exact ⟨"assistant", rfl, rfl⟩

/-- Both integer forms of a number give the tokens up to `i64::MAX`. -/
theorem tokensOfNumber_eq_ok {number : JsonNumber} {count : Int} :
    tokensOfNumber number = .ok count ↔ IsInteger count number ∧ count ≤ i64Max := by
  have limit : i64Max = 2 ^ 63 - 1 := by norm_num [i64Max]
  cases number with
  | posInt value =>
      by_cases small : value.toNat < 2 ^ 63
      · simp only [tokensOfNumber, JsonNumber.asI64, if_pos small, Except.ok.injEq, IsInteger]
        omega
      · simp only [tokensOfNumber, JsonNumber.asI64, if_neg small, JsonNumber.asU64, tokensOfU64,
          IsInteger]
        rw [if_neg (by omega)]
        simp only [reduceCtorEq, false_iff]
        omega
  | negInt value =>
      have bound := value.toInt_lt
      simp only [tokensOfNumber, JsonNumber.asI64, Except.ok.injEq, IsInteger]
      omega
  | float value => simp [tokensOfNumber, JsonNumber.asI64, JsonNumber.asU64, IsInteger]

theorem requiredTokenCount_eq_ok {count : Int} :
    requiredTokenCount field = .ok count ↔ IsTokenCount field count := by
  unfold requiredTokenCount IsTokenCount
  split
  · rename_i number
    rw [bind_eq_ok]
    constructor
    · rintro ⟨tokens, read, checked⟩
      split at checked
      · cases checked
      · rename_i nonnegative
        cases checked
        obtain ⟨integer, bounded⟩ := tokensOfNumber_eq_ok.mp read
        exact ⟨number, rfl, integer, not_lt.mp nonnegative, bounded⟩
    · rintro ⟨_, ⟨rfl⟩, integer, nonnegative, bounded⟩
      exact ⟨count, tokensOfNumber_eq_ok.mpr ⟨integer, bounded⟩, if_neg (not_lt.mpr nonnegative)⟩
  · rename_i other
    simp only [reduceCtorEq, false_iff, not_exists, not_and]
    exact fun number same => absurd same (other number)

theorem checkedAdd_eq_ok {first second sum : Int} :
    checkedAdd first second = .ok sum ↔
      sum = first + second ∧ -i64Max - 1 ≤ sum ∧ sum ≤ i64Max := by
  unfold checkedAdd
  split
  · rename_i fits
    constructor
    · rintro ⟨⟩
      exact ⟨rfl, fits⟩
    · rintro ⟨rfl, _⟩
      rfl
  · rename_i exceeds
    simp only [reduceCtorEq, false_iff, not_and]
    rintro rfl low high
    exact exceeds ⟨low, high⟩

end Required

section Parser

variable {arithmetic : CostArithmetic} {fromSlice : List UInt8 → Option Json}
  {body : List UInt8} {value : Json} {pricing : Option ModelPricing} {result : ExecutionResult}

/-- The validation accepts exactly the chat completions with an estimated cost. -/
theorem validateChatCompletion_eq_ok :
    validateChatCompletion arithmetic value pricing = .ok result ↔
      IsChatCompletion value result ∧
        estimateSuccessfulResponseCost arithmetic result.promptTokens result.completionTokens
          pricing = .ok result.totalCost := by
  unfold validateChatCompletion
  simp only [bind_eq_ok, requiredObject_eq_ok, requiredArray_eq_ok, requiredString_eq_ok,
    requiredNonemptyString_eq_ok, requiredAssistantRole_eq_ok, requiredTokenCount_eq_ok,
    checkedAdd_eq_ok]
  constructor
  · rintro ⟨_, ⟨entries, rfl, ⟨rfl⟩⟩, modelUsed, ⟨model, named⟩, choices, listed, _,
      ⟨choice, rfl, first⟩, _, ⟨message, rfl, found⟩, content, text, role, ⟨assistant, rfl⟩,
      finishReason, ⟨finish, ended⟩, _, ⟨usage, rfl, used⟩, promptTokens, prompt,
      completionTokens, completion, totalTokens, total, _, ⟨rfl, _⟩, checked⟩
    split at checked
    · cases checked
    · rename_i same
      cases not_not.mp same
      obtain ⟨totalCost, estimated, ⟨rfl⟩⟩ := bind_eq_ok.mp checked
      obtain ⟨rest, rfl⟩ : ∃ rest, choices = .object choice :: rest := by
        cases choices with
        | nil => cases first
        | cons head rest =>
            cases first
            exact ⟨rest, rfl⟩
      exact ⟨⟨⟨entries, rfl⟩, model, named, ⟨choice, rest, listed, ⟨message, found, text, assistant⟩,
        finish, ended⟩, rfl, usage, used, prompt, completion, total⟩, estimated⟩
  · rintro ⟨⟨⟨entries, rfl⟩, model, named, ⟨choice, rest, listed, ⟨message, found, text, assistant⟩,
      finish, ended⟩, role, usage, used, prompt, completion, total⟩, estimated⟩
    have sum := total
    obtain ⟨_, _, _, least, most⟩ := sum
    have bound : -i64Max - 1 ≤ 0 := by norm_num [i64Max]
    refine ⟨_, ⟨entries, rfl, rfl⟩, result.modelUsed, ⟨model, named⟩, _, listed, _,
      ⟨choice, rfl, rfl⟩, _, ⟨message, rfl, found⟩, result.content, text, "assistant",
      ⟨assistant, rfl⟩, result.finishReason, ⟨finish, ended⟩, _, ⟨usage, rfl, used⟩,
      result.promptTokens, prompt, result.completionTokens, completion, _, total, _,
      ⟨rfl, by omega, most⟩, ?_⟩
    rw [if_neg (not_not.mpr rfl), estimated, ← role]
    rfl

/-- The parser fails with malformed JSON, with an invalid result, or without its prices. -/
def IsResponseFault (error : ExecutorError) : Prop :=
  error = .jsonError malformedJson ∨ error = .invalidUpstreamResult ∨ error = .missingPricing

/-- A response fault is never retried, never switches its target, and never counts. -/
theorem IsResponseFault.permanent {error : ExecutorError} (fault : IsResponseFault error) :
    isRetryableError error = false ∧ isFallbackEligible error = false ∧
      isCircuitFailure error = false := by
  rcases fault with rfl | rfl | rfl
  · exact ⟨rfl, rfl, rfl⟩
  · exact ⟨rfl, rfl, rfl⟩
  · exact ⟨rfl, rfl, rfl⟩

/-- A response fault finishes its attempt, and its permit is settled without a failure. -/
theorem IsResponseFault.settled {error : ExecutorError} (fault : IsResponseFault error)
    (permit : Circuit.CircuitPermit) :
    settleProbe permit (.error error) = settle permit .permanent ∧
      settleClosed permit (.error error) = dropPermit permit := by
  rcases fault with rfl | rfl | rfl
  · exact ⟨rfl, rfl⟩
  · exact ⟨rfl, rfl⟩
  · exact ⟨rfl, rfl⟩

/-- Each error of a check is a response fault. -/
def FailsAsFault {Value : Type} (checked : Except ExecutorError Value) : Prop :=
  ∀ error, checked = .error error → IsResponseFault error

theorem FailsAsFault.ok {Value : Type} {value : Value} :
    FailsAsFault (.ok value : Except ExecutorError Value) := Except.rejects_ok

theorem FailsAsFault.invalid {Value : Type} :
    FailsAsFault (.error .invalidUpstreamResult : Except ExecutorError Value) :=
  Except.rejects_error (.inr (.inl rfl))

theorem FailsAsFault.bind {Value Result : Type} {first : Except ExecutorError Value}
    {next : Value → Except ExecutorError Result} (starts : FailsAsFault first)
    (continues : ∀ value, FailsAsFault (next value)) : FailsAsFault (first >>= next) :=
  Except.Rejects.bind starts continues

theorem FailsAsFault.ite {Value : Type} {condition : Prop} [Decidable condition]
    {first second : Except ExecutorError Value} (left : FailsAsFault first)
    (right : FailsAsFault second) : FailsAsFault (if condition then first else second) := by
  split
  · exact left
  · exact right

theorem requiredObject_fails (field : Option Json) : FailsAsFault (requiredObject field) := by
  unfold requiredObject
  split
  · exact .ok
  · exact .invalid

theorem requiredArray_fails (field : Option Json) : FailsAsFault (requiredArray field) := by
  unfold requiredArray
  split
  · exact .ok
  · exact .invalid

theorem requiredString_fails (field : Option Json) : FailsAsFault (requiredString field) := by
  unfold requiredString
  split
  · exact .ok
  · exact .invalid

theorem requiredNonemptyString_fails (field : Option Json) :
    FailsAsFault (requiredNonemptyString field) :=
  .bind (requiredString_fails field) fun _ => .ite .invalid .ok

theorem requiredAssistantRole_fails (field : Option Json) :
    FailsAsFault (requiredAssistantRole field) :=
  .bind (requiredString_fails field) fun _ => .ite .invalid .ok

theorem requiredTokenCount_fails (field : Option Json) :
    FailsAsFault (requiredTokenCount field) := by
  unfold requiredTokenCount
  split
  · refine .bind ?_ fun _ => .ite .invalid .ok
    unfold tokensOfNumber
    split
    · exact .ok
    · split
      · exact .ite .ok .invalid
      · exact .invalid
  · exact .invalid

/-- An estimate fails only for the response or for the configured prices. -/
theorem estimate_fails (promptTokens completionTokens : Int) :
    FailsAsFault (estimateSuccessfulResponseCost arithmetic promptTokens completionTokens
      pricing) := by
  have unpriced : FailsAsFault (.error .missingPricing : Except ExecutorError F64) := by
    rintro _ ⟨⟩
    exact .inr (.inr rfl)
  unfold estimateSuccessfulResponseCost
  split
  · exact unpriced
  · exact .ite .invalid (.ite unpriced (.ite .invalid .ok))

theorem parseSuccessfulChatCompletion_fails :
    FailsAsFault (parseSuccessfulChatCompletion arithmetic fromSlice body pricing) := by
  unfold parseSuccessfulChatCompletion
  split
  · rintro _ ⟨⟩
    exact .inl rfl
  · unfold validateChatCompletion
    refine .bind (requiredObject_fails _) fun object => ?_
    refine .bind (requiredNonemptyString_fails _) fun modelUsed => ?_
    refine .bind (requiredArray_fails _) fun choices => ?_
    refine .bind (requiredObject_fails _) fun choice => ?_
    refine .bind (requiredObject_fails _) fun message => ?_
    refine .bind (requiredString_fails _) fun content => ?_
    refine .bind (requiredAssistantRole_fails _) fun role => ?_
    refine .bind (requiredNonemptyString_fails _) fun finishReason => ?_
    refine .bind (requiredObject_fails _) fun usage => ?_
    refine .bind (requiredTokenCount_fails _) fun promptTokens => ?_
    refine .bind (requiredTokenCount_fails _) fun completionTokens => ?_
    refine .bind (requiredTokenCount_fails _) fun totalTokens => ?_
    refine .bind (.ite .ok .invalid) fun expectedTotal => ?_
    exact .ite .invalid (.bind (estimate_fails _ _) fun _ => .ok)

end Parser

/-- A body is accepted exactly as a priced chat completion, and any other body fails for good. -/
theorem chat_completion_contract (arithmetic : CostArithmetic)
    (fromSlice : List UInt8 → Option Json) (body : List UInt8) (pricing : ModelPricing) :
    (∀ result, parseSuccessfulChatCompletion arithmetic fromSlice body (some pricing) =
        .ok result ↔
      ∃ value, fromSlice body = some value ∧ IsChatCompletion value result ∧
        estimateSuccessfulResponseCost arithmetic result.promptTokens result.completionTokens
          (some pricing) = .ok result.totalCost) ∧
    (∀ error, parseSuccessfulChatCompletion arithmetic fromSlice body (some pricing) =
        .error error →
      isRetryableError error = false ∧ isFallbackEligible error = false ∧
      isCircuitFailure error = false ∧
      (∀ deadline, continueAfterError deadline error = pure (.finished (.error error))) ∧
      (∀ permit, settleProbe permit (.error error) = settle permit .permanent ∧
        settleClosed permit (.error error) = dropPermit permit)) := by
  constructor
  · intro result
    unfold parseSuccessfulChatCompletion
    cases parsed : fromSlice body with
    | none => simp
    | some value =>
        simp only [Option.some.injEq, exists_eq_left']
        exact validateChatCompletion_eq_ok
  · intro error failed
    have fault := parseSuccessfulChatCompletion_fails error failed
    obtain ⟨retryable, eligible, counted⟩ := fault.permanent
    refine ⟨retryable, eligible, counted, fun deadline => ?_, fault.settled⟩
    unfold continueAfterError
    rw [retryable]
    rfl

/-- The estimate in exact arithmetic, which needs no rounding for whole USD. -/
def exactArithmetic : CostArithmetic where
  cost promptTokens completionTokens pricing :=
    match pricing with
    | ⟨.finite input, .finite output⟩ =>
        .finite ((promptTokens * input + completionTokens * output) / 1000000)
    | _ => .nan
  round cost := cost

def completionBody : List UInt8 :=
  ("\x7b\"model\":\"model-a\",\"choices\":[\x7b\"message\":\x7b\"role\":\"assistant\"," ++
    "\"content\":\"hello\"\x7d,\"finish_reason\":\"stop\"\x7d],\"usage\":" ++
    "\x7b\"prompt_tokens\":2000000,\"completion_tokens\":1000000," ++
    "\"total_tokens\":3000000\x7d\x7d").toList.flatMap String.utf8EncodeChar

def completionValue : Json :=
  .object [("model", .string "model-a"),
    ("choices", .array [.object [
      ("message", .object [("role", .string "assistant"), ("content", .string "hello")]),
      ("finish_reason", .string "stop")]]),
    ("usage", .object [("prompt_tokens", .number (.posInt 2000000)),
      ("completion_tokens", .number (.posInt 1000000)),
      ("total_tokens", .number (.posInt 3000000))])]

/-- The parser of the sample reads its body and no other one. -/
def readCompletion (body : List UInt8) : Option Json :=
  if body = completionBody then some completionValue else none

example : parseSuccessfulChatCompletion exactArithmetic readCompletion completionBody
    (some ⟨.finite 1, .finite 2⟩) =
      .ok ⟨"hello", "assistant", "model-a", 2000000, 1000000, .finite 4, "stop"⟩ := by
  simp only [parseSuccessfulChatCompletion, readCompletion, if_true]
  decide +kernel

end Opmux.Executor
