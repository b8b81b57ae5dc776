import OpmuxGateway.Construction.Executor.OpenAiResponse
import OpmuxGateway.Library.KeyedMap

/-
This file proves what the registry of the executor knows of the configured targets.
-/

namespace Opmux.Executor

open KeyedMap (insertAll)

/-- The prices of a target are the configured ones. -/
def pricesOf (target : Target) : ModelPricing :=
  ⟨target.pricing.inputPerMillion, target.pricing.outputPerMillion⟩

namespace OpenAIConfig

/-- This step of the loop adds the model and the prices of one target. -/
def addTarget (config : OpenAIConfig) (entry : Sigma fun _ : String => Target) : OpenAIConfig where
  supportedModels := addModel config.supportedModels entry.2.model
  pricing := config.pricing.insert entry.1 (pricesOf entry.2)

theorem mem_addModel {models : List String} {model other : String} :
    other ∈ addModel models model ↔ other ∈ models ∨ other = model := by
  unfold addModel
  split
  · rename_i listed
    constructor
    · exact .inl
    · rintro (before | rfl)
      · exact before
      · exact listed
  · simp

variable {config : OpenAIConfig} {entries : List (Sigma fun _ : String => Target)}

/-- The loop lists each model of the entries. -/
theorem mem_supportedModels {model : String} :
    model ∈ (entries.foldl addTarget config).supportedModels ↔
      model ∈ config.supportedModels ∨ ∃ entry ∈ entries, entry.2.model = model := by
  induction entries generalizing config with
  | nil => simp
  | cons entry rest ih =>
      rw [List.foldl_cons, ih]
      simp only [addTarget, mem_addModel, List.exists_mem_cons_iff, or_assoc, eq_comm]

/-- The loop collects the prices of the entries. -/
theorem pricing_collected :
    (entries.foldl addTarget config).pricing =
      insertAll config.pricing (entries.map fun entry => (entry.1, pricesOf entry.2)) := by
  induction entries generalizing config with
  | nil => rfl
  | cons entry rest ih =>
      rw [List.foldl_cons, ih]
      rfl

theorem supportedModels_fromSettings {settings : Settings} {model : String} :
    model ∈ (fromSettings settings).supportedModels ↔
      ∃ id target, settings.catalog.targets.lookup id = some target ∧ target.model = model := by
  change model ∈ (settings.catalog.targets.entries.foldl addTarget ⟨[], ∅⟩).supportedModels ↔ _
  rw [mem_supportedModels]
  simp only [List.not_mem_nil, false_or, ← Option.mem_def, AList.mem_lookup_iff, Sigma.exists]

/-- Each target has exactly its own prices, whatever model it shares with others. -/
theorem pricing_fromSettings {settings : Settings} {id : String} {pricing : ModelPricing} :
    (fromSettings settings).pricing.lookup id = some pricing ↔
      ∃ target, settings.catalog.targets.lookup id = some target ∧ pricesOf target = pricing := by
  change (settings.catalog.targets.entries.foldl addTarget ⟨[], ∅⟩).pricing.lookup id = _ ↔ _
  rw [pricing_collected, KeyedMap.lookup_insertAll_empty]
  · simp only [List.mem_map, Prod.mk.injEq, ← Option.mem_def, AList.mem_lookup_iff, Sigma.exists]
    constructor
    · rintro ⟨_, target, member, rfl, same⟩
      exact ⟨target, member, same⟩
    · rintro ⟨target, member, same⟩
      exact ⟨id, target, member, rfl, same⟩
  · rw [List.map_map]
    exact settings.catalog.targets.keys_nodup

end OpenAIConfig

/-- The registry of a configuration has its vendor under `openai`. -/
theorem fromConfig_openai (config : OpenAIConfig) :
    ∃ repository, ExecutorRepository.fromConfig (some config) = .ok repository ∧
      repository.getVendor "openai" = .ok config := by
  refine ⟨⟨AList.insert "openai" config ∅⟩, ?_, ?_⟩
  · simp [ExecutorRepository.fromConfig]
  · have found : AList.lookup "openai" (AList.insert "openai" config (∅ : HashMap OpenAIConfig)) =
        some config := AList.lookup_insert _
    simp only [ExecutorRepository.getVendor, found]

section Prices

/-- A check does not fail for its prices. -/
def Priced {Value : Type} (checked : Except ExecutorError Value) : Prop :=
  checked ≠ .error .missingPricing

variable {Value Result : Type}

theorem Priced.ok {value : Value} : Priced (.ok value : Except ExecutorError Value) := by
  rintro ⟨⟩

theorem Priced.invalid : Priced (.error .invalidUpstreamResult : Except ExecutorError Value) := by
  rintro ⟨⟩

theorem Priced.bind {first : Except ExecutorError Value}
    {next : Value → Except ExecutorError Result} (starts : Priced first)
    (continues : ∀ value, Priced (next value)) : Priced (first >>= next) := by
  cases first with
  | error error =>
      intro failed
      cases failed
      exact starts rfl
  | ok value => exact continues value

theorem Priced.ite {condition : Prop} [Decidable condition]
    {first second : Except ExecutorError Value} (left : Priced first) (right : Priced second) :
    Priced (if condition then first else second) := by
  split
  · exact left
  · exact right

theorem requiredObject_priced (field : Option Json) : Priced (requiredObject field) := by
  unfold requiredObject
  split
  · exact .ok
  · exact .invalid

theorem requiredArray_priced (field : Option Json) : Priced (requiredArray field) := by
  unfold requiredArray
  split
  · exact .ok
  · exact .invalid

theorem requiredString_priced (field : Option Json) : Priced (requiredString field) := by
  unfold requiredString
  split
  · exact .ok
  · exact .invalid

theorem requiredNonemptyString_priced (field : Option Json) :
    Priced (requiredNonemptyString field) :=
  .bind (requiredString_priced field) fun _ => .ite .invalid .ok

theorem requiredTokenCount_priced (field : Option Json) : Priced (requiredTokenCount field) := by
  unfold requiredTokenCount
  split
  · refine .bind ?_ fun _ => .ite .invalid .ok
    unfold tokensOfNumber
    split
    · exact .ok
    · split
      · exact .ite .ok .invalid
      · exact .invalid
  · exact .invalid

/-- Finite prices that are not below zero are enough for each estimate. -/
theorem estimate_priced {arithmetic : CostArithmetic} {promptTokens completionTokens : Int}
    {pricing : ModelPricing} (input : F64.isFiniteNonnegative pricing.inputPerMillion = true)
    (output : F64.isFiniteNonnegative pricing.outputPerMillion = true) :
    Priced (estimateSuccessfulResponseCost arithmetic promptTokens completionTokens
      (some pricing)) := by
  simp only [estimateSuccessfulResponseCost, input, output, Bool.and_true, Bool.true_eq_false,
    if_false]
  exact .ite .invalid (.ite .invalid .ok)

/-- No response fails for finite prices that are not below zero. -/
theorem parseSuccessfulChatCompletion_priced {arithmetic : CostArithmetic}
    {fromSlice : List UInt8 → Option Json} {body : List UInt8} {pricing : ModelPricing}
    (input : F64.isFiniteNonnegative pricing.inputPerMillion = true)
    (output : F64.isFiniteNonnegative pricing.outputPerMillion = true) :
    Priced (parseSuccessfulChatCompletion arithmetic fromSlice body (some pricing)) := by
  unfold parseSuccessfulChatCompletion
  split
  · rintro ⟨⟩
  · unfold validateChatCompletion
    refine .bind (requiredObject_priced _) fun object => ?_
    refine .bind (requiredNonemptyString_priced _) fun modelUsed => ?_
    refine .bind (requiredArray_priced _) fun choices => ?_
    refine .bind (requiredObject_priced _) fun choice => ?_
    refine .bind (requiredObject_priced _) fun message => ?_
    refine .bind (requiredString_priced _) fun content => ?_
    refine .bind (.bind (requiredString_priced _) fun _ => .ite .invalid .ok) fun role => ?_
    refine .bind (requiredNonemptyString_priced _) fun finishReason => ?_
    refine .bind (requiredObject_priced _) fun usage => ?_
    refine .bind (requiredTokenCount_priced _) fun promptTokens => ?_
    refine .bind (requiredTokenCount_priced _) fun completionTokens => ?_
    refine .bind (requiredTokenCount_priced _) fun totalTokens => ?_
    refine .bind (.ite .ok .invalid) fun expectedTotal => ?_
    exact .ite .invalid (.bind (estimate_priced input output) fun _ => .ok)

end Prices

end Opmux.Executor
