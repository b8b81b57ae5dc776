import OpmuxGateway.Construction.Core.Catalog
import OpmuxGateway.Construction.Executor.Models

/-
This file gives the vendor registry of the executor and the request of one provider call.
-/

namespace Opmux.Executor

structure ModelPricing where
  inputPerMillion : F64
  outputPerMillion : F64
  deriving DecidableEq, Repr

/-- The pricing is keyed by the target and not by its model. -/
structure OpenAIConfig where
  supportedModels : List String
  pricing : HashMap ModelPricing

namespace OpenAIConfig

/-- A model that several targets share is listed once. -/
def addModel (models : List String) (model : String) : List String :=
  if model ∈ models then models else models ++ [model]

def fromSettings (settings : Settings) : OpenAIConfig :=
  settings.catalog.targets.entries.foldl (fun config entry =>
    { supportedModels := addModel config.supportedModels entry.2.model
      pricing := config.pricing.insert entry.1
        ⟨entry.2.pricing.inputPerMillion, entry.2.pricing.outputPerMillion⟩ }) ⟨[], ∅⟩

end OpenAIConfig

def ExecutorConfig.fromSettings (settings : Settings) : ExecutorConfig where
  timeoutMs := settings.limits.maxAttemptTimeoutMs
  maxRetries := settings.limits.retriesPerTarget
  maxTotalAttempts := settings.limits.maxTotalAttempts
  backoffCapMs := settings.limits.backoffCapMs

/-- The registry maps a vendor identifier to the configuration of its vendor. -/
structure ExecutorRepository where
  vendors : HashMap OpenAIConfig

/-- The request is the JSON body of one provider call. -/
structure ChatCompletionRequest where
  model : String
  messages : List Message
  temperature : Option F64
  maxTokens : Option Int
  topP : Option F64
  deriving DecidableEq, Repr

namespace OpenAIVendor

def supportsModel (config : OpenAIConfig) (model : String) : Bool :=
  decide (model ∈ config.supportedModels)

/-- The classification of the response follows this request. -/
def completionRequest (config : OpenAIConfig) (model : String) (params : ExecutionParams) :
    Except ExecutorError ChatCompletionRequest :=
  if supportsModel config model = false then .error (.unsupportedModel model "openai")
  else if params.stream then
    .error (.invalidPayload "Streaming is not supported for OpenAI requests")
  else .ok ⟨model, params.messages, params.temperature, params.maxTokens, params.topP⟩

end OpenAIVendor

namespace ExecutorRepository

def fromConfig (openai : Option OpenAIConfig) : Except ExecutorError ExecutorRepository :=
  let vendors : HashMap OpenAIConfig :=
    match openai with
    | some config => AList.insert "openai" config ∅
    | none => ∅
  if vendors.keys.isEmpty then .error .noVendorsConfigured else .ok ⟨vendors⟩

def getVendor (repository : ExecutorRepository) (vendorId : String) :
    Except ExecutorError OpenAIConfig :=
  match repository.vendors.lookup vendorId with
  | some vendor => .ok vendor
  | none => .error (.unsupportedVendor vendorId)

/-- One call selects its vendor, checks the model, and builds the request that it sends. -/
def callLlm (repository : ExecutorRepository) (plan : RoutePlan) (params : ExecutionParams) :
    Except ExecutorError ChatCompletionRequest := do
  let vendor ← repository.getVendor plan.vendorId
  if OpenAIVendor.supportsModel vendor plan.modelId = false then
    .error (.unsupportedModel plan.vendorId plan.modelId)
  else OpenAIVendor.completionRequest vendor plan.modelId params

end ExecutorRepository

end Opmux.Executor
