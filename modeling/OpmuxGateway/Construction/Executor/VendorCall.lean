import OpmuxGateway.Construction.Executor.BoundedBody
import OpmuxGateway.Construction.Executor.OpenAi
import OpmuxGateway.Construction.Executor.OpenAiResponse

/-
This file gives one provider call from its request to its classified response.
-/

namespace Opmux.Executor

/-- The head of a response arrives before its body. -/
structure ResponseHead where
  status : Nat
  retryAfter : Option (List UInt8)

/-- A call sends its request, reads the body of the response, or classifies its throttling. -/
inductive AttemptRequest where
  | send (request : ChatCompletionRequest)
  | readBody
  | throttled (request : VendorRequest)

/-- The head is missing when the attempt is dropped during its await, and a body then has only the
replies that have arrived. -/
abbrev AttemptReply : AttemptRequest → Type
  | .send _ => Option (Except TransportError ResponseHead)
  | .readBody => Option UInt64 × List ChunkReply
  | .throttled request => VendorReply request

abbrev AttemptEvent := Exchange AttemptRequest AttemptReply Instant

abbrev AttemptEffect := Program AttemptRequest AttemptReply

def classifyUnsuccessfulStatus (fromSlice : List UInt8 → Option Json) (status : Nat)
    (body : List UInt8) : ExecutorError :=
  if quotaExhausted fromSlice body then .quotaExceeded
  else if status = 401 ∨ status = 403 then .authenticationFailed "openai"
  else if 400 ≤ status ∧ status < 500 then .upstreamRejected
  else .apiCallFailed "upstream http error"

/-- The bounded reader of the response ends, or its attempt is dropped during an await. -/
def readBody (maxBytes : UInt64) : AttemptEffect (Except ExecutorError (List UInt8)) := do
  let (contentLength, replies) ← Program.request AttemptRequest.readBody
  match (readBoundedResponseBody contentLength maxBytes replies).1 with
  | .returned result => return result
  | .reading _ => Program.halt

section Call

-- The float arithmetic, the date parser, and the JSON parser are those of the libraries.
variable (arithmetic : CostArithmetic) (chrono : Chrono) (fromSlice : List UInt8 → Option Json)
  (maxBytes : UInt64)

/-- The status of the response decides how its body is read. -/
def classifyResponse (cutoff : Instant) (pricing : Option ModelPricing) (head : ResponseHead) :
    AttemptEffect (Except ExecutorError ExecutionResult) := do
  if head.status = 429 then
    let error ← (classifyTooManyRequests chrono fromSlice cutoff head.retryAfter).embed
      AttemptRequest.throttled fun _ => Equiv.refl _
    return .error error
  else
    let body ← readBody maxBytes
    if 200 ≤ head.status ∧ head.status < 300 then
      return body.bind fun body => parseSuccessfulChatCompletion arithmetic fromSlice body pricing
    -- A body that cannot be read is an empty one here.
    else return .error (classifyUnsuccessfulStatus fromSlice head.status (body.toOption.getD []))

def OpenAIVendor.executeClassified (config : OpenAIConfig) (model targetId : String)
    (params : ExecutionParams) (cutoff : Instant) :
    AttemptEffect (Except ExecutorError ExecutionResult) :=
  match OpenAIVendor.completionRequest config model params with
  | .error error => return .error error
  | .ok request => do
      match ← Program.request (AttemptRequest.send request) with
      | none => Program.halt
      | some (.error failure) => return .error (transportError failure)
      | some (.ok head) =>
          classifyResponse arithmetic chrono fromSlice maxBytes cutoff
            (config.pricing.lookup targetId) head

/-- The repository checks the vendor and the model before it calls the vendor. -/
def ExecutorRepository.executeCall (repository : ExecutorRepository) (plan : RoutePlan)
    (params : ExecutionParams) (cutoff : Instant) :
    AttemptEffect (Except ExecutorError ExecutionResult) :=
  match repository.getVendor plan.vendorId with
  | .error error => return .error error
  | .ok vendor =>
      if OpenAIVendor.supportsModel vendor plan.modelId = false then
        return .error (.unsupportedModel plan.vendorId plan.modelId)
      else
        OpenAIVendor.executeClassified arithmetic chrono fromSlice maxBytes vendor plan.modelId
          plan.targetId params cutoff

end Call

/-- The error that the context of the attempt has observed. -/
def attemptObserved (trace : List AttemptEvent) : Option ExecutorError :=
  trace.foldl (fun observed event =>
    match event.request with
    | .throttled (.observe error) => some error
    | _ => observed) none

/-- A dropped call leaves its observed error to the executor. -/
def attemptReply (trace : List AttemptEvent)
    (outcome : Option (Except ExecutorError ExecutionResult)) : CallReply :=
  match outcome with
  | some result => .ready result
  | none => .elapsed (attemptObserved trace)

end Opmux.Executor
