import OpmuxGateway.Construction.Ingress.Handler
import OpmuxGateway.Proof.Executor.CallParameters
import OpmuxGateway.Proof.Ingress.RequestContract
import OpmuxGateway.Proof.Ingress.RouteResolution

/-
This file proves that the provider calls of a request carry what its client asked for.
-/

namespace Opmux.Ingress

open Executor Gateway

/-- These parameters reach the provider for one request on its resolved route. -/
def sentParams (request : IngressRequest) (resolved : ResolvedRoute) : ExecutionParams where
  messages := [⟨"user", request.prompt⟩]
  temperature := request.parameters.temperature.map JsonNumber.asF64
  maxTokens := some (IngressService.effectiveMaxTokens request.parameters resolved).toNat
  topP := request.parameters.topP.map JsonNumber.asF64
  stream := false

/-- An event of the gateway is an allowed provider call, or it is no call. -/
def Dispatches (allowed : RoutePlan → ExecutionParams → Prop) : GatewayEvent → Prop
  | ⟨.execution (.call hop params _), _, _⟩ => allowed hop params
  | _ => True

/-- A call of a request goes to a hop of its resolved route with the parameters of its client. -/
def CallOf (catalog : Catalog) (request : IngressRequest) (hop : RoutePlan)
    (params : ExecutionParams) : Prop :=
  ∃ resolved, resolveRoute catalog request.route request.allowFallback = .ok resolved ∧
    IngressService.exceedsCap request.parameters resolved = false ∧
    params = sentParams request resolved ∧ Called resolved.plan params hop

section Payload

theorem asI64_toUInt64 (count : UInt32) :
    (JsonNumber.posInt count.toUInt64).asI64 = some (count.toNat : Int) := by
  have small : count.toUInt64.toNat < 2 ^ 63 := by
    rw [UInt32.toNat_toUInt64]
    exact lt_trans count.toNat_lt (by norm_num)
  rw [JsonNumber.asI64, if_pos small, UInt32.toNat_toUInt64]

/-- The executor reads back what the request put into its payload. -/
theorem extractParams_payload (request : IngressRequest) (resolved : ResolvedRoute) :
    extractParams (IngressService.payload request resolved) =
      .ok (sentParams request resolved) := by
  have tokens := asI64_toUInt64 (IngressService.effectiveMaxTokens request.parameters resolved)
  unfold IngressService.payload sentParams
  cases request.parameters.temperature with
  | none =>
      cases request.parameters.topP with
      | none =>
          simp [extractParams, Json.get, IngressService.numberEntry, Json.asArray, Json.asI64,
            messageFromValue, Json.asStr, tokens]
      | some topP =>
          simp [extractParams, Json.get, IngressService.numberEntry, Json.asArray, Json.asI64,
            messageFromValue, Json.asStr, Json.asF64, tokens]
  | some temperature =>
      cases request.parameters.topP with
      | none =>
          simp [extractParams, Json.get, IngressService.numberEntry, Json.asArray, Json.asI64,
            messageFromValue, Json.asStr, Json.asF64, tokens]
      | some topP =>
          simp [extractParams, Json.get, IngressService.numberEntry, Json.asArray, Json.asI64,
            messageFromValue, Json.asStr, Json.asF64, tokens]

end Payload

section Dispatch

variable {allowed : RoutePlan → ExecutionParams → Prop} {service : IngressService}
  {request : IngressRequest} {resolved : ResolvedRoute} {deadline : RequestDeadline}
  {trace : List GatewayEvent}

/-- An allowed call stays allowed when more calls are allowed. -/
theorem Dispatches.mono {permitted : RoutePlan → ExecutionParams → Prop} {event : GatewayEvent}
    (implies : ∀ hop params, allowed hop params → permitted hop params)
    (dispatched : Dispatches allowed event) : Dispatches permitted event := by
  obtain ⟨asked, reply, span⟩ := event
  cases asked with
  | execution asked =>
      cases asked with
      | call hop params cutoff => exact implies hop params dispatched
      | _ => trivial
  | _ => trivial

theorem dispatches_append {first second : List GatewayEvent}
    (left : ∀ event ∈ first, Dispatches allowed event)
    (right : ∀ event ∈ second, Dispatches allowed event) :
    ∀ event ∈ first ++ second, Dispatches allowed event :=
  fun event member => (List.mem_append.mp member).elim (left event) (right event)

/-- The embedded calls of an execution are its own calls. -/
theorem dispatches_embed {inner : List Executor.Event}
    (carries : ∀ event ∈ inner, Carries allowed event) :
    ∀ event ∈ inner.map (Exchange.embed GatewayRequest.execution fun _ => Equiv.refl _),
      Dispatches allowed event := by
  intro event member
  obtain ⟨⟨request, reply, span⟩, entered, rfl⟩ := List.mem_map.mp member
  have carried := carries _ entered
  cases request with
  | call hop params cutoff => exact carried
  | _ => trivial

theorem executeLlmCall_dispatches {plan : RoutePlan} {payload : Json}
    {outcome : Option (Except IngressError ExecutionResult)}
    (run : (service.executeLlmCall plan payload deadline).Runs trace outcome) :
    ∀ event ∈ trace, Dispatches (fun hop params =>
      extractParams payload = .ok params ∧ Called plan params hop) event := by
  unfold IngressService.executeLlmCall runExecution at run
  rw [Program.runs_bind] at run
  rcases run with ⟨before, result, after, rfl, executing, run⟩ | ⟨_, executing⟩
  · obtain ⟨inner, rfl, inside⟩ := Program.runs_embed.mp executing
    have quiet : after = [] := by
      cases result with
      | ok result => exact run.1
      | error error => exact run.1
    rw [quiet, List.append_nil]
    exact dispatches_embed (executes_of_runs service.config plan deadline inside).carries
  · obtain ⟨inner, rfl, inside⟩ := Program.runs_embed.mp executing
    exact dispatches_embed (executes_of_runs service.config plan deadline inside).carries

/-- A resolved request calls its hops with the parameters of its client. -/
theorem processResolved_dispatches {start : Instant}
    {outcome : Option (Except IngressError IngressResponse)}
    (run : (service.processResolved request resolved deadline start).Runs trace outcome) :
    ∀ event ∈ trace, Dispatches (fun hop params =>
      IngressService.exceedsCap request.parameters resolved = false ∧
        params = sentParams request resolved ∧ Called resolved.plan params hop) event := by
  unfold IngressService.processResolved at run
  by_cases within : IngressService.exceedsCap request.parameters resolved = false
  · rw [if_neg (by simp [within])] at run
    have calls {trace : List GatewayEvent} {result : Option (Except IngressError ExecutionResult)}
        (run : (service.executeLlmCall resolved.plan (IngressService.payload request resolved)
          deadline).Runs trace result) : ∀ event ∈ trace, Dispatches (fun hop params =>
        IngressService.exceedsCap request.parameters resolved = false ∧
          params = sentParams request resolved ∧ Called resolved.plan params hop) event := by
      intro event member
      refine (executeLlmCall_dispatches run event member).mono ?_
      rintro hop params ⟨extracted, called⟩
      rw [extractParams_payload, Except.ok.injEq] at extracted
      exact ⟨within, extracted.symm, called⟩
    rw [Program.runs_bind] at run
    rcases run with ⟨before, result, after, rfl, executing, run⟩ | ⟨_, executing⟩
    · refine dispatches_append (calls executing) ?_
      cases result with
      | error error =>
          obtain ⟨rfl, _⟩ := run
          simp
      | ok result =>
          obtain ⟨finish, span, rest, rfl, rfl, _⟩ := Program.runs_request_bind.mp run
          simp [Dispatches]
    · exact calls executing
  · rw [if_pos (by simpa using within)] at run
    obtain ⟨rfl, _⟩ := run
    simp

theorem processRequest_dispatches {outcome : Option (Except IngressError IngressResponse)}
    (run : (service.processRequest request deadline).Runs trace outcome) :
    ∀ event ∈ trace, Dispatches (CallOf service.settings.catalog request) event := by
  unfold IngressService.processRequest Gateway.readClock at run
  rw [Program.runs_request_bind] at run
  obtain ⟨now, first, rest, rfl, run⟩ := run
  refine List.forall_mem_cons.mpr ⟨trivial, ?_⟩
  split at run
  · obtain ⟨rfl, _⟩ := run
    simp
  · rw [Program.runs_request_bind] at run
    obtain ⟨start, second, rest, rfl, run⟩ := run
    refine List.forall_mem_cons.mpr ⟨trivial, ?_⟩
    split at run
    · obtain ⟨rfl, _⟩ := run
      simp
    · rename_i resolved routed
      intro event member
      exact (processResolved_dispatches run event member).mono fun hop params called =>
        ⟨resolved, routed, called⟩

/-- The permit of an admitted request changes none of its calls. -/
theorem processAdmitted_dispatches {outcome : Option (Except IngressError IngressResponse)}
    (run : (processAdmitted service request deadline).Runs trace outcome) :
    ∀ event ∈ trace, Dispatches (CallOf service.settings.catalog request) event := by
  have released {trace : List GatewayEvent} {result : Option Unit}
      (run : (Program.request GatewayRequest.releasePermit : GatewayEffect Unit).Runs trace
        result) :
      ∀ event ∈ trace, Dispatches (CallOf service.settings.catalog request) event := by
    obtain ⟨_, _, rfl, _⟩ := Program.runs_request.mp run
    simp [Dispatches]
  have worked {trace : List GatewayEvent}
      {result : Option (Except IngressError IngressResponse)}
      (run : ((service.processRequest request deadline).onDrop
        (Program.request GatewayRequest.releasePermit)).Runs trace result) :
      ∀ event ∈ trace, Dispatches (CallOf service.settings.catalog request) event := by
    rcases Program.runs_onDrop.mp run with ⟨value, rfl, processing⟩ |
      ⟨rfl, before, after, result, rfl, processing, cleaned⟩
    · exact processRequest_dispatches processing
    · exact dispatches_append (processRequest_dispatches processing) (released cleaned)
  unfold processAdmitted at run
  rcases Program.runs_bind.mp run with ⟨before, result, after, rfl, working, run⟩ | ⟨_, working⟩
  · refine dispatches_append (worked working) ?_
    obtain ⟨_, span, rest, rfl, rfl, _⟩ := Program.runs_request_bind.mp run
    simp [Dispatches]
  · exact worked working

/-- A handler calls the provider only for the request that its body gives. -/
theorem ingressHandler_dispatches (service : IngressService)
    {toVec : Json → Option (List UInt8)} {kind : Auth.ApiKeyKind} {body : Json}
    {outcome : Option (Except IngressError IngressResponse)}
    (parsed : parseIngressRequest toVec body service.settings.limits = .ok request)
    (run : (ingressHandler toVec service kind body deadline).Runs trace outcome) :
    ∀ event ∈ trace, Dispatches (CallOf service.settings.catalog request) event := by
  unfold ingressHandler at run
  split at run
  · obtain ⟨rfl, _⟩ := run
    simp
  · simp only [parsed] at run
    rw [Program.runs_request_bind] at run
    obtain ⟨admission, span, rest, rfl, run⟩ := run
    refine List.forall_mem_cons.mpr ⟨trivial, ?_⟩
    split at run
    · exact processAdmitted_dispatches run
    · obtain ⟨rfl, _⟩ := run
      simp
    · rw [Program.runs_request_bind] at run
      obtain ⟨_, again, rest, rfl, rfl, _⟩ := run
      simp [Dispatches]

end Dispatch

section Delivery

/-- A number reaches the provider as the same number, or it is sent as nothing. -/
def SameNumber (given : Option JsonNumber) (sent : Option F64) : Prop :=
  match given with
  | none => sent = none
  | some number => ∃ value, number.value = some value ∧ sent = some (.finite value)

/-- A provider call delivers the prompt and the controls of its client to a configured target. -/
structure Delivers (settings : Settings) (request : IngressRequest) (hop : RoutePlan)
    (sent : ChatCompletionRequest) : Prop where
  messages : sent.messages = [⟨"user", request.prompt⟩]
  temperature : SameNumber request.parameters.temperature sent.temperature
  topP : SameNumber request.parameters.topP sent.topP
  target : ∃ target resolved, settings.catalog.targets.lookup hop.targetId = some target ∧
    sent.model = target.model ∧
    resolveRoute settings.catalog request.route request.allowFallback = .ok resolved ∧
    hop ∈ hops resolved.plan ∧
    sent.maxTokens = some (request.parameters.maxTokens.getD resolved.maxOutputTokens).toNat ∧
    (request.parameters.maxTokens.getD resolved.maxOutputTokens).toNat ≤
      target.maxOutputTokens.toNat

variable {toVec : Json → Option (List UInt8)} {limits : PolicyLimits} {body : Json}
  {request : IngressRequest}

/-- The numbers of an accepted body are small enough to be sent exactly. -/
theorem sameNumber_of_parsed (parsed : parseIngressRequest toVec body limits = .ok request) :
    SameNumber request.parameters.temperature
        (request.parameters.temperature.map JsonNumber.asF64) ∧
      SameNumber request.parameters.topP (request.parameters.topP.map JsonNumber.asF64) := by
  have exact (max : Nat) (small : max < 2 ^ 52) (given : Option JsonNumber)
      (within : ∀ number, given = some number → number.Within 0 max) :
      SameNumber given (given.map JsonNumber.asF64) := by
    cases given with
    | none => rfl
    | some number =>
        obtain ⟨value, same, low, high⟩ := within number rfl
        exact ⟨value, same, congrArg some (JsonNumber.asF64_of_value small same low high)⟩
  obtain ⟨_, reads, _⟩ := parseIngressRequest_eq_ok_iff.mp parsed
  have parameters : ParametersOf (body.get "parameters") request.parameters := reads.parameters
  cases given : body.get "parameters" with
  | none =>
      rw [given] at parameters
      rw [show request.parameters = GenerationParameters.default from parameters]
      exact ⟨rfl, rfl⟩
  | some value =>
      rw [given] at parameters
      have contract := parameterContract_iff.mp parameters
      exact ⟨exact 2 (by norm_num) _ (by simpa using contract.temperatureWithin),
        exact 1 (by norm_num) _ (by simpa using contract.topPWithin)⟩

/-- A called hop is one of its plan, and it covers the sent token count. -/
theorem called_covers {catalog : Catalog} {resolved : ResolvedRoute} {hop : RoutePlan}
    (resolves : Resolves catalog resolved)
    (within : IngressService.exceedsCap request.parameters resolved = false)
    (called : Called resolved.plan (sentParams request resolved) hop) :
    hop ∈ hops resolved.plan ∧
      (IngressService.effectiveMaxTokens request.parameters resolved).toNat ≤
        hop.maxOutputTokens.toNat := by
  rcases called with rfl | ⟨member, supported⟩
  · refine ⟨List.mem_cons_self .., ?_⟩
    rw [← resolves.cap]
    unfold IngressService.exceedsCap at within
    unfold IngressService.effectiveMaxTokens
    cases given : request.parameters.maxTokens with
    | none => exact Nat.le_refl _
    | some maxTokens =>
        rw [given] at within
        simp only [decide_eq_false_iff_not, UInt32.not_lt] at within
        exact UInt32.le_iff_toNat_le.mp within
  · refine ⟨List.mem_cons_of_mem _ member, ?_⟩
    exact_mod_cast hopSupportsParams_le supported rfl

end Delivery

/-- Each provider call of an accepted body delivers its prompt, its numbers, and its token count
to a hop of its resolved route, and all calls carry the same parameters. -/
theorem provider_calls_follow_request (toVec : Json → Option (List UInt8)) (settings : Settings)
    (config : ExecutorConfig) (kind : Auth.ApiKeyKind) (body : Json) (request : IngressRequest)
    (parsed : parseIngressRequest toVec body settings.limits = .ok request)
    (deadline : RequestDeadline) (trace : List GatewayEvent)
    (outcome : Option (Except IngressError IngressResponse))
    (run : (ingressHandler toVec ⟨settings, config⟩ kind body deadline).Runs trace outcome) :
    ∃ repository,
      ExecutorRepository.fromConfig (some (OpenAIConfig.fromSettings settings)) = .ok repository ∧
      (∀ event ∈ trace, ∀ hop params cutoff, event.request = .execution (.call hop params cutoff) →
        ∃ sent, repository.callLlm hop params = .ok sent ∧ Delivers settings request hop sent) ∧
      ∀ event ∈ trace, ∀ other ∈ trace, ∀ hop params cutoff otherHop otherParams otherCutoff,
        event.request = .execution (.call hop params cutoff) →
        other.request = .execution (.call otherHop otherParams otherCutoff) →
        params = otherParams := by
  obtain ⟨repository, built, registered⟩ := fromConfig_openai (OpenAIConfig.fromSettings settings)
  have dispatches := ingressHandler_dispatches ⟨settings, config⟩ parsed run
  have callOf : ∀ event ∈ trace, ∀ hop params cutoff,
      event.request = .execution (.call hop params cutoff) →
      CallOf settings.catalog request hop params := by
    rintro ⟨asked, reply, span⟩ member hop params cutoff rfl
    exact dispatches _ member
  obtain ⟨temperature, topP⟩ := sameNumber_of_parsed parsed
  refine ⟨repository, built, ?_, ?_⟩
  · intro event member hop params cutoff asked
    obtain ⟨resolved, routed, within, rfl, called⟩ := callOf event member hop params cutoff asked
    have resolves := resolveRoute_eq_ok routed
    obtain ⟨member, covered⟩ := called_covers resolves within called
    have configured := resolves.configured hop member
    have sending := callLlm_of_configured registered configured (sentParams request resolved) rfl
    obtain ⟨target, known, _, model, cap⟩ := configured
    refine ⟨_, sending, rfl, temperature, topP, target, resolved, known, model, routed, member, rfl,
      ?_⟩
    rw [← cap]
    exact covered
  · intro event member other again hop params cutoff otherHop otherParams otherCutoff asked asking
    obtain ⟨resolved, routed, _, rfl, _⟩ := callOf event member hop params cutoff asked
    obtain ⟨same, rerouted, _, rfl, _⟩ := callOf other again otherHop otherParams otherCutoff asking
    rw [routed, Except.ok.injEq] at rerouted
    rw [rerouted]

/-- Each clock shows zero, each permit is free, and the provider answers at once. -/
def promptAnswers : (request : GatewayRequest) → request.Reply
  | .clock _ => (0 : Nat)
  | .timer _ _ => true
  | .extractBody => none
  | .auth .utcNow => (0 : Nat)
  | .auth .newUuid => (0 : Fin (2 ^ 128))
  | .auth (.fillBytes _) => none
  | .auth (.store _) => none
  | .execution (.clock _) => (0 : Nat)
  | .execution .entropy => none
  | .execution (.sleep _ _) => none
  | .execution (.call _ _ _) =>
      some (.ready (.ok ⟨"hello", "assistant", "model-a", 1, 1, .finite 0, "stop"⟩))
  | .execution (.admission plan) => .allow ⟨plan.targetId, 0, .closed, false⟩
  | .execution (.settle _ _) => ()
  | .execution (.dropPermit _) => ()
  | .execution (.record _) => ()
  | .tryAcquire => .ok ()
  | .releasePermit => ()
  | .recordOverloadRejected => ()

/-- The greeting is served by the primary target of the sample catalog. -/
def promptRun : List GatewayEvent × Option (Except IngressError IngressResponse) :=
  (ingressHandler compactToVec ⟨sampleSettings, ⟨10000, 1, 3, 2000⟩⟩ .inference
    greeting ⟨30⟩).drive (fun _ request => (promptAnswers request, ⟨0, 0⟩, ())) ()

/-- The primary target of the sample catalog as the first hop of a plan. -/
def promptHop : RoutePlan :=
  ⟨"openai", "primary", "model-a", 512, [⟨"openai", "secondary", "model-b", 256, []⟩]⟩

theorem promptRun_calls : ∃ event, promptRun.1[9]? = some event ∧ ∃ params cutoff,
    event.request = .execution (.call promptHop params cutoff) :=
  ⟨⟨.execution (.call promptHop _ _), _, _⟩, rfl, _, _, rfl⟩

theorem provider_calls_follow_request_example :
    ∃ sent, Delivers sampleSettings ⟨"hi", .object [], none, none, GenerationParameters.default⟩
      promptHop sent := by
  obtain ⟨repository, _, delivers, _⟩ := provider_calls_follow_request compactToVec
    sampleSettings ⟨10000, 1, 3, 2000⟩ .inference greeting
    ⟨"hi", .object [], none, none, GenerationParameters.default⟩ rfl ⟨30⟩ promptRun.1 promptRun.2
    (Program.runs_drive _ _ _)
  obtain ⟨event, found, _, _, asked⟩ := promptRun_calls
  obtain ⟨sent, _, delivered⟩ := delivers event (List.mem_of_getElem? found) _ _ _ asked
  exact ⟨sent, delivered⟩

section Metadata

variable {toVec : Json → Option (List UInt8)} {limits : PolicyLimits} {body other : Json}
  {request again : IngressRequest}

/-- Two accepted bodies that agree outside their metadata give one request up to its metadata. -/
theorem parsed_agree (parsed : parseIngressRequest toVec body limits = .ok request)
    (reparsed : parseIngressRequest toVec other limits = .ok again)
    (same : ∀ key, key ≠ "metadata" → body.get key = other.get key) :
    again = { request with metadata := again.metadata } := by
  obtain ⟨_, reads, _⟩ := parseIngressRequest_eq_ok_iff.mp parsed
  obtain ⟨_, rereads, _⟩ := parseIngressRequest_eq_ok_iff.mp reparsed
  have reread : ReadsControls body ⟨some again.prompt, some request.metadata, again.route,
      again.allowFallback, again.parameters⟩ := by
    constructor
    · rw [same "prompt" (by decide)]
      exact rereads.prompt
    · exact reads.metadata
    · rw [same "route" (by decide)]
      exact rereads.route
    · rw [same "allow_fallback" (by decide)]
      exact rereads.allowFallback
    · rw [same "parameters" (by decide)]
      exact rereads.parameters
  have unique := reads.unique reread
  cases request
  cases again
  simpa [IngressRequest.controls, eq_comm] using unique

theorem processAdmitted_metadata {service : IngressService} {deadline : RequestDeadline}
    (metadata : Json) :
    processAdmitted service { request with metadata := metadata } deadline =
      processAdmitted service request deadline := rfl

end Metadata

/-- Accepted metadata influences nothing: bodies that differ only in it are one program. -/
theorem metadata_without_influence (toVec : Json → Option (List UInt8)) (service : IngressService)
    (kind : Auth.ApiKeyKind) (body other : Json) (request again : IngressRequest)
    (parsed : parseIngressRequest toVec body service.settings.limits = .ok request)
    (reparsed : parseIngressRequest toVec other service.settings.limits = .ok again)
    (same : ∀ key, key ≠ "metadata" → body.get key = other.get key) (deadline : RequestDeadline) :
    ingressHandler toVec service kind other deadline =
      ingressHandler toVec service kind body deadline := by
  unfold ingressHandler
  rw [parsed, reparsed, parsed_agree parsed reparsed same]
  simp only [processAdmitted_metadata]

/-- A greeting with other metadata is the same program. -/
theorem metadata_without_influence_example :
    ingressHandler compactToVec ⟨sampleSettings, ⟨10000, 1, 3, 2000⟩⟩ .inference
        (.object [("metadata", .string "tenant"), ("prompt", .string "hi")]) ⟨30⟩ =
      ingressHandler compactToVec ⟨sampleSettings, ⟨10000, 1, 3, 2000⟩⟩ .inference
        greeting ⟨30⟩ := by
  refine metadata_without_influence compactToVec
    ⟨sampleSettings, ⟨10000, 1, 3, 2000⟩⟩ .inference greeting _ _ _ rfl rfl ?_ ⟨30⟩
  intro key other
  by_cases prompt : key = "prompt"
  · subst prompt
    rfl
  · simp [greeting, Json.get, Ne.symm other, Ne.symm prompt]

end Opmux.Ingress
