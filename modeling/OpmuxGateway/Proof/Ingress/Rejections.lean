import OpmuxGateway.Construction.Ingress.Handler
import OpmuxGateway.Library.Outcomes

/-
This file proves which errors the checks of a generation request return.
-/

namespace Opmux.Ingress

/-- A rejected field is an invalid request. -/
def IngressError.IsInvalid (error : IngressError) : Prop :=
  ∃ message, error = .invalidRequest message

section Parsing

variable {Value : Type}

theorem rejects_invalid {message : String} :
    (.error (.invalidRequest message) : Except IngressError Value).Rejects
      IngressError.IsInvalid :=
  Except.rejects_error ⟨message, rfl⟩

theorem parseBoundedNumber_rejects (value : Json) (field : String) (min max : Nat) :
    (parseBoundedNumber value field min max).Rejects IngressError.IsInvalid := by
  unfold parseBoundedNumber
  split
  · split
    · exact Except.rejects_ok
    · exact rejects_invalid
  · exact rejects_invalid

theorem readParameter_rejects (parameters : GenerationParameters) (entry : String × Json) :
    (readParameter parameters entry).Rejects IngressError.IsInvalid := by
  unfold readParameter
  split
  · exact (parseBoundedNumber_rejects _ _ _ _).bind fun _ => Except.rejects_ok
  · exact (parseBoundedNumber_rejects _ _ _ _).bind fun _ => Except.rejects_ok
  · refine Except.Rejects.bind ?_ fun _ => Except.rejects_ok
    unfold parseMaxTokens
    split
    · exact Except.rejects_ok
    · exact rejects_invalid
  · exact rejects_invalid

theorem readControl_rejects (controls : Controls) (entry : String × Json) :
    (readControl controls entry).Rejects IngressError.IsInvalid := by
  have text (value : Json) (field : String) :
      (parseStringControl value field).Rejects IngressError.IsInvalid := by
    unfold parseStringControl
    split
    · exact Except.rejects_ok
    · exact rejects_invalid
  have flag (value : Json) (field : String) :
      (parseBoolControl value field).Rejects IngressError.IsInvalid := by
    unfold parseBoolControl
    split
    · exact Except.rejects_ok
    · exact rejects_invalid
  unfold readControl
  split
  · refine Except.Rejects.bind ?_ fun _ => Except.rejects_ok
    unfold parsePrompt
    split
    · exact Except.rejects_ok
    · exact rejects_invalid
  · exact Except.rejects_ok
  · exact (text _ _).bind fun _ => Except.rejects_ok
  · exact (flag _ _).bind fun _ => Except.rejects_ok
  · refine Except.Rejects.bind ?_ fun _ => Except.rejects_ok
    unfold parseParameters
    split
    · exact rejects_invalid
    · exact Except.rejects_foldlM readParameter_rejects _ _
  · exact rejects_invalid
  · exact rejects_invalid
  · exact rejects_invalid

/-- Each rejected body is an invalid request. -/
theorem parseIngressRequest_rejects (toVec : Json → Option (List UInt8)) (body : Json)
    (limits : PolicyLimits) :
    (parseIngressRequest toVec body limits).Rejects IngressError.IsInvalid := by
  have prompt (text : String) :
      (validatePromptBounds text limits).Rejects IngressError.IsInvalid := by
    unfold validatePromptBounds
    split
    · exact rejects_invalid
    · split
      · exact rejects_invalid
      · split
        · exact rejects_invalid
        · exact Except.rejects_ok
  have metadata (value : Json) :
      (validateMetadataSize toVec value limits).Rejects IngressError.IsInvalid := by
    unfold validateMetadataSize
    split
    · exact rejects_invalid
    · exact Except.rejects_ok
  unfold parseIngressRequest
  split
  · exact rejects_invalid
  · refine (Except.rejects_foldlM readControl_rejects _ _).bind fun controls => ?_
    split
    · exact rejects_invalid
    · exact rejects_invalid
    · refine (prompt _).bind fun _ => ?_
      exact (metadata _).bind fun _ => Except.rejects_ok

end Parsing

/-- A processed request fails in its routing or in its execution. -/
inductive IngressError.IsProcessed : IngressError → Prop
  | invalid (message : String) : IsProcessed (.invalidRequest message)
  | unresolved : IsProcessed .requestOrchestrationFailed
  | executed (cause : Executor.ExecutorError) : IsProcessed (.executionFailed cause)

theorem resolveRoute_rejects (catalog : Catalog) (requested : Option String)
    (allowFallback : Option Bool) :
    (resolveRoute catalog requested allowFallback).Rejects IngressError.IsProcessed := by
  have found (id : String) : (target catalog id).Rejects IngressError.IsProcessed := by
    unfold target
    split
    · exact Except.rejects_ok
    · exact Except.rejects_error .unresolved
  have selected : (selectedRoute catalog requested).Rejects IngressError.IsProcessed := by
    unfold selectedRoute
    split
    · exact Except.rejects_ok
    · split
      · exact Except.rejects_ok
      · exact Except.rejects_error (.invalid _)
  unfold resolveRoute
  refine selected.bind fun routeId => ?_
  split
  · exact Except.rejects_error .unresolved
  · refine (found _).bind fun primary => ?_
    have fallbacks (ids : List String) :
        (ids.mapM (fallbackPlan catalog)).Rejects IngressError.IsProcessed :=
      Except.rejects_mapM (fun id => (found id).bind fun _ => Except.rejects_ok) ids
    dsimp only
    split
    · exact (fallbacks _).bind fun _ => Except.rejects_ok
    · exact Except.rejects_ok

theorem executeLlmCall_returns (service : IngressService) (plan : RoutePlan) (payload : Json)
    (deadline : RequestDeadline) :
    (service.executeLlmCall plan payload deadline).Returns fun result =>
      result.Rejects IngressError.IsProcessed := by
  refine Program.returns_bind (Program.returns_all _) fun result _ => ?_
  cases result with
  | ok result => exact .pure Except.rejects_ok
  | error error => exact .pure (Except.rejects_error (.executed error))

/-- A processed request never answers for the admission. -/
theorem processRequest_returns (service : IngressService) (request : IngressRequest)
    (deadline : RequestDeadline) :
    (service.processRequest request deadline).Returns fun result =>
      result.Rejects IngressError.IsProcessed := by
  refine Program.returns_bind (Program.returns_all _) fun now _ => ?_
  split
  · exact .pure (Except.rejects_error (.executed _))
  · refine Program.returns_bind (Program.returns_all _) fun start _ => ?_
    split
    · rename_i failed
      exact .pure (Except.rejects_error (resolveRoute_rejects _ _ _ _ failed))
    · unfold IngressService.processResolved
      split
      · exact .pure (Except.rejects_error (.invalid _))
      · refine Program.returns_bind (executeLlmCall_returns service _ _ _)
          fun result possible => ?_
        cases result with
        | error error => exact .pure (Except.rejects_error (possible error rfl))
        | ok result =>
            exact Program.returns_bind (Program.returns_all _) fun _ _ => .pure Except.rejects_ok

/-- A generation never answers for the authentication. -/
theorem ingressHandler_returns (toVec : Json → Option (List UInt8)) (service : IngressService)
    (kind : Auth.ApiKeyKind) (body : Json) (deadline : RequestDeadline) :
    (ingressHandler toVec service kind body deadline).Returns fun result =>
      result.Rejects fun error => error ≠ .authenticationRequired := by
  have processed (request : IngressRequest) :
      (processAdmitted service request deadline).Returns fun result =>
        result.Rejects fun error => error ≠ .authenticationRequired := by
    refine Program.returns_bind (Program.returns_onDrop
      (processRequest_returns service request deadline)) fun result possible => ?_
    refine Program.returns_bind (Program.returns_all _) fun _ _ => .pure ?_
    intro error failed
    cases possible error failed with
    | _ => exact nofun
  unfold ingressHandler
  split
  · exact .pure (Except.rejects_error nofun)
  · split
    · rename_i failed
      obtain ⟨message, rfl⟩ := parseIngressRequest_rejects _ _ _ _ failed
      exact .pure (Except.rejects_error nofun)
    · refine Program.returns_bind (Program.returns_all _) fun granted _ => ?_
      split
      · exact processed _
      · exact .pure (Except.rejects_error nofun)
      · exact Program.returns_bind (Program.returns_all _) fun _ _ =>
          .pure (Except.rejects_error nofun)

end Opmux.Ingress
