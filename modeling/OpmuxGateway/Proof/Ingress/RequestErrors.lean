import OpmuxGateway.Construction.Ingress.Routing

/-
This file proves that the parser and the routing of a request never report an execution.
-/

namespace Opmux.Ingress

/-- An error of the request itself comes from no execution. -/
def Unexecuted {Value : Type} (result : Except IngressError Value) : Prop :=
  ∀ error, result = .error error → ∀ cause, error ≠ .executionFailed cause

section Unexecuted

variable {Value Result : Type}

theorem unexecuted_ok (value : Value) : Unexecuted (.ok value) := by rintro _ ⟨⟩

theorem unexecuted_error {error : IngressError} (other : ∀ cause, error ≠ .executionFailed cause) :
    Unexecuted (.error error : Except IngressError Value) := by
  rintro _ ⟨⟩
  exact other

theorem unexecuted_bind {result : Except IngressError Value}
    {next : Value → Except IngressError Result} (first : Unexecuted result)
    (second : ∀ value, Unexecuted (next value)) : Unexecuted (result >>= next) := by
  cases result with
  | error error => exact unexecuted_error (first error rfl)
  | ok value => exact second value

theorem unexecuted_foldlM {Item : Type} {step : Value → Item → Except IngressError Value}
    (steps : ∀ value item, Unexecuted (step value item)) (items : List Item) (value : Value) :
    Unexecuted (items.foldlM step value) := by
  induction items generalizing value with
  | nil => exact unexecuted_ok value
  | cons item rest ih =>
      rw [List.foldlM_cons]
      exact unexecuted_bind (steps value item) ih

theorem unexecuted_mapM {Item : Type} {step : Item → Except IngressError Value}
    (steps : ∀ item, Unexecuted (step item)) (items : List Item) : Unexecuted (items.mapM step) := by
  induction items with
  | nil => exact unexecuted_ok []
  | cons item rest ih =>
      rw [List.mapM_cons]
      refine unexecuted_bind (steps item) fun value => ?_
      exact unexecuted_bind ih fun values => unexecuted_ok _

end Unexecuted

section Parsing

theorem readParameter_unexecuted (parameters : GenerationParameters) (entry : String × Json) :
    Unexecuted (readParameter parameters entry) := by
  have number (value : Json) (field : String) (min max : Nat) :
      Unexecuted (parseBoundedNumber value field min max) := by
    unfold parseBoundedNumber
    split
    · split
      · exact unexecuted_ok _
      · exact unexecuted_error (by rintro _ ⟨⟩)
    · exact unexecuted_error (by rintro _ ⟨⟩)
  have count (value : Json) : Unexecuted (parseMaxTokens value) := by
    unfold parseMaxTokens
    split
    · exact unexecuted_ok _
    · exact unexecuted_error (by rintro _ ⟨⟩)
  unfold readParameter
  split
  · exact unexecuted_bind (number _ _ _ _) fun _ => unexecuted_ok _
  · exact unexecuted_bind (number _ _ _ _) fun _ => unexecuted_ok _
  · exact unexecuted_bind (count _) fun _ => unexecuted_ok _
  · exact unexecuted_error (by rintro _ ⟨⟩)

theorem readControl_unexecuted (controls : Controls) (entry : String × Json) :
    Unexecuted (readControl controls entry) := by
  have parameters (value : Json) : Unexecuted (parseParameters value) := by
    unfold parseParameters
    split
    · exact unexecuted_error (by rintro _ ⟨⟩)
    · exact unexecuted_foldlM readParameter_unexecuted _ _
  unfold readControl parsePrompt parseStringControl parseBoolControl
  split
  · refine unexecuted_bind ?_ fun _ => unexecuted_ok _
    split
    · exact unexecuted_ok _
    · exact unexecuted_error (by rintro _ ⟨⟩)
  · exact unexecuted_ok _
  · refine unexecuted_bind ?_ fun _ => unexecuted_ok _
    split
    · exact unexecuted_ok _
    · exact unexecuted_error (by rintro _ ⟨⟩)
  · refine unexecuted_bind ?_ fun _ => unexecuted_ok _
    split
    · exact unexecuted_ok _
    · exact unexecuted_error (by rintro _ ⟨⟩)
  · exact unexecuted_bind (parameters _) fun _ => unexecuted_ok _
  · exact unexecuted_error (by rintro _ ⟨⟩)
  · exact unexecuted_error (by rintro _ ⟨⟩)
  · exact unexecuted_error (by rintro _ ⟨⟩)

/-- A rejected body is never an expiry. -/
theorem parseIngressRequest_unexecuted (toVec : Json → Option (List UInt8)) (body : Json)
    (limits : PolicyLimits) : Unexecuted (parseIngressRequest toVec body limits) := by
  have prompt (text : String) : Unexecuted (validatePromptBounds text limits) := by
    unfold validatePromptBounds
    split
    · exact unexecuted_error (by rintro _ ⟨⟩)
    · split
      · exact unexecuted_error (by rintro _ ⟨⟩)
      · split
        · exact unexecuted_error (by rintro _ ⟨⟩)
        · exact unexecuted_ok _
  have metadata (value : Json) : Unexecuted (validateMetadataSize toVec value limits) := by
    unfold validateMetadataSize
    split
    · exact unexecuted_error (by rintro _ ⟨⟩)
    · exact unexecuted_ok _
  unfold parseIngressRequest
  split
  · exact unexecuted_error (by rintro _ ⟨⟩)
  · refine unexecuted_bind (unexecuted_foldlM readControl_unexecuted _ _) fun controls => ?_
    split
    · exact unexecuted_error (by rintro _ ⟨⟩)
    · exact unexecuted_error (by rintro _ ⟨⟩)
    · exact unexecuted_bind (prompt _) fun _ =>
        unexecuted_bind (metadata _) fun _ => unexecuted_ok _

/-- A route that cannot be resolved is never an expiry. -/
theorem resolveRoute_unexecuted (catalog : Catalog) (requested : Option String)
    (allowFallback : Option Bool) : Unexecuted (resolveRoute catalog requested allowFallback) := by
  have found (id : String) : Unexecuted (target catalog id) := by
    unfold target
    split
    · exact unexecuted_ok _
    · exact unexecuted_error (by rintro _ ⟨⟩)
  have selected : Unexecuted (selectedRoute catalog requested) := by
    unfold selectedRoute
    split
    · exact unexecuted_ok _
    · split
      · exact unexecuted_ok _
      · exact unexecuted_error (by rintro _ ⟨⟩)
  unfold resolveRoute
  refine unexecuted_bind selected fun route => ?_
  split
  · exact unexecuted_error (by rintro _ ⟨⟩)
  · refine unexecuted_bind (found _) fun primary => ?_
    have fallbacks (ids : List String) : Unexecuted (ids.mapM (fallbackPlan catalog)) :=
      unexecuted_mapM (fun id => unexecuted_bind (found id) fun _ => unexecuted_ok _) ids
    dsimp only
    split
    · exact unexecuted_bind (fallbacks _) fun _ => unexecuted_ok _
    · exact unexecuted_ok _

end Parsing

end Opmux.Ingress
