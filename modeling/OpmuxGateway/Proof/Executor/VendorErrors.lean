import OpmuxGateway.Construction.Executor.VendorCall
import OpmuxGateway.Library.Outcomes
import OpmuxGateway.Proof.Executor.CircuitOpenReport
import OpmuxGateway.Proof.Executor.Decision
import OpmuxGateway.Proof.Executor.OpenAiResponse

/-
This file proves that the calls of the vendor fail with no error of the executor itself.
-/

namespace Opmux.Executor

open Except (bind_eq_ok)

/-- The deadline and the circuits belong to the executor, and every other error may be foreign. -/
def ExecutorError.Foreign (error : ExecutorError) : Prop :=
  error ≠ .deadlineExceeded ∧ ∀ vendor retryAfterMs, error ≠ .circuitOpen vendor retryAfterMs

section Errors

open ExecutorError (Foreign)

theorem transportError_foreign (failure : TransportError) : (transportError failure).Foreign := by
  cases failure <;> exact ⟨by simp [transportError], by simp [transportError]⟩

theorem classifyUnsuccessfulStatus_foreign (fromSlice : List UInt8 → Option Json) (status : Nat)
    (body : List UInt8) : (classifyUnsuccessfulStatus fromSlice status body).Foreign := by
  unfold classifyUnsuccessfulStatus
  split
  · simp [Foreign]
  · split
    · simp [Foreign]
    · split <;> simp [Foreign]

/-- A fault of a successful response is an error of its contents. -/
theorem IsResponseFault.foreign {error : ExecutorError} (fault : IsResponseFault error) :
    error.Foreign := by
  rcases fault with rfl | rfl | rfl <;> simp [Foreign]

theorem pull_foreign {maxBytes : Nat} {body : List UInt8} {reply : ChunkReply}
    {error : ExecutorError} (pulled : Reader.pull maxBytes body reply = .returned (.error error)) :
    error.Foreign := by
  cases reply with
  | chunk bytes =>
      unfold Reader.pull appendBounded at pulled
      dsimp only at pulled
      by_cases exceeds : maxBytes < min (body.length + bytes.length) usizeMax
      · rw [if_pos exceeds] at pulled
        cases pulled
        simp [Foreign]
      · rw [if_neg exceeds] at pulled
        cases pulled
  | eof => cases pulled
  | failed failure =>
      cases pulled
      exact transportError_foreign failure

/-- A bounded read fails with its cap or with the transport. -/
theorem readChunks_foreign {maxBytes : Nat} {body : List UInt8} {replies : List ChunkReply}
    {error : ExecutorError}
    (returned : (readChunks maxBytes body replies).1 = .returned (.error error)) :
    error.Foreign := by
  induction replies generalizing body with
  | nil => cases returned
  | cons reply rest ih =>
      rw [readChunks] at returned
      split at returned
      · exact ih returned
      · rename_i result pulled
        cases returned
        exact pull_foreign pulled

theorem readBoundedResponseBody_foreign {contentLength : Option UInt64} {maxBytes : UInt64}
    {replies : List ChunkReply} {error : ExecutorError}
    (returned : (readBoundedResponseBody contentLength maxBytes replies).1 =
      .returned (.error error)) : error.Foreign := by
  unfold readBoundedResponseBody checkAdvertisedContentLength at returned
  split at returned
  · rename_i refused
    cases returned
    split at refused
    · cases refused
      simp [Foreign]
    · cases refused
  · exact readChunks_foreign returned

theorem completionRequest_foreign {config : OpenAIConfig} {model : String}
    {params : ExecutionParams} {error : ExecutorError}
    (failed : OpenAIVendor.completionRequest config model params = .error error) :
    error.Foreign := by
  unfold OpenAIVendor.completionRequest at failed
  split at failed
  · cases failed
    simp [Foreign]
  · split at failed
    · cases failed
      simp [Foreign]
    · cases failed

theorem getVendor_foreign {repository : ExecutorRepository} {vendorId : String}
    {error : ExecutorError} (failed : repository.getVendor vendorId = .error error) :
    error.Foreign := by
  unfold ExecutorRepository.getVendor at failed
  split at failed
  · cases failed
  · cases failed
    simp [Foreign]

end Errors

section Calls

open ExecutorError (Foreign)
open Program

variable {arithmetic : CostArithmetic} {chrono : Chrono} {fromSlice : List UInt8 → Option Json}
  {maxBytes : UInt64} {cutoff : Instant}

/-- A result fails only with foreign errors. -/
def FailsForeign (result : Except ExecutorError ExecutionResult) : Prop := result.Rejects Foreign

/-- An observation is a foreign error. -/
def ObservesForeign (request : VendorRequest) : Prop :=
  ∀ error, request = .observe error → error.Foreign

theorem classifyTooManyRequests_returns (retryAfter : Option (List UInt8)) :
    (classifyTooManyRequests chrono fromSlice cutoff retryAfter).Returns Foreign := by
  have throttling : ∀ retryAfterMs,
      (ExecutorError.rateLimitExceeded "openai" retryAfterMs).Foreign := by simp [Foreign]
  unfold classifyTooManyRequests
  refine returns_bind (returns_all _) fun retryAfterMs _ => ?_
  refine returns_bind (returns_all _) fun _ _ => returns_bind (returns_all _) fun now _ => ?_
  dsimp only
  split
  · exact .pure (throttling _)
  · refine returns_bind (returns_all _) fun reply _ => ?_
    split
    · exact .halt
    · split
      · exact returns_bind (returns_all _) fun _ _ => .pure (by simp [Foreign])
      · exact .pure (throttling _)
    · exact .pure (throttling _)
    · exact .pure (throttling _)

theorem classifyTooManyRequests_asks (retryAfter : Option (List UInt8)) :
    (classifyTooManyRequests chrono fromSlice cutoff retryAfter).Asks ObservesForeign := by
  have throttling : ∀ retryAfterMs,
      ObservesForeign (.observe (.rateLimitExceeded "openai" retryAfterMs)) := by
    rintro _ _ ⟨⟩
    simp [Foreign]
  have quota : ObservesForeign (.observe .quotaExceeded) := by
    rintro _ ⟨⟩
    simp [Foreign]
  have header : (readRetryAfter chrono retryAfter).Asks ObservesForeign := by
    unfold readRetryAfter
    split
    · trivial
    · exact asks_bind (asks_request (by rintro _ ⟨⟩)) fun _ => trivial
  unfold classifyTooManyRequests
  refine asks_bind header fun retryAfterMs => ?_
  refine asks_bind (asks_request (throttling _)) fun _ => ?_
  refine asks_bind (asks_request (by rintro _ ⟨⟩)) fun now => ?_
  dsimp only
  split
  · trivial
  · refine asks_bind (asks_request (by rintro _ ⟨⟩)) fun reply => ?_
    split
    · trivial
    · split
      · exact asks_bind (asks_request quota) fun _ => trivial
      · trivial
    · trivial
    · trivial

theorem readBody_returns : (readBody maxBytes).Returns fun body => body.Rejects Foreign := by
  unfold readBody
  refine returns_bind (returns_all _) fun reply _ => ?_
  dsimp only
  split
  · rename_i result returned
    refine .pure fun error failed => ?_
    rw [failed] at returned
    exact readBoundedResponseBody_foreign returned
  · exact .halt

theorem classifyResponse_returns (pricing : Option ModelPricing) (head : ResponseHead) :
    (classifyResponse arithmetic chrono fromSlice maxBytes cutoff pricing head).Returns
      FailsForeign := by
  unfold classifyResponse
  split
  · exact returns_bind (classifyTooManyRequests_returns _).embed fun error foreign =>
      .pure (Except.rejects_error foreign)
  · refine returns_bind readBody_returns fun body read => ?_
    split
    · exact .pure (read.bind fun body error failed =>
        (parseSuccessfulChatCompletion_fails error failed).foreign)
    · exact .pure (Except.rejects_error (classifyUnsuccessfulStatus_foreign _ _ _))

/-- Every outcome of a call is a result or a foreign error. -/
theorem executeCall_returns {repository : ExecutorRepository} {plan : RoutePlan}
    {params : ExecutionParams} : (repository.executeCall arithmetic chrono fromSlice maxBytes plan
      params cutoff).Returns FailsForeign := by
  unfold ExecutorRepository.executeCall
  split
  · rename_i error failed
    exact .pure (Except.rejects_error (getVendor_foreign failed))
  · rename_i vendor found
    split
    · exact .pure (Except.rejects_error (by simp [Foreign]))
    · unfold OpenAIVendor.executeClassified
      split
      · rename_i error failed
        exact .pure (Except.rejects_error (completionRequest_foreign failed))
      · refine returns_bind (returns_all _) fun reply _ => ?_
        rcases reply with _ | failure | head
        · exact .halt
        · exact .pure (Except.rejects_error (transportError_foreign failure))
        · exact classifyResponse_returns _ head

theorem readBody_asks {allowed : AttemptRequest → Prop} (read : allowed .readBody) :
    (readBody maxBytes).Asks allowed := by
  unfold readBody
  refine asks_bind (asks_request read) fun reply => ?_
  dsimp only
  split
  · trivial
  · trivial

/-- A call sends the request of its plan, and it observes foreign errors only. -/
def CallAsks (repository : ExecutorRepository) (plan : RoutePlan) (params : ExecutionParams) :
    AttemptRequest → Prop
  | .send request => repository.callLlm plan params = .ok request
  | .readBody => True
  | .throttled request => ObservesForeign request

theorem executeCall_asks {repository : ExecutorRepository} {plan : RoutePlan}
    {params : ExecutionParams} : (repository.executeCall arithmetic chrono fromSlice maxBytes plan
      params cutoff).Asks (CallAsks repository plan params) := by
  unfold ExecutorRepository.executeCall
  split
  · trivial
  · rename_i vendor found
    split
    · trivial
    · rename_i supported
      unfold OpenAIVendor.executeClassified
      split
      · trivial
      · rename_i request requested
        have sent : CallAsks repository plan params (.send request) := by
          unfold CallAsks ExecutorRepository.callLlm
          refine bind_eq_ok.mpr ⟨vendor, found, ?_⟩
          rw [if_neg supported]
          exact requested
        refine asks_bind (asks_request sent) fun reply => ?_
        rcases reply with _ | failure | head
        · trivial
        · trivial
        · change Asks _ (classifyResponse arithmetic chrono fromSlice maxBytes cutoff _ head)
          unfold classifyResponse
          split
          · have throttled : (classifyTooManyRequests chrono fromSlice cutoff head.retryAfter).Asks
                fun request => CallAsks repository plan params (.throttled request) :=
              classifyTooManyRequests_asks _
            exact asks_bind throttled.embed fun _ => trivial
          · refine asks_bind (readBody_asks trivial) fun body => ?_
            split
            · trivial
            · trivial

/-- The observed error of a call is one that it has observed. -/
theorem attemptObserved_foreign {repository : ExecutorRepository} {plan : RoutePlan}
    {params : ExecutionParams} {trace : List AttemptEvent} {error : ExecutorError}
    (asked : ∀ event ∈ trace, CallAsks repository plan params event.request)
    (observed : attemptObserved trace = some error) : error.Foreign := by
  have kept : ∀ found ∈ attemptObserved trace, found.Foreign := by
    unfold attemptObserved
    refine List.foldlRecOn (motive := fun found => ∀ error ∈ found, Foreign error) trace _ ?_
      fun earlier foreign event member => ?_
    · rintro _ ⟨⟩
    · have allowed := asked event member
      split
      · rename_i error same
        rw [same] at allowed
        rintro _ ⟨⟩
        exact allowed error rfl
      · exact foreign
  exact kept error observed

end Calls

section Served

variable (arithmetic : CostArithmetic) (chrono : Chrono) (fromSlice : List UInt8 → Option Json)
  (maxBytes : UInt64) (repository : ExecutorRepository)

/-- The replies of the calls come from the vendors of the repository. -/
def Served : Event → Prop
  | ⟨.call plan params cutoff, reply, _⟩ => ∀ answered, reply = some answered →
      ∃ trace outcome, (repository.executeCall arithmetic chrono fromSlice maxBytes plan params
        cutoff).Runs trace outcome ∧ answered = attemptReply trace outcome
  | _ => True

variable {arithmetic chrono fromSlice maxBytes repository}

/-- A vendor reports no deadline and no open circuit of the executor. -/
theorem Served.foreign {plan : RoutePlan} {params : ExecutionParams} {cutoff : Instant}
    {answered : CallReply} {trace : List AttemptEvent}
    {outcome : Option (Except ExecutorError ExecutionResult)}
    (run : (repository.executeCall arithmetic chrono fromSlice maxBytes plan params cutoff).Runs
      trace outcome) (same : answered = attemptReply trace outcome) (attemptTimeout : Duration) :
    (callOutcome answered attemptTimeout).Rejects ExecutorError.Foreign := by
  subst same
  cases outcome with
  | some result => exact executeCall_returns.runs run
  | none =>
      unfold attemptReply callOutcome
      cases observed : attemptObserved trace with
      | none => exact Except.rejects_error (by simp [ExecutorError.Foreign])
      | some error =>
          exact Except.rejects_error (attemptObserved_foreign (executeCall_asks.runs run) observed)

/-- The executor alone reports deadlines and open circuits when its vendors serve the calls. -/
theorem served_genuine {event : Event}
    (served : Served arithmetic chrono fromSlice maxBytes repository event) :
    Genuine event ∧ Upstream event := by
  obtain ⟨request, reply, span⟩ := event
  cases request with
  | call plan params cutoff =>
      have foreign : ∀ answered, reply = some answered → ∀ attemptTimeout,
          (callOutcome answered attemptTimeout).Rejects ExecutorError.Foreign := by
        intro answered given
        obtain ⟨trace, outcome, run, same⟩ := served answered given
        exact Served.foreign run same
      refine ⟨fun answered given => ⟨?_, ?_⟩, ?_⟩
      · rintro rfl
        exact (foreign _ given 0 _ rfl).1 rfl
      · rintro rfl
        exact (foreign _ given 0 _ rfl).1 rfl
      · intro answered attemptTimeout vendor retryAfterMs given failed
        exact (foreign answered given attemptTimeout _ failed).2 vendor retryAfterMs rfl
  | _ => exact ⟨trivial, trivial⟩

end Served

end Opmux.Executor
