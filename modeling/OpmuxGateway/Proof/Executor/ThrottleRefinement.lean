import OpmuxGateway.Construction.Executor.ResponseArrival
import OpmuxGateway.Proof.Executor.AttemptDerivation
import OpmuxGateway.Proof.Executor.BoundedBody
import OpmuxGateway.Proof.Executor.ScriptedEnvironment

/-
This file proves that a throttled attempt ends as an exhausted quota or as its saved throttling.
-/

namespace Opmux.Executor

/-- A quota body is JSON whose error has the quota code or the quota type. -/
def InsufficientQuota (fromSlice : List UInt8 → Option Json) (body : List UInt8) : Prop :=
  ∃ value, fromSlice body = some value ∧ ∃ field ∈ ["code", "type"], ∃ text,
    (value.get "error").bind (·.get field) = some (.string text) ∧
      eqIgnoreAsciiCase text "insufficient_quota" = true

namespace ThrottledResponse

variable {maxBytes : UInt64}

/-- The whole body has arrived, with its end. -/
def CompleteBy (response : ThrottledResponse maxBytes) (now : Instant) : Prop :=
  response.arrived now = response.body.replies

instance (response : ThrottledResponse maxBytes) (now : Instant) :
    Decidable (response.CompleteBy now) :=
  inferInstanceAs (Decidable (response.arrived now = response.body.replies))

variable {response : ThrottledResponse maxBytes} {expiry now : Instant}

/-- At least as many replies have arrived by a later instant. -/
theorem takeWhile_length {later : Instant} (passed : now ≤ later) (arrivals : List Instant) :
    (arrivals.takeWhile (· ≤ now)).length ≤ (arrivals.takeWhile (· ≤ later)).length := by
  induction arrivals with
  | nil => exact le_refl _
  | cons arrival rest ih =>
      by_cases early : arrival ≤ now
      · simpa [early, early.trans passed] using ih
      · simp [early]

/-- A complete body stays complete. -/
theorem CompleteBy.later {later : Instant} (complete : response.CompleteBy now)
    (passed : now ≤ later) : response.CompleteBy later := by
  unfold CompleteBy arrived at complete ⊢
  apply List.take_of_length_le
  have whole := congrArg List.length complete
  have more := takeWhile_length passed response.arrivals
  rw [List.length_take] at whole
  omega

/-- An incomplete body has only chunks. -/
theorem arrived_incomplete (incomplete : ¬response.CompleteBy now) :
    ∃ chunks, chunks <+: response.body.chunks ∧ response.arrived now = chunks.map .chunk := by
  unfold CompleteBy at incomplete
  unfold arrived at incomplete ⊢
  generalize (response.arrivals.takeWhile (· ≤ now)).length = count at incomplete ⊢
  have few : count ≤ (response.body.chunks.map ChunkReply.chunk).length := by
    by_contra many
    apply incomplete
    apply List.take_of_length_le
    rw [ResponseBody.replies, List.length_append, List.length_singleton]
    omega
  refine ⟨response.body.chunks.take count, List.take_prefix _ _, ?_⟩
  rw [ResponseBody.replies, List.take_append_of_le_length few, List.map_take]

/-- A body that fits is read completely, or the poll waits for its timer. -/
theorem poll_fits (fits : response.body.Fits) :
    response.poll expiry now =
      if response.CompleteBy now then some (.complete response.body.chunks.flatten)
      else if expiry ≤ now then some .elapsed else none := by
  unfold poll
  by_cases complete : response.CompleteBy now
  · have returned := ResponseBody.read_eq_ok.mpr ⟨fits, rfl⟩
    rw [ResponseBody.read] at returned
    rw [if_pos complete, complete, returned]
  · obtain ⟨chunks, ⟨rest, split⟩, same⟩ := arrived_incomplete complete
    obtain ⟨allowed, within, _⟩ := fits
    have whole := response.body.addressable
    rw [← split] at whole within
    rw [List.flatten_append, List.length_append] at within
    have reading : (readChunks maxBytes.toNat [] (chunks.map .chunk)).1 =
        .reading ([] ++ chunks.flatten) :=
      readChunks_within whole.init (by rw [List.length_nil]; omega)
    rw [if_neg complete, same, ResponseBody.read_allowed allowed, reading]

/-- Only a body that fits is read completely. -/
theorem poll_complete {body : List UInt8}
    (polled : response.poll expiry now = some (.complete body)) :
    response.body.Fits := by
  have returned : (readBoundedResponseBody response.body.contentLength maxBytes
      (response.arrived now)).1 = .returned (.ok body) := by
    unfold poll at polled
    split at polled
    · rename_i bytes read
      cases polled
      exact read
    · cases polled
    · split at polled <;> cases polled
  by_cases complete : response.CompleteBy now
  · rw [complete] at returned
    exact (ResponseBody.read_eq_ok.mp returned).1
  · obtain ⟨chunks, _, same⟩ := arrived_incomplete complete
    by_cases allowed : ∀ length ∈ response.body.contentLength, length ≤ maxBytes
    · rw [ResponseBody.read_allowed allowed, same] at returned
      obtain ⟨before, after, split, _⟩ := readChunks_returned_ok returned
      have ends : ChunkReply.eof ∈ chunks.map ChunkReply.chunk := by
        rw [split]
        simp
      simp at ends
    · rw [ResponseBody.read_advertised allowed] at returned
      cases returned

end ThrottledResponse

section Classification

variable {chrono : Chrono} {fromSlice : List UInt8 → Option Json} {cutoff : Instant}
  {header : Option (List UInt8)} {trace : List VendorEvent}

/-- A classification ends by its window, by its body, or at its cutoff. -/
inductive Refines (fromSlice : List UInt8 → Option Json) (throttling : ExecutorError)
    (window : Duration) : List VendorEvent → Option ExecutorError → Prop
  | closed (zero : window = 0) : Refines fromSlice throttling window [] (some throttling)
  | dropped {polled} (positive : window ≠ 0) :
      Refines fromSlice throttling window [⟨.readBody window, none, polled⟩] none
  | exhausted {body polled observed} (positive : window ≠ 0)
      (quota : InsufficientQuota fromSlice body) :
      Refines fromSlice throttling window
        [⟨.readBody window, some (.complete body), polled⟩,
          ⟨.observe .quotaExceeded, (), observed⟩] (some .quotaExceeded)
  | kept {reply polled} (positive : window ≠ 0)
      (other : ∀ body, reply = .complete body → ¬InsufficientQuota fromSlice body) :
      Refines fromSlice throttling window [⟨.readBody window, some reply, polled⟩]
        (some throttling)

end Classification

variable {maxBytes : UInt64}

section Attempt

variable {response : ThrottledResponse maxBytes} {cutoff : Instant}

/-- The reply of the last poll of a read that is issued at an instant. -/
def AnswersPoll (response : ThrottledResponse maxBytes) (cutoff expiry now : Instant)
    (reply : Option BodyReply) : Prop :=
  match response.poll expiry now with
  | some body => reply = some body
  | none => reply = none ∧ cutoff ≤ now

/-- A complete body that fits is the answer of every poll. -/
theorem AnswersPoll.complete {expiry now : Instant} {reply : Option BodyReply}
    (answers : AnswersPoll response cutoff expiry now reply)
    (fits : response.body.Fits) (complete : response.CompleteBy now) :
    reply = some (.complete response.body.chunks.flatten) := by
  rw [AnswersPoll, ThrottledResponse.poll_fits fits, if_pos complete] at answers
  exact answers

/-- A body that fits and is missing keeps its reader waiting for the timer or the cutoff. -/
theorem AnswersPoll.missing {expiry now : Instant} {reply : Option BodyReply}
    (answers : AnswersPoll response cutoff expiry now reply)
    (fits : response.body.Fits) (missing : ¬response.CompleteBy now) :
    reply = some .elapsed ∧ expiry ≤ now ∨ reply = none ∧ cutoff ≤ now := by
  rw [AnswersPoll, ThrottledResponse.poll_fits fits, if_neg missing] at answers
  by_cases expired : expiry ≤ now
  · rw [if_pos expired] at answers
    exact .inl ⟨answers, expired⟩
  · rw [if_neg expired] at answers
    exact .inr answers

/-- A completely read body fits and has arrived. -/
theorem AnswersPoll.read {expiry now : Instant} {body : List UInt8}
    (answers : AnswersPoll response cutoff expiry now (some (.complete body))) :
    response.body.Fits ∧ response.CompleteBy now ∧
      body = response.body.chunks.flatten := by
  have fits : response.body.Fits := by
    rw [AnswersPoll] at answers
    split at answers
    · rename_i polled
      cases answers
      exact ThrottledResponse.poll_complete polled
    · cases answers.1
  by_cases complete : response.CompleteBy now
  · cases answers.complete fits complete
    exact ⟨fits, complete, rfl⟩
  · rcases answers.missing fits complete with ⟨impossible, _⟩ | ⟨impossible, _⟩
    · cases impossible
    · cases impossible

variable {chrono : Chrono} {fromSlice : List UInt8 → Option Json} {start : Instant}
  {trace : List VendorEvent} {outcome : Option ExecutorError} {plan : RoutePlan}
  {deadline : RequestDeadline} {attemptTimeout : Duration} {events : List Event}
  {step : AttemptStep}

end Attempt

end Opmux.Executor
