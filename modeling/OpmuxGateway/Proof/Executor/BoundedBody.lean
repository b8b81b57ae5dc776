import OpmuxGateway.Construction.Executor.BoundedBody

/-
This file proves that the bounded reader accepts exactly the bodies within its cap.
-/

namespace Opmux.Executor

/-- The conversion to a machine word keeps every cap. -/
theorem usize_cap (maxBytes : UInt64) : min maxBytes.toNat usizeMax = maxBytes.toNat := by
  have bound := maxBytes.toNat_lt
  have limit : usizeMax = 2 ^ 64 - 1 := rfl
  omega

/-- An advertised length fails exactly above the cap. -/
theorem checkAdvertisedContentLength_eq (contentLength : Option UInt64) (maxBytes : UInt64) :
    checkAdvertisedContentLength contentLength maxBytes =
      if ∀ length ∈ contentLength, length ≤ maxBytes then .ok ()
      else .error .invalidUpstreamResult := by
  have exceeds : contentLength.any (maxBytes < ·) = true ↔
      ¬∀ length ∈ contentLength, length ≤ maxBytes := by
    cases contentLength with
    | none => simp
    | some length => simp
  unfold checkAdvertisedContentLength
  by_cases within : ∀ length ∈ contentLength, length ≤ maxBytes
  · rw [if_neg (fun above => exceeds.mp above within), if_pos within]
  · rw [if_pos (exceeds.mpr within), if_neg within]

/-- An addressable length does not saturate. -/
theorem appendBounded_eq {buf chunk : List UInt8} (maxBytes : Nat)
    (addressable : buf.length + chunk.length ≤ usizeMax) :
    appendBounded buf chunk maxBytes =
      if buf.length + chunk.length ≤ maxBytes then .ok (buf ++ chunk)
      else .error .invalidUpstreamResult := by
  unfold appendBounded
  rw [Nat.min_eq_left addressable]
  by_cases within : buf.length + chunk.length ≤ maxBytes
  · simp [within, Nat.not_lt.mpr within]
  · simp [within, Nat.not_le.mp within]

section Loop

variable {maxBytes : Nat} {body : List UInt8} {chunks : List (List UInt8)}

/-- Each later chunk is a buffer, and so is each result that the cap allows. -/
structure Addressable (maxBytes : Nat) (body : List UInt8) (chunks : List (List UInt8)) :
    Prop where
  chunked : ∀ chunk ∈ chunks, chunk.length ≤ isizeMax
  buffered : ∀ before, before <+: chunks → body.length + before.flatten.length ≤ maxBytes →
    body.length + before.flatten.length ≤ isizeMax

namespace Addressable

/-- Two buffers together have an addressable length. -/
theorem append_length {chunk : List UInt8}
    (addressable : Addressable maxBytes body (chunk :: chunks)) (room : body.length ≤ maxBytes) :
    body.length + chunk.length ≤ usizeMax := by
  have buffer := addressable.buffered [] (List.nil_prefix ..) (by simpa using room)
  have next := addressable.chunked chunk List.mem_cons_self
  have sum : isizeMax + isizeMax ≤ usizeMax := by decide
  simp only [List.flatten_nil, List.length_nil, Nat.add_zero] at buffer
  omega

theorem tail {chunk : List UInt8} (addressable : Addressable maxBytes body (chunk :: chunks)) :
    Addressable maxBytes (body ++ chunk) chunks := by
  refine ⟨fun later member => addressable.chunked later (List.mem_cons_of_mem _ member), ?_⟩
  intro before first within
  have whole := addressable.buffered (chunk :: before) (List.cons_prefix_cons.mpr ⟨rfl, first⟩)
  rw [List.flatten_cons, List.length_append, ← Nat.add_assoc] at whole
  rw [List.length_append] at within ⊢
  exact whole within

theorem init {later : List (List UInt8)}
    (addressable : Addressable maxBytes body (chunks ++ later)) :
    Addressable maxBytes body chunks := by
  refine ⟨fun chunk member => addressable.chunked chunk (List.mem_append_left _ member), ?_⟩
  intro before first
  exact addressable.buffered before (first.trans (List.prefix_append _ _))

end Addressable

/-- Two runs of the loop compose while the reader still reads. -/
theorem readChunks_append {first second : List ChunkReply} {later : List UInt8}
    (reading : (readChunks maxBytes body first).1 = .reading later) :
    readChunks maxBytes body (first ++ second) = readChunks maxBytes later second := by
  induction first generalizing body with
  | nil =>
      cases reading
      rfl
  | cons reply rest ih =>
      rw [List.cons_append, readChunks]
      rw [readChunks] at reading
      cases pulled : Reader.pull maxBytes body reply with
      | reading next =>
          rw [pulled] at reading
          exact ih reading
      | returned result =>
          rw [pulled] at reading
          cases reading

/-- Chunks within the cap are all accumulated in their order. -/
theorem readChunks_within (addressable : Addressable maxBytes body chunks)
    (within : body.length + chunks.flatten.length ≤ maxBytes) :
    (readChunks maxBytes body (chunks.map .chunk)).1 = .reading (body ++ chunks.flatten) := by
  induction chunks generalizing body with
  | nil => simp [readChunks]
  | cons chunk rest ih =>
      rw [List.flatten_cons, List.length_append] at within
      have appended : appendBounded body chunk maxBytes = .ok (body ++ chunk) := by
        rw [appendBounded_eq maxBytes (addressable.append_length (by omega)), if_pos (by omega)]
      rw [List.map_cons, readChunks, Reader.pull, appended, List.flatten_cons,
        ← List.append_assoc]
      apply ih addressable.tail
      rw [List.length_append]
      omega

/-- A chunk beyond the cap fails the reader, which leaves every later reply. -/
theorem readChunks_exceeds {chunk : List UInt8} {later : List ChunkReply}
    (addressable : Addressable maxBytes body (chunks ++ [chunk])) (room : body.length ≤ maxBytes)
    (exceeds : maxBytes < body.length + (chunks.flatten.length + chunk.length)) :
    ∃ unread, later <:+ unread ∧
      readChunks maxBytes body (chunks.map .chunk ++ .chunk chunk :: later) =
        (.returned (.error .invalidUpstreamResult), unread) := by
  induction chunks generalizing body with
  | nil =>
      have appended : appendBounded body chunk maxBytes = .error .invalidUpstreamResult := by
        rw [List.flatten_nil, List.length_nil] at exceeds
        rw [appendBounded_eq maxBytes (addressable.append_length room), if_neg (by omega)]
      refine ⟨later, List.suffix_refl later, ?_⟩
      rw [List.map_nil, List.nil_append, readChunks, Reader.pull, appended]
  | cons first rest ih =>
      rw [List.flatten_cons, List.length_append] at exceeds
      rw [List.cons_append] at addressable
      rw [List.map_cons, List.cons_append, readChunks, Reader.pull,
        appendBounded_eq maxBytes (addressable.append_length room)]
      by_cases within : body.length + first.length ≤ maxBytes
      · rw [if_pos within]
        apply ih addressable.tail
        · rwa [List.length_append]
        · rw [List.length_append]
          omega
      · rw [if_neg within]
        exact ⟨_, List.suffix_append_of_suffix (List.suffix_cons _ later), rfl⟩

/-- An accepted chunk is appended. -/
theorem appendBounded_ok {buf chunk next : List UInt8}
    (appended : appendBounded buf chunk maxBytes = .ok next) : next = buf ++ chunk := by
  dsimp only [appendBounded] at appended
  split at appended
  · cases appended
  · cases appended
    rfl

/-- A reader that still reads has accumulated every chunk. -/
theorem readChunks_reading {replies : List ChunkReply} {later : List UInt8}
    (reading : (readChunks maxBytes body replies).1 = .reading later) :
    ∃ chunks : List (List UInt8), replies = chunks.map .chunk ∧ later = body ++ chunks.flatten := by
  induction replies generalizing body with
  | nil =>
      cases reading
      exact ⟨[], rfl, by simp⟩
  | cons reply rest ih =>
      rw [readChunks] at reading
      cases reply with
      | eof => cases reading
      | failed error => cases reading
      | chunk bytes =>
          rw [Reader.pull] at reading
          cases appended : appendBounded body bytes maxBytes with
          | error error =>
              rw [appended] at reading
              cases reading
          | ok next =>
              rw [appended] at reading
              obtain rfl := appendBounded_ok appended
              obtain ⟨chunks, rfl, rfl⟩ := ih reading
              exact ⟨bytes :: chunks, rfl, by simp⟩

/-- A reader returns bytes exactly at the end of a body within the cap. -/
theorem readChunks_returned_ok {replies : List ChunkReply} {bytes : List UInt8}
    (returned : (readChunks maxBytes body replies).1 = .returned (.ok bytes)) :
    ∃ (chunks : List (List UInt8)) (rest : List ChunkReply),
      replies = chunks.map .chunk ++ .eof :: rest ∧
      (readChunks maxBytes body (chunks.map .chunk)).1 = .reading bytes := by
  induction replies generalizing body with
  | nil => cases returned
  | cons reply rest ih =>
      rw [readChunks] at returned
      cases reply with
      | eof =>
          cases returned
          exact ⟨[], rest, rfl, rfl⟩
      | failed error => cases returned
      | chunk chunk =>
          rw [Reader.pull] at returned
          cases appended : appendBounded body chunk maxBytes with
          | error error =>
              rw [appended] at returned
              cases returned
          | ok next =>
              rw [appended] at returned
              obtain ⟨chunks, later, rfl, reading⟩ := ih returned
              refine ⟨chunk :: chunks, later, rfl, ?_⟩
              rw [List.map_cons, readChunks, Reader.pull, appended]
              exact reading

/-- Chunks beyond the cap have a first chunk that would exceed it. -/
theorem exceeding_chunk {start : Nat} (room : start ≤ maxBytes)
    (exceeds : maxBytes < start + chunks.flatten.length) :
    ∃ before chunk after, chunks = before ++ chunk :: after ∧
      start + before.flatten.length ≤ maxBytes ∧
      maxBytes < start + (before.flatten.length + chunk.length) := by
  induction chunks generalizing start with
  | nil =>
      rw [List.flatten_nil, List.length_nil] at exceeds
      omega
  | cons chunk rest ih =>
      rw [List.flatten_cons, List.length_append] at exceeds
      by_cases within : start + chunk.length ≤ maxBytes
      · obtain ⟨before, last, after, rfl, fits, first⟩ := ih within (by omega)
        refine ⟨chunk :: before, last, after, rfl, ?_, ?_⟩
        · rw [List.flatten_cons, List.length_append]
          omega
        · rw [List.flatten_cons, List.length_append]
          omega
      · exact ⟨[], chunk, rest, rfl, by simpa using room, by simpa using within⟩

/-- A reader that still reads stays within its cap. -/
theorem readChunks_bounded {later : List UInt8} (addressable : Addressable maxBytes body chunks)
    (room : body.length ≤ maxBytes)
    (reading : (readChunks maxBytes body (chunks.map .chunk)).1 = .reading later) :
    body.length + chunks.flatten.length ≤ maxBytes := by
  by_contra beyond
  obtain ⟨before, chunk, after, rfl, _, exceeds⟩ := exceeding_chunk room (Nat.lt_of_not_le beyond)
  have first : Addressable maxBytes body (before ++ [chunk]) := by
    rw [List.append_cons] at addressable
    exact addressable.init
  obtain ⟨unread, _, failed⟩ := readChunks_exceeds first room exceeds
  rw [List.map_append, List.map_cons, failed] at reading
  cases reading

end Loop

def ChunkReply.bytes : ChunkReply → Option (List UInt8)
  | .chunk bytes => some bytes
  | .eof | .failed _ => none

namespace ResponseBody

variable {maxBytes : UInt64}

/-- A response fits its cap when it ends well and neither of its sizes exceeds the cap. -/
def Fits (response : ResponseBody maxBytes) : Prop :=
  (∀ length ∈ response.contentLength, length ≤ maxBytes) ∧
    response.chunks.flatten.length ≤ maxBytes.toNat ∧ response.ending = .eof

/-- The reading of a response under its cap. -/
def read (response : ResponseBody maxBytes) : Reader × List ChunkReply :=
  readBoundedResponseBody response.contentLength maxBytes response.replies

variable {response : ResponseBody maxBytes}

theorem addressable (response : ResponseBody maxBytes) :
    Addressable maxBytes.toNat [] response.chunks :=
  ⟨response.chunked, by simpa using response.buffered⟩

/-- The loop starts exactly below an advertised length within the cap. -/
theorem read_allowed {replies : List ChunkReply}
    (allowed : ∀ length ∈ response.contentLength, length ≤ maxBytes) :
    readBoundedResponseBody response.contentLength maxBytes replies =
      readChunks maxBytes.toNat [] replies := by
  rw [readBoundedResponseBody, checkAdvertisedContentLength_eq, if_pos allowed, usize_cap]

theorem read_advertised {replies : List ChunkReply}
    (exceeds : ¬∀ length ∈ response.contentLength, length ≤ maxBytes) :
    readBoundedResponseBody response.contentLength maxBytes replies =
      (.returned (.error .invalidUpstreamResult), replies) := by
  rw [readBoundedResponseBody, checkAdvertisedContentLength_eq, if_neg exceeds]

/-- A response within its cap is read to its ending. -/
theorem read_within (allowed : ∀ length ∈ response.contentLength, length ≤ maxBytes)
    (within : response.chunks.flatten.length ≤ maxBytes.toNat) :
    (response.read).1 = .returned (match response.ending with
      | .eof => .ok response.chunks.flatten
      | .failed error => .error (transportError error)) := by
  have reading : (readChunks maxBytes.toNat [] (response.chunks.map .chunk)).1 =
      .reading ([] ++ response.chunks.flatten) :=
    readChunks_within response.addressable (by simpa using within)
  rw [read, read_allowed allowed, replies, readChunks_append reading]
  cases response.ending with
  | eof => rfl
  | failed error => rfl

/-- The reader leaves every reply after a chunk that would exceed the cap. -/
theorem read_exceeds (allowed : ∀ length ∈ response.contentLength, length ≤ maxBytes)
    {before after : List (List UInt8)} {chunk : List UInt8}
    (split : response.chunks = before ++ chunk :: after)
    (exceeds : maxBytes.toNat < before.flatten.length + chunk.length) :
    ∃ unread, after.map .chunk ++ [response.ending.reply] <:+ unread ∧
      response.read = (.returned (.error .invalidUpstreamResult), unread) := by
  have addressable : Addressable maxBytes.toNat [] (before ++ [chunk]) := by
    have whole := response.addressable
    rw [split, List.append_cons] at whole
    exact whole.init
  rw [read, read_allowed allowed, replies, split, List.map_append, List.map_cons,
    List.append_assoc, List.cons_append]
  exact readChunks_exceeds addressable (Nat.zero_le _) (by simpa using exceeds)

/-- A response that does not fit its cap fails. -/
theorem read_unfit (unfit : ¬response.Fits) :
    ∃ error, (response.read).1 = .returned (.error error) := by
  by_cases allowed : ∀ length ∈ response.contentLength, length ≤ maxBytes
  · by_cases within : response.chunks.flatten.length ≤ maxBytes.toNat
    · rw [read_within allowed within]
      cases ending : response.ending with
      | eof => exact absurd ⟨allowed, within, ending⟩ unfit
      | failed error => exact ⟨transportError error, rfl⟩
    · obtain ⟨before, chunk, after, split, _, exceeds⟩ :=
        exceeding_chunk (Nat.zero_le maxBytes.toNat) (by simpa using within)
      obtain ⟨unread, _, same⟩ := read_exceeds allowed split (by simpa using exceeds)
      exact ⟨.invalidUpstreamResult, by rw [same]⟩
  · exact ⟨.invalidUpstreamResult, by rw [read, read_advertised allowed]⟩

/-- The reader returns bytes exactly for a response that fits. -/
theorem read_eq_ok {bytes : List UInt8} :
    (response.read).1 = .returned (.ok bytes) ↔
      response.Fits ∧ bytes = response.chunks.flatten := by
  by_cases fits : response.Fits
  · obtain ⟨allowed, within, ending⟩ := fits
    rw [read_within allowed within, ending]
    constructor
    · intro same
      cases same
      exact ⟨⟨allowed, within, ending⟩, rfl⟩
    · rintro ⟨_, rfl⟩
      rfl
  · obtain ⟨error, same⟩ := read_unfit fits
    rw [same]
    simp [fits]

/-- Pulled chunks are the first chunks of the response. -/
theorem pulled_chunks {count : Nat} {chunks : List (List UInt8)}
    (pulled : response.replies.take count = chunks.map .chunk) : chunks <+: response.chunks := by
  have ordered := (List.take_prefix count response.replies).filterMap ChunkReply.bytes
  have pulledBytes : (chunks.map ChunkReply.chunk).filterMap ChunkReply.bytes = chunks := by
    simp [List.filterMap_map, Function.comp_def, ChunkReply.bytes]
  have allBytes : response.replies.filterMap ChunkReply.bytes = response.chunks := by
    cases ending : response.ending with
    | eof =>
        simp [replies, ending, BodyEnding.reply, List.filterMap_map, Function.comp_def,
          ChunkReply.bytes]
    | failed error =>
        simp [replies, ending, BodyEnding.reply, List.filterMap_map, Function.comp_def,
          ChunkReply.bytes]
  rw [pulled, pulledBytes, allBytes] at ordered
  exact ordered

/-- The accumulated bytes stay within the cap after every number of pulls. -/
theorem read_bounded {count : Nat} {body : List UInt8}
    (reading : (readBoundedResponseBody response.contentLength maxBytes
      (response.replies.take count)).1 = .reading body) :
    body.length ≤ maxBytes.toNat := by
  by_cases allowed : ∀ length ∈ response.contentLength, length ≤ maxBytes
  · rw [read_allowed allowed] at reading
    obtain ⟨chunks, pulled, rfl⟩ := readChunks_reading reading
    obtain ⟨later, split⟩ := pulled_chunks pulled
    have whole := response.addressable
    rw [← split] at whole
    rw [pulled] at reading
    simpa using readChunks_bounded whole.init (Nat.zero_le _) reading
  · rw [read_advertised allowed] at reading
    cases reading

/-- The reader returns exactly the bodies within its cap and pulls nothing beyond the cap. -/
theorem bounded_reader (maxBytes : UInt64) (response : ResponseBody maxBytes) :
    (∀ bytes, (response.read).1 = .returned (.ok bytes) ↔
      response.Fits ∧ bytes = response.chunks.flatten) ∧
    (¬response.Fits →
      ∃ error, (response.read).1 = .returned (.error error)) ∧
    (∀ count body, (readBoundedResponseBody response.contentLength maxBytes
      (response.replies.take count)).1 = .reading body → body.length ≤ maxBytes.toNat) ∧
    (∀ before chunk after, response.chunks = before ++ chunk :: after →
      maxBytes.toNat < before.flatten.length + chunk.length →
      after.map .chunk ++ [response.ending.reply] <:+ (response.read).2) ∧
    ((∃ length ∈ response.contentLength, maxBytes < length) →
      (response.read).2 = response.replies) := by
  refine ⟨fun bytes => read_eq_ok, read_unfit, fun count body => read_bounded, ?_, ?_⟩
  · intro before chunk after split exceeds
    by_cases allowed : ∀ length ∈ response.contentLength, length ≤ maxBytes
    · obtain ⟨unread, suffix, same⟩ := read_exceeds allowed split exceeds
      rw [same]
      exact suffix
    · rw [read, read_advertised allowed, replies, split, List.map_append, List.map_cons,
        List.append_assoc, List.cons_append]
      exact List.suffix_append_of_suffix (List.suffix_cons _ _)
  · rintro ⟨length, advertised, exceeds⟩
    rw [read, read_advertised]
    intro allowed
    exact absurd (allowed length advertised) (UInt64.not_le.mpr exceeds)

end ResponseBody

end Opmux.Executor
