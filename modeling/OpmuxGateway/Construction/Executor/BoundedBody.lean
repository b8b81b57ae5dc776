import OpmuxGateway.Construction.Executor.Models

/-
This file gives the bounded reading of an upstream response body.
-/

namespace Opmux.Executor

/-- This value is `usize::MAX` of a 64-bit machine. -/
def usizeMax : Nat := 2 ^ 64 - 1

/-- This value is `isize::MAX`, which bounds the length of every buffer. -/
def isizeMax : Nat := 2 ^ 63 - 1

/-- The client meets its own timeout or another transport failure. -/
inductive TransportError where
  | timeout
  | other
  deriving DecidableEq, Repr

/-- One await of a response gives a chunk, the end of the body, or a transport error. -/
inductive ChunkReply where
  | chunk (bytes : List UInt8)
  | eof
  | failed (error : TransportError)
  deriving DecidableEq, Repr

/-- A body ends with its end of file or with a transport error. -/
inductive BodyEnding where
  | eof
  | failed (error : TransportError)
  deriving DecidableEq, Repr

def BodyEnding.reply : BodyEnding → ChunkReply
  | .eof => .eof
  | .failed error => .failed error

/-- Each chunk of a response is a buffer, and so is each prefix that its cap allows. -/
structure ResponseBody (maxBytes : UInt64) where
  contentLength : Option UInt64
  chunks : List (List UInt8)
  ending : BodyEnding
  chunked : ∀ chunk ∈ chunks, chunk.length ≤ isizeMax
  buffered : ∀ before, before <+: chunks → before.flatten.length ≤ maxBytes.toNat →
    before.flatten.length ≤ isizeMax

/-- The replies of a response in the order of their awaits. -/
def ResponseBody.replies {maxBytes : UInt64} (response : ResponseBody maxBytes) :
    List ChunkReply :=
  response.chunks.map .chunk ++ [response.ending.reply]

def transportError : TransportError → ExecutorError
  | .timeout => .timeoutError 0
  | .other => .networkError "upstream transport error"

def checkAdvertisedContentLength (contentLength : Option UInt64) (maxBytes : UInt64) :
    Except ExecutorError Unit :=
  if contentLength.any (maxBytes < ·) then .error .invalidUpstreamResult else .ok ()

/-- A chunk that would exceed the cap is not copied, and the new length saturates. -/
def appendBounded (buf chunk : List UInt8) (maxBytes : Nat) : Except ExecutorError (List UInt8) :=
  let newLen := min (buf.length + chunk.length) usizeMax
  if maxBytes < newLen then .error .invalidUpstreamResult else .ok (buf ++ chunk)

/-- A reader awaits its next reply with the accumulated bytes, or it has returned. -/
inductive Reader where
  | reading (body : List UInt8)
  | returned (result : Except ExecutorError (List UInt8))

/-- One pass of the read loop handles one reply. -/
def Reader.pull (maxBytes : Nat) (body : List UInt8) : ChunkReply → Reader
  | .chunk chunk =>
      match appendBounded body chunk maxBytes with
      | .ok body => .reading body
      | .error error => .returned (.error error)
  | .eof => .returned (.ok body)
  | .failed error => .returned (.error (transportError error))

/-- The loop pulls replies until it returns, and it leaves the replies that it has not pulled. -/
def readChunks (maxBytes : Nat) (body : List UInt8) :
    List ChunkReply → Reader × List ChunkReply
  | [] => (.reading body, [])
  | reply :: rest =>
      match Reader.pull maxBytes body reply with
      | .reading body => readChunks maxBytes body rest
      | .returned result => (.returned result, rest)

/-- The advertised length is checked before the first pull. -/
def readBoundedResponseBody (contentLength : Option UInt64) (maxBytes : UInt64)
    (replies : List ChunkReply) : Reader × List ChunkReply :=
  match checkAdvertisedContentLength contentLength maxBytes with
  | .error error => (.returned (.error error), replies)
  | .ok () => readChunks (min maxBytes.toNat usizeMax) [] replies

end Opmux.Executor
