import GameGateway.Wire.Handshake

/-!
# Reading a handshake from a stream

A client may send further data right behind its handshake, and that data belongs to the
backend. So a **frame reader** takes a handshake off a stream a byte at a time and never takes
a byte behind the frame. `FrameReader.take` is one byte's step, `FrameReader.feed` goes over a
piece of the stream, `FrameReader.finish` says what the end of the stream means, and
`Handshake.read` runs both over a stream. `feed_append` says that how the stream is cut into
pieces does not matter.
-/

namespace GameGateway.Wire

/-- How far a frame has been read: within its length, or within its payload. -/
inductive FrameReader where
  | length (progress : Varint.Progress)
  /-- The payload bytes taken so far, last one first, and the number of those still missing. -/
  | payload (missing : Nat) (taken : List Byte)
  deriving DecidableEq, Repr

namespace FrameReader

/-- A reader that has taken nothing. -/
def start : FrameReader := .length {}

/-- What a further byte makes of a frame in progress. -/
inductive Step where
  | more (reader : FrameReader)
  | done (result : Except Refusal Handshake)

/-- Takes one byte of the stream. -/
def take (b : Byte) : FrameReader → Step
  | .length progress =>
    match progress.take b with
    | .more progress => .more (.length progress)
    | .refused cause => .done (.error cause)
    | .done value =>
      match Handshake.checkLength value with
      | .ok n => .more (.payload n [])
      | .error cause => .done (.error cause)
  | .payload missing taken =>
    -- The last byte of the payload is the last that is taken.
    if missing ≤ 1 then .done (Handshake.decodePayload (b :: taken).reverse)
    else .more (.payload (missing - 1) (b :: taken))

/-- What a piece of the stream makes of a frame in progress; a handshake that it completes leaves
the bytes behind it. -/
inductive Fed where
  | more (reader : FrameReader)
  | done (result : Except Refusal Handshake) (rest : List Byte)

/-- Takes a piece of the stream. -/
def feed (reader : FrameReader) : List Byte → Fed
  | [] => .more reader
  | b :: rest =>
    match reader.take b with
    | .more reader => reader.feed rest
    | .done result => .done result rest

/-- **Bytes may come in pieces**: a reader goes on with a further piece from where it is. -/
theorem feed_append (reader : FrameReader) (xs ys : List Byte) :
    reader.feed (xs ++ ys) =
      match reader.feed xs with
      | .more reader => reader.feed ys
      | .done result rest => .done result (rest ++ ys) := by
  induction xs generalizing reader with
  | nil => rfl
  | cons x xs ih =>
    simp only [List.cons_append, feed]
    cases reader.take x with
    | more reader => exact ih reader
    | done result => rfl

/-- What it means that the stream ends here. -/
def finish : FrameReader → Refusal
  | .length _ => .endOfStream
  | .payload _ _ => .truncated .frame

/-- Reads on from a stream that ends behind these bytes, and leaves the bytes behind the
frame in it. -/
def run (reader : FrameReader) (bytes : List Byte) : Except Refusal Handshake × List Byte :=
  match reader.feed bytes with
  | .more reader => (.error reader.finish, [])
  | .done result rest => (result, rest)

end FrameReader

/-- Reads a handshake from the start of a stream, and leaves the bytes behind it in the
stream. -/
def Handshake.read (stream : List Byte) : Except Refusal Handshake × List Byte :=
  FrameReader.start.run stream

end GameGateway.Wire
