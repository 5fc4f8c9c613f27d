import LineProtocol.Frame.Basic

/-!
# Writing frames

A message is written as its octets and then the delimiter.  A delimiter inside
the message is written like any other octet, and the other end will see two
frames.

An `Encoder` is reused for every message of a connection: it stages a frame
and hands the whole stage over, so nothing of one frame is left for the next.
-/

namespace LineProtocol

/-- A writer with its staging area. -/
structure Encoder where
  delimiter : UInt8 := 10
  staged : Bytes := []
  deriving Repr, DecidableEq

namespace Encoder

/-- Stages a message and its delimiter and hands over all that is staged. -/
def encode
    (encoder : Encoder)
    (message : String) :
    Bytes × Encoder :=
  (encoder.staged ++ Utf8.encode message ++ [encoder.delimiter],
    { encoder with staged := [] })

/-- Encodes messages one behind the other with the same writer. -/
def encodeAll (encoder : Encoder) : List String → List Bytes × Encoder
  | [] => ([], encoder)
  | message :: rest =>
      let (frame, encoder) := encoder.encode message
      let (frames, encoder) := encoder.encodeAll rest
      (frame :: frames, encoder)

/-- A writer with an empty stage writes each message by itself. -/
theorem encodeAll_frames
    (delimiter : UInt8)
    (messages : List String) :
    encodeAll { delimiter } messages =
      (messages.map fun message => Utf8.encode message ++ [delimiter],
        { delimiter }) := by
  induction messages with
  | nil => rfl
  | cons message rest ih =>
      rw [encodeAll]
      have stage :
          encode { delimiter } message =
            (Utf8.encode message ++ [delimiter], { delimiter }) :=
        rfl
      simp [stage, ih]

end Encoder

namespace Framing

/-- A fresh writer for a connection with these rules. -/
def encoder (framing : Framing) : Encoder :=
  { delimiter := framing.delimiter }

/-- The octets of one message. -/
def frame
    (framing : Framing)
    (message : String) :
    Bytes :=
  Utf8.encode message ++ [framing.delimiter]

@[simp]
theorem encode_encoder
    (framing : Framing)
    (message : String) :
    framing.encoder.encode message = (framing.frame message, framing.encoder) :=
  rfl

end Framing

end LineProtocol
