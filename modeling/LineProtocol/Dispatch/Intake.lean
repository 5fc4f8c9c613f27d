import LineProtocol.Frame.Decoder
import LineProtocol.Notice

/-!
# Taking a connection's octets in

Each connection has an intake: the reader that finds its frames, and whether
the connection is to be closed.  A chunk gives the messages that are complete,
in order.  A frame that is no text is noted in the log and left out.  A frame
that is too long ends the intake: it is noted, the connection is to be closed,
and neither the rest of the chunk nor any later chunk is looked at.
-/

namespace LineProtocol

/-- The reading side of a connection. -/
structure Intake where
  decoder : Decoder := {}
  /-- A frame was too long, and nothing is read any more. -/
  closing : Bool := false
  deriving Repr, DecidableEq

/-- What came of a chunk. -/
structure Delivery where
  messages : List String := []
  /-- Frames that are no message, in order. -/
  faults : List FrameFault := []
  deriving Repr, DecidableEq

namespace Intake

/-- An intake for a new connection. -/
def ofFraming (framing : Framing) : Intake :=
  { decoder := framing.decoder }

/-- Takes at most `count` frames behind those already sorted, which are kept
last first, and stops behind one that is too long. -/
def sortOnto
    (done : Delivery) :
    Nat → Decoder → Delivery × Intake
  | 0, decoder => (done, { decoder })
  | count + 1, decoder =>
      match decoder.next with
      | (none, decoder) => (done, { decoder })
      | (some (.ok message), decoder) =>
          sortOnto { done with messages := message :: done.messages } count decoder
      | (some (.error (.undecodable length valid)), decoder) =>
          sortOnto
            { done with faults := .undecodable length valid :: done.faults }
            count decoder
      | (some (.error (.tooLong length limit)), decoder) =>
          ({ done with faults := .tooLong length limit :: done.faults },
            { decoder, closing := true })

/-- Takes a chunk in. -/
def read
    (intake : Intake)
    (chunk : Bytes) :
    Delivery × Intake :=
  if intake.closing then ({}, intake)
  else
    let fed := intake.decoder.feed chunk
    let (sorted, intake) := sortOnto {} (fed.buffered + 1) fed
    ({ messages := sorted.messages.reverse, faults := sorted.faults.reverse }, intake)

/-- What the log says about a frame that is no message. -/
def noticeOf
    (channel : ChannelId) :
    FrameFault → Notice
  | .undecodable length valid => .frameDropped channel (.undecodable length valid)
  | .tooLong length limit => .frameTooLong channel (.tooLong length limit)

@[simp]
theorem read_of_closing
    (decoder : Decoder)
    (chunk : Bytes) :
    read { decoder, closing := true } chunk = ({}, { decoder, closing := true }) :=
  rfl

end Intake

end LineProtocol
