import LineProtocol.Frame.Basic

/-!
# Reading frames off a stream

Octets arrive in chunks that know nothing of messages.  A `Decoder` keeps what
has arrived and not yet become a frame, remembers how much of it was already
searched for the delimiter, and yields frames one at a time, only when asked.

A message above the limit is reported as soon as it is seen to be too long,
also before its delimiter has arrived; the rest of it is then skipped up to
and including that delimiter.
-/

namespace LineProtocol

/-- What a connection's reader remembers between chunks. -/
structure Decoder where
  framing : Framing := {}
  /-- Octets received and not yet part of a frame. -/
  buffer : Bytes := []
  /-- How many octets at the front of the buffer hold no delimiter. -/
  scanned : Nat := 0
  /-- The rest of a message that was too long is being skipped. -/
  discarding : Bool := false
  deriving Repr, DecidableEq

namespace Decoder

/-- Takes a chunk behind what is already there. -/
def feed
    (decoder : Decoder)
    (chunk : Bytes) :
    Decoder :=
  { decoder with buffer := decoder.buffer ++ chunk }

/-- The number of octets that are waiting. -/
def buffered (decoder : Decoder) : Nat :=
  decoder.buffer.length

/-- Where the next delimiter stands, looking only at octets not searched yet. -/
def delimiterAt? (decoder : Decoder) : Option Nat :=
  ((decoder.buffer.drop decoder.scanned).idxOf? decoder.framing.delimiter).map
    (decoder.scanned + ·)

/-- No delimiter has arrived: what is there is kept, unless it already exceeds
the limit. -/
def unterminated (decoder : Decoder) : Option Frame × Decoder :=
  match decoder.framing.limit with
  | none => (none, { decoder with scanned := decoder.buffer.length })
  | some limit =>
      if limit < decoder.buffer.length then
        (some (.error (.tooLong decoder.buffer.length limit)),
          { decoder with buffer := [], scanned := 0, discarding := true })
      else
        (none, { decoder with scanned := decoder.buffer.length })

/-- Takes the next frame off a reader that is not skipping. -/
def scan (decoder : Decoder) : Option Frame × Decoder :=
  match decoder.delimiterAt? with
  | none => decoder.unterminated
  | some stop =>
      (some (decoder.framing.judge (decoder.buffer.take stop)),
        { decoder with buffer := decoder.buffer.drop (stop + 1), scanned := 0 })

/-- Skips the rest of a message that was too long.  The reader is still
skipping afterwards if the delimiter has not arrived. -/
def skip (decoder : Decoder) : Decoder :=
  match decoder.buffer.idxOf? decoder.framing.delimiter with
  | some stop =>
      { decoder with buffer := decoder.buffer.drop (stop + 1), discarding := false }
  | none => { decoder with buffer := [] }

/-- The next frame, if one is complete or already too long. -/
def next (decoder : Decoder) : Option Frame × Decoder :=
  if decoder.discarding then
    let resumed := decoder.skip
    if resumed.discarding then (none, resumed) else resumed.scan
  else
    decoder.scan

/-- Takes at most `count` frames behind those already taken, which are kept
last first. -/
def takeOnto
    (done : List Frame) :
    Nat → Decoder → List Frame × Decoder
  | 0, decoder => (done.reverse, decoder)
  | count + 1, decoder =>
      match decoder.next with
      | (some frame, rest) => takeOnto (frame :: done) count rest
      | (none, rest) => (done.reverse, rest)

/-- Takes frames until `count` are taken or none is left. -/
def take
    (decoder : Decoder)
    (count : Nat) :
    List Frame × Decoder :=
  takeOnto [] count decoder

/-- Takes every frame that is there.  Each frame uses up an octet, so the
number of octets bounds the number of frames. -/
def drain (decoder : Decoder) : List Frame × Decoder :=
  decoder.take (decoder.buffered + 1)

/-- Takes chunks one behind the other, each time taking every frame that is
there. -/
def feedAll (decoder : Decoder) : List Bytes → List Frame × Decoder
  | [] => ([], decoder)
  | chunk :: rest =>
      let (frames, decoder) := (decoder.feed chunk).drain
      let (later, decoder) := decoder.feedAll rest
      (frames ++ later, decoder)

theorem takeOnto_eq
    (done : List Frame)
    (count : Nat)
    (decoder : Decoder) :
    takeOnto done count decoder =
      (done.reverse ++ (decoder.take count).1, (decoder.take count).2) := by
  induction count generalizing done decoder with
  | zero => simp [take, takeOnto]
  | succ count ih =>
      rw [takeOnto, take, takeOnto]
      split
      · rename_i frame rest _
        rw [ih (frame :: done) rest, ih [frame] rest]
        simp
      · simp

@[simp]
theorem take_zero (decoder : Decoder) : decoder.take 0 = ([], decoder) :=
  rfl

/-- Taking one frame more is asking once and going on from there. -/
theorem take_succ
    (decoder : Decoder)
    (count : Nat) :
    decoder.take (count + 1) =
      match decoder.next with
      | (some frame, rest) => (frame :: (rest.take count).1, (rest.take count).2)
      | (none, rest) => ([], rest) := by
  rw [take, takeOnto]
  split
  · rename_i frame rest _
    rw [takeOnto_eq]
    simp
  · simp

end Decoder

/-- A fresh reader for a connection with these rules. -/
def Framing.decoder (framing : Framing) : Decoder :=
  { framing }

end LineProtocol
