import LineProtocol.Frame.Decoder
import LineProtocol.Frame.Stream

/-!
# The reader, written down twice more

A `Rescanner` is a reader without a mark.  Whenever it is asked for a frame it
cuts all that is buffered, from the first octet on.

`Decoder.next?` is the reader with its mark, but every place at which it cuts
the buffer is checked: it has no answer if a place is behind the end.
`Decoder.next` would go on with fewer octets there.
-/

namespace LineProtocol

/-! ## Without a mark -/

/-- A reader that remembers nothing of what it searched. -/
structure Rescanner where
  framing : Framing := {}
  buffer : Bytes := []
  discarding : Bool := false
  deriving Repr, DecidableEq

namespace Rescanner

/-- Takes a chunk behind what is already there. -/
def feed
    (reader : Rescanner)
    (chunk : Bytes) :
    Rescanner :=
  { reader with buffer := reader.buffer ++ chunk }

/-- The number of octets that are waiting. -/
def buffered (reader : Rescanner) : Nat :=
  reader.buffer.length

/-- Takes the first frame of the whole buffer. -/
def search (reader : Rescanner) : Option Frame × Rescanner :=
  match reader.framing.pieces reader.buffer with
  | piece :: _ =>
      (some (reader.framing.judge piece),
        { reader with buffer := reader.buffer.drop (piece.length + 1) })
  | [] =>
      match reader.framing.overlong reader.buffer with
      | report :: _ => (some report, { reader with buffer := [], discarding := true })
      | [] => (none, reader)

/-- Skips up to and including the first delimiter of the whole buffer.  The
reader is still skipping afterwards if there is none. -/
def skip (reader : Rescanner) : Rescanner :=
  match reader.framing.pieces reader.buffer with
  | lost :: _ =>
      { reader with
        buffer := reader.buffer.drop (lost.length + 1)
        discarding := false }
  | [] => { reader with buffer := [] }

/-- The next frame, if one is complete or already too long. -/
def next (reader : Rescanner) : Option Frame × Rescanner :=
  if reader.discarding then
    if reader.skip.discarding then (none, reader.skip) else reader.skip.search
  else
    reader.search

/-- Takes frames until so many are taken or none is left. -/
def take (reader : Rescanner) : Nat → List Frame × Rescanner
  | 0 => ([], reader)
  | count + 1 =>
      match reader.next with
      | (some frame, rest) => (frame :: (rest.take count).1, (rest.take count).2)
      | (none, rest) => ([], rest)

/-- Takes every frame that is there. -/
def drain (reader : Rescanner) : List Frame × Rescanner :=
  reader.take (reader.buffered + 1)

end Rescanner

/-- A fresh reader without a mark. -/
def Framing.rescanner (framing : Framing) : Rescanner :=
  { framing }

/-! ## With checked places -/

/-- Octets in front of a place and from there on.  No place is behind the end. -/
def partAt?
    (octets : Bytes)
    (place : Nat) :
    Option (Bytes × Bytes) :=
  if place ≤ octets.length then some (octets.take place, octets.drop place) else none

namespace Decoder

/-- `scan` with its places checked: the mark, the end of the piece and the
delimiter behind it. -/
def scan? (decoder : Decoder) : Option (Option Frame × Decoder) := do
  let (_, unsearched) ← partAt? decoder.buffer decoder.scanned
  match unsearched.idxOf? decoder.framing.delimiter with
  | none => some decoder.unterminated
  | some offset =>
      let (piece, closed) ← partAt? decoder.buffer (decoder.scanned + offset)
      let (_, rest) ← partAt? closed 1
      some (some (decoder.framing.judge piece), { decoder with buffer := rest, scanned := 0 })

/-- `skip` with its place checked. -/
def skip? (decoder : Decoder) : Option Decoder :=
  match decoder.buffer.idxOf? decoder.framing.delimiter with
  | none => some { decoder with buffer := [] }
  | some stop =>
      (partAt? decoder.buffer (stop + 1)).map fun (_, rest) =>
        { decoder with buffer := rest, discarding := false }

/-- `next` with its places checked. -/
def next? (decoder : Decoder) : Option (Option Frame × Decoder) :=
  if decoder.discarding then do
    let resumed ← decoder.skip?
    if resumed.discarding then some (none, resumed) else resumed.scan?
  else
    decoder.scan?

end Decoder

end LineProtocol
