import LineProtocol.Frame.Basic

/-!
# The frames of a whole stream

Here a stream is known from its first octet to its last, so no state is needed
to say which frames it holds.  Every piece that a delimiter closes gives one
frame.  What stands behind the last delimiter gives none, unless it already
exceeds the limit.

A reader that gets the same octets in chunks is measured against this list.
-/

namespace LineProtocol

/-- Puts an octet in front of what was cut: into the first piece, or into the
tail if there is none. -/
def stretch
    (octet : UInt8) :
    List Bytes × Bytes → List Bytes × Bytes
  | ([], tail) => ([], octet :: tail)
  | (piece :: pieces, tail) => ((octet :: piece) :: pieces, tail)

/-- The pieces that a delimiter closes, and the octets behind the last one. -/
def cut
    (delimiter : UInt8) :
    Bytes → List Bytes × Bytes
  | [] => ([], [])
  | octet :: rest =>
      if octet = delimiter then ([] :: (cut delimiter rest).1, (cut delimiter rest).2)
      else stretch octet (cut delimiter rest)

namespace Framing

/-- The closed pieces of a stream. -/
def pieces
    (framing : Framing)
    (stream : Bytes) :
    List Bytes :=
  (cut framing.delimiter stream).1

/-- The octets of a stream behind its last delimiter. -/
def tail
    (framing : Framing)
    (stream : Bytes) :
    Bytes :=
  (cut framing.delimiter stream).2

/-- The report on an unclosed piece, which there is only above the limit. -/
def overlong
    (framing : Framing)
    (piece : Bytes) :
    List Frame :=
  match framing.limit with
  | none => []
  | some limit =>
      if limit < piece.length then [.error (.tooLong piece.length limit)] else []

/-- The frames of a stream, in order. -/
def frames
    (framing : Framing)
    (stream : Bytes) :
    List Frame :=
  (framing.pieces stream).map framing.judge ++ framing.overlong (framing.tail stream)

end Framing

/-- The octets that were cut. -/
def joined
    (delimiter : UInt8)
    (parts : List Bytes × Bytes) :
    Bytes :=
  parts.1.flatMap (· ++ [delimiter]) ++ parts.2

/-- Cuts a stream into chunks of one size; the last may be shorter. -/
def chunksOf
    (size : Nat)
    (stream : Bytes) :
    List Bytes :=
  go stream.length stream
where
  /-- As many chunks as `count` allows. -/
  go : Nat → Bytes → List Bytes
    | 0, _ => []
    | _, [] => []
    | count + 1, rest => rest.take size :: go count (rest.drop size)

end LineProtocol
