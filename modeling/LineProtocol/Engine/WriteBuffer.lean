import LineProtocol.Frame.Basic

/-!
# Octets that wait to be sent

A socket takes as much of what it is offered as it has room for.  The rest
waits in a `WriteBuffer` until the socket has room again.

The buffer never holds more than its limit.  Octets that do not fit are
refused as a whole, after one more try to make room, so that nothing is ever
sent in part and forgotten.
-/

namespace LineProtocol

/-- What a socket does when it is offered octets. -/
inductive SocketAnswer where
  /-- It takes some from the front. -/
  | took (count : Nat)
  /-- It has no room. -/
  | full
  /-- It wants to be asked again. -/
  | interrupted
  | failed (reason : String)
  deriving Repr, DecidableEq

/-- Octets on their way to a socket. -/
structure WriteBuffer where
  limit : Nat
  pending : Bytes := []
  /-- All that the socket took. -/
  sent : Bytes := []
  deriving Repr, DecidableEq

namespace WriteBuffer

/-- Whether octets can wait behind those that wait already. -/
def fits
    (buffer : WriteBuffer)
    (bytes : Bytes) :
    Bool :=
  buffer.pending.length + bytes.length ≤ buffer.limit

/-- The socket takes octets from the front. -/
def advance
    (buffer : WriteBuffer)
    (count : Nat) :
    WriteBuffer :=
  { buffer with
    pending := buffer.pending.drop count
    sent := buffer.sent ++ buffer.pending.take count }

/-- Puts octets behind those that wait. -/
def append
    (buffer : WriteBuffer)
    (bytes : Bytes) :
    WriteBuffer :=
  { buffer with pending := buffer.pending ++ bytes }

/-- Offers the socket what waits until it has taken everything or has no room.
A socket without further answers has no room.  The answers that were not needed
are kept. -/
def flush
    (buffer : WriteBuffer) :
    List SocketAnswer → Except String (List SocketAnswer) × WriteBuffer
  | [] => (.ok [], buffer)
  | answer :: answers =>
      if buffer.pending = [] then (.ok (answer :: answers), buffer)
      else
        match answer with
        | .took 0 => (.error "Failed to write to socket", buffer)
        | .took count => (buffer.advance count).flush answers
        | .full => (.ok answers, buffer)
        | .interrupted => buffer.flush answers
        | .failed reason => (.error reason, buffer)

/-- Takes octets in and offers them to the socket. -/
def push
    (buffer : WriteBuffer)
    (bytes : Bytes)
    (answers : List SocketAnswer) :
    Except String Bool × WriteBuffer :=
  let (outcome, buffer) := (buffer.append bytes).flush answers
  (outcome.map fun _ => true, buffer)

/-- Takes octets in if they fit.  If they do not, the socket is first offered
what waits.  The answer says whether they were taken in. -/
def queue
    (buffer : WriteBuffer)
    (bytes : Bytes)
    (answers : List SocketAnswer) :
    Except String Bool × WriteBuffer :=
  if buffer.fits bytes then buffer.push bytes answers
  else
    match buffer.flush answers with
    | (.error reason, buffer) => (.error reason, buffer)
    | (.ok answers, buffer) =>
        if buffer.fits bytes then buffer.push bytes answers else (.ok false, buffer)

/-- The answers of a socket that has room for everything. -/
def roomFor
    (buffer : WriteBuffer)
    (bytes : Bytes) :
    List SocketAnswer :=
  [.took (buffer.pending.length + bytes.length)]

@[simp]
theorem sent_append_pending_advance
    (buffer : WriteBuffer)
    (count : Nat) :
    (buffer.advance count).sent ++ (buffer.advance count).pending =
      buffer.sent ++ buffer.pending := by
  simp [advance]

end WriteBuffer

end LineProtocol
