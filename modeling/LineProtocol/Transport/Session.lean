import LineProtocol.Transport.Basic

/-!
# Using one channel

A session is one channel and everything that its holder and its transport do
to it, one request after the other.  Receipts are named by the order in which
they were given out, and waiting for one uses it up.
-/

namespace LineProtocol

/-- One channel, its transport and the receipts that were not waited for. -/
structure ChannelSession where
  id : ChannelId
  transport : Transport
  receipts : List (Option Ticket) := []
  deriving Repr, DecidableEq

namespace ChannelSession

/-- What holder or transport do. -/
inductive Request where
  | markOpen
  | markClosed
  | resume
  | write (bytes : Bytes)
  | close
  | wait (receipt : Nat)
  /-- Settle what is held, with success or for a reason. -/
  | notify (reason : Option String)
  /-- Forget what is held. -/
  | release
  | configure (closeMode : Option CloseMode) (refusesWrites : Option Bool)
  deriving Repr, DecidableEq

/-- What is answered. -/
inductive Reply where
  | gone
  | outcome (outcome : Except Fault Unit)
  | receipt (index : Nat)
  | held (count : Nat)

/-- A session with a new channel. -/
def start
    (id : ChannelId)
    (peer : Option SocketAddress)
    (transport : Transport) :
    ChannelSession :=
  { id, transport := transport.adopt { id, peer } }

/-- Answers one request. -/
def perform (session : ChannelSession) : Request → Reply × ChannelSession
  | .markOpen =>
      (.outcome (.ok ()),
        { session with transport := session.transport.alter session.id (·.markOpen) })
  | .markClosed =>
      (.outcome (.ok ()),
        { session with transport := session.transport.alter session.id (·.markClosed) })
  | .resume =>
      (.outcome (.ok ()),
        { session with transport := session.transport.resume session.id })
  | .write bytes =>
      let (outcome, transport) := session.transport.write session.id bytes
      (.outcome outcome, { session with transport })
  | .close =>
      let (ticket, transport) := session.transport.close session.id
      (.receipt session.receipts.length,
        { session with transport, receipts := session.receipts ++ [some ticket] })
  | .wait index =>
      match session.receipts[index]?.join with
      | none => (.gone, session)
      | some ticket =>
          (.outcome (session.transport.outcome ticket),
            { session with receipts := session.receipts.set index none })
  | .notify reason =>
      let receipt :=
        match reason with
        | some reason => Receipt.refused reason
        | none => .confirmed
      (.held session.transport.held.length,
        { session with transport := session.transport.settleAll receipt })
  | .release =>
      (.held session.transport.held.length,
        { session with transport := session.transport.settleAll .abandoned })
  | .configure closeMode refusesWrites =>
      (.outcome (.ok ()),
        { session with
          transport := session.transport.configured closeMode refusesWrites })

end ChannelSession

end LineProtocol
