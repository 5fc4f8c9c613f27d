import LineProtocol.Transport.Basic

/-!
# A channel in several hands

A channel is used by any number of threads at once, while its transport reports on it.
A write looks at the status and then hands its octets over.  Asking for a close looks at
the status, makes two exchanges and then passes the request on.  Each of these is one
step, and the steps of different calls come in any order, with reports in between.

Calls are named by the order in which they began.  One that was begun does nothing until
its first step.
-/

namespace LineProtocol

namespace Channel

/-- The first half of asking for a close. -/
def leaveOpen (channel : Channel) : Channel :=
  { channel with status := channel.status.leaveOpen }

/-- The second half of asking for a close. -/
def leavePending (channel : Channel) : Channel :=
  { channel with status := channel.status.leavePending }

theorem leavePending_leaveOpen (channel : Channel) :
    channel.leaveOpen.leavePending = channel.beginClose :=
  rfl

end Channel

/-- Takes octets that an open channel was asked to write. -/
def Transport.pass
    (transport : Transport)
    (id : ChannelId)
    (bytes : Bytes) :
    Except Fault Unit × Transport :=
  (if transport.refusesWrites then .error (.notWritable id) else .ok (),
    transport.record (.write id bytes))

theorem Transport.write_eq_pass
    {transport : Transport}
    {id : ChannelId}
    (writable : transport.isWritable id = true)
    (bytes : Bytes) :
    transport.write id bytes = transport.pass id bytes :=
  if_pos writable

/-- How far a call is that asks whether the channel is writable. -/
inductive LookPhase where
  | reading
  | returned (writable : Bool)

/-- How far a write is. -/
inductive WritePhase where
  | reading
  /-- The channel was open, and the octets are handed over next. -/
  | passing
  | returned (outcome : Except Fault Unit)

/-- How far asking for a close is. -/
inductive ClosePhase where
  | reading
  | leavingOpen
  | leavingPending
  /-- The request is passed on next. -/
  | handing
  | returned (ticket : Ticket)

/-- A call on a handle, and how far it is. -/
inductive HandleCall where
  | isWritable (phase : LookPhase)
  | write (bytes : Bytes) (phase : WritePhase)
  | close (phase : ClosePhase)

/-- What a handle is asked for. -/
inductive Asking where
  | isWritable
  | write (bytes : Bytes)
  | close
  deriving Repr, DecidableEq

/-- A call that does its first step next. -/
def Asking.call : Asking → HandleCall
  | .isWritable => .isWritable .reading
  | .write bytes => .write bytes .reading
  | .close => .close .reading

/-- A channel with all calls that were ever begun on it. -/
structure SharedChannel where
  id : ChannelId
  transport : Transport
  calls : List HandleCall := []

namespace SharedChannel

/-- What callers and the transport do. -/
inductive Event where
  | begin (asking : Asking)
  /-- A call does its next step. -/
  | proceed (index : Nat)
  | markOpen
  | markClosed
  /-- The transport behaves differently from now on. -/
  | configure (closeMode : Option CloseMode) (refusesWrites : Option Bool)
  /-- The transport answers the requests to close that it holds. -/
  | answer (receipt : Receipt)
  deriving Repr, DecidableEq

/-- A new channel, which nobody has used. -/
def start
    (id : ChannelId)
    (peer : Option SocketAddress)
    (closeMode : CloseMode)
    (refusesWrites : Bool) :
    SharedChannel :=
  { id, transport := ({ closeMode, refusesWrites } : Transport).adopt { id, peer } }

/-- Where the channel is in its life. -/
def status (shared : SharedChannel) : Status :=
  ((shared.transport.channel? shared.id).map (·.status)).getD .pending

/-- The next step of a call that has not returned: how far the call is then, and what
becomes of the transport. -/
def advance? (shared : SharedChannel) : HandleCall → Option (HandleCall × Transport)
  | .isWritable .reading =>
      some (.isWritable (.returned (shared.transport.isWritable shared.id)), shared.transport)
  | .write bytes .reading =>
      if shared.transport.isWritable shared.id then
        some (.write bytes .passing, shared.transport)
      else
        some (.write bytes (.returned (.error (.notWritable shared.id))), shared.transport)
  | .write bytes .passing =>
      let (outcome, transport) := shared.transport.pass shared.id bytes
      some (.write bytes (.returned outcome), transport)
  | .close .reading =>
      if shared.transport.isClosed shared.id then
        let (ticket, transport) := shared.transport.issue .confirmed
        some (.close (.returned ticket), transport)
      else some (.close .leavingOpen, shared.transport)
  | .close .leavingOpen =>
      some (.close .leavingPending, shared.transport.alter shared.id (·.leaveOpen))
  | .close .leavingPending =>
      some (.close .handing, shared.transport.alter shared.id (·.leavePending))
  | .close .handing =>
      let (ticket, transport) := shared.transport.requestClose shared.id
      some (.close (.returned ticket), transport)
  | .isWritable (.returned _) => none
  | .write _ (.returned _) => none
  | .close (.returned _) => none

/-- Lets an event happen, if it can. -/
def step? (shared : SharedChannel) : Event → Option SharedChannel
  | .begin asking => some { shared with calls := shared.calls ++ [asking.call] }
  | .proceed index => do
    let call ← shared.calls[index]?
    let (call, transport) ← shared.advance? call
    some { shared with transport, calls := shared.calls.set index call }
  | .markOpen =>
      some { shared with transport := shared.transport.alter shared.id (·.markOpen) }
  | .markClosed =>
      some { shared with transport := shared.transport.alter shared.id (·.markClosed) }
  | .configure closeMode refusesWrites =>
      some { shared with transport := shared.transport.configured closeMode refusesWrites }
  | .answer receipt =>
      if receipt = .waiting then none
      else some { shared with transport := shared.transport.settleAll receipt }

/-- Lets events happen one after the other. -/
def run? (shared : SharedChannel) (events : List Event) : Option SharedChannel :=
  events.foldlM step? shared

end SharedChannel

end LineProtocol
