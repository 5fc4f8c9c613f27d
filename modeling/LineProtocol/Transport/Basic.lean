import LineProtocol.Fault
import LineProtocol.Frame.Basic
import LineProtocol.Table
import LineProtocol.Transport.Channel

/-!
# A transport as its users see it

Clients and servers never touch the network.  They make requests of a
transport, which opens connections and listeners, takes octets, and answers a
request to close with a receipt that is settled later.

A `Transport` here keeps what those requests change: the channels, the
receipts, and the requests themselves in order.  How the other side behaves is
part of the value: whether it takes octets, whether the next listener can be
bound, what becomes of a request to close.  Everything else that a network
does reaches the users as callbacks.
-/

namespace LineProtocol

/-- What becomes of a request to close. -/
inductive CloseMode where
  /-- It is confirmed at once. -/
  | confirm
  /-- It is answered later, if at all. -/
  | hold
  /-- It is forgotten, which counts as confirmed. -/
  | drop
  /-- It is refused at once. -/
  | refuse
  deriving Repr, DecidableEq

/-- A request to close, by the order in which they were made. -/
structure Ticket where
  number : Nat
  deriving Repr, DecidableEq

/-- What is known about a request to close. -/
inductive Receipt where
  | waiting
  | confirmed
  /-- Nobody is left who could answer. -/
  | abandoned
  | refused (reason : String)
  deriving Repr, DecidableEq

/-- What a request to close is answered with. -/
def Receipt.ofOutcome : Except String Unit → Receipt
  | .ok () => .confirmed
  | .error reason => .refused reason

/-- What one learns who waits for a while.  A request that nobody can answer
any more counts as done. -/
def Receipt.outcome : Receipt → Except Fault Unit
  | .waiting => .error (.close "close did not complete in time")
  | .confirmed => .ok ()
  | .abandoned => .ok ()
  | .refused reason => .error (.close reason)

/-- A request made of a transport. -/
inductive Call where
  | connect (address : SocketAddress) (channel : ChannelId)
  | bind (address : SocketAddress)
  | write (channel : ChannelId) (bytes : Bytes)
  | close (channel : ChannelId)
  | resume (channel : ChannelId)
  /-- The transport asked its user, from inside the user's own context, to shut
  down, and was told this. -/
  | shutdownRefused (cause : Fault)
  deriving Repr, DecidableEq

/-- What requests change, and how the other side behaves. -/
structure Transport where
  channels : Table ChannelId Channel := {}
  receipts : List Receipt := []
  /-- Requests to close that are still to be answered. -/
  held : List (ChannelId × Ticket) := []
  calls : List Call := []
  /-- Every listener that was bound. -/
  listeners : List Listener := []
  nextId : Nat := 1
  closeMode : CloseMode := .confirm
  refusesWrites : Bool := false
  /-- Why the next connect or bind fails, if it does. -/
  failure : Option String := none
  /-- The transport asks its user to shut down when next asked to connect or to
  bind. -/
  reenters : Bool := false
  /-- The transport was stopped by its owner. -/
  stopped : Bool := false
  deriving Repr, DecidableEq

namespace Transport

/-- Writes a request down. -/
def record
    (transport : Transport)
    (call : Call) :
    Transport :=
  { transport with calls := transport.calls ++ [call] }

/-- The channel with a number. -/
def channel?
    (transport : Transport)
    (id : ChannelId) :
    Option Channel :=
  transport.channels.find? id

/-- Changes the channel with a number, if there is one. -/
def alter
    (transport : Transport)
    (id : ChannelId)
    (change : Channel → Channel) :
    Transport :=
  { transport with channels := transport.channels.modify id change }

/-- Adds a channel. -/
def adopt
    (transport : Transport)
    (channel : Channel) :
    Transport :=
  { transport with channels := transport.channels.insert channel.id channel }

/-- Whether a channel takes messages. -/
def isWritable
    (transport : Transport)
    (id : ChannelId) :
    Bool :=
  ((transport.channel? id).map (·.isWritable)).getD false

/-- Whether a channel was reported as closed. -/
def isClosed
    (transport : Transport)
    (id : ChannelId) :
    Bool :=
  ((transport.channel? id).map (·.isClosed)).getD false

/-! ## Requests -/

/-- Hands octets over.  Only an open channel takes them, and the transport may
still refuse. -/
def write
    (transport : Transport)
    (id : ChannelId)
    (bytes : Bytes) :
    Except Fault Unit × Transport :=
  if transport.isWritable id then
    (if transport.refusesWrites then .error (.notWritable id) else .ok (),
      transport.record (.write id bytes))
  else (.error (.notWritable id), transport)

/-- Asks that a connection that was accepted is read from now on. -/
def resume
    (transport : Transport)
    (id : ChannelId) :
    Transport :=
  transport.record (.resume id)

/-- Adds a receipt. -/
def issue
    (transport : Transport)
    (receipt : Receipt) :
    Ticket × Transport :=
  (⟨transport.receipts.length⟩,
    { transport with receipts := transport.receipts ++ [receipt] })

/-- Passes a request to close on. -/
def requestClose
    (transport : Transport)
    (id : ChannelId) :
    Ticket × Transport :=
  let transport := transport.record (.close id)
  match transport.closeMode with
  | .confirm => transport.issue .confirmed
  | .drop => transport.issue .abandoned
  | .refuse => transport.issue (.refused "close refused")
  | .hold =>
      let (ticket, transport) := transport.issue .waiting
      (ticket, { transport with held := transport.held ++ [(id, ticket)] })

/-- Asks for a connection to be closed.  One that is closed already is
confirmed on the spot; for any other the request is passed on, also if it was
before. -/
def close
    (transport : Transport)
    (id : ChannelId) :
    Ticket × Transport :=
  if transport.isClosed id then transport.issue .confirmed
  else (transport.alter id (·.beginClose)).requestClose id

/-- Asks for a listener to be closed. -/
def closeListener
    (transport : Transport)
    (listener : Listener) :
    Ticket × Transport :=
  transport.requestClose listener.id

/-- What one learns who waits for a request to close. -/
def outcome
    (transport : Transport)
    (ticket : Ticket) :
    Except Fault Unit :=
  (transport.receipts[ticket.number]?.getD .abandoned).outcome

/-- Stops the transport. -/
def stop (transport : Transport) : Transport :=
  { transport with stopped := true }

/-- The number for the next connection or listener. -/
def newId (transport : Transport) : ChannelId × Transport :=
  (⟨transport.nextId⟩, { transport with nextId := transport.nextId + 1 })

/-- Asks the user to shut down, if that was planned.  The user is inside its
own context and refuses. -/
def reenter (transport : Transport) : Transport :=
  if transport.reenters then
    { transport.record (.shutdownRefused .serialContext) with reenters := false }
  else transport

/-- Starts a connection.  The answer holds the reason if the connection failed
before the request returned. -/
def connect
    (transport : Transport)
    (address : SocketAddress) :
    ChannelId × Option String × Transport :=
  let (id, transport) := transport.reenter.newId
  let failure := transport.failure
  let channel : Channel := { id, peer := some address }
  let transport := { transport with failure := none }.record (.connect address id)
  (id, failure,
    transport.adopt (if failure.isSome then channel.markClosed else channel))

/-- The port that stands in for a free one. -/
def freePort (id : ChannelId) : UInt16 :=
  UInt16.ofNat (40000 + id.number)

/-- Binds a listener, or gives the reason why not.  Only a success takes a
number. -/
def bind
    (transport : Transport)
    (address : SocketAddress) :
    Except String Listener × Transport :=
  let transport := transport.reenter.record (.bind address)
  match transport.failure with
  | some reason => (.error reason, { transport with failure := none })
  | none =>
      let (id, transport) := transport.newId
      let port := if address.port = 0 then freePort id else address.port
      let listener : Listener := { id, address := { address with port } }
      (.ok listener,
        { transport with listeners := transport.listeners ++ [listener] })

/-! ## The other side -/

/-- Changes how the other side behaves. -/
def configured
    (transport : Transport)
    (closeMode : Option CloseMode)
    (refusesWrites : Option Bool) :
    Transport :=
  { transport with
    closeMode := closeMode.getD transport.closeMode
    refusesWrites := refusesWrites.getD transport.refusesWrites }

/-- Settles the requests to close that are held and chosen. -/
def settle
    (transport : Transport)
    (chosen : ChannelId → Bool)
    (receipt : Receipt) :
    Transport :=
  let (answered, held) := transport.held.partition fun entry => chosen entry.1
  { transport with
    held
    receipts := answered.foldl
      (fun receipts entry => receipts.set entry.2.number receipt)
      transport.receipts }

/-- Settles every request to close that is held. -/
def settleAll
    (transport : Transport)
    (receipt : Receipt) :
    Transport :=
  transport.settle (fun _ => true) receipt

@[simp]
theorem calls_record
    (transport : Transport)
    (call : Call) :
    (transport.record call).calls = transport.calls ++ [call] :=
  rfl

end Transport

end LineProtocol
