import LineProtocol.Dispatch.Crew
import LineProtocol.Frame.Encoder
import LineProtocol.Serial.Basic
import LineProtocol.Server.Roster
import LineProtocol.Transport.Basic

/-!
# What a server does

A server has at most one listener and any number of clients.  Everything that
it does is a job of its serial context: what its user asks for, and what its
transport reports.  Each job is one function on `ServerCore`, which holds the
roster, the listener, and all that the server's own threads share.

A connection that was accepted is not read until it joined: the job that adds
it to the roster also asks for it to be read, so every message of a client
comes after that client was announced.
-/

namespace LineProtocol

/-- A message with the client that sent it. -/
structure Parcel where
  sender : Identity
  text : String
  deriving Repr, DecidableEq

/-- Something that a shutdown closed, by the name that the log has for it. -/
structure Closing where
  resource : String
  ticket : Ticket
  deriving Repr, DecidableEq

/-- What a server's jobs work on. -/
structure ServerCore where
  roster : Roster := {}
  listener : Option Listener := none
  /-- The address that clients can connect to. -/
  localAddress : Cell (Option SocketAddress) := { value := none }
  bindIp : IpAddress := .v4 .unspecified
  encoder : Encoder := {}
  transport : Transport := {}
  /-- The transport is the server's own and stops with it. -/
  ownsTransport : Bool := false
  crew : Crew Parcel
  notices : List Notice := []

/-- What a server can be asked to do, and what can be reported to it. -/
inductive ServerJob where
  | listen (port : UInt16)
  /-- An accepted connection is open. -/
  | join (member : Member)
  /-- A connection is closed. -/
  | leave (member : Member)
  | send (message : String) (target : Option Identity)
  | broadcast (message : String)
  | kick (identity : Identity)
  | stopListening
  | beginShutdown
  /-- The last job of a server. -/
  | finishShutdown
  deriving Repr, DecidableEq

namespace ServerCore

/-- Puts a notice into the log. -/
def note
    (core : ServerCore)
    (notice : Notice) :
    ServerCore :=
  { core with notices := core.notices ++ [notice] }

/-- Publishes the address that clients can connect to. -/
def announce
    (core : ServerCore)
    (address : Option SocketAddress) :
    ServerCore :=
  { core with localAddress := core.localAddress.publish address }

/-- Starts to listen, unless the server does so already or is shutting down.
An address that cannot be bound puts the server in error. -/
def listen
    (core : ServerCore)
    (port : UInt16) :
    ServerCore :=
  if core.roster.shuttingDown then core.note (.listenDuringShutdown port)
  else
    match core.listener with
    | some listener => core.note (.alreadyListening listener.address port)
    | none =>
        let address : SocketAddress := { ip := core.bindIp, port }
        match core.transport.bind address with
        | (.ok listener, transport) =>
            let core := { core with transport, listener := some listener }
            { core.announce (some listener.address) with
              roster := core.roster.listenerBound listener.address }
        | (.error reason, transport) =>
            let cause := Fault.bind address reason
            { core with transport, roster := core.roster.recordFault cause }.note
              (.listenFailed cause)

/-- Adds a client and has it read, or turns it away. -/
def join
    (core : ServerCore)
    (member : Member) :
    ServerCore :=
  match core.roster.add member with
  | (.ok _, roster) =>
      { core with roster, transport := core.transport.resume member.channel }
  | (.error cause, roster) =>
      { core with roster, transport := (core.transport.close member.channel).2 }.note
        (.connectionRejected member.channel cause)

/-- A client's connection is closed.  The client may be gone before that. -/
def leave
    (core : ServerCore)
    (member : Member) :
    ServerCore :=
  { core with roster := (core.roster.remove member.identity member.channel).2 }

/-- The client that a message is for: the one that is named, or else the one
that came last. -/
def recipient
    (core : ServerCore) :
    Option Identity → Except Fault Member
  | some identity =>
      match core.roster.member? identity with
      | some member => .ok member
      | none => .error (.unknownIdentity identity)
  | none =>
      match core.roster.mostRecent? with
      | some member => .ok member
      | none => .error .noClients

/-- Sends a message to one client. -/
def send
    (core : ServerCore)
    (message : String)
    (target : Option Identity) :
    ServerCore :=
  match core.recipient target with
  | .error cause => core.note (.messageDropped cause)
  | .ok member =>
      let (frame, encoder) := core.encoder.encode message
      let (outcome, transport) := core.transport.write member.channel frame
      let core := { core with encoder, transport }
      match outcome with
      | .ok () => core
      | .error cause => core.note (.messageDropped cause)

/-- Hands a frame to one of the clients that it is for. -/
def deliver
    (frame : Bytes)
    (core : ServerCore)
    (member : Member) :
    ServerCore :=
  let (outcome, transport) := core.transport.write member.channel frame
  let core := { core with transport }
  match outcome with
  | .ok () => core
  | .error cause => core.note (.broadcastRefused member.identity cause)

/-- Sends a message to every client, in the order in which they came.  One that
does not take it does not keep it from the others. -/
def broadcast
    (core : ServerCore)
    (message : String) :
    ServerCore :=
  let (frame, encoder) := core.encoder.encode message
  core.roster.toList.foldl (deliver frame) { core with encoder }

/-- Takes a client out and closes its connection. -/
def kick
    (core : ServerCore)
    (identity : Identity) :
    ServerCore :=
  match core.roster.member? identity with
  | none => core
  | some member =>
      match core.roster.remove identity member.channel with
      | (none, roster) => { core with roster }
      | (some member, roster) =>
          { core with roster, transport := (core.transport.close member.channel).2 }

/-- Closes the listener.  The clients stay. -/
def stopListening (core : ServerCore) : ServerCore :=
  match core.listener with
  | none => core
  | some listener =>
      let closed := { core with
        listener := none
        transport := (core.transport.closeListener listener).2 }
      { closed.announce none with roster := core.roster.listenerUnbound }

/-- Closes the listener for good. -/
def closeListener (core : ServerCore) : List Closing × ServerCore :=
  match core.listener with
  | none => ([], core)
  | some listener =>
      let (ticket, transport) := core.transport.closeListener listener
      ([⟨"listener " ++ listener.address.text, ticket⟩],
        { core with transport, listener := none })

/-- Closes connections, in order. -/
def closeAll : List Member → Transport → List Closing × Transport
  | [], transport => ([], transport)
  | member :: members, transport =>
      let (ticket, transport) := transport.close member.channel
      let (closings, transport) := closeAll members transport
      (⟨member.identity.text, ticket⟩ :: closings, transport)

/-- The first phase of a shutdown: from now on nobody joins, and the listener
and all connections are being closed. -/
def beginShutdown (core : ServerCore) : List Closing × ServerCore :=
  let (first, core) :=
    closeListener { core with roster := core.roster.beginShutdown }
  let (members, roster) := core.roster.drain
  let (others, transport) := closeAll members core.transport
  (first ++ others, { core with roster, transport })

/-- The last phase of a shutdown: no message is taken in any more, a transport
of the server's own is stopped, and the server is off. -/
def finishShutdown (core : ServerCore) : ServerCore :=
  let stopped :=
    { core with
      crew := core.crew.stop
      transport := if core.ownsTransport then core.transport.stop else core.transport }
  { stopped.announce none with roster := core.roster.finishShutdown }

end ServerCore

namespace ServerJob

/-- Runs a job.  The answer is what there is to wait for. -/
def run : ServerJob → ServerCore → List Closing × ServerCore
  | .listen port, core => ([], core.listen port)
  | .join member, core => ([], core.join member)
  | .leave member, core => ([], core.leave member)
  | .send message target, core => ([], core.send message target)
  | .broadcast message, core => ([], core.broadcast message)
  | .kick identity, core => ([], core.kick identity)
  | .stopListening, core => ([], core.stopListening)
  | .beginShutdown, core => core.beginShutdown
  | .finishShutdown, core => ([], core.finishShutdown)

/-- How a server's serial context runs its jobs.  None of them leads to
another. -/
def craft : Craft ServerCore ServerJob (List Closing) where
  run _ job core :=
    let (closings, state) := job.run core
    { state, answer := some closings }
  weight _ := 1
  lighter _ _ _ := Nat.zero_lt_one

end ServerJob

/-- A server's serial context. -/
abbrev ServerContext := Serial ServerCore ServerJob

end LineProtocol
