import LineProtocol.Client.Session
import LineProtocol.Engine.Session
import LineProtocol.Server.Session

/-!
# A server and its peers on one host

A world is a server, clients that connect to it, and bare sockets that do the
same without being clients.  Peers have names, and a peer's name is also its
identity at the server.

What one side asks of its transport reaches the other side as a report: these
are the errands that a world runs.  Each step goes on until no errand is left,
so what it shows does not depend on who was faster.
-/

namespace LineProtocol

/-- What is chosen about a world. -/
structure WorldSettings where
  host : Host := {}
  server : ServerSettings := {}
  client : ClientSettings := {}
  serverHandler : String → Reaction ServerAction := fun _ => {}
  clientHandler : String → Reaction ClientAction := fun _ => {}
  /-- The longest frames that server and clients can send. -/
  serverLimit : Nat := 1048576
  clientLimit : Nat := 1048576

/-- Somebody who connects to the server. -/
inductive Peer where
  /-- A client, and how many of the messages that it was given were shown. -/
  | client (session : ClientSession) (shown : Nat)
  /-- A bare socket, and what it received that was not shown. -/
  | bare (connected : Bool) (received : Bytes)

/-- What can be seen of a peer. -/
inductive PeerView where
  | client (state : ConnectionState) (received : List String)
  | bare (connected : Bool) (received : Bytes)

/-- What can be seen of a peer. -/
def Peer.view : Peer → PeerView
  | .client session shown =>
      .client session.core.machine.current (session.messages.drop shown)
  | .bare connected received => .bare connected received

/-- A peer after what he received was shown. -/
def Peer.seen : Peer → Peer
  | .client session _ => .client session session.messages.length
  | .bare connected _ => .bare connected []

/-- A connection between a peer and the server. -/
structure Wire where
  peer : String
  /-- The connection's number at the server. -/
  remote : ChannelId
  deriving Repr, DecidableEq

/-- A request that a transport has to carry out.  Those of the server have no
peer. -/
structure Errand where
  peer : Option String
  call : Call
  deriving Repr, DecidableEq

/-- A server, its peers and their connections. -/
structure World where
  settings : WorldSettings
  server : ServerSession
  peers : Table String Peer := {}
  wires : List Wire := []
  errands : List Errand := []
  /-- How many of the messages that the server's handler was given were shown. -/
  shown : Nat := 0

namespace World

/-- The server of a new world.  It knows its peers by the names that they connect with. -/
def newServer (settings : WorldSettings) : ServerSession :=
  .start ("server", "server-dispatch") settings.server
    (fun name => .named fun peer => name.getD peer.text) 0 {} settings.serverHandler

/-- A client that was not used yet. -/
def newClient (settings : WorldSettings) : ClientSession :=
  .start ("client", "client-dispatch") settings.client {} settings.clientHandler

/-- A world with nobody but a server. -/
def start (settings : WorldSettings) : World :=
  { settings, server := newServer settings }

/-- The connection of a peer. -/
def wireOf
    (world : World)
    (name : String) :
    Option Wire :=
  world.wires.find? (·.peer = name)

/-- Whether a peer's name is taken at the server. -/
def isTaken
    (world : World)
    (name : String) :
    Bool :=
  (world.server.core.roster.member? (.named name)).isSome

/-- The address that peers can connect to. -/
def address (world : World) : Option SocketAddress :=
  world.server.core.localAddress.value

/-! ## One side makes a step -/

/-- The server makes a step. -/
def serve
    (world : World)
    (step : ServerSession.Step) :
    ServerSession.Reply × World :=
  let (entry, server) := world.server.step step
  let errands := entry.record.calls.map fun call => { peer := none, call }
  (entry.reply, { world with server, errands := world.errands ++ errands })

/-- A client makes a step. -/
def act
    (world : World)
    (name : String)
    (session : ClientSession)
    (shown : Nat)
    (step : ClientSession.Step) :
    ClientSession.Reply × World :=
  let (entry, session) := session.step step
  let errands := entry.record.calls.map fun call => { peer := some name, call }
  (entry.reply,
    { world with
      peers := world.peers.insert name (.client session shown)
      errands := world.errands ++ errands })

/-- Something is reported to a client about its connection. -/
def report
    (world : World)
    (name : String)
    (session : ClientSession)
    (shown : Nat)
    (report : Report) :
    World :=
  match session.core.channel with
  | some id => (world.act name session shown (.report id report)).2
  | none => world

/-! ## Errands -/

/-- Octets from the server reach a peer. -/
def toPeer
    (world : World)
    (name : String)
    (bytes : Bytes) :
    World :=
  match world.peers.find? name with
  | some (.client session shown) => world.report name session shown (.read bytes)
  | some (.bare connected received) =>
      { world with peers := world.peers.insert name (.bare connected (received ++ bytes)) }
  | none => world

/-- A connection is closed at both sides. -/
def cut
    (world : World)
    (wire : Wire) :
    World :=
  let world := { world with wires := world.wires.filter (· ≠ wire) }
  let world := (world.serve (.report wire.remote (.closed true))).2
  match world.peers.find? wire.peer with
  | some (.client session shown) =>
      world.report wire.peer session shown (.closed true)
  | some (.bare _ received) =>
      { world with peers := world.peers.insert wire.peer (.bare false received) }
  | none => world

/-- Carries out what a transport was asked for.  Frames that are too long to be
sent are dropped. -/
def run
    (world : World)
    (errand : Errand) :
    World :=
  match errand.peer, errand.call with
  | none, .write id bytes =>
      match world.wires.find? (·.remote = id) with
      | some wire =>
          if bytes.length ≤ world.settings.serverLimit then world.toPeer wire.peer bytes
          else world
      | none => world
  | none, .close id =>
      match world.wires.find? (·.remote = id) with
      | some wire => world.cut wire
      | none => (world.serve (.report id (.closed true))).2
  | some name, .write _ bytes =>
      match world.wireOf name with
      | some wire =>
          if bytes.length ≤ world.settings.clientLimit then
            (world.serve (.report wire.remote (.read bytes))).2
          else world
      | none => world
  | some name, .close _ =>
      match world.wireOf name with
      | some wire => world.cut wire
      | none => world
  | _, _ => world

/-- Runs errands, at most as many as given. -/
def settle : Nat → World → World
  | 0, world => world
  | count + 1, world =>
      match world.errands with
      | [] => world
      | errand :: rest => settle count (run { world with errands := rest } errand)

/-- How many errands a step can lead to before the world gives up on it. -/
def patience : Nat :=
  1000000

/-! ## Steps -/

/-- What is asked of a world. -/
inductive Step where
  /-- A call of the server's user. -/
  | server (call : ServerSession.Step)
  /-- A peer connects, as a client or with a bare socket. -/
  | connect (name : String) (bare : Bool)
  /-- A client sends a message. -/
  | sendText (name text : String)
  /-- A bare socket sends octets. -/
  | sendBytes (name : String) (bytes : Bytes)
  | close (name : String)
  /-- A bare socket is reset with something to be read. -/
  | reset (name : String)
  /-- A client is shut down and then tries to send. -/
  | shutDown (name : String)
  deriving Repr, DecidableEq

/-- How an attempt to connect ended. -/
inductive Attempt where
  | connected
  /-- Nobody listens. -/
  | refused
  /-- The server turned the peer away. -/
  | rejected
  deriving Repr, DecidableEq

/-- What is answered. -/
inductive Reply where
  | outcome (outcome : Except Fault Unit)
  | attempt (bare : Bool) (attempt : Attempt)
  /-- What shutting down and sending came to, and the state after that. -/
  | shutDown (first second : Except Fault Unit) (state : ConnectionState)
  /-- There is no peer for that. -/
  | noPeer

/-- What a call by a user came to. -/
def outcomeOf : ClientSession.Reply → Except Fault Unit
  | .outcome outcome => outcome
  | _ => .ok ()

/-- A connection reaches the server under a peer's name. -/
def join
    (world : World)
    (name : String) :
    World :=
  let peer : SocketAddress := { ip := .v4 .loopback, port := 0 }
  match world.serve (.join (some peer) (some name)) with
  | (.accepted remote, world) =>
      { world with wires := world.wires ++ [{ peer := name, remote }] }
  | (_, world) => world

/-- A second connection under a name that is taken.  The server closes it. -/
def joinTwice
    (world : World)
    (name : String) :
    World :=
  let peer : SocketAddress := { ip := .v4 .loopback, port := 0 }
  (world.serve (.join (some peer) (some name))).2

/-- The client that connects under a name, and how much of what it was given was shown: the
one that did before, unless a bare socket did. -/
def clientOf
    (world : World)
    (name : String) :
    ClientSession × Nat :=
  match world.peers.find? name with
  | some (.client session shown) => (session, shown)
  | _ => (newClient world.settings, 0)

/-- The client under a name connects to a port of this host. -/
def dial
    (world : World)
    (name : String)
    (port : UInt16)
    (failure : Option String) :
    World :=
  let (session, shown) := world.clientOf name
  (world.act name session shown (.connect "127.0.0.1" port (.found []) failure false)).2

/-- A client connects. -/
def connectClient
    (world : World)
    (name : String) :
    Option (Reply × World) :=
  match world.address with
  | none => some (.attempt false .refused, world.dial name 1 (some "connection refused"))
  | some address =>
      if world.settings.host.loopback then
        if world.isTaken name then
          some (.attempt false .rejected, world.joinTwice name)
        else
          let world := world.dial name address.port none
          let world :=
            match world.peers.find? name with
            | some (.client session shown) =>
                world.report name session shown (.established true)
            | _ => world
          some (.attempt false .connected, world.join name)
      else none

/-- A bare socket connects. -/
def connectBare
    (world : World)
    (name : String) :
    Reply × World :=
  if world.address.isSome && world.settings.host.loopback then
    if world.isTaken name then (.attempt true .rejected, world.joinTwice name)
    else
      let world := { world with peers := world.peers.insert name (.bare true []) }
      (.attempt true .connected, world.join name)
  else (.attempt true .refused, world)

/-- A bare socket is reset: the server sends it something that it does not read,
and then finds the connection broken. -/
def resetBare
    (world : World)
    (wire : Wire) :
    World :=
  let world := { world with wires := world.wires.filter (· ≠ wire) }
  let target := Target.client (.named wire.peer)
  let world := (world.serve (.send "reset" (some target))).2
  let world := (world.serve (.report wire.remote (.broke "connection reset"))).2
  let world := (world.serve (.report wire.remote (.closed true))).2
  { world with peers := world.peers.insert wire.peer (.bare false []) }

/-- A client is shut down, tries to send after that, and leaves the world. -/
def shutDownClient
    (world : World)
    (name : String)
    (session : ClientSession)
    (shown : Nat) :
    Reply × World :=
  let (first, world) := world.act name session shown .shutdown
  let (entry, session) := (world.clientOf name).1.step (.send "late")
  let world := settle patience world
  (.shutDown (outcomeOf first) (outcomeOf entry.reply) session.core.machine.current,
    { world with peers := world.peers.erase name })

/-- The request of a step.  There is no answer if it waits for what never
happens. -/
def perform? (world : World) : Step → Option (Reply × World)
  | .server call =>
      match world.serve call with
      | (.outcome outcome, world) => some (.outcome outcome, world)
      | (_, world) => some (.noPeer, world)
  | .connect name true => some (world.connectBare name)
  | .connect name false => world.connectClient name
  | .sendText name text =>
      match world.peers.find? name with
      | some (.client session shown) =>
          let (reply, world) := world.act name session shown (.send text)
          some (.outcome (outcomeOf reply), world)
      | _ => some (.noPeer, world)
  | .sendBytes name bytes =>
      match world.peers.find? name, world.wireOf name with
      | some (.bare _ _), some wire =>
          some (.outcome (.ok ()), (world.serve (.report wire.remote (.read bytes))).2)
      | _, _ => some (.noPeer, world)
  | .close name =>
      match world.peers.find? name with
      | some (.client session shown) =>
          let (reply, world) := world.act name session shown .disconnect
          some (.outcome (outcomeOf reply), world)
      | some (.bare _ _) =>
          let closed :=
            match world.wireOf name with
            | some wire => world.cut wire
            | none => world
          some (.outcome (.ok ()), closed)
      | none => some (.noPeer, world)
  | .reset name =>
      match world.peers.find? name, world.wireOf name with
      | some (.bare _ _), some wire => some (.outcome (.ok ()), world.resetBare wire)
      | _, _ => some (.noPeer, world)
  | .shutDown name =>
      match world.peers.find? name with
      | some (.client session shown) => some (world.shutDownClient name session shown)
      | _ => some (.noPeer, world)

/-! ## What a step shows -/

/-- What can be seen of a step. -/
structure Entry where
  reply : Reply
  state : ListeningState
  clients : List Identity
  bound : Bool
  /-- What the server's handler was given, by sender. -/
  heard : List Parcel
  peers : List (String × PeerView)

/-- What the server's handler was given and was not shown, by sender. -/
def heard (world : World) : List Parcel :=
  (world.server.messages.drop world.shown).mergeSort fun left right =>
    decide (left.sender.text ≤ right.sender.text)

/-- The world after everything was shown. -/
def seen (world : World) : World :=
  { world with
    shown := world.server.messages.length
    peers := world.peers.map (·.seen) }

/-- Makes one step with all that it sets off, and shows it. -/
def step?
    (world : World)
    (request : Step) :
    Option (Entry × World) :=
  (world.perform? request).map fun (reply, acted) =>
    let after := settle patience acted
    let roster := after.server.core.roster
    ({ reply
       state := roster.state.value
       clients := roster.identities.value
       bound := after.address.isSome
       heard := after.heard
       peers := after.peers.entries.map fun (name, peer) => (name, peer.view) },
      after.seen)

end World

end LineProtocol
