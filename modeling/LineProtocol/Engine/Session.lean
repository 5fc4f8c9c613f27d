import LineProtocol.Engine.Usage
import LineProtocol.Frame.Stream

/-!
# An engine that talks to itself

A session is an engine whose connections have both their ends on it: one
connects to a listener of the same engine, and the other is what the listener
accepts.  The network between the ends is part of the session.  It loses and
reorders nothing, and each step goes on until nothing more happens by itself.

All that happens to the engine is an event of its `Usage`.

Whether a host can reach itself depends on the host.  Where it cannot, a
connect to a listener is never answered, and a session that waits for it does
not go on.
-/

namespace LineProtocol

/-- What a host's network can do. -/
structure Host where
  /-- Connections from the host to itself are possible. -/
  loopback : Bool := true
  deriving Repr, DecidableEq

/-- One end of a connection. -/
structure End where
  channel : ChannelId
  /-- There is something behind the handle.  A refused connection has only one
  end, and the other shares its handle. -/
  present : Bool := true
  /-- How much of what the other end's socket took was brought to this end. -/
  brought : Nat := 0
  /-- How much of what the handler was told was shown. -/
  shown : Nat := 0
  deriving Repr, DecidableEq

/-- An engine in use, its connections' ends in pairs, and the network between them. -/
structure EngineSession where
  host : Host := {}
  usage : Usage
  listener : Option Listener := none
  ends : List End := []
  deriving Repr, DecidableEq

namespace EngineSession

/-- A new session. -/
def start
    (host : Host)
    (settings : EngineSettings) :
    EngineSession :=
  { host, usage := .start settings }

/-- The engine. -/
def engine (session : EngineSession) : Engine :=
  session.usage.engine

/-- The number of the end that an end is connected to. -/
def opposite (index : Nat) : Nat :=
  if index % 2 = 0 then index + 1 else index - 1

/-- Whether a channel was reported as closed. -/
def isClosed
    (session : EngineSession)
    (id : ChannelId) :
    Bool :=
  ((session.engine.channel? id).map (·.isClosed)).getD true

/-- The handle that is given out next. -/
def nextChannel (session : EngineSession) : ChannelId :=
  ⟨session.engine.nextId⟩

/-- All that the socket of a connection took. -/
def taken
    (session : EngineSession)
    (id : ChannelId) :
    Bytes :=
  match session.engine.workers[session.engine.home id]? with
  | none => []
  | some worker =>
      match worker.slots.find? id with
      | some slot => slot.buffer.sent
      | none => ((worker.spent.find? (·.1 = id)).map (·.2)).getD []

/-- Lets something happen to the engine, if it can. -/
def happen
    (session : EngineSession)
    (event : Usage.Event) :
    EngineSession :=
  { session with usage := (session.usage.step? event).getD session.usage }

/-! ## What happens by itself -/

/-- The network's part in the next command of a worker.  Sockets have room for
everything. -/
def surroundings
    (attempt : Except String Unit)
    (worker : Worker) :
    Surroundings :=
  match worker.queue with
  | .write id bytes :: _ =>
      { attempt
        answers := ((worker.slots.find? id).map (·.buffer.roomFor bytes)).getD [] }
  | _ => { attempt }

/-- A worker makes the next step of its own. -/
def advance
    (attempt : Except String Unit)
    (index : Nat)
    (session : EngineSession) :
    EngineSession :=
  match session.engine.workers[index]? with
  | none => session
  | some worker => session.happen (.advance index (surroundings attempt worker))

/-- A worker makes all the steps of its own that it can make. -/
def work
    (attempt : Except String Unit)
    (session : EngineSession)
    (index : Nat) :
    EngineSession :=
  let steps := (session.engine.workers[index]?.map (·.remaining)).getD 0
  Nat.repeat (advance attempt index) steps session

/-- What an end has to be read: all that is there, and then that the other end
is closed, if it is. -/
def arrivals
    (session : EngineSession)
    (side other : End) :
    List Arrival :=
  let waiting := (session.taken other.channel).drop side.brought
  (chunksOf (max session.engine.settings.readBufferSize 1) waiting).map .chunk ++
    [if session.isClosed other.channel then .ended else .nothing]

/-- An end that is read is given what is there for it. -/
def deliver
    (session : EngineSession)
    (index : Nat) :
    EngineSession :=
  match session.ends[index]?, session.ends[opposite index]? with
  | some side, some other =>
      match
        session.engine.workers[session.engine.home side.channel]?.bind
          (·.slots.find? side.channel) with
      | some { phase := .active, .. } =>
          let readiness : Readiness :=
            { readable := true, arrivals := session.arrivals side other }
          let brought := (session.taken other.channel).length
          { session with ends := session.ends.set index { side with brought } }.happen
            (.report side.channel readiness)
      | _ => session
  | _, _ => session

/-- All that happens by itself: workers follow the commands that they were sent, and the
ends are given what was sent to them. -/
def settle
    (session : EngineSession)
    (attempt : Except String Unit) :
    EngineSession :=
  let worked := (List.range session.engine.workers.length).foldl (work attempt) session
  (List.range session.ends.length).foldl deliver worked

/-! ## Steps -/

/-- What is asked of the engine. -/
inductive Step where
  | bind
  | closeListener
  | connect
  | resume (index : Nat)
  | write (index : Nat) (bytes : Bytes)
  | close (index : Nat)
  | shutdown
  deriving Repr, DecidableEq

/-- What is answered. -/
inductive Reply where
  | outcome (outcome : Except Fault Unit)
  | pair (number : Nat)
  /-- The engine gave a reason for doing nothing. -/
  | refused (reason : String)
  | noListener

/-- The address of the host itself with no port chosen. -/
def localAddress : SocketAddress :=
  { ip := .v4 .loopback, port := 0 }

/-- Adds a pair of ends. -/
def join
    (session : EngineSession)
    (first second : End) :
    EngineSession :=
  { session with ends := session.ends ++ [first, second] }

/-- A connect that nobody accepts. -/
def connectRefused (session : EngineSession) : EngineSession :=
  let first := session.nextChannel
  let joined := (session.happen (.connect localAddress)).join
    { channel := first } { channel := first, present := false }
  joined.settle (.error "connection refused")

/-- The connecting end is open at once. -/
def dial
    (session : EngineSession)
    (listener : Listener) :
    EngineSession :=
  let asked := (session.happen (.connect listener.address)).settle (.ok ())
  asked.happen (.report session.nextChannel {})

/-- A connect that the listener accepts, when it gets to that. -/
def connectAccepted?
    (session : EngineSession)
    (listener : Listener) :
    Option EngineSession :=
  let found := session.dial listener
  if found.usage.accepts listener.id then
    let joined := (found.happen (.accept listener.id localAddress)).join
      { channel := session.nextChannel } { channel := found.nextChannel }
    some ((joined.happen (.hand found.nextChannel)).settle (.ok ()))
  else none

/-- A connect, to the listener if there is one. -/
def connect? (session : EngineSession) : Option EngineSession :=
  match session.listener with
  | none => some session.connectRefused
  | some listener =>
      if session.engine.shutDown then some session.connectRefused
      else if session.host.loopback then session.connectAccepted? listener
      else none

/-- A request about an end. -/
def atEnd
    (session : EngineSession)
    (index : Nat)
    (event : ChannelId → Usage.Event)
    (reply : ChannelId → EngineSession → Reply) :
    Option (Reply × EngineSession) :=
  (session.ends[index]?).map fun side =>
    let after := (session.happen (event side.channel)).settle (.ok ())
    (reply side.channel after, after)

/-- What a request to close came to, when nothing more happens. -/
def closed
    (session : EngineSession)
    (ticket : Ticket) :
    Reply :=
  .outcome (session.engine.receipt ticket).outcome

/-- One request with all that it sets off.  There is no answer if the request is
about an end that does not exist, or waits for what never happens. -/
def perform? (session : EngineSession) : Step → Option (Reply × EngineSession)
  | .bind =>
      let bound := session.happen (.bind localAddress)
      match (session.engine.bind localAddress).1 with
      | .ok listener =>
          some (.outcome (.ok ()), { bound with listener := some listener }.settle (.ok ()))
      | .error reason => some (.refused reason, bound)
  | .closeListener =>
      match session.listener with
      | none => some (.noListener, session)
      | some listener =>
          let asked := { session.happen (.closeListener listener) with listener := none }
          let after := asked.settle (.ok ())
          some (after.closed (session.engine.closeListener listener).1, after)
  | .connect =>
      session.connect?.map fun after => (.pair (session.ends.length / 2), after)
  | .resume index => session.atEnd index .resume fun _ _ => .outcome (.ok ())
  | .write index bytes =>
      session.atEnd index (.write · bytes) fun id _ =>
        .outcome (session.engine.write id bytes).1
  | .close index =>
      session.atEnd index .close fun id after => after.closed (session.engine.close id).1
  | .shutdown =>
      some (.outcome (.ok ()), (session.happen .shutdown).settle (.ok ()))

/-! ## What a step shows -/

/-- What can be seen of an end. -/
structure EndView where
  /-- What the handler was told, reads aside. -/
  events : List Callback
  read : Bytes
  writable : Bool
  closed : Bool
  deriving Repr, DecidableEq

/-- What can be seen of a step. -/
structure Entry where
  reply : Reply
  ends : List EndView
  shutDown : Bool

/-- What the handler of an end was told. -/
def told
    (session : EngineSession)
    (side : End) :
    List Callback :=
  if side.present then session.usage.told side.channel else []

/-- What can be seen of an end that was not shown before. -/
def view
    (session : EngineSession)
    (side : End) :
    EndView :=
  let told := (session.told side).drop side.shown
  let channel := session.engine.channel? side.channel
  { events := told.filter (·.chunk?.isNone)
    read := (told.filterMap (·.chunk?)).flatten
    writable := (channel.map (·.isWritable)).getD false
    closed := session.isClosed side.channel }

/-- The session after everything was shown. -/
def seen (session : EngineSession) : EngineSession :=
  { session with
    ends := session.ends.map fun side => { side with shown := (session.told side).length } }

/-- Makes one step, and shows it. -/
def step?
    (session : EngineSession)
    (request : Step) :
    Option (Entry × EngineSession) :=
  (session.perform? request).map fun (reply, after) =>
    ({ reply
       ends := after.ends.map after.view
       shutDown := after.engine.shutDown },
      after.seen)

end EngineSession

end LineProtocol
