import LineProtocol.Engine.Worker
import LineProtocol.Settings

/-!
# The engine

An engine is a group of workers.  Connections and listeners are numbered in
one sequence and pinned to the workers in turn.  Whoever holds a channel can
write to it, have it read or have it closed; each of these reaches the worker
that the channel is pinned to as a command.

Once its workers have stopped, an engine still answers: a connect is reported
as failed on the spot, and a request to close counts as done.

A worker that is sent a command is always woken, and every address can be
bound.  That the system may refuse either is left out, and so is the engine's
own log.
-/

namespace LineProtocol

/-- A group of workers. -/
structure Engine where
  settings : EngineSettings := {}
  workers : List Worker := []
  /-- The worker of each connection and listener. -/
  homes : Table ChannelId Nat := {}
  nextId : Nat := 1
  /-- How many times a worker was picked. -/
  picked : Nat := 0
  shutDown : Bool := false
  /-- How many requests to close were made. -/
  tickets : Nat := 0
  /-- The requests to close that no worker was asked for. -/
  settled : List (Ticket × Receipt) := []
  deriving Repr, DecidableEq

namespace Engine

/-- A running engine. -/
def start (settings : EngineSettings) : Engine :=
  { settings
    workers :=
      List.replicate (max settings.workerThreads 1)
        { limit := settings.maxPendingWrite } }

/-! ## Parts -/

/-- The worker whose turn it is. -/
def pick (engine : Engine) : Nat × Engine :=
  (engine.picked % engine.workers.length, { engine with picked := engine.picked + 1 })

/-- A new number, pinned to a worker. -/
def newId
    (engine : Engine)
    (home : Nat) :
    ChannelId × Engine :=
  let id : ChannelId := ⟨engine.nextId⟩
  (id,
    { engine with
      nextId := engine.nextId + 1
      homes := engine.homes.insert id home })

/-- Changes a worker. -/
def alterWorker
    (engine : Engine)
    (index : Nat)
    (change : Worker → Worker) :
    Engine :=
  { engine with workers := engine.workers.modify index change }

/-- Sends a worker a command.  The answer says whether its queue is there. -/
def send
    (engine : Engine)
    (index : Nat)
    (command : Command) :
    Bool × Engine :=
  match engine.workers[index]? with
  | none => (false, engine)
  | some worker =>
      let (sent, worker) := worker.send command
      (sent, engine.alterWorker index fun _ => worker)

/-- The worker that a channel is pinned to. -/
def home
    (engine : Engine)
    (id : ChannelId) :
    Nat :=
  (engine.homes.find? id).getD 0

/-- The handle with a number. -/
def channel?
    (engine : Engine)
    (id : ChannelId) :
    Option Channel :=
  engine.workers[engine.home id]?.bind (·.channels.find? id)

/-- Adds a new handle. -/
def addChannel
    (engine : Engine)
    (home : Nat)
    (channel : Channel) :
    Engine :=
  engine.alterWorker home fun worker =>
    { worker with channels := worker.channels.insert channel.id channel }

/-! ## Requests -/

/-- Starts a connection.  An engine whose worker has stopped reports a failure
on the spot. -/
def connect
    (engine : Engine)
    (address : SocketAddress) :
    ChannelId × Engine :=
  let (index, engine) := engine.pick
  let (id, engine) := engine.newId index
  let engine := engine.addChannel index { id, peer := some address }
  match engine.send index (.connect id) with
  | (true, engine) => (id, engine)
  | (false, engine) =>
      (id, engine.alterWorker index (·.refuse id Worker.stoppedReason))

/-- Accepts connections on an address from now on. -/
def bind
    (engine : Engine)
    (address : SocketAddress) :
    Except String Listener × Engine :=
  let (id, engine) := engine.newId (engine.picked % engine.workers.length)
  let (index, engine) := engine.pick
  match engine.send index (.listen id) with
  | (true, engine) => (.ok { id, address }, engine)
  | (false, engine) => (.error Worker.stoppedReason, engine)

/-- A listener accepts a connection: it gets a handle, which is shown to the
application before any worker looks after the connection. -/
def accept
    (engine : Engine)
    (peer : SocketAddress) :
    ChannelId × Engine :=
  let (index, engine) := engine.pick
  let (id, engine) := engine.newId index
  (id, engine.addChannel index { id, peer := some peer })

/-- A listener that is there fails to accept a connection. -/
def failAccept
    (engine : Engine)
    (listener : ChannelId)
    (reason : String) :
    Engine :=
  engine.alterWorker (engine.home listener) fun worker =>
    if worker.stage = .running ∧ listener ∈ worker.listeners then
      worker.complain listener reason
    else worker

/-- Hands an accepted connection to its worker. -/
def adopt
    (engine : Engine)
    (id : ChannelId) :
    Engine :=
  (engine.send (engine.home id) (.adopt id)).2

/-- Hands octets over.  Only an open channel takes them. -/
def write
    (engine : Engine)
    (id : ChannelId)
    (bytes : Bytes) :
    Except Fault Unit × Engine :=
  if ((engine.channel? id).map (·.isWritable)).getD false then
    match engine.send (engine.home id) (.write id bytes) with
    | (true, engine) => (.ok (), engine)
    | (false, engine) => (.error (.notWritable id), engine)
  else (.error (.notWritable id), engine)

/-- Asks that a connection that was accepted is read from now on. -/
def resume
    (engine : Engine)
    (id : ChannelId) :
    Engine :=
  (engine.send (engine.home id) (.resume id)).2

/-- Settles a request to close without a worker. -/
def settle
    (engine : Engine)
    (ticket : Ticket)
    (receipt : Receipt) :
    Engine :=
  { engine with settled := engine.settled ++ [(ticket, receipt)] }

/-- Passes a request to close on. -/
def requestClose
    (engine : Engine)
    (id : ChannelId) :
    Ticket × Engine :=
  let ticket : Ticket := ⟨engine.tickets⟩
  let engine := { engine with tickets := engine.tickets + 1 }
  match engine.send (engine.home id) (.close id ticket) with
  | (true, engine) => (ticket, engine)
  | (false, engine) => (ticket, engine.settle ticket .abandoned)

/-- Asks for a connection to be closed.  One that is closed already is
confirmed on the spot. -/
def close
    (engine : Engine)
    (id : ChannelId) :
    Ticket × Engine :=
  if ((engine.channel? id).map (·.isClosed)).getD false then
    let ticket : Ticket := ⟨engine.tickets⟩
    (ticket, { engine with tickets := engine.tickets + 1 }.settle ticket .confirmed)
  else (engine.alterWorker (engine.home id) (·.alter id (·.beginClose))).requestClose id

/-- Asks for a listener to be closed. -/
def closeListener
    (engine : Engine)
    (listener : Listener) :
    Ticket × Engine :=
  engine.requestClose listener.id

/-- What is known about a request to close. -/
def receipt
    (engine : Engine)
    (ticket : Ticket) :
    Receipt :=
  let settled := engine.settled ++ engine.workers.flatMap (·.settled)
  ((settled.find? (·.1 = ticket)).map (·.2)).getD .waiting

/-- Tells all workers to stop.  Only the first such request counts. -/
def shutdown (engine : Engine) : Engine :=
  if engine.shutDown then engine
  else
    { engine with
      shutDown := true
      workers := engine.workers.map fun worker => (worker.send .shutdown).2 }

/-! ## Steps of the workers -/

/-- A worker makes the next step of its own. -/
def advance
    (engine : Engine)
    (index : Nat)
    (surroundings : Surroundings) :
    Engine :=
  engine.alterWorker index (·.advance surroundings)

/-- The network reports something to a worker that still listens to it. -/
def event
    (engine : Engine)
    (id : ChannelId)
    (readiness : Readiness) :
    Engine :=
  engine.alterWorker (engine.home id) fun worker =>
    if worker.stage = .running then worker.event id readiness else worker

/-- The network reports nothing to a worker any more. -/
def breakDown
    (engine : Engine)
    (index : Nat) :
    Engine :=
  engine.alterWorker index (·.breakDown)

end Engine

end LineProtocol
