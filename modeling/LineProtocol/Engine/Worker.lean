import LineProtocol.Engine.WriteBuffer
import LineProtocol.Table
import LineProtocol.Transport.Basic

/-!
# Workers of the engine

A worker looks after the connections that are pinned to it.  Holders of
channels send it commands through a queue, and the network reports events to
it.  It answers both with callbacks, and nobody else makes callbacks.

The network's part in each step is given with the step: what sockets do with
octets that they are offered, and what they have to be read.  An accepted
connection starts out paused and is not read before it is resumed.

When a worker stops it closes all its connections, then empties its queue, and
then drops it.  A command that is sent between the last two finds nobody who
would read it.

The options of a socket, and what the system says when one is shut down, change
nothing that a worker does and are left out.
-/

namespace LineProtocol

/-- How far a connection is. -/
inductive Phase where
  | connecting
  /-- Open, but not to be read yet. -/
  | paused
  | active
  deriving Repr, DecidableEq

/-- What the handler of a connection is told. -/
inductive Callback where
  | established
  | connectFailed (reason : String)
  | read (chunk : Bytes)
  | errored (reason : String)
  | closed
  deriving Repr, DecidableEq

/-- What a callback is about. -/
def Callback.name : Callback → String
  | .established => "established"
  | .connectFailed _ => "connect_failed"
  | .read _ => "read"
  | .errored _ => "errored"
  | .closed => "closed"

/-- The octets that a callback hands over. -/
def Callback.chunk? : Callback → Option Bytes
  | .read chunk => some chunk
  | _ => none

/-- What a socket has to be read. -/
inductive Arrival where
  | chunk (bytes : Bytes)
  /-- Nothing yet. -/
  | nothing
  /-- The other side is done. -/
  | ended
  | failed (reason : String)
  deriving Repr, DecidableEq

/-- The network's part in a step. -/
structure Surroundings where
  /-- What becomes of an attempt to connect. -/
  attempt : Except String Unit := .ok ()
  /-- What becomes of asking for reports on a connection or a listener. -/
  registration : Except String Unit := .ok ()
  /-- What becomes of asking for no more of them. -/
  deregistration : Except String Unit := .ok ()
  answers : List SocketAnswer := []
  arrivals : List Arrival := []
  /-- What the socket of a connection that is closed answers to one last offer. -/
  farewell : ChannelId → List SocketAnswer := fun _ => []

/-- What the network reports about a connection. -/
structure Readiness where
  /-- What became of an attempt to connect; nothing if that is still open. -/
  attempt : Option (Except String Unit) := some (.ok ())
  failure : Option String := none
  writable : Bool := false
  readable : Bool := false
  answers : List SocketAnswer := []
  arrivals : List Arrival := []
  /-- What the socket of a connection that is closed answers to one last offer. -/
  farewell : ChannelId → List SocketAnswer := fun _ => []

/-- What a worker can be told to do. -/
inductive Command where
  | connect (channel : ChannelId)
  /-- Look after a connection that was accepted. -/
  | adopt (channel : ChannelId)
  | listen (listener : ChannelId)
  | write (channel : ChannelId) (bytes : Bytes)
  | resume (channel : ChannelId)
  /-- Close a connection or a listener. -/
  | close (channel : ChannelId) (ticket : Ticket)
  | shutdown
  deriving Repr, DecidableEq

/-- How far a worker is in its life. -/
inductive Stage where
  | running
  /-- Told to stop. -/
  | closing
  /-- All connections are closed. -/
  | draining
  /-- The queue was seen empty. -/
  | drained
  /-- The queue is gone. -/
  | ended
  deriving Repr, DecidableEq

/-- A connection that a worker looks after. -/
structure Slot where
  phase : Phase
  buffer : WriteBuffer
  deriving Repr, DecidableEq

/-- A worker. -/
structure Worker where
  /-- How many octets of a connection may wait. -/
  limit : Nat
  /-- The handles on the connections that are pinned here. -/
  channels : Table ChannelId Channel := {}
  slots : Table ChannelId Slot := {}
  listeners : List ChannelId := []
  queue : List Command := []
  stage : Stage := .running
  /-- All callbacks in order. -/
  callbacks : List (ChannelId × Callback) := []
  /-- The requests to close that were settled. -/
  settled : List (Ticket × Receipt) := []
  /-- What the sockets of the connections that were closed took, each in all. -/
  spent : List (ChannelId × Bytes) := []
  /-- What went wrong with listeners, as those who accept were told. -/
  complaints : List (ChannelId × String) := []
  deriving Repr, DecidableEq

namespace Worker

/-- What a worker says for itself when it has stopped. -/
def stoppedReason : String :=
  "event loop stopped"

/-! ## Parts of a step -/

/-- Tells a handler. -/
def tell
    (worker : Worker)
    (id : ChannelId)
    (callback : Callback) :
    Worker :=
  { worker with callbacks := worker.callbacks ++ [(id, callback)] }

/-- Tells whoever accepts for a listener that something went wrong. -/
def complain
    (worker : Worker)
    (listener : ChannelId)
    (reason : String) :
    Worker :=
  { worker with complaints := worker.complaints ++ [(listener, reason)] }

/-- Changes the handle on a connection. -/
def alter
    (worker : Worker)
    (id : ChannelId)
    (change : Channel → Channel) :
    Worker :=
  { worker with channels := worker.channels.modify id change }

/-- Settles a request to close. -/
def settle
    (worker : Worker)
    (ticket : Ticket)
    (receipt : Receipt) :
    Worker :=
  { worker with settled := worker.settled ++ [(ticket, receipt)] }

/-- Starts to look after a connection. -/
def install
    (worker : Worker)
    (id : ChannelId)
    (phase : Phase) :
    Worker :=
  let slot : Slot := { phase, buffer := { limit := worker.limit } }
  { worker with slots := worker.slots.insert id slot }

/-- Changes a connection that is looked after. -/
def alterSlot
    (worker : Worker)
    (id : ChannelId)
    (slot : Slot) :
    Worker :=
  { worker with slots := worker.slots.insert id slot }

/-- A connection came to nothing. -/
def refuse
    (worker : Worker)
    (id : ChannelId)
    (reason : String) :
    Worker :=
  (worker.alter id (·.markClosed)).tell id (.connectFailed reason)

/-- Lets a connection go.  Its socket is offered once more what still waits, and what it does
not take then is lost. -/
def forget
    (worker : Worker)
    (id : ChannelId)
    (slot : Slot)
    (farewell : List SocketAnswer) :
    Worker :=
  { worker with
    slots := worker.slots.erase id
    spent := worker.spent ++ [(id, (slot.buffer.flush farewell).2.sent)] }

variable (farewell : ChannelId → List SocketAnswer)

/-- Closes a connection, if it is looked after. -/
def closeSlot
    (worker : Worker)
    (id : ChannelId) :
    Worker :=
  match worker.slots.find? id with
  | none => worker
  | some slot =>
      ((worker.forget id slot (farewell id)).alter id (·.markClosed)).tell id .closed

/-- A connection broke. -/
def fail
    (worker : Worker)
    (id : ChannelId)
    (reason : String) :
    Worker :=
  match worker.slots.find? id with
  | none => worker
  | some _ => (worker.tell id (.errored reason)).closeSlot farewell id

/-- Reads what has arrived, in order, up to the first end. -/
def readAll
    (worker : Worker)
    (id : ChannelId) :
    List Arrival → Worker
  | [] => worker
  | .chunk bytes :: arrivals => (worker.tell id (.read bytes)).readAll id arrivals
  | .nothing :: _ => worker
  | .ended :: _ => worker.closeSlot farewell id
  | .failed reason :: _ => worker.fail farewell id reason

/-- Reads a connection if it is to be read. -/
def readAvailable
    (worker : Worker)
    (id : ChannelId)
    (arrivals : List Arrival) :
    Worker :=
  match worker.slots.find? id with
  | some slot => if slot.phase = .active then worker.readAll farewell id arrivals else worker
  | none => worker

/-- Offers a socket what waits for it. -/
def flush
    (worker : Worker)
    (id : ChannelId)
    (answers : List SocketAnswer) :
    Worker :=
  match worker.slots.find? id with
  | none => worker
  | some slot =>
      let (outcome, buffer) := slot.buffer.flush answers
      let worker := worker.alterSlot id { slot with buffer }
      match outcome with
      | .ok _ => worker
      | .error reason => worker.fail farewell id reason

/-! ## Commands -/

/-- Starts a connection. -/
def connect
    (worker : Worker)
    (id : ChannelId) :
    Except String Unit → Worker
  | .ok () => worker.install id .connecting
  | .error reason => worker.refuse id reason

/-- Starts to look after a connection that was accepted.  Where the network does
not report on it, it is given up at once. -/
def adopt
    (worker : Worker)
    (id : ChannelId) :
    Except String Unit → Worker
  | .ok () => ((worker.alter id (·.markOpen)).tell id .established).install id .paused
  | .error reason =>
      ((worker.alter id (·.markClosed)).tell id (.errored reason)).tell id .closed

/-- Starts to look after a listener. -/
def listen
    (worker : Worker)
    (listener : ChannelId) :
    Except String Unit → Worker
  | .ok () => { worker with listeners := worker.listeners ++ [listener] }
  | .error reason => worker.complain listener reason

/-- Sends octets.  They are dropped where the connection is gone, is not open
yet, or has too many that wait. -/
def write
    (worker : Worker)
    (id : ChannelId)
    (bytes : Bytes)
    (answers : List SocketAnswer) :
    Worker :=
  match worker.slots.find? id with
  | none => worker
  | some slot =>
      if slot.phase = .connecting then worker
      else
        let (outcome, buffer) := slot.buffer.queue bytes answers
        let worker := worker.alterSlot id { slot with buffer }
        match outcome with
        | .ok _ => worker
        | .error reason => worker.fail farewell id reason

/-- Reads a paused connection from now on, beginning with what is there. -/
def resume
    (worker : Worker)
    (id : ChannelId)
    (registration : Except String Unit)
    (arrivals : List Arrival) :
    Worker :=
  match worker.slots.find? id with
  | none => worker
  | some slot =>
      if slot.phase = .paused then
        match registration with
        | .error reason => worker.fail farewell id reason
        | .ok () =>
            (worker.alterSlot id { slot with phase := .active }).readAvailable farewell id arrivals
      else worker

/-- Closes a listener or a connection.  What is not there needs no closing. -/
def close
    (worker : Worker)
    (id : ChannelId)
    (ticket : Ticket)
    (deregistration : Except String Unit) :
    Worker :=
  if worker.listeners.contains id then
    { worker with listeners := worker.listeners.filter (· ≠ id) }.settle ticket
      (.ofOutcome deregistration)
  else
    match worker.slots.find? id with
    | none => worker.settle ticket .confirmed
    | some _ => (worker.closeSlot farewell id).settle ticket (.ofOutcome deregistration)

/-- Is told to stop. -/
def stop (worker : Worker) : Worker :=
  { worker with stage := .closing }

/-- Does what a command says. -/
def perform
    (worker : Worker)
    (surroundings : Surroundings) :
    Command → Worker
  | .connect id => worker.connect id surroundings.attempt
  | .adopt id => worker.adopt id surroundings.registration
  | .listen id => worker.listen id surroundings.registration
  | .write id bytes => worker.write surroundings.farewell id bytes surroundings.answers
  | .resume id =>
      worker.resume surroundings.farewell id surroundings.registration surroundings.arrivals
  | .close id ticket =>
      worker.close surroundings.farewell id ticket surroundings.deregistration
  | .shutdown => worker.stop

/-! ## Events -/

/-- An attempt to connect is decided.  The answer says whether the connection
is open. -/
def finishConnect
    (worker : Worker)
    (id : ChannelId)
    (slot : Slot) :
    Option (Except String Unit) → Bool × Worker
  | none => (false, worker)
  | some (.error reason) =>
      (false, { worker with slots := worker.slots.erase id }.refuse id reason)
  | some (.ok ()) =>
      let worker := worker.alterSlot id { slot with phase := .active }
      (true, (worker.alter id (·.markOpen)).tell id .established)

/-- Deals with an open connection that is ready for something. -/
def attend
    (worker : Worker)
    (id : ChannelId)
    (readiness : Readiness) :
    Worker :=
  match readiness.failure with
  | some reason => worker.fail readiness.farewell id reason
  | none =>
      let worker :=
        if readiness.writable then worker.flush readiness.farewell id readiness.answers
        else worker
      if readiness.readable then
        worker.readAvailable readiness.farewell id readiness.arrivals
      else worker

/-- The network reports something about a connection. -/
def event
    (worker : Worker)
    (id : ChannelId)
    (readiness : Readiness) :
    Worker :=
  match worker.slots.find? id with
  | none => worker
  | some slot =>
      if slot.phase = .connecting then
        match worker.finishConnect id slot readiness.attempt with
        | (true, worker) => worker.attend id readiness
        | (false, worker) => worker
      else worker.attend id readiness

/-! ## Life -/

/-- The network reports nothing any more, and the worker stops by itself. -/
def breakDown (worker : Worker) : Worker :=
  if worker.stage = .running then worker.stop else worker

/-- Sends a worker a command.  The answer says whether its queue is there. -/
def send
    (worker : Worker)
    (command : Command) :
    Bool × Worker :=
  if worker.stage = .ended then (false, worker)
  else (true, { worker with queue := worker.queue ++ [command] })

/-- Closes everything. -/
def closeAll (worker : Worker) : Worker :=
  { (worker.slots.entries.map (·.1)).foldl (closeSlot farewell) worker with
    listeners := [] }

/-- Gives up a command that nobody will follow. -/
def discard
    (worker : Worker) :
    Command → Worker
  | .close _ ticket => worker.settle ticket .abandoned
  | _ => worker

/-- Gives up a command while stopping.  Whoever wanted to connect is told. -/
def decline
    (worker : Worker) :
    Command → Worker
  | .connect id => worker.refuse id stoppedReason
  | command => worker.discard command

/-- The worker's next step of its own. -/
def advance
    (worker : Worker)
    (surroundings : Surroundings) :
    Worker :=
  match worker.stage, worker.queue with
  | .running, [] => worker
  | .running, command :: rest => perform { worker with queue := rest } surroundings command
  | .closing, _ => { worker.closeAll surroundings.farewell with stage := .draining }
  | .draining, [] => { worker with stage := .drained }
  | .draining, command :: rest => decline { worker with queue := rest } command
  | .drained, rest =>
      rest.foldl discard { worker with queue := [], stage := .ended }
  | .ended, _ => worker

/-- How many steps of its own a worker can still take. -/
def remaining (worker : Worker) : Nat :=
  match worker.stage with
  | .ended => 0
  | .drained => 1
  | .draining => worker.queue.length + 2
  | .closing => worker.queue.length + 3
  | .running => worker.queue.length + 4

end Worker

end LineProtocol
