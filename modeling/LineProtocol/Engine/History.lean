import LineProtocol.Engine.Worker

/-!
# The history of a worker

All that can happen to a worker is an `Act`: the engine pins connections to it
and sends it commands, the network reports to it, and it makes steps of its
own.  A history is a list of acts in any order.
-/

namespace LineProtocol

/-- Whether a connection is told nothing behind this. -/
def Callback.isLast : Callback → Bool
  | .connectFailed _ => true
  | .closed => true
  | _ => false

/-- The connection that a command brings to a worker. -/
def Command.opens? : Command → Option ChannelId
  | .connect id => some id
  | .adopt id => some id
  | _ => none

namespace Worker

/-- Something that happens to a worker. -/
inductive Act where
  /-- There is a new handle. -/
  | pin (id : ChannelId) (peer : Option SocketAddress)
  /-- The holder of a handle is about to ask for a close. -/
  | ask (id : ChannelId)
  | send (command : Command)
  /-- The worker makes its next step of its own. -/
  | advance (surroundings : Surroundings)
  /-- The network reports something about a connection. -/
  | event (id : ChannelId) (readiness : Readiness)
  /-- A listener fails to accept a connection. -/
  | stumble (listener : ChannelId) (reason : String)
  /-- The network reports nothing any more. -/
  | breakDown

/-- The command that is sent. -/
def Act.command? : Act → Option Command
  | .send command => some command
  | _ => none

/-- The connection that the engine brings. -/
def Act.opens? (act : Act) : Option ChannelId :=
  act.command?.bind (·.opens?)

/-- The accepted connection that the engine brings. -/
def Act.adopts? : Act → Option ChannelId
  | .send (.adopt id) => some id
  | _ => none

/-- What an act makes of a worker.  Where the queue is gone, whoever wanted to
connect is told at once. -/
def step (worker : Worker) : Act → Worker
  | .pin id peer => { worker with channels := worker.channels.insert id { id, peer } }
  | .ask id => worker.alter id (·.beginClose)
  | .send (.connect id) =>
      if worker.stage = .ended then worker.refuse id stoppedReason
      else (worker.send (.connect id)).2
  | .send command => (worker.send command).2
  | .advance surroundings => worker.advance surroundings
  | .event id readiness =>
      if worker.stage = .running then worker.event id readiness else worker
  | .stumble listener reason =>
      if worker.stage = .running ∧ listener ∈ worker.listeners then
        worker.complain listener reason
      else worker
  | .breakDown => worker.breakDown

/-- What a history makes of a worker. -/
def after
    (worker : Worker)
    (acts : List Act) :
    Worker :=
  acts.foldl step worker

/-- The steps of its own that a worker makes, each with the worker that makes
it. -/
def turns (worker : Worker) : List Act → List (Worker × Surroundings)
  | [] => []
  | .advance surroundings :: acts =>
      (worker, surroundings) :: (worker.step (.advance surroundings)).turns acts
  | act :: acts => (worker.step act).turns acts

/-- What the handler of a connection was told, in order. -/
def told
    (worker : Worker)
    (id : ChannelId) :
    List Callback :=
  (worker.callbacks.filter (·.1 = id)).map (·.2)

/-- The command that a running worker takes from its queue in its next step. -/
def takes? (worker : Worker) : Option Command :=
  if worker.stage = .running then worker.queue.head? else none

/-- The commands that a worker deals with in its next step of its own. -/
def deals (worker : Worker) : List Command :=
  match worker.stage with
  | .running => worker.queue.take 1
  | .closing => []
  | .draining => worker.queue.take 1
  | .drained => worker.queue
  | .ended => []

end Worker

end LineProtocol
