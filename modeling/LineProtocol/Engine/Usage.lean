import LineProtocol.Engine.Group
import LineProtocol.Engine.History

/-!
# An engine in use

Whoever connects gets a handle, and so does whoever accepts: the application is
shown the handle on an accepted connection before the connection is handed to
its worker.  From then on the handle can be used by anybody, at any time and from
anywhere.

A `Usage` is an engine together with who can do what with it.  A worker that
accepts a connection does nothing else until the application has seen the handle.
-/

namespace LineProtocol

/-- An engine and what its users hold. -/
structure Usage where
  engine : Engine
  /-- The connections that there are handles on. -/
  held : List ChannelId := []
  listeners : List Listener := []
  /-- The accepted connections that the application is being shown, each with the
  worker that accepted it. -/
  offered : List (ChannelId × Nat) := []
  /-- The requests to close that were made. -/
  closes : List (ChannelId × Ticket) := []
  deriving Repr, DecidableEq

namespace Usage

/-- What users, the network and the workers do. -/
inductive Event where
  | connect (address : SocketAddress)
  | bind (address : SocketAddress)
  /-- A listener accepts a connection, and the application is shown the handle. -/
  | accept (listener : ChannelId) (peer : SocketAddress)
  /-- The application has seen the handle, and the connection goes to its worker. -/
  | hand (channel : ChannelId)
  | write (channel : ChannelId) (bytes : Bytes)
  | resume (channel : ChannelId)
  | close (channel : ChannelId)
  | closeListener (listener : Listener)
  | shutdown
  /-- A worker makes its next step of its own. -/
  | advance (index : Nat) (surroundings : Surroundings)
  /-- The network reports something about a connection. -/
  | report (channel : ChannelId) (readiness : Readiness)
  /-- A listener fails to accept a connection. -/
  | stumble (listener : ChannelId) (reason : String)
  /-- The network reports nothing to a worker any more. -/
  | breakDown (index : Nat)

/-- An engine that nobody has used. -/
def start (settings : EngineSettings) : Usage :=
  { engine := .start settings }

/-- Whether a worker waits until the application has seen a handle. -/
def isBusy
    (usage : Usage)
    (index : Nat) :
    Bool :=
  usage.offered.any (·.2 = index)

/-- Whether a listener can accept a connection now. -/
def accepts
    (usage : Usage)
    (listener : ChannelId) :
    Bool :=
  match usage.engine.workers[usage.engine.home listener]? with
  | none => false
  | some worker =>
      worker.stage = .running && listener ∈ worker.listeners &&
        !usage.isBusy (usage.engine.home listener)

/-- Writes down who asked for a close. -/
def noted
    (usage : Usage)
    (id : ChannelId)
    (asked : Ticket × Engine) :
    Usage :=
  { usage with engine := asked.2, closes := usage.closes ++ [(id, asked.1)] }

/-- What an event makes of it all, if it can happen. -/
def step? (usage : Usage) : Event → Option Usage
  | .connect address =>
      let (id, engine) := usage.engine.connect address
      some { usage with engine, held := usage.held ++ [id] }
  | .bind address =>
      match usage.engine.bind address with
      | (.ok listener, engine) =>
          some { usage with engine, listeners := usage.listeners ++ [listener] }
      | (.error _, engine) => some { usage with engine }
  | .accept listener peer =>
      if usage.accepts listener then
        let (id, engine) := usage.engine.accept peer
        some
          { usage with
            engine
            held := usage.held ++ [id]
            offered := usage.offered ++ [(id, usage.engine.home listener)] }
      else none
  | .hand id =>
      if id ∈ usage.offered.map (·.1) then
        some
          { usage with
            engine := usage.engine.adopt id
            offered := usage.offered.filter (·.1 ≠ id) }
      else none
  | .write id bytes =>
      if id ∈ usage.held then some { usage with engine := (usage.engine.write id bytes).2 }
      else none
  | .resume id =>
      if id ∈ usage.held then some { usage with engine := usage.engine.resume id } else none
  | .close id =>
      if id ∈ usage.held then some (usage.noted id (usage.engine.close id)) else none
  | .closeListener listener =>
      if listener ∈ usage.listeners then
        some (usage.noted listener.id (usage.engine.closeListener listener))
      else none
  | .shutdown => some { usage with engine := usage.engine.shutdown }
  | .advance index surroundings =>
      if usage.isBusy index then none
      else some { usage with engine := usage.engine.advance index surroundings }
  | .report id readiness =>
      if usage.isBusy (usage.engine.home id) then none
      else some { usage with engine := usage.engine.event id readiness }
  | .stumble listener reason =>
      if usage.accepts listener then
        some { usage with engine := usage.engine.failAccept listener reason }
      else none
  | .breakDown index =>
      if usage.isBusy index then none
      else some { usage with engine := usage.engine.breakDown index }

/-- What the handler of a connection was told by any worker. -/
def told
    (usage : Usage)
    (id : ChannelId) :
    List Callback :=
  usage.engine.workers.flatMap (·.told id)

end Usage

end LineProtocol
