import LineProtocol.Server.Core
import LineProtocol.Server.Observed

/-!
# A server between two changes

Where a server listens is written down in three places: the core holds the listener, the
roster knows the bound address, and a cell shows it to everybody.  A job changes them one
after the other, and whoever watches the state or the address can look in between.  So a job
is taken apart here into its `Effect`s, in the order in which they happen.

Whether an address can be bound shows when it is tried, so what follows the attempt is not
known before: `follow` adds it.

While a job is under way, other threads do whatever they do: the transport works, messages
are dispatched, subscribers come and go.  They leave the listener, the roster and the address
alone.
-/

namespace LineProtocol

namespace ServerCore

/-- One change that a job makes, one publication, or one request of the transport. -/
inductive Effect where
  | note (notice : Notice)
  | bind (address : SocketAddress)
  /-- The core's listener is another one, or none. -/
  | hold (listener : Option Listener)
  | closeListener (listener : Listener)
  | announce (address : Option SocketAddress)
  | roster (effect : Roster.Effect)
  | resume (channel : ChannelId)
  | close (channel : ChannelId)
  | send (message : String) (target : Option Identity)
  | broadcast (message : String)
  /-- No message is taken in any more. -/
  | retire
  | stopTransport
  deriving Repr, DecidableEq

/-- What an effect makes of a core. -/
def apply (core : ServerCore) : Effect → ServerCore
  | .note notice => core.note notice
  | .bind address => { core with transport := (core.transport.bind address).2 }
  | .hold listener => { core with listener }
  | .closeListener listener =>
      { core with transport := (core.transport.closeListener listener).2 }
  | .announce address => core.announce address
  | .roster effect => { core with roster := core.roster.apply effect }
  | .resume channel => { core with transport := core.transport.resume channel }
  | .close channel => { core with transport := (core.transport.close channel).2 }
  | .send message target => core.send message target
  | .broadcast message => core.broadcast message
  | .retire => { core with crew := core.crew.stop }
  | .stopTransport => { core with transport := core.transport.stop }

/-- The listener that an effect binds. -/
def opens? (core : ServerCore) : Effect → Option Listener
  | .bind address => (core.transport.bind address).1.toOption
  | _ => none

/-- The listener that an effect closes. -/
def Effect.closes? : Effect → Option Listener
  | .closeListener listener => some listener
  | _ => none

/-- What follows an attempt to bind an address. -/
def follow (core : ServerCore) : Effect → List Effect
  | .bind address =>
      match (core.transport.bind address).1 with
      | .ok listener =>
          [.hold (some listener), .announce (some listener.address),
            .roster (.bind (some listener.address)), .roster .showState]
      | .error reason =>
          let cause := Fault.bind address reason
          [.note (.listenFailed cause), .roster (.blame cause), .roster .showState]
  | _ => []

/-- What is done to take somebody off the roster. -/
def strike
    (core : ServerCore)
    (identity : Identity)
    (channel : ChannelId) :
    List Effect :=
  match (core.roster.remove identity channel).1 with
  | none => []
  | some _ => [.roster (.strike identity), .roster .showState, .roster .showIdentities]

/-- What a job does, one thing after the other. -/
def effects (core : ServerCore) : ServerJob → List Effect
  | .listen port =>
      if core.roster.shuttingDown then [.note (.listenDuringShutdown port)]
      else
        match core.listener with
        | some listener => [.note (.alreadyListening listener.address port)]
        | none => [.bind { ip := core.bindIp, port }]
  | .join member =>
      match (core.roster.add member).1 with
      | .ok _ =>
          [.roster (.enrol member), .roster .showState, .roster .showIdentities,
            .resume member.channel]
      | .error cause =>
          [.note (.connectionRejected member.channel cause), .close member.channel]
  | .leave member => core.strike member.identity member.channel
  | .send message target => [.send message target]
  | .broadcast message => [.broadcast message]
  | .kick identity =>
      match core.roster.member? identity with
      | none => []
      | some member => core.strike identity member.channel ++ [.close member.channel]
  | .stopListening =>
      match core.listener with
      | none => []
      | some listener =>
          [.hold none, .closeListener listener, .announce none, .roster (.bind none),
            .roster .showState]
  | .beginShutdown =>
      [.roster (.shut true), .roster .showState] ++
        (match core.listener with
        | none => []
        | some listener => [.hold none, .closeListener listener]) ++
        [.roster .clear, .roster .showState, .roster .showIdentities] ++
          core.roster.toList.map fun member => .close member.channel
  | .finishShutdown =>
      .retire :: (if core.ownsTransport then [.stopTransport] else []) ++
        [.announce none, .roster (.shut false), .roster (.bind none), .roster .showState]

/-- What other threads leave alone: they read the roster and the address, and subscribe to
them, but change neither. -/
def Apart (core next : ServerCore) : Prop :=
  next.listener = core.listener ∧
    next.localAddress.value = core.localAddress.value ∧
      next.roster =
        { core.roster with
          state := { next.roster.state with value := core.roster.state.value }
          identities := { next.roster.identities with value := core.roster.identities.value } }

instance (core next : ServerCore) : Decidable (core.Apart next) :=
  inferInstanceAs (Decidable (_ ∧ _ ∧ _))

end ServerCore

/-- A server, what is left of the job that it is at, and what became of its listeners. -/
structure ServerMoment where
  core : ServerCore
  left : List ServerCore.Effect := []
  /-- Every listener that was bound, in order. -/
  opened : List Listener := []
  /-- Every listener that was closed, in order. -/
  closed : List Listener := []
  /-- A shutdown was begun, and its last job did not run yet. -/
  closing : Bool := false

/-- Whether a shutdown is under way behind a job. -/
def ServerJob.closing : ServerJob → Bool → Bool
  | .beginShutdown, _ => true
  | .finishShutdown, _ => false
  | _, before => before

namespace ServerMoment

/-- What can happen next. -/
inductive Event where
  /-- A job begins.  The one before is done. -/
  | take (job : ServerJob)
  /-- The job goes on by one effect. -/
  | work
  /-- Other threads went on. -/
  | elsewhere (core : ServerCore)

/-- What an event makes of it all, if it can happen.  The last job of a shutdown is handed in
when its first job is done. -/
def step? (moment : ServerMoment) : Event → Option ServerMoment
  | .take job =>
      if moment.left = [] ∧ (job = .finishShutdown → moment.closing = true) then
        some { moment with left := moment.core.effects job, closing := job.closing moment.closing }
      else none
  | .work =>
      match moment.left with
      | [] => none
      | effect :: left =>
          some
            { moment with
              core := moment.core.apply effect
              left := moment.core.follow effect ++ left
              opened := moment.opened ++ (moment.core.opens? effect).toList
              closed := moment.closed ++ effect.closes?.toList }
  | .elsewhere core =>
      if moment.core.Apart core then some { moment with core } else none

end ServerMoment

end LineProtocol
