import LineProtocol.Connection.Machine
import LineProtocol.Dispatch.Crew
import LineProtocol.Frame.Encoder
import LineProtocol.Serial.Basic
import LineProtocol.Transport.Basic

/-!
# What a client does

A client has at most one connection at a time.  Everything that it does is a
job of its serial context: what its user asks for, and what its transport
reports.  Each job is one function on `ClientCore`, which holds the state
machine, the channel of the current connection, and all that the client's own
threads share.

Reports carry the number of the channel that they are about.  One about a
channel that is not the current one comes too late to matter and changes
nothing.
-/

namespace LineProtocol

/-- What a client's jobs work on. -/
structure ClientCore where
  machine : Machine := {}
  /-- The channel of the connection that the client has or is making. -/
  channel : Option ChannelId := none
  encoder : Encoder := {}
  transport : Transport := {}
  /-- The transport is the client's own and stops with it. -/
  ownsTransport : Bool := false
  crew : Crew String
  notices : List Notice := []

/-- What a client can be asked to do, and what can be reported to it. -/
inductive ClientJob where
  | connect (target : Except Fault SocketAddress)
  | send (message : String)
  | disconnect
  | established (channel : ChannelId)
  | connectFailed (channel : ChannelId) (cause : Fault)
  | broke (channel : ChannelId) (cause : Fault)
  | closed (channel : ChannelId)
  /-- The last job of a client. -/
  | finish

namespace ClientCore

/-- Whether a channel is that of the current connection. -/
def isCurrent
    (core : ClientCore)
    (id : ChannelId) :
    Bool :=
  core.channel = some id

/-- Puts a notice into the log. -/
def note
    (core : ClientCore)
    (notice : Notice) :
    ClientCore :=
  { core with notices := core.notices ++ [notice] }

/-- Lets an event happen if it has a place in the state. -/
def advance
    (core : ClientCore)
    (event : ConnectionEvent) :
    ClientCore :=
  { core with machine := core.machine.advance event }

/-- Starts a connection to a target that was looked up before.  A transport
that fails at once reports that like any other failure, behind what already
waits. -/
def connect
    (core : ClientCore)
    (target : Except Fault SocketAddress) :
    ClientCore × List ClientJob :=
  match core.machine.apply .connectRequested with
  | (.error cause, _) => (core.note (.connectIgnored cause), [])
  | (.ok _, machine) =>
      let core := { core with machine }
      match target with
      | .error cause =>
          ((core.note (.connectFailed cause)).advance (.connectFailed cause), [])
      | .ok address =>
          let (id, failure, transport) := core.transport.connect address
          ({ core with channel := some id, transport },
            failure.toList.map fun reason => .connectFailed id (.connect address reason))

/-- The transport reports the connection as open. -/
def established
    (core : ClientCore)
    (id : ChannelId) :
    ClientCore :=
  if core.isCurrent id then core.advance .established else core

/-- The transport reports that there will be no connection. -/
def connectFailed
    (core : ClientCore)
    (id : ChannelId)
    (cause : Fault) :
    ClientCore :=
  if core.isCurrent id then
    let core := { core with channel := none }.note (.connectFailed cause)
    if core.machine.current = .disconnecting then core.advance .closed
    else core.advance (.connectFailed cause)
  else core

/-- The transport reports that the connection broke. -/
def broke
    (core : ClientCore)
    (id : ChannelId)
    (cause : Fault) :
    ClientCore :=
  if core.isCurrent id then
    (core.note (.connectionBroke id cause)).advance (.broke cause)
  else core

/-- The transport reports the connection as closed. -/
def closed
    (core : ClientCore)
    (id : ChannelId) :
    ClientCore :=
  if core.isCurrent id then { core with channel := none }.advance .closed else core

/-- Sends a message, if there is a connection. -/
def send
    (core : ClientCore)
    (message : String) :
    ClientCore :=
  match core.machine.current, core.channel with
  | .connected, some id =>
      let (frame, encoder) := core.encoder.encode message
      let (outcome, transport) := core.transport.write id frame
      let core := { core with encoder, transport }
      match outcome with
      | .ok () => core
      | .error cause => core.note (.sendRefused cause)
  | state, _ => core.note (.sendUnconnected state.name)

/-- Gives the connection up.  There is something to wait for if there is a
connection that was not given up before. -/
def disconnect (core : ClientCore) : Option Ticket × ClientCore :=
  match core.machine.current with
  | .disconnected => (none, core)
  | .disconnecting => (none, core)
  | _ =>
      let core := core.advance .disconnectRequested
      match core.channel with
      | some id =>
          let (ticket, transport) := core.transport.close id
          (some ticket, { core with transport })
      | none => (none, core.advance .closed)

/-- Ends the client: whatever state it is in, it is disconnected afterwards,
no message is taken in any more, and a transport of its own is stopped. -/
def finish (core : ClientCore) : ClientCore :=
  let core :=
    if core.machine.current = .disconnected then core
    else
      ({ core with channel := none }.advance .disconnectRequested).advance .closed
  { core with
    crew := core.crew.stop
    transport := if core.ownsTransport then core.transport.stop else core.transport }

end ClientCore

namespace ClientJob

/-- Runs a job.  The answer is what there is to wait for. -/
def run
    (stopped : Bool) :
    ClientJob → ClientCore → Ran ClientCore ClientJob (Option Ticket)
  | .connect target, core =>
      let (state, reports) := core.connect target
      { state, submitted := if stopped then [] else reports, answer := some none }
  | .send message, core => { state := core.send message, answer := some none }
  | .disconnect, core =>
      let (ticket, state) := core.disconnect
      { state, answer := some ticket }
  | .established id, core => { state := core.established id, answer := some none }
  | .connectFailed id cause, core =>
      { state := core.connectFailed id cause, answer := some none }
  | .broke id cause, core => { state := core.broke id cause, answer := some none }
  | .closed id, core => { state := core.closed id, answer := some none }
  | .finish, core => { state := core.finish, answer := some none }

/-- A connect can lead to one report; no other job leads to anything. -/
def weight : ClientJob → Nat
  | .connect _ => 2
  | _ => 1

theorem weight_reports
    (core : ClientCore)
    (target : Except Fault SocketAddress) :
    total ((core.connect target).2.map weight) < 2 := by
  unfold ClientCore.connect
  split
  · simp
  · split
    · simp
    · rename_i address
      rcases made : core.transport.connect address with ⟨id, failure, transport⟩
      cases failure <;> simp [weight, made]

theorem submitted_lighter
    (stopped : Bool)
    (job : ClientJob)
    (core : ClientCore) :
    total ((run stopped job core).submitted.map weight) < job.weight := by
  cases job with
  | connect target =>
      cases stopped
      · exact weight_reports core target
      · simp [run, weight]
  | _ => simp [run, weight]

/-- How a client's serial context runs its jobs. -/
def craft : Craft ClientCore ClientJob (Option Ticket) where
  run := run
  weight := weight
  lighter := submitted_lighter

end ClientJob

/-- A client's serial context. -/
abbrev ClientContext := Serial ClientCore ClientJob

end LineProtocol
