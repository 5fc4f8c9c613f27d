import LineProtocol.Client.Core
import LineProtocol.Dispatch.Intake
import LineProtocol.Settings
import LineProtocol.Transport.Report

/-!
# A client in use

A session is a client together with everything around it: the user who calls
it, the transport that reports to it, and the handler that gets its messages.
Each step is one call or one report, followed by all that it sets off: first
the handler works off the messages that came, then the serial context runs the
jobs that wait.

`ClientSession.shutdown` shows the phases of a shutdown: a job that gives the
connection up, the wait for its close, and the last job.
-/

namespace LineProtocol

/-- What a handler can ask of its client. -/
inductive ClientAction where
  | send (message : String)
  | disconnect
  deriving Repr, DecidableEq

/-- The job that does what a handler asked for. -/
def ClientAction.job : ClientAction → ClientJob
  | .send message => .send message
  | .disconnect => .disconnect

/-- A client, its user, its transport and its handler. -/
structure ClientSession where
  context : ClientContext
  framing : Framing := {}
  intakes : Table ChannelId Intake := {}
  handler : String → Reaction ClientAction := fun _ => {}
  /-- The user still holds the client. -/
  held : Bool := true
  /-- What the handler was given. -/
  messages : List String := []
  /-- Notices from calls and reports themselves. -/
  notices : List Notice := []

namespace ClientSession

/-- What the system answers when a name is looked up. -/
inductive Lookup where
  | failed (reason : String)
  | found (addresses : List SocketAddress)
  deriving Repr, DecidableEq

/-- The address of a host.  One that is written as a literal is not looked up, and neither is
one that no name can be; of what is found for any other, the first address is taken. -/
def resolve
    (host : String)
    (port : UInt16)
    (lookup : Lookup) :
    Except Fault SocketAddress :=
  let target := host ++ ":" ++ toString port.toNat
  match IpAddress.parse? host with
  | some ip => .ok { ip, port }
  | none =>
      if host.contains '\x00' then
        .error (.resolve target "file name contained an unexpected NUL byte")
      else
        match lookup with
        | .failed reason => .error (.resolve target reason)
        | .found [] => .error (.noAddress target)
        | .found (address :: _) => .ok address

/-- A new client.  `names` are the names of its context and of its crew. -/
def start
    (names : String × String)
    (settings : ClientSettings)
    (transport : Transport)
    (handler : String → Reaction ClientAction) :
    ClientSession :=
  let machine : Machine := {}
  let core : ClientCore :=
    { machine := machine.subscribe
      encoder := settings.framing.encoder
      transport
      ownsTransport := settings.engine ≠ .shared
      crew := Crew.ofThreads names.2 settings.dispatchThreads }
  { context := { name := names.1, state := core }
    framing := settings.framing
    handler }

/-- What the client's jobs work on. -/
def core (session : ClientSession) : ClientCore :=
  session.context.state

/-- Changes what the client's jobs work on. -/
def alter
    (session : ClientSession)
    (change : ClientCore → ClientCore) :
    ClientSession :=
  { session with
    context := { session.context with state := change session.context.state } }

/-- Changes the transport. -/
def alterTransport
    (session : ClientSession)
    (change : Transport → Transport) :
    ClientSession :=
  session.alter fun core => { core with transport := change core.transport }

/-- Puts a notice into the log. -/
def note
    (session : ClientSession)
    (notice : Notice) :
    ClientSession :=
  { session with notices := session.notices ++ [notice] }

/-- Hands a job in. -/
def submit
    (session : ClientSession)
    (job : ClientJob) :
    Except Fault Unit × ClientSession :=
  let (outcome, context) := session.context.submit job
  (outcome, { session with context })

/-- Hands a job in if jobs are still taken. -/
def offer
    (session : ClientSession)
    (job : ClientJob) :
    ClientSession :=
  (session.submit job).2

/-! ## What a step sets off -/

/-- The handler is given one message and asks for what it wants done. -/
def handle
    (session : ClientSession)
    (message : String) :
    ClientSession :=
  (session.handler message).actions.foldl
    (fun session action => session.offer action.job)
    { session with messages := session.messages ++ [message] }

/-- The handler is given all messages that wait. -/
def handleAll (session : ClientSession) : ClientSession :=
  let waiting := session.core.crew.queue
  let worked := session.alter fun core =>
    { core with crew := core.crew.settle fun message => (session.handler message).outcome }
  waiting.foldl handle worked

/-- Everything that waits is done: messages, then jobs. -/
def settle (session : ClientSession) : ClientSession :=
  let session := session.handleAll
  { session with context := (session.context.settle ClientJob.craft).2 }

/-! ## Calls -/

/-- The user asks to connect.  The host is looked up before the job is handed
in. -/
def connect
    (session : ClientSession)
    (host : String)
    (port : UInt16)
    (lookup : Lookup) :
    Except Fault Unit × ClientSession :=
  if session.context.stopped then (.error .tornDown, session)
  else session.submit (.connect (resolve host port lookup))

/-- The first phase of a shutdown gives the connection up. -/
def beginShutdown (session : ClientSession) :
    Except Fault (Option Ticket) × ClientSession :=
  let (outcome, context) := session.context.call ClientJob.craft .disconnect
  (outcome, { session with context })

/-- The second phase waits for the close. -/
def awaitClose
    (session : ClientSession)
    (ticket : Ticket) :
    ClientSession :=
  match session.core.transport.outcome ticket with
  | .ok () => session
  | .error cause => session.note (.disconnectUnconfirmed cause)

/-- The last phase hands the last job in.  Somebody else may have done that. -/
def finishShutdown (session : ClientSession) : Except Fault Unit × ClientSession :=
  let (outcome, context) := session.context.finish ClientJob.craft .finish
  let session := { session with context }
  match outcome with
  | .error .tornDown => (.ok (), session)
  | .error cause => (.error cause, session)
  | .ok _ => (.ok (), session)

/-- The user asks for the client to be shut down. -/
def shutdown (session : ClientSession) : Except Fault Unit × ClientSession :=
  if session.context.stopped then (.ok (), session)
  else
    match session.beginShutdown with
    | (.error .tornDown, session) => (.ok (), session)
    | (.error cause, session) => (.error cause, session)
    | (.ok none, session) => session.finishShutdown
    | (.ok (some ticket), session) => (session.awaitClose ticket).finishShutdown

/-! ## Steps -/

/-- One call or one report. -/
inductive Step where
  /-- Connect, with what is planned for that: what the system answers if the host has to be
  looked up, why the transport fails at once, and whether it asks for a shutdown first. -/
  | connect
      (host : String)
      (port : UInt16)
      (lookup : Lookup)
      (failure : Option String)
      (reenters : Bool)
  | send (message : String)
  | disconnect
  | shutdown
  /-- The user lets the client go, which shuts it down. -/
  | drop
  /-- The transport reports something about a connection. -/
  | report (channel : ChannelId) (report : Report)
  | configure (closeMode : Option CloseMode) (refusesWrites : Option Bool)
  deriving Repr, DecidableEq

/-- How a step ended for whoever made it. -/
inductive Reply where
  | outcome (outcome : Except Fault Unit)
  /-- The user does not hold the client any more. -/
  | dropped
  /-- There is no such connection. -/
  | unknownChannel

/-- A call by the user. -/
def call
    (session : ClientSession)
    (action : ClientSession → Except Fault Unit × ClientSession) :
    Reply × ClientSession :=
  if session.held then
    let (outcome, session) := action session
    (.outcome outcome, session)
  else (.dropped, session)

/-- Octets arrive on a connection.  Its messages go to the handler; a frame
that is too long has the connection closed. -/
def read
    (session : ClientSession)
    (id : ChannelId)
    (chunk : Bytes) :
    ClientSession :=
  let intake := (session.intakes.find? id).getD (.ofFraming session.framing)
  let (delivery, after) := intake.read chunk
  let session :=
    delivery.faults.foldl (fun session fault => session.note (Intake.noticeOf id fault))
      { session with intakes := session.intakes.insert id after }
  let session := session.alter fun core =>
    { core with
      crew := delivery.messages.foldl (fun crew message => (crew.dispatch message).2)
        core.crew }
  if after.closing && !intake.closing then
    session.alterTransport fun transport => (transport.close id).2
  else session

/-- The client's transport reports something about a connection. -/
def hear
    (session : ClientSession)
    (channel : Channel) :
    Report → ClientSession
  | .established _ => session.offer (.established channel.id)
  | .connectFailed reason _ =>
      let cause :=
        match channel.peer with
        | some address => Fault.connect address reason
        | none => .transport reason
      session.offer (.connectFailed channel.id cause)
  | .read chunk => session.read channel.id chunk
  | .broke reason => session.offer (.broke channel.id (.transport reason))
  | .closed _ =>
      (session.offer (.closed channel.id)).alterTransport
        (·.settle (· = channel.id) .confirmed)

/-- The call or report of a step. -/
def perform (session : ClientSession) : Step → Reply × ClientSession
  | .connect host port lookup failure reenters =>
      let planned := session.alterTransport fun transport =>
        { transport with failure, reenters := transport.reenters || reenters }
      planned.call (·.connect host port lookup)
  | .send message => session.call (·.submit (.send message))
  | .disconnect => session.call (·.submit .disconnect)
  | .shutdown => session.call (·.shutdown)
  | .drop =>
      session.call fun session => (.ok (), { session.shutdown.2 with held := false })
  | .report id report =>
      match session.core.transport.channel? id with
      | none => (.unknownChannel, session)
      | some channel =>
          (.outcome (.ok ()),
            (session.alterTransport (·.alter id report.mark)).hear channel report)
  | .configure closeMode refusesWrites =>
      (.outcome (.ok ()),
        session.alterTransport (·.configured closeMode refusesWrites))

/-! ## What a step shows -/

/-- What was written down about a client: what a watcher of its first subscription was
sent, what the transport was asked for, what the handler was given, and the logs. -/
structure Record where
  states : List ConnectionState
  calls : List Call
  messages : List String
  /-- The log of calls and reports. -/
  ofSession : List Notice
  ofHandler : List Notice
  ofJobs : List Notice
  ofContext : List Notice
  deriving DecidableEq

/-- The whole log. -/
def Record.log (record : Record) : List Notice :=
  record.ofSession ++ record.ofHandler ++ record.ofJobs ++ record.ofContext

/-- What a record has beyond an earlier one. -/
def Record.since (record earlier : Record) : Record where
  states := record.states.drop earlier.states.length
  calls := record.calls.drop earlier.calls.length
  messages := record.messages.drop earlier.messages.length
  ofSession := record.ofSession.drop earlier.ofSession.length
  ofHandler := record.ofHandler.drop earlier.ofHandler.length
  ofJobs := record.ofJobs.drop earlier.ofJobs.length
  ofContext := record.ofContext.drop earlier.ofContext.length

/-- What was written down so far. -/
def record (session : ClientSession) : Record where
  states := (session.core.machine.cell.drain 0).1
  calls := session.core.transport.calls
  messages := session.messages
  ofSession := session.notices
  ofHandler := session.core.crew.notices
  ofJobs := session.core.notices
  ofContext := session.context.notices

/-- What can be seen of one step. -/
structure Entry where
  reply : Reply
  /-- The state, while the client is held. -/
  state : Option ConnectionState
  /-- What the step added to the record. -/
  record : Record

/-- Makes one step with all that it sets off, and shows it. -/
def step
    (session : ClientSession)
    (action : Step) :
    Entry × ClientSession :=
  let (reply, acted) := session.perform action
  let after := acted.settle
  ({ reply
     state := if after.held then some after.core.machine.current else none
     record := after.record.since session.record },
    after)

end ClientSession

end LineProtocol
