import LineProtocol.Dispatch.Intake
import LineProtocol.Dispatch.Reaction
import LineProtocol.Server.Core
import LineProtocol.Settings
import LineProtocol.Transport.Report

/-!
# A server in use

A session is a server together with everything around it: the user who calls
it, the transport that reports to it, and the handler that gets its messages.
Each step is one call or one report, followed by all that it sets off: first
the handler works off the messages that came, then the serial context runs the
jobs that wait.

Whoever writes down what to do in advance cannot know the tokens that the
server will make up.  A `Target` may therefore be a connection.  It stands for
the connection's name, or else for the first token that was seen, in a list or
with a message, in a step that was about this connection.
-/

namespace LineProtocol

/-- Whom a message is for, or who is to be kicked. -/
inductive Target where
  /-- The client whose message is handled. -/
  | sender
  | client (identity : Identity)
  | connection (channel : ChannelId)
  deriving Repr, DecidableEq

/-- What a handler can ask of its server. -/
inductive ServerAction where
  | send (message : String) (target : Option Target)
  | broadcast (message : String)
  | kick (target : Target)
  deriving Repr, DecidableEq

/-- The handler that sends each message back to where it came from. -/
def echo (message : String) : Reaction ServerAction :=
  { actions := [.send message (some .sender)] }

/-- The job that does what a handler asked for. -/
def ServerAction.job
    (identityOf : Target → Identity) :
    ServerAction → ServerJob
  | .send message target => .send message (target.map identityOf)
  | .broadcast message => .broadcast message
  | .kick target => .kick (identityOf target)

/-- The server's side of a connection. -/
structure Link where
  identity : Identity
  intake : Intake := {}
  deriving Repr, DecidableEq

/-- A server, its user, its transport and its handler. -/
structure ServerSession where
  context : ServerContext
  framing : Framing := {}
  /-- How identities are found, given what the application calls the peer. -/
  policy : Option String → IdentityPolicy := fun _ => .generated
  /-- What tokens are made from, together with the connection's number. -/
  seed : Nat := 0
  links : Table ChannelId Link := {}
  handler : String → Reaction ServerAction := fun _ => {}
  /-- The user still holds the server. -/
  held : Bool := true
  /-- The first token seen in a step about each connection. -/
  seen : Table ChannelId Identity := {}
  /-- What the handler was given. -/
  messages : List Parcel := []
  /-- Notices from calls and reports themselves. -/
  notices : List Notice := []

namespace ServerSession

/-- A new server.  `names` are the names of its context and of its crew. -/
def start
    (names : String × String)
    (settings : ServerSettings)
    (policy : Option String → IdentityPolicy)
    (seed : Nat)
    (transport : Transport)
    (handler : String → Reaction ServerAction) :
    ServerSession :=
  let core : ServerCore :=
    { roster := .watched
      localAddress := Cell.subscribe { value := none }
      bindIp := settings.bindIp
      encoder := settings.framing.encoder
      transport
      ownsTransport := settings.engine ≠ .shared
      crew := Crew.ofThreads names.2 settings.dispatchThreads }
  { context := { name := names.1, state := core }
    framing := settings.framing
    policy
    seed
    handler }

/-- What the server's jobs work on. -/
def core (session : ServerSession) : ServerCore :=
  session.context.state

/-- Changes what the server's jobs work on. -/
def alter
    (session : ServerSession)
    (change : ServerCore → ServerCore) :
    ServerSession :=
  { session with
    context := { session.context with state := change session.context.state } }

/-- Changes the transport. -/
def alterTransport
    (session : ServerSession)
    (change : Transport → Transport) :
    ServerSession :=
  session.alter fun core => { core with transport := change core.transport }

/-- Puts a notice into the log. -/
def note
    (session : ServerSession)
    (notice : Notice) :
    ServerSession :=
  { session with notices := session.notices ++ [notice] }

/-- Hands a job in. -/
def submit
    (session : ServerSession)
    (job : ServerJob) :
    Except Fault Unit × ServerSession :=
  let (outcome, context) := session.context.submit job
  (outcome, { session with context })

/-- Hands a job in if jobs are still taken. -/
def offer
    (session : ServerSession)
    (job : ServerJob) :
    ServerSession :=
  (session.submit job).2

/-- The identity that a target stands for.  A connection that nothing is known
of stands for a name that nobody has. -/
def identityOf
    (session : ServerSession)
    (sender : Identity) :
    Target → Identity
  | .sender => sender
  | .client identity => identity
  | .connection id =>
      match (session.links.find? id).filter (·.identity.isNamed) with
      | some link => link.identity
      | none => (session.seen.find? id).getD (.named "?")

/-- The connection that a made-up identity was made for. -/
def madeFor?
    (session : ServerSession)
    (identity : Identity) :
    Option ChannelId :=
  if identity.isNamed then none
  else (session.links.entries.find? (·.2.identity = identity)).map (·.1)

/-- A text with the connection's number in place of each made-up token, so that
it does not depend on how tokens are made. -/
def withoutTokens
    (session : ServerSession)
    (text : String) :
    String :=
  session.links.entries.foldl
    (fun text entry =>
      if entry.2.identity.isNamed then text
      else
        text.replace entry.2.identity.text ("<token " ++ toString entry.1.number ++ ">"))
    text

/-! ## What a step sets off -/

/-- The handler is given one message and asks for what it wants done. -/
def handle
    (session : ServerSession)
    (parcel : Parcel) :
    ServerSession :=
  (session.handler parcel.text).actions.foldl
    (fun session action => session.offer (action.job (session.identityOf parcel.sender)))
    { session with messages := session.messages ++ [parcel] }

/-- The handler is given all messages that wait. -/
def handleAll (session : ServerSession) : ServerSession :=
  let waiting := session.core.crew.queue
  let worked := session.alter fun core =>
    { core with crew := core.crew.settle fun parcel => (session.handler parcel.text).outcome }
  waiting.foldl handle worked

/-- Everything that waits is done: messages, then jobs. -/
def settle (session : ServerSession) : ServerSession :=
  let session := session.handleAll
  { session with context := (session.context.settle ServerJob.craft).2 }

/-! ## Calls -/

/-- The first phase of a shutdown closes everything. -/
def beginShutdown (session : ServerSession) :
    Except Fault (List Closing) × ServerSession :=
  let (outcome, context) := session.context.call ServerJob.craft .beginShutdown
  (outcome, { session with context })

/-- The second phase waits for each close. -/
def awaitClose
    (session : ServerSession)
    (closing : Closing) :
    ServerSession :=
  match session.core.transport.outcome closing.ticket with
  | .ok () => session
  | .error cause => session.note (.closeUnconfirmed closing.resource cause)

/-- The last phase hands the last job in.  Somebody else may have done that. -/
def finishShutdown (session : ServerSession) : Except Fault Unit × ServerSession :=
  let (outcome, context) := session.context.finish ServerJob.craft .finishShutdown
  let session := { session with context }
  match outcome with
  | .error .tornDown => (.ok (), session)
  | .error cause => (.error cause, session)
  | .ok _ => (.ok (), session)

/-- The user asks for the server to be shut down. -/
def shutdown (session : ServerSession) : Except Fault Unit × ServerSession :=
  if session.context.stopped then (.ok (), session)
  else
    match session.beginShutdown with
    | (.error .tornDown, session) => (.ok (), session)
    | (.error cause, session) => (.error cause, session)
    | (.ok closings, session) => (closings.foldl awaitClose session).finishShutdown

/-! ## Reports -/

/-- The listener that was bound last accepts a connection. -/
def accept
    (session : ServerSession)
    (peer : Option SocketAddress)
    (name : Option String) :
    ChannelId × ServerSession :=
  let (id, transport) := session.core.transport.newId
  let token := Token.ofSeed (session.seed + id.number)
  let identity := (session.policy name).identify token peer
  let link : Link := { identity, intake := .ofFraming session.framing }
  let session := session.alterTransport fun _ => transport.adopt { id, peer }
  (id, { session with links := session.links.insert id link })

/-- An accepted connection is open.  It is closed again where nobody is left to
let it join. -/
def established
    (session : ServerSession)
    (id : ChannelId)
    (identity : Identity) :
    ServerSession :=
  match session.submit (.join { identity, channel := id }) with
  | (.ok (), session) => session
  | (.error _, session) => session.alterTransport fun transport => (transport.close id).2

/-- Octets arrive on a connection.  Its messages go to the handler; a frame
that is too long has the connection closed. -/
def read
    (session : ServerSession)
    (id : ChannelId)
    (link : Link)
    (chunk : Bytes) :
    ServerSession :=
  let (delivery, intake) := link.intake.read chunk
  let session :=
    delivery.faults.foldl (fun session fault => session.note (Intake.noticeOf id fault))
      { session with links := session.links.insert id { link with intake } }
  let session := session.alter fun core =>
    { core with
      crew := delivery.messages.foldl
        (fun crew text => (crew.dispatch { sender := link.identity, text }).2)
        core.crew }
  if intake.closing && !link.intake.closing then
    session.alterTransport fun transport => (transport.close id).2
  else session

/-! ## Steps -/

/-- One call or one report. -/
inductive Step where
  /-- Listen, with what is planned for that: why binding fails, and whether the
  transport asks for a shutdown first. -/
  | listen (port : UInt16) (failure : Option String) (reenters : Bool)
  | stopListening
  | send (message : String) (target : Option Target)
  | broadcast (message : String)
  | kick (target : Target)
  | shutdown
  /-- The user lets the server go, which shuts it down. -/
  | drop
  /-- A peer connects, whom the application may have a name for. -/
  | accept (peer : Option SocketAddress) (name : Option String)
  /-- A peer connects and the connection is open at once. -/
  | join (peer : Option SocketAddress) (name : Option String)
  | acceptFailed (reason : String)
  /-- The transport reports something about a connection. -/
  | report (channel : ChannelId) (report : Report)
  | configure (closeMode : Option CloseMode) (refusesWrites : Option Bool)
  /-- An identity is written down for a connection, if none was. -/
  | learn (channel : ChannelId) (identity : Identity)
  deriving Repr, DecidableEq

/-- The connection that a step is a report about. -/
def Step.channel? : Step → Option ChannelId
  | .report id _ => some id
  | _ => none

/-- How a step ended for whoever made it. -/
inductive Reply where
  | outcome (outcome : Except Fault Unit)
  | accepted (channel : ChannelId)
  /-- The user does not hold the server any more. -/
  | dropped
  /-- There is no such connection. -/
  | unknownChannel
  /-- No listener was ever bound. -/
  | noListener

/-- A call by the user. -/
def call
    (session : ServerSession)
    (action : ServerSession → Except Fault Unit × ServerSession) :
    Reply × ServerSession :=
  if session.held then
    let (outcome, session) := action session
    (.outcome outcome, session)
  else (.dropped, session)

/-- The server's transport reports something about a connection. -/
def hear
    (session : ServerSession)
    (id : ChannelId)
    (link : Link) :
    Report → ServerSession
  | .established _ => session.established id link.identity
  | .read chunk => session.read id link chunk
  | .closed _ =>
      let member : Member := { identity := link.identity, channel := id }
      (session.offer (.leave member)).alterTransport (·.settle (· = id) .confirmed)
  | _ => session

/-- The same for a connection that need not exist. -/
def report
    (session : ServerSession)
    (id : ChannelId)
    (report : Report) :
    Reply × ServerSession :=
  match session.links.find? id with
  | none => (.unknownChannel, session)
  | some link =>
      (.outcome (.ok ()),
        (session.alterTransport (·.alter id report.mark)).hear id link report)

/-- A report about the listener that was bound last, which may be closed by
now. -/
def reportListener
    (session : ServerSession)
    (action : Reply × ServerSession) :
    Reply × ServerSession :=
  if session.core.transport.listeners.isEmpty then (.noListener, session) else action

/-- The call or report of a step. -/
def perform (session : ServerSession) : Step → Reply × ServerSession
  | .listen port failure reenters =>
      let planned := session.alterTransport fun transport =>
        { transport with failure, reenters := transport.reenters || reenters }
      planned.call (·.submit (.listen port))
  | .stopListening => session.call (·.submit .stopListening)
  | .send message target =>
      session.call
        (·.submit (.send message (target.map (session.identityOf (.named "?")))))
  | .broadcast message => session.call (·.submit (.broadcast message))
  | .kick target =>
      session.call (·.submit (.kick (session.identityOf (.named "?") target)))
  | .shutdown => session.call (·.shutdown)
  | .drop =>
      session.call fun session => (.ok (), { session.shutdown.2 with held := false })
  | .accept peer name =>
      let (id, accepted) := session.accept peer name
      session.reportListener (.accepted id, accepted)
  | .join peer name =>
      let (id, accepted) := session.accept peer name
      let joined := accepted.report id (.established true)
      session.reportListener (.accepted id, joined.2)
  | .acceptFailed reason =>
      session.reportListener (.outcome (.ok ()), session.note (.acceptFailed reason))
  | .report id report => session.report id report
  | .configure closeMode refusesWrites =>
      (.outcome (.ok ()),
        session.alterTransport (·.configured closeMode refusesWrites))
  | .learn id identity =>
      if (session.seen.find? id).isSome then (.outcome (.ok ()), session)
      else (.outcome (.ok ()), { session with seen := session.seen.insert id identity })

/-! ## What a step shows -/

/-- What was written down about a server: what a watcher of all that it publishes was sent,
what the transport was asked for, what the handler was given, and the logs. -/
structure Record where
  states : List ListeningState
  /-- The lists of clients that were published. -/
  lists : List (List Identity)
  addresses : List (Option SocketAddress)
  calls : List Call
  messages : List Parcel
  /-- The log of calls and reports. -/
  ofSession : List Notice
  ofHandler : List Notice
  ofJobs : List Notice
  ofContext : List Notice
  deriving DecidableEq

/-- The whole log. -/
def Record.log (record : Record) : List Notice :=
  record.ofSession ++ record.ofHandler ++ record.ofJobs ++ record.ofContext

/-- What a record has beyond an earlier one. -/
def Record.since (record earlier : Record) : Record where
  states := record.states.drop earlier.states.length
  lists := record.lists.drop earlier.lists.length
  addresses := record.addresses.drop earlier.addresses.length
  calls := record.calls.drop earlier.calls.length
  messages := record.messages.drop earlier.messages.length
  ofSession := record.ofSession.drop earlier.ofSession.length
  ofHandler := record.ofHandler.drop earlier.ofHandler.length
  ofJobs := record.ofJobs.drop earlier.ofJobs.length
  ofContext := record.ofContext.drop earlier.ofContext.length

/-- What was written down so far. -/
def record (session : ServerSession) : Record where
  states := (session.core.roster.state.drain 0).1
  lists := (session.core.roster.identities.drain 0).1
  addresses := (session.core.localAddress.drain 0).1
  calls := session.core.transport.calls
  messages := session.messages
  ofSession := session.notices
  ofHandler := session.core.crew.notices
  ofJobs := session.core.notices
  ofContext := session.context.notices

/-- What can be seen of one step. -/
structure Entry where
  reply : Reply
  /-- The state, while the server is held. -/
  state : Option ListeningState
  /-- The clients, while the server is held. -/
  clients : Option (List Identity)
  address : Option SocketAddress
  /-- What the step added to the record. -/
  record : Record

/-- The connection that a step was about. -/
def about?
    (action : Step) :
    Reply → Option ChannelId
  | .accepted id => some id
  | _ => action.channel?

/-- Remembers the first token that was seen in a step about a connection. -/
def remember
    (session : ServerSession)
    (about : Option ChannelId)
    (shown : List Identity) :
    ServerSession :=
  match about, shown.find? (!·.isNamed) with
  | some id, some identity => (session.perform (.learn id identity)).2
  | _, _ => session

/-- Makes one step with all that it sets off, and shows it. -/
def step
    (session : ServerSession)
    (action : Step) :
    Entry × ServerSession :=
  let (reply, acted) := session.perform action
  let after := acted.settle
  let record := after.record.since session.record
  ({ reply
     state := if after.held then some after.core.roster.state.value else none
     clients := if after.held then some after.core.roster.identities.value else none
     address := after.core.localAddress.value
     record },
    after.remember (about? action reply)
      (record.lists.flatten ++ record.messages.map (·.sender)))

end ServerSession

end LineProtocol
