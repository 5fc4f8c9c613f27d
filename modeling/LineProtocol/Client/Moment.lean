import LineProtocol.Client.Session

/-!
# A client while a connection is asked for

The job that connects asks the transport for a channel, and holds the channel once the
transport has answered.  But the transport has the handler of the new channel from the moment
it is asked.  It may report on the channel from inside the request, as one that was stopped
does, or from a thread of its own, while the client still holds another channel or none.  All
that a report does is to hand a job in, and that job waits until the job that asked is done.

A `ClientMoment` is a client between two steps of its threads.  Handing a job in takes two
steps, the look whether jobs are taken and the entry into the queue, and so does asking for a
connection.  What is read goes to the handler's crew and is no job.
-/

namespace LineProtocol

/-- Whether a job is asked for by the user or by a message handler. -/
def ClientJob.isRequest : ClientJob → Bool
  | .connect _ | .send _ | .disconnect => true
  | _ => false

/-- The job that a channel's handler hands in when something is reported. -/
def Report.job?
    (id : ChannelId)
    (address : SocketAddress) :
    Report → Option ClientJob
  | .established _ => some (.established id)
  | .connectFailed reason _ => some (.connectFailed id (.connect address reason))
  | .read _ => none
  | .broke reason => some (.broke id (.transport reason))
  | .closed _ => some (.closed id)

/-- A client between two steps of its threads. -/
structure ClientMoment where
  context : ClientContext
  /-- The channel that the transport was asked for and did not answer with yet. -/
  entered : Option ChannelId := none
  /-- The handlers that the transport has, each by the address that it was made for. -/
  handlers : Table ChannelId SocketAddress := {}
  /-- The jobs of those who have seen that jobs are taken. -/
  cleared : List ClientJob := []
  /-- What whoever has stopped the taking of jobs still puts into the queue. -/
  ending : List (Envelope ClientJob) := []

namespace ClientMoment

/-- What the client's jobs work on. -/
def core (moment : ClientMoment) : ClientCore :=
  moment.context.state

/-- Changes what the client's jobs work on. -/
def alter
    (moment : ClientMoment)
    (change : ClientCore → ClientCore) :
    ClientMoment :=
  { moment with context := { moment.context with state := change moment.context.state } }

/-- The first half of handing a job in. -/
def clear
    (moment : ClientMoment)
    (job : ClientJob) :
    ClientMoment :=
  if moment.context.stopped then moment
  else { moment with cleared := moment.cleared ++ [job] }

/-- The address that the next job connects to, if it does. -/
def opening? (moment : ClientMoment) : Option SocketAddress :=
  match moment.context.queue with
  | .run (.connect (.ok address)) :: _ =>
      if (moment.core.machine.current.after? .connectRequested).isSome then some address
      else none
  | _ => none

/-- The next job asks the transport for a channel. -/
def enter
    (moment : ClientMoment)
    (address : SocketAddress) :
    ClientMoment :=
  let (id, _, transport) := moment.core.transport.connect address
  { moment with
    context :=
      { moment.context with
        queue := moment.context.queue.tail
        state := { moment.core.advance .connectRequested with transport } }
    entered := some id
    handlers := moment.handlers.insert id address }

/-- The transport has answered, and the job that asked is done. -/
def store
    (moment : ClientMoment)
    (id : ChannelId) :
    ClientMoment :=
  { moment.alter fun core => { core with channel := some id } with entered := none }

/-- The next step of the serial context.  Nothing is taken from the queue while a job is under
way. -/
def serve? (moment : ClientMoment) : Option ClientMoment :=
  match moment.entered with
  | some id => some (moment.store id)
  | none =>
      if moment.context.ended || moment.context.queue.isEmpty then none
      else
        match moment.opening? with
        | some address => some (moment.enter address)
        | none =>
            some { moment with context := (moment.context.runNext ClientJob.craft).2 }

/-- What can happen next. -/
inductive Event where
  /-- Somebody asks for something, and sees whether jobs are taken. -/
  | ask (job : ClientJob)
  /-- The transport reports on a channel whose handler it has, and the handler sees whether
  jobs are taken. -/
  | report (id : ChannelId) (report : Report)
  /-- One of those who have seen that jobs are taken puts the job into the queue. -/
  | put (index : Nat)
  /-- Somebody stops the taking of jobs. -/
  | refuse
  /-- And puts the last job, and then the end of the loop, into the queue. -/
  | close
  /-- The transport and the crew go on, for whatever reason.  Numbers are not taken back. -/
  | elsewhere (transport : Transport) (crew : Crew String)
  /-- The serial context goes on. -/
  | serve

/-- What an event makes of a client, if it can happen. -/
def step? (moment : ClientMoment) : Event → Option ClientMoment
  | .ask job => if job.isRequest then some (moment.clear job) else none
  | .report id report =>
      match moment.handlers.find? id with
      | none => none
      | some address =>
          let marked := moment.alter fun core =>
            { core with transport := core.transport.alter id report.mark }
          some <|
            match report.job? id address with
            | none => marked
            | some job => marked.clear job
  | .put index =>
      match moment.cleared[index]? with
      | none => none
      | some job =>
          some
            { moment with
              context := (moment.context.enqueue (.run job)).2
              cleared := moment.cleared.eraseIdx index }
  | .refuse =>
      if moment.context.stopped then none
      else
        some
          { moment with
            context := moment.context.refuse.2
            ending := [.run .finish, .stop] }
  | .close =>
      match moment.ending with
      | [] => none
      | envelope :: ending =>
          some { moment with context := (moment.context.enqueue envelope).2, ending }
  | .elsewhere transport crew =>
      if moment.core.transport.nextId ≤ transport.nextId then
        some (moment.alter fun core => { core with transport, crew })
      else none
  | .serve => moment.serve?

/-- A new client. -/
def start
    (names : String × String)
    (settings : ClientSettings)
    (transport : Transport)
    (handler : String → Reaction ClientAction) :
    ClientMoment :=
  { context := (ClientSession.start names settings transport handler).context }

end ClientMoment

end LineProtocol
