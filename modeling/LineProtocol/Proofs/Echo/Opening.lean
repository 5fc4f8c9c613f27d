import LineProtocol.Proofs.Echo.Client
import LineProtocol.Proofs.Echo.Server

/-!
# How a connection is opened

A new client asks for a connection and hears that it is open; a new server listens, accepts
a client and lets it in.  Behind that the one can talk and the other echoes, whatever their
settings, names and numbers are.
-/

namespace LineProtocol

namespace Transport

/-- Asking the user to shut down makes no difference to what is written. -/
theorem reenter_spec (transport : Transport) :
    transport.reenter.failure = transport.failure ∧
      transport.reenter.refusesWrites = transport.refusesWrites ∧
      ∀ id, transport.reenter.octetsOn id = transport.octetsOn id := by
  unfold reenter
  split
  · exact ⟨rfl, rfl, fun id => by simp [octetsOn, record, Call.octetsOn]⟩
  · exact ⟨rfl, rfl, fun _ => rfl⟩

/-- A connection that does not fail at once has a channel that is not open yet, and nothing
is written. -/
theorem connect_of_unfailing
    {transport : Transport}
    (unfailing : transport.failure = none)
    (address : SocketAddress) :
    ∃ after,
      transport.connect address = (⟨transport.nextId⟩, none, after) ∧
        after.channel? ⟨transport.nextId⟩ =
          some { id := ⟨transport.nextId⟩, peer := some address } ∧
        after.refusesWrites = transport.refusesWrites ∧
        ∀ id, after.octetsOn id = transport.octetsOn id := by
  obtain ⟨same, accepts, handed⟩ := transport.reenter_spec
  have still : transport.reenter.failure = none := same.trans unfailing
  refine ⟨(transport.connect address).2.2, ?_, ?_, accepts, ?_⟩
  · simp [connect, newId, still]
  · simp [connect, newId, still, adopt, channel?, Table.find?_insert]
  · intro id
    rw [← handed id]
    simp [connect, newId, adopt, record, octetsOn, Call.octetsOn]

/-- A listener that can be bound is there afterwards, and nothing is written. -/
theorem bind_of_unfailing
    {transport : Transport}
    (unfailing : transport.failure = none)
    (address : SocketAddress) :
    ∃ listener after,
      transport.bind address = (.ok listener, after) ∧
        after.nextId = transport.nextId + 1 ∧ after.listeners.isEmpty = false ∧
        after.refusesWrites = transport.refusesWrites ∧
        ∀ id, after.octetsOn id = transport.octetsOn id := by
  obtain ⟨same, accepts, handed⟩ := transport.reenter_spec
  have still : transport.reenter.failure = none := same.trans unfailing
  have bound : ∃ listener, (transport.bind address).1 = .ok listener := by
    simp only [bind, record, still]
    exact ⟨_, rfl⟩
  obtain ⟨listener, bound⟩ := bound
  refine ⟨listener, (transport.bind address).2, Prod.ext bound rfl, ?_, ?_, ?_, ?_⟩
  · simp [bind, record, still, newId]
  · simp [bind, record, still, newId]
  · simpa [bind, record, still, newId] using accepts
  · intro id
    rw [← handed id]
    simp [bind, record, still, newId, octetsOn, Call.octetsOn]

/-- Having a connection read writes nothing on it. -/
theorem Carries.resume
    {transport : Transport}
    {id : ChannelId}
    {octets : Bytes}
    (carries : transport.Carries id octets)
    (other : ChannelId) :
    (transport.resume other).Carries id octets where
  writable := carries.writable
  accepts := carries.accepts
  handed := by
    rw [← carries.handed]
    simp [Transport.resume, octetsOn, Call.octetsOn]

theorem channel?_markOpen
    {transport : Transport}
    {id : ChannelId}
    {channel : Channel}
    (found : transport.channel? id = some channel) :
    (transport.alter id Channel.markOpen).channel? id = some channel.markOpen := by
  rw [channel?_alter, found, Option.map_some, if_pos rfl]

/-- A channel that is reported as open takes what is written. -/
theorem carries_markOpen
    {transport : Transport}
    {id : ChannelId}
    {peer : Option SocketAddress}
    (found : transport.channel? id = some { id, peer })
    (accepts : transport.refusesWrites = false)
    {octets : Bytes}
    (handed : transport.octetsOn id = octets) :
    (transport.alter id Channel.markOpen).Carries id octets where
  writable := by
    rw [isWritable, channel?_markOpen found]
    rfl
  accepts := accepts
  handed := handed

end Transport

/-- A crew that was asked for one thread, or none, has one. -/
theorem Crew.sole_ofThreads
    {job : Type}
    (name : String)
    {threads : Nat}
    (few : threads ≤ 1) :
    (ofThreads name threads : Crew job).Sole none := by
  refine ⟨?_, rfl⟩
  rw [ofThreads, Nat.max_eq_right few]
  rfl

namespace ClientSession

section

variable {session : ClientSession} {near : ChannelId}

theorem moved_offer
    (session : ClientSession)
    (idle : session.context.Holds [])
    {task : ClientJob}
    {core : ClientCore}
    (ran :
      ClientJob.craft.run session.context.stopped task session.core =
        { state := core, answer := some none }) :
    (session.offer task).moved .serve = session.alter fun _ => core := by
  have served := idle.runNext_submit ran
  exact congrArg (fun context => { session with context }) served

theorem call_of_held
    (session : ClientSession)
    (held : session.held = true)
    (action : ClientSession → Except Fault Unit × ClientSession) :
    (session.call action).2 = (action session).2 := by
  rw [call, if_pos held]

theorem connect_of_resolved
    (session : ClientSession)
    (taking : session.context.stopped = false)
    {host : String}
    {port : UInt16}
    {lookup : Lookup}
    {address : SocketAddress}
    (resolved : resolve host port lookup = .ok address) :
    (session.connect host port lookup).2 = session.offer (.connect (.ok address)) := by
  rw [connect, if_neg (by simp [taking]), resolved]
  rfl

/-- A client that is idle and not connected asks for a connection. -/
theorem moved_connect
    (held : session.held = true)
    (idle : session.context.Holds [])
    (accepts : session.core.AcceptsConnect)
    {host : String}
    {port : UInt16}
    {lookup : Lookup}
    {address : SocketAddress}
    (resolved : resolve host port lookup = .ok address)
    {planned after : Transport}
    (plans :
      planned =
        { session.core.transport with
          failure := none
          reenters := session.core.transport.reenters || false })
    (connects : planned.connect address = (near, none, after)) :
    (session.moved (.act (.connect host port lookup none false))).moved .serve =
      session.alter fun core =>
        { core with
          machine := core.machine.advance .connectRequested
          channel := some near
          transport := after } := by
  have asked :
      session.moved (.act (.connect host port lookup none false)) =
        (session.alterTransport fun _ => planned).offer (.connect (.ok address)) := by
    rw [plans]
    exact (call_of_held (session.alterTransport _) held _).trans
      (connect_of_resolved (session.alterTransport _) idle.stopped resolved)
  have connected :
      ClientCore.connect { session.core with transport := planned } (.ok address) =
        ({ session.core with
            machine := session.core.machine.advance .connectRequested
            channel := some near
            transport := after },
          []) := by
    rw [ClientCore.connect, Machine.apply_of_some accepts, ClientCore.advance_connect accepts]
    simp only [connects]
    rfl
  have ran :
      ClientJob.craft.run session.context.stopped (.connect (.ok address))
          { session.core with transport := planned } =
        { state :=
            { session.core with
              machine := session.core.machine.advance .connectRequested
              channel := some near
              transport := after }
          answer := some none } := by
    simp [ClientJob.craft, ClientJob.run, connected]
  rw [asked, moved_offer (session.alterTransport fun _ => planned) (idle.withState _) ran]
  rfl

/-- A client that waits for its connection hears that it is open. -/
theorem moved_established
    (session : ClientSession)
    (idle : session.context.Holds [])
    (current : session.core.channel = some near)
    {channel : Channel}
    (found : session.core.transport.channel? near = some channel)
    (same : channel.id = near) :
    (session.moved (.act (.report near (.established true)))).moved .serve =
      session.alter fun core =>
        { core with
          machine := core.machine.advance .established
          transport := core.transport.alter near Channel.markOpen } := by
  have heard :
      session.moved (.act (.report near (.established true))) =
        (session.alterTransport (·.alter near Channel.markOpen)).offer (.established near) := by
    simp only [moved, perform, found, hear, same]
    rfl
  have ours :
      (session.alterTransport (·.alter near Channel.markOpen)).core.isCurrent near = true :=
      decide_eq_true current
  have ran :
      ClientJob.craft.run session.context.stopped (.established near)
          (session.alterTransport (·.alter near Channel.markOpen)).core =
        { state :=
            (session.alterTransport (·.alter near Channel.markOpen)).core.advance .established
          answer := some none } := by
    simp [ClientJob.craft, ClientJob.run, ClientCore.established, ours]
  rw [heard, moved_offer (session.alterTransport _) (idle.withState _) ran]
  rfl

/-- A client that waits for its connection, and whose thread waits for messages, can talk as
soon as it hears that the connection is open. -/
theorem talks_of_established
    (session : ClientSession)
    {peer : Option SocketAddress}
    (held : session.held = true)
    (idle : session.context.Holds [])
    (connecting : session.core.machine.current = .connecting)
    (current : session.core.channel = some near)
    (found : session.core.transport.channel? near = some { id := near, peer })
    (accepts : session.core.transport.refusesWrites = false)
    (handed : session.core.transport.octetsOn near = [])
    (encoder : session.core.encoder = session.framing.encoder)
    (alone : session.core.crew.Sole none)
    (follows :
      (session.seat near).intake.Follows session.framing [] session.core.crew.jobs)
    (given : session.messages = session.core.crew.taken)
    (silent : ∀ message, (session.handler message).actions = []) :
    ((session.moved (.act (.report near (.established true)))).moved .serve).Talks
      session.framing near [] [] [] := by
  rw [session.moved_established idle current found rfl]
  exact
    { held
      ways := rfl
      waits := ⟨[], idle.withState _, rfl⟩
      connected := by
        show (session.core.machine.advance .established).current = _
        rw [Machine.advance, Machine.apply]
        simp [connecting, ConnectionState.after?]
      current
      known := ⟨_, Transport.channel?_markOpen found, rfl⟩
      carries := Transport.carries_markOpen found accepts handed
      encoder
      alone := ⟨none, alone.workers, alone.accepting⟩
      follows
      given
      silent }

end

/-- A new client that connects and is reported as connected can talk. -/
theorem talks_of_connect
    (names : String × String)
    (settings : ClientSettings)
    (transport : Transport)
    (handler : String → Reaction ClientAction)
    {host : String}
    {port : UInt16}
    {lookup : Lookup}
    {address : SocketAddress}
    (resolved : resolve host port lookup = .ok address)
    (threads : settings.dispatchThreads ≤ 1)
    (accepts : transport.refusesWrites = false)
    (silent : ∀ message, (handler message).actions = []) :
    (facade.after (start names settings transport.unused handler)
        [.act (.connect host port lookup none false), .serve,
          .act (.report ⟨transport.nextId⟩ (.established true)), .serve]).Talks
      settings.framing ⟨transport.nextId⟩ [] [] [] := by
  let session := start names settings transport.unused handler
  let planned : Transport :=
    { transport.unused with
      failure := none
      reenters := transport.unused.reenters || false }
  obtain ⟨after, connects, found, same, octets⟩ := planned.connect_of_unfailing rfl address
  have off : session.core.AcceptsConnect := rfl
  have alone : session.core.crew.Sole none := Crew.sole_ofThreads names.2 threads
  show ((((session.moved (.act (.connect host port lookup none false))).moved .serve).moved
    (.act (.report ⟨transport.nextId⟩ (.established true)))).moved .serve).Talks _ _ _ _ _
  rw [moved_connect rfl ⟨rfl, rfl, rfl⟩ off resolved rfl connects]
  exact
    talks_of_established _ rfl ⟨rfl, rfl, rfl⟩ rfl rfl found (same.trans accepts) (octets _) rfl
      ⟨alone.workers, alone.accepting⟩ (Intake.follows_ofFraming settings.framing) rfl silent

end ClientSession

namespace ServerSession

theorem call_of_held
    (session : ServerSession)
    (held : session.held = true)
    (action : ServerSession → Except Fault Unit × ServerSession) :
    (session.call action).2 = (action session).2 := by
  rw [call, if_pos held]

theorem moved_submit
    (session : ServerSession)
    (idle : session.context.Holds [])
    (task : ServerJob) :
    ({ session with context := (session.context.submit task).2 } : ServerSession).moved .serve =
      session.alter fun _ => (task.run session.core).2 := by
  have ran :
      ServerJob.craft.run session.context.stopped task session.core =
        { state := (task.run session.core).2, answer := some (task.run session.core).1 } :=
    rfl
  have served := idle.runNext_submit ran
  exact congrArg (fun context => { session with context }) served

/-- A server that is idle starts to listen. -/
theorem moved_listen
    (session : ServerSession)
    (held : session.held = true)
    (idle : session.context.Holds [])
    (running : session.core.roster.shuttingDown = false)
    (unbound : session.core.listener = none)
    (port : UInt16)
    {planned after : Transport}
    (plans :
      planned =
        { session.core.transport with
          failure := none
          reenters := session.core.transport.reenters || false })
    {listener : Listener}
    (binds : planned.bind { ip := session.core.bindIp, port } = (.ok listener, after)) :
    (session.moved (.act (.listen port none false))).moved .serve =
      session.alter fun core =>
        { { core with transport := after, listener := some listener }.announce
            (some listener.address) with
          roster := core.roster.listenerBound listener.address } := by
  have asked :
      session.moved (.act (.listen port none false)) =
        { session.alterTransport fun _ => planned with
          context :=
            ((session.alterTransport fun _ => planned).context.submit (.listen port)).2 } := by
    rw [plans]
    exact call_of_held (session.alterTransport _) held _
  have bound :
      ServerCore.listen { session.core with transport := planned } port =
        { { session.core with transport := after, listener := some listener }.announce
            (some listener.address) with
          roster := session.core.roster.listenerBound listener.address } := by
    rw [ServerCore.listen, if_neg (by simp [running]), unbound]
    simp only [binds]
  rw [asked, moved_submit (session.alterTransport fun _ => planned) (idle.withState _)]
  exact congrArg (fun core => session.alter fun _ => core) bound

/-- The name that a server has for the connection that is accepted next. -/
def nextIdentity
    (session : ServerSession)
    (peer : Option SocketAddress)
    (name : Option String) :
    Identity :=
  (session.policy name).identify
    (Token.ofSeed (session.seed + session.core.transport.nextId)) peer

/-- The server's side of a connection that was accepted and is open, before it has joined. -/
def admitting
    (session : ServerSession)
    (peer : Option SocketAddress)
    (name : Option String) :
    ServerSession :=
  (session.accept peer name).2.alterTransport
    (·.alter ⟨session.core.transport.nextId⟩ Channel.markOpen)

theorem established_of_idle
    (session : ServerSession)
    (idle : session.context.Holds [])
    (id : ChannelId)
    (identity : Identity) :
    session.established id identity =
      { session with
        context := (session.context.submit (.join { identity, channel := id })).2 } := by
  have taken := idle.submit (.join { identity, channel := id })
  rw [established, submit, taken]

theorem moved_join
    (session : ServerSession)
    (idle : session.context.Holds [])
    (bound : session.core.transport.listeners.isEmpty = false)
    (peer : Option SocketAddress)
    (name : Option String) :
    session.moved (.act (.join peer name)) =
      { session.admitting peer name with
        context :=
          ((session.admitting peer name).context.submit
            (.join
              { identity := session.nextIdentity peer name
                channel := ⟨session.core.transport.nextId⟩ })).2 } := by
  have found :
      (session.accept peer name).2.links.find? ⟨session.core.transport.nextId⟩ =
        some
          { identity := session.nextIdentity peer name
            intake := .ofFraming session.framing } :=
    (Table.find?_insert ..).trans (if_pos rfl)
  have heard :
      ((session.accept peer name).2.report ⟨session.core.transport.nextId⟩
          (.established true)).2 =
        (session.admitting peer name).established ⟨session.core.transport.nextId⟩
          (session.nextIdentity peer name) := by
    rw [report, found]
    rfl
  have arrives :
      session.moved (.act (.join peer name)) =
        ((session.accept peer name).2.report ⟨session.core.transport.nextId⟩
          (.established true)).2 := by
    simp only [moved, perform, reportListener, bound]
    rfl
  rw [arrives, heard]
  exact (session.admitting peer name).established_of_idle (idle.withState _) _ _

/-- A client that is accepted, and open at once, joins a server that is idle and does not know
its name. -/
theorem echoes_of_join
    (session : ServerSession)
    (idle : session.context.Holds [])
    (bound : session.core.transport.listeners.isEmpty = false)
    (peer : Option SocketAddress)
    (name : Option String)
    (running : session.core.roster.shuttingDown = false)
    (unknown : session.core.roster.member? (session.nextIdentity peer name) = none)
    (accepts : session.core.transport.refusesWrites = false)
    (handed : session.core.transport.octetsOn ⟨session.core.transport.nextId⟩ = [])
    (encoder : session.core.encoder = session.framing.encoder)
    (alone : session.core.crew.Sole none)
    (jobs : session.core.crew.jobs = [])
    (handler : session.handler = echo) :
    Echoes { session := (session.moved (.act (.join peer name))).moved .serve } session.framing
      ⟨session.core.transport.nextId⟩ (session.nextIdentity peer name) [] [] := by
  have taken : session.core.crew.taken.map Parcel.text = [] := by
    rw [(List.append_eq_nil_iff.mp jobs).1, List.map_nil]
  have open_ :
      (session.admitting peer name).core.Accepts
        { identity := session.nextIdentity peer name
          channel := ⟨session.core.transport.nextId⟩ } :=
    ⟨running, unknown⟩
  obtain ⟨joined, listed⟩ := ServerCore.join_of_accepts open_
  have carries :
      ((session.admitting peer name).core.transport.resume
          ⟨session.core.transport.nextId⟩).Carries
        ⟨session.core.transport.nextId⟩ [] := by
    have adopted :
        (session.accept peer name).2.core.transport.channel? ⟨session.core.transport.nextId⟩ =
          some { id := ⟨session.core.transport.nextId⟩, peer } :=
      (Table.find?_insert ..).trans (if_pos rfl)
    exact (Transport.carries_markOpen adopted accepts handed).resume _
  rw [session.moved_join idle bound,
    moved_submit (session.admitting peer name) (idle.withState _)]
  simp only [ServerJob.run, joined]
  exact
    { ways := rfl
      listed
      carries := carries
      encoder := encoder
      handler
      senders := by
        intro parcel there
        change parcel ∈ session.core.crew.jobs at there
        rw [jobs] at there
        exact nomatch there
      linked := by
        refine ⟨.ofFraming session.framing, (Table.find?_insert ..).trans (if_pos rfl), ?_⟩
        show Intake.Follows session.framing _ [] (session.core.crew.jobs.map Parcel.text)
        rw [jobs]
        exact Intake.follows_ofFraming session.framing
      alone := ⟨none, ⟨alone.workers, alone.accepting⟩, fun _ => rfl, nofun⟩
      owes := ⟨[], [], idle.withState _, rfl, taken⟩ }

/-- A new server that listens and lets a client in echoes it. -/
theorem echoes_of_listen
    (names : String × String)
    (settings : ServerSettings)
    (policy : Option String → IdentityPolicy)
    (seed : Nat)
    (transport : Transport)
    (port : UInt16)
    (peer : Option SocketAddress)
    (name : Option String)
    (threads : settings.dispatchThreads ≤ 1)
    (accepts : transport.refusesWrites = false) :
    Echoes
      { session :=
          facade.after (start names settings policy seed transport.unused echo)
            [.act (.listen port none false), .serve, .act (.join peer name), .serve] }
      settings.framing ⟨transport.nextId + 1⟩
      ((policy name).identify (Token.ofSeed (seed + (transport.nextId + 1))) peer) [] [] := by
  let session := start names settings policy seed transport.unused echo
  let planned : Transport :=
    { transport.unused with
      failure := none
      reenters := transport.unused.reenters || false }
  obtain ⟨listener, after, binds, numbered, bound, same, octets⟩ :=
    planned.bind_of_unfailing rfl { ip := settings.bindIp, port }
  have alone : session.core.crew.Sole none := Crew.sole_ofThreads names.2 threads
  show Echoes
    { session :=
        (((session.moved (.act (.listen port none false))).moved .serve).moved
          (.act (.join peer name))).moved .serve }
    _ _ _ _ _
  rw [session.moved_listen rfl ⟨rfl, rfl, rfl⟩ rfl rfl port rfl binds]
  have number : after.nextId = transport.nextId + 1 := numbered
  rw [← number]
  refine echoes_of_join _ ⟨rfl, rfl, rfl⟩ ?_ peer name rfl rfl ?_ ?_ rfl ?_ rfl rfl
  · exact bound
  · exact same.trans accepts
  · exact octets _
  · exact ⟨alone.workers, alone.accepting⟩

end ServerSession

end LineProtocol
