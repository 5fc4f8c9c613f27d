import LineProtocol.Proofs.Echo.Opening

/-!
# A client and a server that echoes

What a client sends goes through its context, over the connection, through the server's
crew, its handler and its context, back over the connection and through the client's crew.
Each of these places goes on at its own pace, and the octets come in chunks of any size.
Nothing is lost on the way, doubled or overtaken: what the client's handler was given is
always a beginning of what was sent, and the whole of it once nothing is under way.
-/

namespace LineProtocol

/-- A client and a server, the channels by which they know their connection, and how many
of the octets that each has written have come to the other. -/
structure Exchange where
  near : ChannelId
  far : ChannelId
  client : Attended ClientSession ClientAction
  server : Attended ServerSession ServerAction
  forwarded : Nat := 0
  returned : Nat := 0

/-- What happens, in any order. -/
inductive Exchange.Event where
  /-- The client's user sends a message. -/
  | submit (text : String)
  | client (duty : Duty)
  | server (duty : Duty)
  /-- So many octets more come to the server, or as many as are under way. -/
  | forward (count : Nat)
  /-- So many octets more come back to the client. -/
  | back (count : Nat)
  deriving Repr, DecidableEq

/-- The message that an event sends. -/
def Exchange.Event.sent? : Exchange.Event → Option String
  | .submit text => some text
  | _ => none

namespace Exchange

/-- The octets that the client has written. -/
def outbound (exchange : Exchange) : Bytes :=
  exchange.client.session.core.transport.octetsOn exchange.near

/-- The octets that the server has written back. -/
def inbound (exchange : Exchange) : Bytes :=
  exchange.server.session.core.transport.octetsOn exchange.far

/-- Lets something happen, if it can. -/
def step?
    (exchange : Exchange) :
    Event → Option Exchange
  | .submit text =>
      some
        { exchange with
          client :=
            { exchange.client with
              session := (exchange.client.session.perform (.send text)).2 } }
  | .client duty =>
      (ClientSession.staff.attend? ClientSession.reaction exchange.client duty).map fun client =>
        { exchange with client }
  | .server duty =>
      (ServerSession.staff.attend? ServerSession.reaction exchange.server duty).map fun server =>
        { exchange with server }
  | .forward count =>
      let chunk := (exchange.outbound.drop exchange.forwarded).take count
      some
        { exchange with
          server :=
            { exchange.server with
              session :=
                (exchange.server.session.perform (.report exchange.far (.read chunk))).2 }
          forwarded := exchange.forwarded + chunk.length }
  | .back count =>
      let chunk := (exchange.inbound.drop exchange.returned).take count
      some
        { exchange with
          client :=
            { exchange.client with
              session :=
                (exchange.client.session.perform (.report exchange.near (.read chunk))).2 }
          returned := exchange.returned + chunk.length }

/-- Lets things happen one after the other. -/
def run?
    (exchange : Exchange)
    (events : List Event) :
    Option Exchange :=
  events.foldlM step? exchange

/-- The messages that were sent, in order. -/
def sent (events : List Event) : List String :=
  events.filterMap Event.sent?

/-- The client is connected and its handler asks for nothing, the server has admitted it and
echoes, each has one thread, both close a message by the same octet, and nothing was sent
yet. -/
structure Joined (exchange : Exchange) : Prop where
  delimiter :
    exchange.client.session.framing.delimiter = exchange.server.session.framing.delimiter
  client :
    exchange.client.session.Talks exchange.client.session.framing exchange.near [] [] []
  still : exchange.client.pending = []
  server :
    ∃ identity,
      ServerSession.Echoes exchange.server exchange.server.session.framing exchange.far identity
        [] []
  forwarded : exchange.forwarded = 0
  returned : exchange.returned = 0

/-- Nothing waits in a queue, no reply is still to be asked for, and every octet has come. -/
structure Drained (exchange : Exchange) : Prop where
  client : exchange.client.session.context.queue = []
  server : exchange.server.session.context.queue = []
  clientCrew : exchange.client.session.core.crew.queue = []
  serverCrew : exchange.server.session.core.crew.queue = []
  pending : exchange.server.pending = []
  outbound : exchange.forwarded = exchange.outbound.length
  inbound : exchange.returned = exchange.inbound.length

/-- What has gone each way: the messages that were written, and the octets that came. -/
structure Traffic where
  written : List String := []
  replied : List String := []
  outward : Bytes := []
  inward : Bytes := []

/-- More may have gone each way. -/
structure Traffic.Grows (before after : Traffic) : Prop where
  written : before.written <+: after.written
  replied : before.replied <+: after.replied
  outward : before.outward <+: after.outward
  inward : before.inward <+: after.inward

theorem Traffic.Grows.refl (traffic : Traffic) : traffic.Grows traffic :=
  ⟨List.prefix_rfl, List.prefix_rfl, List.prefix_rfl, List.prefix_rfl⟩

theorem Traffic.Grows.trans
    {before between after : Traffic}
    (first : before.Grows between)
    (second : between.Grows after) :
    before.Grows after :=
  ⟨first.written.trans second.written, first.replied.trans second.replied,
    first.outward.trans second.outward, first.inward.trans second.inward⟩

/-- Where everything is that was sent. -/
structure Flows
    (exchange : Exchange)
    (framing serverFraming : Framing)
    (identity : Identity)
    (sent : List String)
    (traffic : Traffic) : Prop where
  talks :
    exchange.client.session.Talks framing exchange.near traffic.inward sent traffic.written
  still : exchange.client.pending = []
  echoes :
    ServerSession.Echoes exchange.server serverFraming exchange.far identity traffic.outward
      traffic.replied
  outward : traffic.outward <+: framing.written traffic.written
  forwarded : exchange.forwarded = traffic.outward.length
  inward : traffic.inward <+: serverFraming.written traffic.replied
  returned : exchange.returned = traffic.inward.length

theorem Joined.flows
    {exchange : Exchange}
    (joined : exchange.Joined) :
    ∃ identity,
      exchange.Flows exchange.client.session.framing exchange.server.session.framing identity []
        {} := by
  obtain ⟨identity, echoes⟩ := joined.server
  exact
    ⟨identity,
      { talks := joined.client
        still := joined.still
        echoes
        outward := List.nil_prefix
        forwarded := joined.forwarded
        inward := List.nil_prefix
        returned := joined.returned }⟩

/-- A chunk of what is under way comes behind what came before. -/
theorem exists_chunk
    {heard octets : Bytes}
    (begins : heard <+: octets)
    (count : Nat) :
    ∃ chunk, (octets.drop heard.length).take count = chunk ∧ heard ++ chunk <+: octets := by
  obtain ⟨rest, rfl⟩ := begins
  refine ⟨rest.take count, by rw [List.drop_left], ?_⟩
  exact (List.prefix_append_right_inj heard).mpr (List.take_prefix count rest)

section

variable
  {exchange next : Exchange}
  {framing serverFraming : Framing}
  {identity : Identity}
  {texts : List String}
  {traffic : Traffic}

theorem Flows.outbound
    (flows : exchange.Flows framing serverFraming identity texts traffic) :
    exchange.outbound = framing.written traffic.written :=
  flows.talks.carries.handed

theorem Flows.inbound
    (flows : exchange.Flows framing serverFraming identity texts traffic) :
    exchange.inbound = serverFraming.written traffic.replied :=
  flows.echoes.carries.handed

/-- What was written was sent. -/
theorem Flows.writes
    (flows : exchange.Flows framing serverFraming identity texts traffic) :
    traffic.written <+: texts := by
  obtain ⟨waiting, -, whole⟩ := flows.talks.waits
  rw [whole]
  exact List.prefix_append _ _

/-- What the server's handler was given, and what it will be given of what came, is a
beginning of what the client has written. -/
theorem Flows.reaches
    (flows : exchange.Flows framing serverFraming identity texts traffic)
    (delimiter : framing.delimiter = serverFraming.delimiter)
    (fits : ∀ text ∈ texts, serverFraming.Fits text) :
    exchange.server.session.core.crew.jobs.map Parcel.text <+: traffic.written := by
  obtain ⟨intake, -, follows⟩ := flows.echoes.linked
  have begins := flows.outward
  rw [Framing.written_congr delimiter] at begins
  rw [← follows.messages_eq.1]
  exact
    (Framing.messages_of_written (fun text member => fits text (flows.writes.subset member))
      begins).1

/-- What was written back is a beginning of what was sent. -/
theorem Flows.replies
    (flows : exchange.Flows framing serverFraming identity texts traffic)
    (delimiter : framing.delimiter = serverFraming.delimiter)
    (fits : ∀ text ∈ texts, serverFraming.Fits text) :
    traffic.replied <+: texts := by
  obtain ⟨behind, owed, -, -, taken⟩ := flows.echoes.owes
  have answered :
      traffic.replied <+: exchange.server.session.core.crew.taken.map Parcel.text := by
    rw [taken]
    exact List.prefix_append _ _
  have handed :
      exchange.server.session.core.crew.taken.map Parcel.text <+:
        exchange.server.session.core.crew.jobs.map Parcel.text :=
    (List.prefix_append _ _).map _
  exact answered.trans (handed.trans ((flows.reaches delimiter fits).trans flows.writes))

/-- What the client's handler was given is a beginning of what was sent. -/
theorem Flows.order
    (flows : exchange.Flows framing serverFraming identity texts traffic)
    (delimiter : framing.delimiter = serverFraming.delimiter)
    (fits : ∀ text ∈ texts, framing.Fits text ∧ serverFraming.Fits text) :
    exchange.client.session.messages <+: texts := by
  have replies := flows.replies delimiter fun text member => (fits text member).2
  have begins := flows.inward
  rw [← Framing.written_congr delimiter] at begins
  have handed : exchange.client.session.messages <+: exchange.client.session.core.crew.jobs := by
    rw [flows.talks.given]
    exact List.prefix_append _ _
  rw [← flows.talks.follows.messages_eq.1] at handed
  have came : framing.messages traffic.inward <+: traffic.replied :=
    (Framing.messages_of_written
      (fun text member => (fits text (replies.subset member)).1) begins).1
  exact handed.trans (came.trans replies)

/-- Where nothing waits for the client's context, all that was sent was written. -/
theorem Flows.written_eq
    (flows : exchange.Flows framing serverFraming identity texts traffic)
    (empty : exchange.client.session.context.queue = []) :
    traffic.written = texts := by
  obtain ⟨waiting, holds, whole⟩ := flows.talks.waits
  have nothing := holds.queue.symm.trans empty
  simp only [List.map_eq_nil_iff] at nothing
  rw [whole, nothing, List.append_nil]

theorem Flows.outward_eq
    (flows : exchange.Flows framing serverFraming identity texts traffic)
    (came : exchange.forwarded = exchange.outbound.length) :
    traffic.outward = framing.written traffic.written := by
  apply flows.outward.eq_of_length
  rw [← flows.forwarded, came, flows.outbound]

/-- Where all came to the server and nothing waits for its thread, its handler was given
all that was sent. -/
theorem Flows.taken_eq
    (flows : exchange.Flows framing serverFraming identity texts traffic)
    (delimiter : framing.delimiter = serverFraming.delimiter)
    (fits : ∀ text ∈ texts, serverFraming.Fits text)
    (written : traffic.written = texts)
    (outward : traffic.outward = framing.written traffic.written)
    (empty : exchange.server.session.core.crew.queue = []) :
    exchange.server.session.core.crew.taken.map Parcel.text = texts := by
  obtain ⟨intake, -, follows⟩ := flows.echoes.linked
  have jobs := follows.messages_eq.1
  rw [outward, Framing.written_congr delimiter, written, Framing.messages_written fits,
    Crew.jobs, empty, List.append_nil] at jobs
  exact jobs.symm

/-- Where nothing is still to be asked for or to be written, all that the server's handler was
given was written back. -/
theorem Flows.replied_eq
    (flows : exchange.Flows framing serverFraming identity texts traffic)
    (taken : exchange.server.session.core.crew.taken.map Parcel.text = texts)
    (empty : exchange.server.session.context.queue = [])
    (still : exchange.server.pending = []) :
    traffic.replied = texts := by
  obtain ⟨behind, owed, queue, asks, whole⟩ := flows.echoes.owes
  have idle := queue.queue.symm.trans empty
  have done := asks.symm.trans still
  simp only [List.map_eq_nil_iff] at idle done
  rw [← taken, whole, idle, done, List.append_nil, List.append_nil]

theorem Flows.inward_eq
    (flows : exchange.Flows framing serverFraming identity texts traffic)
    (came : exchange.returned = exchange.inbound.length) :
    traffic.inward = serverFraming.written traffic.replied := by
  apply flows.inward.eq_of_length
  rw [← flows.returned, came, flows.inbound]

/-- Where nothing is under way, the client's handler was given all that was sent. -/
theorem Flows.whole
    (flows : exchange.Flows framing serverFraming identity texts traffic)
    (delimiter : framing.delimiter = serverFraming.delimiter)
    (fits : ∀ text ∈ texts, framing.Fits text ∧ serverFraming.Fits text)
    (drained : exchange.Drained) :
    exchange.client.session.messages = texts := by
  have written := flows.written_eq drained.client
  have outward := flows.outward_eq drained.outbound
  have taken :=
    flows.taken_eq delimiter (fun text member => (fits text member).2) written outward
      drained.serverCrew
  have replied := flows.replied_eq taken drained.server drained.pending
  have inward := flows.inward_eq drained.inbound
  have came := flows.talks.follows.messages_eq.1
  rw [inward, replied, ← Framing.written_congr delimiter,
    Framing.messages_written fun text member => (fits text member).1, Crew.jobs,
    drained.clientCrew, List.append_nil, ← flows.talks.given] at came
  exact came.symm

/-- More octets come to the server, none of which shows a message that is too long. -/
theorem Flows.forward
    (flows : exchange.Flows framing serverFraming identity texts traffic)
    (delimiter : framing.delimiter = serverFraming.delimiter)
    (fits : ∀ text ∈ texts, serverFraming.Fits text)
    {count : Nat}
    (stepped : exchange.step? (.forward count) = some next) :
    ∃ more,
      next.Flows framing serverFraming identity texts
        { traffic with outward := traffic.outward ++ more } := by
  obtain rfl := Option.some.inj stepped
  obtain ⟨more, chunk, outward⟩ := exists_chunk flows.outward count
  have begins := outward
  rw [Framing.written_congr delimiter] at begins
  have short :=
    (Framing.messages_of_written (fun text member => fits text (flows.writes.subset member))
      begins).2
  rw [flows.outbound, flows.forwarded, chunk]
  exact
    ⟨more,
      { flows with
        echoes := flows.echoes.hear short
        outward
        forwarded := by rw [List.length_append] }⟩

/-- More octets come back to the client. -/
theorem Flows.back
    (flows : exchange.Flows framing serverFraming identity texts traffic)
    (delimiter : framing.delimiter = serverFraming.delimiter)
    (fits : ∀ text ∈ texts, framing.Fits text ∧ serverFraming.Fits text)
    {count : Nat}
    (stepped : exchange.step? (.back count) = some next) :
    ∃ more,
      next.Flows framing serverFraming identity texts
        { traffic with inward := traffic.inward ++ more } := by
  obtain rfl := Option.some.inj stepped
  have replies := flows.replies delimiter fun text member => (fits text member).2
  obtain ⟨more, chunk, inward⟩ := exists_chunk flows.inward count
  have begins := inward
  rw [← Framing.written_congr delimiter] at begins
  have short :=
    (Framing.messages_of_written (fun text member => (fits text (replies.subset member)).1)
      begins).2
  rw [flows.inbound, flows.returned, chunk]
  exact
    ⟨more,
      { flows with
        talks := flows.talks.hear short
        inward
        returned := by rw [List.length_append] }⟩

/-- Whatever happens, everything stays on its way. -/
theorem Flows.step
    (flows : exchange.Flows framing serverFraming identity texts traffic)
    (delimiter : framing.delimiter = serverFraming.delimiter)
    (fits : ∀ text ∈ texts, framing.Fits text ∧ serverFraming.Fits text)
    {event : Event}
    (stepped : exchange.step? event = some next) :
    ∃ later,
      next.Flows framing serverFraming identity (texts ++ event.sent?.toList) later ∧
        traffic.Grows later := by
  have still := Traffic.Grows.refl traffic
  cases event with
  | submit text =>
      obtain rfl := Option.some.inj stepped
      exact ⟨traffic, { flows with talks := flows.talks.submit text }, still⟩
  | client duty =>
      obtain ⟨client, attends, rfl⟩ := Option.map_eq_some_iff.mp stepped
      obtain ⟨quiet, more, talks⟩ := flows.talks.attend flows.still attends
      have outward := flows.outward.trans (List.prefix_append _ (framing.written more))
      rw [← framing.written_append] at outward
      show ∃ later, Flows _ _ _ _ (texts ++ []) later ∧ _
      rw [List.append_nil]
      exact
        ⟨{ traffic with written := traffic.written ++ more },
          { flows with talks, still := quiet, outward },
          { still with written := List.prefix_append _ _ }⟩
  | server duty =>
      obtain ⟨server, attends, rfl⟩ := Option.map_eq_some_iff.mp stepped
      obtain ⟨more, echoes⟩ := flows.echoes.attend attends
      have inward := flows.inward.trans (List.prefix_append _ (serverFraming.written more))
      rw [← serverFraming.written_append] at inward
      show ∃ later, Flows _ _ _ _ (texts ++ []) later ∧ _
      rw [List.append_nil]
      exact
        ⟨{ traffic with replied := traffic.replied ++ more },
          { flows with echoes, inward },
          { still with replied := List.prefix_append _ _ }⟩
  | forward count =>
      obtain ⟨more, later⟩ :=
        flows.forward delimiter (fun text member => (fits text member).2) stepped
      show ∃ later, Flows _ _ _ _ (texts ++ []) later ∧ _
      rw [List.append_nil]
      exact ⟨_, later, { still with outward := List.prefix_append _ _ }⟩
  | back count =>
      obtain ⟨more, later⟩ := flows.back delimiter fits stepped
      show ∃ later, Flows _ _ _ _ (texts ++ []) later ∧ _
      rw [List.append_nil]
      exact ⟨_, later, { still with inward := List.prefix_append _ _ }⟩

/-- Everything stays on its way as long as it goes on. -/
theorem Flows.run
    {events : List Event}
    (flows : exchange.Flows framing serverFraming identity texts traffic)
    (delimiter : framing.delimiter = serverFraming.delimiter)
    (fits : ∀ text ∈ texts ++ sent events, framing.Fits text ∧ serverFraming.Fits text)
    (ran : exchange.run? events = some next) :
    ∃ later,
      next.Flows framing serverFraming identity (texts ++ sent events) later ∧
        traffic.Grows later := by
  induction ran using foldlM_induction with
  | none =>
      show ∃ later, Flows _ _ _ _ (texts ++ []) later ∧ _
      rw [List.append_nil]
      exact ⟨traffic, flows, .refl traffic⟩
  | snoc events event between final before stepped ih =>
      have whole : texts ++ sent (events ++ [event]) =
          texts ++ sent events ++ event.sent?.toList := by
        rw [sent, List.filterMap_append, ← List.append_assoc]
        cases event <;> rfl
      rw [whole] at fits ⊢
      have earlier := fun text member => fits text (List.mem_append_left _ member)
      obtain ⟨traffic, flows, grows⟩ := ih earlier
      obtain ⟨later, flows, more⟩ := flows.step delimiter earlier stepped
      exact ⟨later, flows, grows.trans more⟩

theorem Joined.run
    {start : Exchange}
    {events : List Event}
    (joined : start.Joined)
    (fits :
      ∀ text ∈ sent events,
        start.client.session.framing.Fits text ∧ start.server.session.framing.Fits text)
    (ran : start.run? events = some exchange) :
    ∃ identity traffic,
      exchange.Flows start.client.session.framing start.server.session.framing identity
        (sent events) traffic := by
  obtain ⟨identity, flows⟩ := joined.flows
  obtain ⟨later, flows, -⟩ := flows.run joined.delimiter fits ran
  exact ⟨identity, later, flows⟩

end

/-- A new client and a new server, opened in the ordinary way, are joined. -/
theorem joined_of_opening
    (names serverNames : String × String)
    (settings : ClientSettings)
    (serverSettings : ServerSettings)
    (policy : Option String → IdentityPolicy)
    (seed : Nat)
    (transport serverTransport : Transport)
    (handler : String → Reaction ClientAction)
    {host : String}
    {port : UInt16}
    {lookup : ClientSession.Lookup}
    {address : SocketAddress}
    (serverPort : UInt16)
    (peer : Option SocketAddress)
    (name : Option String)
    (resolved : ClientSession.resolve host port lookup = .ok address)
    (delimiter : settings.framing.delimiter = serverSettings.framing.delimiter)
    (threads : settings.dispatchThreads ≤ 1)
    (serverThreads : serverSettings.dispatchThreads ≤ 1)
    (accepts : transport.refusesWrites = false)
    (serverAccepts : serverTransport.refusesWrites = false)
    (silent : ∀ message, (handler message).actions = []) :
    Joined
      { near := ⟨transport.nextId⟩
        far := ⟨serverTransport.nextId + 1⟩
        client :=
          { session :=
              ClientSession.facade.after (.start names settings transport.unused handler)
                [.act (.connect host port lookup none false), .serve,
                  .act (.report ⟨transport.nextId⟩ (.established true)), .serve] }
        server :=
          { session :=
              ServerSession.facade.after
                (.start serverNames serverSettings policy seed serverTransport.unused echo)
                [.act (.listen serverPort none false), .serve, .act (.join peer name),
                  .serve] } } := by
  have talks :=
    ClientSession.talks_of_connect names settings transport handler resolved threads accepts
      silent
  have echoes :=
    ServerSession.echoes_of_listen serverNames serverSettings policy seed serverTransport
      serverPort peer name serverThreads serverAccepts
  have ways := talks.ways
  have serverWays := echoes.ways
  rw [← ways] at talks delimiter
  rw [← serverWays] at echoes delimiter
  exact ⟨delimiter, talks, rfl, ⟨_, echoes⟩, rfl, rfl⟩

/-- Whatever happens in whatever order, the client's handler was given a beginning of what
was sent, and all of it where nothing is under way. -/
theorem echo_exact
    {start exchange : Exchange}
    {events : List Event}
    (joined : start.Joined)
    (fits :
      ∀ text ∈ sent events,
        start.client.session.framing.Fits text ∧ start.server.session.framing.Fits text)
    (ran : start.run? events = some exchange) :
    exchange.client.session.messages <+: sent events ∧
      (exchange.Drained → exchange.client.session.messages = sent events) := by
  obtain ⟨identity, traffic, flows⟩ := joined.run fits ran
  exact ⟨flows.order joined.delimiter fits, flows.whole joined.delimiter fits⟩

/-- Two messages, one of which is cut inside a character and overtakes nothing: the second is
still being sent when the first is echoed. -/
theorem echo_exact_two_messages :
    let client :=
      ClientSession.facade.after
        (.start ("client", "crew") { dispatchThreads := 1 } (Transport.unused {}) fun _ => {})
        [.act (.connect "127.0.0.1" 80 (.found []) none false), .serve,
          .act (.report ⟨1⟩ (.established true)), .serve]
    let server :=
      ServerSession.facade.after
        (.start ("server", "crew") { dispatchThreads := 1, framing := { limit := some 3 } }
          (fun _ => .generated) 0 (Transport.unused {}) echo)
        [.act (.listen 80 none false), .serve, .act (.join none none), .serve]
    let start : Exchange :=
      { near := ⟨1⟩, far := ⟨2⟩, client := { session := client },
        server := { session := server } }
    let events : List Event :=
      [.submit "€", .submit "hi", .client .serve, .forward 2, .client .serve, .forward 9,
        .server .take, .server .ask, .server .finish, .server .serve, .server .take,
        .back 1, .back 9, .client .take, .server .ask, .client .finish, .server .finish,
        .server .serve, .back 9, .client .take]
    ∃ exchange,
      start.Joined ∧
        (∀ text ∈ sent events,
          start.client.session.framing.Fits text ∧ start.server.session.framing.Fits text) ∧
        start.run? events = some exchange ∧ exchange.Drained ∧
        exchange.client.session.messages = ["€", "hi"] := by
  intro client server start events
  have goes : (start.run? events).any fun exchange =>
      exchange.client.session.context.queue = [] ∧ exchange.server.session.context.queue = [] ∧
        exchange.client.session.core.crew.queue = [] ∧
        exchange.server.session.core.crew.queue = [] ∧ exchange.server.pending = [] ∧
        exchange.forwarded = exchange.outbound.length ∧
        exchange.returned = exchange.inbound.length := by
    decide +kernel
  obtain ⟨exchange, ran, shown⟩ := (Option.any_eq_true _ _).mp goes
  obtain ⟨quiet, serverQuiet, worked, serverWorked, asked, forwarded, returned⟩ :=
    of_decide_eq_true shown
  have drained : exchange.Drained :=
    ⟨quiet, serverQuiet, worked, serverWorked, asked, forwarded, returned⟩
  have resolved :
      ClientSession.resolve "127.0.0.1" 80 (.found []) =
        .ok { ip := .v4 ⟨#v[127, 0, 0, 1]⟩, port := 80 } := by
    decide +kernel
  have joined : start.Joined :=
    joined_of_opening _ _ { dispatchThreads := 1 }
      { dispatchThreads := 1, framing := { limit := some 3 } } _ _ {} {} _ _ _ _ resolved rfl
      (Nat.le_refl 1) (Nat.le_refl 1) rfl rfl fun _ => rfl
  have fits :
      ∀ text ∈ sent events,
        start.client.session.framing.Fits text ∧ start.server.session.framing.Fits text := by
    decide +kernel
  obtain ⟨-, whole⟩ := echo_exact joined fits ran
  exact ⟨exchange, joined, fits, ran, drained, whole drained⟩

end Exchange

end LineProtocol
