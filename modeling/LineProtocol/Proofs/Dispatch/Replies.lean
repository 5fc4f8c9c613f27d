import LineProtocol.Proofs.Client.Replies
import LineProtocol.Proofs.Server.Replies

/-!
# Replies of handlers

Nothing but the order in which jobs are handed in keeps a handler's reply behind the
opening of the connection on which the message came.  That is enough, whatever the
threads and the contexts do meanwhile.
-/

namespace LineProtocol

/-- Every message that a thread is busy with is on record with its connection, and what the
handler asks for runs behind the opening of that connection.  A client that drops it was
severed from the connection since.  A server that finds nobody for it took the sender off
the roster since, and where all tokens are different it writes it to nobody else. -/
theorem replies_in_place
    {names serverNames : String × String}
    {settings : ClientSettings}
    {serverSettings : ServerSettings}
    {policy : Option String → IdentityPolicy}
    {seed : Nat}
    {transport serverTransport : Transport}
    {handler : String → Reaction ClientAction}
    {serverHandler : String → Reaction ServerAction}
    {events : List ClientSession.Happening}
    {serverEvents : List ServerSession.Happening}
    {client : Staffed ClientSession Ticket}
    {server : Staffed ServerSession Closing}
    (ran :
      ClientSession.staff.run? (ClientSession.fresh names settings transport handler) events =
        some client)
    (opensFirst : ClientSession.OpensFirst events)
    (serverRan :
      ServerSession.staff.run?
          (ServerSession.fresh serverNames serverSettings policy seed serverTransport
            serverHandler)
          serverEvents =
        some server)
    (resumed :
      ServerSession.ReadsResumed
        (ServerSession.fresh serverNames serverSettings policy seed serverTransport
          serverHandler)
        serverEvents) :
    let trail :=
      ClientSession.staff.trail (ClientSession.fresh names settings transport handler) events
    let serverTrail :=
      ServerSession.staff.trail
        (ServerSession.fresh serverNames serverSettings policy seed serverTransport
          serverHandler)
        serverEvents
    ((∀ (number : Nat) message,
        client.callers.session.core.crew.workers[number]? = some (some message) →
          ∃ id, client.busy number = some id) ∧
      ∀ id task, ClientSession.staff.Answers client id task →
        (∃ core, (.established id, core) ∈ trail) ∧
          ∀ text, task = .send text → client.callers.session.core.Drops text →
            id ∉ ClientSession.failures trail → ClientSession.Severed trail id) ∧
      (∀ (number : Nat) parcel,
        server.callers.session.core.crew.workers[number]? = some (some parcel) →
          ∃ id, server.busy number = some id ∧
            server.callers.session.identity? id = some parcel.sender) ∧
      ∀ id task, ServerSession.staff.Answers server id task →
        id ∈ ServerCore.admissions serverTrail ∧
          ∀ text identity, task = .send text (some identity) →
            server.callers.session.identity? id = some identity →
              (server.callers.session.core.Misses text identity →
                  ServerCore.Removed serverTrail id) ∧
                ((∀ name, policy name = .generated) →
                  (∀ one other, server.callers.session.Knows one →
                    server.callers.session.Knows other →
                      Token.ofSeed (seed + one.number) = Token.ofSeed (seed + other.number) →
                        one = other) →
                    (task.run server.callers.session.core).2.transport.calls =
                        server.callers.session.core.transport.calls ∨
                      (task.run server.callers.session.core).2.transport.calls =
                        server.callers.session.core.transport.calls ++
                          [.write id
                            (server.callers.session.core.encoder.encode text).1]) := by
  intro trail serverTrail
  have answering := (ClientSession.answering_run ran opensFirst).2
  have serverAnswering := ServerSession.answering_run serverRan resumed
  refine ⟨⟨?_, ?_⟩, ?_, ?_⟩
  · intro number message works
    obtain ⟨id, holds, -⟩ := answering.recorded.busy number message works
    exact ⟨id, holds⟩
  · exact fun id task answers => answering.reply answers
  · exact fun number parcel works => serverAnswering.recorded.busy number parcel works
  · exact fun id task answers => serverAnswering.reply answers

deriving instance DecidableEq for ClientJob

/-- A client's reply is overtaken by the user, who disconnects, and a server's reply by one
who kicks the sender. -/
theorem replies_in_place_overtaken :
    let newClient :=
      ClientSession.fresh ("client", "crew") {} (Transport.unused {}) fun _ => {}
    let events : List ClientSession.Happening :=
      [.turn (.aside (.act (.connect "127.0.0.1" 80 (.found []) none false))), .turn .serve,
        .turn (.aside (.act (.report ⟨1⟩ (.established true)))),
        .turn (.aside (.act (.report ⟨1⟩ (.read [104, 105, 10])))), .thread 0 .take,
        .turn (.aside (.act .disconnect)), .thread 0 (.ask (.send "yes")), .turn .serve,
        .turn .serve]
    let newServer :=
      ServerSession.fresh ("server", "crew") {} (fun _ => .generated) 0 (Transport.unused {})
        fun _ => {}
    let peer : Option SocketAddress := some { ip := .v4 .unspecified, port := 4000 }
    let sender : Identity := .token (.ofSeed 2)
    let serverEvents : List ServerSession.Happening :=
      [.turn (.aside (.act (.listen 80 none false))), .turn .serve,
        .turn (.aside (.act (.join peer none))), .turn .serve,
        .turn (.aside (.act (.join peer none))), .turn .serve,
        .turn (.aside (.act (.report ⟨2⟩ (.read [104, 105, 10])))), .thread 0 .take,
        .turn (.aside (.act (.kick (.client sender)))),
        .thread 0 (.ask (.send "yes" (some .sender))), .turn .serve]
    ∃ client server,
      ClientSession.staff.run? newClient events = some client ∧
        ClientSession.OpensFirst events ∧
        ServerSession.staff.run? newServer serverEvents = some server ∧
        ServerSession.ReadsResumed newServer serverEvents ∧
        client.callers.session.core.Drops "yes" ∧
        ClientSession.Severed (ClientSession.staff.trail newClient events) ⟨1⟩ ∧
        server.callers.session.core.Misses "yes" sender ∧
        ServerCore.Removed (ServerSession.staff.trail newServer serverEvents) ⟨2⟩ := by
  intro newClient events newServer peer sender serverEvents
  have goes : (ClientSession.staff.run? newClient events).any fun client =>
      client.origins.head? = some (some ⟨1⟩) ∧
        client.callers.session.context.next? = some (.send "yes") ∧
        client.callers.session.core.machine.current = .disconnecting := by
    decide +kernel
  have serverGoes : (ServerSession.staff.run? newServer serverEvents).any fun server =>
      server.origins.head? = some (some ⟨2⟩) ∧
        server.callers.session.context.next? = some (.send "yes" (some sender)) ∧
        server.callers.session.identity? ⟨2⟩ = some sender ∧
        server.callers.session.core.roster.member? sender = none := by
    decide +kernel
  have opensFirst : ClientSession.OpensFirst events := by decide +kernel
  have unfailed :
      ⟨1⟩ ∉ ClientSession.failures (ClientSession.staff.trail newClient events) := by
    decide +kernel
  have resumed : ServerSession.ReadsResumed newServer serverEvents := by decide +kernel
  obtain ⟨client, ran, shown⟩ := (Option.any_eq_true _ _).mp goes
  obtain ⟨origin, next, leaving⟩ := of_decide_eq_true shown
  obtain ⟨server, serverRan, serverShown⟩ := (Option.any_eq_true _ _).mp serverGoes
  obtain ⟨serverOrigin, serverNext, theirs, gone⟩ := of_decide_eq_true serverShown
  have drops : client.callers.session.core.Drops "yes" := by
    apply ClientCore.drops_of_ne_connected
    rw [leaving]
    simp
  have misses : server.callers.session.core.Misses "yes" sender :=
    ServerCore.misses_iff.mpr gone
  obtain ⟨⟨-, replies⟩, -, serverReplies⟩ :=
    replies_in_place ran opensFirst serverRan resumed
  refine ⟨client, server, ran, opensFirst, serverRan, resumed, drops, ?_, misses, ?_⟩
  · exact (replies ⟨1⟩ _ ⟨next, origin⟩).2 "yes" rfl drops unfailed
  · have replies := serverReplies ⟨2⟩ _ ⟨serverNext, serverOrigin⟩
    exact (replies.2 "yes" sender rfl theirs).1 misses

end LineProtocol
