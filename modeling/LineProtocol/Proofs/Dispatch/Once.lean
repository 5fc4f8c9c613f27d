import LineProtocol.Proofs.Client.Reads
import LineProtocol.Proofs.Server.Reads

/-!
# Every message once

Whatever a client or a server is asked to do, and however the octets of its
connections are cut and interleaved, each connection's messages are handed over
once and in order, up to a frame that is too long, as long as the crew takes
messages at all.
-/

namespace LineProtocol

/-- The messages of each connection of a client or of a server are handed over
once, in the order of the stream and, by a server, under the connection's own
identity.  Reads close a connection once if a piece of it is too long and never
otherwise, and behind such a piece they do nothing.  No other move hands
anything over. -/
theorem handed_over_once :
    (∀ (names : String × String) (settings : ClientSettings) (transport : Transport)
        (handler : String → Reaction ClientAction)
        (moves : List (Move ClientSession.Step)),
      let start : ClientSession := .start names settings transport handler
      let deeds : List (Deed String) := ClientSession.facade.deeds start moves
      (ClientSession.facade.after start moves).core.crew.accepting = true →
        (∀ deed ∈ deeds, deed.read = none → deed.issued = []) ∧
          ∀ channel, Faithful settings.framing deeds channel id) ∧
    (∀ (names : String × String) (settings : ServerSettings)
        (policy : Option String → IdentityPolicy) (seed : Nat) (transport : Transport)
        (handler : String → Reaction ServerAction)
        (moves : List (Move ServerSession.Step)),
      let start : ServerSession := .start names settings policy seed transport handler
      let session : ServerSession := ServerSession.facade.after start moves
      let deeds : List (Deed Parcel) := ServerSession.facade.deeds start moves
      session.core.crew.accepting = true →
        (∀ deed ∈ deeds, deed.read = none → deed.issued = []) ∧
          (∀ channel link, session.links.find? channel = some link →
            Faithful settings.framing deeds channel
              fun text => { sender := link.identity, text }) ∧
          ∀ channel, session.links.find? channel = none →
            ∀ deed ∈ deeds, deed.reads channel = false) := by
  constructor
  · intro names settings transport handler moves start deeds accepting
    have seated :=
      ClientSession.seated names settings transport handler moves accepting
    refine ⟨seated.quiet, ?_⟩
    intro channel
    exact (seated.followed channel _ rfl).1
  · intro names settings policy seed transport handler moves start session deeds accepting
    have seated :=
      ServerSession.seated names settings policy seed transport handler moves accepting
    refine ⟨seated.quiet, ?_, ?_⟩
    · intro channel link found
      have here : ServerSession.facade.seat? session channel = some link.seat := by
        simp [ServerSession.facade, found]
      exact (seated.followed channel link.seat here).1
    · intro channel absent
      have away : ServerSession.facade.seat? session channel = none := by
        simp [ServerSession.facade, absent]
      exact seated.unread channel away

/-- Two connections are read in turn, and a piece of the first that comes in
two chunks is too long. -/
theorem handed_over_once_two_connections :
    let framing : Framing := { delimiter := 10, limit := some 2 }
    let client : ClientSession :=
      .start ("client", "crew") { framing }
        (({} : Transport).adopt { id := ⟨1⟩ } |>.adopt { id := ⟨2⟩ }) fun _ => {}
    let clientMoves : List (Move ClientSession.Step) :=
      [.act (.report ⟨1⟩ (.read [97, 10, 98, 98])), .act (.report ⟨2⟩ (.read [99, 10])),
        .work, .act (.report ⟨1⟩ (.read [98, 10, 100, 10])), .serve,
        .act (.report ⟨1⟩ (.read [101, 10]))]
    let server : ServerSession :=
      .start ("server", "crew") { framing } (fun _ => .generated) 7
        { listeners := [{ id := ⟨1⟩, address := { ip := .v4 .unspecified, port := 80 } }]
          nextId := 2 }
        fun _ => {}
    let serverMoves : List (Move ServerSession.Step) :=
      [.act (.accept none none), .act (.report ⟨2⟩ (.read [97])),
        .act (.accept none none), .act (.report ⟨2⟩ (.read [10, 98, 98, 98])),
        .act (.report ⟨3⟩ (.read [99, 10])), .act (.report ⟨2⟩ (.read [10]))]
    let link : Link := { identity := .token (.ofSeed 10), intake := .ofFraming framing }
    (ClientSession.facade.after client clientMoves).core.crew.accepting = true ∧
      Faithful framing (ClientSession.facade.deeds client clientMoves) ⟨1⟩ id ∧
      issuedFor ⟨1⟩ (ClientSession.facade.deeds client clientMoves) = ["a"] ∧
      closesBy ⟨1⟩ (ClientSession.facade.deeds client clientMoves) = 1 ∧
      (ServerSession.facade.after server serverMoves).core.crew.accepting = true ∧
      (ServerSession.facade.after server serverMoves).links.find? ⟨3⟩ = some link ∧
      Faithful framing (ServerSession.facade.deeds server serverMoves) ⟨3⟩
        (fun text => { sender := link.identity, text }) ∧
      issuedFor ⟨3⟩ (ServerSession.facade.deeds server serverMoves) =
        [{ sender := link.identity, text := "c" }] := by
  intro framing client clientMoves server serverMoves link
  obtain ⟨clients, servers⟩ := handed_over_once
  have clientFaithful :=
    clients ("client", "crew") { framing }
      (({} : Transport).adopt { id := ⟨1⟩ } |>.adopt { id := ⟨2⟩ }) (fun _ => {})
      clientMoves (by decide +kernel)
  have serverFaithful :=
    servers ("server", "crew") { framing } (fun _ => .generated) 7
      { listeners := [{ id := ⟨1⟩, address := { ip := .v4 .unspecified, port := 80 } }]
        nextId := 2 }
      (fun _ => {}) serverMoves (by decide +kernel)
  refine ⟨?_, clientFaithful.2 ⟨1⟩, ?_, ?_, ?_, ?_,
    serverFaithful.2.1 ⟨3⟩ link (by decide +kernel), ?_⟩
  · decide +kernel
  · decide +kernel
  · decide +kernel
  · decide +kernel
  · decide +kernel
  · decide +kernel

end LineProtocol
