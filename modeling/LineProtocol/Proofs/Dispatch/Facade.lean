import LineProtocol.Proofs.Dispatch.Crew
import LineProtocol.Proofs.Dispatch.Intake
import LineProtocol.Proofs.Run
import LineProtocol.Proofs.Transport.Requests

/-!
# Reads along a run

A client and a server both take octets of many connections in while their
users, their handlers and their serial contexts do other things.  A `Facade`
is what the two have in common: moves, which of them are reads, and what reads
work on together.  A run is a list of moves in any order, and each move leaves
a `Deed`.

`Faithful` says of the deeds of a run that the jobs issued for a connection are
the messages of all octets that arrived on it, and that the reads closed it
once if one of its pieces was too long and never otherwise.

`Facade.faithful` proves this for a facade of which one move is understood: a
read goes through the intake of its own connection, and any other move issues
nothing and touches no intake.
-/

namespace LineProtocol

/-- What all reads work on together. -/
structure Shared (job : Type) where
  crew : Crew job
  transport : Transport

/-- One move, by what arrived and by what it made of the shared things. -/
structure Deed (job : Type) where
  /-- The octets that arrived, and on which connection. -/
  read : Option (ChannelId × Bytes)
  before : Shared job
  after : Shared job

/-- The part of a facade that reads a connection. -/
structure Seat (job : Type) where
  intake : Intake
  /-- The job that a message of the connection becomes. -/
  address : String → job

variable {σ move job : Type}

namespace Deed

/-- The jobs that were issued. -/
def issued (deed : Deed job) : List job :=
  deed.after.crew.queue.drop deed.before.crew.queue.length

/-- How many requests to close were made: each has a receipt. -/
def closes (deed : Deed job) : Nat :=
  deed.after.transport.receipts.length - deed.before.transport.receipts.length

/-- Whether octets arrived on a connection. -/
def reads
    (channel : ChannelId)
    (deed : Deed job) :
    Bool :=
  deed.read.map Prod.fst = some channel

/-- The octets that arrived on a connection. -/
def chunk
    (channel : ChannelId)
    (deed : Deed job) :
    Bytes :=
  match deed.read with
  | some (other, chunk) => if other = channel then chunk else []
  | none => []

end Deed

/-- All octets that arrived on a connection. -/
def received
    (channel : ChannelId)
    (deeds : List (Deed job)) :
    Bytes :=
  deeds.flatMap (Deed.chunk channel)

/-- The jobs that the reads of a connection issued. -/
def issuedFor
    (channel : ChannelId)
    (deeds : List (Deed job)) :
    List job :=
  (deeds.filter (Deed.reads channel)).flatMap Deed.issued

/-- How often the reads of a connection asked for a close. -/
def closesBy
    (channel : ChannelId)
    (deeds : List (Deed job)) :
    Nat :=
  ((deeds.filter (Deed.reads channel)).map Deed.closes).foldl (· + ·) 0

/-- The reads of a connection hand over its messages, addressed as they should
be, and close it if and only if a piece is too long. -/
structure Faithful
    (framing : Framing)
    (deeds : List (Deed job))
    (channel : ChannelId)
    (address : String → job) : Prop where
  issued :
    issuedFor channel deeds =
      (framing.messages (received channel deeds)).map address
  closes :
    closesBy channel deeds =
      if framing.overruns (received channel deeds) then 1 else 0
  /-- A read puts its jobs behind those that wait and closes its own
  connection, as often as was counted; it changes nothing else. -/
  touches :
    ∀ deed ∈ deeds, deed.reads channel = true →
      deed.after =
        { crew :=
            { deed.before.crew with queue := deed.before.crew.queue ++ deed.issued }
          transport :=
            Nat.repeat (fun transport => (transport.close channel).2) deed.closes
              deed.before.transport }
  /-- Behind a piece that is too long a read does nothing at all. -/
  silent :
    ∀ earlier deed later, deeds = earlier ++ deed :: later →
      deed.reads channel = true →
      framing.overruns (received channel earlier) = true →
        deed.issued = [] ∧ deed.closes = 0

/-! ## One deed more -/

theorem received_snoc
    (channel : ChannelId)
    (deeds : List (Deed job))
    (deed : Deed job) :
    received channel (deeds ++ [deed]) =
      received channel deeds ++ deed.chunk channel := by
  simp [received]

theorem chunk_of_not_reads
    {channel : ChannelId}
    {deed : Deed job}
    (other : deed.reads channel = false) :
    deed.chunk channel = [] := by
  unfold Deed.chunk
  split
  · rename_i elsewhere chunk read
    simp only [Deed.reads, read, Option.map_some, Option.some.injEq,
      decide_eq_false_iff_not] at other
    rw [if_neg other]
  · rfl

theorem received_of_unread
    {channel : ChannelId}
    {deeds : List (Deed job)}
    (unread : ∀ deed ∈ deeds, deed.reads channel = false) :
    received channel deeds = [] :=
  List.flatMap_eq_nil_iff.mpr fun deed member => chunk_of_not_reads (unread deed member)

theorem issuedFor_snoc
    (channel : ChannelId)
    (deeds : List (Deed job))
    (deed : Deed job) :
    issuedFor channel (deeds ++ [deed]) =
      issuedFor channel deeds ++ if deed.reads channel then deed.issued else [] := by
  rw [issuedFor, List.filter_append]
  cases reads : deed.reads channel <;> simp [issuedFor, reads]

theorem closesBy_snoc
    (channel : ChannelId)
    (deeds : List (Deed job))
    (deed : Deed job) :
    closesBy channel (deeds ++ [deed]) =
      closesBy channel deeds + if deed.reads channel then deed.closes else 0 := by
  rw [closesBy, List.filter_append]
  cases reads : deed.reads channel <;> simp [closesBy, reads]

namespace Faithful

variable
  {framing : Framing}
  {deeds : List (Deed job)}
  {deed : Deed job}
  {channel : ChannelId}
  {address : String → job}

/-- On a connection that was never read nothing happened. -/
theorem of_unread
    (unread : ∀ deed ∈ deeds, deed.reads channel = false) :
    Faithful framing deeds channel address := by
  have nothing := received_of_unread unread
  have none : deeds.filter (Deed.reads channel) = [] := by
    rw [List.filter_eq_nil_iff]
    intro deed member
    simp [unread deed member]
  obtain ⟨messages, overruns⟩ := (Intake.follows_ofFraming framing).messages_eq
  refine ⟨?_, ?_, ?_, ?_⟩
  · rw [issuedFor, none, nothing, messages]
    rfl
  · rw [closesBy, none, nothing, overruns]
    rfl
  · intro deed member reads
    simp [unread deed member] at reads
  · rintro earlier deed later rfl reads
    simp [unread deed (by simp)] at reads

/-- A deed that reads something else changes nothing for a connection. -/
theorem snoc_of_not_reads
    (faithful : Faithful framing deeds channel address)
    (other : deed.reads channel = false) :
    Faithful framing (deeds ++ [deed]) channel address := by
  refine ⟨?_, ?_, ?_, ?_⟩
  · rw [issuedFor_snoc, received_snoc, chunk_of_not_reads other, List.append_nil,
      faithful.issued]
    simp [other]
  · rw [closesBy_snoc, received_snoc, chunk_of_not_reads other, List.append_nil,
      faithful.closes]
    simp [other]
  · intro last member reads
    rcases List.mem_append.mp member with earlier | same
    · exact faithful.touches last earlier reads
    · rw [List.mem_singleton.mp same, other] at reads
      simp at reads
  · intro earlier last later split reads
    rcases split_snoc split with ⟨-, rfl, -⟩ | ⟨shorter, before, -⟩
    · simp [other] at reads
    · exact faithful.silent earlier last shorter before reads

end Faithful

/-- What a read of a connection makes of the shared things. -/
structure Deed.Reads
    (deed : Deed job)
    (channel : ChannelId)
    (chunk : Bytes)
    (seat : Seat job) : Prop where
  read : deed.read = some (channel, chunk)
  crew :
    deed.after.crew =
      { deed.before.crew with
        queue := deed.before.crew.queue ++
          (seat.intake.read chunk).1.messages.map seat.address }
  transport :
    deed.after.transport =
      if (seat.intake.read chunk).2.closing && !seat.intake.closing then
        (deed.before.transport.close channel).2
      else deed.before.transport

namespace Deed.Reads

variable
  {deed : Deed job}
  {channel : ChannelId}
  {chunk : Bytes}
  {seat : Seat job}

theorem issued_eq (reads : deed.Reads channel chunk seat) :
    deed.issued = (seat.intake.read chunk).1.messages.map seat.address := by
  rw [Deed.issued, reads.crew]
  exact List.drop_left

theorem closes_eq (reads : deed.Reads channel chunk seat) :
    deed.closes =
      if (seat.intake.read chunk).2.closing && !seat.intake.closing then 1 else 0 := by
  rw [Deed.closes, reads.transport]
  split
  · rw [Transport.length_receipts_close]
    omega
  · omega

theorem after_eq (reads : deed.Reads channel chunk seat) :
    deed.after =
      { crew :=
          { deed.before.crew with queue := deed.before.crew.queue ++ deed.issued }
        transport :=
          Nat.repeat (fun transport => (transport.close channel).2) deed.closes
            deed.before.transport } := by
  rw [reads.issued_eq, reads.closes_eq, ← reads.crew]
  have transport := reads.transport
  split at transport
  · rename_i closes
    rw [if_pos closes, Nat.repeat, Nat.repeat, ← transport]
  · rename_i closes
    rw [if_neg closes, Nat.repeat, ← transport]

end Deed.Reads

/-- A read through an intake that has followed its connection is faithful. -/
theorem Faithful.snoc_of_reads
    {framing : Framing}
    {deeds : List (Deed job)}
    {deed : Deed job}
    {channel : ChannelId}
    {chunk : Bytes}
    {seat : Seat job}
    {messages : List String}
    (faithful : Faithful framing deeds channel seat.address)
    (follows : seat.intake.Follows framing (received channel deeds) messages)
    (reads : deed.Reads channel chunk seat) :
    Faithful framing (deeds ++ [deed]) channel seat.address := by
  have here : deed.reads channel = true := by
    simp [Deed.reads, reads.read]
  have arrived : deed.chunk channel = chunk := by
    simp [Deed.chunk, reads.read]
  obtain ⟨before, closing⟩ := follows.messages_eq
  obtain ⟨after, closingAfter⟩ := (follows.read chunk).messages_eq
  refine ⟨?_, ?_, ?_, ?_⟩
  · rw [issuedFor_snoc, received_snoc, arrived, faithful.issued, if_pos here,
      reads.issued_eq, before, after, List.map_append]
  · rw [closesBy_snoc, received_snoc, arrived, faithful.closes, if_pos here,
      reads.closes_eq, closing, closingAfter]
    cases was : seat.intake.closing with
    | false => simp
    | true =>
        have still : (seat.intake.read chunk).2.closing = true := by
          simp [Intake.read, was]
        simp [still]
  · intro last member lastReads
    rcases List.mem_append.mp member with earlier | same
    · exact faithful.touches last earlier lastReads
    · rw [List.mem_singleton.mp same]
      exact reads.after_eq
  · intro earlier last later split lastReads overruns
    rcases split_snoc split with ⟨rfl, rfl, -⟩ | ⟨shorter, shorterSplit, -⟩
    · have was : seat.intake.closing = true := by
        rw [← closing, overruns]
      rw [reads.issued_eq, reads.closes_eq]
      simp [Intake.read, was]
    · exact faithful.silent earlier last shorter shorterSplit lastReads overruns

/-! ## Facades -/

/-- What happens in a run, in any order. -/
inductive Move (step : Type) where
  /-- Somebody calls or reports. -/
  | act (action : step)
  /-- Handlers work off all messages that wait. -/
  | work
  /-- The serial context takes what is first in its queue. -/
  | serve
  deriving Repr, DecidableEq

/-- What a client and a server have in common. -/
structure Facade (σ move job : Type) where
  moved : σ → move → σ
  /-- The octets that a move brings, and on which connection. -/
  read? : σ → move → Option (ChannelId × Bytes)
  shared : σ → Shared job
  seat? : σ → ChannelId → Option (Seat job)

namespace Facade

/-- Where a run leads. -/
def after
    (facade : Facade σ move job)
    (state : σ)
    (moves : List move) :
    σ :=
  moves.foldl facade.moved state

/-- The deed of one move. -/
def deed
    (facade : Facade σ move job)
    (state : σ)
    (step : move) :
    Deed job :=
  { read := facade.read? state step
    before := facade.shared state
    after := facade.shared (facade.moved state step) }

/-- The deeds of a run. -/
def deeds (facade : Facade σ move job) : σ → List move → List (Deed job)
  | _, [] => []
  | state, step :: rest =>
      facade.deed state step :: facade.deeds (facade.moved state step) rest

theorem after_snoc
    (facade : Facade σ move job)
    (state : σ)
    (moves : List move)
    (step : move) :
    facade.after state (moves ++ [step]) = facade.moved (facade.after state moves) step := by
  simp [after]

theorem deeds_snoc
    (facade : Facade σ move job)
    (state : σ)
    (moves : List move)
    (step : move) :
    facade.deeds state (moves ++ [step]) =
      facade.deeds state moves ++ [facade.deed (facade.after state moves) step] := by
  induction moves generalizing state with
  | nil => rfl
  | cons first rest ih =>
      rw [List.cons_append, deeds, ih, deeds]
      rfl

end Facade

/-- What one move may make of the seats. -/
inductive Advances
    (framing : Framing)
    (seats : ChannelId → Option (Seat job))
    (deed : Deed job)
    (later : ChannelId → Option (Seat job)) : Prop where
  /-- It is no read.  Connections may be added. -/
  | quiet
      (unread : deed.read = none)
      (silent : deed.issued = [])
      (kept : ∀ channel seat, seats channel = some seat → later channel = some seat)
      (fresh :
        ∀ channel seat, seats channel = none → later channel = some seat →
          seat.intake = .ofFraming framing)
  /-- It is a read and goes through the seat of its connection. -/
  | reading
      {channel : ChannelId}
      {chunk : Bytes}
      {seat : Seat job}
      (here : seats channel = some seat)
      (reads : deed.Reads channel chunk seat)
      (there :
        later channel = some { seat with intake := (seat.intake.read chunk).2 })
      (elsewhere : ∀ other, other ≠ channel → later other = seats other)

/-- All seats have followed their connections, and every connection without a
seat is unread. -/
structure Seated
    (framing : Framing)
    (seats : ChannelId → Option (Seat job))
    (deeds : List (Deed job)) : Prop where
  followed :
    ∀ channel seat, seats channel = some seat →
      Faithful framing deeds channel seat.address ∧
        ∃ messages, seat.intake.Follows framing (received channel deeds) messages
  unread :
    ∀ channel, seats channel = none → ∀ deed ∈ deeds, deed.reads channel = false
  quiet : ∀ deed ∈ deeds, deed.read = none → deed.issued = []

namespace Seated

variable
  {framing : Framing}
  {seats later : ChannelId → Option (Seat job)}
  {deeds : List (Deed job)}
  {deed : Deed job}

/-- Where a connection is not read, it is followed as before. -/
theorem followed_of_not_reads
    {channel : ChannelId}
    {seat : Seat job}
    (other : deed.reads channel = false)
    (followed :
      Faithful framing deeds channel seat.address ∧
        ∃ messages, seat.intake.Follows framing (received channel deeds) messages) :
    Faithful framing (deeds ++ [deed]) channel seat.address ∧
      ∃ messages,
        seat.intake.Follows framing (received channel (deeds ++ [deed])) messages := by
  obtain ⟨faithful, follows⟩ := followed
  rw [received_snoc, chunk_of_not_reads other, List.append_nil]
  exact ⟨faithful.snoc_of_not_reads other, follows⟩

/-- A connection that was never read is followed by an intake of its own. -/
theorem followed_of_unread
    {channel : ChannelId}
    {seat : Seat job}
    (unread : ∀ deed ∈ deeds, deed.reads channel = false)
    (fresh : seat.intake = .ofFraming framing) :
    Faithful framing deeds channel seat.address ∧
      ∃ messages, seat.intake.Follows framing (received channel deeds) messages := by
  refine ⟨.of_unread unread, [], ?_⟩
  rw [received_of_unread unread, fresh]
  exact Intake.follows_ofFraming framing

theorem start
    (fresh : ∀ channel seat, seats channel = some seat → seat.intake = .ofFraming framing) :
    Seated framing seats [] where
  followed channel seat here := followed_of_unread (by simp) (fresh channel seat here)
  unread := by simp
  quiet := by simp

theorem snoc_of_quiet
    (seated : Seated framing seats deeds)
    (unread : deed.read = none)
    (silent : deed.issued = [])
    (kept : ∀ channel seat, seats channel = some seat → later channel = some seat)
    (fresh :
      ∀ channel seat, seats channel = none → later channel = some seat →
        seat.intake = .ofFraming framing) :
    Seated framing later (deeds ++ [deed]) := by
  have other : ∀ channel, deed.reads channel = false := by
    intro channel
    simp [Deed.reads, unread]
  refine ⟨?_, ?_, ?_⟩
  · intro channel seat there
    refine followed_of_not_reads (other channel) ?_
    cases here : seats channel with
    | none =>
        exact followed_of_unread (seated.unread channel here)
          (fresh channel seat here there)
    | some old =>
        have same := kept channel old here
        rw [there, Option.some.injEq] at same
        subst same
        exact seated.followed channel seat here
  · intro channel away last member
    rcases List.mem_append.mp member with earlier | same
    · cases here : seats channel with
      | none => exact seated.unread channel here last earlier
      | some old =>
          rw [kept channel old here] at away
          simp at away
    · rw [List.mem_singleton.mp same]
      exact other channel
  · intro last member lastUnread
    rcases List.mem_append.mp member with earlier | same
    · exact seated.quiet last earlier lastUnread
    · rw [List.mem_singleton.mp same]
      exact silent

theorem snoc_of_reads
    {channel : ChannelId}
    {chunk : Bytes}
    {seat : Seat job}
    (seated : Seated framing seats deeds)
    (here : seats channel = some seat)
    (reads : deed.Reads channel chunk seat)
    (there : later channel = some { seat with intake := (seat.intake.read chunk).2 })
    (elsewhere : ∀ other, other ≠ channel → later other = seats other) :
    Seated framing later (deeds ++ [deed]) := by
  have others : ∀ other, other ≠ channel → deed.reads other = false := by
    intro other different
    simp [Deed.reads, reads.read, Ne.symm different]
  refine ⟨?_, ?_, ?_⟩
  · intro other next seatedNext
    by_cases same : other = channel
    · subst same
      rw [there, Option.some.injEq] at seatedNext
      subst seatedNext
      obtain ⟨faithful, messages, follows⟩ := seated.followed other seat here
      have arrived : deed.chunk other = chunk := by
        simp [Deed.chunk, reads.read]
      rw [received_snoc, arrived]
      exact ⟨faithful.snoc_of_reads follows reads, _, follows.read chunk⟩
    · rw [elsewhere other same] at seatedNext
      exact followed_of_not_reads (others other same)
        (seated.followed other next seatedNext)
  · intro other away last member
    have different : other ≠ channel := by
      rintro rfl
      rw [there] at away
      simp at away
    rw [elsewhere other different] at away
    rcases List.mem_append.mp member with earlier | same
    · exact seated.unread other away last earlier
    · rw [List.mem_singleton.mp same]
      exact others other different
  · intro last member unread
    rcases List.mem_append.mp member with earlier | same
    · exact seated.quiet last earlier unread
    · rw [List.mem_singleton.mp same, reads.read] at unread
      simp at unread

/-- One move keeps everybody seated. -/
theorem snoc
    (seated : Seated framing seats deeds)
    (advances : Advances framing seats deed later) :
    Seated framing later (deeds ++ [deed]) := by
  cases advances with
  | quiet unread silent kept fresh =>
      exact seated.snoc_of_quiet unread silent kept fresh
  | reading here reads there elsewhere =>
      exact seated.snoc_of_reads here reads there elsewhere

end Seated

/-- What has to be known about one move of a facade, where `ok` holds of its
states. -/
structure Facade.Lawful
    (facade : Facade σ move job)
    (framing : Framing)
    (ok : σ → Prop) : Prop where
  kept : ∀ state step, ok state → ok (facade.moved state step)
  /-- A crew that was stopped stays so. -/
  accepted :
    ∀ state step, ok state →
      (facade.shared (facade.moved state step)).crew.accepting = true →
        (facade.shared state).crew.accepting = true
  advances :
    ∀ state step, ok state →
      (facade.shared (facade.moved state step)).crew.accepting = true →
        Advances framing (facade.seat? state) (facade.deed state step)
          (facade.seat? (facade.moved state step))

namespace Facade.Lawful

variable
  {facade : Facade σ move job}
  {framing : Framing}
  {ok : σ → Prop}

theorem ok_after
    (lawful : facade.Lawful framing ok)
    {state : σ}
    (start : ok state)
    (moves : List move) :
    ok (facade.after state moves) := by
  refine List.foldlRecOn moves _ start ?_
  intro given okay step _
  exact lawful.kept given step okay

/-- As long as the crew was not stopped, everybody is seated after a run. -/
theorem seated
    (lawful : facade.Lawful framing ok)
    {state : σ}
    (start : ok state)
    (fresh :
      ∀ channel seat, facade.seat? state channel = some seat →
        seat.intake = .ofFraming framing)
    (moves : List move)
    (accepting : (facade.shared (facade.after state moves)).crew.accepting = true) :
    Seated framing (facade.seat? (facade.after state moves))
      (facade.deeds state moves) := by
  -- By the last move: a crew that takes messages after it took them before it.
  induction moves using List.reverseRecOn with
  | nil => exact .start fresh
  | append_singleton moves step ih =>
      have okay := lawful.ok_after start moves
      rw [facade.after_snoc] at accepting ⊢
      rw [facade.deeds_snoc]
      have seated := ih (lawful.accepted _ step okay accepting)
      exact seated.snoc (lawful.advances _ step okay accepting)

end Facade.Lawful

end LineProtocol
