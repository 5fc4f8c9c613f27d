import LineProtocol.Proofs.Server.Roster
import LineProtocol.Proofs.Transport.Asked
import LineProtocol.Server.Core

/-!
# What a server's jobs do

A job leaves each connection on the roster or gives it up, unless the job says
that the connection is closed.  It asks for no close but those of connections,
with two exceptions: one job binds a listener, and two close it.

During a shutdown a job does nothing but turn away whoever wants to join, apart
from the phases of the shutdown.
-/

namespace LineProtocol

namespace Transport

/-! ## Binding -/

theorem reenter_eq (transport : Transport) :
    transport.reenter.listeners = transport.listeners ∧
      ∃ more, transport.reenter.calls = transport.calls ++ more ∧
        ∀ call ∈ more, call.Spares fun _ => False := by
  rw [reenter]
  split
  · refine ⟨rfl, [.shutdownRefused .serialContext], rfl, ?_⟩
    intro call member id
    rw [List.mem_singleton.mp member]
    rintro ⟨⟩
  · exact ⟨rfl, [], by simp, by simp⟩

/-- The listener was bound: it got the next number, and no close was asked for. -/
structure Binds
    (listener : Listener)
    (before after : Transport) : Prop extends Later before after where
  id : listener.id = ⟨before.nextId⟩
  fresh : after.nextId = before.nextId + 1
  listeners : after.listeners = before.listeners ++ [listener]
  requests :
    ∃ more, after.calls = before.calls ++ more ∧ ∀ call ∈ more, call.Spares fun _ => False

theorem bind_cases
    (transport : Transport)
    (address : SocketAddress) :
    (∃ reason, (transport.bind address).1 = .error reason ∧
        Asks (Call.Spares fun _ => False) transport (transport.bind address).2) ∨
      ∃ listener,
        (transport.bind address).1 = .ok listener ∧
          Binds listener transport (transport.bind address).2 := by
  have later := transport.later_bind address
  obtain ⟨listeners, more, calls, spared⟩ := transport.reenter_eq
  have asked :
      (transport.reenter.record (.bind address)).calls =
        transport.calls ++ (more ++ [.bind address]) := by
    rw [calls_record, calls, List.append_assoc]
  have spares : ∀ call ∈ more ++ [.bind address], call.Spares fun _ => False := by
    intro call member
    rcases List.mem_append.mp member with early | last
    · exact spared call early
    · rw [List.mem_singleton.mp last]
      exact fun _ => nofun
  rw [bind] at later ⊢
  simp only at later ⊢
  cases planned : (transport.reenter.record (.bind address)).failure with
  | some reason =>
      left
      rw [planned] at later
      exact ⟨reason, rfl, later, listeners, _, asked, spares⟩
  | none =>
      right
      rw [planned] at later
      have nextId : (transport.reenter.record (.bind address)).nextId = transport.nextId :=
        transport.nextId_reenter
      refine ⟨_, rfl, later, ?_, ?_, ?_, _, asked, spares⟩
      · simp [newId, nextId]
      · simp [newId, nextId]
      · exact congrArg (· ++ _) listeners

end Transport

/-- The job lets a connection join. -/
def ServerJob.Joins
    (task : ServerJob)
    (id : ChannelId) :
    Prop :=
  ∃ member, task = .join member ∧ member.channel = id

/-- The job says that a connection is closed. -/
def ServerJob.Leaves
    (task : ServerJob)
    (id : ChannelId) :
    Prop :=
  ∃ member, task = .leave member ∧ member.channel = id

/-- Who joins or leaves has the identity of the connection. -/
def ServerJob.Linked
    (identityOf : ChannelId → Option Identity) :
    ServerJob → Prop
  | .join member => identityOf member.channel = some member.identity
  | .leave member => identityOf member.channel = some member.identity
  | _ => True

namespace ServerCore

/-! ## What there is to a job -/

/-- What becomes of the connections. -/
structure Tends
    (task : ServerJob)
    (before after : ServerCore) : Prop where
  orderly : before.roster.Orderly → after.roster.Orderly
  gained : ∀ id, after.roster.Holds id → before.roster.Holds id ∨ task.Joins id
  lost :
    before.transport.Numbered → before.roster.Orderly →
      ∀ id, before.roster.Holds id →
        after.roster.Holds id ∨ task.Leaves id ∨ after.transport.GivenUp id
  joined : ∀ id, task.Joins id → after.roster.Holds id ∨ after.transport.GivenUp id

/-- What becomes of the listener, and which connections are asked to be
closed. -/
inductive Deals
    (among : ChannelId → Prop)
    (before after : ServerCore) : Prop where
  | asks
    (listener : after.listener = before.listener)
    (asks : Transport.Asks (Call.Spares among) before.transport after.transport)
  | binds
    (listener : Listener)
    (absent : before.listener = none)
    (present : after.listener = some listener)
    (binds : Transport.Binds listener before.transport after.transport)
  | closes
    (listener : Listener)
    (present : before.listener = some listener)
    (absent : after.listener = none)
    (closes : after.transport = (before.transport.closeListener listener).2)

/-- Where the roster has the same clients. -/
theorem tends_of_holds_iff
    {task : ServerJob}
    {before after : ServerCore}
    (orderly : before.roster.Orderly → after.roster.Orderly)
    (same : ∀ id, after.roster.Holds id ↔ before.roster.Holds id)
    (noJoin : ∀ member, task ≠ .join member) :
    Tends task before after where
  orderly := orderly
  gained id held := .inl ((same id).mp held)
  lost _ _ id held := .inl ((same id).mpr held)
  joined id joins := by
    obtain ⟨member, joins, -⟩ := joins
    exact (noJoin member joins).elim

theorem tends_of_eq
    {task : ServerJob}
    {before after : ServerCore}
    (roster : after.roster = before.roster)
    (noJoin : ∀ member, task ≠ .join member) :
    Tends task before after := by
  apply tends_of_holds_iff _ _ noJoin
  · rw [roster]
    exact id
  · intro id
    rw [roster]

/-- Where the clients stay and the state is published. -/
theorem tends_publishState
    {task : ServerJob}
    {before after : ServerCore}
    {roster : Roster}
    (published : after.roster = roster.publishState)
    (members : roster.members = before.roster.members)
    (order : roster.order = before.roster.order)
    (noJoin : ∀ member, task ≠ .join member) :
    Tends task before after := by
  apply tends_of_holds_iff _ _ noJoin
  · intro orderly
    rw [published]
    exact orderly.publishState members order
  · intro id
    rw [published]
    exact Roster.holds_publishState_iff members id

theorem deals_of_eq
    {among : ChannelId → Prop}
    {before after : ServerCore}
    (listener : after.listener = before.listener)
    (transport : after.transport = before.transport) :
    Deals among before after :=
  .asks listener (transport ▸ .refl _)

/-! ## The jobs one by one -/

theorem listen_spec
    (among : ChannelId → Prop)
    (core : ServerCore)
    (port : UInt16) :
    Tends (.listen port) core (core.listen port) ∧ Deals among core (core.listen port) := by
  rw [listen]
  split
  · exact ⟨tends_of_eq rfl nofun, deals_of_eq rfl rfl⟩
  · split
    · exact ⟨tends_of_eq rfl nofun, deals_of_eq rfl rfl⟩
    · rename_i absent
      have bound := core.transport.bind_cases { ip := core.bindIp, port }
      rcases whole : core.transport.bind { ip := core.bindIp, port } with ⟨outcome, transport⟩
      rw [whole] at bound
      rcases bound with ⟨reason, rfl, asks⟩ | ⟨listener, rfl, binds⟩
      · simp only [whole]
        refine ⟨tends_publishState rfl rfl rfl nofun, .asks rfl ?_⟩
        exact asks.mono fun call spares id here => (spares id here).elim
      · simp only [whole]
        exact ⟨tends_publishState rfl rfl rfl nofun, .binds _ absent rfl binds⟩

theorem join_spec
    (core : ServerCore)
    (member : Member) :
    Tends (.join member) core (core.join member) ∧
      Deals (· = member.channel) core (core.join member) := by
  have joins : ∀ id, (ServerJob.join member).Joins id ↔ id = member.channel := by
    intro id
    constructor
    · rintro ⟨other, ⟨⟩, rfl⟩
      rfl
    · rintro rfl
      exact ⟨member, rfl, rfl⟩
  rcases core.roster.add_cases member with ⟨cause, refused⟩ | ⟨-, -, added⟩
  · have whole :
        core.join member =
          { core with transport := (core.transport.close member.channel).2 }.note
            (.connectionRejected member.channel cause) := by
      rw [join, refused]
    rw [whole]
    refine ⟨⟨id, ?_, ?_, ?_⟩, .asks rfl ?_⟩
    · exact fun id held => .inl held
    · exact fun _ _ id held => .inl held
    · intro id here
      obtain rfl := (joins id).mp here
      exact .inr (Transport.givenUp_close _ _)
    · apply Transport.asks_close
      rintro id ⟨⟩
      rfl
  · have whole :
        core.join member =
          { core with
            roster := (core.roster.add member).2
            transport := core.transport.resume member.channel } := by
      rw [join, added]
    have holds := Roster.holds_add_iff (congrArg Prod.fst added)
    rw [whole]
    refine ⟨⟨fun orderly => orderly.add member, ?_, ?_, ?_⟩, .asks rfl ?_⟩
    · intro id held
      exact ((holds id).mp held).imp_right (joins id).mpr
    · exact fun _ _ id held => .inl ((holds id).mpr (.inl held))
    · exact fun id here => .inl ((holds id).mpr (.inr ((joins id).mp here)))
    · exact Transport.asks_record _ fun _ => nofun

theorem leave_spec
    (among : ChannelId → Prop)
    (core : ServerCore)
    (member : Member) :
    Tends (.leave member) core (core.leave member) ∧ Deals among core (core.leave member) := by
  refine ⟨⟨fun orderly => orderly.remove _ _, ?_, ?_, ?_⟩, deals_of_eq rfl rfl⟩
  · exact fun id held => .inl (Roster.holds_of_remove held)
  · intro _ _ id held
    rcases Roster.holds_remove held member.identity member.channel with still | rfl
    · exact .inl still
    · exact .inr (.inl ⟨member, rfl, rfl⟩)
  · rintro id ⟨other, ⟨⟩, -⟩

/-- Roster and listener stay, and nothing is asked to be closed. -/
structure Speaks (before after : ServerCore) : Prop where
  roster : after.roster = before.roster
  listener : after.listener = before.listener
  asks :
    Transport.Asks (Call.Spares fun _ => False) before.transport after.transport

theorem Speaks.spec
    {task : ServerJob}
    {before after : ServerCore}
    (speaks : Speaks before after)
    (among : ChannelId → Prop)
    (noJoin : ∀ member, task ≠ .join member) :
    Tends task before after ∧ Deals among before after := by
  refine ⟨tends_of_eq speaks.roster noJoin, .asks speaks.listener ?_⟩
  exact speaks.asks.mono fun call spares id here => (spares id here).elim

theorem speaks_send
    (core : ServerCore)
    (message : String)
    (target : Option Identity) :
    Speaks core (core.send message target) := by
  rw [send]
  split
  · exact ⟨rfl, rfl, .refl _⟩
  · rename_i member named
    have asks :
        Transport.Asks (Call.Spares fun _ => False) core.transport
          (core.transport.write member.channel (core.encoder.encode message).1).2 :=
      Transport.asks_write _ fun _ => nofun
    simp only
    split
    · exact ⟨rfl, rfl, asks⟩
    · exact ⟨rfl, rfl, asks⟩

theorem speaks_deliver
    (frame : Bytes)
    (core : ServerCore)
    (member : Member) :
    Speaks core (deliver frame core member) := by
  have asks :
      Transport.Asks (Call.Spares fun _ => False) core.transport
        (core.transport.write member.channel frame).2 :=
    Transport.asks_write _ fun _ => nofun
  simp only [deliver]
  split
  · exact ⟨rfl, rfl, asks⟩
  · exact ⟨rfl, rfl, asks⟩

theorem speaks_broadcast
    (core : ServerCore)
    (message : String) :
    Speaks core (core.broadcast message) := by
  simp only [broadcast]
  apply List.foldlRecOn (motive := Speaks core) core.roster.toList
  · exact ⟨rfl, rfl, .refl _⟩
  · intro given before member _
    have last := speaks_deliver (core.encoder.encode message).1 given member
    exact ⟨last.roster.trans before.roster, last.listener.trans before.listener,
      before.asks.trans last.asks⟩

theorem kick_spec
    (core : ServerCore)
    (identity : Identity) :
    Tends (.kick identity) core (core.kick identity) ∧
      Deals core.roster.Holds core (core.kick identity) := by
  rw [kick]
  split
  · exact ⟨tends_of_eq rfl nofun, deals_of_eq rfl rfl⟩
  · rename_i member named
    rcases core.roster.remove_cases identity member.channel with
      same | ⟨other, found, theirs, removed⟩
    · rw [same]
      exact ⟨tends_of_eq rfl nofun, deals_of_eq rfl rfl⟩
    · obtain rfl : member = other := Option.some.inj (named.symm.trans found)
      have gone : core.roster.remove identity member.channel =
          (some member, (core.roster.remove identity member.channel).2) := by
        rw [removed]
      rw [gone]
      refine ⟨⟨fun orderly => orderly.remove _ _, ?_, ?_, ?_⟩, .asks rfl ?_⟩
      · exact fun id held => .inl (Roster.holds_of_remove held)
      · intro _ _ id held
        rcases Roster.holds_remove held identity member.channel with still | rfl
        · exact .inl still
        · exact .inr (.inr (Transport.givenUp_close _ _))
      · rintro id ⟨other, ⟨⟩, -⟩
      · apply Transport.asks_close
        rintro id ⟨⟩
        exact ⟨identity, member, named, rfl⟩

theorem stopListening_spec
    (among : ChannelId → Prop)
    (core : ServerCore) :
    Tends .stopListening core core.stopListening ∧ Deals among core core.stopListening := by
  rw [stopListening]
  split
  · exact ⟨tends_of_eq rfl nofun, deals_of_eq rfl rfl⟩
  · rename_i listener present
    exact ⟨tends_publishState rfl rfl rfl nofun, .closes listener present rfl rfl⟩

/-- What any job does, apart from the phases of a shutdown. -/
theorem run_spec
    (core : ServerCore)
    {task : ServerJob}
    (first : task ≠ .beginShutdown)
    (last : task ≠ .finishShutdown) :
    Tends task core (task.run core).2 ∧
      Deals (fun id => core.roster.Holds id ∨ task.Joins id) core (task.run core).2 := by
  have weaken :
      ∀ {among others : ChannelId → Prop} {after : ServerCore},
        Deals among core after → (∀ id, among id → others id) →
          Deals others core after := by
    intro among others after deals weaker
    cases deals with
    | asks listener asks =>
        exact .asks listener (asks.mono fun call spares id here => weaker id (spares id here))
    | binds listener absent present binds => exact .binds listener absent present binds
    | closes listener present absent closes => exact .closes listener present absent closes
  cases task with
  | listen port => exact core.listen_spec _ port
  | join member =>
      obtain ⟨tends, deals⟩ := core.join_spec member
      refine ⟨tends, weaken deals ?_⟩
      rintro id rfl
      exact .inr ⟨member, rfl, rfl⟩
  | leave member => exact core.leave_spec _ member
  | send message target => exact (core.speaks_send message target).spec _ nofun
  | broadcast message => exact (core.speaks_broadcast message).spec _ nofun
  | kick identity =>
      obtain ⟨tends, deals⟩ := core.kick_spec identity
      exact ⟨tends, weaken deals fun id held => .inl held⟩
  | stopListening => exact core.stopListening_spec _
  | beginShutdown => exact (first rfl).elim
  | finishShutdown => exact (last rfl).elim

theorem Deals.later
    {among : ChannelId → Prop}
    {before after : ServerCore}
    (deals : Deals among before after) :
    Transport.Later before.transport after.transport := by
  cases deals with
  | asks listener asks => exact asks.toLater
  | binds listener absent present binds => exact binds.toLater
  | closes listener present absent closes =>
      rw [closes]
      exact Transport.later_closeListener _ listener

/-! ## The phases of a shutdown -/

/-- All connections in a list are given up, each with a receipt. -/
theorem closeAll_spec
    (members : List Member)
    (transport : Transport) :
    Transport.Asks (Call.Closes fun id => ∃ member ∈ members, member.channel = id)
        transport (closeAll members transport).2 ∧
      (∀ closing ∈ (closeAll members transport).1,
        closing.ticket.number < (closeAll members transport).2.receipts.length) ∧
      (transport.Numbered →
        ∀ member ∈ members, (closeAll members transport).2.GivenUp member.channel) := by
  induction members generalizing transport with
  | nil => exact ⟨.refl _, by simp [closeAll], by simp⟩
  | cons member members ih =>
      obtain ⟨asks, tickets, givenUp⟩ := ih (transport.close member.channel).2
      have closes :
          Transport.Asks
            (Call.Closes fun id => ∃ other ∈ member :: members, other.channel = id)
            transport (transport.close member.channel).2 :=
        Transport.asks_close _ ⟨_, rfl, member, List.mem_cons_self, rfl⟩
      refine ⟨closes.trans ?_, ?_, ?_⟩
      · refine asks.mono fun call closes => closes.mono ?_
        rintro id ⟨other, there, about⟩
        exact ⟨other, List.mem_cons_of_mem _ there, about⟩
      · intro closing listed
        rcases List.mem_cons.mp listed with rfl | behind
        · exact Nat.lt_of_lt_of_le (Transport.number_lt_close _ _) asks.issued
        · exact tickets closing behind
      · intro numbered other listed
        have still := closes.numbered numbered
        rcases List.mem_cons.mp listed with rfl | behind
        · exact (Transport.givenUp_close _ _).later asks.toLater still
        · exact givenUp still other behind

theorem closeListener_cases (core : ServerCore) :
    (core.listener = none ∧ core.closeListener = ([], core)) ∨
      ∃ listener,
        core.listener = some listener ∧
          core.closeListener =
            ([⟨"listener " ++ listener.address.text,
                (core.transport.closeListener listener).1⟩],
              { core with
                transport := (core.transport.closeListener listener).2
                listener := none }) := by
  rw [closeListener]
  cases here : core.listener with
  | none => exact .inl ⟨rfl, rfl⟩
  | some listener => exact .inr ⟨listener, rfl, rfl⟩

/-- The first phase closes the listener, then all connections. -/
structure Clears (before after : ServerCore) : Prop where
  roster : after.roster = before.roster.beginShutdown.drain.2
  listener : after.listener = none
  localAddress : after.localAddress = before.localAddress
  deals :
    ∃ between : ServerCore,
      Deals (fun _ => False) before between ∧ between.listener = none ∧
        Transport.Asks (Call.Closes before.roster.Holds) between.transport after.transport
  asks : Transport.Asks (Call.Closes fun _ => True) before.transport after.transport
  givenUp :
    before.transport.Numbered → before.roster.Orderly →
      ∀ id, before.roster.Holds id → after.transport.GivenUp id

theorem clears_beginShutdown (core : ServerCore) :
    Clears core core.beginShutdown.2 ∧
      ∀ closing ∈ core.beginShutdown.1,
        closing.ticket.number < core.beginShutdown.2.transport.receipts.length := by
  obtain ⟨listed, -, -⟩ := core.roster.drain_beginShutdown
  have holds :
      ∀ id, (∃ member ∈ core.roster.toList, member.channel = id) →
        core.roster.Holds id := by
    rintro id ⟨member, there, about⟩
    obtain ⟨identity, -, found⟩ := List.mem_filterMap.mp there
    exact ⟨identity, member, found, about⟩
  rcases closeListener_cases { core with roster := core.roster.beginShutdown } with
    ⟨absent, whole⟩ | ⟨listener, present, whole⟩
  · obtain ⟨asks, tickets, givenUp⟩ := closeAll_spec core.roster.toList core.transport
    simp only [beginShutdown, whole, listed]
    refine
      ⟨⟨rfl, absent, rfl, ⟨core, deals_of_eq rfl rfl, absent, ?_⟩, ?_, ?_⟩, tickets⟩
    · exact asks.mono fun call closes => closes.mono holds
    · exact asks.mono fun call closes => closes.mono fun _ _ => trivial
    · intro numbered orderly id held
      obtain ⟨member, there, rfl⟩ := (Roster.mem_toList_iff orderly id).mpr held
      exact givenUp numbered member there
  · obtain ⟨asks, tickets, givenUp⟩ :=
      closeAll_spec core.roster.toList (core.transport.closeListener listener).2
    have closes :
        Transport.Asks (Call.Closes fun _ => True) core.transport
          (core.transport.closeListener listener).2 :=
      Transport.asks_requestClose _ ⟨_, rfl, trivial⟩
    let between : ServerCore :=
      { core with
        transport := (core.transport.closeListener listener).2
        listener := none }
    simp only [beginShutdown, whole, listed]
    refine
      ⟨⟨rfl, rfl, rfl, ⟨between, .closes listener present rfl rfl, rfl, ?_⟩,
        ?_, ?_⟩, ?_⟩
    · exact asks.mono fun call closes => closes.mono holds
    · exact closes.trans (asks.mono fun call closes => closes.mono fun _ _ => trivial)
    · intro numbered orderly id held
      obtain ⟨member, there, rfl⟩ := (Roster.mem_toList_iff orderly id).mpr held
      exact givenUp (closes.numbered numbered) member there
    · intro closing there
      rcases List.mem_cons.mp there with rfl | behind
      · have issued := (Transport.requestClose_eq core.transport listener.id).2.2.2.2
        exact Nat.lt_of_lt_of_le issued asks.issued
      · exact tickets closing behind

/-- The last phase takes the address back, and asks for nothing. -/
theorem finishShutdown_spec (core : ServerCore) :
    core.finishShutdown.roster = core.roster.finishShutdown ∧
      core.finishShutdown.listener = core.listener ∧
      core.finishShutdown.localAddress = core.localAddress.publish none ∧
      core.finishShutdown.transport.receipts = core.transport.receipts ∧
      Transport.Asks (fun _ => False) core.transport core.finishShutdown.transport := by
  refine ⟨rfl, rfl, rfl, ?_, ?_⟩
  · show (if core.ownsTransport then core.transport.stop else core.transport).receipts = _
    split
    · rfl
    · rfl
  · show Transport.Asks _ _ (if core.ownsTransport then core.transport.stop else core.transport)
    split
    · exact Transport.asks_stop _
    · exact .refl _

theorem tends_run
    (core : ServerCore)
    (task : ServerJob) :
    Tends task core (task.run core).2 := by
  by_cases first : task = .beginShutdown
  · subst first
    have clears := core.clears_beginShutdown.1
    obtain ⟨-, drained, -⟩ := core.roster.drain_beginShutdown
    rw [← clears.roster] at drained
    refine ⟨fun _ => drained.orderly, ?_, ?_, ?_⟩
    · exact fun id held => (drained.not_holds id held).elim
    · exact fun numbered orderly id held => .inr (.inr (clears.givenUp numbered orderly id held))
    · rintro id ⟨member, ⟨⟩, -⟩
  · by_cases last : task = .finishShutdown
    · subst last
      exact tends_publishState core.finishShutdown_spec.1 rfl rfl nofun
    · exact (core.run_spec first last).1

theorem later_run
    (core : ServerCore)
    (task : ServerJob) :
    Transport.Later core.transport (task.run core).2.transport := by
  by_cases first : task = .beginShutdown
  · subst first
    exact core.clears_beginShutdown.1.asks.toLater
  · by_cases last : task = .finishShutdown
    · subst last
      exact core.finishShutdown_spec.2.2.2.2.toLater
    · exact (core.run_spec first last).2.later

/-- Nothing was done but to ask for closes. -/
structure Rests (before after : ServerCore) : Prop where
  roster : after.roster = before.roster
  listener : after.listener = before.listener
  localAddress : after.localAddress = before.localAddress
  asks : Transport.Asks (Call.Closes fun _ => True) before.transport after.transport

theorem Rests.refl (core : ServerCore) : Rests core core :=
  ⟨rfl, rfl, rfl, .refl _⟩

theorem rests_note
    (core : ServerCore)
    (notice : Notice) :
    Rests core (core.note notice) :=
  ⟨rfl, rfl, rfl, .refl _⟩

/-- During a shutdown nothing is done but to close connections. -/
theorem rests_run
    {core : ServerCore}
    {task : ServerJob}
    (drained : core.roster.Drained)
    (absent : core.listener = none)
    (first : task ≠ .beginShutdown)
    (last : task ≠ .finishShutdown) :
    Rests core (task.run core).2 := by
  cases task with
  | listen port =>
      have refused : core.listen port = core.note (.listenDuringShutdown port) := by
        rw [listen, if_pos drained.shutting]
      show Rests core (core.listen port)
      rw [refused]
      exact core.rests_note _
  | join member =>
      have refused : core.roster.add member = (.error .tornDown, core.roster) := by
        rw [Roster.add, if_pos drained.shutting]
      show Rests core (core.join member)
      rw [join, refused]
      exact ⟨rfl, rfl, rfl, Transport.asks_close _ ⟨_, rfl, trivial⟩⟩
  | leave member =>
      have gone : core.roster.remove member.identity member.channel = (none, core.roster) := by
        rw [Roster.remove, drained.members]
      show Rests core (core.leave member)
      rw [leave, gone]
      exact .refl core
  | send message target =>
      have nobody : ∃ cause, core.recipient target = .error cause := by
        cases target with
        | some identity =>
            exact ⟨.unknownIdentity identity, by simp [recipient, drained.members]⟩
        | none =>
            exact ⟨.noClients, by simp [recipient, Roster.mostRecent?, drained.order]⟩
      obtain ⟨cause, nobody⟩ := nobody
      show Rests core (core.send message target)
      rw [send, nobody]
      exact core.rests_note _
  | broadcast message =>
      have nobody : core.roster.toList = [] := by simp [Roster.toList, drained.order]
      show Rests core (core.broadcast message)
      rw [broadcast, nobody]
      exact ⟨rfl, rfl, rfl, .refl _⟩
  | kick identity =>
      show Rests core (core.kick identity)
      rw [kick, drained.members]
      exact .refl core
  | stopListening =>
      show Rests core core.stopListening
      rw [stopListening, absent]
      exact .refl core
  | beginShutdown => exact (first rfl).elim
  | finishShutdown => exact (last rfl).elim

end ServerCore

end LineProtocol
