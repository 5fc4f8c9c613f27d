import LineProtocol.Proofs.Dispatch.Facade
import LineProtocol.Proofs.Serial.Keeping
import LineProtocol.Server.Session

/-!
# What a server reads

A server is a `Facade` like a client.  Each accepted connection gets a number
that no other has, and with it an identity and an intake of its own, which
stay its own however many connections come later.  A read goes through the
intake of its connection and addresses its messages with that identity.  Every
other move leaves the intakes that are there alone and hands nothing over.
-/

namespace LineProtocol

/-! ## Jobs -/

namespace ServerCore

/-- No message was handed over, and no number was taken back. -/
structure Quiet (before after : ServerCore) : Prop where
  crew : before.crew.Quiet after.crew
  nextId : before.transport.nextId ≤ after.transport.nextId

theorem Quiet.refl (core : ServerCore) : Quiet core core :=
  ⟨.refl _, Nat.le_refl _⟩

theorem Quiet.trans
    {first second third : ServerCore}
    (one : Quiet first second)
    (two : Quiet second third) :
    Quiet first third :=
  ⟨one.crew.trans two.crew, Nat.le_trans one.nextId two.nextId⟩

/-- Where only the roster, the listener and the transport changed. -/
theorem quiet_of_eq
    {before after : ServerCore}
    (crew : after.crew = before.crew)
    (nextId : before.transport.nextId ≤ after.transport.nextId) :
    Quiet before after :=
  ⟨by rw [crew]; exact .refl _, nextId⟩

theorem quiet_listen
    (core : ServerCore)
    (port : UInt16) :
    Quiet core (core.listen port) := by
  unfold listen
  split
  · exact quiet_of_eq rfl (Nat.le_refl _)
  · split
    · exact quiet_of_eq rfl (Nat.le_refl _)
    · have numbers := core.transport.nextId_le_bind { ip := core.bindIp, port }
      simp only
      split
      · rename_i listener transport bound
        rw [bound] at numbers
        exact quiet_of_eq rfl numbers
      · rename_i reason transport bound
        rw [bound] at numbers
        exact quiet_of_eq rfl numbers

theorem quiet_join
    (core : ServerCore)
    (member : Member) :
    Quiet core (core.join member) := by
  unfold join
  split
  · exact quiet_of_eq rfl (Nat.le_refl _)
  · refine quiet_of_eq rfl (Nat.le_of_eq ?_)
    exact (core.transport.nextId_close member.channel).symm

theorem quiet_send
    (core : ServerCore)
    (message : String)
    (target : Option Identity) :
    Quiet core (core.send message target) := by
  unfold send
  split
  · exact quiet_of_eq rfl (Nat.le_refl _)
  · rename_i member found
    have numbers :=
      core.transport.nextId_write member.channel (core.encoder.encode message).1
    simp only
    split
    · exact quiet_of_eq rfl (Nat.le_of_eq numbers.symm)
    · exact quiet_of_eq rfl (Nat.le_of_eq numbers.symm)

theorem quiet_deliver
    (frame : Bytes)
    (core : ServerCore)
    (member : Member) :
    Quiet core (deliver frame core member) := by
  have numbers := core.transport.nextId_write member.channel frame
  simp only [deliver]
  split
  · exact quiet_of_eq rfl (Nat.le_of_eq numbers.symm)
  · exact quiet_of_eq rfl (Nat.le_of_eq numbers.symm)

theorem quiet_broadcast
    (core : ServerCore)
    (message : String) :
    Quiet core (core.broadcast message) := by
  unfold broadcast
  refine List.foldlRecOn core.roster.toList _ ?_ ?_
  · exact quiet_of_eq rfl (Nat.le_refl _)
  · intro given quiet member _
    exact quiet.trans (quiet_deliver _ given member)

theorem quiet_kick
    (core : ServerCore)
    (identity : Identity) :
    Quiet core (core.kick identity) := by
  unfold kick
  split
  · exact .refl core
  · split
    · exact quiet_of_eq rfl (Nat.le_refl _)
    · rename_i member roster removed
      refine quiet_of_eq rfl (Nat.le_of_eq ?_)
      exact (core.transport.nextId_close member.channel).symm

theorem quiet_stopListening (core : ServerCore) : Quiet core core.stopListening := by
  unfold stopListening
  split
  · exact .refl core
  · rename_i listener bound
    refine quiet_of_eq rfl (Nat.le_of_eq ?_)
    exact (core.transport.nextId_closeListener listener).symm

theorem quiet_closeListener (core : ServerCore) : Quiet core core.closeListener.2 := by
  unfold closeListener
  split
  · exact .refl core
  · rename_i listener bound
    refine quiet_of_eq rfl (Nat.le_of_eq ?_)
    exact (core.transport.nextId_closeListener listener).symm

theorem nextId_closeAll
    (members : List Member)
    (transport : Transport) :
    (closeAll members transport).2.nextId = transport.nextId := by
  induction members generalizing transport with
  | nil => rfl
  | cons member rest ih =>
      simp only [closeAll, ih]
      exact transport.nextId_close member.channel

theorem quiet_beginShutdown (core : ServerCore) : Quiet core core.beginShutdown.2 := by
  unfold beginShutdown
  simp only
  have announced : Quiet core { core with roster := core.roster.beginShutdown } :=
    quiet_of_eq rfl (Nat.le_refl _)
  refine (announced.trans (quiet_closeListener _)).trans ?_
  refine quiet_of_eq rfl (Nat.le_of_eq ?_)
  exact (nextId_closeAll _ _).symm

theorem quiet_finishShutdown (core : ServerCore) : Quiet core core.finishShutdown := by
  refine ⟨core.crew.quiet_stop, Nat.le_of_eq ?_⟩
  simp only [finishShutdown, announce]
  split
  · rfl
  · rfl

end ServerCore

/-- No job hands a message over or takes a number back. -/
theorem ServerJob.keeps_quiet : ServerJob.craft.Keeps ServerCore.Quiet where
  refl := .refl
  trans _ _ _ := .trans
  run stopped task core := by
    cases task with
    | listen port => exact core.quiet_listen port
    | join member => exact core.quiet_join member
    | leave member => exact ServerCore.quiet_of_eq rfl (Nat.le_refl _)
    | send message target => exact core.quiet_send message target
    | broadcast message => exact core.quiet_broadcast message
    | kick identity => exact core.quiet_kick identity
    | stopListening => exact core.quiet_stopListening
    | beginShutdown => exact core.quiet_beginShutdown
    | finishShutdown => exact core.quiet_finishShutdown

/-! ## Sessions -/

/-- The part of a server that reads a connection. -/
def Link.seat (link : Link) : Seat Parcel :=
  { intake := link.intake
    address := fun text => { sender := link.identity, text } }

namespace ServerSession

/-- How new connections are read and named. -/
def ways (session : ServerSession) : Framing × (Option String → IdentityPolicy) × Nat :=
  (session.framing, session.policy, session.seed)

/-- Nothing was read, and no connection was added. -/
structure Quiet (before after : ServerSession) : Prop where
  links : after.links = before.links
  ways : after.ways = before.ways
  core : before.core.Quiet after.core
  messages : before.messages <+: after.messages

theorem Quiet.refl (session : ServerSession) : Quiet session session :=
  ⟨rfl, rfl, .refl _, List.prefix_rfl⟩

theorem Quiet.trans
    {first second third : ServerSession}
    (one : Quiet first second)
    (two : Quiet second third) :
    Quiet first third :=
  ⟨two.links.trans one.links, two.ways.trans one.ways, one.core.trans two.core,
    one.messages.trans two.messages⟩

theorem quiet_context
    {session : ServerSession}
    {context : ServerContext}
    (kept : session.core.Quiet context.state) :
    Quiet session { session with context } :=
  ⟨rfl, rfl, kept, List.prefix_rfl⟩

theorem quiet_submit
    (session : ServerSession)
    (job : ServerJob) :
    Quiet session (session.submit job).2 := by
  have kept : session.core.Quiet (session.context.submit job).2.state := by
    rw [Serial.state_submit]
    exact .refl _
  exact quiet_context kept

theorem quiet_offer
    (session : ServerSession)
    (job : ServerJob) :
    Quiet session (session.offer job) :=
  session.quiet_submit job

/-- A change of the transport that gives out no number again. -/
theorem quiet_alterTransport
    {session : ServerSession}
    {change : Transport → Transport}
    (nextId :
      (change session.core.transport).nextId = session.core.transport.nextId) :
    Quiet session (session.alterTransport change) :=
  ⟨rfl, rfl, ServerCore.quiet_of_eq rfl (Nat.le_of_eq nextId.symm), List.prefix_rfl⟩

theorem quiet_note
    (session : ServerSession)
    (notice : Notice) :
    Quiet session (session.note notice) :=
  ⟨rfl, rfl, .refl _, List.prefix_rfl⟩

theorem quiet_handle
    (session : ServerSession)
    (parcel : Parcel) :
    Quiet session (session.handle parcel) := by
  unfold handle
  refine List.foldlRecOn (session.handler parcel.text).actions _ ?_ ?_
  · exact ⟨rfl, rfl, .refl _, List.prefix_append _ _⟩
  · intro given quiet action _
    exact quiet.trans (given.quiet_offer _)

theorem quiet_handleAll (session : ServerSession) : Quiet session session.handleAll := by
  unfold handleAll
  refine List.foldlRecOn session.core.crew.queue _ ?_ ?_
  · exact ⟨rfl, rfl, ⟨Crew.quiet_settle _ _, Nat.le_refl _⟩, List.prefix_rfl⟩
  · intro given quiet parcel _
    exact quiet.trans (given.quiet_handle parcel)

theorem quiet_beginShutdown (session : ServerSession) :
    Quiet session session.beginShutdown.2 :=
  quiet_context (ServerJob.keeps_quiet.call session.context .beginShutdown)

theorem quiet_awaitClose
    (session : ServerSession)
    (closing : Closing) :
    Quiet session (session.awaitClose closing) := by
  unfold awaitClose
  split
  · exact .refl session
  · exact session.quiet_note _

theorem quiet_finishShutdown (session : ServerSession) :
    Quiet session session.finishShutdown.2 := by
  have finished :=
    quiet_context (ServerJob.keeps_quiet.finish session.context .finishShutdown)
  unfold finishShutdown
  simp only
  split
  · exact finished
  · exact finished
  · exact finished

theorem quiet_shutdown (session : ServerSession) : Quiet session session.shutdown.2 := by
  have begun := session.quiet_beginShutdown
  unfold shutdown
  split
  · exact .refl session
  · split
    · rename_i rest phase
      rw [phase] at begun
      exact begun
    · rename_i cause rest _ phase
      rw [phase] at begun
      exact begun
    · rename_i closings rest phase
      rw [phase] at begun
      have awaited : Quiet session (closings.foldl awaitClose rest) := by
        refine List.foldlRecOn closings _ begun ?_
        intro given quiet closing _
        exact quiet.trans (given.quiet_awaitClose closing)
      exact awaited.trans (quiet_finishShutdown _)

theorem quiet_call
    {session : ServerSession}
    {action : ServerSession → Except Fault Unit × ServerSession}
    (quiet : Quiet session (action session).2) :
    Quiet session (session.call action).2 := by
  unfold call
  split
  · exact quiet
  · exact .refl session

theorem quiet_learn
    (session : ServerSession)
    (id : ChannelId)
    (identity : Identity) :
    Quiet session (session.perform (.learn id identity)).2 := by
  simp only [perform]
  split
  · exact .refl session
  · exact ⟨rfl, rfl, .refl _, List.prefix_rfl⟩

theorem quiet_established
    (session : ServerSession)
    (id : ChannelId)
    (identity : Identity) :
    Quiet session (session.established id identity) := by
  have submitted := session.quiet_submit (.join { identity, channel := id })
  unfold established
  split
  · rename_i rest taken
    rw [taken] at submitted
    exact submitted
  · rename_i cause rest refused
    rw [refused] at submitted
    exact submitted.trans (quiet_alterTransport (Transport.nextId_close _ id))

/-- What a transport reports is quiet, apart from octets that arrived. -/
theorem quiet_hear
    (session : ServerSession)
    (id : ChannelId)
    (link : Link)
    {report : Report}
    (unread : ∀ chunk, report ≠ .read chunk) :
    Quiet session (session.hear id link report) := by
  cases report with
  | established marks => exact session.quiet_established id link.identity
  | connectFailed reason marks => exact .refl session
  | read chunk => exact (unread chunk rfl).elim
  | broke reason => exact .refl session
  | closed marks =>
      have left :=
        session.quiet_offer (.leave { identity := link.identity, channel := id })
      have settled :
          Quiet (session.offer (.leave { identity := link.identity, channel := id }))
            (session.hear id link (.closed marks)) :=
        ⟨rfl, rfl, ServerCore.quiet_of_eq rfl (Nat.le_refl _), List.prefix_rfl⟩
      exact left.trans settled

theorem quiet_report
    (session : ServerSession)
    (id : ChannelId)
    {report : Report}
    (unread : ∀ chunk, report ≠ .read chunk) :
    Quiet session (session.report id report).2 := by
  unfold ServerSession.report
  split
  · exact .refl session
  · rename_i link found
    have marked : Quiet session (session.alterTransport (·.alter id report.mark)) :=
      quiet_alterTransport rfl
    exact marked.trans (quiet_hear _ id link unread)

/-! ## Reads -/

theorem foldl_note
    (session : ServerSession)
    (channel : ChannelId)
    (faults : List FrameFault) :
    faults.foldl
        (fun session fault => session.note (Intake.noticeOf channel fault)) session =
      { session with
        notices := session.notices ++ faults.map (Intake.noticeOf channel) } := by
  induction faults generalizing session with
  | nil => simp
  | cons fault rest ih =>
      rw [List.foldl_cons, ih]
      simp [note]

theorem read_eq
    (session : ServerSession)
    (channel : ChannelId)
    (link : Link)
    (chunk : Bytes) :
    (session.read channel link chunk).links =
        session.links.insert channel { link with intake := (link.intake.read chunk).2 } ∧
      (session.read channel link chunk).ways = session.ways ∧
      (session.read channel link chunk).core.crew =
        (link.intake.read chunk).1.messages.foldl
          (fun crew text => (crew.dispatch (link.seat.address text)).2)
          session.core.crew ∧
      (session.read channel link chunk).core.transport =
        if (link.intake.read chunk).2.closing && !link.intake.closing then
          (session.core.transport.close channel).2
        else session.core.transport := by
  unfold read
  simp only [foldl_note]
  split
  · exact ⟨rfl, rfl, rfl, rfl⟩
  · exact ⟨rfl, rfl, rfl, rfl⟩

/-! ## Connections -/

/-- Every connection has a number that was given out. -/
def Numbered (session : ServerSession) : Prop :=
  ∀ channel link, session.links.find? channel = some link →
    channel.number < session.core.transport.nextId

theorem Numbered.quiet
    {before after : ServerSession}
    (numbered : Numbered before)
    (quiet : Quiet before after) :
    Numbered after := by
  intro channel link found
  rw [quiet.links] at found
  exact Nat.lt_of_lt_of_le (numbered channel link found) quiet.core.nextId

/-- The side of a connection as it is when the connection is accepted. -/
def New
    (session : ServerSession)
    (id : ChannelId)
    (link : Link) :
    Prop :=
  ∃ peer name,
    link =
      { identity :=
          (session.policy name).identify (.ofSeed (session.seed + id.number)) peer
        intake := .ofFraming session.framing }

theorem accept_eq
    (session : ServerSession)
    (peer : Option SocketAddress)
    (name : Option String) :
    ∃ link,
      session.New ⟨session.core.transport.nextId⟩ link ∧
        (session.accept peer name).2.links =
          session.links.insert ⟨session.core.transport.nextId⟩ link ∧
        (session.accept peer name).2.ways = session.ways ∧
        (session.accept peer name).2.core.crew = session.core.crew ∧
        (session.accept peer name).2.core.transport.nextId =
          session.core.transport.nextId + 1 :=
  ⟨_, ⟨peer, name, rfl⟩, rfl, rfl, rfl, rfl⟩

/-- Connections were added at most, each with a number and an intake of its
own. -/
structure Grows (before after : ServerSession) : Prop where
  kept :
    ∀ channel link, before.links.find? channel = some link →
      after.links.find? channel = some link
  fresh :
    ∀ channel link, before.links.find? channel = none →
      after.links.find? channel = some link → before.New channel link
  numbered : Numbered after
  ways : after.ways = before.ways
  crew : before.core.crew.Quiet after.core.crew
  messages : before.messages <+: after.messages

theorem Quiet.grows
    {before after : ServerSession}
    (quiet : Quiet before after)
    (numbered : Numbered before) :
    Grows before after where
  kept channel link found := by
    rw [quiet.links]
    exact found
  fresh channel link absent found := by
    rw [quiet.links, absent] at found
    simp at found
  numbered := numbered.quiet quiet
  ways := quiet.ways
  crew := quiet.core.crew
  messages := quiet.messages

theorem Grows.quiet
    {first second third : ServerSession}
    (grows : Grows first second)
    (quiet : Quiet second third) :
    Grows first third where
  kept channel link found := by
    rw [quiet.links]
    exact grows.kept channel link found
  fresh channel link absent found := by
    rw [quiet.links] at found
    exact grows.fresh channel link absent found
  numbered := grows.numbered.quiet quiet
  ways := quiet.ways.trans grows.ways
  crew := grows.crew.trans quiet.core.crew
  messages := grows.messages.trans quiet.messages

/-- The number of an accepted connection is one that no other has. -/
theorem grows_accept
    {session : ServerSession}
    (numbered : Numbered session)
    (peer : Option SocketAddress)
    (name : Option String) :
    Grows session (session.accept peer name).2 := by
  obtain ⟨link, new, links, ways, crew, nextId⟩ := session.accept_eq peer name
  refine ⟨?_, ?_, ?_, ways, ?_, List.prefix_rfl⟩
  · intro channel link found
    have older := numbered channel link found
    have different : channel ≠ ⟨session.core.transport.nextId⟩ := by
      rintro rfl
      exact Nat.lt_irrefl _ older
    rw [links, Table.find?_insert, if_neg different, found]
  · intro channel link absent found
    rw [links, Table.find?_insert] at found
    split at found
    · rename_i same
      obtain rfl := Option.some.inj found
      exact same ▸ new
    · rw [absent] at found
      simp at found
  · intro channel link found
    rw [links, Table.find?_insert] at found
    rw [nextId]
    split at found
    · rename_i same
      rw [same]
      exact Nat.lt_succ_self _
    · exact Nat.lt_succ_of_lt (numbered channel link found)
  · rw [crew]
    exact .refl _

theorem grows_reportListener
    {session : ServerSession}
    {action : Reply × ServerSession}
    (numbered : Numbered session)
    (grows : Grows session action.2) :
    Grows session (session.reportListener action).2 := by
  unfold reportListener
  split
  · exact (Quiet.refl session).grows numbered
  · exact grows

/-! ## Runs -/

/-- Makes one move. -/
def moved (session : ServerSession) : Move Step → ServerSession
  | .act action => (session.perform action).2
  | .work => session.handleAll
  | .serve => { session with context := (session.context.runNext ServerJob.craft).2 }

/-- The octets that a move brings. -/
def read? (session : ServerSession) : Move Step → Option (ChannelId × Bytes)
  | .act (.report id (.read chunk)) =>
      (session.links.find? id).map fun _ => (id, chunk)
  | _ => none

/-- A server as something that reads connections. -/
def facade : Facade ServerSession (Move Step) Parcel where
  moved := moved
  read? := read?
  shared session := ⟨session.core.crew, session.core.transport⟩
  seat? session channel := (session.links.find? channel).map Link.seat

/-- A move that brings octets is a read, and no other move is. -/
theorem moved_cases
    {session : ServerSession}
    (numbered : Numbered session)
    (step : Move Step) :
    (session.read? step = none ∧ Grows session (session.moved step)) ∨
      ∃ channel link chunk,
        session.links.find? channel = some link ∧
          session.read? step = some (channel, chunk) ∧
          session.moved step = session.read channel link chunk := by
  cases step with
  | work => exact .inl ⟨rfl, session.quiet_handleAll.grows numbered⟩
  | serve =>
      have served := quiet_context (ServerJob.keeps_quiet.runNext session.context)
      exact .inl ⟨rfl, served.grows numbered⟩
  | act action =>
      cases action with
      | listen port failure reenters =>
          have planned :
              Quiet session
                (session.alterTransport fun transport =>
                  { transport with
                    failure, reenters := transport.reenters || reenters }) :=
            quiet_alterTransport rfl
          refine .inl ⟨rfl, Quiet.grows (planned.trans (quiet_call ?_)) numbered⟩
          exact quiet_submit _ _
      | stopListening =>
          exact .inl ⟨rfl, (quiet_call (session.quiet_submit _)).grows numbered⟩
      | send message target =>
          exact .inl ⟨rfl, (quiet_call (session.quiet_submit _)).grows numbered⟩
      | broadcast message =>
          exact .inl ⟨rfl, (quiet_call (session.quiet_submit _)).grows numbered⟩
      | kick target =>
          exact .inl ⟨rfl, (quiet_call (session.quiet_submit _)).grows numbered⟩
      | shutdown => exact .inl ⟨rfl, (quiet_call session.quiet_shutdown).grows numbered⟩
      | drop =>
          refine .inl ⟨rfl, Quiet.grows (quiet_call ?_) numbered⟩
          exact session.quiet_shutdown.trans ⟨rfl, rfl, .refl _, List.prefix_rfl⟩
      | accept peer name =>
          exact .inl ⟨rfl, grows_reportListener numbered (grows_accept numbered peer name)⟩
      | join peer name =>
          refine .inl ⟨rfl, grows_reportListener numbered ?_⟩
          exact (grows_accept numbered peer name).quiet (quiet_report _ _ (by simp))
      | acceptFailed reason =>
          refine .inl ⟨rfl, grows_reportListener numbered ?_⟩
          exact (session.quiet_note _).grows numbered
      | configure closeMode refusesWrites =>
          have configured :
              Quiet session
                (session.alterTransport (·.configured closeMode refusesWrites)) :=
            quiet_alterTransport rfl
          exact .inl ⟨rfl, configured.grows numbered⟩
      | learn id identity =>
          exact .inl ⟨rfl, (session.quiet_learn id identity).grows numbered⟩
      | report id report =>
          by_cases reading : ∃ chunk, report = .read chunk
          · obtain ⟨chunk, rfl⟩ := reading
            cases found : session.links.find? id with
            | none =>
                refine .inl ⟨by simp [read?, found], ?_⟩
                have stays : session.moved (.act (.report id (.read chunk))) = session := by
                  simp [moved, perform, ServerSession.report, found]
                rw [stays]
                exact (Quiet.refl session).grows numbered
            | some link =>
                refine .inr ⟨id, link, chunk, found, by simp [read?, found], ?_⟩
                simp [moved, perform, ServerSession.report, found, alterTransport, alter,
                  Report.mark, hear]
          · refine .inl ⟨?_, Quiet.grows ?_ numbered⟩
            · cases report <;> simp_all [read?]
            · exact quiet_report _ _ fun chunk equal => reading ⟨chunk, equal⟩

/-- What the handler was given it stays given. -/
theorem prefix_messages_moved
    {session : ServerSession}
    (numbered : Numbered session)
    (move : Move Step) :
    session.messages <+: (session.moved move).messages := by
  rcases moved_cases numbered move with ⟨-, grows⟩ | ⟨channel, link, chunk, -, -, moves⟩
  · exact grows.messages
  · rw [moves, read]
    simp only [foldl_note]
    split
    · exact List.prefix_rfl
    · exact List.prefix_rfl

theorem facade_lawful (framing : Framing) :
    facade.Lawful framing fun session => session.framing = framing ∧ Numbered session where
  kept session step okay := by
    obtain ⟨same, numbered⟩ := okay
    rcases moved_cases numbered step with
      ⟨-, grows⟩ | ⟨channel, link, chunk, found, -, moves⟩
    · exact ⟨(congrArg Prod.fst grows.ways).trans same, grows.numbered⟩
    · obtain ⟨links, ways, -, transport⟩ := session.read_eq channel link chunk
      rw [← moves] at links ways transport
      refine ⟨(congrArg Prod.fst ways).trans same, ?_⟩
      intro other otherLink there
      have nextId :
          (session.moved step).core.transport.nextId = session.core.transport.nextId := by
        rw [transport]
        split
        · exact Transport.nextId_close _ channel
        · rfl
      have there : (session.moved step).links.find? other = some otherLink := there
      rw [links, Table.find?_insert] at there
      show other.number < (session.moved step).core.transport.nextId
      rw [nextId]
      split at there
      · rename_i equal
        rw [equal]
        exact numbered channel link found
      · exact numbered other otherLink there
  accepted session step okay accepting := by
    rcases moved_cases okay.2 step with
      ⟨-, grows⟩ | ⟨channel, link, chunk, -, -, moves⟩
    · exact grows.crew.accepting accepting
    · have after : (session.moved step).core.crew.accepting = true := accepting
      rw [moves, (session.read_eq channel link chunk).2.2.1] at after
      exact (Crew.accepting_foldl_dispatch _ _ link.seat.address).symm.trans after
  advances session step okay accepting := by
    obtain ⟨same, numbered⟩ := okay
    rcases moved_cases numbered step with
      ⟨unread, grows⟩ | ⟨channel, link, chunk, found, reads, moves⟩
    · refine .quiet unread ?_ ?_ ?_
      · exact List.drop_of_length_le grows.crew.queue
      · intro channel seat here
        obtain ⟨link, found, rfl⟩ := Option.map_eq_some_iff.mp here
        exact Option.map_eq_some_iff.mpr ⟨link, grows.kept channel link found, rfl⟩
      · intro channel seat absent there
        obtain ⟨link, found, rfl⟩ := Option.map_eq_some_iff.mp there
        obtain ⟨peer, name, rfl⟩ :=
          grows.fresh channel link (Option.map_eq_none_iff.mp absent) found
        rw [← same]
        rfl
    · obtain ⟨links, -, crew, transport⟩ := session.read_eq channel link chunk
      rw [← moves] at links crew transport
      have after : (session.moved step).core.crew.accepting = true := accepting
      rw [crew] at after
      have before :=
        (Crew.accepting_foldl_dispatch _ _ link.seat.address).symm.trans after
      have read : (facade.deed session step).Reads channel chunk link.seat :=
        ⟨reads, crew.trans (Crew.foldl_dispatch before _ link.seat.address), transport⟩
      refine .reading ?_ read ?_ ?_
      · simp [facade, found]
      · simp [facade, links, Table.find?_insert, Link.seat]
      · intro other different
        simp [facade, links, Table.find?_insert, different]

/-- A new server has no connections. -/
theorem numbered_start
    (names : String × String)
    (settings : ServerSettings)
    (policy : Option String → IdentityPolicy)
    (seed : Nat)
    (transport : Transport)
    (handler : String → Reaction ServerAction) :
    Numbered (start names settings policy seed transport handler) := by
  intro channel link found
  simp [start] at found

/-- What the handler was given before a run it was given after it. -/
theorem prefix_messages_after
    {session : ServerSession}
    (numbered : Numbered session)
    (moves : List (Move Step)) :
    session.messages <+: (facade.after session moves).messages := by
  induction moves using List.reverseRecOn with
  | nil => exact List.prefix_rfl
  | append_singleton moves move ih =>
      have okay := (facade_lawful session.framing).ok_after ⟨rfl, numbered⟩ moves
      rw [facade.after_snoc]
      exact ih.trans (prefix_messages_moved okay.2 move)

/-- After a run of a server whose crew takes messages, all intakes have followed
their connections. -/
theorem seated
    (names : String × String)
    (settings : ServerSettings)
    (policy : Option String → IdentityPolicy)
    (seed : Nat)
    (transport : Transport)
    (handler : String → Reaction ServerAction)
    (moves : List (Move Step))
    (accepting :
      (facade.after (start names settings policy seed transport handler)
        moves).core.crew.accepting = true) :
    Seated settings.framing
      (facade.seat?
        (facade.after (start names settings policy seed transport handler) moves))
      (facade.deeds (start names settings policy seed transport handler) moves) := by
  have numbered := numbered_start names settings policy seed transport handler
  refine (facade_lawful settings.framing).seated ⟨rfl, numbered⟩ ?_ moves accepting
  intro channel seat here
  simp [facade, start] at here

/-! ## Steps -/

/-- A step is a run: the call or report, what the handler makes of the messages that came,
the jobs that wait, one after the other, and then what is learnt from what is seen. -/
theorem exists_serves_step
    (session : ServerSession)
    (action : Step) :
    ∃ jobs learnt,
      (session.step action).2 =
          facade.after session
            (.act action :: .work :: (List.replicate jobs .serve ++ learnt)) ∧
        (learnt = [] ∨ ∃ id identity, learnt = [.act (.learn id identity)]) := by
  obtain ⟨jobs, served⟩ :=
    Serial.exists_replicate_runFor ServerJob.craft moved .serve
      (fun context => { (session.perform action).2.handleAll with context })
      (fun _ => rfl) _ (session.perform action).2.handleAll.context
  have worked :
      (session.perform action).2.settle =
        facade.after session (.act action :: .work :: List.replicate jobs .serve) :=
    served
  obtain ⟨about, shown, learns⟩ :
      ∃ about shown,
        (session.step action).2 = (session.perform action).2.settle.remember about shown :=
    ⟨_, _, rfl⟩
  rw [learns, worked]
  unfold remember
  split
  · rename_i id identity seen
    refine ⟨jobs, [.act (.learn id identity)], ?_, .inr ⟨id, identity, rfl⟩⟩
    rw [← List.cons_append, ← List.cons_append, Facade.after_snoc]
    rfl
  · exact ⟨jobs, [], by rw [List.append_nil], .inl rfl⟩

end ServerSession

end LineProtocol
