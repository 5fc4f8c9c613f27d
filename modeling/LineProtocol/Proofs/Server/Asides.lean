import LineProtocol.Proofs.Server.Jobs
import LineProtocol.Proofs.Server.Reads
import LineProtocol.Proofs.Shutdown.Phases
import LineProtocol.Proofs.Transport.Asked

/-!
# How a server is shut down

The first job of a server's shutdown closes the listener and every connection,
and its answer tells of all these closes.

Calls, reports and the handler hand jobs in, ask for closes and add connections.
They leave the roster and the listener alone, close nothing but connections, and
bind nothing.
-/

namespace LineProtocol

namespace ServerSession

/-- Makes a call or a report that is no shutdown.  A report is about a
connection that there is. -/
def act? (session : ServerSession) : Step → Option ServerSession
  | .shutdown => none
  | .drop => none
  | .report id report =>
      if (session.links.find? id).isSome then
        some (session.perform (.report id report)).2
      else none
  | step => some (session.perform step).2

/-- How a server is shut down. -/
def closedown :
    Closedown ServerSession ServerCore ServerJob (List Closing) Closing Step where
  craft := ServerJob.craft
  context := context
  withContext session context := { session with context }
  transport := ServerCore.transport
  alterTransport := alterTransport
  first := .beginShutdown
  last := .finishShutdown
  closings := id
  ticket := Closing.ticket
  await := awaitClose
  act? := act?
  work := handleAll

/-- The session knows the connection with a number. -/
def Knows
    (session : ServerSession)
    (id : ChannelId) :
    Prop :=
  (session.links.find? id).isSome = true

/-- The identity of a connection. -/
def identity?
    (session : ServerSession)
    (id : ChannelId) :
    Option Identity :=
  (session.links.find? id).map Link.identity

theorem knows_of_identity?
    {session : ServerSession}
    {id : ChannelId}
    {identity : Identity}
    (found : session.identity? id = some identity) :
    session.Knows id := by
  obtain ⟨link, there, -⟩ := Option.map_eq_some_iff.mp found
  rw [Knows, there]
  rfl

/-- The step reports that a connection is open. -/
def Opens
    (session : ServerSession)
    (step : Step)
    (id : ChannelId) :
    Prop :=
  (∃ marks, step = .report id (.established marks)) ∨
    ∃ peer name, step = .join peer name ∧ session.core.transport.listeners ≠ [] ∧
      id = ⟨session.core.transport.nextId⟩

/-- Jobs were handed in, closes of known connections were asked for and
connections with new numbers were added. -/
structure Stirs
    (among : ServerJob → Prop)
    (before after : ServerSession) : Prop where
  roster : after.core.roster = before.core.roster
  listener : after.core.listener = before.core.listener
  localAddress : after.core.localAddress = before.core.localAddress
  kept : ∀ id, before.Knows id → after.Knows id
  fresh :
    ∀ id, after.Knows id →
      before.Knows id ∨
        (before.core.transport.nextId ≤ id.number ∧
          id.number < after.core.transport.nextId)
  context : Serial.Extends among before.context after.context
  transport : Transport.Asks (Call.Closes after.Knows) before.core.transport after.core.transport

variable {among : ServerJob → Prop}

theorem Stirs.refl (session : ServerSession) : Stirs among session session where
  roster := rfl
  listener := rfl
  localAddress := rfl
  kept _ known := known
  fresh _ known := .inl known
  context := .refl _
  transport := .refl _

theorem Stirs.trans
    {first second third : ServerSession}
    (one : Stirs among first second)
    (two : Stirs among second third) :
    Stirs among first third where
  roster := two.roster.trans one.roster
  listener := two.listener.trans one.listener
  localAddress := two.localAddress.trans one.localAddress
  kept id known := two.kept id (one.kept id known)
  fresh id known := by
    have first := one.transport.nextId
    have second := two.transport.nextId
    rcases two.fresh id known with between | ⟨old, new⟩
    · rcases one.fresh id between with early | ⟨old, new⟩
      · exact .inl early
      · exact .inr ⟨old, Nat.lt_of_lt_of_le new second⟩
    · exact .inr ⟨Nat.le_trans first old, new⟩
  context := one.context.trans two.context
  transport := (one.transport.mono fun _ closes => closes.mono two.kept).trans two.transport

/-- Where nothing but crew and context is another. -/
theorem stirs_of_eq
    {before after : ServerSession}
    (links : after.links = before.links)
    (core : after.core = { before.core with crew := after.core.crew })
    (context : Serial.Extends among before.context after.context) :
    Stirs among before after where
  roster := by rw [core]
  listener := by rw [core]
  localAddress := by rw [core]
  kept id known := by rwa [Knows, links]
  fresh id known := by
    rw [Knows, links] at known
    exact .inl known
  context := context
  transport := by
    rw [core]
    exact .refl _

theorem stirs_submit
    (session : ServerSession)
    {job : ServerJob}
    (known : among job) :
    Stirs among session (session.submit job).2 := by
  have state : (session.submit job).2.core = session.core :=
    session.context.state_submit job
  apply stirs_of_eq
  · rfl
  · rw [state]
  · exact session.context.extends_submit known

theorem stirs_offer
    (session : ServerSession)
    {job : ServerJob}
    (known : among job) :
    Stirs among session (session.offer job) :=
  session.stirs_submit known

theorem stirs_alterTransport
    (session : ServerSession)
    (change : Transport → Transport)
    (asks :
      Transport.Asks (Call.Closes session.Knows) session.core.transport
        (change session.core.transport)) :
    Stirs among session (session.alterTransport change) where
  roster := rfl
  listener := rfl
  localAddress := rfl
  kept _ known := known
  fresh _ known := .inl known
  context := .of_eq rfl rfl rfl
  transport := asks

theorem stirs_note
    (session : ServerSession)
    (notice : Notice) :
    Stirs among session (session.note notice) :=
  stirs_of_eq rfl rfl (.of_eq rfl rfl rfl)

theorem stirs_learn
    (session : ServerSession)
    (id : ChannelId)
    (identity : Identity) :
    Stirs among session (session.perform (.learn id identity)).2 := by
  simp only [perform]
  split
  · exact .refl session
  · exact stirs_of_eq rfl rfl (.refl _)

theorem stirs_handle
    (session : ServerSession)
    (parcel : Parcel)
    (known : ∀ (action : ServerAction) identityOf, among (action.job identityOf)) :
    Stirs among session (session.handle parcel) := by
  simp only [handle]
  apply List.foldlRecOn (session.handler parcel.text).actions
  · exact stirs_of_eq rfl rfl (.refl _)
  · intro given stirs action _
    exact stirs.trans (given.stirs_offer (known action _))

theorem stirs_handleAll
    (session : ServerSession)
    (known : ∀ (action : ServerAction) identityOf, among (action.job identityOf)) :
    Stirs among session session.handleAll := by
  simp only [handleAll]
  apply List.foldlRecOn session.core.crew.queue
  · exact stirs_of_eq rfl rfl (.of_eq rfl rfl rfl)
  · intro given stirs parcel _
    exact stirs.trans (given.stirs_handle parcel known)

theorem stirs_call
    {session : ServerSession}
    {action : ServerSession → Except Fault Unit × ServerSession}
    (stirs : Stirs among session (action session).2) :
    Stirs among session (session.call action).2 := by
  simp only [call]
  split
  · exact stirs
  · exact .refl session

theorem stirs_established
    {session : ServerSession}
    {id : ChannelId}
    {identity : Identity}
    (linked : session.Knows id)
    (known : among (.join { identity, channel := id })) :
    Stirs among session (session.established id identity) := by
  have submitted := session.stirs_submit known
  simp only [established]
  split
  · rename_i rest taken
    rwa [taken] at submitted
  · rename_i cause rest refused
    rw [refused] at submitted
    apply submitted.trans
    apply stirs_alterTransport _ fun transport => (transport.close id).2
    exact Transport.asks_close _ ⟨id, rfl, submitted.kept id linked⟩

theorem stirs_read
    {session : ServerSession}
    {id : ChannelId}
    {link : Link}
    (found : session.links.find? id = some link)
    (chunk : Bytes) :
    Stirs among session (session.read id link chunk) := by
  have linked : session.Knows id := by simp [Knows, found]
  have known :
      ∀ link other,
        ((session.links.insert id link).find? other).isSome = true ↔ session.Knows other := by
    intro link other
    by_cases same : other = id
    · simp [Table.find?_insert, same, linked]
    · simp [Table.find?_insert, same, Knows]
  simp only [read, foldl_note]
  split
  · exact
      { roster := rfl
        listener := rfl
        localAddress := rfl
        kept := fun other => (known _ other).mpr
        fresh := fun other there => .inl ((known _ other).mp there)
        context := .of_eq rfl rfl rfl
        transport := Transport.asks_close _ ⟨id, rfl, (known _ id).mpr linked⟩ }
  · exact
      { roster := rfl
        listener := rfl
        localAddress := rfl
        kept := fun other => (known _ other).mpr
        fresh := fun other there => .inl ((known _ other).mp there)
        context := .of_eq rfl rfl rfl
        transport := .refl _ }

theorem stirs_hear
    {session : ServerSession}
    {id : ChannelId}
    {link : Link}
    {report : Report}
    (found : session.links.find? id = some link)
    (opens :
      ∀ marks, report = .established marks →
        among (.join { identity := link.identity, channel := id }))
    (ends :
      ∀ marks, report = .closed marks →
        among (.leave { identity := link.identity, channel := id })) :
    Stirs among session (session.hear id link report) := by
  cases report with
  | established marks => exact stirs_established (by simp [Knows, found]) (opens marks rfl)
  | connectFailed reason marks => exact .refl session
  | read chunk => exact stirs_read found chunk
  | broke reason => exact .refl session
  | closed marks =>
      refine (session.stirs_offer (ends marks rfl)).trans ?_
      apply stirs_alterTransport _ (·.settle (· = id) .confirmed)
      exact Transport.asks_settle _ _ (by simp)

theorem stirs_report
    {session : ServerSession}
    {id : ChannelId}
    {report : Report}
    (opens :
      ∀ identity marks, session.identity? id = some identity →
        report = .established marks → among (.join { identity, channel := id }))
    (ends :
      ∀ identity marks, session.identity? id = some identity →
        report = .closed marks → among (.leave { identity, channel := id })) :
    Stirs among session (session.report id report).2 := by
  simp only [ServerSession.report]
  split
  · exact .refl session
  · rename_i link found
    have known : session.identity? id = some link.identity := by
      rw [identity?, found]
      rfl
    have marked :
        Stirs among session (session.alterTransport (·.alter id report.mark)) :=
      session.stirs_alterTransport _ (Transport.asks_mark _ id report)
    refine marked.trans (stirs_hear found ?_ ?_)
    · exact fun marks => opens link.identity marks known
    · exact fun marks => ends link.identity marks known

theorem stirs_accept
    (among : ServerJob → Prop)
    (session : ServerSession)
    (peer : Option SocketAddress)
    (name : Option String) :
    Stirs among session (session.accept peer name).2 ∧
      (session.accept peer name).1 = ⟨session.core.transport.nextId⟩ ∧
      (session.accept peer name).2.Knows ⟨session.core.transport.nextId⟩ := by
  obtain ⟨link, -, links, -, -, nextId⟩ := session.accept_eq peer name
  have known :
      ∀ id, (session.accept peer name).2.Knows id ↔
        id = ⟨session.core.transport.nextId⟩ ∨ session.Knows id := by
    intro id
    rw [Knows, links, Table.find?_insert]
    by_cases same : id = ⟨session.core.transport.nextId⟩
    · simp [same]
    · simp [same, Knows]
  refine ⟨?_, rfl, (known _).mpr (.inl rfl)⟩
  exact
    { roster := rfl
      listener := rfl
      localAddress := rfl
      kept := fun id there => (known id).mpr (.inr there)
      fresh := by
        intro id there
        rcases (known id).mp there with rfl | old
        · exact .inr ⟨Nat.le_refl _, nextId ▸ Nat.lt_succ_self _⟩
        · exact .inl old
      context := .of_eq rfl rfl rfl
      transport := Transport.asks_accept rfl }

theorem stirs_reportListener
    {session : ServerSession}
    {action : Reply × ServerSession}
    (stirs : Stirs among session action.2) :
    Stirs among session (session.reportListener action).2 := by
  simp only [reportListener]
  split
  · exact .refl session
  · exact stirs

/-- A job that an aside may hand in, and where it leads. -/
structure Stirred
    (before after : ServerSession)
    (aside : Aside Step)
    (job : ServerJob) :
    Prop where
  last : job ≠ .finishShutdown
  linked : job.Linked after.identity?
  join :
    ∀ member, job = .join member →
      ∃ step, aside = .act step ∧ before.Opens step member.channel
  leave :
    ∀ member, job = .leave member →
      ∃ marks, aside = .act (.report member.channel (.closed marks))

/-- A job that is no report and not the last one. -/
theorem stirred_of_request
    {before after : ServerSession}
    {aside : Aside Step}
    {job : ServerJob}
    (request :
      ∀ member, job ≠ .join member ∧ job ≠ .leave member)
    (last : job ≠ .finishShutdown) :
    Stirred before after aside job where
  last := last
  linked := by
    cases job with
    | join member => exact ((request member).1 rfl).elim
    | leave member => exact ((request member).2 rfl).elim
    | _ => trivial
  join member same := ((request member).1 same).elim
  leave member same := ((request member).2 same).elim

/-- The user asks for a job. -/
theorem stirs_request
    (session : ServerSession)
    {before : ServerSession}
    {aside : Aside Step}
    {job : ServerJob}
    (request : ∀ member, job ≠ .join member ∧ job ≠ .leave member)
    (last : job ≠ .finishShutdown) :
    Stirs (Stirred before (session.call (·.submit job)).2 aside) session
      (session.call (·.submit job)).2 := by
  apply stirs_call
  exact stirs_submit _ (stirred_of_request request last)

theorem stirs_report_stirred
    {before session : ServerSession}
    {aside : Aside Step}
    {id : ChannelId}
    {report : Report}
    (opens :
      ∀ marks, report = .established marks →
        ∃ step, aside = .act step ∧ before.Opens step id)
    (tells :
      ∀ marks, report = .closed marks → aside = .act (.report id (.closed marks))) :
    Stirs (Stirred before (session.report id report).2 aside) session
      (session.report id report).2 := by
  have kept : (∀ chunk, report ≠ .read chunk) →
      (session.report id report).2.identity? id = session.identity? id := by
    intro unread
    rw [identity?, (session.quiet_report id unread).links]
    rfl
  apply stirs_report
  · intro identity marks known established
    refine ⟨nofun, ?_, ?_, nofun⟩
    · exact (kept (by simp [established])).trans known
    · rintro member ⟨⟩
      exact opens marks established
  · intro identity marks known last
    refine ⟨nofun, ?_, nofun, ?_⟩
    · exact (kept (by simp [last])).trans known
    · rintro member ⟨⟩
      exact ⟨marks, tells marks last⟩

theorem stirs_act?
    {session next : ServerSession}
    {step : Step}
    (acted : session.act? step = some next) :
    Stirs (Stirred session next (.act step)) session next := by
  cases step with
  | listen port failure reenters =>
      obtain rfl := Option.some.inj acted
      apply Stirs.trans
        (session.stirs_alterTransport
          (fun transport =>
            { transport with failure, reenters := transport.reenters || reenters })
          (Transport.asks_planned _ _ _))
      exact stirs_request _ (fun _ => ⟨nofun, nofun⟩) nofun
  | stopListening =>
      obtain rfl := Option.some.inj acted
      exact session.stirs_request (fun _ => ⟨nofun, nofun⟩) nofun
  | send message target =>
      obtain rfl := Option.some.inj acted
      exact session.stirs_request (fun _ => ⟨nofun, nofun⟩) nofun
  | broadcast message =>
      obtain rfl := Option.some.inj acted
      exact session.stirs_request (fun _ => ⟨nofun, nofun⟩) nofun
  | kick target =>
      obtain rfl := Option.some.inj acted
      exact session.stirs_request (fun _ => ⟨nofun, nofun⟩) nofun
  | shutdown => simp [act?] at acted
  | drop => simp [act?] at acted
  | accept peer name =>
      obtain rfl := Option.some.inj acted
      apply stirs_reportListener
      exact (stirs_accept _ session peer name).1
  | join peer name =>
      obtain rfl := Option.some.inj acted
      obtain ⟨accepted, number, -⟩ :=
        stirs_accept
          (Stirred session (session.perform (.join peer name)).2 (.act (.join peer name)))
          session peer name
      simp only [perform, reportListener] at accepted ⊢
      split
      · exact .refl session
      · rename_i bound
        rw [if_neg bound] at accepted
        apply accepted.trans
        apply stirs_report_stirred _ (by simp)
        rintro marks -
        exact ⟨_, rfl, .inr ⟨peer, name, rfl, by simpa using bound, number⟩⟩
  | acceptFailed reason =>
      obtain rfl := Option.some.inj acted
      apply stirs_reportListener
      exact session.stirs_note _
  | report id report =>
      simp only [act?] at acted
      split at acted
      · obtain rfl := Option.some.inj acted
        apply stirs_report_stirred
        · rintro marks rfl
          exact ⟨_, rfl, .inl ⟨marks, rfl⟩⟩
        · rintro marks rfl
          rfl
      · simp at acted
  | configure closeMode refusesWrites =>
      obtain rfl := Option.some.inj acted
      apply session.stirs_alterTransport (·.configured closeMode refusesWrites)
      exact Transport.asks_configured _ _ _
  | learn id identity =>
      obtain rfl := Option.some.inj acted
      exact session.stirs_learn id identity

theorem stirs_aside?
    {session next : ServerSession}
    {aside : Aside Step}
    (happened : closedown.aside? session aside = some next) :
    Stirs (Stirred session next aside) session next := by
  cases aside with
  | act step => exact stirs_act? happened
  | work =>
      obtain rfl := Option.some.inj happened
      apply session.stirs_handleAll
      intro action identityOf
      cases action with
      | send message target =>
          exact stirred_of_request (fun _ => ⟨nofun, nofun⟩) nofun
      | broadcast message =>
          exact stirred_of_request (fun _ => ⟨nofun, nofun⟩) nofun
      | kick target => exact stirred_of_request (fun _ => ⟨nofun, nofun⟩) nofun
  | answer chosen receipt =>
      obtain ⟨known, rfl⟩ := Closedown.settles_of_answer happened
      apply session.stirs_alterTransport (·.settle chosen receipt)
      exact Transport.asks_settle _ _ known
  | numbers count =>
      obtain rfl := Option.some.inj happened
      apply session.stirs_alterTransport fun transport =>
        { transport with nextId := transport.nextId + count }
      exact Transport.asks_numbers _ count

theorem perform_of_act?
    {session next : ServerSession}
    {step : Step}
    (acted : session.act? step = some next) :
    next = (session.perform step).2 := by
  cases step with
  | shutdown => cases acted
  | drop => cases acted
  | report id report =>
      rw [act?] at acted
      split at acted
      · exact (Option.some.inj acted).symm
      · cases acted
  | _ => exact (Option.some.inj acted).symm

/-- What is read changes nobody's identity. -/
theorem identity?_read
    {session : ServerSession}
    {channel : ChannelId}
    {link : Link}
    (found : session.links.find? channel = some link)
    (chunk : Bytes) :
    (session.read channel link chunk).identity? = session.identity? := by
  funext id
  rw [identity?, (session.read_eq channel link chunk).1, Table.find?_insert, identity?]
  split
  · rename_i same
    rw [same, found]
    rfl
  · rfl

/-- A connection keeps its identity. -/
theorem identity?_aside?
    {session next : ServerSession}
    {aside : Aside Step}
    (numbered : session.Numbered)
    (happened : closedown.aside? session aside = some next)
    {id : ChannelId}
    {identity : Identity}
    (known : session.identity? id = some identity) :
    next.identity? id = some identity := by
  have quiet : next.links = session.links → next.identity? id = some identity := by
    intro links
    rw [identity?, links]
    exact known
  cases aside with
  | act step =>
      obtain ⟨link, found, rfl⟩ := Option.map_eq_some_iff.mp known
      obtain rfl := perform_of_act? happened
      rcases moved_cases numbered (.act step) with
        ⟨-, grows⟩ | ⟨channel, seat, chunk, there, -, moves⟩
      · exact Option.map_eq_some_iff.mpr ⟨link, grows.kept id link found, rfl⟩
      · have same := identity?_read there chunk
        rw [← moves] at same
        exact (congrFun same id).trans known
  | work =>
      obtain rfl := Option.some.inj happened
      exact quiet session.quiet_handleAll.links
  | answer chosen receipt =>
      obtain ⟨-, rfl⟩ := Closedown.settles_of_answer happened
      exact quiet rfl
  | numbers count =>
      obtain rfl := Option.some.inj happened
      exact quiet rfl

/-! ## Connections that open -/

/-- A job that lets the connection join waits. -/
def Admits
    (session : ServerSession)
    (id : ChannelId) :
    Prop :=
  ∃ member, .run (.join member) ∈ session.context.queue ∧ member.channel = id

/-- A connection that is open waits to join, or is closed again where jobs are
not taken any more. -/
theorem admits_established
    (session : ServerSession)
    (id : ChannelId)
    (identity : Identity) :
    (session.established id identity).Admits id ∨
      (session.established id identity).core.transport.GivenUp id := by
  rcases submitted : session.context.submit (.join { identity, channel := id }) with
    ⟨outcome, context⟩
  cases outcome with
  | ok =>
      left
      have whole : session.established id identity = { session with context } := by
        simp only [established, submit, submitted]
      rw [whole]
      exact ⟨_, Serial.mem_queue_of_submit submitted, rfl⟩
  | error cause =>
      right
      have whole : session.established id identity =
          { session with context }.alterTransport fun transport => (transport.close id).2 := by
        simp only [established, submit, submitted]
      rw [whole]
      exact Transport.givenUp_close _ id

theorem admits_report
    {session : ServerSession}
    {id : ChannelId}
    (known : session.Knows id)
    (marks : Bool) :
    (session.report id (.established marks)).2.Admits id ∨
      (session.report id (.established marks)).2.core.transport.GivenUp id := by
  obtain ⟨link, found⟩ := Option.isSome_iff_exists.mp known
  simp only [ServerSession.report, found]
  exact admits_established _ id link.identity

theorem admits_act?
    {session next : ServerSession}
    {step : Step}
    {id : ChannelId}
    (acted : session.act? step = some next)
    (opens : session.Opens step id) :
    next.Admits id ∨ next.core.transport.GivenUp id := by
  rcases opens with ⟨marks, rfl⟩ | ⟨peer, name, rfl, bound, rfl⟩
  · simp only [act?] at acted
    split at acted
    · rename_i known
      obtain rfl := Option.some.inj acted
      exact admits_report known marks
    · simp at acted
  · obtain rfl := Option.some.inj acted
    obtain ⟨-, -, known⟩ := stirs_accept (fun _ => True) session peer name
    have present : session.core.transport.listeners.isEmpty = false := by simpa using bound
    simp only [perform, reportListener, present]
    exact admits_report known true

theorem closedown_lawful : closedown.Lawful where
  context_withContext _ _ := rfl
  withContext_context _ := rfl
  withContext_withContext _ _ _ := rfl
  context_await session closing := by
    show (session.awaitClose closing).context = session.context
    simp only [awaitClose]
    split
    · rfl
    · rfl
  answers stopped task core := ⟨_, rfl⟩
  taken stopped task core next submitted := by
    change next ∈ [] at submitted
    simp at submitted
  distinct := nofun
  later stopped task core := core.later_run task
  tickets stopped core value answer closing member := by
    obtain rfl := Option.some.inj answer
    exact core.clears_beginShutdown.2 closing member
  settles stopped core := core.finishShutdown_spec.2.2.2.1
  aside session aside next happened := by
    have stirs := stirs_aside? happened
    exact ⟨stirs.context.mono fun _ known => known.last, stirs.transport.toLater⟩

end ServerSession

end LineProtocol
