import LineProtocol.Client.Session
import LineProtocol.Proofs.Client.Moves
import LineProtocol.Proofs.Client.Reads
import LineProtocol.Proofs.Client.Stranded
import LineProtocol.Proofs.Shutdown.Phases
import LineProtocol.Proofs.Transport.Asked

/-!
# How a client is shut down

The first job of a client's shutdown gives its connection up, and its answer
tells of one close at most.

Calls, reports and the handler hand jobs in and ask the transport for closes at
most.  They leave machine and channel alone, and a job that ends a connection is
handed in where the transport reports that end, and nowhere else.
-/

namespace LineProtocol

/-- Whether a report is the last on its connection. -/
def Report.ends : Report → Bool
  | .connectFailed _ _ => true
  | .closed _ => true
  | _ => false

namespace ClientSession

/-- Makes a call or a report that is no shutdown.  A report is about a
connection that there is. -/
def act? (session : ClientSession) : Step → Option ClientSession
  | .shutdown => none
  | .drop => none
  | .report id report =>
      if (session.core.transport.channel? id).isSome then
        some (session.perform (.report id report)).2
      else none
  | step => some (session.perform step).2

/-- How a client is shut down. -/
def closedown :
    Closedown ClientSession ClientCore ClientJob (Option Ticket) Ticket Step where
  craft := ClientJob.craft
  context := context
  withContext session context := { session with context }
  transport := ClientCore.transport
  alterTransport := alterTransport
  first := .disconnect
  last := .finish
  closings := Option.toList
  ticket := id
  await := awaitClose
  act? := act?
  work := handleAll

/-- The step reports the end of a connection. -/
def Tells
    (session : ClientSession)
    (step : Step)
    (id : ChannelId) :
    Prop :=
  ∃ other report channel,
    step = .report other report ∧ session.core.transport.channel? other = some channel ∧
      channel.id = id ∧ report.ends = true

/-- Jobs were handed in, and closes were asked for.  No channel is new. -/
structure Stirs
    (among : ClientJob → Prop)
    (before after : ClientSession) : Prop where
  machine : after.core.machine = before.core.machine
  channel : after.core.channel = before.core.channel
  context : Serial.Extends among before.context after.context
  transport : Transport.Asks (Call.Closes fun _ => True) before.core.transport after.core.transport
  known : ∀ id, after.core.transport.Knows id → before.core.transport.Knows id

variable {among : ClientJob → Prop}

theorem Stirs.refl (session : ClientSession) : Stirs among session session :=
  ⟨rfl, rfl, .refl _, .refl _, fun _ known => known⟩

theorem Stirs.trans
    {first second third : ClientSession}
    (one : Stirs among first second)
    (two : Stirs among second third) :
    Stirs among first third :=
  ⟨two.machine.trans one.machine, two.channel.trans one.channel,
    one.context.trans two.context, one.transport.trans two.transport,
    fun id known => one.known id (two.known id known)⟩

theorem Stirs.mono
    {others : ClientJob → Prop}
    {before after : ClientSession}
    (stirs : Stirs among before after)
    (weaker : ∀ job, among job → others job) :
    Stirs others before after :=
  ⟨stirs.machine, stirs.channel, stirs.context.mono weaker, stirs.transport, stirs.known⟩

theorem stirs_submit
    (session : ClientSession)
    {job : ClientJob}
    (known : among job) :
    Stirs among session (session.submit job).2 := by
  have state : (session.context.submit job).2.state = session.context.state :=
    session.context.state_submit job
  constructor
  · exact congrArg ClientCore.machine state
  · exact congrArg ClientCore.channel state
  · exact session.context.extends_submit known
  · show Transport.Asks _ session.context.state.transport
      (session.context.submit job).2.state.transport
    rw [state]
    exact .refl _
  · intro id there
    change (session.context.submit job).2.state.transport.Knows id at there
    rwa [state] at there

theorem stirs_offer
    (session : ClientSession)
    {job : ClientJob}
    (known : among job) :
    Stirs among session (session.offer job) :=
  session.stirs_submit known

theorem stirs_alterTransport
    (session : ClientSession)
    (change : Transport → Transport)
    (asks :
      Transport.Asks (Call.Closes fun _ => True) session.core.transport
        (change session.core.transport))
    (known :
      ∀ id, (change session.core.transport).Knows id → session.core.transport.Knows id) :
    Stirs among session (session.alterTransport change) :=
  ⟨rfl, rfl, .of_eq rfl rfl rfl, asks, known⟩

theorem stirs_handle
    (session : ClientSession)
    (message : String)
    (known : ∀ action : ClientAction, among action.job) :
    Stirs among session (session.handle message) := by
  simp only [handle]
  apply List.foldlRecOn (session.handler message).actions
  · exact ⟨rfl, rfl, .refl _, .refl _, fun _ known => known⟩
  · intro given stirs action _
    exact stirs.trans (given.stirs_offer (known action))

theorem stirs_handleAll
    (session : ClientSession)
    (known : ∀ action : ClientAction, among action.job) :
    Stirs among session session.handleAll := by
  simp only [handleAll]
  apply List.foldlRecOn session.core.crew.queue
  · exact ⟨rfl, rfl, .of_eq rfl rfl rfl, .refl _, fun _ known => known⟩
  · intro given stirs message _
    exact stirs.trans (given.stirs_handle message known)

theorem stirs_call
    {session : ClientSession}
    {action : ClientSession → Except Fault Unit × ClientSession}
    (stirs : Stirs among session (action session).2) :
    Stirs among session (session.call action).2 := by
  simp only [call]
  split
  · exact stirs
  · exact .refl session

theorem stirs_connect
    (session : ClientSession)
    (host : String)
    (port : UInt16)
    (lookup : Lookup)
    (known : among (.connect (resolve host port lookup))) :
    Stirs among session (session.connect host port lookup).2 := by
  simp only [connect]
  split
  · exact .refl session
  · exact session.stirs_submit known

theorem stirs_read
    (session : ClientSession)
    (id : ChannelId)
    (chunk : Bytes) :
    Stirs among session (session.read id chunk) := by
  simp only [read, foldl_note]
  split
  · exact ⟨rfl, rfl, .of_eq rfl rfl rfl, Transport.asks_close _ ⟨id, rfl, trivial⟩,
      fun other => (Transport.knows_close_iff _ id other).mp⟩
  · exact ⟨rfl, rfl, .of_eq rfl rfl rfl, .refl _, fun _ known => known⟩

/-- A job that a report on a channel may hand in. -/
structure Reports
    (report : Report)
    (channel : ChannelId)
    (job : ClientJob) :
    Prop where
  last : job ≠ .finish
  ends : ∀ id, job.ends id = true → channel = id ∧ report.ends = true
  opens : ∀ id, job = .established id → channel = id

theorem stirs_hear
    (session : ClientSession)
    (channel : Channel)
    (report : Report) :
    Stirs (Reports report channel.id) session (session.hear channel report) := by
  cases report with
  | established marks =>
      exact session.stirs_offer ⟨by simp, by simp [ClientJob.ends], by simp⟩
  | connectFailed reason marks =>
      exact session.stirs_offer ⟨by simp, by simp [ClientJob.ends, Report.ends], by simp⟩
  | read chunk => exact session.stirs_read channel.id chunk
  | broke reason => exact session.stirs_offer ⟨by simp, by simp [ClientJob.ends], by simp⟩
  | closed marks =>
      have known : Reports (.closed marks) channel.id (.closed channel.id) :=
        ⟨by simp, by simp [ClientJob.ends, Report.ends], by simp⟩
      refine (session.stirs_offer known).trans ?_
      apply stirs_alterTransport _ (·.settle (· = channel.id) .confirmed)
      · exact Transport.asks_settle _ _ (by simp)
      · exact fun _ known => known

/-- A job that an aside may hand in. -/
structure Stirred
    (session : ClientSession)
    (aside : Aside Step)
    (job : ClientJob) :
    Prop where
  last : job ≠ .finish
  ends : ∀ id, job.ends id = true → ∃ step, aside = .act step ∧ session.Tells step id
  opens :
    ∀ id, job = .established id →
      ∃ other channel, session.core.transport.channel? other = some channel ∧ channel.id = id

theorem stirs_act?
    {session next : ClientSession}
    {step : Step}
    (acted : session.act? step = some next) :
    Stirs (session.Stirred (.act step)) session next := by
  cases step with
  | connect host port lookup failure reenters =>
      obtain rfl := Option.some.inj acted
      have planned :
          Stirs (session.Stirred (.act (.connect host port lookup failure reenters))) session
            (session.alterTransport fun transport =>
              { transport with failure, reenters := transport.reenters || reenters }) :=
        session.stirs_alterTransport _ (Transport.asks_planned _ _ _) fun _ known => known
      apply planned.trans
      apply stirs_call
      exact stirs_connect _ host port lookup ⟨by simp, by simp [ClientJob.ends], by simp⟩
  | send message =>
      obtain rfl := Option.some.inj acted
      apply stirs_call
      exact session.stirs_submit ⟨by simp, by simp [ClientJob.ends], by simp⟩
  | disconnect =>
      obtain rfl := Option.some.inj acted
      apply stirs_call
      exact session.stirs_submit ⟨by simp, by simp [ClientJob.ends], by simp⟩
  | shutdown => simp [act?] at acted
  | drop => simp [act?] at acted
  | configure closeMode refusesWrites =>
      obtain rfl := Option.some.inj acted
      apply session.stirs_alterTransport (·.configured closeMode refusesWrites)
      · exact Transport.asks_configured _ _ _
      · exact fun _ known => known
  | report id report =>
      cases found : session.core.transport.channel? id with
      | none => simp [act?, found] at acted
      | some channel =>
          have marked :
              Stirs (Reports report channel.id) session
                (session.alterTransport (·.alter id report.mark)) :=
            session.stirs_alterTransport _ (Transport.asks_mark _ id report)
              fun other => (Transport.knows_alter_iff _ id other _).mp
          have heard := marked.trans (stirs_hear _ channel report)
          have same :
              next = (session.alterTransport (·.alter id report.mark)).hear channel report := by
            simpa [act?, perform, found] using acted.symm
          rw [same]
          apply heard.mono
          rintro job ⟨going, ends, opens⟩
          refine ⟨going, fun other last => ?_, fun other same => ?_⟩
          · obtain ⟨about, final⟩ := ends other last
            exact ⟨_, rfl, id, report, channel, rfl, found, about, final⟩
          · exact ⟨id, channel, found, opens other same⟩

theorem stirs_aside?
    {session next : ClientSession}
    {aside : Aside Step}
    (happened : closedown.aside? session aside = some next) :
    Stirs (session.Stirred aside) session next := by
  cases aside with
  | act step => exact stirs_act? happened
  | work =>
      obtain rfl := Option.some.inj happened
      apply session.stirs_handleAll
      intro action
      cases action with
      | send message => constructor <;> simp [ClientAction.job, ClientJob.ends]
      | disconnect => constructor <;> simp [ClientAction.job, ClientJob.ends]
  | answer chosen receipt =>
      obtain ⟨known, rfl⟩ := Closedown.settles_of_answer happened
      apply session.stirs_alterTransport (·.settle chosen receipt)
      · exact Transport.asks_settle _ _ known
      · exact fun _ there => there
  | numbers count =>
      obtain rfl := Option.some.inj happened
      apply session.stirs_alterTransport fun transport =>
        { transport with nextId := transport.nextId + count }
      · exact Transport.asks_numbers _ count
      · exact fun _ known => known

theorem perform_of_act?
    {session next : ClientSession}
    {step : Step}
    (acted : session.act? step = some next) :
    next = (session.perform step).2 := by
  cases step with
  | shutdown => cases acted
  | drop => cases acted
  | report id report =>
      rw [act?] at acted
      split at acted
      · exact (Option.some.inj acted).symm
      · cases acted
  | _ => exact (Option.some.inj acted).symm

theorem closedown_lawful : closedown.Lawful where
  context_withContext _ _ := rfl
  withContext_context _ := rfl
  withContext_withContext _ _ _ := rfl
  context_await session ticket := by
    show (session.awaitClose ticket).context = session.context
    simp only [awaitClose]
    split
    · rfl
    · rfl
  answers stopped task core := by
    cases task <;> exact ⟨_, rfl⟩
  taken stopped task core next submitted := by
    obtain ⟨taking, address, cause, -, rfl, -⟩ := ClientJob.submitted_run submitted
    exact ⟨taking, nofun⟩
  distinct := nofun
  later stopped task core := ClientJob.later_run stopped task core
  tickets stopped core value answer ticket member := by
    obtain rfl := Option.some.inj answer
    have given : core.disconnect.1 = some ticket := Option.mem_toList.mp member
    show ticket.number < core.disconnect.2.transport.receipts.length
    rcases core.disconnect_cases with ⟨nothing, -⟩ | ⟨id, -, issued, asked⟩
    · simp [nothing] at given
    · rw [issued] at given
      obtain rfl := Option.some.inj given
      rw [asked]
      exact Transport.number_lt_close _ id
  settles stopped core := by
    show core.finish.transport.receipts = core.transport.receipts
    rcases core.transport_finish with same | stopped
    · rw [same]
    · rw [stopped]
      rfl
  aside session aside next happened := by
    have stirs := stirs_aside? happened
    exact ⟨stirs.context.mono fun _ known => known.last, stirs.transport.toLater⟩

end ClientSession

end LineProtocol
