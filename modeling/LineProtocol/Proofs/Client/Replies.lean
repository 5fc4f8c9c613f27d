import LineProtocol.Proofs.Client.Asides
import LineProtocol.Proofs.Dispatch.Threads

/-!
# When a client's handler may answer

A message is read on a connection that was reported as established.  That report
hands its job in before the message is handed to a thread, and what the message's
handler asks for is handed in later still.  So the reply runs behind that job,
however the threads are scheduled.

A `Journal` ties the jobs that ran to the client: a connection that was asked for is
being made or is there until a job ends it, and it is there once it was established.
-/

namespace LineProtocol

/-- The job ends the connection or gives it up. -/
def ClientJob.Severs (id : ChannelId) : ClientJob → Prop
  | .broke other _ => other = id
  | .closed other => other = id
  | .disconnect => True
  | .finish => True
  | _ => False

namespace ClientCore

/-- The connection that is being made, or is there, stays until a job ends it, and it is
there once it was established. -/
theorem Moves.keeps
    {core : ClientCore}
    {task : ClientJob}
    {machine : Machine}
    {channel : Option ChannelId}
    {id : ChannelId}
    (moves : core.Moves task machine channel)
    (held : core.channel = some id)
    (making :
      core.machine.current = .connected ∨ core.machine.current = .connecting) :
    (channel = some id ∧
        (machine.current = .connected ∨
          machine.current = .connecting ∧ core.machine.current = .connecting ∧
            task ≠ .established id)) ∨
      task.Severs id ∨ ∃ cause, task = .connectFailed id cause := by
  have refuses : ¬ core.AcceptsConnect := by
    rw [acceptsConnect_iff]
    rcases making with state | state
    · simp [state]
    · simp [state]
  have stays : task ≠ .established id →
      core.channel = some id ∧
        (core.machine.current = .connected ∨
          core.machine.current = .connecting ∧ core.machine.current = .connecting ∧
            task ≠ .established id) :=
    fun other => ⟨held, making.imp_right fun state => ⟨state, state, other⟩⟩
  cases moves with
  | ignored refused => exact .inl (stays nofun)
  | unknown accepted => exact (refuses accepted).elim
  | known accepted => exact (refuses accepted).elim
  | send => exact .inl (stays nofun)
  | still idle => exact .inr (.inl trivial)
  | disconnect there => exact .inr (.inl trivial)
  | alone nothing => exact .inr (.inl trivial)
  | stale about other =>
      refine .inl (stays ?_)
      rintro rfl
      obtain rfl := Option.some.inj about
      exact other held
  | @established current there =>
      obtain rfl := Option.some.inj (held.symm.trans there)
      refine .inl ⟨there, .inl ?_⟩
      rcases making with state | state
      · simp [state, ConnectionState.after?]
      · simp [state, ConnectionState.after?]
  | @connectFailed current cause there =>
      obtain rfl := Option.some.inj (held.symm.trans there)
      exact .inr (.inr ⟨cause, rfl⟩)
  | broke there => exact .inr (.inl (Option.some.inj (there.symm.trans held)))
  | closed there => exact .inr (.inl (Option.some.inj (there.symm.trans held)))
  | finishOff off => exact .inr (.inl trivial)
  | finish busy => exact .inr (.inl trivial)

/-- The message is not sent because the client is not connected. -/
def Drops
    (core : ClientCore)
    (text : String) :
    Prop :=
  ∃ state, core.send text = core.note (.sendUnconnected state)

theorem drops_of_ne_connected
    {core : ClientCore}
    (apart : core.machine.current ≠ .connected)
    (text : String) :
    core.Drops text := by
  simp only [Drops, send]
  split
  · rename_i connected held
    exact (apart connected).elim
  · exact ⟨_, rfl⟩

theorem not_drops_of_connected
    {core : ClientCore}
    {id : ChannelId}
    (connected : core.machine.current = .connected)
    (held : core.channel = some id)
    (text : String) :
    ¬ core.Drops text := by
  rintro ⟨state, dropped⟩
  have notices := congrArg ClientCore.notices dropped
  simp only [send, connected, held, note] at notices
  split at notices
  · simp at notices
  · simp at notices

/-- A new channel is one that the client just asked for. -/
theorem knows_run
    {core : ClientCore}
    {task : ClientJob}
    {id : ChannelId}
    (known : (task.run false core).state.transport.Knows id) :
    core.transport.Knows id ∨
      ∃ address, task = .connect (.ok address) ∧ core.AcceptsConnect ∧
        id = ⟨core.transport.nextId⟩ := by
  cases about : task.about? with
  | some other =>
      rw [Course.transport_report about core] at known
      exact .inl known
  | none =>
      cases task with
      | connect target =>
          change (core.connect target).1.transport.Knows id at known
          by_cases accepted : core.AcceptsConnect
          · rcases core.transport_connect target with same | ⟨address, rfl, -, asked⟩
            · rw [same] at known
              exact .inl known
            · rw [asked, Transport.knows_connect_iff] at known
              exact known.imp_right fun new => ⟨address, rfl, accepted, new⟩
          · rw [(connect_of_not_accepts accepted target).2.2] at known
            exact .inl known
      | send message =>
          change (core.send message).transport.Knows id at known
          rcases core.transport_send message with same | ⟨other, bytes, asked⟩
          · rw [same] at known
            exact .inl known
          · rw [asked, Transport.knows_write_iff] at known
            exact .inl known
      | disconnect =>
          change core.disconnect.2.transport.Knows id at known
          rcases core.disconnect_cases with ⟨-, same⟩ | ⟨other, -, -, asked⟩
          · rw [same] at known
            exact .inl known
          · rw [asked, Transport.knows_close_iff] at known
            exact .inl known
      | finish =>
          change core.finish.transport.Knows id at known
          rcases core.transport_finish with same | stopped
          · rw [same] at known
            exact .inl known
          · rw [stopped] at known
            exact .inl known
      | established other => exact nomatch about
      | connectFailed other cause => exact nomatch about
      | broke other cause => exact nomatch about
      | closed other => exact nomatch about

end ClientCore

namespace ClientSession

/-- How handlers work on a client. -/
def staff :
    Staff ClientSession ClientCore ClientJob (Option Ticket) Ticket Step String
      ClientAction where
  closedown := closedown
  crew session := session.core.crew
  withCrew session crew := session.alter fun core => { core with crew }
  given session message := { session with messages := session.messages ++ [message] }
  jobOf _ _ := ClientAction.job
  reads?
    | .report id (.read _) => some id
    | _ => none

theorem staff_lawful : staff.Lawful where
  closedown := closedown_lawful
  crew_withCrew _ _ := rfl
  crew_given _ _ := rfl
  crew_submit session job := congrArg ClientCore.crew (session.context.state_submit job)
  crew _ _ := ⟨.of_eq rfl rfl rfl, rfl⟩
  given _ _ := rfl
  job _ _ action := by cases action <;> exact nofun

/-- What a thread does leaves the connection alone. -/
theorem stirs_thread
    {session next : ClientSession}
    {number : Nat}
    {act : Act ClientAction}
    (acted : staff.act? session number act = some next) :
    Stirs (fun job => ∃ action : ClientAction, job = action.job) session next := by
  have crewed : ∀ crew,
      Stirs (fun job => ∃ action : ClientAction, job = action.job) session
        (staff.withCrew session crew) :=
    fun crew => ⟨rfl, rfl, .of_eq rfl rfl rfl, .refl _, fun _ known => known⟩
  cases act with
  | take =>
      simp only [Staff.act?] at acted
      split at acted
      · rename_i message rest crew waits taken
        obtain rfl := Option.some.inj acted
        exact (crewed crew).trans
          ⟨rfl, rfl, .of_eq rfl rfl rfl, .refl _, fun _ known => known⟩
      · cases acted
  | ask action =>
      simp only [Staff.act?] at acted
      split at acted
      · obtain rfl := Option.some.inj acted
        exact session.stirs_submit ⟨action, rfl⟩
      · cases acted
  | finish outcome =>
      obtain ⟨crew, -, rfl⟩ := Option.map_eq_some_iff.mp acted
      exact crewed crew

/-! ## The jobs that ran since a connection was asked for -/

/-- The connection was asked for, and these jobs ran since. -/
def Requested
    (trail : List (ClientJob × ClientCore))
    (id : ChannelId)
    (since : List (ClientJob × ClientCore)) :
    Prop :=
  ∃ front address core,
    trail = front ++ (.connect (.ok address), core) :: since ∧ core.AcceptsConnect ∧
      id = ⟨core.transport.nextId⟩

theorem requested_snoc_iff
    {trail since : List (ClientJob × ClientCore)}
    {task : ClientJob}
    {core : ClientCore}
    {id : ChannelId} :
    Requested (trail ++ [(task, core)]) id since ↔
      (∃ shorter, since = shorter ++ [(task, core)] ∧ Requested trail id shorter) ∨
        since = [] ∧
          ∃ address, task = .connect (.ok address) ∧ core.AcceptsConnect ∧
            id = ⟨core.transport.nextId⟩ := by
  constructor
  · rintro ⟨front, address, found, split, accepted, number⟩
    rcases split_snoc split with ⟨-, same, nothing⟩ | ⟨shorter, whole, longer⟩
    · obtain ⟨rfl, rfl⟩ := Prod.mk.inj same
      exact .inr ⟨nothing, address, rfl, accepted, number⟩
    · exact .inl ⟨shorter, longer, front, address, found, whole, accepted, number⟩
  · rintro (⟨shorter, rfl, front, address, found, rfl, accepted, number⟩ |
      ⟨rfl, address, rfl, accepted, number⟩)
    · exact ⟨front, address, found, by simp, accepted, number⟩
    · exact ⟨trail, address, core, rfl, accepted, number⟩

/-- The connection that could not be made, as a job says. -/
def failed? : ClientJob × ClientCore → Option ChannelId
  | (.connectFailed id _, _) => some id
  | _ => none

/-- The connections that could not be made, in order. -/
def failures (trail : List (ClientJob × ClientCore)) : List ChannelId :=
  trail.filterMap failed?

/-- A job ended the connection, or gave it up, since it was asked for. -/
def Severed
    (trail : List (ClientJob × ClientCore))
    (id : ChannelId) :
    Prop :=
  ∃ since, Requested trail id since ∧ ∃ entry ∈ since, entry.1.Severs id

/-- Since the connection was asked for a job ended it, or it was reported as failed, or the
client holds it, and is connected on it once it was established. -/
def Standing
    (core : ClientCore)
    (id : ChannelId)
    (since : List (ClientJob × ClientCore)) :
    Prop :=
  (∃ entry ∈ since, entry.1.Severs id) ∨
    (∃ cause found, (.connectFailed id cause, found) ∈ since) ∨
      core.channel = some id ∧
        (core.machine.current = .connected ∨
          core.machine.current = .connecting ∧ ∀ found, (.established id, found) ∉ since)

/-- How the jobs that ran and the client go together. -/
structure Journal
    (trail : List (ClientJob × ClientCore))
    (session : ClientSession) : Prop where
  numbered : session.core.transport.Numbered
  requested :
    ∀ id, session.core.transport.Knows id → ∃ since, Requested trail id since
  queued :
    ∀ id, .run (.established id) ∈ session.context.queue →
      ∃ since, Requested trail id since
  standing : ∀ id since, Requested trail id since → Standing session.core id since
  opened :
    ∀ id core, (.established id, core) ∈ trail →
      ∃ since found, Requested trail id since ∧ (.established id, found) ∈ since

theorem journal_start
    (names : String × String)
    (settings : ClientSettings)
    (transport : Transport)
    (handler : String → Reaction ClientAction) :
    Journal [] (start names settings transport.unused handler) where
  numbered := transport.numbered_unused
  requested _ := nofun
  queued _ := nofun
  standing := by
    rintro id since ⟨front, address, core, split, -⟩
    simp at split
  opened _ _ := nofun

variable
  {trail : List (ClientJob × ClientCore)}
  {session next : ClientSession}
  {task : ClientJob}
  {id : ChannelId}

theorem Journal.stirs
    {among : ClientJob → Prop}
    (journal : Journal trail session)
    (stirs : Stirs among session next)
    (opens : ∀ id, among (.established id) → session.core.transport.Knows id) :
    Journal trail next := by
  constructor
  · exact stirs.transport.toLater.numbered journal.numbered
  · exact fun id known => journal.requested id (stirs.known id known)
  · intro id there
    obtain ⟨jobs, queue, known, -⟩ := stirs.context.queue
    rw [queue] at there
    rcases List.mem_append.mp there with waited | fresh
    · exact journal.queued id waited
    · exact journal.requested id (opens id (known _ (by simpa using fresh)))
  · intro id since requested
    rw [Standing, stirs.machine, stirs.channel]
    exact journal.standing id since requested
  · exact journal.opened

theorem Journal.ran
    (journal : Journal trail session)
    (waited : .run task ∈ session.context.queue)
    (core : next.core = (task.run false session.core).state)
    (queued :
      ∀ id, .run (.established id) ∈ next.context.queue →
        .run (.established id) ∈ session.context.queue) :
    Journal (trail ++ [(task, session.core)]) next := by
  have later : ∀ id since, Requested trail id since →
      Requested (trail ++ [(task, session.core)]) id (since ++ [(task, session.core)]) :=
    fun id since requested => requested_snoc_iff.mpr (.inl ⟨since, rfl, requested⟩)
  constructor
  · rw [core]
    exact (ClientJob.later_run false task _).numbered journal.numbered
  · intro id known
    rw [core] at known
    rcases ClientCore.knows_run known with before | asked
    · obtain ⟨since, requested⟩ := journal.requested id before
      exact ⟨_, later id since requested⟩
    · exact ⟨[], requested_snoc_iff.mpr (.inr ⟨rfl, asked⟩)⟩
  · intro id there
    obtain ⟨since, requested⟩ := journal.queued id (queued id there)
    exact ⟨_, later id since requested⟩
  · intro id since requested
    rw [core]
    rcases requested_snoc_iff.mp requested with
      ⟨shorter, rfl, before⟩ | ⟨rfl, address, rfl, accepted, number⟩
    · rcases journal.standing id shorter before with
        ⟨entry, there, severs⟩ | ⟨cause, found, there⟩ | ⟨held, making⟩
      · exact .inl ⟨entry, List.mem_append_left _ there, severs⟩
      · exact .inr (.inl ⟨cause, found, List.mem_append_left _ there⟩)
      · have moves := session.core.moves_run task
        rcases moves.keeps held (making.imp_right And.left) with
          ⟨holds, connected | ⟨connecting, before, other⟩⟩ | severs | ⟨cause, rfl⟩
        · exact .inr (.inr ⟨holds, .inl connected⟩)
        · refine .inr (.inr ⟨holds, .inr ⟨connecting, ?_⟩⟩)
          intro found there
          rcases making with connected | ⟨-, unopened⟩
          · exact nomatch connected.symm.trans before
          · rcases List.mem_append.mp there with early | late
            · exact unopened found early
            · exact other (Prod.mk.inj (List.mem_singleton.mp late)).1.symm
        · exact .inl ⟨_, List.mem_append_right _ List.mem_cons_self, severs⟩
        · exact .inr (.inl ⟨cause, _, List.mem_append_right _ List.mem_cons_self⟩)
    · refine .inr (.inr ⟨?_, .inr ⟨?_, fun _ => nofun⟩⟩)
      · rw [number]
        exact (ClientCore.connect_of_ok accepted address).2.1
      · exact ClientCore.current_connect_of_ok accepted address
  · intro id found there
    rcases List.mem_append.mp there with early | late
    · obtain ⟨since, other, requested, among⟩ := journal.opened id found early
      exact ⟨_, other, later id since requested, List.mem_append_left _ among⟩
    · obtain ⟨rfl, rfl⟩ := Prod.mk.inj (List.mem_singleton.mp late)
      obtain ⟨since, requested⟩ := journal.queued id waited
      exact ⟨_, _, later id since requested, List.mem_append_right _ List.mem_cons_self⟩

theorem Journal.stays
    (journal : Journal trail session)
    (core : next.core = session.core)
    (queued :
      ∀ id, .run (.established id) ∈ next.context.queue →
        .run (.established id) ∈ session.context.queue) :
    Journal trail next := by
  constructor
  · rw [core]
    exact journal.numbered
  · rw [core]
    exact journal.requested
  · exact fun id there => journal.queued id (queued id there)
  · rw [core]
    exact journal.standing
  · exact journal.opened

/-- A connection that was established is the one that the client is connected on, unless a
job ended it since it was asked for. -/
theorem Journal.connected
    (journal : Journal trail session)
    {found : ClientCore}
    (opened : (.established id, found) ∈ trail)
    (unfailed : id ∉ failures trail) :
    (session.core.machine.current = .connected ∧ session.core.channel = some id) ∨
      Severed trail id := by
  obtain ⟨since, other, requested, there⟩ := journal.opened id found opened
  rcases journal.standing id since requested with
    severed | ⟨cause, core, failed⟩ | ⟨held, connected | ⟨-, unopened⟩⟩
  · exact .inr ⟨since, requested, severed⟩
  · obtain ⟨front, address, start, rfl, -⟩ := requested
    refine (unfailed (List.mem_filterMap.mpr ⟨(.connectFailed id cause, core), ?_, rfl⟩)).elim
    exact List.mem_append_right front (List.mem_cons_of_mem _ failed)
  · exact .inl ⟨connected, held⟩
  · exact (unopened other there).elim

/-! ## Runs -/

/-- What happens to a client whose handlers run in threads of their own. -/
abbrev Happening := Staffed.Event Step ClientAction

/-- The connection that is reported as established. -/
def opened? : Happening → Option ChannelId
  | .turn (.aside (.act (.report id (.established _)))) => some id
  | _ => none

/-- The connections that were reported as established, in order. -/
def openings (events : List Happening) : List ChannelId :=
  events.filterMap opened?

/-- A connection is reported as established before it is read. -/
def OpensFirst (events : List Happening) : Prop :=
  ∀ place < events.length, ∀ id ∈ events[place]?.bind staff.read?,
    id ∈ openings (events.take place)

instance (events : List Happening) : Decidable (OpensFirst events) :=
  inferInstanceAs
    (Decidable
      (∀ place < events.length, ∀ id ∈ events[place]?.bind staff.read?,
        id ∈ openings (events.take place)))

theorem report_of_opened?
    {event : Happening}
    (opens : opened? event = some id) :
    ∃ marks, event = .turn (.aside (.act (.report id (.established marks)))) := by
  unfold opened? at opens
  split at opens
  · rename_i marks
    obtain rfl := Option.some.inj opens
    exact ⟨marks, rfl⟩
  · exact nomatch opens

theorem OpensFirst.before
    {events : List Happening}
    {event : Happening}
    (opensFirst : OpensFirst (events ++ [event])) :
    OpensFirst events := by
  intro place inside id reads
  have longer : place < (events ++ [event]).length := by
    rw [List.length_append]
    exact Nat.lt_add_right _ inside
  have opened := opensFirst place longer id
  rw [List.getElem?_append_left inside,
    List.take_append_of_le_length (Nat.le_of_lt inside)] at opened
  exact opened reads

theorem OpensFirst.last
    {events : List Happening}
    {event : Happening}
    (opensFirst : OpensFirst (events ++ [event]))
    (reads : staff.read? event = some id) :
    id ∈ openings events := by
  have opened := opensFirst events.length (by simp) id
  rw [List.getElem?_concat_length, List.take_left] at opened
  exact opened reads

/-- A step that brings octets is one that reads a connection. -/
theorem reads?_of_read?
    {step : Step}
    {octets : ChannelId × Bytes}
    (reads : session.read? (.act step) = some octets) :
    ∃ id, staff.reads? step = some id := by
  unfold read? at reads
  split at reads
  · rename_i id chunk same
    obtain rfl := Move.act.inj same
    exact ⟨id, rfl⟩
  · exact nomatch reads

/-- What happens to a client's crew in a turn. -/
theorem hands_turn
    {callers after : Callers ClientSession Ticket}
    {turn : Turn Step}
    (sound : closedown.Sound callers)
    (stepped : closedown.step? callers turn = some after) :
    Staff.Hands (fun _ _ => True) (staff.turnReads? turn) callers.session.core.crew
      after.session.core.crew := by
  cases sound.turned closedown_lawful stepped with
  | aside aside session made happened same =>
      subst made same
      cases aside with
      | act step =>
          obtain rfl := perform_of_act? happened
          rcases callers.session.moved_cases (.act step) with
            ⟨-, quiet⟩ | ⟨channel, chunk, reads, moves⟩
          · exact Staff.hands_of_quiet quiet.crew
          · change (callers.session.perform step).2 = _ at moves
            obtain ⟨id, same⟩ := reads?_of_read? reads
            change Staff.Hands _ (staff.reads? step) _ _
            rw [moves, (callers.session.read_eq channel chunk).2.2.1, same]
            exact Staff.hands_of_reads (fun _ => trivial) _ _
      | work =>
          obtain rfl := Option.some.inj happened
          exact Staff.hands_of_quiet callers.session.quiet_handleAll.crew
      | answer chosen receipt =>
          obtain ⟨-, rfl⟩ := Closedown.settles_of_answer happened
          exact Staff.hands_of_quiet (.refl _)
      | numbers count =>
          obtain rfl := Option.some.inj happened
          exact Staff.hands_of_quiet (.refl _)
  | ran task rest made first state waited left =>
      have same : after.session.core = (ClientJob.craft.run _ task callers.session.core).state :=
        state
      rw [same]
      exact Staff.hands_of_quiet (ClientJob.keeps_quiet.run _ task callers.session.core)
  | still rest more apart idle state waited left phases =>
      have same : after.session.core = callers.session.core := state
      rw [same]
      exact Staff.hands_of_quiet (.refl _)

/-- A connection that is reported as established has a job that says so, unless no job is
taken any more. -/
theorem announced_of_established
    {callers : Callers ClientSession Ticket}
    (sound : closedown.Sound callers)
    (numbered : callers.session.core.transport.Numbered)
    {marks : Bool}
    (acted : callers.session.act? (.report id (.established marks)) = some next) :
    .run (.established id) ∈ next.context.queue ∨ next.context.stopped = true := by
  cases found : callers.session.core.transport.channel? id with
  | none => simp [act?, found] at acted
  | some channel =>
      obtain ⟨rfl, -⟩ := numbered id channel found
      let marked :=
        callers.session.alterTransport (·.alter channel.id (Report.established marks).mark)
      have heard : next = marked.offer (.established channel.id) := by
        simpa [act?, perform, found, hear] using acted.symm
      have context : next.context = (marked.context.submit (.established channel.id)).2 := by
        rw [heard]
        rfl
      rw [context]
      rcases marked.context.submit_cases (.established channel.id) with
        ⟨-, -, accepted⟩ | ⟨stopped | ended, refused⟩
      · rw [accepted]
        exact .inl (List.mem_append_right _ List.mem_cons_self)
      · rw [refused]
        exact .inr stopped
      · rw [refused]
        exact .inr (sound.stage.of_ended ended).1

/-- How the jobs that ran, the reports that were made and a client with its threads go
together. -/
structure Answering
    (trail : List (ClientJob × ClientCore))
    (events : List Happening)
    (staffed : Staffed ClientSession Ticket) : Prop where
  journal : Journal trail staffed.callers.session
  reported : ∀ id ∈ openings events, staff.Announced trail staffed (.established id)
  heralded : staff.Heralded .established trail staffed
  recorded : staff.Recorded (fun _ _ _ => True) staffed

variable
  {start staffed final : Staffed ClientSession Ticket}
  {events : List Happening}
  {event : Happening}

theorem journal_step?
    (sound : closedown.Sound staffed.callers)
    (journal : Journal trail staffed.callers.session)
    (stepped : staff.step? staffed event = some final) :
    Journal (trail ++ (staff.ran? (staffed, event)).toList) final.callers.session := by
  rcases Staff.step?_cases stepped with
    ⟨turn, callers, rfl, -, turned, rfl⟩ | ⟨number, act, session, rfl, acted, rfl⟩
  · cases sound.turned closedown_lawful turned with
    | aside aside session made happened same =>
        subst made same
        have nothing : staff.ran? (staffed, .turn (.aside aside)) = none := rfl
        rw [nothing, Option.toList_none, List.append_nil]
        apply journal.stirs (stirs_aside? happened)
        intro id stirred
        obtain ⟨other, channel, found, rfl⟩ := stirred.opens id rfl
        obtain ⟨rfl, -⟩ := journal.numbered other channel found
        exact Option.isSome_of_eq_some found
    | ran task rest made first state waited left =>
        subst made
        rw [Staff.ran?_of_next? first]
        refine journal.ran (waited ▸ List.mem_cons_self) (state.trans ?_) ?_
        · exact task.state_run _ _
        · intro id there
          change _ ∈ (closedown.context callers.session).queue at there
          rw [left] at there
          rcases List.mem_append.mp there with behind | new
          · exact waited ▸ List.mem_cons_of_mem _ behind
          · obtain ⟨job, submitted, same⟩ := List.mem_map.mp new
            obtain ⟨-, address, cause, -, failed, -⟩ := ClientJob.submitted_run submitted
            exact nomatch failed.symm.trans (Envelope.run.inj same)
    | still rest more apart idle state waited left phases =>
        rw [Staff.ran?_of_idle idle, Option.toList_none, List.append_nil]
        refine journal.stays state ?_
        intro id there
        change _ ∈ (closedown.context callers.session).queue at there
        rw [left] at there
        rcases List.mem_append.mp there with behind | new
        · rcases waited with ⟨-, waited⟩ | ⟨-, waited⟩
          · exact waited ▸ behind
          · exact waited ▸ List.mem_cons_of_mem _ behind
        · rcases phases _ new with first | last
          · exact nomatch first
          · exact nomatch last
  · rw [Staff.session_acted]
    show Journal (trail ++ []) session
    rw [List.append_nil]
    apply journal.stirs (stirs_thread acted)
    rintro id ⟨action, asked⟩
    cases action <;> exact nomatch asked

theorem Answering.step
    (answering : Answering trail events staffed)
    (sound : closedown.Sound staffed.callers)
    (stepped : staff.step? staffed event = some final)
    (opensFirst : OpensFirst (events ++ [event])) :
    Answering (trail ++ (staff.ran? (staffed, event)).toList) (events ++ [event]) final := by
  have shifts := Staff.shifts_step? staff_lawful sound answering.heralded.tagged stepped
  constructor
  · exact journal_step? sound answering.journal stepped
  · intro id there
    rw [openings, List.filterMap_append] at there
    rcases List.mem_append.mp there with before | new
    · exact (answering.reported id before).shifts shifts
    · obtain ⟨happening, same, opens⟩ := List.mem_filterMap.mp new
      obtain rfl := List.mem_singleton.mp same
      obtain ⟨marks, rfl⟩ := report_of_opened? opens
      rcases Staff.step?_cases stepped with
        ⟨turn, callers, ⟨⟩, -, turned, rfl⟩ | ⟨number, act, session, ⟨⟩, -⟩
      obtain ⟨session, acted, rfl⟩ := Option.map_eq_some_iff.mp turned
      exact .inr (announced_of_established sound answering.journal.numbered acted)
  · apply answering.heralded.stepped staff_lawful sound stepped
    exact fun id reads => answering.reported id (opensFirst.last reads)
  · apply answering.recorded.stepped staff_lawful stepped
    · exact fun _ _ agrees => agrees
    · exact fun turn callers turned _ => hands_turn sound turned

/-- A new client with its threads. -/
def fresh
    (names : String × String)
    (settings : ClientSettings)
    (transport : Transport)
    (handler : String → Reaction ClientAction) :
    Staffed ClientSession Ticket :=
  { callers := { session := .start names settings transport.unused handler } }

theorem answering_run
    {names : String × String}
    {settings : ClientSettings}
    {transport : Transport}
    {handler : String → Reaction ClientAction}
    (ran : staff.run? (fresh names settings transport handler) events = some final)
    (opensFirst : OpensFirst events) :
    closedown.Sound final.callers ∧
      Answering (staff.trail (fresh names settings transport handler) events) events
        final := by
  induction ran using foldlM_induction with
  | none =>
      refine ⟨Closedown.sound_start rfl rfl rfl, ?_, nofun, ?_, ?_⟩
      · exact journal_start names settings transport handler
      · exact Staff.heralded_start rfl _
      · exact Staff.recorded_start rfl (Crew.idle_ofThreads _ _)
  | snoc events event between final before stepped ih =>
      obtain ⟨sound, answering⟩ := ih opensFirst.before
      rw [Staff.trail_snoc before]
      exact ⟨Staff.sound_step? staff_lawful sound stepped,
        answering.step sound stepped opensFirst⟩

/-- A handler's job runs behind the report that the connection of its message was
established.  A message that is dropped then was overtaken by the connection's end. -/
theorem Answering.reply
    (answering : Answering trail events final)
    {task : ClientJob}
    (answers : staff.Answers final id task) :
    (∃ core, (.established id, core) ∈ trail) ∧
      ∀ text, task = .send text → final.callers.session.core.Drops text →
        id ∉ failures trail → Severed trail id := by
  obtain ⟨core, opened⟩ := answering.heralded.ran_of_answers answers
  refine ⟨⟨core, opened⟩, fun text _ drops unfailed => ?_⟩
  rcases answering.journal.connected opened unfailed with ⟨connected, held⟩ | severed
  · exact (ClientCore.not_drops_of_connected connected held text drops).elim
  · exact severed

end ClientSession

end LineProtocol
