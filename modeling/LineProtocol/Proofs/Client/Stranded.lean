import LineProtocol.Proofs.Client.Course

/-!
# Clients without a connection

A client that is connecting, connected or disconnecting waits for a report, so
it should be `Attached`: it should hold a channel on which the last report is
still to come.  One thing keeps it from that.  A connection that is closed
while it is still being made takes the channel away, but the state machine has
no place for a close in that state, and the client goes on connecting without
a connection.  Nothing that is reported later leads out of this, and neither
does a new request to connect; giving the connection up does.

`attached_iff` says that this is the only way: a client is attached exactly
where it was not `TornDown`.
-/

namespace LineProtocol

/-- A job is the last report on a connection. -/
def ClientJob.ends
    (id : ChannelId) :
    ClientJob → Bool
  | .connectFailed other _ => other = id
  | .closed other => other = id
  | _ => false

namespace Course

/-- Where there should be a connection, the client holds a channel on which the
last report is still to come. -/
def Attached
    (course : Course)
    (events : List Event) :
    Prop :=
  course.core.machine.current = .connecting ∨
      course.core.machine.current = .connected ∨
      course.core.machine.current = .disconnecting →
    ∃ id, course.core.channel = some id ∧
      ∀ task, .job task ∈ events → task.ends id = false

/-- A connection was closed while it was being made, and the client was neither
asked to give it up nor finished since. -/
def TornDown
    (start : Course)
    (events : List Event) :
    Prop :=
  ∃ earlier id later between,
    events = earlier ++ .job (.closed id) :: later ∧
      start.run? earlier = some between ∧
      between.core.machine.current = .connecting ∧
      between.core.channel = some id ∧
      .job .disconnect ∉ later ∧ .job .finish ∉ later

/-- The client is connecting without a connection. -/
def Stranded (core : ClientCore) : Prop :=
  core.machine.current = .connecting ∧ core.channel = none

/-! ## The last report -/

/-- The last report is never followed by another. -/
theorem ended_of_perform
    {course : Course}
    {task : ClientJob}
    {lives : ChannelId → Option Life}
    {id : ChannelId}
    (sound : Sound course)
    (reported : course.reported? task = some lives)
    (ended : course.lives id = some .ended) :
    (course.perform task lives).lives id = some .ended := by
  have older : id ≠ ⟨course.core.transport.nextId⟩ := by
    rintro rfl
    exact Nat.lt_irrefl _ (sound.numbered _ _ ended)
  have kept : lives id = some .ended := by
    cases about : task.about? with
    | none =>
        rw [lives_of_request about reported]
        exact ended
    | some other =>
        obtain ⟨life, next, reached, leads, rfl⟩ := lives_of_report about reported
        by_cases same : id = other
        · subst same
          rw [ended] at reached
          obtain rfl := Option.some.inj reached
          cases task <;> simp [Life.after?] at leads
        · rw [Function.update_of_ne same]
          exact ended
  unfold perform
  simp only
  split
  · exact kept
  · rw [Function.update_of_ne older]
    exact kept

theorem ended_of_ends
    {course : Course}
    {task : ClientJob}
    {lives : ChannelId → Option Life}
    {id : ChannelId}
    (reported : course.reported? task = some lives)
    (ends : task.ends id = true) :
    (course.perform task lives).lives id = some .ended := by
  have about : task.about? = some id := by
    cases task <;> simp_all [ClientJob.ends, ClientJob.about?]
  obtain ⟨life, next, -, leads, rfl⟩ := lives_of_report about reported
  have last : next = .ended := by
    cases task <;> cases life <;> simp_all [ClientJob.ends, Life.after?]
  rw [perform_eq (congrArg Transport.nextId (transport_report about course.core)), last]
  exact Function.update_self ..

/-- Where the last report was made, it is known that it was. -/
theorem ended_of_mem
    {course final : Course}
    {events : List Event}
    {task : ClientJob}
    {id : ChannelId}
    (sound : Sound course)
    (ran : course.run? events = some final)
    (made : .job task ∈ events)
    (ends : task.ends id = true) :
    final.lives id = some .ended := by
  induction ran using foldlM_induction with
  | none => simp at made
  | snoc events event between final before stepped ih =>
      rcases List.mem_append.mp made with earlier | last
      · have ended := ih earlier
        rcases step?_cases stepped with
          ⟨other, lives, -, reported, rfl⟩ | ⟨transport, -, -, rfl⟩
        · exact ended_of_perform (sound.run before) reported ended
        · exact ended
      · obtain rfl := List.mem_singleton.mp last
        obtain ⟨lives, reported, rfl⟩ := Option.map_eq_some_iff.mp stepped
        exact ended_of_ends reported ends

/-! ## Getting stranded, and out of it -/

/-- A report strands a client if and only if it is the close of the connection
that is being made. -/
theorem stranded_report_iff
    {core : ClientCore}
    {task : ClientJob}
    {id : ChannelId}
    (about : task.about? = some id)
    (here : core.channel = some id) :
    Stranded (task.run false core).state ↔
      task = .closed id ∧ core.machine.current = .connecting := by
  have current : core.isCurrent id = true := (core.isCurrent_iff id).mpr here
  cases task with
  | established other =>
      obtain rfl : other = id := Option.some.inj about
      simp [Stranded, ClientJob.run, ClientCore.established, current, here]
  | connectFailed other cause =>
      obtain rfl : other = id := Option.some.inj about
      cases state : core.machine.current <;>
        simp [Stranded, ClientJob.run, ClientCore.connectFailed, current, ClientCore.note,
          state, ConnectionState.after?]
  | broke other cause =>
      obtain rfl : other = id := Option.some.inj about
      simp [Stranded, ClientJob.run, ClientCore.broke, current, ClientCore.note, here]
  | closed other =>
      obtain rfl : other = id := Option.some.inj about
      cases state : core.machine.current <;>
        simp [Stranded, ClientJob.run, ClientCore.closed, current, state,
          ConnectionState.after?]
  | connect target => simp [ClientJob.about?] at about
  | send message => simp [ClientJob.about?] at about
  | disconnect => simp [ClientJob.about?] at about
  | finish => simp [ClientJob.about?] at about

theorem not_stranded_disconnect (core : ClientCore) : ¬ Stranded core.disconnect.2 := by
  rintro ⟨connecting, -⟩
  revert connecting
  unfold ClientCore.disconnect
  cases state : core.machine.current with
  | disconnected => simp [state]
  | disconnecting => simp [state]
  | connecting =>
      cases here : core.channel <;> simp [here, state, ConnectionState.after?]
  | connected =>
      cases here : core.channel <;> simp [here, state, ConnectionState.after?]
  | failed cause =>
      cases here : core.channel <;> simp [here, state, ConnectionState.after?]

/-- A client that is asked for something is stranded if it was before and was
not asked to give its connection up. -/
theorem stranded_request_iff
    {course : Course}
    (sound : Sound course)
    {task : ClientJob}
    (request : task.about? = none) :
    Stranded (task.run false course.core).state ↔
      Stranded course.core ∧ task ≠ .disconnect ∧ task ≠ .finish := by
  cases task with
  | connect target =>
      show Stranded (course.core.connect target).1 ↔ _
      rcases course.core.connect_cases target with
        ⟨machine, channel, -⟩ |
          ⟨idle, ⟨⟨cause, failed⟩, -, -⟩ | ⟨-, channel, -⟩⟩
      · simp [Stranded, machine, channel]
      · rcases idle with off | ⟨earlier, off⟩
        · simp [Stranded, failed, off]
        · simp [Stranded, failed, off]
      · rcases idle with off | ⟨earlier, off⟩
        · simp [Stranded, channel, off]
        · simp [Stranded, channel, off]
  | send message =>
      obtain ⟨machine, channel, -⟩ := course.core.send_eq message
      show Stranded (course.core.send message) ↔ _
      simp [Stranded, machine, channel]
  | disconnect =>
      have gone := not_stranded_disconnect course.core
      show Stranded course.core.disconnect.2 ↔ _
      simpa using gone
  | finish =>
      have off := (ClientCore.finish_eq sound.apart).1
      show Stranded course.core.finish ↔ _
      simp [Stranded, off]
  | established id => simp [ClientJob.about?] at request
  | connectFailed id cause => simp [ClientJob.about?] at request
  | broke id cause => simp [ClientJob.about?] at request
  | closed id => simp [ClientJob.about?] at request

/-- What a job makes of a stranded client, and what strands one. -/
theorem stranded_run_iff
    {course : Course}
    (sound : Sound course)
    (task : ClientJob) :
    Stranded (task.run false course.core).state ↔
      (Stranded course.core ∧ task ≠ .disconnect ∧ task ≠ .finish) ∨
        ∃ id, task = .closed id ∧ course.core.machine.current = .connecting ∧
          course.core.channel = some id := by
  cases about : task.about? with
  | some id =>
      have unrequested : task ≠ .disconnect ∧ task ≠ .finish := by
        constructor
        · rintro rfl
          simp [ClientJob.about?] at about
        · rintro rfl
          simp [ClientJob.about?] at about
      by_cases here : course.core.channel = some id
      · rw [stranded_report_iff about here]
        constructor
        · rintro ⟨rfl, connecting⟩
          exact .inr ⟨id, rfl, connecting, here⟩
        · rintro (⟨⟨-, empty⟩, -⟩ | ⟨other, rfl, connecting, -⟩)
          · rw [here] at empty
            simp at empty
          · obtain rfl : other = id := Option.some.inj about
            exact ⟨rfl, connecting⟩
      · rw [ClientCore.run_of_ne about here]
        constructor
        · intro stranded
          exact .inl ⟨stranded, unrequested⟩
        · rintro (⟨stranded, -⟩ | ⟨other, rfl, -, same⟩)
          · exact stranded
          · obtain rfl : other = id := Option.some.inj about
            exact (here same).elim
  | none =>
      have unreported : ¬ ∃ id, task = .closed id ∧
          course.core.machine.current = .connecting ∧
            course.core.channel = some id := by
        rintro ⟨id, rfl, -⟩
        simp [ClientJob.about?] at about
      rw [or_iff_left unreported]
      exact stranded_request_iff sound about

theorem tornDown_snoc_iff
    {start course : Course}
    {events : List Event}
    (ran : start.run? events = some course)
    (event : Event) :
    TornDown start (events ++ [event]) ↔
      (TornDown start events ∧ event ≠ .job .disconnect ∧ event ≠ .job .finish) ∨
        ∃ id, event = .job (.closed id) ∧ course.core.machine.current = .connecting ∧
          course.core.channel = some id := by
  constructor
  · rintro ⟨earlier, id, later, between, split, before, connecting, here, kept, busy⟩
    rcases split_snoc_of_run ran split before with
      ⟨rfl, rfl, -⟩ | ⟨shorter, whole, rfl⟩
    · exact .inr ⟨id, rfl, connecting, here⟩
    · simp only [List.mem_append, List.mem_singleton, not_or] at kept busy
      exact .inl ⟨⟨earlier, id, shorter, between, whole, before, connecting, here,
        kept.1, busy.1⟩, Ne.symm kept.2, Ne.symm busy.2⟩
  · rintro (⟨⟨earlier, id, later, between, rfl, before, connecting, here, kept, busy⟩,
      disconnect, finish⟩ | ⟨id, rfl, connecting, here⟩)
    · refine ⟨earlier, id, later ++ [event], between, by simp, before, connecting, here,
        ?_, ?_⟩
      · simp [kept, Ne.symm disconnect]
      · simp [busy, Ne.symm finish]
    · exact ⟨events, id, [], course, rfl, ran, connecting, here, by simp, by simp⟩

/-- A client is stranded exactly where it was torn down. -/
theorem stranded_iff_tornDown
    {start course : Course}
    {events : List Event}
    (sound : Sound start)
    (off : start.core.machine.current = .disconnected)
    (ran : start.run? events = some course) :
    Stranded course.core ↔ TornDown start events := by
  -- By the last event, which changes both sides in the same way.
  induction ran using foldlM_induction with
  | none => simp [Stranded, TornDown, off]
  | snoc events event between course before stepped ih =>
      rw [tornDown_snoc_iff before, ← ih]
      rcases step?_cases stepped with
        ⟨task, lives, rfl, -, rfl⟩ | ⟨transport, rfl, -, rfl⟩
      · have job := stranded_run_iff (sound.run before) task
        show Stranded (task.run false between.core).state ↔ _
        simpa using job
      · simp [Stranded]

/-- The last report on a channel that is held is still to come. -/
theorem Sound.pending
    {start course : Course}
    {events : List Event}
    {id : ChannelId}
    (sound : Sound start)
    (ran : start.run? events = some course)
    (held : course.core.channel = some id)
    (task : ClientJob)
    (made : .job task ∈ events) :
    task.ends id = false := by
  have stance := (sound.run ran).stance
  obtain ⟨life, reached, busy⟩ :
      ∃ life, course.lives id = some life ∧ life ≠ .ended := by
    rw [held] at stance
    cases state : course.core.machine.current with
    | disconnected => simp [state, Stance] at stance
    | connecting => exact ⟨.opening, by simpa [state, Stance] using stance, by decide⟩
    | connected => exact ⟨.opened, by simpa [state, Stance] using stance, by decide⟩
    | disconnecting => simpa [state, Stance] using stance
    | failed cause => exact ⟨.broken, by simpa [state, Stance] using stance, by decide⟩
  rw [Bool.eq_false_iff]
  intro ends
  rw [ended_of_mem sound ran made ends] at reached
  exact busy (Option.some.inj reached).symm

/-- Apart from stranded clients, whoever waits for a report will get one. -/
theorem Sound.attached
    {start course : Course}
    {events : List Event}
    (sound : Sound start)
    (ran : start.run? events = some course)
    (afloat : ¬ Stranded course.core) :
    course.Attached events := by
  have stance := (sound.run ran).stance
  rintro (connecting | connected | disconnecting)
  · cases here : course.core.channel with
    | none => exact (afloat ⟨connecting, here⟩).elim
    | some id => exact ⟨id, rfl, sound.pending ran here⟩
  · rw [connected] at stance
    obtain ⟨id, here, -⟩ := stance
    exact ⟨id, here, sound.pending ran here⟩
  · rw [disconnecting] at stance
    obtain ⟨id, -, here, -⟩ := stance
    exact ⟨id, here, sound.pending ran here⟩

/-- After every course, a disconnected client holds no channel.  A client that
is connecting, connected or disconnecting holds one on which the last report is
still to come, except where a connection was closed while it was being made and
the client was neither asked to give it up nor finished since. -/
theorem attached_iff
    {names : String × String}
    {settings : ClientSettings}
    {transport : Transport}
    {handler : String → Reaction ClientAction}
    {events : List Event}
    {course : Course}
    (ran : (start names settings transport handler).run? events = some course) :
    (course.core.machine.current = .disconnected → course.core.channel = none) ∧
      (course.Attached events ↔
        ¬ TornDown (start names settings transport handler) events) := by
  have sound := sound_start names settings transport handler
  have stranded := stranded_iff_tornDown sound rfl ran
  refine ⟨(sound.run ran).apart, ?_, ?_⟩
  · intro attached torn
    obtain ⟨connecting, empty⟩ := stranded.mpr torn
    obtain ⟨id, here, -⟩ := attached (.inl connecting)
    rw [empty] at here
    simp at here
  · intro whole
    exact sound.attached ran fun lost => whole (stranded.mp lost)

/-- A client whose connection is closed while it is being made goes on
connecting, and asking it to connect again does not help. -/
theorem attached_iff_again :
    let target : Except Fault SocketAddress := .ok { ip := .v4 .unspecified, port := 80 }
    let client : Course := start ("client", "crew") {} {} fun _ => {}
    let events : List Event :=
      [.job (.connect target), .job (.closed ⟨1⟩), .job (.connect target)]
    ∃ course,
      client.run? events = some course ∧
        TornDown client events ∧ ¬ course.Attached events := by
  intro target client events
  obtain ⟨between, before⟩ :=
    Option.isSome_iff_exists.mp
      (by decide +kernel : (client.run? [.job (.connect target)]).isSome = true)
  obtain ⟨course, ran⟩ :=
    Option.isSome_iff_exists.mp
      (by decide +kernel : (client.run? events).isSome = true)
  have held :
      (client.run? [.job (.connect target)]).map
          (fun course => (course.core.machine.current, course.core.channel)) =
        some (.connecting, some ⟨1⟩) := by
    decide +kernel
  rw [before] at held
  simp only [Option.map_some, Option.some.injEq, Prod.mk.injEq] at held
  have torn : TornDown client events :=
    ⟨[.job (.connect target)], ⟨1⟩, [.job (.connect target)], between, rfl, before,
      held.1, held.2, by simp, by simp⟩
  refine ⟨course, ran, torn, ?_⟩
  intro attached
  exact (attached_iff ran).2.mp attached torn

/-- Not every client that waits for a report will get one. -/
theorem not_always_attached :
    ¬ ∀ (names : String × String) (settings : ClientSettings) (transport : Transport)
        (handler : String → Reaction ClientAction) (events : List Event) (course : Course),
        (start names settings transport handler).run? events = some course →
          course.Attached events ∧
            (course.core.machine.current = .disconnected → course.core.channel = none) := by
  intro always
  have torn :
      ((start ("client", "crew") {} {} fun _ => {}).run?
          [.job (.connect (.ok { ip := .v4 .unspecified, port := 80 })),
            .job (.closed ⟨1⟩)]).map
          (fun course => (course.core.machine.current, course.core.channel)) =
        some (.connecting, none) := by
    decide +kernel
  obtain ⟨course, ran, shown⟩ := Option.map_eq_some_iff.mp torn
  simp only [Prod.mk.injEq] at shown
  obtain ⟨id, here, -⟩ := (always _ _ _ _ _ course ran).1 (.inl shown.1)
  rw [shown.2] at here
  simp at here

end Course

end LineProtocol
