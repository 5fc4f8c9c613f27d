import LineProtocol.Proofs.Client.Moves

/-!
# Reports that come late

A client that connects again may still be told about connections that it had
before.  It knows such a report by the number of its channel, so the report
should change nothing once a request to connect was accepted.

Here reports come in any order, and any number of times.  A request to connect
whose target is known makes the client hold another channel at once, and no
report on an older one matters from then on.  A request whose target is not
known leaves the client with the channel that it held.  A client that held a
broken one still holds it, and the next report on it, unless it is that the
connection is established, moves the machine or takes the channel away.
`unmoved_iff` says that this is the only exception.
-/

namespace LineProtocol

namespace ClientCore

open Course (Event)

/-- Lets an event happen, whatever was reported before.  Numbers are never taken
back. -/
def step? (core : ClientCore) : Event → Option ClientCore
  | .job task => some (task.run false core).state
  | .transport transport =>
      if core.transport.nextId ≤ transport.nextId then some { core with transport } else none

/-- Lets events happen one after the other. -/
def run? (core : ClientCore) (events : List Event) : Option ClientCore :=
  events.foldlM step? core

/-- The job makes the client let go of a channel that it holds. -/
def Releases
    (core : ClientCore)
    (id : ChannelId) :
    ClientJob → Prop
  | .connect target => core.AcceptsConnect ∧ ∃ address, target = .ok address
  | .connectFailed other _ => other = id
  | .closed other => other = id
  | .finish => True
  | _ => False

/-- One of the events makes the client let go of a channel that it holds. -/
def ReleasedBy
    (core : ClientCore)
    (id : ChannelId)
    (events : List Event) :
    Prop :=
  ∃ earlier task later between,
    events = earlier ++ .job task :: later ∧
      core.run? earlier = some between ∧ between.Releases id task

/-- One of the events is a request to connect that was accepted and got this
channel. -/
def ConnectedBy
    (core : ClientCore)
    (id : ChannelId)
    (events : List Event) :
    Prop :=
  ∃ earlier address later between,
    events = earlier ++ .job (.connect (.ok address)) :: later ∧
      core.run? earlier = some between ∧ between.AcceptsConnect ∧
      id = ⟨between.transport.nextId⟩

/-- Neither the machine, with all who watch it, nor the channel is changed. -/
def Unmoved (before after : ClientCore) : Prop :=
  after.machine = before.machine ∧ after.channel = before.channel

/-! ## Which channel is held -/

/-- A channel with a number that was given out is held after a job if it was
held before and the job does not make the client let go. -/
theorem Moves.holds_iff
    {core : ClientCore}
    {task : ClientJob}
    {machine : Machine}
    {channel : Option ChannelId}
    {id : ChannelId}
    (moves : core.Moves task machine channel)
    (apart : core.machine.current = .disconnected → core.channel = none)
    (older : id.number < core.transport.nextId) :
    channel = some id ↔ core.channel = some id ∧ ¬ core.Releases id task := by
  cases moves with
  | ignored refused => simp [Releases, refused]
  | unknown accepted => simp [Releases]
  | known accepted =>
      have newer : some (⟨core.transport.nextId⟩ : ChannelId) ≠ some id := by
        rintro same
        obtain rfl := Option.some.inj same
        exact Nat.lt_irrefl _ older
      simp [Releases, accepted, newer]
  | send => simp [Releases]
  | still idle => simp [Releases]
  | disconnect held => simp [Releases]
  | alone nothing => simp [Releases]
  | stale about other =>
      have keeps : core.channel = some id → ¬ core.Releases id task := by
        intro held releases
        cases task <;> simp_all [ClientJob.about?, Releases]
      exact ⟨fun held => ⟨held, keeps held⟩, fun held => held.1⟩
  | established held => simp [Releases]
  | connectFailed held => simp [Releases, held]
  | broke held => simp [Releases]
  | closed held => simp [Releases, held]
  | finishOff off => simp [Releases, apart off]
  | finish busy => simp [Releases]

end ClientCore

/-! ## Who watches -/

/-- Somebody watches the machine from the start and misses nothing. -/
def Machine.Watched (machine : Machine) : Prop :=
  ∃ seen rest, machine.cell.subscriptions = { pending := seen } :: rest

theorem Machine.Watched.advance
    {machine : Machine}
    (watched : machine.Watched)
    (event : ConnectionEvent) :
    (machine.advance event).Watched := by
  obtain ⟨seen, rest, subscriptions⟩ := watched
  unfold Machine.advance Machine.apply
  split
  · rename_i next leads
    refine ⟨seen ++ [next], rest.map (·.offer next), ?_⟩
    simp [Cell.publish, subscriptions, Subscription.offer]
  · exact ⟨seen, rest, subscriptions⟩

theorem Machine.Watched.foldl
    {machine : Machine}
    (watched : machine.Watched)
    (events : List ConnectionEvent) :
    (events.foldl Machine.advance machine).Watched :=
  List.foldlRecOn events _ watched fun _ watched event _ => watched.advance event

/-- Who watches sees that a connection broke, also where another did before. -/
theorem Machine.Watched.broke_ne
    {machine : Machine}
    (watched : machine.Watched)
    (cause : Fault) :
    machine.advance (.broke cause) ≠ machine := by
  obtain ⟨seen, rest, subscriptions⟩ := watched
  have leads : machine.current.after? (.broke cause) = some (.failed cause) := by
    cases machine.current <;> rfl
  rw [Machine.advance, Machine.apply_of_some leads]
  intro same
  have shown := congrArg (fun machine => machine.cell.subscriptions) same
  simp [Cell.publish, subscriptions, Subscription.offer] at shown

namespace ClientCore

open Course (Event)

/-! ## Runs -/

/-- What holds after every run: a disconnected client holds no channel, and
somebody watches. -/
structure Composed (core : ClientCore) : Prop where
  apart : core.machine.current = .disconnected → core.channel = none
  watched : core.machine.Watched

theorem composed_start
    (names : String × String)
    (settings : ClientSettings)
    (transport : Transport)
    (handler : String → Reaction ClientAction) :
    Composed (ClientSession.start names settings transport handler).core where
  apart _ := rfl
  watched := ⟨[.disconnected], [], rfl⟩

/-- A step runs a job, or leaves all but the transport alone. -/
theorem step?_cases
    {core next : ClientCore}
    {event : Event}
    (stepped : core.step? event = some next) :
    (∃ task, event = .job task ∧ next = (task.run false core).state) ∨
      ∃ transport,
        event = .transport transport ∧ core.transport.nextId ≤ transport.nextId ∧
          next = { core with transport } := by
  cases event with
  | job task => exact .inl ⟨task, rfl, (Option.some.inj stepped).symm⟩
  | transport transport =>
      simp only [step?] at stepped
      split at stepped
      · rename_i later
        exact .inr ⟨transport, rfl, later, (Option.some.inj stepped).symm⟩
      · simp at stepped

theorem Composed.step
    {core next : ClientCore}
    {event : Event}
    (composed : Composed core)
    (stepped : core.step? event = some next) :
    Composed next := by
  rcases step?_cases stepped with ⟨task, -, rfl⟩ | ⟨transport, -, -, rfl⟩
  · have moves := core.moves_run task
    obtain ⟨events, moved⟩ := moves.events
    refine ⟨moves.apart composed.apart, ?_⟩
    rw [moved]
    exact composed.watched.foldl events
  · exact ⟨composed.apart, composed.watched⟩

theorem Composed.run
    {core final : ClientCore}
    {events : List Event}
    (composed : Composed core)
    (ran : core.run? events = some final) :
    Composed final :=
  foldlM_keeps (fun _ _ _ composed stepped => composed.step stepped) composed ran

theorem nextId_le_step
    {core next : ClientCore}
    {event : Event}
    (stepped : core.step? event = some next) :
    core.transport.nextId ≤ next.transport.nextId := by
  rcases step?_cases stepped with ⟨task, -, rfl⟩ | ⟨transport, -, later, rfl⟩
  · exact (ClientJob.later_run false task core).nextId
  · exact later

theorem nextId_le_run?
    {core final : ClientCore}
    {events : List Event}
    (ran : core.run? events = some final) :
    core.transport.nextId ≤ final.transport.nextId :=
  foldlM_keeps
    (fun _ _ _ later stepped => Nat.le_trans later (nextId_le_step stepped))
    (Nat.le_refl _) ran

/-- The channel of an earlier request has a number that was given out. -/
theorem number_lt_of_connectedBy
    {core final : ClientCore}
    {id : ChannelId}
    {events : List Event}
    (ran : core.run? events = some final)
    (connected : core.ConnectedBy id events) :
    id.number < final.transport.nextId := by
  obtain ⟨earlier, address, later, between, rfl, before, accepted, rfl⟩ := connected
  have split :
      core.run? (earlier ++ .job (.connect (.ok address)) :: later) =
        (core.run? earlier).bind fun between =>
          (between.step? (.job (.connect (.ok address)))).bind (·.run? later) := by
    simp only [run?, List.foldlM_append, List.foldlM_cons]
    rfl
  rw [split, before] at ran
  have later := nextId_le_run?
    (show ((ClientJob.connect (.ok address)).run false between).state.run? later =
      some final from ran)
  have number :
      ((ClientJob.connect (.ok address)).run false between).state.transport.nextId =
        between.transport.nextId + 1 :=
    (connect_of_ok accepted address).2.2
  rw [number] at later
  exact later

theorem releasedBy_snoc_iff
    {core final : ClientCore}
    {id : ChannelId}
    {events : List Event}
    (ran : core.run? events = some final)
    (event : Event) :
    core.ReleasedBy id (events ++ [event]) ↔
      core.ReleasedBy id events ∨ ∃ task, event = .job task ∧ final.Releases id task := by
  constructor
  · rintro ⟨earlier, task, later, between, split, before, releases⟩
    rcases split_snoc_of_run ran split before with ⟨rfl, rfl, -⟩ | ⟨shorter, whole, -⟩
    · exact .inr ⟨task, rfl, releases⟩
    · exact .inl ⟨earlier, task, shorter, between, whole, before, releases⟩
  · rintro (⟨earlier, task, later, between, rfl, before, releases⟩ | ⟨task, rfl, releases⟩)
    · exact ⟨earlier, task, later ++ [event], between, by simp, before, releases⟩
    · exact ⟨events, task, [], final, rfl, ran, releases⟩

/-- A channel is held after a run if it was held before and nothing made the
client let go of it: it is never taken up again. -/
theorem holds_iff
    {core final : ClientCore}
    {id : ChannelId}
    {events : List Event}
    (composed : Composed core)
    (older : id.number < core.transport.nextId)
    (ran : core.run? events = some final) :
    final.channel = some id ↔ core.channel = some id ∧ ¬ core.ReleasedBy id events := by
  induction ran using foldlM_induction with
  | none => simp [ReleasedBy]
  | snoc events event between final before stepped ih =>
      rw [releasedBy_snoc_iff before, not_or, ← and_assoc, ← ih]
      rcases step?_cases stepped with ⟨task, rfl, rfl⟩ | ⟨transport, rfl, -, rfl⟩
      · have still := Nat.lt_of_lt_of_le older (nextId_le_run? before)
        rw [(between.moves_run task).holds_iff (composed.run before).apart still]
        simp
      · simp

/-! ## A channel that is held for too long -/

/-- If the channel is held, its connection is not being used any more. -/
def Spent (id : ChannelId) (core : ClientCore) : Prop :=
  core.channel = some id →
    core.machine.current = .disconnecting ∨ ∃ cause, core.machine.current = .failed cause

theorem Spent.run
    {core : ClientCore}
    {id : ChannelId}
    (composed : Composed core)
    (older : id.number < core.transport.nextId)
    (spent : Spent id core)
    (task : ClientJob) :
    Spent id (task.run false core).state := by
  intro after
  have moves := core.moves_run task
  obtain ⟨held, kept⟩ := (moves.holds_iff composed.apart older).mp after
  have idle := spent held
  generalize (task.run false core).state.machine = machine at moves ⊢
  generalize (task.run false core).state.channel = channel at moves
  cases moves with
  | ignored refused => exact idle
  | @unknown cause accepted =>
      exact .inr ⟨cause, by simp [advance_connect accepted, ConnectionState.after?]⟩
  | @known address accepted => exact (kept ⟨accepted, address, rfl⟩).elim
  | send => exact idle
  | still gone => exact idle
  | disconnect _ =>
      left
      rcases idle with state | ⟨cause, state⟩
      · simp [state, ConnectionState.after?]
      · simp [state, ConnectionState.after?]
  | alone nothing => cases nothing.symm.trans held
  | stale about other => exact idle
  | established _ =>
      rcases idle with state | ⟨cause, state⟩
      · simp [state, ConnectionState.after?]
      · simp [state, ConnectionState.after?]
  | connectFailed same => exact (kept (Option.some.inj (same.symm.trans held))).elim
  | @broke _ cause _ =>
      refine .inr ⟨cause, ?_⟩
      cases state : core.machine.current <;> simp [state, ConnectionState.after?]
  | closed same => exact (kept (Option.some.inj (same.symm.trans held))).elim
  | finishOff off => exact (kept trivial).elim
  | finish busy => exact (kept trivial).elim

theorem Spent.after
    {core final : ClientCore}
    {id : ChannelId}
    {events : List Event}
    (composed : Composed core)
    (older : id.number < core.transport.nextId)
    (spent : Spent id core)
    (ran : core.run? events = some final) :
    Spent id final := by
  induction ran using foldlM_induction with
  | none => exact spent
  | snoc events event between final before stepped ih =>
      rcases step?_cases stepped with ⟨task, -, rfl⟩ | ⟨transport, -, -, rfl⟩
      · have still := Nat.lt_of_lt_of_le older (nextId_le_run? before)
        exact ih.run (composed.run before) still task
      · exact ih

/-- A report on a channel that is held although its connection is not used any
more changes something, unless it is that the connection is established. -/
theorem unmoved_of_held_iff
    {core : ClientCore}
    {task : ClientJob}
    {id : ChannelId}
    (watched : core.machine.Watched)
    (spent : Spent id core)
    (held : core.channel = some id)
    (about : task.about? = some id) :
    core.Unmoved (task.run false core).state ↔ task = .established id := by
  have current : core.isCurrent id = true := (core.isCurrent_iff id).mpr held
  cases task with
  | established other =>
      obtain rfl : other = id := Option.some.inj about
      have stays : core.machine.advance .established = core.machine := by
        rw [Machine.advance, Machine.apply_of_none]
        rcases spent held with state | ⟨cause, state⟩
        · rw [state]
          rfl
        · rw [state]
          rfl
      simp [Unmoved, ClientJob.run, established, current, advance, stays]
  | connectFailed other cause =>
      obtain rfl : other = id := Option.some.inj about
      have gone : (core.connectFailed other cause).channel = none := by
        rw [connectFailed, if_pos current]
        simp only
        split
        · rfl
        · rfl
      simp [Unmoved, ClientJob.run, gone, held]
  | broke other cause =>
      obtain rfl : other = id := Option.some.inj about
      have moves := watched.broke_ne cause
      simp [Unmoved, ClientJob.run, broke, current, advance, note, moves]
  | closed other =>
      obtain rfl : other = id := Option.some.inj about
      simp [Unmoved, ClientJob.run, closed, current, held]
  | connect target => simp [ClientJob.about?] at about
  | send message => simp [ClientJob.about?] at about
  | disconnect => simp [ClientJob.about?] at about
  | finish => simp [ClientJob.about?] at about

/-- A client that accepted a request to connect is not moved by reports on the
channels of earlier requests, in whatever order reports come.  The exception are
reports, other than that the connection is established, on the channel that the
client held when it accepted the request, if the target was not known and
nothing made the client let go of the channel since. -/
theorem unmoved_iff
    {names : String × String}
    {settings : ClientSettings}
    {transport : Transport}
    {handler : String → Reaction ClientAction}
    {earlier later : List Event}
    {before after : ClientCore}
    {target : Except Fault SocketAddress}
    {task : ClientJob}
    {id : ChannelId}
    (ran :
      (ClientSession.start names settings transport handler).core.run? earlier =
        some before)
    (connected :
      (ClientSession.start names settings transport handler).core.ConnectedBy id earlier)
    (accepted : before.AcceptsConnect)
    (went : before.run? (.job (.connect target) :: later) = some after)
    (about : task.about? = some id) :
    after.Unmoved (task.run false after).state ↔
      ¬ (before.channel = some id ∧
          ¬ before.ReleasedBy id (.job (.connect target) :: later) ∧
            task ≠ .established id) := by
  have composed := (composed_start names settings transport handler).run ran
  have older := number_lt_of_connectedBy ran connected
  have held := holds_iff composed older went
  rw [← and_assoc, ← held]
  by_cases here : after.channel = some id
  · obtain ⟨between, first, rest⟩ := Option.bind_eq_some_iff.mp
      (show (before.step? (.job (.connect target))).bind (·.run? later) = some after from went)
    obtain rfl := Option.some.inj first
    have spent : Spent id ((ClientJob.connect target).run false before).state := by
      intro still
      cases target with
      | error cause => exact .inr ⟨cause, current_connect_of_error accepted cause⟩
      | ok address =>
          have moves := before.moves_run (.connect (.ok address))
          have released := ((moves.holds_iff composed.apart older).mp still).2
          exact (released ⟨accepted, address, rfl⟩).elim
    have later := ClientJob.later_run false (.connect target) before
    have still := Nat.lt_of_lt_of_le older later.nextId
    have next : Composed ((ClientJob.connect target).run false before).state :=
      composed.step first
    rw [unmoved_of_held_iff (next.run rest).watched (spent.after next still rest) here about]
    simp [here]
  · rw [run_of_ne about here]
    simp [here, Unmoved]

/-- A client whose connection broke connects to an unknown target and then to a
known one.  That the first connection is closed does not matter to it. -/
theorem unmoved_iff_replaced :
    let known : Except Fault SocketAddress := .ok { ip := .v4 .unspecified, port := 80 }
    let unknown : Except Fault SocketAddress := .error (.noAddress "nowhere:80")
    let client : ClientCore :=
      (ClientSession.start ("client", "crew") {} {} fun _ => {}).core
    let earlier : List Event :=
      [.job (.connect known), .job (.established ⟨1⟩),
        .job (.broke ⟨1⟩ (.transport "reset"))]
    ∃ before after,
      client.run? earlier = some before ∧ client.ConnectedBy ⟨1⟩ earlier ∧
        before.AcceptsConnect ∧ before.channel = some ⟨1⟩ ∧
        before.run? [.job (.connect unknown), .job (.connect known)] = some after ∧
        after.Unmoved ((ClientJob.closed ⟨1⟩).run false after).state := by
  intro known unknown client earlier
  obtain ⟨before, ran⟩ :=
    Option.isSome_iff_exists.mp
      (by decide +kernel : (client.run? earlier).isSome = true)
  have shown :
      (client.run? earlier).map (fun core => (core.machine.current, core.channel)) =
        some (.failed (.transport "reset"), some ⟨1⟩) := by
    decide +kernel
  rw [ran] at shown
  simp only [Option.map_some, Option.some.injEq, Prod.mk.injEq] at shown
  have accepted : before.AcceptsConnect :=
    before.acceptsConnect_iff.mpr (.inr ⟨_, shown.1⟩)
  have connected : client.ConnectedBy ⟨1⟩ earlier :=
    ⟨[], _, _, client, rfl, rfl, rfl, rfl⟩
  let between : ClientCore := ((ClientJob.connect unknown).run false before).state
  have again : between.AcceptsConnect :=
    between.acceptsConnect_iff.mpr (.inr ⟨_, current_connect_of_error accepted _⟩)
  have went :
      before.run? [.job (.connect unknown), .job (.connect known)] =
        some ((ClientJob.connect known).run false between).state :=
    rfl
  refine ⟨before, _, ran, connected, accepted, shown.2, went, ?_⟩
  refine (unmoved_iff ran connected accepted went rfl).mpr ?_
  rintro ⟨-, kept, -⟩
  exact kept ⟨[.job (.connect unknown)], .connect known, [], between, rfl, rfl, again, _, rfl⟩

/-- A client whose connection broke connects to an unknown target.  That the
connection is closed then takes the client out of its error. -/
theorem not_always_unmoved :
    ¬ ∀ (names : String × String) (settings : ClientSettings) (transport : Transport)
        (handler : String → Reaction ClientAction) (earlier later : List Event)
        (before after : ClientCore) (target : Except Fault SocketAddress)
        (task : ClientJob) (id : ChannelId),
        (ClientSession.start names settings transport handler).core.run? earlier =
            some before →
          (ClientSession.start names settings transport handler).core.ConnectedBy id
              earlier →
            before.AcceptsConnect →
              before.run? (.job (.connect target) :: later) = some after →
                task.about? = some id → after.Unmoved (task.run false after).state := by
  intro always
  let known : Except Fault SocketAddress := .ok { ip := .v4 .unspecified, port := 80 }
  let client : ClientCore :=
    (ClientSession.start ("client", "crew") {} {} fun _ => {}).core
  let earlier : List Event :=
    [.job (.connect known), .job (.established ⟨1⟩),
      .job (.broke ⟨1⟩ (.transport "reset"))]
  obtain ⟨before, ran⟩ :=
    Option.isSome_iff_exists.mp
      (by decide +kernel : (client.run? earlier).isSome = true)
  have shown :
      (client.run? earlier).map (fun core => (core.machine.current, core.channel)) =
        some (.failed (.transport "reset"), some ⟨1⟩) := by
    decide +kernel
  rw [ran] at shown
  simp only [Option.map_some, Option.some.injEq, Prod.mk.injEq] at shown
  have accepted : before.AcceptsConnect :=
    before.acceptsConnect_iff.mpr (.inr ⟨_, shown.1⟩)
  let target : Except Fault SocketAddress := .error (.noAddress "nowhere:80")
  let after : ClientCore := ((ClientJob.connect target).run false before).state
  have held : after.channel = some ⟨1⟩ :=
    (connect_of_error accepted _).2.1.trans shown.2
  have unmoved :=
    always ("client", "crew") {} {} (fun _ => {}) earlier [] before after target
      (.closed ⟨1⟩) ⟨1⟩ ran ⟨[], _, _, client, rfl, rfl, rfl, rfl⟩ accepted rfl rfl
  have current : after.isCurrent ⟨1⟩ = true := (after.isCurrent_iff ⟨1⟩).mpr held
  simp [Unmoved, ClientJob.run, closed, current, held] at unmoved

end ClientCore

end LineProtocol
