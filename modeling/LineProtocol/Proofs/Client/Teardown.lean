import LineProtocol.Proofs.Client.Asides
import LineProtocol.Proofs.Client.GivingUp
import LineProtocol.Proofs.Connection.Path
import LineProtocol.Proofs.Shutdown.Overtaking

/-!
# The end of a client

The last job of a client leaves it disconnected and without a channel, whatever it was
doing, and takes it there on a path of the table: through `ConnectionState.farewell`.
A client that was disconnected already publishes nothing.

When that job runs, no other job is taken any more, and none waits behind it.  Calls
are refused from there on, and since calls, reports and the handler act on a client
through jobs alone, nothing changes the machine or the channel again.
-/

namespace LineProtocol

/-- The states that a client goes through at its end. -/
def ConnectionState.farewell : ConnectionState → List ConnectionState
  | .disconnected => []
  | .disconnecting => [.disconnected]
  | _ => [.disconnecting, .disconnected]

/-- The end of a client is a path of the table, from every state. -/
theorem ConnectionState.isPath_farewell (state : ConnectionState) :
    IsPath (state :: state.farewell) := by
  apply IsPath.of_isChain
  have last : Leads .disconnecting .disconnected := ⟨.closed, .inr (.inr rfl), rfl⟩
  cases state with
  | disconnected => exact .singleton _
  | disconnecting => exact .cons_cons last (.singleton _)
  | connecting =>
      exact .cons_cons ⟨.disconnectRequested, .inl rfl, rfl⟩ (.cons_cons last (.singleton _))
  | connected =>
      exact .cons_cons ⟨.disconnectRequested, .inr (.inl rfl), rfl⟩
        (.cons_cons last (.singleton _))
  | failed cause =>
      exact .cons_cons ⟨.disconnectRequested, .inr (.inr rfl), rfl⟩
        (.cons_cons last (.singleton _))

namespace ClientCore

/-- What the last job makes of a client. -/
structure Finishes (core : ClientCore) : Prop where
  machine : core.finish.machine = core.machine.through core.machine.current.farewell
  path : ConnectionState.IsPath (core.machine.current :: core.machine.current.farewell)
  silent : core.machine.current = .disconnected → core.finish.machine = core.machine
  off : core.finish.machine.current = .disconnected
  /-- This is also what is seen by whoever asks for the state. -/
  shown : core.finish.machine.cell.value = .disconnected
  empty : core.finish.channel = none

/-- A disconnected client holds no channel, and the state of a client is the one that
it shows. -/
structure Tidy (core : ClientCore) : Prop where
  apart : core.machine.current = .disconnected → core.channel = none
  shown : core.machine.cell.value = core.machine.current

theorem machine_finish (core : ClientCore) :
    core.finish.machine = core.machine.through core.machine.current.farewell := by
  unfold finish
  cases state : core.machine.current <;>
    simp [state, Machine.advance_of_some, Machine.advance_of_none, ConnectionState.after?,
      ConnectionState.farewell, Machine.through]

theorem Tidy.finishes
    {core : ClientCore}
    (tidy : core.Tidy) :
    core.Finishes := by
  obtain ⟨off, empty⟩ := finish_eq tidy.apart
  refine ⟨core.machine_finish, core.machine.current.isPath_farewell, ?_, off, ?_, empty⟩
  · intro before
    rw [machine_finish, before]
    rfl
  · rw [machine_finish]
    cases state : core.machine.current with
    | disconnected => exact tidy.shown.trans state
    | connecting => rfl
    | connected => rfl
    | disconnecting => rfl
    | failed cause => rfl

/-! ## What every client keeps -/

theorem Tidy.of_same
    {core next : ClientCore}
    (tidy : core.Tidy)
    (machine : next.machine = core.machine)
    (channel : next.channel = core.channel) :
    next.Tidy := by
  refine ⟨?_, ?_⟩
  · rw [machine, channel]
    exact tidy.apart
  · rw [machine]
    exact tidy.shown

theorem shown_advance
    {machine : Machine}
    (shown : machine.cell.value = machine.current)
    (event : ConnectionEvent) :
    (machine.advance event).cell.value = (machine.advance event).current := by
  cases leads : machine.current.after? event with
  | none =>
      rw [Machine.advance_of_none leads]
      exact shown
  | some next =>
      rw [Machine.advance_of_some leads]
      rfl

theorem Tidy.job
    {core : ClientCore}
    (tidy : core.Tidy)
    (task : ClientJob) :
    (task.run false core).state.Tidy := by
  have moves := core.moves_run task
  obtain ⟨events, moved⟩ := moves.events
  refine ⟨moves.apart tidy.apart, ?_⟩
  rw [moved]
  exact List.foldlRecOn
    (motive := fun machine : Machine => machine.cell.value = machine.current)
    events _ tidy.shown fun _ shown event _ => shown_advance shown event

theorem tidy_start
    (names : String × String)
    (settings : ClientSettings)
    (transport : Transport)
    (handler : String → Reaction ClientAction) :
    (ClientSession.start names settings transport handler).core.Tidy where
  apart _ := rfl
  shown := rfl

open Course (Event) in
theorem Tidy.run
    {core final : ClientCore}
    {events : List Event}
    (tidy : core.Tidy)
    (ran : core.run? events = some final) :
    final.Tidy := by
  refine foldlM_keeps (fun before event after tidy stepped => ?_) tidy ran
  rcases step?_cases stepped with ⟨task, -, rfl⟩ | ⟨transport, -, -, rfl⟩
  · exact tidy.job task
  · exact tidy.of_same rfl rfl

end ClientCore

namespace ClientSession

variable
  {start callers next final served : Callers ClientSession Ticket}
  {turns : List (Turn Step)}
  {turn : Turn Step}

/-- A turn runs a job, or leaves machine and channel alone. -/
theorem core_of_step?
    (sound : closedown.Sound callers)
    (stepped : closedown.step? callers turn = some next) :
    (∃ task,
        turn = .serve ∧ callers.session.context.next? = some task ∧
          next.session.core = (task.run false callers.session.core).state) ∨
      ((turn = .serve → callers.session.context.next? = none) ∧
        next.session.core.machine = callers.session.core.machine ∧
        next.session.core.channel = callers.session.core.channel) := by
  cases sound.turned closedown_lawful stepped with
  | aside aside session made happened same =>
      have stirs := stirs_aside? happened
      refine .inr ⟨by rw [made]; exact nofun, ?_, ?_⟩
      · rw [same]
        exact stirs.machine
      · rw [same]
        exact stirs.channel
  | ran task rest made first state waited left =>
      exact .inl ⟨task, made, first, state.trans (ClientJob.state_run _ task _)⟩
  | still rest more apart idle state waited left phases =>
      have core : next.session.core = callers.session.core := state
      exact .inr ⟨idle, by rw [core], by rw [core]⟩

theorem tidy_run?
    (sound : closedown.Sound start)
    (tidy : start.session.core.Tidy)
    (ran : closedown.run? start turns = some final) :
    final.session.core.Tidy := by
  induction ran using foldlM_induction with
  | none => exact tidy
  | snoc turns turn between final before stepped ih =>
      rcases core_of_step? (sound.run closedown_lawful before) stepped with
        ⟨task, -, -, core⟩ | ⟨-, machine, channel⟩
      · rw [core]
        exact ih.job task
      · exact ih.of_same machine channel

/-! ## After the last job -/

/-- Behind the last job machine and channel stay as it left them. -/
theorem core_of_served
    (sound : closedown.Sound start)
    (ran : closedown.run? start turns = some final)
    (last : closedown.Served start turns .finish served) :
    final.session.core.machine = served.session.core.finish.machine ∧
      final.session.core.channel = served.session.core.finish.channel := by
  induction ran using foldlM_induction with
  | none =>
      obtain ⟨earlier, later, split, -⟩ := last
      simp at split
  | snoc turns turn between final before stepped ih =>
      have turned := core_of_step? (sound.run closedown_lawful before) stepped
      rcases (Closedown.served_snoc_iff before).mp last with earlier | ⟨serves, rfl, now⟩
      · have idle := (Closedown.sealed_of_served closedown_lawful sound before earlier).idle
        rcases turned with ⟨task, -, first, -⟩ | ⟨-, machine, channel⟩
        · cases idle.symm.trans first
        · obtain ⟨machineBefore, channelBefore⟩ := ih earlier
          exact ⟨machine.trans machineBefore, channel.trans channelBefore⟩
      · rcases turned with ⟨task, -, first, core⟩ | ⟨idle, -⟩
        · obtain rfl := Option.some.inj (first.symm.trans now)
          rw [core]
          exact ⟨rfl, rfl⟩
        · cases (idle serves).symm.trans now

theorem submit_of_stopped
    {session : ClientSession}
    (stopped : session.context.stopped = true)
    (task : ClientJob) :
    session.submit task = (.error .tornDown, session) := by
  rw [submit, Serial.submit_of_stopped stopped]

theorem connect_of_stopped
    {session : ClientSession}
    (stopped : session.context.stopped = true)
    (host : String)
    (port : UInt16)
    (lookup : Lookup) :
    session.connect host port lookup = (.error .tornDown, session) :=
  if_pos stopped

/-- The end of a client takes it to be disconnected on a path of the table, from every
state that it can be in, in whatever order reports come.  Whoever returns from shutting
a client down finds that it has ended.  From there on nothing changes its machine, with
all who watch it, or gives it a channel, and all calls are refused. -/
theorem ended_disconnected
    {names : String × String}
    {settings : ClientSettings}
    {transport : Transport}
    {handler : String → Reaction ClientAction}
    {turns : List (Turn Step)}
    {final : Callers ClientSession Ticket}
    (ran :
      closedown.run? { session := .start names settings transport handler } turns =
        some final) :
    (∀ events core,
        (ClientSession.start names settings transport handler).core.run? events =
            some core →
          core.Finishes) ∧
      final.session.core.Finishes ∧
      (∀ caller, final.phases caller = .returned →
        ∃ served,
          closedown.Served { session := .start names settings transport handler } turns
            .finish served) ∧
      ∀ served,
        closedown.Served { session := .start names settings transport handler } turns
            .finish served →
          final.session.core.machine = served.session.core.finish.machine ∧
            final.session.core.machine.current = .disconnected ∧
            final.session.core.channel = none ∧
            (∀ host port lookup,
              final.session.connect host port lookup = (.error .tornDown, final.session)) ∧
            (∀ message,
              final.session.submit (.send message) = (.error .tornDown, final.session)) ∧
            final.session.submit .disconnect = (.error .tornDown, final.session) := by
  have sound : closedown.Sound
      { session := .start names settings transport handler } :=
    Closedown.sound_start rfl rfl rfl
  have tidy := ClientCore.tidy_start names settings transport handler
  refine ⟨fun events core reached => (tidy.run reached).finishes,
    (tidy_run? sound tidy ran).finishes, ?_, ?_⟩
  · intro caller returned
    have holdsBack : closedown.HoldsBack
        { session := .start names settings transport handler } :=
      Closedown.holdsBack closedown_lawful rfl rfl rfl
    exact holdsBack.served_of_returned turns final caller ran returned
  · intro served last
    obtain ⟨machine, channel⟩ := core_of_served sound ran last
    have stopped := (Closedown.sealed_of_served closedown_lawful sound ran last).1
    obtain ⟨earlier, later, rfl, before, -⟩ := last
    have finishes := (tidy_run? sound tidy before).finishes
    refine ⟨machine, ?_, channel.trans finishes.empty, connect_of_stopped stopped,
      fun message => submit_of_stopped stopped _, submit_of_stopped stopped _⟩
    rw [machine]
    exact finishes.off

/-- The job is the last one. -/
def isLast : ClientJob → Bool
  | .finish => true
  | _ => false

theorem served_of_any
    (good : ClientCore → Bool)
    (earlier later : List (Turn Step))
    (reached :
      (closedown.run? start earlier).any fun callers =>
        callers.session.context.next?.any isLast && good callers.session.core) :
    ∃ served,
      closedown.Served start (earlier ++ .serve :: later) .finish served ∧
        good served.session.core = true := by
  obtain ⟨served, ran, reached⟩ := (Option.any_eq_true _ _).mp reached
  obtain ⟨first, good⟩ := (Bool.and_eq_true _ _).mp reached
  obtain ⟨task, first, last⟩ := (Option.any_eq_true _ _).mp first
  cases task with
  | finish => exact ⟨served, ⟨earlier, later, rfl, ran, first⟩, good⟩
  | _ => cases last

/-- A connection is asked for between the two jobs of a shutdown.  The transport reports
it as established and the user goes on calling, all after the client has ended. -/
theorem ended_disconnected_late :
    let client : Callers ClientSession Ticket :=
      { session := .start ("client", "crew") {} {} fun _ => {} }
    let turns : List (Turn Step) :=
      [.call 0, .serve, .aside (.act (.connect "0.0.0.0" 80 (.found []) none false)), .serve,
        .finish 0, .serve, .serve, .leave 0,
        .aside (.act (.report ⟨1⟩ (.established true))), .aside (.act (.send "late")), .serve]
    ∃ final served,
      closedown.run? client turns = some final ∧ final.phases 0 = .returned ∧
        closedown.Served client turns .finish served ∧
        served.session.core.machine.current = .connecting ∧
        final.session.core.machine =
          served.session.core.machine.through [.disconnecting, .disconnected] ∧
        final.session.core.channel = none ∧
        final.session.connect "0.0.0.0" 80 (.found []) = (.error .tornDown, final.session) := by
  intro client turns
  have ends : (closedown.run? client turns).any fun final =>
      final.phases 0 = .returned := by
    decide +kernel
  obtain ⟨final, ran, ended⟩ := (Option.any_eq_true _ _).mp ends
  obtain ⟨served, last, busy⟩ :
      ∃ served, closedown.Served client turns .finish served ∧
        decide (served.session.core.machine.current = .connecting) = true := by
    apply served_of_any
      (fun core => decide (core.machine.current = .connecting))
      [.call 0, .serve, .aside (.act (.connect "0.0.0.0" 80 (.found []) none false)), .serve,
        .finish 0]
      [.serve, .leave 0, .aside (.act (.report ⟨1⟩ (.established true))),
        .aside (.act (.send "late")), .serve]
    decide +kernel
  obtain ⟨-, -, -, rest⟩ := ended_disconnected ran
  obtain ⟨machine, -, empty, refuses, -⟩ := rest served last
  have connecting := of_decide_eq_true busy
  rw [served.session.core.machine_finish, connecting] at machine
  exact ⟨final, served, ran, of_decide_eq_true ended, last, connecting, machine, empty,
    refuses _ _ _⟩

end ClientSession

end LineProtocol
