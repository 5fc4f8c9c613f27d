import LineProtocol.Proofs.Client.Course
import LineProtocol.Proofs.Transport.Later

/-!
# What jobs do to the connection

`ClientCore.Moves` lists all that a job can do to a client's machine and to the
channel that it holds.  Whatever a job keeps is read off it, one case for each way
a job can go.  The transport is asked for a connection, a write or a close at most,
so nothing is taken back from it.
-/

namespace LineProtocol

namespace ClientCore

/-- A request to connect has a place in the client's state. -/
def AcceptsConnect (core : ClientCore) : Prop :=
  core.machine.current.after? .connectRequested = some .connecting

@[simp]
theorem machine_advance
    (core : ClientCore)
    (event : ConnectionEvent) :
    (core.advance event).machine = core.machine.advance event :=
  rfl

/-! ## Requests to connect -/

theorem acceptsConnect_iff
    (core : ClientCore) :
    core.AcceptsConnect ↔
      core.machine.current = .disconnected ∨
        ∃ cause, core.machine.current = .failed cause := by
  rw [AcceptsConnect]
  cases core.machine.current <;> simp [ConnectionState.after?]

theorem connect_of_not_accepts
    {core : ClientCore}
    (refused : ¬ core.AcceptsConnect)
    (target : Except Fault SocketAddress) :
    (core.connect target).1.machine = core.machine ∧
      (core.connect target).1.channel = core.channel ∧
      (core.connect target).1.transport = core.transport := by
  have leads : core.machine.current.after? .connectRequested = none := by
    rw [acceptsConnect_iff] at refused
    cases state : core.machine.current <;> simp_all [ConnectionState.after?]
  rw [connect, Machine.apply_of_none leads]
  exact ⟨rfl, rfl, rfl⟩

theorem advance_connect
    {core : ClientCore}
    (accepted : core.AcceptsConnect) :
    core.machine.advance .connectRequested =
      { current := .connecting, cell := core.machine.cell.publish .connecting } := by
  rw [Machine.advance, Machine.apply_of_some accepted]

/-- A target that is not known puts the client in error, and no more. -/
theorem connect_of_error
    {core : ClientCore}
    (accepted : core.AcceptsConnect)
    (cause : Fault) :
    (core.connect (.error cause)).1.machine =
        (core.machine.advance .connectRequested).advance (.connectFailed cause) ∧
      (core.connect (.error cause)).1.channel = core.channel ∧
      (core.connect (.error cause)).1.transport = core.transport := by
  rw [connect, Machine.apply_of_some accepted, advance_connect accepted]
  exact ⟨rfl, rfl, rfl⟩

theorem current_connect_of_error
    {core : ClientCore}
    (accepted : core.AcceptsConnect)
    (cause : Fault) :
    (core.connect (.error cause)).1.machine.current = .failed cause := by
  rw [(connect_of_error accepted cause).1]
  simp [advance_connect accepted, ConnectionState.after?]

/-- What becomes of a client that is asked to connect to a target that is known. -/
theorem connect_eq_of_ok
    {core : ClientCore}
    (accepted : core.AcceptsConnect)
    (address : SocketAddress) :
    let asked := core.transport.connect address
    core.connect (.ok address) =
      ({ core.advance .connectRequested with channel := some asked.1, transport := asked.2.2 },
        asked.2.1.toList.map fun reason => .connectFailed asked.1 (.connect address reason)) := by
  rw [connect, Machine.apply_of_some accepted, advance, advance_connect accepted]

/-- A target that is known takes the place of the channel that was held. -/
theorem connect_of_ok
    {core : ClientCore}
    (accepted : core.AcceptsConnect)
    (address : SocketAddress) :
    (core.connect (.ok address)).1.machine = core.machine.advance .connectRequested ∧
      (core.connect (.ok address)).1.channel = some ⟨core.transport.nextId⟩ ∧
      (core.connect (.ok address)).1.transport.nextId = core.transport.nextId + 1 := by
  rw [connect, Machine.apply_of_some accepted, advance_connect accepted]
  refine ⟨rfl, ?_, core.transport.nextId_connect address⟩
  exact congrArg some (core.transport.connect_id address)

theorem current_connect_of_ok
    {core : ClientCore}
    (accepted : core.AcceptsConnect)
    (address : SocketAddress) :
    (core.connect (.ok address)).1.machine.current = .connecting := by
  rw [(connect_of_ok accepted address).1, advance_connect accepted]

/-! ## All jobs -/

/-- What a job can make of machine and channel. -/
inductive Moves (core : ClientCore) :
    ClientJob → Machine → Option ChannelId → Prop where
  | ignored
    {target : Except Fault SocketAddress}
    (refused : ¬ core.AcceptsConnect) :
    Moves core (.connect target) core.machine core.channel
  | unknown
    {cause : Fault}
    (accepted : core.AcceptsConnect) :
    Moves core (.connect (.error cause))
      ((core.machine.advance .connectRequested).advance (.connectFailed cause))
      core.channel
  | known
    {address : SocketAddress}
    (accepted : core.AcceptsConnect) :
    Moves core (.connect (.ok address)) (core.machine.advance .connectRequested)
      (some ⟨core.transport.nextId⟩)
  | send
    {message : String} :
    Moves core (.send message) core.machine core.channel
  /-- There is nothing to give up, or it was given up before. -/
  | still
    (idle :
      core.machine.current = .disconnected ∨ core.machine.current = .disconnecting) :
    Moves core .disconnect core.machine core.channel
  | disconnect
    {id : ChannelId}
    (held : core.channel = some id) :
    Moves core .disconnect (core.machine.advance .disconnectRequested) core.channel
  | alone
    (nothing : core.channel = none) :
    Moves core .disconnect ((core.machine.advance .disconnectRequested).advance .closed)
      core.channel
  /-- The report is about another channel. -/
  | stale
    {task : ClientJob}
    {id : ChannelId}
    (about : task.about? = some id)
    (other : core.channel ≠ some id) :
    Moves core task core.machine core.channel
  | established
    {id : ChannelId}
    (held : core.channel = some id) :
    Moves core (.established id) (core.machine.advance .established) core.channel
  | connectFailed
    {id : ChannelId}
    {cause : Fault}
    (held : core.channel = some id) :
    Moves core (.connectFailed id cause)
      (core.machine.advance
        (if core.machine.current = .disconnecting then .closed else .connectFailed cause))
      none
  | broke
    {id : ChannelId}
    {cause : Fault}
    (held : core.channel = some id) :
    Moves core (.broke id cause) (core.machine.advance (.broke cause)) core.channel
  | closed
    {id : ChannelId}
    (held : core.channel = some id) :
    Moves core (.closed id) (core.machine.advance .closed) none
  | finishOff
    (off : core.machine.current = .disconnected) :
    Moves core .finish core.machine core.channel
  | finish
    (busy : core.machine.current ≠ .disconnected) :
    Moves core .finish ((core.machine.advance .disconnectRequested).advance .closed) none

theorem moves_connect
    (core : ClientCore)
    (target : Except Fault SocketAddress) :
    core.Moves (.connect target) (core.connect target).1.machine
      (core.connect target).1.channel := by
  by_cases accepted : core.AcceptsConnect
  · cases target with
    | error cause =>
        obtain ⟨machine, channel, -⟩ := connect_of_error accepted cause
        rw [machine, channel]
        exact .unknown accepted
    | ok address =>
        obtain ⟨machine, channel, -⟩ := connect_of_ok accepted address
        rw [machine, channel]
        exact .known accepted
  · obtain ⟨machine, channel, -⟩ := connect_of_not_accepts accepted target
    rw [machine, channel]
    exact .ignored accepted

theorem moves_disconnect (core : ClientCore) :
    core.Moves .disconnect core.disconnect.2.machine core.disconnect.2.channel := by
  rw [ClientCore.disconnect]
  split
  · rename_i off
    exact .still (.inl off)
  · rename_i giving
    exact .still (.inr giving)
  · cases held : core.channel with
    | none => simpa [held] using Moves.alone held
    | some id => simpa [held] using Moves.disconnect held

/-- A report on the channel that is held. -/
theorem moves_report
    {core : ClientCore}
    {task : ClientJob}
    {id : ChannelId}
    (about : task.about? = some id)
    (held : core.channel = some id) :
    core.Moves task (task.run false core).state.machine
      (task.run false core).state.channel := by
  have current : core.isCurrent id = true := (core.isCurrent_iff id).mpr held
  cases task with
  | established other =>
      obtain rfl : other = id := Option.some.inj about
      simp only [ClientJob.run, ClientCore.established, current, if_true]
      exact .established held
  | connectFailed other cause =>
      obtain rfl : other = id := Option.some.inj about
      have gone : (core.connectFailed other cause).machine =
            core.machine.advance
              (if core.machine.current = .disconnecting then .closed
                else .connectFailed cause) ∧
          (core.connectFailed other cause).channel = none := by
        by_cases giving : core.machine.current = .disconnecting
        · simp [ClientCore.connectFailed, current, note, giving]
        · simp [ClientCore.connectFailed, current, note, giving]
      obtain ⟨machine, channel⟩ := gone
      show core.Moves _ (core.connectFailed other cause).machine
        (core.connectFailed other cause).channel
      rw [machine, channel]
      exact .connectFailed held
  | broke other cause =>
      obtain rfl : other = id := Option.some.inj about
      simp only [ClientJob.run, ClientCore.broke, current, if_true]
      exact .broke held
  | closed other =>
      obtain rfl : other = id := Option.some.inj about
      simp only [ClientJob.run, ClientCore.closed, current, if_true]
      exact .closed held
  | connect target => simp [ClientJob.about?] at about
  | send message => simp [ClientJob.about?] at about
  | disconnect => simp [ClientJob.about?] at about
  | finish => simp [ClientJob.about?] at about

theorem moves_finish (core : ClientCore) :
    core.Moves .finish core.finish.machine core.finish.channel := by
  by_cases off : core.machine.current = .disconnected
  · simp only [ClientCore.finish, off, if_true]
    exact .finishOff off
  · simp only [ClientCore.finish, off, if_false]
    exact .finish off

/-- These are all the ways that jobs can go. -/
theorem moves_run
    (core : ClientCore)
    (task : ClientJob) :
    core.Moves task (task.run false core).state.machine
      (task.run false core).state.channel := by
  cases about : task.about? with
  | some id =>
      by_cases held : core.channel = some id
      · exact moves_report about held
      · rw [run_of_ne about held]
        exact .stale about held
  | none =>
      cases task with
      | connect target => exact core.moves_connect target
      | send message =>
          obtain ⟨machine, channel, -⟩ := core.send_eq message
          show core.Moves _ (core.send message).machine (core.send message).channel
          rw [machine, channel]
          exact .send
      | disconnect => exact core.moves_disconnect
      | finish => exact core.moves_finish
      | established id => simp [ClientJob.about?] at about
      | connectFailed id cause => simp [ClientJob.about?] at about
      | broke id cause => simp [ClientJob.about?] at about
      | closed id => simp [ClientJob.about?] at about

/-! ## What all ways have in common -/

section

variable
  {core : ClientCore}
  {task : ClientJob}
  {machine : Machine}
  {channel : Option ChannelId}

/-- Every job moves the machine by events. -/
theorem Moves.events (moves : core.Moves task machine channel) :
    ∃ events : List ConnectionEvent,
      machine = events.foldl Machine.advance core.machine := by
  cases moves with
  | ignored refused => exact ⟨[], rfl⟩
  | @unknown cause accepted => exact ⟨[.connectRequested, .connectFailed cause], rfl⟩
  | known accepted => exact ⟨[.connectRequested], rfl⟩
  | send => exact ⟨[], rfl⟩
  | still idle => exact ⟨[], rfl⟩
  | disconnect held => exact ⟨[.disconnectRequested], rfl⟩
  | alone nothing => exact ⟨[.disconnectRequested, .closed], rfl⟩
  | stale about other => exact ⟨[], rfl⟩
  | established held => exact ⟨[.established], rfl⟩
  | connectFailed held => exact ⟨[_], rfl⟩
  | @broke id cause held => exact ⟨[.broke cause], rfl⟩
  | closed held => exact ⟨[.closed], rfl⟩
  | finishOff off => exact ⟨[], rfl⟩
  | finish busy => exact ⟨[.disconnectRequested, .closed], rfl⟩

/-- A disconnected client holds no channel, however reports come. -/
theorem Moves.apart
    (moves : core.Moves task machine channel)
    (apart : core.machine.current = .disconnected → core.channel = none) :
    machine.current = .disconnected → channel = none := by
  cases moves with
  | ignored refused => exact apart
  | unknown accepted => simp [advance_connect accepted, ConnectionState.after?]
  | known accepted => simp [advance_connect accepted]
  | send => exact apart
  | still idle => exact apart
  | disconnect held =>
      cases state : core.machine.current <;> simp_all [ConnectionState.after?]
  | alone nothing => exact fun _ => nothing
  | stale about other => exact apart
  | established held =>
      cases state : core.machine.current <;> simp_all [ConnectionState.after?]
  | connectFailed held => exact fun _ => rfl
  | broke held =>
      cases state : core.machine.current <;> simp [state, ConnectionState.after?]
  | closed held => exact fun _ => rfl
  | finishOff off => exact apart
  | finish busy => exact fun _ => rfl

/-- A channel that is held after a job was held before, or the job asked for it. -/
theorem Moves.held
    {id : ChannelId}
    (moves : core.Moves task machine channel)
    (held : channel = some id) :
    core.channel = some id ∨
      ∃ address, task = .connect (.ok address) ∧ core.AcceptsConnect ∧
        id = ⟨core.transport.nextId⟩ := by
  cases moves with
  | @known address accepted =>
      exact .inr ⟨address, rfl, accepted, (Option.some.inj held).symm⟩
  | connectFailed before => exact nomatch held
  | closed before => exact nomatch held
  | finish busy => exact nomatch held
  | _ => exact .inl held

/-- A client comes to be disconnecting where it is asked to disconnect. -/
theorem Moves.disconnecting
    (moves : core.Moves task machine channel)
    (after : machine.current = .disconnecting) :
    core.machine.current = .disconnecting ∨ task = .disconnect := by
  cases moves with
  | ignored refused => exact .inl after
  | unknown accepted => simp [advance_connect accepted, ConnectionState.after?] at after
  | known accepted => simp [advance_connect accepted] at after
  | send => exact .inl after
  | still idle => exact .inr rfl
  | disconnect held => exact .inr rfl
  | alone nothing => exact .inr rfl
  | stale about other => exact .inl after
  | established held =>
      cases state : core.machine.current <;> simp_all [ConnectionState.after?]
  | connectFailed held =>
      cases state : core.machine.current <;> simp_all [ConnectionState.after?]
  | broke held =>
      cases state : core.machine.current <;> simp_all [ConnectionState.after?]
  | closed held =>
      cases state : core.machine.current <;> simp_all [ConnectionState.after?]
  | finishOff off => exact .inl after
  | finish busy =>
      cases state : core.machine.current <;> simp_all [ConnectionState.after?]

end

/-! ## What jobs ask the transport for -/

/-- A connection is asked for where a request was accepted and its target is
known, and nowhere else. -/
theorem transport_connect
    (core : ClientCore)
    (target : Except Fault SocketAddress) :
    (core.connect target).1.transport = core.transport ∨
      ∃ address, target = .ok address ∧
        (core.machine.current.after? .connectRequested).isSome = true ∧
        (core.connect target).1.transport = (core.transport.connect address).2.2 := by
  cases leads : core.machine.current.after? .connectRequested with
  | none =>
      rw [connect, Machine.apply_of_none leads]
      exact .inl rfl
  | some next =>
      rw [connect, Machine.apply_of_some leads]
      cases target with
      | error cause => exact .inl rfl
      | ok address => exact .inr ⟨address, rfl, rfl, rfl⟩

theorem transport_send
    (core : ClientCore)
    (message : String) :
    (core.send message).transport = core.transport ∨
      ∃ id bytes, (core.send message).transport = (core.transport.write id bytes).2 := by
  simp only [send]
  split
  · split
    · exact .inr ⟨_, _, rfl⟩
    · exact .inr ⟨_, _, rfl⟩
  · exact .inl rfl

/-- What is waited for is the close of the channel that is held. -/
theorem disconnect_cases (core : ClientCore) :
    (core.disconnect.1 = none ∧ core.disconnect.2.transport = core.transport) ∨
      ∃ id, core.channel = some id ∧
        core.disconnect.1 = some (core.transport.close id).1 ∧
        core.disconnect.2.transport = (core.transport.close id).2 := by
  simp only [disconnect]
  split
  · exact .inl ⟨rfl, rfl⟩
  · exact .inl ⟨rfl, rfl⟩
  · cases here : core.channel with
    | none => exact .inl ⟨by simp [here], by simp [here]; rfl⟩
    | some id => exact .inr ⟨id, rfl, by simp [here]; rfl, by simp [here]; rfl⟩

theorem transport_finish (core : ClientCore) :
    core.finish.transport = core.transport ∨
      core.finish.transport = core.transport.stop := by
  simp only [finish]
  split
  · split
    · exact .inr rfl
    · exact .inl rfl
  · split
    · exact .inr rfl
    · exact .inl rfl

end ClientCore

namespace ClientJob

/-- A job does the same whether jobs are still taken or not. -/
theorem state_run
    (stopped : Bool)
    (task : ClientJob)
    (core : ClientCore) :
    (task.run stopped core).state = (task.run false core).state := by
  cases task <;> rfl

theorem later_run
    (stopped : Bool)
    (task : ClientJob)
    (core : ClientCore) :
    Transport.Later core.transport (task.run stopped core).state.transport := by
  rw [state_run]
  cases about : task.about? with
  | some id =>
      rw [Course.transport_report about core]
      exact .refl _
  | none =>
      cases task with
      | connect target =>
          show Transport.Later core.transport (core.connect target).1.transport
          rcases core.transport_connect target with same | ⟨address, -, -, asked⟩
          · rw [same]
            exact .refl _
          · rw [asked]
            exact Transport.later_connect _ address
      | send message =>
          show Transport.Later core.transport (core.send message).transport
          rcases core.transport_send message with same | ⟨id, bytes, asked⟩
          · rw [same]
            exact .refl _
          · rw [asked]
            exact Transport.later_write _ id bytes
      | disconnect =>
          show Transport.Later core.transport core.disconnect.2.transport
          rcases core.disconnect_cases with ⟨-, same⟩ | ⟨id, -, -, asked⟩
          · rw [same]
            exact .refl _
          · rw [asked]
            exact Transport.later_close _ id
      | finish =>
          show Transport.Later core.transport core.finish.transport
          rcases core.transport_finish with same | stopped
          · rw [same]
            exact .refl _
          · rw [stopped]
            exact Transport.later_stop _
      | established id => simp [ClientJob.about?] at about
      | connectFailed id cause => simp [ClientJob.about?] at about
      | broke id cause => simp [ClientJob.about?] at about
      | closed id => simp [ClientJob.about?] at about

/-- Only a request to connect leads to a job, where the connection that it started
failed at once. -/
theorem submitted_run
    {stopped : Bool}
    {task next : ClientJob}
    {core : ClientCore}
    (submitted : next ∈ (task.run stopped core).submitted) :
    stopped = false ∧
      ∃ address cause,
        task = .connect (.ok address) ∧
          next = .connectFailed ⟨core.transport.nextId⟩ cause ∧
          (task.run stopped core).state.transport.isClosed ⟨core.transport.nextId⟩ = true := by
  cases task with
  | connect target =>
      cases stopped with
      | true => simp [run] at submitted
      | false =>
          change next ∈ (core.connect target).2 at submitted
          refine ⟨rfl, ?_⟩
          show ∃ address cause,
            ClientJob.connect target = .connect (.ok address) ∧
              next = .connectFailed ⟨core.transport.nextId⟩ cause ∧
              (core.connect target).1.transport.isClosed ⟨core.transport.nextId⟩ = true
          cases leads : core.machine.current.after? .connectRequested with
          | none =>
              rw [ClientCore.connect, Machine.apply_of_none leads] at submitted
              simp at submitted
          | some state =>
              rw [ClientCore.connect, Machine.apply_of_some leads] at submitted ⊢
              cases target with
              | error cause => simp at submitted
              | ok address =>
                  simp only [List.mem_map, Option.mem_toList] at submitted
                  obtain ⟨reason, failed, rfl⟩ := submitted
                  refine ⟨address, .connect address reason, rfl, ?_,
                    Transport.isClosed_connect failed⟩
                  rw [Transport.connect_id]
  | _ => simp [run] at submitted

end ClientJob

end LineProtocol
