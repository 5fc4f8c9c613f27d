import LineProtocol.Proofs.Client.Stale
import LineProtocol.Proofs.Client.Stranded

/-!
# Giving a connection up

A client that is asked to disconnect either is disconnected afterwards or holds the
channel of the connection that it gave up and waits for the last report on it.
Asking again finds it in one of these two states, and changes nothing.

`Leaving` is the second state.  Only the last report on the channel, and the end of
the client, lead out of it, and both lead to a client that is disconnected.  That the
connection is established comes too late, and that it failed is as good as that it
was closed.
-/

namespace LineProtocol

/-- Goes through states one after the other and publishes each. -/
def Machine.through (machine : Machine) (states : List ConnectionState) : Machine :=
  states.foldl
    (fun machine state => { current := state, cell := machine.cell.publish state }) machine

theorem Machine.advance_of_some
    {machine : Machine}
    {event : ConnectionEvent}
    {next : ConnectionState}
    (leads : machine.current.after? event = some next) :
    machine.advance event = machine.through [next] := by
  rw [advance, apply_of_some leads]
  rfl

theorem Machine.advance_of_none
    {machine : Machine}
    {event : ConnectionEvent}
    (refused : machine.current.after? event = none) :
    machine.advance event = machine := by
  rw [advance, apply_of_none refused]

namespace ClientCore

open Course (Event)

/-- The states that a client goes through when it is asked to disconnect. -/
def parting (core : ClientCore) : List ConnectionState :=
  match core.machine.current, core.channel with
  | .disconnected, _ => []
  | .disconnecting, _ => []
  | _, some _ => [.disconnecting]
  | _, none => [.disconnecting, .disconnected]

/-- The client gave its connection up and waits for the last report on it. -/
structure Leaving (core : ClientCore) (id : ChannelId) : Prop where
  giving : core.machine.current = .disconnecting
  held : core.channel = some id

/-- Until one of the events nothing changes.  That event is the last report on the
channel or the end of the client, and the client is disconnected there: it publishes
this and nothing else, and lets go of the channel. -/
def ComesOff (core : ClientCore) (id : ChannelId) (events : List Event) : Prop :=
  ∃ earlier task later between,
    events = earlier ++ .job task :: later ∧
      core.run? earlier = some between ∧ core.Unmoved between ∧
      (task.ends id = true ∨ task = .finish) ∧
      (task.run false between).state.machine = core.machine.through [.disconnected] ∧
      (task.run false between).state.channel = none

/-! ## Asking once -/

/-- What a client goes through when it is asked to disconnect. -/
theorem disconnect_eq (core : ClientCore) :
    core.disconnect.2.machine = core.machine.through core.parting ∧
      core.disconnect.2.channel = core.channel := by
  unfold disconnect parting
  cases state : core.machine.current <;> cases held : core.channel <;>
    simp [state, held, Machine.advance_of_some, ConnectionState.after?, Machine.through]

/-- The channel that is held is asked to be closed, once at most. -/
theorem calls_disconnect (core : ClientCore) :
    core.disconnect.2.transport.calls = core.transport.calls ∨
      ∃ id,
        core.channel = some id ∧
          core.disconnect.2.transport.calls = core.transport.calls ++ [.close id] := by
  rcases core.disconnect_cases with ⟨-, same⟩ | ⟨id, held, -, asked⟩
  · exact .inl (congrArg Transport.calls same)
  · rw [asked, Transport.close]
    split
    · exact .inl rfl
    · exact .inr ⟨id, held, ((core.transport.alter id (·.beginClose)).requestClose_eq id).1⟩

/-! ## Asking again -/

/-- A client that is disconnected or disconnecting has nothing to give up. -/
theorem disconnect_of_idle
    {core : ClientCore}
    (idle :
      core.machine.current = .disconnected ∨ core.machine.current = .disconnecting) :
    core.disconnect.2 = core := by
  unfold disconnect
  rcases idle with off | giving
  · rw [off]
  · rw [giving]

/-- Whatever it did before, a client that was asked to disconnect has nothing left to
give up. -/
theorem idle_disconnect (core : ClientCore) :
    core.disconnect.2.machine.current = .disconnected ∨
      core.disconnect.2.machine.current = .disconnecting := by
  rw [core.disconnect_eq.1, parting]
  cases state : core.machine.current <;> cases held : core.channel <;>
    simp [state, Machine.through]

/-- Asking any number of times comes to the same as asking once. -/
theorem run_replicate_disconnect
    (core : ClientCore)
    (count : Nat) :
    core.run? (List.replicate (count + 1) (.job .disconnect)) =
      some core.disconnect.2 := by
  induction count with
  | zero => rfl
  | succ count ih =>
      rw [List.replicate_succ']
      refine foldlM_snoc_iff.mpr ⟨_, ih, ?_⟩
      exact congrArg some (disconnect_of_idle core.idle_disconnect)

/-! ## What is held -/

/-- A client that is disconnecting holds the channel on which it waits. -/
def Clinging (core : ClientCore) : Prop :=
  core.machine.current = .disconnecting → ∃ id, core.channel = some id

theorem clinging_start
    (names : String × String)
    (settings : ClientSettings)
    (transport : Transport)
    (handler : String → Reaction ClientAction) :
    (ClientSession.start names settings transport handler).core.Clinging := by
  intro giving
  cases (show ConnectionState.disconnected = .disconnecting from giving)

theorem Moves.clinging
    {core : ClientCore}
    {task : ClientJob}
    {machine : Machine}
    {channel : Option ChannelId}
    (moves : core.Moves task machine channel)
    (clinging : core.Clinging)
    (giving : machine.current = .disconnecting) :
    ∃ id, channel = some id := by
  cases moves with
  | ignored refused => exact clinging giving
  | unknown accepted => simp [advance_connect accepted, ConnectionState.after?] at giving
  | known accepted => exact ⟨_, rfl⟩
  | send => exact clinging giving
  | still idle => exact clinging giving
  | disconnect held => exact ⟨_, held⟩
  | alone nothing =>
      cases state : core.machine.current <;> simp_all [ConnectionState.after?]
  | stale about other => exact clinging giving
  | established held => exact ⟨_, held⟩
  | connectFailed held =>
      cases state : core.machine.current <;> simp_all [ConnectionState.after?]
  | broke held => exact ⟨_, held⟩
  | closed held =>
      cases state : core.machine.current <;> simp_all [ConnectionState.after?]
  | finishOff off => exact clinging giving
  | finish busy =>
      cases state : core.machine.current <;> simp_all [ConnectionState.after?]

theorem Clinging.run
    {core final : ClientCore}
    {events : List Event}
    (clinging : core.Clinging)
    (ran : core.run? events = some final) :
    final.Clinging := by
  refine foldlM_keeps (fun before event after clinging stepped => ?_) clinging ran
  rcases step?_cases stepped with ⟨task, -, rfl⟩ | ⟨transport, -, -, rfl⟩
  · exact (before.moves_run task).clinging clinging
  · exact clinging

/-! ## Waiting for the last report -/

/-- One job of a client that is leaving.  The last report and the end take it to be
disconnected; any other job changes nothing, unless it is that the connection broke. -/
theorem Leaving.job
    {core : ClientCore}
    {id : ChannelId}
    (leaving : core.Leaving id)
    {task : ClientJob}
    (spared : ∀ cause, task ≠ .broke id cause) :
    ((task.ends id = true ∨ task = .finish) ∧
        (task.run false core).state.machine = core.machine.through [.disconnected] ∧
        (task.run false core).state.channel = none) ∨
      (task.ends id = false ∧ core.Unmoved (task.run false core).state) := by
  obtain ⟨giving, held⟩ := leaving
  have refused {event : ConnectionEvent}
      (nowhere : ConnectionState.disconnecting.after? event = none) :
      core.machine.advance event = core.machine :=
    Machine.advance_of_none (by rw [giving, nowhere])
  have off : core.machine.advance .closed = core.machine.through [.disconnected] :=
    Machine.advance_of_some (by rw [giving]; rfl)
  have moves := core.moves_run task
  unfold Unmoved
  generalize (task.run false core).state.machine = machine at moves ⊢
  generalize (task.run false core).state.channel = channel at moves ⊢
  cases moves with
  | ignored _ => exact .inr ⟨rfl, rfl, rfl⟩
  | unknown accepted => simp [AcceptsConnect, giving, ConnectionState.after?] at accepted
  | known accepted => simp [AcceptsConnect, giving, ConnectionState.after?] at accepted
  | send => exact .inr ⟨rfl, rfl, rfl⟩
  | still _ => exact .inr ⟨rfl, rfl, rfl⟩
  | disconnect _ => exact .inr ⟨rfl, refused rfl, rfl⟩
  | alone nothing => cases nothing.symm.trans held
  | @stale _ other about apart =>
      refine .inr ⟨?_, rfl, rfl⟩
      have distinct : other ≠ id := by
        rintro rfl
        exact apart held
      cases task <;> simp_all [ClientJob.about?, ClientJob.ends]
  | established _ => exact .inr ⟨rfl, refused rfl, rfl⟩
  | connectFailed same =>
      obtain rfl := Option.some.inj (same.symm.trans held)
      rw [if_pos giving]
      exact .inl ⟨.inl (by simp [ClientJob.ends]), off, rfl⟩
  | @broke _ cause same =>
      obtain rfl := Option.some.inj (same.symm.trans held)
      exact (spared cause rfl).elim
  | closed same =>
      obtain rfl := Option.some.inj (same.symm.trans held)
      exact .inl ⟨.inl (by simp [ClientJob.ends]), off, rfl⟩
  | finishOff quiet => cases quiet.symm.trans giving
  | finish _ =>
      rw [refused rfl]
      exact .inl ⟨.inr rfl, off, rfl⟩

theorem Leaving.of_unmoved
    {core between : ClientCore}
    {id : ChannelId}
    (leaving : core.Leaving id)
    (unmoved : core.Unmoved between) :
    between.Leaving id :=
  ⟨by rw [unmoved.1, leaving.giving], unmoved.2.trans leaving.held⟩

/-- Whatever happens to a client that is leaving, it is where it was as long as the
last report on its channel was not made, and goes to be disconnected from there. -/
theorem Leaving.run
    {core final : ClientCore}
    {id : ChannelId}
    {events : List Event}
    (leaving : core.Leaving id)
    (spared : ∀ cause, .job (.broke id cause) ∉ events)
    (ran : core.run? events = some final) :
    (core.Unmoved final ∧ ∀ task, .job task ∈ events → task.ends id = false) ∨
      core.ComesOff id events := by
  induction ran using foldlM_induction with
  | none => exact .inl ⟨⟨rfl, rfl⟩, by simp⟩
  | snoc events event between final before stepped ih =>
      simp only [List.mem_append, List.mem_singleton, not_or, forall_and] at spared
      rcases ih spared.1 with ⟨unmoved, waits⟩ |
          ⟨earlier, task, later, there, rfl, reached, rest⟩
      · rcases step?_cases stepped with ⟨task, rfl, rfl⟩ | ⟨transport, rfl, -, rfl⟩
        · have heard : ∀ cause, task ≠ .broke id cause := by
            rintro cause rfl
            exact spared.2 cause rfl
          rcases (leaving.of_unmoved unmoved).job heard with
            ⟨last, machine, channel⟩ | ⟨other, machine, channel⟩
          · rw [unmoved.1] at machine
            exact .inr ⟨events, task, [], between, rfl, before, unmoved, last, machine,
              channel⟩
          · refine .inl ⟨⟨machine.trans unmoved.1, channel.trans unmoved.2⟩, ?_⟩
            intro made listed
            rcases List.mem_append.mp listed with earlier | last
            · exact waits made earlier
            · obtain rfl := Event.job.inj (List.mem_singleton.mp last)
              exact other
        · refine .inl ⟨unmoved, ?_⟩
          intro made listed
          exact waits made (by simpa using listed)
      · exact .inr ⟨earlier, task, later ++ [event], there, by simp, reached, rest⟩

end ClientCore

/-! ## Reports in order -/

namespace Course

/-- A client does the same whether it is known that reports come in order or not. -/
theorem core_run?
    {start final : Course}
    {events : List Event}
    (ran : start.run? events = some final) :
    start.core.run? events = some final.core := by
  induction ran using foldlM_induction with
  | none => rfl
  | snoc events event between final before stepped ih =>
      refine foldlM_snoc_iff.mpr ⟨between.core, ih, ?_⟩
      rcases step?_cases stepped with
        ⟨task, lives, rfl, -, rfl⟩ | ⟨transport, rfl, later, rfl⟩
      · rfl
      · exact if_pos later

end Course

namespace ClientCore

open Course (Event)

/-- Asking a client to disconnect any number of times comes to the same as asking it
once, in whatever state it is: its machine and all who watch it, its channel and what
it asked its transport for, which is at most to close the channel that it holds.
Afterwards it is disconnected, or it holds a channel on which the last report is still
to come.  Then it stays as it is until that report is made, or the client ends, and is
disconnected there: it publishes nothing but this, unless its connection breaks. -/
theorem disconnect_idempotent
    {names : String × String}
    {settings : ClientSettings}
    {transport : Transport}
    {handler : String → Reaction ClientAction}
    {earlier : List Event}
    {core : ClientCore}
    (ran :
      (ClientSession.start names settings transport handler).core.run? earlier =
        some core) :
    (∀ count,
        core.run? (List.replicate (count + 1) (.job .disconnect)) =
          some core.disconnect.2) ∧
      core.disconnect.2.machine = core.machine.through core.parting ∧
      core.disconnect.2.channel = core.channel ∧
      (core.disconnect.2.transport.calls = core.transport.calls ∨
        ∃ id,
          core.channel = some id ∧
            core.disconnect.2.transport.calls = core.transport.calls ++ [.close id]) ∧
      ((core.disconnect.2.machine.current = .disconnected ∧
          core.disconnect.2.channel = none) ∨
        ∃ id,
          core.disconnect.2.Leaving id ∧
            (∀ course,
              (Course.start names settings transport handler).run? earlier = some course →
                ∀ task, .job task ∈ earlier → task.ends id = false) ∧
            ∀ later final,
              (∀ cause, .job (.broke id cause) ∉ later) →
                core.disconnect.2.run? later = some final →
                  (core.disconnect.2.Unmoved final ∧
                      ∀ task, .job task ∈ later → task.ends id = false) ∨
                    core.disconnect.2.ComesOff id later) := by
  obtain ⟨machine, channel⟩ := core.disconnect_eq
  refine ⟨core.run_replicate_disconnect, machine, channel, core.calls_disconnect, ?_⟩
  have composed := (composed_start names settings transport handler).run ran
  have clinging : core.Clinging := (clinging_start names settings transport handler).run ran
  rcases core.idle_disconnect with off | giving
  · exact .inl ⟨off, core.moves_disconnect.apart composed.apart off⟩
  · obtain ⟨id, held⟩ := core.moves_disconnect.clinging clinging giving
    have leaving : core.disconnect.2.Leaving id := ⟨giving, held⟩
    refine .inr ⟨id, leaving, ?_, fun later final spared goes => leaving.run spared goes⟩
    intro course ordered
    have same : some course.core = some core := (Course.core_run? ordered).symm.trans ran
    rw [channel, ← Option.some.inj same] at held
    exact (Course.sound_start names settings transport handler).pending ordered held

/-- A client gives up a connection that is still being made, three times over.  That
the connection is established after all does not matter to it, and it is disconnected
when the connection failed. -/
theorem disconnect_idempotent_connecting :
    let target : Except Fault SocketAddress := .ok { ip := .v4 .unspecified, port := 80 }
    let client : ClientCore :=
      (ClientSession.start ("client", "crew") {} {} fun _ => {}).core
    let later : List Event :=
      [.job (.established ⟨1⟩), .job (.connectFailed ⟨1⟩ (.transport "refused"))]
    ∃ core,
      client.run? [.job (.connect target)] = some core ∧
        core.run? [.job .disconnect, .job .disconnect, .job .disconnect] =
          some core.disconnect.2 ∧
        core.disconnect.2.machine = core.machine.through [.disconnecting] ∧
        core.disconnect.2.ComesOff ⟨1⟩ later := by
  intro target client later
  obtain ⟨core, ran⟩ :=
    Option.isSome_iff_exists.mp
      (by decide +kernel : (client.run? [.job (.connect target)]).isSome = true)
  have shown :
      (client.run? [.job (.connect target)]).map
          (fun core => (core.machine.current, core.channel)) =
        some (.connecting, some ⟨1⟩) := by
    decide +kernel
  rw [ran] at shown
  simp only [Option.map_some, Option.some.injEq, Prod.mk.injEq] at shown
  obtain ⟨again, machine, channel, -, rest⟩ := disconnect_idempotent ran
  have parting : core.parting = [.disconnecting] := by
    rw [ClientCore.parting, shown.1, shown.2]
  rw [parting] at machine
  refine ⟨core, ran, again 2, machine, ?_⟩
  rcases rest with ⟨-, nothing⟩ | ⟨id, leaving, -, goes⟩
  · rw [channel, shown.2] at nothing
    cases nothing
  · obtain rfl : id = ⟨1⟩ := by
      have held := leaving.held
      rw [channel, shown.2] at held
      exact (Option.some.inj held).symm
    rcases goes later _ (by simp [later]) rfl with ⟨-, waits⟩ | comesOff
    · exact absurd (waits (.connectFailed ⟨1⟩ (.transport "refused")) (by simp [later]))
        (by decide)
    · exact comesOff

end ClientCore

end LineProtocol
