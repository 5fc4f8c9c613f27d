import LineProtocol.Frame.Encoder
import LineProtocol.Proofs.Client.Moves
import LineProtocol.Proofs.Transport.Asked

/-!
# Connections that are shown, and octets that are sent

A client that shows itself as connected is: it holds a channel that was reported as
established, nothing else was reported about it, and the client was not asked to give
it up since.  `Live` says this of the events of a course, and every course keeps it.

A client writes where it is connected, and on the channel that it holds.  What it hands
to the transport for a channel is therefore made of the messages that it was asked to
send while it was connected on it, each framed by itself and in order.
-/

namespace LineProtocol

/-- What a request hands over for a channel. -/
def Call.octetsOn
    (id : ChannelId) :
    Call → Bytes
  | .write other bytes => if other = id then bytes else []
  | _ => []

namespace Course

/-- A channel was reported as established, nothing else was reported about it, and the
client was neither asked to give it up nor finished since. -/
def Live
    (events : List Event)
    (id : ChannelId) :
    Prop :=
  ∃ earlier later,
    events = earlier ++ .job (.established id) :: later ∧
      (∀ task, .job task ∈ earlier ++ later → task.about? ≠ some id) ∧
      .job .disconnect ∉ later ∧ .job .finish ∉ later

/-- What an event asks the transport for. -/
def requests : Course × Event → List Call
  | (course, .job task) =>
      (task.run false course.core).state.transport.calls.drop
        course.core.transport.calls.length
  | (_, .transport _) => []

/-- What an event hands over for a channel to a transport that does not refuse it. -/
def handed
    (id : ChannelId)
    (visit : Course × Event) :
    Bytes :=
  if visit.1.core.transport.refusesWrites then []
  else (requests visit).flatMap (Call.octetsOn id)

/-- The message that an event sends on a channel: the client is connected and holds the
channel, which is writable, and the transport does not refuse. -/
def accepted?
    (id : ChannelId) :
    Course × Event → Option String
  | (course, .job (.send message)) =>
      if course.core.machine.current = .connected ∧ course.core.channel = some id ∧
          course.core.transport.isWritable id = true ∧
          course.core.transport.refusesWrites = false then
        some message
      else none
  | _ => none

/-! ## Reports -/

/-- A connection that something was reported about is not opening any more. -/
theorem reported_of_mem
    {start final : Course}
    {events : List Event}
    (sound : Sound start)
    (ran : start.run? events = some final)
    {task : ClientJob}
    {id : ChannelId}
    (made : .job task ∈ events)
    (about : task.about? = some id) :
    ∃ life, final.lives id = some life ∧ life ≠ .opening := by
  induction ran using foldlM_induction with
  | none => simp at made
  | snoc events event between final before stepped ih =>
      rcases step?_cases stepped with
        ⟨last, lives, rfl, reported, rfl⟩ | ⟨transport, rfl, -, rfl⟩
      · -- The number of a new connection was never reported about.
        have kept :
            ∀ life, lives id = some life → id.number < between.core.transport.nextId →
              (between.perform last lives).lives id = some life := by
          intro life reached older
          rw [perform]
          simp only
          split
          · exact reached
          · rw [Function.update_of_ne]
            · exact reached
            · rintro rfl
              exact Nat.lt_irrefl _ older
        have numbered := (sound.run before).numbered id
        cases reports : last.about? with
        | none =>
            obtain rfl := lives_of_request reports reported
            rcases List.mem_append.mp made with earlier | here
            · obtain ⟨life, reached, left⟩ := ih earlier
              exact ⟨life, kept life reached (numbered life reached), left⟩
            · simp only [List.mem_singleton, Event.job.injEq] at here
              rw [here, reports] at about
              cases about
        | some other =>
            obtain ⟨life, next, reached, leads, rfl⟩ := lives_of_report reports reported
            by_cases same : other = id
            · subst same
              refine ⟨next, kept next (Function.update_self ..) (numbered life reached), ?_⟩
              rintro rfl
              cases last <;> cases life <;> simp [Life.after?] at leads
            · rcases List.mem_append.mp made with earlier | here
              · obtain ⟨old, held, left⟩ := ih earlier
                refine ⟨old, kept old ?_ (numbered old held), left⟩
                rw [Function.update_of_ne (Ne.symm same)]
                exact held
              · simp only [List.mem_singleton, Event.job.injEq] at here
                rw [here, reports] at about
                exact (same (Option.some.inj about)).elim
      · rcases List.mem_append.mp made with earlier | here
        · exact ih earlier
        · simp at here

end Course

/-! ## Being connected -/

/-- A client that is connected after a job was connected before on the same channel, and
the job did not concern it, or the channel was just reported as established.  A machine
that is connected also ignores that there will be no connection, which no transport
reports in that state. -/
theorem ClientCore.Moves.connected
    {core : ClientCore}
    {task : ClientJob}
    {machine : Machine}
    {channel : Option ChannelId}
    (moves : core.Moves task machine channel)
    (connected : machine.current = .connected) :
    (core.machine.current = .connected ∧ channel = core.channel ∧
        task ≠ .disconnect ∧ task ≠ .finish ∧
        ∀ id, core.channel = some id → task.about? ≠ some id) ∨
      (∃ id, task = .established id ∧ core.channel = some id ∧ channel = some id) ∨
      ∃ id cause, task = .connectFailed id cause ∧ core.channel = some id ∧
        core.machine.current = .connected := by
  cases moves with
  | ignored refused => exact .inl ⟨connected, rfl, by simp, by simp, by simp [ClientJob.about?]⟩
  | unknown accepted => simp [advance_connect accepted, ConnectionState.after?] at connected
  | known accepted => simp [advance_connect accepted] at connected
  | send => exact .inl ⟨connected, rfl, by simp, by simp, by simp [ClientJob.about?]⟩
  | still idle => simp [connected] at idle
  | disconnect held =>
      cases state : core.machine.current <;> simp_all [ConnectionState.after?]
  | alone nothing =>
      cases state : core.machine.current <;> simp_all [ConnectionState.after?]
  | @stale task id about other =>
      refine .inl ⟨connected, rfl, ?_, ?_, ?_⟩
      · rintro rfl
        cases about
      · rintro rfl
        cases about
      · intro current held same
        obtain rfl := Option.some.inj (about.symm.trans same)
        exact other held
  | established held => exact .inr (.inl ⟨_, rfl, held, held⟩)
  | connectFailed held =>
      refine .inr (.inr ⟨_, _, rfl, held, ?_⟩)
      cases state : core.machine.current <;> simp_all [ConnectionState.after?]
  | broke held =>
      cases state : core.machine.current <;> simp_all [ConnectionState.after?]
  | closed held =>
      cases state : core.machine.current <;> simp_all [ConnectionState.after?]
  | finishOff off => simp [off] at connected
  | finish busy =>
      cases state : core.machine.current <;> simp_all [ConnectionState.after?]

namespace Course

/-- A channel stays live where something happens that does not concern it. -/
theorem Live.snoc
    {events : List Event}
    {id : ChannelId}
    (live : Live events id)
    {event : Event}
    (other : ∀ task, event = .job task → task.about? ≠ some id)
    (kept : event ≠ .job .disconnect)
    (busy : event ≠ .job .finish) :
    Live (events ++ [event]) id := by
  obtain ⟨earlier, later, rfl, apart, undisturbed, running⟩ := live
  refine ⟨earlier, later ++ [event], by simp, ?_, ?_, ?_⟩
  · intro task made
    rw [← List.append_assoc, List.mem_append, List.mem_singleton] at made
    rcases made with before | rfl
    · exact apart task before
    · exact other task rfl
  · simp [undisturbed, Ne.symm kept]
  · simp [running, Ne.symm busy]

/-- A client that is connected holds a live channel. -/
theorem Sound.live
    {start final : Course}
    {events : List Event}
    (sound : Sound start)
    (off : start.core.machine.current = .disconnected)
    (ran : start.run? events = some final)
    (connected : final.core.machine.current = .connected) :
    ∃ id, final.core.channel = some id ∧ Live events id := by
  induction ran using foldlM_induction with
  | none =>
      rw [off] at connected
      cases connected
  | snoc events event between final before stepped ih =>
      rcases step?_cases stepped with
        ⟨task, lives, rfl, reported, rfl⟩ | ⟨transport, rfl, -, rfl⟩
      · rcases (between.core.moves_run task).connected connected with
          ⟨earlier, same, kept, busy, other⟩ | ⟨id, rfl, held, holds⟩ |
            ⟨id, cause, rfl, held, earlier⟩
        · obtain ⟨id, held, live⟩ := ih earlier
          refine ⟨id, same.trans held, live.snoc ?_ ?_ ?_⟩
          · intro last here
            rw [← Event.job.inj here]
            exact other id held
          · simpa using kept
          · simpa using busy
        · refine ⟨id, holds, events, [], rfl, ?_, by simp, by simp⟩
          intro task made about
          rw [List.append_nil] at made
          obtain ⟨life, next, reached, leads, -⟩ := lives_of_report rfl reported
          obtain ⟨known, there, left⟩ := reported_of_mem sound before made about
          rw [reached] at there
          obtain rfl := Option.some.inj there
          cases life <;> simp_all [Life.after?]
        · have stance := (sound.run before).stance
          rw [earlier] at stance
          obtain ⟨current, here, opened⟩ := stance
          obtain rfl := Option.some.inj (held.symm.trans here)
          obtain ⟨life, next, reached, leads, -⟩ := lives_of_report rfl reported
          rw [opened] at reached
          obtain rfl := Option.some.inj reached
          cases leads
      · obtain ⟨id, held, live⟩ := ih connected
        exact ⟨id, held, live.snoc (by simp) (by simp) (by simp)⟩

end Course

/-! ## Writing -/

theorem flatMap_octetsOn
    {calls : List Call}
    (silent : ∀ id bytes, .write id bytes ∉ calls)
    (id : ChannelId) :
    calls.flatMap (Call.octetsOn id) = [] := by
  rw [List.flatMap_eq_nil_iff]
  intro call member
  cases call with
  | write other bytes => exact (silent other bytes member).elim
  | _ => rfl

theorem Transport.calls_connect
    (transport : Transport)
    (address : SocketAddress) :
    ∃ more, (transport.connect address).2.2.calls = transport.calls ++ more ∧
      ∀ id bytes, .write id bytes ∉ more := by
  have asked :
      (transport.connect address).2.2.calls =
        transport.reenter.calls ++ [.connect address ⟨transport.nextId⟩] := by
    simp [connect, newId, adopt]
  rw [asked]
  unfold reenter
  split
  · exact ⟨[.shutdownRefused .serialContext, .connect address ⟨transport.nextId⟩], by simp,
      by simp⟩
  · exact ⟨[.connect address ⟨transport.nextId⟩], rfl, by simp⟩

namespace ClientCore

/-- A message is handed over where the client is connected and the channel that it holds
is writable, and then framed. -/
theorem calls_send
    (core : ClientCore)
    (message : String) :
    (∃ id, core.machine.current = .connected ∧ core.channel = some id ∧
        core.transport.isWritable id = true ∧
        ((ClientJob.send message).run false core).state.transport.calls =
          core.transport.calls ++ [.write id (core.encoder.encode message).1]) ∨
      ((∀ id, core.machine.current = .connected → core.channel = some id →
          core.transport.isWritable id = false) ∧
        ((ClientJob.send message).run false core).state.transport.calls =
          core.transport.calls ++ []) := by
  simp only [ClientJob.run, List.append_nil, send]
  split
  · rename_i id connected held
    cases writable : core.transport.isWritable id with
    | true =>
        refine .inl ⟨id, connected, held, writable, ?_⟩
        simp only [Transport.write, writable, if_true]
        split
        · rfl
        · rfl
    | false =>
        refine .inr ⟨?_, ?_⟩
        · intro other _ same
          obtain rfl := Option.some.inj (held.symm.trans same)
          exact writable
        · simp only [Transport.write, writable]
          rfl
  · rename_i idle
    refine .inr ⟨?_, rfl⟩
    intro id connected held
    exact (idle id connected held).elim

/-- Writing a message is the only thing that a client uses its writer for. -/
theorem encoder_run
    (core : ClientCore)
    (task : ClientJob) :
    (task.run false core).state.encoder = core.encoder ∨
      ∃ message, (task.run false core).state.encoder = (core.encoder.encode message).2 := by
  cases task with
  | connect target =>
      left
      simp only [ClientJob.run, connect]
      split
      · rfl
      · cases target with
        | error cause => rfl
        | ok address => rfl
  | send message =>
      simp only [ClientJob.run, send]
      split
      · right
        refine ⟨message, ?_⟩
        split
        · rfl
        · rfl
      · exact .inl rfl
  | disconnect =>
      left
      simp only [ClientJob.run, disconnect]
      split
      · rfl
      · rfl
      · split
        · rfl
        · rfl
  | established id =>
      left
      simp only [ClientJob.run, established]
      split
      · rfl
      · rfl
  | connectFailed id cause =>
      left
      simp only [ClientJob.run, connectFailed]
      split
      · split
        · rfl
        · rfl
      · rfl
  | broke id cause =>
      left
      simp only [ClientJob.run, broke]
      split
      · rfl
      · rfl
  | closed id =>
      left
      simp only [ClientJob.run, closed]
      split
      · rfl
      · rfl
  | finish =>
      left
      simp only [ClientJob.run, finish]
      split
      · rfl
      · rfl

/-- No job but a send writes. -/
theorem calls_run_of_not_send
    (core : ClientCore)
    {task : ClientJob}
    (other : ∀ message, task ≠ .send message) :
    ∃ more, (task.run false core).state.transport.calls = core.transport.calls ++ more ∧
      ∀ id bytes, .write id bytes ∉ more := by
  cases about : task.about? with
  | some id =>
      rw [Course.transport_report about core]
      exact ⟨[], by simp, by simp⟩
  | none =>
      cases task with
      | connect target =>
          show ∃ more, (core.connect target).1.transport.calls = _ ++ more ∧ _
          rcases core.transport_connect target with same | ⟨address, -, -, asked⟩
          · rw [same]
            exact ⟨[], by simp, by simp⟩
          · rw [asked]
            exact core.transport.calls_connect address
      | send message => exact (other message rfl).elim
      | disconnect =>
          show ∃ more, core.disconnect.2.transport.calls = _ ++ more ∧ _
          rcases core.disconnect_cases with ⟨-, same⟩ | ⟨id, -, -, asked⟩
          · rw [same]
            exact ⟨[], by simp, by simp⟩
          · rw [asked]
            have closes : (Call.close id).Closes fun _ => True := ⟨id, rfl, trivial⟩
            obtain ⟨more, calls, known⟩ := (core.transport.asks_close closes).requests
            refine ⟨more, calls, ?_⟩
            intro other bytes member
            obtain ⟨closed, same, -⟩ := known _ member
            exact nomatch same
      | finish =>
          show ∃ more, core.finish.transport.calls = _ ++ more ∧ _
          rcases core.transport_finish with same | stopped
          · rw [same]
            exact ⟨[], by simp, by simp⟩
          · rw [stopped]
            exact ⟨[], by simp [Transport.stop], by simp⟩
      | established id => simp [ClientJob.about?] at about
      | connectFailed id cause => simp [ClientJob.about?] at about
      | broke id cause => simp [ClientJob.about?] at about
      | closed id => simp [ClientJob.about?] at about

end ClientCore

namespace Course

theorem requests_of_eq
    {course : Course}
    {task : ClientJob}
    {more : List Call}
    (calls : (task.run false course.core).state.transport.calls =
      course.core.transport.calls ++ more) :
    requests (course, .job task) = more := by
  rw [requests, calls, List.drop_left]

/-- What an event hands over is the frame of the message that it sends, if it does. -/
theorem handed_eq
    (id : ChannelId)
    (course : Course)
    (event : Event) :
    handed id (course, event) =
      (accepted? id (course, event)).elim []
        fun message => (course.core.encoder.encode message).1 := by
  cases event with
  | transport transport => simp [handed, requests, accepted?]
  | job task =>
      by_cases send : ∃ message, task = .send message
      · obtain ⟨message, rfl⟩ := send
        rw [accepted?, handed]
        rcases course.core.calls_send message with
          ⟨current, connected, held, writable, calls⟩ | ⟨idle, calls⟩
        · rw [requests_of_eq calls]
          by_cases same : current = id
          · subst same
            cases course.core.transport.refusesWrites <;>
              simp [connected, held, writable, Call.octetsOn]
          · have other : course.core.channel ≠ some id := by
              rw [held]
              exact fun equal => same (Option.some.inj equal)
            simp [other, same, Call.octetsOn]
        · rw [requests_of_eq calls, if_neg (c := _ ∧ _)]
          · simp
          · rintro ⟨connected, held, writable, -⟩
            rw [idle id connected held] at writable
            exact nomatch writable
      · have other : ∀ message, task ≠ .send message :=
          fun message same => send ⟨message, same⟩
        obtain ⟨more, calls, silent⟩ := course.core.calls_run_of_not_send other
        have nothing : accepted? id (course, .job task) = none := by
          cases task with
          | send message => exact (other message rfl).elim
          | _ => rfl
        rw [nothing, handed, requests_of_eq calls]
        simp [flatMap_octetsOn silent id]

/-- Only a client that is connected asks for a write, and on the channel that it holds. -/
theorem held_of_write
    {course : Course}
    {event : Event}
    {id : ChannelId}
    {bytes : Bytes}
    (asked : .write id bytes ∈ requests (course, event)) :
    course.core.machine.current = .connected ∧ course.core.channel = some id := by
  cases event with
  | transport transport => simp [requests] at asked
  | job task =>
      by_cases send : ∃ message, task = .send message
      · obtain ⟨message, rfl⟩ := send
        rcases course.core.calls_send message with
          ⟨current, connected, held, -, calls⟩ | ⟨-, calls⟩
        · rw [requests_of_eq calls, List.mem_singleton, Call.write.injEq] at asked
          exact ⟨connected, asked.1 ▸ held⟩
        · rw [requests_of_eq calls] at asked
          exact nomatch asked
      · obtain ⟨more, calls, silent⟩ :=
          course.core.calls_run_of_not_send fun message same => send ⟨message, same⟩
        rw [requests_of_eq calls] at asked
        exact (silent id bytes asked).elim

theorem encoder_run
    {names : String × String}
    {settings : ClientSettings}
    {transport : Transport}
    {handler : String → Reaction ClientAction}
    {events : List Event}
    {final : Course}
    (ran : (start names settings transport handler).run? events = some final) :
    final.core.encoder = settings.framing.encoder := by
  induction ran using foldlM_induction with
  | none => rfl
  | snoc events event between final before stepped ih =>
      rcases step?_cases stepped with
        ⟨task, lives, rfl, reported, rfl⟩ | ⟨transport, rfl, -, rfl⟩
      · show (task.run false between.core).state.encoder = _
        rcases between.core.encoder_run task with same | ⟨message, written⟩
        · rw [same, ih]
        · rw [written, ih]
          rfl
      · exact ih

/-- A client that is connected is so on a channel that was reported as established, about
which nothing else was reported, and which it was not asked to give up since.  What it
hands to the transport for a channel is, octet by octet, the messages that it was asked to
send while it was connected on this channel and the channel took them, each followed by the
delimiter, in the order in which the jobs ran.  On a channel that is not live, or not the
one that is held, it does not even try to write. -/
theorem connected_live_and_handed_framed
    {names : String × String}
    {settings : ClientSettings}
    {transport : Transport}
    {handler : String → Reaction ClientAction}
    {events : List Event}
    {final : Course}
    (ran : (start names settings transport handler).run? events = some final) :
    let client := start names settings transport handler
    (final.core.machine.current = .connected →
        ∃ id, final.core.channel = some id ∧ Live events id) ∧
      (∀ id,
        (visits step? client events).flatMap (handed id) =
          ((visits step? client events).filterMap (accepted? id)).flatMap
            settings.framing.frame) ∧
      ∀ earlier event later between id bytes,
        events = earlier ++ event :: later →
          client.run? earlier = some between →
            .write id bytes ∈ requests (between, event) →
              between.core.machine.current = .connected ∧
                between.core.channel = some id ∧ Live earlier id := by
  intro client
  have sound : Sound client := sound_start names settings transport handler
  refine ⟨sound.live rfl ran, ?_, ?_⟩
  · intro id
    induction ran using foldlM_induction with
    | none => rfl
    | snoc events event between final before stepped ih =>
        rw [visits_snoc before, List.flatMap_append, List.filterMap_append,
          List.flatMap_append, ih, List.append_right_inj]
        rw [List.flatMap_singleton, handed_eq, encoder_run before]
        cases sends : accepted? id (between, event) with
        | none => simp [sends]
        | some message => simp [sends]
  · intro earlier event later between id bytes split before asked
    obtain ⟨connected, held⟩ := held_of_write asked
    obtain ⟨current, here, live⟩ := sound.live rfl before connected
    obtain rfl := Option.some.inj (held.symm.trans here)
    exact ⟨connected, held, live⟩

/-- A client that gives its first connection up and gets a second one.  The message in
between is sent on neither. -/
theorem connected_live_and_handed_framed_second :
    let target : SocketAddress := { ip := .v4 .unspecified, port := 80 }
    let client : Course := start ("client", "crew") {} {} fun _ => {}
    let asked : Transport := (({} : Transport).connect target).2.2
    let again : Transport := (asked.connect target).2.2
    let events : List Event :=
      [.job (.connect (.ok target)), .transport (asked.alter ⟨1⟩ Channel.markOpen),
        .job (.established ⟨1⟩), .job (.send "a"), .job .disconnect, .job (.send "b"),
        .job (.closed ⟨1⟩), .job (.connect (.ok target)),
        .transport (again.alter ⟨2⟩ Channel.markOpen), .job (.established ⟨2⟩),
        .job (.send "c")]
    ∃ final,
      client.run? events = some final ∧
        (∃ id, final.core.channel = some id ∧ Live events id) ∧
        (visits step? client events).flatMap (handed ⟨1⟩) = [97, 10] ∧
        (visits step? client events).flatMap (handed ⟨2⟩) = [99, 10] := by
  intro target client asked again events
  obtain ⟨final, ran⟩ :=
    Option.isSome_iff_exists.mp
      (by decide +kernel : (client.run? events).isSome = true)
  have shown :
      (client.run? events).map (fun course => course.core.machine.current) =
        some .connected := by
    decide +kernel
  rw [ran, Option.map_some, Option.some.injEq] at shown
  obtain ⟨live, framed, -⟩ := connected_live_and_handed_framed ran
  refine ⟨final, ran, live shown, ?_, ?_⟩
  · rw [framed]
    decide +kernel
  · rw [framed]
    decide +kernel

end Course

end LineProtocol
