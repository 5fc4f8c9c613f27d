import Mathlib.Logic.Function.Basic
import LineProtocol.Client.Session
import LineProtocol.Proofs.Run
import LineProtocol.Proofs.Transport.Requests

/-!
# Courses of a client

A client's jobs are what its user asks for and what its transport reports.  A
transport reports in order: a connection is established and may break and is
closed at last, or it fails, or it is closed while it is still being made.  A
`Course` is a client's core together with how far the reports on each
connection are, and an event that would break that order leads nowhere.

`Sound` says how state, channel and reports go together.  It holds after every
course.
-/

namespace LineProtocol

/-- How far the reports on a connection are. -/
inductive Life where
  /-- Nothing was reported. -/
  | opening
  | opened
  | broken
  /-- The last report was made. -/
  | ended
  deriving Repr, DecidableEq

/-- The connection that a job is a report about. -/
def ClientJob.about? : ClientJob → Option ChannelId
  | .established id => some id
  | .connectFailed id _ => some id
  | .broke id _ => some id
  | .closed id => some id
  | _ => none

/-- Where a report leads, if it may be made. -/
def Life.after? : ClientJob → Life → Option Life
  | .established _, .opening => some .opened
  | .connectFailed _ _, .opening => some .ended
  | .broke _ _, .opened => some .broken
  | .closed _, .opening => some .ended
  | .closed _, .opened => some .ended
  | .closed _, .broken => some .ended
  | _, _ => none

/-- A client's core, and how far the reports on its connections are. -/
structure Course where
  core : ClientCore
  lives : ChannelId → Option Life := fun _ => none

namespace Course

/-- What happens to a client's core. -/
inductive Event where
  /-- It runs a job. -/
  | job (task : ClientJob)
  /-- Others use the transport, or the other side behaves differently. -/
  | transport (transport : Transport)

/-- The reports after one more, if it may be made. -/
def reported?
    (course : Course)
    (task : ClientJob) :
    Option (ChannelId → Option Life) :=
  match task.about? with
  | none => some course.lives
  | some id =>
      ((course.lives id).bind (Life.after? task)).map fun life =>
        Function.update course.lives id (some life)

/-- Runs a job.  A connection that it starts gets the next number. -/
def perform
    (course : Course)
    (task : ClientJob)
    (lives : ChannelId → Option Life) :
    Course :=
  let core := (task.run false course.core).state
  { core
    lives :=
      if core.transport.nextId = course.core.transport.nextId then lives
      else Function.update lives ⟨course.core.transport.nextId⟩ (some .opening) }

/-- Lets an event happen, if it may.  Numbers are never taken back. -/
def step? (course : Course) : Event → Option Course
  | .job task => (course.reported? task).map (course.perform task)
  | .transport transport =>
      if course.core.transport.nextId ≤ transport.nextId then
        some { course with core := { course.core with transport } }
      else none

/-- Lets events happen one after the other. -/
def run? (course : Course) (events : List Event) : Option Course :=
  events.foldlM step? course

/-- A new client. -/
def start
    (names : String × String)
    (settings : ClientSettings)
    (transport : Transport)
    (handler : String → Reaction ClientAction) :
    Course :=
  { core := (ClientSession.start names settings transport handler).core }

end Course

/-! ## Jobs, by state and channel -/

@[simp]
theorem Machine.current_advance
    (machine : Machine)
    (event : ConnectionEvent) :
    (machine.advance event).current =
      (machine.current.after? event).getD machine.current := by
  unfold advance apply
  split
  · rename_i next leads
    rw [leads]
    rfl
  · rename_i refused
    rw [refused]
    rfl

namespace ClientCore

@[simp]
theorem current_advance
    (core : ClientCore)
    (event : ConnectionEvent) :
    (core.advance event).machine.current =
      (core.machine.current.after? event).getD core.machine.current :=
  core.machine.current_advance event

@[simp]
theorem channel_advance
    (core : ClientCore)
    (event : ConnectionEvent) :
    (core.advance event).channel = core.channel :=
  rfl

theorem isCurrent_iff
    (core : ClientCore)
    (id : ChannelId) :
    core.isCurrent id = true ↔ core.channel = some id := by
  simp [isCurrent]

/-- A report about another channel changes nothing. -/
theorem run_of_ne
    {core : ClientCore}
    {task : ClientJob}
    {id : ChannelId}
    (about : task.about? = some id)
    (other : core.channel ≠ some id) :
    (task.run false core).state = core := by
  have stale : core.isCurrent id = false := by
    simpa [isCurrent] using other
  cases task <;>
    simp_all [ClientJob.about?, ClientJob.run, established, connectFailed, broke, closed]

end ClientCore

/-! ## How state, channel and reports go together -/

/-- What holds of a channel in each state. -/
def Stance
    (state : ConnectionState)
    (channel : Option ChannelId)
    (lives : ChannelId → Option Life) :
    Prop :=
  match state with
  | .disconnected => channel = none
  | .connecting => ∀ id, channel = some id → lives id = some .opening
  | .connected => ∃ id, channel = some id ∧ lives id = some .opened
  | .disconnecting => ∃ id life, channel = some id ∧ lives id = some life ∧ life ≠ .ended
  | .failed _ => ∀ id, channel = some id → lives id = some .broken

/-- A report about another channel does not matter. -/
theorem Stance.update
    {state : ConnectionState}
    {channel : Option ChannelId}
    {lives : ChannelId → Option Life}
    (stance : Stance state channel lives)
    {id : ChannelId}
    (other : channel ≠ some id)
    (life : Option Life) :
    Stance state channel (Function.update lives id life) := by
  have kept : ∀ current, channel = some current →
      Function.update lives id life current = lives current := by
    rintro current rfl
    exact Function.update_of_ne (fun same => other (congrArg some same)) _ _
  cases state with
  | disconnected => exact stance
  | connecting =>
      intro current here
      rw [kept current here]
      exact stance current here
  | connected =>
      obtain ⟨current, here, opened⟩ := stance
      exact ⟨current, here, (kept current here).trans opened⟩
  | disconnecting =>
      obtain ⟨current, life, here, reached, pending⟩ := stance
      exact ⟨current, life, here, (kept current here).trans reached, pending⟩
  | failed cause =>
      intro current here
      rw [kept current here]
      exact stance current here

/-! ## Reports on the current channel -/

section

variable
  {core : ClientCore}
  {lives : ChannelId → Option Life}
  {id : ChannelId}

theorem stance_established
    (stance : Stance core.machine.current core.channel lives)
    (here : core.channel = some id)
    (reached : lives id = some .opening) :
    Stance (core.established id).machine.current (core.established id).channel
      (Function.update lives id (some .opened)) := by
  have current : core.isCurrent id = true := (core.isCurrent_iff id).mpr here
  rw [ClientCore.established, if_pos current, ClientCore.current_advance,
    ClientCore.channel_advance]
  rw [here] at stance ⊢
  cases state : core.machine.current with
  | disconnected => simp [state, Stance] at stance
  | connecting => exact ⟨id, rfl, Function.update_self ..⟩
  | connected => simp [state, Stance, reached] at stance
  | disconnecting => exact ⟨id, .opened, rfl, Function.update_self .., nofun⟩
  | failed cause => simp [state, Stance, reached] at stance

theorem stance_connectFailed
    (stance : Stance core.machine.current core.channel lives)
    (here : core.channel = some id)
    (reached : lives id = some .opening)
    (cause : Fault) :
    Stance (core.connectFailed id cause).machine.current
      (core.connectFailed id cause).channel
      (Function.update lives id (some .ended)) := by
  have current : core.isCurrent id = true := (core.isCurrent_iff id).mpr here
  rw [here] at stance
  rw [ClientCore.connectFailed, if_pos current]
  cases state : core.machine.current with
  | disconnected => simp [state, Stance] at stance
  | connecting =>
      simp [ClientCore.note, state, ConnectionState.after?, Stance]
  | connected => simp [state, Stance, reached] at stance
  | disconnecting =>
      simp [ClientCore.note, state, ConnectionState.after?, Stance]
  | failed earlier => simp [state, Stance, reached] at stance

theorem stance_broke
    (here : core.channel = some id)
    (cause : Fault) :
    Stance (core.broke id cause).machine.current (core.broke id cause).channel
      (Function.update lives id (some .broken)) := by
  have current : core.isCurrent id = true := (core.isCurrent_iff id).mpr here
  rw [ClientCore.broke, if_pos current, ClientCore.current_advance,
    ClientCore.channel_advance]
  have fails :
      (core.note (.connectionBroke id cause)).machine.current.after? (.broke cause) =
        some (.failed cause) := by
    cases (core.note (.connectionBroke id cause)).machine.current <;> rfl
  rw [fails]
  intro other same
  obtain rfl : id = other := Option.some.inj (here.symm.trans same)
  exact Function.update_self ..

/-- A close leads to no state that needs a channel, not even where it is
refused. -/
theorem stance_closed
    (stance : Stance core.machine.current core.channel lives)
    (here : core.channel = some id) :
    Stance (core.closed id).machine.current (core.closed id).channel
      (Function.update lives id (some .ended)) := by
  have current : core.isCurrent id = true := (core.isCurrent_iff id).mpr here
  rw [here] at stance
  rw [ClientCore.closed, if_pos current, ClientCore.current_advance,
    ClientCore.channel_advance]
  cases state : core.machine.current with
  | disconnected => simp [state, Stance] at stance
  | connecting => simp [ConnectionState.after?, Stance]
  | connected => simp [ConnectionState.after?, Stance]
  | disconnecting => simp [ConnectionState.after?, Stance]
  | failed cause => simp [ConnectionState.after?, Stance]

end

/-- A report that may be made keeps state, channel and reports together. -/
theorem Stance.report
    {core : ClientCore}
    {lives : ChannelId → Option Life}
    {task : ClientJob}
    {id : ChannelId}
    {life next : Life}
    (stance : Stance core.machine.current core.channel lives)
    (about : task.about? = some id)
    (reached : lives id = some life)
    (leads : life.after? task = some next) :
    Stance (task.run false core).state.machine.current
      (task.run false core).state.channel (Function.update lives id (some next)) := by
  by_cases here : core.channel = some id
  · cases task with
    | established other =>
        obtain rfl : other = id := Option.some.inj about
        cases life <;> simp only [Life.after?, reduceCtorEq, Option.some.injEq] at leads
        subst leads
        exact stance_established stance here reached
    | connectFailed other cause =>
        obtain rfl : other = id := Option.some.inj about
        cases life <;> simp only [Life.after?, reduceCtorEq, Option.some.injEq] at leads
        subst leads
        exact stance_connectFailed stance here reached cause
    | broke other cause =>
        obtain rfl : other = id := Option.some.inj about
        cases life <;> simp only [Life.after?, reduceCtorEq, Option.some.injEq] at leads
        subst leads
        exact stance_broke here cause
    | closed other =>
        obtain rfl : other = id := Option.some.inj about
        have last : next = .ended := by
          cases life <;> simp_all [Life.after?]
        subst last
        exact stance_closed stance here
    | connect target => simp [ClientJob.about?] at about
    | send message => simp [ClientJob.about?] at about
    | disconnect => simp [ClientJob.about?] at about
    | finish => simp [ClientJob.about?] at about
  · -- The core does not look at reports on a connection it has let go.
    rw [ClientCore.run_of_ne about here]
    exact stance.update here _

/-! ## Requests -/

namespace ClientCore

theorem send_eq
    (core : ClientCore)
    (message : String) :
    (core.send message).machine = core.machine ∧
      (core.send message).channel = core.channel ∧
      (core.send message).transport.nextId = core.transport.nextId := by
  unfold send
  split
  · rename_i id _ _
    have numbers := core.transport.nextId_write id (core.encoder.encode message).1
    simp only
    split
    · exact ⟨rfl, rfl, numbers⟩
    · exact ⟨rfl, rfl, numbers⟩
  · exact ⟨rfl, rfl, rfl⟩

theorem nextId_disconnect (core : ClientCore) :
    core.disconnect.2.transport.nextId = core.transport.nextId := by
  unfold disconnect
  split
  · rfl
  · rfl
  · simp only
    split
    · exact Transport.nextId_close _ _
    · rfl

theorem nextId_finish (core : ClientCore) :
    core.finish.transport.nextId = core.transport.nextId := by
  unfold finish
  simp only
  split
  · split
    · rfl
    · rfl
  · split
    · rfl
    · rfl

/-- Whatever it was doing, a client that was finished is disconnected. -/
theorem finish_eq
    {core : ClientCore}
    (apart : core.machine.current = .disconnected → core.channel = none) :
    core.finish.machine.current = .disconnected ∧ core.finish.channel = none := by
  unfold finish
  simp only
  split
  · rename_i off
    exact ⟨off, apart off⟩
  · rename_i busy
    refine ⟨?_, rfl⟩
    cases state : core.machine.current with
    | disconnected => exact (busy state).elim
    | connecting => simp [state, ConnectionState.after?]
    | connected => simp [state, ConnectionState.after?]
    | disconnecting => simp [state, ConnectionState.after?]
    | failed cause => simp [state, ConnectionState.after?]

end ClientCore

/-- Giving a connection up keeps state, channel and reports together: without a
channel the client is disconnected at once. -/
theorem Stance.disconnect
    {core : ClientCore}
    {lives : ChannelId → Option Life}
    (stance : Stance core.machine.current core.channel lives) :
    Stance core.disconnect.2.machine.current core.disconnect.2.channel lives := by
  unfold ClientCore.disconnect
  split
  · exact stance
  · exact stance
  · rename_i running waiting
    simp only [ClientCore.channel_advance]
    cases here : core.channel with
    | none =>
        simp only [ClientCore.current_advance, ClientCore.channel_advance, here]
        rw [here] at stance
        cases state : core.machine.current with
        | disconnected => exact (running state).elim
        | connecting => simp [ConnectionState.after?, Stance]
        | connected => simp [state, Stance] at stance
        | disconnecting => exact (waiting state).elim
        | failed cause => simp [ConnectionState.after?, Stance]
    | some id =>
        simp only [ClientCore.current_advance]
        rw [here] at stance
        cases state : core.machine.current with
        | disconnected => exact (running state).elim
        | connecting =>
            rw [state] at stance
            exact ⟨id, .opening, rfl, stance id rfl, nofun⟩
        | connected =>
            rw [state] at stance
            obtain ⟨other, same, opened⟩ := stance
            obtain rfl := Option.some.inj same
            exact ⟨id, .opened, rfl, opened, nofun⟩
        | disconnecting => exact (waiting state).elim
        | failed cause =>
            rw [state] at stance
            exact ⟨id, .broken, rfl, stance id rfl, nofun⟩

/-- What a request to connect comes to.  It is ignored, or the client had given
its last connection up, and then either the target is not known or a connection
with the next number is started. -/
theorem ClientCore.connect_cases
    (core : ClientCore)
    (target : Except Fault SocketAddress) :
    ((core.connect target).1.machine = core.machine ∧
        (core.connect target).1.channel = core.channel ∧
        (core.connect target).1.transport = core.transport) ∨
      ((core.machine.current = .disconnected ∨
          ∃ cause, core.machine.current = .failed cause) ∧
        (((∃ cause, (core.connect target).1.machine.current = .failed cause) ∧
            (core.connect target).1.channel = core.channel ∧
            (core.connect target).1.transport = core.transport) ∨
          ((core.connect target).1.machine.current = .connecting ∧
            (core.connect target).1.channel = some ⟨core.transport.nextId⟩ ∧
            (core.connect target).1.transport.nextId = core.transport.nextId + 1))) := by
  cases leads : core.machine.current.after? .connectRequested with
  | none =>
      refine .inl ?_
      rw [connect, Machine.apply_of_none leads]
      exact ⟨rfl, rfl, rfl⟩
  | some next =>
      have idle :
          next = .connecting ∧
            (core.machine.current = .disconnected ∨
              ∃ cause, core.machine.current = .failed cause) := by
        cases state : core.machine.current <;>
          simp_all [ConnectionState.after?]
      obtain ⟨rfl, idle⟩ := idle
      refine .inr ⟨idle, ?_⟩
      rw [connect, Machine.apply_of_some leads]
      cases target with
      | error cause =>
          refine .inl ⟨⟨cause, ?_⟩, rfl, rfl⟩
          simp [note, ConnectionState.after?]
      | ok address =>
          refine .inr ⟨rfl, ?_, core.transport.nextId_connect address⟩
          exact congrArg some (core.transport.connect_id address)

namespace Course

/-- Every connection has a number that was given out, and state, channel and
reports go together. -/
structure Sound (course : Course) : Prop where
  numbered :
    ∀ id life, course.lives id = some life → id.number < course.core.transport.nextId
  stance : Stance course.core.machine.current course.core.channel course.lives

theorem sound_start
    (names : String × String)
    (settings : ClientSettings)
    (transport : Transport)
    (handler : String → Reaction ClientAction) :
    Sound (start names settings transport handler) where
  numbered id life here := by simp [start] at here
  stance := rfl

theorem Sound.apart
    {course : Course}
    (sound : Sound course)
    (off : course.core.machine.current = .disconnected) :
    course.core.channel = none := by
  have stance := sound.stance
  rw [off] at stance
  exact stance

/-! ## Runs -/

/-- A request reports nothing. -/
theorem lives_of_request
    {course : Course}
    {task : ClientJob}
    {lives : ChannelId → Option Life}
    (request : task.about? = none)
    (reported : course.reported? task = some lives) :
    lives = course.lives := by
  rw [reported?, request] at reported
  exact (Option.some.inj reported).symm

/-- A report leads on from the report before it on the same connection. -/
theorem lives_of_report
    {course : Course}
    {task : ClientJob}
    {lives : ChannelId → Option Life}
    {id : ChannelId}
    (about : task.about? = some id)
    (reported : course.reported? task = some lives) :
    ∃ life next,
      course.lives id = some life ∧ life.after? task = some next ∧
        lives = Function.update course.lives id (some next) := by
  rw [reported?, about] at reported
  obtain ⟨next, found, rfl⟩ := Option.map_eq_some_iff.mp reported
  obtain ⟨life, reached, leads⟩ := Option.bind_eq_some_iff.mp found
  exact ⟨life, next, reached, leads, rfl⟩

/-- A step runs a job whose report may be made, or leaves all but the transport
alone. -/
theorem step?_cases
    {course next : Course}
    {event : Event}
    (stepped : course.step? event = some next) :
    (∃ task lives,
        event = .job task ∧ course.reported? task = some lives ∧
          next = course.perform task lives) ∨
      ∃ transport,
        event = .transport transport ∧
          course.core.transport.nextId ≤ transport.nextId ∧
          next = { course with core := { course.core with transport } } := by
  cases event with
  | job task =>
      obtain ⟨lives, reported, performed⟩ := Option.map_eq_some_iff.mp stepped
      exact .inl ⟨task, lives, rfl, reported, performed.symm⟩
  | transport transport =>
      simp only [step?] at stepped
      split at stepped
      · rename_i later
        exact .inr ⟨transport, rfl, later, (Option.some.inj stepped).symm⟩
      · simp at stepped

theorem transport_report
    {task : ClientJob}
    {id : ChannelId}
    (about : task.about? = some id)
    (core : ClientCore) :
    (task.run false core).state.transport = core.transport := by
  cases task with
  | established other =>
      simp only [ClientJob.run, ClientCore.established]
      split
      · rfl
      · rfl
  | connectFailed other cause =>
      simp only [ClientJob.run, ClientCore.connectFailed]
      split
      · split
        · rfl
        · rfl
      · rfl
  | broke other cause =>
      simp only [ClientJob.run, ClientCore.broke]
      split
      · rfl
      · rfl
  | closed other =>
      simp only [ClientJob.run, ClientCore.closed]
      split
      · rfl
      · rfl
  | connect target => simp [ClientJob.about?] at about
  | send message => simp [ClientJob.about?] at about
  | disconnect => simp [ClientJob.about?] at about
  | finish => simp [ClientJob.about?] at about

theorem perform_eq
    {course : Course}
    {task : ClientJob}
    (same :
      (task.run false course.core).state.transport.nextId =
        course.core.transport.nextId)
    (lives : ChannelId → Option Life) :
    course.perform task lives = { core := (task.run false course.core).state, lives } := by
  simp [perform, same]

/-- A job that starts no connection keeps a course sound if it keeps state,
channel and reports together. -/
theorem Sound.of_stance
    {course : Course}
    {task : ClientJob}
    (sound : Sound course)
    (same :
      (task.run false course.core).state.transport.nextId =
        course.core.transport.nextId)
    (stance :
      Stance (task.run false course.core).state.machine.current
        (task.run false course.core).state.channel course.lives) :
    Sound (course.perform task course.lives) := by
  rw [perform_eq same]
  refine ⟨?_, stance⟩
  intro id life here
  show id.number < (task.run false course.core).state.transport.nextId
  rw [same]
  exact sound.numbered id life here

theorem Sound.connect
    {course : Course}
    (sound : Sound course)
    (target : Except Fault SocketAddress) :
    Sound (course.perform (.connect target) course.lives) := by
  have stance := sound.stance
  rcases course.core.connect_cases target with
    ⟨machine, channel, transport⟩ |
      ⟨idle, ⟨⟨cause, failed⟩, channel, transport⟩ | ⟨connecting, channel, nextId⟩⟩
  · refine sound.of_stance (congrArg Transport.nextId transport) ?_
    show Stance (course.core.connect target).1.machine.current
      (course.core.connect target).1.channel course.lives
    rw [machine, channel]
    exact stance
  · refine sound.of_stance (congrArg Transport.nextId transport) ?_
    show Stance (course.core.connect target).1.machine.current
      (course.core.connect target).1.channel course.lives
    rw [failed, channel]
    rcases idle with off | ⟨earlier, off⟩
    · rw [off] at stance
      intro id here
      rw [stance] at here
      simp at here
    · rw [off] at stance
      exact stance
  · have more :
        ((ClientJob.connect target).run false course.core).state.transport.nextId ≠
          course.core.transport.nextId := by
      show (course.core.connect target).1.transport.nextId ≠ _
      omega
    rw [perform, if_neg more]
    refine ⟨?_, ?_⟩
    · intro id life here
      show id.number < (course.core.connect target).1.transport.nextId
      rw [nextId]
      by_cases new : id = ⟨course.core.transport.nextId⟩
      · rw [new]
        exact Nat.lt_succ_self _
      · simp only [Function.update_of_ne new] at here
        exact Nat.lt_succ_of_lt (sound.numbered id life here)
    · show Stance (course.core.connect target).1.machine.current
        (course.core.connect target).1.channel _
      rw [connecting, channel]
      rintro id same
      obtain rfl := Option.some.inj same
      exact Function.update_self ..

/-- Every job that may be run keeps a course sound. -/
theorem Sound.perform
    {course : Course}
    {task : ClientJob}
    {lives : ChannelId → Option Life}
    (sound : Sound course)
    (reported : course.reported? task = some lives) :
    Sound (course.perform task lives) := by
  cases about : task.about? with
  | some id =>
      obtain ⟨life, next, reached, leads, rfl⟩ := lives_of_report about reported
      have transport := transport_report about course.core
      rw [perform_eq (congrArg Transport.nextId transport)]
      refine ⟨?_, sound.stance.report about reached leads⟩
      intro other otherLife here
      show other.number < (task.run false course.core).state.transport.nextId
      rw [transport]
      by_cases same : other = id
      · rw [same]
        exact sound.numbered id life reached
      · simp only [Function.update_of_ne same] at here
        exact sound.numbered other otherLife here
  | none =>
      obtain rfl := lives_of_request about reported
      cases task with
      | connect target => exact sound.connect target
      | send message =>
          obtain ⟨machine, channel, nextId⟩ := course.core.send_eq message
          refine sound.of_stance nextId ?_
          show Stance (course.core.send message).machine.current
            (course.core.send message).channel course.lives
          rw [machine, channel]
          exact sound.stance
      | disconnect =>
          exact sound.of_stance course.core.nextId_disconnect sound.stance.disconnect
      | finish =>
          obtain ⟨off, empty⟩ := ClientCore.finish_eq sound.apart
          refine sound.of_stance course.core.nextId_finish ?_
          show Stance course.core.finish.machine.current course.core.finish.channel
            course.lives
          rw [off, empty]
          rfl
      | established id => simp [ClientJob.about?] at about
      | connectFailed id cause => simp [ClientJob.about?] at about
      | broke id cause => simp [ClientJob.about?] at about
      | closed id => simp [ClientJob.about?] at about

theorem Sound.step
    {course next : Course}
    {event : Event}
    (sound : Sound course)
    (stepped : course.step? event = some next) :
    Sound next := by
  rcases step?_cases stepped with
    ⟨task, lives, -, reported, rfl⟩ | ⟨transport, -, later, rfl⟩
  · exact sound.perform reported
  · refine ⟨?_, sound.stance⟩
    intro id life here
    exact Nat.lt_of_lt_of_le (sound.numbered id life here) later

/-- Every course is sound. -/
theorem Sound.run
    {course final : Course}
    {events : List Event}
    (sound : Sound course)
    (ran : course.run? events = some final) :
    Sound final :=
  foldlM_keeps (fun _ _ _ sound stepped => sound.step stepped) sound ran

end Course

end LineProtocol
