import LineProtocol.Client.Moment
import LineProtocol.Proofs.Client.Stale
import LineProtocol.Proofs.Serial.Keeping

/-!
# What is reported about the current connection is heeded

A client compares the channel of a report with the one that it holds, and it holds a new
channel only after the transport has answered, while reports on that channel may come before.
They are not lost, because the jobs that they hand in wait behind the job that asked.

The channel that a client `holds` here is the one that it asked for last, whether the
transport has answered or not.  `Traced` says that it held a channel from the job that asked
for it to the first job that made it let go, and every step keeps that.  While no job is under
way this is the channel that the reports are compared with.
-/

namespace LineProtocol

namespace ClientMoment

/-- The channel that the client holds, or will hold once the transport has answered. -/
def holds (moment : ClientMoment) : Option ChannelId :=
  match moment.entered with
  | some id => some id
  | none => moment.core.channel

/-- The job that a step takes from the queue, with what it finds. -/
def taken? : ClientMoment × Event → Option (ClientJob × ClientCore)
  | (moment, .serve) =>
      match moment.entered, moment.context.ended, moment.context.queue with
      | none, false, .run job :: _ => some (job, moment.core)
      | _, _, _ => none
  | _ => none

/-- The jobs that were taken, in order, each with what it found. -/
def taken
    (start : ClientMoment)
    (events : List Event) :
    List (ClientJob × ClientCore) :=
  (visits step? start events).filterMap taken?

/-- The job asks the transport for this channel. -/
def Opens
    (id : ChannelId)
    (entry : ClientJob × ClientCore) :
    Prop :=
  ∃ address, entry.1 = .connect (.ok address) ∧ entry.2.AcceptsConnect ∧
    id = ⟨entry.2.transport.nextId⟩

/-- The channel was asked for, and it is held unless the client was made to let go of it. -/
def Traced
    (trail : List (ClientJob × ClientCore))
    (held : Option ChannelId)
    (id : ChannelId) :
    Prop :=
  ∃ front entry back,
    trail = front ++ entry :: back ∧ Opens id entry ∧
      (held = some id ↔ ∀ later ∈ back, ¬ later.2.Releases id later.1)

variable
  {start moment next final : ClientMoment}
  {events : List Event}
  {event : Event}
  {trail : List (ClientJob × ClientCore)}
  {id : ChannelId}

theorem Traced.snoc
    {held after : Option ChannelId}
    {entry : ClientJob × ClientCore}
    (traced : Traced trail held id)
    (kept : after = some id ↔ held = some id ∧ ¬ entry.2.Releases id entry.1) :
    Traced (trail ++ [entry]) after id := by
  obtain ⟨front, opening, back, rfl, opens, holds⟩ := traced
  refine ⟨front, opening, back ++ [entry], by simp, opens, ?_⟩
  rw [kept, holds, List.forall_mem_append, List.forall_mem_singleton]

/-! ## What the serial context does -/

/-- All that the serial context can do in one step. -/
inductive Serves (moment : ClientMoment) : ClientMoment → Prop where
  /-- The transport answers, and the job that asked is done. -/
  | answers
    {id : ChannelId}
    (entered : moment.entered = some id) :
    Serves moment (moment.store id)
  /-- A job asks for a channel. -/
  | enters
    {address : SocketAddress}
    (idle : moment.entered = none)
    (running : moment.context.ended = false)
    (opening : moment.opening? = some address) :
    Serves moment (moment.enter address)
  /-- Any other job is run, or the loop ends. -/
  | runs
    {envelope : Envelope ClientJob}
    {rest : List (Envelope ClientJob)}
    (idle : moment.entered = none)
    (running : moment.context.ended = false)
    (queue : moment.context.queue = envelope :: rest)
    (closed : moment.opening? = none) :
    Serves moment { moment with context := (moment.context.runNext ClientJob.craft).2 }

theorem serves_of_serve?
    (served : moment.serve? = some next) :
    Serves moment next := by
  rw [serve?] at served
  split at served
  · rename_i id entered
    obtain rfl := Option.some.inj served
    exact .answers entered
  · rename_i idle
    split at served
    · cases served
    · rename_i goes
      obtain ⟨running, waiting⟩ :
          moment.context.ended = false ∧ moment.context.queue ≠ [] := by
        simpa using goes
      obtain ⟨envelope, rest, queue⟩ := List.exists_cons_of_ne_nil waiting
      split at served
      · rename_i address opening
        obtain rfl := Option.some.inj served
        exact .enters idle running opening
      · rename_i closed
        obtain rfl := Option.some.inj served
        exact .runs idle running queue closed

theorem acceptsConnect_of_isSome
    {core : ClientCore}
    (leads : (core.machine.current.after? .connectRequested).isSome = true) :
    core.AcceptsConnect := by
  rw [ClientCore.AcceptsConnect]
  cases state : core.machine.current <;> simp_all [ConnectionState.after?]

theorem opens_of_opening?
    {address : SocketAddress}
    (opening : moment.opening? = some address) :
    moment.core.AcceptsConnect ∧
      ∃ rest, moment.context.queue = .run (.connect (.ok address)) :: rest := by
  rw [opening?] at opening
  split at opening
  · rename_i other rest queue
    split at opening
    · rename_i accepts
      obtain rfl := Option.some.inj opening
      exact ⟨acceptsConnect_of_isSome accepts, rest, queue⟩
    · cases opening
  · cases opening

/-- A job that asks for no channel hands nothing in. -/
theorem submitted_of_opening?
    {task : ClientJob}
    {rest : List (Envelope ClientJob)}
    (closed : moment.opening? = none)
    (queue : moment.context.queue = .run task :: rest)
    (stopped : Bool) :
    (task.run stopped moment.core).submitted = [] := by
  cases task with
  | connect target =>
      cases stopped with
      | true => rfl
      | false =>
          show (moment.core.connect target).2 = []
          cases leads : moment.core.machine.current.after? .connectRequested with
          | none => rw [ClientCore.connect, Machine.apply_of_none leads]
          | some state =>
              rw [ClientCore.connect, Machine.apply_of_some leads]
              cases target with
              | error cause => rfl
              | ok address =>
                  rw [opening?, queue] at closed
                  simp [leads] at closed
  | _ => rfl

/-- What a job that asks for no channel comes to. -/
theorem runNext_of_closed
    {task : ClientJob}
    {rest : List (Envelope ClientJob)}
    (running : moment.context.ended = false)
    (queue : moment.context.queue = .run task :: rest)
    (closed : moment.opening? = none) :
    (moment.context.runNext ClientJob.craft).2.state = (task.run false moment.core).state ∧
      (moment.context.runNext ClientJob.craft).2.queue = rest := by
  have alone := submitted_of_opening? closed queue moment.context.stopped
  rw [core] at alone
  rw [← ClientJob.state_run moment.context.stopped]
  simp only [core, Serial.runNext, running, queue, Serial.perform, ClientJob.craft, alone]
  exact ⟨rfl, List.append_nil _⟩

/-- What the end of the loop comes to. -/
theorem runNext_of_stop
    {rest : List (Envelope ClientJob)}
    (running : moment.context.ended = false)
    (queue : moment.context.queue = .stop :: rest) :
    (moment.context.runNext ClientJob.craft).2.state = moment.core ∧
      (moment.context.runNext ClientJob.craft).2.queue = rest := by
  simp [Serial.runNext, running, queue, core]

/-! ## What steps do -/

/-- A job is in the queue, or about to be put there. -/
def Waits
    (moment : ClientMoment)
    (job : ClientJob) :
    Prop :=
  .run job ∈ moment.context.queue ∨ job ∈ moment.cleared ∨ .run job ∈ moment.ending

/-- The transport reported something on a channel, and this is the job that the channel's
handler hands in. -/
def Reported
    (moment : ClientMoment)
    (event : Event)
    (job : ClientJob) :
    Prop :=
  ∃ id address report,
    event = .report id report ∧ moment.handlers.find? id = some address ∧
      report.job? id address = some job

/-- All that a step can do to what the serial context works on. -/
inductive Steps (moment : ClientMoment) : Event → ClientMoment → Prop where
  /-- No job begins or ends. -/
  | beside
    {event : Event}
    {next : ClientMoment}
    (untaken : taken? (moment, event) = none)
    (machine : next.core.machine = moment.core.machine)
    (holds : next.holds = moment.holds)
    (numbers : moment.core.transport.nextId ≤ next.core.transport.nextId)
    (handlers : next.handlers = moment.handlers) :
    Steps moment event next
  /-- A job asks for a channel. -/
  | enters
    {address : SocketAddress}
    (taken : taken? (moment, .serve) = some (.connect (.ok address), moment.core))
    (accepted : moment.core.AcceptsConnect) :
    Steps moment .serve (moment.enter address)
  /-- Any other job is run. -/
  | runs
    {next : ClientMoment}
    {task : ClientJob}
    (taken : taken? (moment, .serve) = some (task, moment.core))
    (idle : next.entered = none)
    (core : next.core = (task.run false moment.core).state)
    (handlers : next.handlers = moment.handlers) :
    Steps moment .serve next

/-- All that a step can do.  A job that waits then waited before, or it is asked for, or it is
the last one, or it tells of a report. -/
structure Does
    (moment : ClientMoment)
    (event : Event)
    (next : ClientMoment) : Prop where
  steps : Steps moment event next
  waits :
    ∀ job, next.Waits job →
      moment.Waits job ∨ job.about? = none ∨ moment.Reported event job

/-- Handing in and stopping are no matter of what the jobs work on. -/
theorem steps_of_core
    (untaken : taken? (moment, event) = none)
    (core : next.core = moment.core)
    (entered : next.entered = moment.entered)
    (handlers : next.handlers = moment.handlers) :
    Steps moment event next := by
  refine .beside untaken (congrArg ClientCore.machine core) ?_ ?_ handlers
  · rw [holds, holds, entered, core]
  · exact Nat.le_of_eq (congrArg (·.transport.nextId) core).symm

theorem does_serve (serves : Serves moment next) : Does moment .serve next := by
  have waited
      (cleared : next.cleared = moment.cleared)
      (ending : next.ending = moment.ending)
      (queue : ∀ envelope ∈ next.context.queue, envelope ∈ moment.context.queue)
      (job : ClientJob)
      (waits : next.Waits job) :
      moment.Waits job ∨ job.about? = none ∨ moment.Reported .serve job := by
    rcases waits with queued | there | last
    · exact .inl (.inl (queue _ queued))
    · exact .inl (.inr (.inl (cleared ▸ there)))
    · exact .inl (.inr (.inr (ending ▸ last)))
  cases serves with
  | @answers answered entered =>
      refine ⟨.beside ?_ rfl ?_ (Nat.le_refl _) rfl, waited rfl rfl fun _ => id⟩
      · rw [taken?, entered]
      · rw [holds, holds, entered]
        rfl
  | enters idle running opening =>
      obtain ⟨accepted, rest, queue⟩ := opens_of_opening? opening
      exact ⟨.enters (by rw [taken?, idle, running, queue]) accepted,
        waited rfl rfl fun _ => List.mem_of_mem_tail⟩
  | @runs envelope rest idle running queue closed =>
      cases envelope with
      | stop =>
          obtain ⟨state, left⟩ := runNext_of_stop running queue
          refine ⟨steps_of_core (by rw [taken?, idle, running, queue]) state rfl rfl,
            waited rfl rfl ?_⟩
          rw [left, queue]
          exact fun _ => List.mem_cons_of_mem _
      | run task =>
          obtain ⟨state, left⟩ := runNext_of_closed running queue closed
          refine ⟨.runs (by rw [taken?, idle, running, queue]) idle state rfl,
            waited rfl rfl ?_⟩
          rw [left, queue]
          exact fun _ => List.mem_cons_of_mem _

theorem does_clear
    {job : ClientJob}
    (does : Does moment event next)
    (untaken : taken? (moment, event) = none)
    (comes : job.about? = none ∨ moment.Reported event job) :
    Does moment event (next.clear job) := by
  rw [clear]
  split
  · exact does
  · obtain ⟨steps, waits⟩ := does
    refine ⟨?_, ?_⟩
    · cases steps with
      | beside untaken machine holds numbers handlers =>
          exact .beside untaken machine holds numbers handlers
      | enters taken => cases untaken.symm.trans taken
      | runs taken => cases untaken.symm.trans taken
    · rintro other (queued | cleared | ending)
      · exact waits other (.inl queued)
      · rcases List.mem_append.mp cleared with before | new
        · exact waits other (.inr (.inl before))
        · exact .inr (List.mem_singleton.mp new ▸ comes)
      · exact waits other (.inr (.inr ending))

theorem mem_enqueue
    {σ job : Type}
    {serial : Serial σ job}
    {envelope other : Envelope job}
    (there : other ∈ (serial.enqueue envelope).2.queue) :
    other ∈ serial.queue ∨ other = envelope := by
  rw [Serial.enqueue] at there
  split at there
  · exact .inl there
  · rcases List.mem_append.mp there with before | new
    · exact .inl before
    · exact .inr (List.mem_singleton.mp new)

/-- These are all the steps that there are. -/
theorem does_of_step?
    (stepped : moment.step? event = some next) :
    Does moment event next := by
  cases event with
  | ask job =>
      simp only [step?] at stepped
      split at stepped
      · rename_i request
        obtain rfl := Option.some.inj stepped
        refine does_clear ⟨steps_of_core rfl rfl rfl rfl, fun _ => .inl⟩ rfl (.inl ?_)
        cases job with
        | connect target | send message | disconnect => rfl
        | _ => cases request
      · cases stepped
  | report id report =>
      simp only [step?] at stepped
      split at stepped
      · cases stepped
      · rename_i address found
        obtain rfl := Option.some.inj stepped
        have marks :
            Does moment (.report id report)
              (moment.alter fun core =>
                { core with transport := core.transport.alter id report.mark }) :=
          ⟨.beside rfl rfl rfl (Nat.le_refl _) rfl, fun _ => .inl⟩
        split
        · exact marks
        · rename_i job tells
          exact does_clear marks rfl (.inr ⟨id, address, report, rfl, found, tells⟩)
  | put index =>
      simp only [step?] at stepped
      split at stepped
      · cases stepped
      · rename_i job there
        obtain rfl := Option.some.inj stepped
        refine ⟨steps_of_core rfl (moment.context.state_enqueue _) rfl rfl, ?_⟩
        rintro other (queued | cleared | ending)
        · rcases mem_enqueue queued with before | same
          · exact .inl (.inl before)
          · rw [Envelope.run.inj same]
            exact .inl (.inr (.inl (List.mem_of_getElem? there)))
        · exact .inl (.inr (.inl (List.mem_of_mem_eraseIdx cleared)))
        · exact .inl (.inr (.inr ending))
  | refuse =>
      simp only [step?] at stepped
      split at stepped
      · cases stepped
      · obtain rfl := Option.some.inj stepped
        refine ⟨steps_of_core rfl rfl rfl rfl, ?_⟩
        rintro other (queued | cleared | ending)
        · exact .inl (.inl queued)
        · exact .inl (.inr (.inl cleared))
        · obtain rfl : other = .finish := by simpa using ending
          exact .inr (.inl rfl)
  | close =>
      simp only [step?] at stepped
      split at stepped
      · cases stepped
      · rename_i envelope rest more
        obtain rfl := Option.some.inj stepped
        refine ⟨steps_of_core rfl (moment.context.state_enqueue _) rfl rfl, ?_⟩
        rintro other (queued | cleared | ending)
        · rcases mem_enqueue queued with before | same
          · exact .inl (.inl before)
          · exact .inl (.inr (.inr (more ▸ same ▸ List.mem_cons_self)))
        · exact .inl (.inr (.inl cleared))
        · exact .inl (.inr (.inr (more ▸ List.mem_cons_of_mem _ ending)))
  | elsewhere transport crew =>
      simp only [step?] at stepped
      split at stepped
      · rename_i later
        obtain rfl := Option.some.inj stepped
        exact ⟨.beside rfl rfl rfl later rfl, fun _ => .inl⟩
      · cases stepped
  | serve => exact does_serve (serves_of_serve? stepped)

theorem about?_of_job?
    {id : ChannelId}
    {address : SocketAddress}
    {report : Report}
    {job : ClientJob}
    (tells : report.job? id address = some job) :
    job.about? = some id := by
  cases report with
  | read chunk => cases tells
  | _ =>
      obtain rfl := Option.some.inj tells
      rfl

/-! ## What every step keeps -/

theorem entered_of_taken?
    {entry : ClientJob × ClientCore}
    (taken : taken? (moment, event) = some entry) :
    moment.entered = none := by
  cases event with
  | serve =>
      rw [taken?] at taken
      split at taken
      · assumption
      · cases taken
  | _ => cases taken

theorem holds_of_taken?
    {entry : ClientJob × ClientCore}
    (taken : taken? (moment, event) = some entry) :
    moment.holds = moment.core.channel := by
  rw [holds, entered_of_taken? taken]

theorem enter_eq
    (moment : ClientMoment)
    (address : SocketAddress) :
    (moment.enter address).core.machine = moment.core.machine.advance .connectRequested ∧
      (moment.enter address).holds = some ⟨moment.core.transport.nextId⟩ ∧
      (moment.enter address).core.transport.nextId = moment.core.transport.nextId + 1 ∧
      (moment.enter address).handlers =
        moment.handlers.insert ⟨moment.core.transport.nextId⟩ address := by
  refine ⟨rfl, ?_, moment.core.transport.nextId_connect address, ?_⟩
  · exact congrArg some (moment.core.transport.connect_id address)
  · exact congrArg (moment.handlers.insert · address) (moment.core.transport.connect_id address)

theorem nextId_le_steps (steps : Steps moment event next) :
    moment.core.transport.nextId ≤ next.core.transport.nextId := by
  cases steps with
  | beside untaken machine holds numbers handlers => exact numbers
  | @enters address taken accepted =>
      rw [(moment.enter_eq address).2.2.1]
      exact Nat.le_succ _
  | runs taken idle core handlers =>
      rw [core]
      exact (ClientJob.later_run false _ moment.core).nextId

/-- The handler of a channel stays. -/
theorem handler_of_steps
    {address : SocketAddress}
    (steps : Steps moment event next)
    (found : moment.handlers.find? id = some address)
    (older : id.number < moment.core.transport.nextId) :
    next.handlers.find? id = some address := by
  cases steps with
  | beside untaken machine holds numbers handlers => rwa [handlers]
  | @enters other taken accepted =>
      have different : id ≠ ⟨moment.core.transport.nextId⟩ := by
        rintro rfl
        exact Nat.lt_irrefl _ older
      rw [(moment.enter_eq other).2.2.2, Table.find?_insert, if_neg different]
      exact found
  | runs taken idle core handlers => rwa [handlers]

/-- Every channel that the transport has a handler of was asked for, and it is held unless the
client was made to let go of it.  Jobs that tell of reports are about such channels. -/
structure Sound
    (trail : List (ClientJob × ClientCore))
    (moment : ClientMoment) : Prop where
  older :
    ∀ id address, moment.handlers.find? id = some address →
      id.number < moment.core.transport.nextId
  traced :
    ∀ id address, moment.handlers.find? id = some address → Traced trail moment.holds id
  known :
    ∀ job id, moment.Waits job → job.about? = some id →
      ∃ address, moment.handlers.find? id = some address
  apart : moment.core.machine.current = .disconnected → moment.holds = none

theorem sound_start
    (names : String × String)
    (settings : ClientSettings)
    (transport : Transport)
    (handler : String → Reaction ClientAction) :
    Sound [] (ClientMoment.start names settings transport handler) where
  older _ _ := nofun
  traced _ _ := nofun
  known := by
    rintro job id (queued | cleared | ending)
    · cases queued
    · cases cleared
    · cases ending
  apart _ := rfl

theorem Sound.enters
    {address : SocketAddress}
    (sound : Sound trail moment)
    (accepted : moment.core.AcceptsConnect)
    (id : ChannelId)
    (other : SocketAddress)
    (found : (moment.enter address).handlers.find? id = some other) :
    id.number < (moment.enter address).core.transport.nextId ∧
      Traced (trail ++ [(.connect (.ok address), moment.core)])
        (moment.enter address).holds id := by
  obtain ⟨-, holds, numbers, handlers⟩ := moment.enter_eq address
  rw [handlers, Table.find?_insert] at found
  rw [holds, numbers]
  by_cases new : id = ⟨moment.core.transport.nextId⟩
  · refine ⟨by rw [new]; exact Nat.lt_succ_self _, trail, _, [], rfl, ?_, by simp [new]⟩
    exact ⟨address, rfl, accepted, new⟩
  · rw [if_neg new] at found
    refine ⟨Nat.lt_succ_of_lt (sound.older id other found), ?_⟩
    refine (sound.traced id other found).snoc ?_
    have releases : moment.core.Releases id (.connect (.ok address)) :=
      ⟨accepted, address, rfl⟩
    have different : some (⟨moment.core.transport.nextId⟩ : ChannelId) ≠ some id :=
      fun same => new (Option.some.inj same).symm
    simp [different, releases]

theorem Sound.step
    (sound : Sound trail moment)
    (stepped : moment.step? event = some next) :
    Sound (trail ++ (taken? (moment, event)).toList) next := by
  obtain ⟨steps, waited⟩ := does_of_step? stepped
  have known :
      ∀ job id, next.Waits job → job.about? = some id →
        ∃ address, next.handlers.find? id = some address := by
    intro job id waits about
    rcases waited job waits with before | nothing | ⟨other, address, report, -, found, tells⟩
    · obtain ⟨address, found⟩ := sound.known job id before about
      exact ⟨address, handler_of_steps steps found (sound.older id address found)⟩
    · exact nomatch about.symm.trans nothing
    · obtain rfl := Option.some.inj (about.symm.trans (about?_of_job? tells))
      exact ⟨address, handler_of_steps steps found (sound.older _ address found)⟩
  cases steps with
  | beside untaken machine holds numbers handlers =>
      rw [untaken, Option.toList_none, List.append_nil]
      refine ⟨?_, ?_, known, ?_⟩
      · rw [handlers]
        exact fun id address found => Nat.lt_of_lt_of_le (sound.older id address found) numbers
      · rw [handlers, holds]
        exact sound.traced
      · rw [machine, holds]
        exact sound.apart
  | @enters address taken accepted =>
      rw [taken, Option.toList_some]
      refine ⟨?_, ?_, known, ?_⟩
      · exact fun id other found => (sound.enters accepted id other found).1
      · exact fun id other found => (sound.enters accepted id other found).2
      · rw [(moment.enter_eq address).1, ClientCore.advance_connect accepted]
        exact nofun
  | @runs _ task taken idle core handlers =>
      have holds := holds_of_taken? taken
      have apart := sound.apart
      have moves := moment.core.moves_run task
      have after : next.holds = (task.run false moment.core).state.channel := by
        rw [ClientMoment.holds, idle, core]
      rw [holds] at apart
      rw [taken, Option.toList_some]
      refine ⟨?_, ?_, known, ?_⟩
      · rw [handlers, core]
        have grown := (ClientJob.later_run false task moment.core).nextId
        exact fun id address found => Nat.lt_of_lt_of_le (sound.older id address found) grown
      · rw [handlers]
        intro id address found
        refine (sound.traced id address found).snoc ?_
        rw [holds, after]
        exact moves.holds_iff apart (sound.older id address found)
      · rw [core, after]
        exact moves.apart apart

theorem taken_snoc
    (ran : events.foldlM step? start = some final)
    (event : Event) :
    taken start (events ++ [event]) = taken start events ++ (taken? (final, event)).toList := by
  rw [taken, visits_snoc ran, List.filterMap_append]
  cases entry : taken? (final, event) with
  | none => simp [entry, taken]
  | some entry => simp [entry, taken]

theorem sound_run
    (starts : Sound [] start)
    (ran : events.foldlM step? start = some final) :
    Sound (taken start events) final := by
  induction ran using foldlM_induction with
  | none => exact starts
  | snoc events event between final before stepped ih =>
      rw [taken_snoc before]
      exact ih.step stepped

/-! ## What jobs lead to -/

/-- What others see of a client, and the channel that it holds. -/
def view (moment : ClientMoment) : Machine × Option ChannelId :=
  (moment.core.machine, moment.holds)

/-- Jobs lead from one view to another, each from where the one before led to. -/
def Leads :
    Machine × Option ChannelId →
      List (ClientJob × ClientCore) → Machine × Option ChannelId → Prop
  | before, [], after => after = before
  | before, (job, core) :: rest, after =>
      (core.machine, core.channel) = before ∧
        Leads ((job.run false core).state.machine, (job.run false core).state.channel) rest after

theorem Leads.append
    {first second third : Machine × Option ChannelId}
    {front back : List (ClientJob × ClientCore)}
    (leads : Leads first front second)
    (goes : Leads second back third) :
    Leads first (front ++ back) third := by
  induction front generalizing first with
  | nil =>
      obtain rfl : second = first := leads
      exact goes
  | cons entry front ih => exact ⟨leads.1, ih leads.2⟩

theorem leads_steps (steps : Steps moment event next) :
    Leads moment.view (taken? (moment, event)).toList next.view := by
  cases steps with
  | beside untaken machine holds numbers handlers =>
      rw [untaken]
      exact Prod.ext machine holds
  | @enters address taken accepted =>
      obtain ⟨machine, channel, -⟩ := ClientCore.connect_of_ok accepted address
      obtain ⟨entered, holds, -⟩ := moment.enter_eq address
      rw [taken]
      refine ⟨Prod.ext rfl (holds_of_taken? taken).symm, ?_⟩
      exact Prod.ext (entered.trans machine.symm) (holds.trans channel.symm)
  | @runs _ task taken idle core handlers =>
      rw [taken]
      refine ⟨Prod.ext rfl (holds_of_taken? taken).symm, ?_⟩
      rw [view, holds, idle, core]
      rfl

theorem leads_run (ran : events.foldlM step? start = some final) :
    Leads start.view (taken start events) final.view := by
  induction ran using foldlM_induction with
  | none => rfl
  | snoc events event between final before stepped ih =>
      rw [taken_snoc before]
      exact ih.append (leads_steps (does_of_step? stepped).steps)

/-! ## What is told of a new channel -/

theorem waits_of_taken?
    {entry : ClientJob × ClientCore}
    (taken : taken? (moment, event) = some entry) :
    moment.Waits entry.1 := by
  cases event with
  | serve =>
      rw [taken?] at taken
      split at taken
      · rename_i queue
        obtain rfl := Option.some.inj taken
        exact .inl (queue ▸ List.mem_cons_self)
      · cases taken
  | _ => cases taken

/-- Whatever job is about a channel was handed in for a report on that channel since it was
asked for. -/
structure Tells
    (id : ChannelId)
    (address : SocketAddress)
    (events : List Event)
    (trail : List (ClientJob × ClientCore))
    (moment : ClientMoment) : Prop where
  older : id.number < moment.core.transport.nextId
  handler : moment.handlers.find? id = some address
  waits :
    ∀ job, moment.Waits job → job.about? = some id →
      ∃ report, .report id report ∈ events ∧ report.job? id address = some job
  ran :
    ∀ entry ∈ trail, entry.1.about? = some id →
      ∃ report, .report id report ∈ events ∧ report.job? id address = some entry.1

theorem tells_enter
    {address : SocketAddress}
    (sound : Sound trail moment) :
    Tells ⟨moment.core.transport.nextId⟩ address [] [] (moment.enter address) := by
  obtain ⟨-, -, numbers, handlers⟩ := moment.enter_eq address
  refine ⟨?_, ?_, fun job waits about => ?_, fun _ => nofun⟩
  · rw [numbers]
    exact Nat.lt_succ_self _
  · rw [handlers, Table.find?_insert, if_pos rfl]
  · have before : moment.Waits job := by
      rcases waits with queued | there
      · exact .inl (List.mem_of_mem_tail queued)
      · exact .inr there
    obtain ⟨other, found⟩ := sound.known job _ before about
    exact (Nat.lt_irrefl _ (sound.older _ other found)).elim

theorem Tells.step
    {address : SocketAddress}
    (told : Tells id address events trail moment)
    (stepped : moment.step? event = some next) :
    Tells id address (events ++ [event]) (trail ++ (taken? (moment, event)).toList) next := by
  obtain ⟨steps, waited⟩ := does_of_step? stepped
  have grown :
      ∀ {job},
        (∃ report, .report id report ∈ events ∧ report.job? id address = some job) →
          ∃ report,
            .report id report ∈ events ++ [event] ∧ report.job? id address = some job := by
    rintro job ⟨report, there, tells⟩
    exact ⟨report, List.mem_append_left _ there, tells⟩
  refine ⟨?_, handler_of_steps steps told.handler told.older, ?_, ?_⟩
  · exact Nat.lt_of_lt_of_le told.older (nextId_le_steps steps)
  · intro job waits about
    rcases waited job waits with before | nothing | ⟨other, found, report, rfl, here, tells⟩
    · exact grown (told.waits job before about)
    · exact nomatch about.symm.trans nothing
    · obtain rfl := Option.some.inj (about.symm.trans (about?_of_job? tells))
      obtain rfl := Option.some.inj (told.handler.symm.trans here)
      exact ⟨report, by simp, tells⟩
  · intro entry there about
    rcases List.mem_append.mp there with earlier | now
    · exact grown (told.ran entry earlier about)
    · have taken := Option.mem_toList.mp now
      exact grown (told.waits entry.1 (waits_of_taken? taken) about)

theorem tells_run
    {address : SocketAddress}
    (starts : Tells id address [] [] start)
    (ran : events.foldlM step? start = some final) :
    Tells id address events (taken start events) final := by
  induction ran using foldlM_induction with
  | none => exact starts
  | snoc events event between final before stepped ih =>
      rw [taken_snoc before]
      exact ih.step stepped

/-! ## What the serial context can do -/

/-- While no job is under way, what is first in the queue can be taken. -/
theorem exists_serve
    {task : ClientJob}
    {rest : List (Envelope ClientJob)}
    (idle : moment.entered = none)
    (running : moment.context.ended = false)
    (queue : moment.context.queue = .run task :: rest) :
    ∃ next,
      moment.step? .serve = some next ∧ taken moment [.serve] = [(task, moment.core)] := by
  have takes : taken? (moment, .serve) = some (task, moment.core) := by
    rw [taken?, idle, running, queue]
  have alone : taken moment [.serve] = [(task, moment.core)] := by
    rw [taken, visits]
    split
    · simp [takes]
    · simp [takes, visits]
  simp only [step?, serve?, idle, running, queue, List.isEmpty_cons, Bool.or_self,
    Bool.false_eq_true, if_false]
  split
  · exact ⟨_, rfl, alone⟩
  · exact ⟨_, rfl, alone⟩

/-- What is first in the queue can be taken, at the latest when the transport has answered. -/
theorem exists_takes
    {task : ClientJob}
    {rest : List (Envelope ClientJob)}
    (running : moment.context.ended = false)
    (queue : moment.context.queue = .run task :: rest) :
    ∃ (events : List Event) (final : ClientMoment),
      events.foldlM step? moment = some final ∧ (taken moment events).map (·.1) = [task] := by
  cases entered : moment.entered with
  | none =>
      obtain ⟨next, served, takes⟩ := exists_serve entered running queue
      refine ⟨[.serve], next, ?_, by rw [takes]; rfl⟩
      rw [List.foldlM_cons, served]
      rfl
  | some id =>
      have answers : moment.step? .serve = some (moment.store id) := by
        rw [step?, serve?, entered]
      have nothing : taken? (moment, .serve) = none := by rw [taken?, entered]
      obtain ⟨next, served, takes⟩ :=
        exists_serve (show (moment.store id).entered = none from rfl) running queue
      refine ⟨[.serve, .serve], next, ?_, ?_⟩
      · rw [List.foldlM_cons, answers]
        show ((moment.store id).step? .serve).bind pure = some next
        rw [served]
        rfl
      · have behind :
            taken moment [.serve, .serve] = taken (moment.store id) [.serve] := by
          rw [taken, visits, answers, List.filterMap_cons_none nothing]
          rfl
        rw [behind, takes]
        rfl

theorem enter_of_opening?
    {address : SocketAddress}
    (idle : moment.entered = none)
    (opening : moment.opening? = some address)
    (served : moment.step? .serve = some next) :
    next = moment.enter address := by
  cases serves_of_serve? served with
  | answers entered => cases idle.symm.trans entered
  | @enters other _ _ same => rw [Option.some.inj (opening.symm.trans same)]
  | runs _ _ _ closed => cases opening.symm.trans closed

/-! ## Jobs that are run whole -/

/-- What the job that asks for a channel comes to if nothing happens meanwhile. -/
theorem runNext_of_opening?
    {address : SocketAddress}
    (running : moment.context.ended = false)
    (opening : moment.opening? = some address) :
    let asked := moment.core.transport.connect address
    (moment.context.runNext ClientJob.craft).2 =
      { moment.context with
        queue :=
          moment.context.queue.tail ++
            (if moment.context.stopped then []
              else asked.2.1.toList.map fun reason =>
                .run (.connectFailed asked.1 (.connect address reason)))
        state :=
          { moment.core.advance .connectRequested with
            channel := some asked.1
            transport := asked.2.2 } } := by
  intro asked
  obtain ⟨accepted, rest, queue⟩ := opens_of_opening? opening
  have connects := ClientCore.connect_eq_of_ok accepted address
  rw [core] at connects
  simp only [Serial.runNext, running, queue, Serial.perform, ClientJob.craft, ClientJob.run,
    connects]
  cases moment.context.stopped with
  | true => simp [asked, core]
  | false => simp [asked, core]

/-- The transport reports a failure from inside the request, and the job that tells of it is put
into the queue before the transport has answered. -/
theorem exists_fails
    (address : SocketAddress)
    (reason : String)
    (taking : moment.context.stopped = false) :
    let entered := moment.enter address
    let id := (moment.core.transport.connect address).1
    let job : ClientJob := .connectFailed id (.connect address reason)
    ∃ events : List Event,
      events.foldlM step? entered =
        some { entered with context := (entered.context.enqueue (.run job)).2 } := by
  intro entered id job
  have found : entered.handlers.find? id = some address := by
    rw [show entered.handlers = moment.handlers.insert id address from rfl, Table.find?_insert,
      if_pos rfl]
  have unchanged :
      (entered.alter fun core =>
        { core with
          transport := core.transport.alter id (Report.connectFailed reason false).mark }) =
        entered := by
    simp [alter, Report.mark]
  let reported : ClientMoment := { entered with cleared := moment.cleared ++ [job] }
  have reports : entered.step? (.report id (.connectFailed reason false)) = some reported := by
    have clears : entered.context.stopped = false := taking
    simp only [step?, found, Report.job?, unchanged, clear, clears, Bool.false_eq_true, if_false]
    rfl
  have puts :
      reported.step? (.put moment.cleared.length) =
        some { entered with context := (entered.context.enqueue (.run job)).2 } := by
    have last : (moment.cleared ++ [job]).eraseIdx moment.cleared.length = moment.cleared := by
      simp [List.eraseIdx_append]
    simp only [step?, reported, List.getElem?_concat_length, last]
    rfl
  refine ⟨[.report id (.connectFailed reason false), .put moment.cleared.length], ?_⟩
  rw [List.foldlM_cons, reports]
  show (reported.step? _).bind pure = _
  rw [puts]
  rfl

/-- Whatever job the serial context runs, it can be run step by step: where the transport
reports a failure from inside the request, before the job is done. -/
theorem exists_runNext
    (idle : moment.entered = none)
    (running : moment.context.ended = false)
    (waiting : moment.context.queue ≠ []) :
    ∃ events : List Event,
      events.foldlM step? moment =
        some
          { moment with
            context := (moment.context.runNext ClientJob.craft).2
            handlers :=
              match moment.opening? with
              | some address =>
                  moment.handlers.insert (moment.core.transport.connect address).1 address
              | none => moment.handlers } := by
  cases opening : moment.opening? with
  | none =>
      refine ⟨[.serve], ?_⟩
      simp [step?, serve?, idle, running, waiting, opening]
  | some address =>
      have enters : moment.step? .serve = some (moment.enter address) := by
        simp [step?, serve?, idle, running, waiting, opening]
      rw [runNext_of_opening? running opening]
      cases stopped : moment.context.stopped with
      | true =>
          refine ⟨[.serve, .serve], ?_⟩
          rw [List.foldlM_cons, enters]
          simp [step?, serve?, enter, store, alter, idle]
      | false =>
          cases failure : (moment.core.transport.connect address).2.1 with
          | none =>
              refine ⟨[.serve, .serve], ?_⟩
              rw [List.foldlM_cons, enters]
              simp [step?, serve?, enter, store, alter, idle]
          | some reason =>
              obtain ⟨events, went⟩ := exists_fails address reason stopped
              refine ⟨.serve :: (events ++ [.serve]), ?_⟩
              rw [List.foldlM_cons, enters]
              simp only [Option.bind_eq_bind, Option.bind_some, List.foldlM_append, went]
              simp [step?, serve?, enter, store, alter, idle, Serial.enqueue, running]

/-! ## Main result -/

theorem connectFailed_of_connecting
    {core : ClientCore}
    {machine : Machine}
    {cause : Fault}
    (found : (core.machine, core.channel) = (machine, some id))
    (connecting : machine.current = .connecting) :
    (core.connectFailed id cause).machine =
        { current := .failed cause, cell := machine.cell.publish (.failed cause) } ∧
      (core.connectFailed id cause).channel = none := by
  obtain ⟨rfl, held⟩ := Prod.mk.inj found
  have current : core.isCurrent id = true := (core.isCurrent_iff id).mpr held
  have leads : core.machine.current.after? (.connectFailed cause) = some (.failed cause) := by
    rw [connecting]
    rfl
  have other : core.machine.current ≠ .disconnecting := by
    rw [connecting]
    exact nofun
  simp [ClientCore.connectFailed, current, ClientCore.note, other, Machine.advance,
    Machine.apply_of_some leads]

/-- Behind a job that asks for a channel nothing is run but the job that tells that there will
be no connection. -/
theorem fails_of_run
    {address : SocketAddress}
    {cause : Fault}
    (sound : Sound trail moment)
    (accepted : moment.core.AcceptsConnect)
    (ran : events.foldlM step? (moment.enter address) = some final)
    (alone :
      (taken (moment.enter address) events).map (·.1) =
        [.connectFailed ⟨moment.core.transport.nextId⟩ cause]) :
    final.core.machine =
        { current := .failed cause
          cell := (moment.core.machine.cell.publish .connecting).publish (.failed cause) } ∧
      final.core.channel = none ∧
      ∃ reason marks,
        cause = .connect address reason ∧
          .report ⟨moment.core.transport.nextId⟩ (.connectFailed reason marks) ∈ events := by
  obtain ⟨machine, holds, -⟩ := moment.enter_eq address
  rw [ClientCore.advance_connect accepted] at machine
  have leads := leads_run ran
  obtain ⟨⟨task, core⟩, takes, rfl⟩ := List.map_eq_singleton_iff.mp alone
  rw [takes] at leads
  obtain ⟨found, leads⟩ := leads
  have view : (core.machine, core.channel) = (_, some ⟨moment.core.transport.nextId⟩) :=
    found.trans (Prod.ext machine holds)
  obtain ⟨failed, gone⟩ := connectFailed_of_connecting view rfl
  have finalHolds : final.holds = none := (congrArg Prod.snd leads).trans gone
  refine ⟨(congrArg Prod.fst leads).trans failed, ?_, ?_⟩
  · rw [ClientMoment.holds] at finalHolds
    split at finalHolds
    · cases finalHolds
    · exact finalHolds
  · obtain ⟨report, there, tells⟩ :=
      (tells_run (tells_enter sound) ran).ran _ (takes ▸ List.mem_cons_self) rfl
    cases report with
    | connectFailed reason marks =>
        obtain ⟨-, same⟩ := ClientJob.connectFailed.inj (Option.some.inj tells)
        exact ⟨reason, marks, same.symm, there⟩
    | read chunk => cases tells
    | _ => cases Option.some.inj tells

/-- Whenever the transport reports on a channel, from inside the request for it or from
elsewhere, and whatever else is asked for meanwhile: when the job that tells of the report is
about to run, the channel was asked for by an accepted request to connect, and the client holds
it, unless one of the jobs since then made the client let go of it.  Such a job is a request to
connect that was accepted and asked for another channel, one that tells of the end of this one,
or the last job.  What waits first in the queue can be run, and if nothing comes in between it
comes to what the serial context makes of it when it runs a job whole.

So if all that is run behind an accepted request to connect tells that the connection failed,
the client publishes that it is connecting and then that it failed, with the cause that the
transport reported, and holds no channel. -/
theorem heeds_of_run
    {names : String × String}
    {settings : ClientSettings}
    {transport : Transport}
    {handler : String → Reaction ClientAction}
    {events : List Event}
    {moment : ClientMoment}
    (ran : events.foldlM step? (.start names settings transport handler) = some moment) :
    let trail := taken (.start names settings transport handler) events
    (∀ task id rest,
        moment.entered = none → moment.context.queue = .run task :: rest →
          task.about? = some id →
            ∃ front entry back,
              trail = front ++ entry :: back ∧ Opens id entry ∧
                (moment.core.channel = some id ↔
                  ∀ later ∈ back, ¬ later.2.Releases id later.1)) ∧
      (∀ task rest,
        moment.context.ended = false → moment.context.queue = .run task :: rest →
          ∃ (more : List Event) (final : ClientMoment),
            more.foldlM step? moment = some final ∧ (taken moment more).map (·.1) = [task]) ∧
      (moment.entered = none → moment.context.ended = false → moment.context.queue ≠ [] →
        ∃ more : List Event,
          more.foldlM step? moment =
            some
              { moment with
                context := (moment.context.runNext ClientJob.craft).2
                handlers :=
                  match moment.opening? with
                  | some address =>
                      moment.handlers.insert (moment.core.transport.connect address).1 address
                  | none => moment.handlers }) ∧
      ∀ address next,
        moment.entered = none → moment.opening? = some address →
          moment.step? .serve = some next →
            ∀ later final,
              later.foldlM step? next = some final →
                let id : ChannelId := ⟨moment.core.transport.nextId⟩
                let connecting := moment.core.machine.cell.publish .connecting
                (taken next later = [] →
                  final.core.machine = { current := .connecting, cell := connecting }) ∧
                ∀ cause,
                  (taken next later).map (·.1) = [.connectFailed id cause] →
                    final.core.machine =
                        { current := .failed cause
                          cell := connecting.publish (.failed cause) } ∧
                      final.core.channel = none ∧
                      ∃ reason marks,
                        cause = .connect address reason ∧
                          .report id (.connectFailed reason marks) ∈ later := by
  intro trail
  have sound : Sound trail moment :=
    sound_run (sound_start names settings transport handler) ran
  refine ⟨?_, fun task rest running queue => exists_takes running queue, exists_runNext, ?_⟩
  · intro task id rest idle queue about
    have waits : moment.Waits task := .inl (queue ▸ List.mem_cons_self)
    obtain ⟨address, found⟩ := sound.known task id waits about
    have traced := sound.traced id address found
    rw [holds, idle] at traced
    exact traced
  · intro address next idle opening served later final went id connecting
    obtain ⟨accepted, rest, queue⟩ := opens_of_opening? opening
    obtain rfl : next = moment.enter address := enter_of_opening? idle opening served
    refine ⟨fun nothing => ?_, fun cause alone => fails_of_run sound accepted went alone⟩
    have leads := leads_run went
    rw [nothing] at leads
    rw [show final.core.machine = (moment.enter address).core.machine from
      congrArg Prod.fst leads, (moment.enter_eq address).1, ClientCore.advance_connect accepted]

/-- A transport that was stopped reports from inside the request that there will be no
connection. -/
theorem heeds_of_run_stopped :
    let client : ClientMoment := .start ("client", "crew") {} {} fun _ => {}
    let address : SocketAddress := { ip := .v4 .unspecified, port := 80 }
    let cause : Fault := .connect address "event loop stopped"
    let events : List Event := [.ask (.connect (.ok address)), .put 0]
    let later : List Event :=
      [.report ⟨1⟩ (.connectFailed "event loop stopped" true), .put 0, .serve, .serve]
    ∃ moment next final,
      events.foldlM step? client = some moment ∧ moment.step? .serve = some next ∧
        later.foldlM step? next = some final ∧ final.core.channel = none ∧
        final.core.machine.cell.subscriptions.map (·.pending) =
          [[.disconnected, .connecting, .failed cause]] := by
  intro client address cause events later
  refine ⟨_, _, _, rfl, rfl, rfl, ?_⟩
  obtain ⟨-, -, -, fails⟩ :=
    heeds_of_run
      (show events.foldlM step? (.start ("client", "crew") {} {} fun _ => {}) = some _ from rfl)
  obtain ⟨shown, gone, -⟩ := (fails address _ rfl rfl rfl later _ rfl).2 cause rfl
  exact ⟨gone, by rw [shown]; rfl⟩

end ClientMoment

end LineProtocol
