import Mathlib.Data.List.Forall2
import LineProtocol.Proofs.Dispatch.Crew
import LineProtocol.Proofs.Serial.Keeping
import LineProtocol.Proofs.Shutdown.Phases

/-!
# Handlers in threads of their own

A handler runs beside the serial context.  A thread takes a message up, asks for
things while it is busy with it, and is done at some time.  Whatever it asks for is
handed in like any other job and waits behind all that was handed in before.

`Staff` says how a kind of session is worked on by threads.  `Staffed` is a session
and its callers together with marks: for each message that was handed over, for each
thread that is busy and for each job that waits, the connection on which the message
was read.  Marks are kept for the record; nothing that happens depends on them.  The
record is complete, as `Recorded` says.
-/

namespace LineProtocol

/-- How handlers work on a kind of session. -/
structure Staff (σ core job ρ κ step message action : Type) where
  closedown : Closedown σ core job ρ κ step
  crew : σ → Crew message
  /-- The session with another crew. -/
  withCrew : σ → Crew message → σ
  /-- The handler is given a message. -/
  given : σ → message → σ
  /-- The job that does what the handler of a message asks for. -/
  jobOf : σ → message → action → job
  /-- The connection that a step brings octets of. -/
  reads? : step → Option ChannelId

/-- What a thread does. -/
inductive Act (action : Type) where
  /-- It takes up the first message that waits. -/
  | take
  /-- The handler of its message asks for something. -/
  | ask (action : action)
  /-- The handler ends. -/
  | finish (outcome : HandlerOutcome)
  deriving Repr, DecidableEq

/-- A session, its callers, and whose messages its threads work on. -/
structure Staffed (σ κ : Type) where
  callers : Callers σ κ
  /-- The connections of the messages that were handed over, in order. -/
  sources : List ChannelId := []
  /-- The connection of the message that a thread is busy with. -/
  busy : Nat → Option ChannelId := fun _ => none
  /-- For all that waits in the context's queue, the connection of the message whose
  handler asked for it, if one did. -/
  origins : List (Option ChannelId) := []

/-- What happens, in any order. -/
inductive Staffed.Event (step action : Type) where
  | turn (turn : Turn step)
  | thread (number : Nat) (act : Act action)

namespace Staffed

variable {σ κ : Type}

/-- The connection is one that a message was read on, and perhaps one that a thread works on
or that led to a job that waits. -/
def Marks
    (staffed : Staffed σ κ)
    (id : ChannelId) :
    Prop :=
  id ∈ staffed.sources ∨ (∃ number, staffed.busy number = some id) ∨
    some id ∈ staffed.origins

end Staffed

namespace Staff

variable {σ core job ρ κ step message action : Type}

section

variable (staff : Staff σ core job ρ κ step message action)

/-- Lets a thread act, if it can. -/
def act?
    (session : σ)
    (number : Nat) :
    Act action → Option σ
  | .take =>
      match (staff.crew session).queue, (staff.crew session).take? number with
      | message :: _, some crew => some (staff.given (staff.withCrew session crew) message)
      | _, _ => none
  | .ask action =>
      match (staff.crew session).workers[number]? with
      | some (some message) =>
          some (staff.closedown.withContext session
            ((staff.closedown.context session).submit (staff.jobOf session message action)).2)
      | _ => none
  | .finish outcome =>
      ((staff.crew session).finish? (fun _ => outcome) number).map (staff.withCrew session)

/-- The connection that a turn brings octets of. -/
def turnReads? : Turn step → Option ChannelId
  | .aside (.act step) => staff.reads? step
  | _ => none

/-- The connection that an event brings octets of. -/
def read? : Staffed.Event step action → Option ChannelId
  | .turn turn => staff.turnReads? turn
  | .thread _ _ => none

/-- A turn happened: messages of the connection that was read come behind the others,
and no handler asked for the jobs that are new. -/
def turned
    (staffed : Staffed σ κ)
    (turn : Turn step)
    (callers : Callers σ κ) :
    Staffed σ κ :=
  { callers
    sources :=
      match staff.turnReads? turn with
      | some id => staffed.sources.rightpad (staff.crew callers.session).jobs.length id
      | none => staffed.sources
    busy := staffed.busy
    origins :=
      let left :=
        match turn with
        | .serve => staffed.origins.tail
        | _ => staffed.origins
      left.rightpad (staff.closedown.context callers.session).queue.length none }

/-- A thread acted: it has the first message that waits in hand, or the job that it
asked for waits behind the others, or its hands are empty. -/
def acted
    (staffed : Staffed σ κ)
    (number : Nat)
    (act : Act action)
    (session : σ) :
    Staffed σ κ :=
  let before := staffed.callers.session
  let staffed := { staffed with callers := { staffed.callers with session } }
  match act with
  | .take =>
      { staffed with
        busy :=
          Function.update staffed.busy number
            staffed.sources[(staff.crew before).taken.length]? }
  | .ask _ =>
      { staffed with
        origins :=
          staffed.origins.rightpad (staff.closedown.context session).queue.length
            (staffed.busy number) }
  | .finish _ => { staffed with busy := Function.update staffed.busy number none }

/-- Lets something happen, if it may.  Messages are worked on by threads alone. -/
def step?
    (staffed : Staffed σ κ) :
    Staffed.Event step action → Option (Staffed σ κ)
  | .turn (.aside .work) => none
  | .turn turn =>
      (staff.closedown.step? staffed.callers turn).map (staff.turned staffed turn)
  | .thread number act =>
      (staff.act? staffed.callers.session number act).map (staff.acted staffed number act)

/-- Lets things happen one after the other. -/
def run?
    (staffed : Staffed σ κ)
    (events : List (Staffed.Event step action)) :
    Option (Staffed σ κ) :=
  events.foldlM staff.step? staffed

/-- The job that an event runs, with the state that the job finds. -/
def ran? : Staffed σ κ × Staffed.Event step action → Option (job × core)
  | (staffed, .turn turn) => staff.closedown.ran? (staffed.callers, turn)
  | _ => none

/-- The jobs that ran, in order, each with the state that it found. -/
def trail
    (start : Staffed σ κ)
    (events : List (Staffed.Event step action)) :
    List (job × core) :=
  (visits staff.step? start events).filterMap staff.ran?

/-- The context is about to run a job that the handler of a message asked for, which was
read on the connection. -/
def Answers
    (staffed : Staffed σ κ)
    (id : ChannelId)
    (task : job) :
    Prop :=
  (staff.closedown.context staffed.callers.session).next? = some task ∧
    staffed.origins.head? = some (some id)

/-- What is relied on: a closedown's laws, that crews are apart from contexts, and that
no handler asks for the last job. -/
structure Lawful : Prop where
  closedown : staff.closedown.Lawful
  crew_withCrew : ∀ session crew, staff.crew (staff.withCrew session crew) = crew
  crew_given : ∀ session message, staff.crew (staff.given session message) = staff.crew session
  crew_submit :
    ∀ session job,
      staff.crew
          (staff.closedown.withContext session
            ((staff.closedown.context session).submit job).2) =
        staff.crew session
  crew :
    ∀ session crew,
      Serial.Extends (fun _ => False) (staff.closedown.context session)
          (staff.closedown.context (staff.withCrew session crew)) ∧
        staff.closedown.transport
            (staff.closedown.context (staff.withCrew session crew)).state =
          staff.closedown.transport (staff.closedown.context session).state
  given :
    ∀ session message,
      staff.closedown.context (staff.given session message) =
        staff.closedown.context session
  job :
    ∀ session message action, staff.jobOf session message action ≠ staff.closedown.last

end

variable
  {staff : Staff σ core job ρ κ step message action}
  {start staffed next : Staffed σ κ}
  {events : List (Staffed.Event step action)}
  {event : Staffed.Event step action}

theorem session_acted
    (staffed : Staffed σ κ)
    (number : Nat)
    (act : Act action)
    (session : σ) :
    (staff.acted staffed number act session).callers.session = session := by
  cases act with
  | take => rfl
  | ask action => rfl
  | finish outcome => rfl

/-- A turn happens, or a thread acts. -/
theorem step?_cases
    (stepped : staff.step? staffed event = some next) :
    (∃ turn callers,
        event = .turn turn ∧ turn ≠ .aside .work ∧
          staff.closedown.step? staffed.callers turn = some callers ∧
            next = staff.turned staffed turn callers) ∨
      ∃ number act session,
        event = .thread number act ∧
          staff.act? staffed.callers.session number act = some session ∧
            next = staff.acted staffed number act session := by
  unfold step? at stepped
  split at stepped
  · exact nomatch stepped
  · rename_i turn apart
    obtain ⟨callers, happened, rfl⟩ := Option.map_eq_some_iff.mp stepped
    exact .inl ⟨turn, callers, rfl, apart, happened, rfl⟩
  · rename_i number act
    obtain ⟨session, happened, rfl⟩ := Option.map_eq_some_iff.mp stepped
    exact .inr ⟨number, act, session, rfl, happened, rfl⟩

/-- An event that runs a job puts it behind those that ran before. -/
theorem trail_snoc
    (ran : staff.run? start events = some staffed)
    (event : Staffed.Event step action) :
    staff.trail start (events ++ [event]) =
      staff.trail start events ++ (staff.ran? (staffed, event)).toList := by
  rw [trail, visits_snoc ran, List.filterMap_append]
  cases runs : staff.ran? (staffed, event) with
  | none => simp [trail, runs]
  | some entry => simp [trail, runs]

theorem ran?_of_next?
    {task : job}
    (first : (staff.closedown.context staffed.callers.session).next? = some task) :
    staff.ran? (staffed, .turn .serve) =
      some (task, (staff.closedown.context staffed.callers.session).state) := by
  simp only [ran?, Closedown.ran?, first, Option.map_some]

theorem ran?_of_idle
    {turn : Turn step}
    (idle :
      turn = .serve → (staff.closedown.context staffed.callers.session).next? = none) :
    staff.ran? (staffed, .turn turn) = none := by
  cases turn with
  | serve => simp only [ran?, Closedown.ran?, idle rfl, Option.map_none]
  | _ => rfl

/-- What threads ask for is handed in, and they do nothing else to the context. -/
theorem extends_act?
    (lawful : staff.Lawful)
    {session after : σ}
    {number : Nat}
    {act : Act action}
    (acted : staff.act? session number act = some after) :
    Serial.Extends
        (fun job =>
          ∃ action message, act = .ask action ∧ job = staff.jobOf session message action)
        (staff.closedown.context session) (staff.closedown.context after) ∧
      staff.closedown.transport (staff.closedown.context after).state =
        staff.closedown.transport (staff.closedown.context session).state := by
  have crewed : ∀ crew,
      Serial.Extends
          (fun job =>
            ∃ action message, act = .ask action ∧ job = staff.jobOf session message action)
          (staff.closedown.context session)
          (staff.closedown.context (staff.withCrew session crew)) ∧
        staff.closedown.transport
            (staff.closedown.context (staff.withCrew session crew)).state =
          staff.closedown.transport (staff.closedown.context session).state := by
    intro crew
    exact ⟨(lawful.crew session crew).1.mono fun _ => False.elim, (lawful.crew session crew).2⟩
  cases act with
  | take =>
      simp only [act?] at acted
      split at acted
      · rename_i message rest crew waits taken
        obtain rfl := Option.some.inj acted
        rw [lawful.given]
        exact crewed crew
      · exact nomatch acted
  | ask action =>
      simp only [act?] at acted
      split at acted
      · rename_i message works
        obtain rfl := Option.some.inj acted
        rw [lawful.closedown.context_withContext, Serial.state_submit]
        exact ⟨Serial.extends_submit _ ⟨action, message, rfl, rfl⟩, rfl⟩
      · exact nomatch acted
  | finish outcome =>
      obtain ⟨crew, -, rfl⟩ := Option.map_eq_some_iff.mp acted
      exact crewed crew

theorem sound_step?
    (lawful : staff.Lawful)
    (sound : staff.closedown.Sound staffed.callers)
    (stepped : staff.step? staffed event = some next) :
    staff.closedown.Sound next.callers := by
  rcases step?_cases stepped with
    ⟨turn, callers, rfl, -, happened, rfl⟩ | ⟨number, act, session, rfl, happened, rfl⟩
  · exact sound.step lawful.closedown (Closedown.moves_of_step? happened)
  · obtain ⟨longer, same⟩ := extends_act? lawful happened
    have kept : staff.closedown.Sound { staffed.callers with session } := by
      apply sound.extends
      · apply longer.mono
        rintro job ⟨action, message, -, rfl⟩
        exact lawful.job _ message action
      · rw [same]
        exact .refl _
    cases act with
    | take => exact kept
    | ask action => exact kept
    | finish outcome => exact kept

/-! ## Marks -/

theorem mem_rightpad
    {α : Type}
    {value fill : α}
    {values : List α}
    {length : Nat}
    (there : value ∈ values.rightpad length fill) :
    value ∈ values ∨ value = fill := by
  rw [List.rightpad, List.mem_append] at there
  exact there.imp_right List.eq_of_mem_replicate

theorem rightpad_of_append
    {α β : Type}
    {values : List α}
    {before more after : List β}
    (length : values.length = before.length)
    (longer : after = before ++ more)
    (fill : α) :
    values.rightpad after.length fill = values ++ List.replicate more.length fill := by
  rw [List.rightpad, longer, length, List.length_append, Nat.add_sub_cancel_left]

/-- A connection is marked because it was marked before, or because it is read. -/
theorem marks_step?
    (stepped : staff.step? staffed event = some next)
    {id : ChannelId}
    (marks : next.Marks id) :
    staffed.Marks id ∨ staff.read? event = some id := by
  rcases step?_cases stepped with
    ⟨turn, callers, rfl, -, happened, rfl⟩ | ⟨number, act, session, rfl, happened, rfl⟩
  · rcases marks with handed | holds | asked
    · change id ∈ (match staff.turnReads? turn with | some id => _ | none => _) at handed
      cases reads : staff.turnReads? turn with
      | none =>
          rw [reads] at handed
          exact .inl (.inl handed)
      | some read =>
          rw [reads] at handed
          rcases mem_rightpad handed with before | rfl
          · exact .inl (.inl before)
          · exact .inr reads
    · exact .inl (.inr (.inl holds))
    · rcases mem_rightpad asked with before | new
      · left
        right
        right
        cases turn with
        | serve => exact List.mem_of_mem_tail before
        | _ => exact before
      · exact nomatch new
  · left
    cases act with
    | take =>
        rcases marks with handed | ⟨other, holds⟩ | asked
        · exact .inl handed
        · change Function.update staffed.busy number _ other = some id at holds
          by_cases same : other = number
          · subst same
            rw [Function.update_self] at holds
            exact .inl (List.mem_of_getElem? holds)
          · rw [Function.update_of_ne same] at holds
            exact .inr (.inl ⟨other, holds⟩)
        · exact .inr (.inr asked)
    | ask action =>
        rcases marks with handed | holds | asked
        · exact .inl handed
        · exact .inr (.inl holds)
        · rcases mem_rightpad asked with before | same
          · exact .inr (.inr before)
          · exact .inr (.inl ⟨number, same.symm⟩)
    | finish outcome =>
        rcases marks with handed | ⟨other, holds⟩ | asked
        · exact .inl handed
        · change Function.update staffed.busy number none other = some id at holds
          by_cases same : other = number
          · subst same
            rw [Function.update_self] at holds
            exact nomatch holds
          · rw [Function.update_of_ne same] at holds
            exact .inr (.inl ⟨other, holds⟩)
        · exact .inr (.inr asked)

/-! ## The record of messages -/

theorem forall₂_replicate
    {α β : Type}
    {related : α → β → Prop}
    {value : α}
    {others : List β}
    (all : ∀ other ∈ others, related value other) :
    List.Forall₂ related (List.replicate others.length value) others := by
  induction others with
  | nil => exact .nil
  | cons other others ih =>
      exact .cons (all other List.mem_cons_self)
        (ih fun later there => all later (List.mem_cons_of_mem _ there))

/-- Every message that was handed over is on record with its connection, and so is every
message that a thread is busy with. -/
structure Matched
    (agrees : ChannelId → message → Prop)
    (sources : List ChannelId)
    (busy : Nat → Option ChannelId)
    (crew : Crew message) : Prop where
  sources : List.Forall₂ agrees sources crew.jobs
  busy :
    ∀ number message, crew.workers[number]? = some (some message) →
      ∃ id, busy number = some id ∧ agrees id message

section

variable
  {agrees : ChannelId → message → Prop}
  {sources : List ChannelId}
  {busy : Nat → Option ChannelId}
  {crew after : Crew message}

theorem Matched.imp
    {others : ChannelId → message → Prop}
    (matched : Matched agrees sources busy crew)
    (kept : ∀ id message, agrees id message → others id message) :
    Matched others sources busy crew where
  sources := matched.sources.imp kept
  busy number message works := by
    obtain ⟨id, holds, agree⟩ := matched.busy number message works
    exact ⟨id, holds, kept id message agree⟩

theorem Matched.take
    (matched : Matched agrees sources busy crew)
    {number : Nat}
    (takes : crew.take? number = some after) :
    Matched agrees sources (Function.update busy number sources[crew.taken.length]?) after := by
  obtain ⟨task, rest, idle, waiting, rfl⟩ := Crew.take?_cases takes
  have handed : List.Forall₂ agrees sources (crew.taken ++ task :: rest) := by
    rw [← waiting]
    exact matched.sources
  constructor
  · rw [Crew.jobs, List.append_assoc]
    exact handed
  · intro other held works
    by_cases same : other = number
    · subst same
      have inside := (List.getElem?_eq_some_iff.mp idle).1
      rw [List.getElem?_set_self inside, Option.some.injEq, Option.some.injEq] at works
      subst works
      rw [Function.update_self, ← List.head?_drop]
      obtain ⟨id, others, agree, -, rest⟩ :=
        List.forall₂_cons_right_iff.mp (List.forall₂_drop_append _ _ _ handed)
      exact ⟨id, by rw [rest, List.head?_cons], agree⟩
    · rw [List.getElem?_set_ne (Ne.symm same)] at works
      rw [Function.update_of_ne same]
      exact matched.busy other held works

theorem Matched.finish
    (matched : Matched agrees sources busy crew)
    {number : Nat}
    {outcome : message → HandlerOutcome}
    (finishes : crew.finish? outcome number = some after) :
    Matched agrees sources (Function.update busy number none) after := by
  obtain ⟨task, works, rfl⟩ := Crew.finish?_cases finishes
  constructor
  · exact matched.sources
  · intro other held holds
    by_cases same : other = number
    · subst same
      have inside := (List.getElem?_eq_some_iff.mp works).1
      rw [List.getElem?_set_self inside] at holds
      exact nomatch holds
    · rw [List.getElem?_set_ne (Ne.symm same)] at holds
      rw [Function.update_of_ne same]
      exact matched.busy other held holds

end

/-- How the crew goes on when something happens to a session: no message is handed over but
those of a connection that is read, and the threads' hands are as they were. -/
structure Hands
    (agrees : ChannelId → message → Prop)
    (read : Option ChannelId)
    (before after : Crew message) : Prop where
  workers : after.workers = before.workers
  jobs :
    ∃ more,
      after.jobs = before.jobs ++ more ∧
        ∀ message ∈ more, ∃ id, read = some id ∧ agrees id message

theorem hands_of_quiet
    {agrees : ChannelId → message → Prop}
    {read : Option ChannelId}
    {before after : Crew message}
    (quiet : before.Quiet after) :
    Hands agrees read before after :=
  ⟨quiet.workers, [], quiet.jobs.trans (List.append_nil _).symm, nofun⟩

theorem hands_of_reads
    {agrees : ChannelId → message → Prop}
    {id : ChannelId}
    {address : String → message}
    (theirs : ∀ text, agrees id (address text))
    (crew : Crew message)
    (texts : List String) :
    Hands agrees (some id) crew
      (texts.foldl (fun crew text => (crew.dispatch (address text)).2) crew) := by
  cases accepting : crew.accepting with
  | false =>
      rw [Crew.foldl_dispatch_of_stopped accepting]
      exact hands_of_quiet (.refl crew)
  | true =>
      rw [Crew.foldl_dispatch accepting]
      refine ⟨rfl, texts.map address, by simp [Crew.jobs], ?_⟩
      intro message there
      obtain ⟨text, -, rfl⟩ := List.mem_map.mp there
      exact ⟨id, rfl, theirs text⟩

/-- The record of a session and its threads is complete. -/
def Recorded
    (staff : Staff σ core job ρ κ step message action)
    (agrees : σ → ChannelId → message → Prop)
    (staffed : Staffed σ κ) :
    Prop :=
  Matched (agrees staffed.callers.session) staffed.sources staffed.busy
    (staff.crew staffed.callers.session)

variable {agrees : σ → ChannelId → message → Prop}

theorem Recorded.turned
    (recorded : staff.Recorded agrees staffed)
    {turn : Turn step}
    {callers : Callers σ κ}
    (kept :
      ∀ id message, agrees staffed.callers.session id message →
        agrees callers.session id message)
    (hands :
      Hands (agrees callers.session) (staff.turnReads? turn)
        (staff.crew staffed.callers.session) (staff.crew callers.session)) :
    staff.Recorded agrees (staff.turned staffed turn callers) := by
  obtain ⟨workers, more, jobs, theirs⟩ := hands
  obtain ⟨sources, busy⟩ := recorded.imp kept
  constructor
  · show List.Forall₂ _ (match staff.turnReads? turn with | some id => _ | none => _)
      (staff.crew callers.session).jobs
    cases reads : staff.turnReads? turn with
    | none =>
        have nothing : more = [] := by
          apply List.eq_nil_iff_forall_not_mem.mpr
          intro message there
          obtain ⟨id, read, -⟩ := theirs message there
          exact nomatch reads.symm.trans read
        rw [jobs, nothing, List.append_nil]
        exact sources
    | some id =>
        simp only
        rw [rightpad_of_append sources.length_eq jobs, jobs]
        apply List.rel_append sources
        apply forall₂_replicate
        intro message there
        obtain ⟨other, read, agree⟩ := theirs message there
        obtain rfl := Option.some.inj (reads.symm.trans read)
        exact agree
  · intro number message works
    exact busy number message (workers ▸ works)

theorem Recorded.acted
    (recorded : staff.Recorded agrees staffed)
    (lawful : staff.Lawful)
    {number : Nat}
    {act : Act action}
    {session : σ}
    (kept :
      ∀ id message, agrees staffed.callers.session id message → agrees session id message)
    (happened : staff.act? staffed.callers.session number act = some session) :
    staff.Recorded agrees (staff.acted staffed number act session) := by
  have before := recorded.imp kept
  cases act with
  | take =>
      simp only [act?] at happened
      split at happened
      · rename_i message rest crew waits taken
        obtain rfl := Option.some.inj happened
        rw [Recorded, session_acted, lawful.crew_given, lawful.crew_withCrew]
        exact before.take taken
      · exact nomatch happened
  | ask action =>
      simp only [act?] at happened
      split at happened
      · obtain rfl := Option.some.inj happened
        rw [Recorded, session_acted, lawful.crew_submit]
        exact before
      · exact nomatch happened
  | finish outcome =>
      obtain ⟨crew, ended, rfl⟩ := Option.map_eq_some_iff.mp happened
      rw [Recorded, session_acted, lawful.crew_withCrew]
      exact before.finish ended

/-- Where crews go on as they should, the record stays complete. -/
theorem Recorded.stepped
    (recorded : staff.Recorded agrees staffed)
    (lawful : staff.Lawful)
    (stepped : staff.step? staffed event = some next)
    (kept :
      ∀ id message, agrees staffed.callers.session id message →
        agrees next.callers.session id message)
    (hands :
      ∀ turn callers, staff.closedown.step? staffed.callers turn = some callers →
        next.callers = callers →
          Hands (agrees callers.session) (staff.turnReads? turn)
            (staff.crew staffed.callers.session) (staff.crew callers.session)) :
    staff.Recorded agrees next := by
  rcases step?_cases stepped with
    ⟨turn, callers, rfl, -, turned, rfl⟩ | ⟨number, act, session, rfl, acted, rfl⟩
  · exact recorded.turned kept (hands turn callers turned rfl)
  · rw [session_acted] at kept
    exact recorded.acted lawful kept acted

theorem recorded_start
    {callers : Callers σ κ}
    (jobs : (staff.crew callers.session).jobs = [])
    (idle :
      ∀ (number : Nat) message,
        (staff.crew callers.session).workers[number]? ≠ some (some message)) :
    staff.Recorded agrees { callers } where
  sources := jobs ▸ .nil
  busy number message works := (idle number message works).elim

/-! ## What is asked for, and by whom -/

/-- How an event moves the context's queue and the marks of it: something was put
behind, or what is first was taken. -/
inductive Shifts
    (staff : Staff σ core job ρ κ step message action)
    (staffed next : Staffed σ κ)
    (event : Staffed.Event step action) : Prop where
  | grows
    (more : List (Envelope job))
    (asker : Option ChannelId)
    (stopped :
      (staff.closedown.context staffed.callers.session).stopped = true →
        (staff.closedown.context next.callers.session).stopped = true)
    (queue :
      (staff.closedown.context next.callers.session).queue =
        (staff.closedown.context staffed.callers.session).queue ++ more)
    (origins : next.origins = staffed.origins ++ List.replicate more.length asker)
    (asked :
      asker = none ∨
        (∃ number, staffed.busy number = asker) ∧
          ((staff.closedown.context staffed.callers.session).stopped = true → more = []))
  | serves
    (envelope : Envelope job)
    (origin : Option ChannelId)
    (rest more : List (Envelope job))
    (others : List (Option ChannelId))
    (stopped :
      (staff.closedown.context staffed.callers.session).stopped = true →
        (staff.closedown.context next.callers.session).stopped = true)
    (waited :
      (staff.closedown.context staffed.callers.session).queue = envelope :: rest)
    (origins : staffed.origins = origin :: others)
    (queue : (staff.closedown.context next.callers.session).queue = rest ++ more)
    (left : next.origins = others ++ List.replicate more.length none)
    (ran :
      ∀ task, envelope = .run task →
        staff.ran? (staffed, event) =
          some (task, (staff.closedown.context staffed.callers.session).state))

/-- Whatever waits in the queue has its mark. -/
def Tagged
    (staff : Staff σ core job ρ κ step message action)
    (staffed : Staffed σ κ) :
    Prop :=
  staffed.origins.length =
    (staff.closedown.context staffed.callers.session).queue.length

theorem Tagged.exists_cons
    {envelope : Envelope job}
    {rest : List (Envelope job)}
    (tagged : staff.Tagged staffed)
    (waited :
      (staff.closedown.context staffed.callers.session).queue = envelope :: rest) :
    ∃ origin others, staffed.origins = origin :: others ∧ others.length = rest.length := by
  cases origins : staffed.origins with
  | nil => simp [Tagged, origins, waited] at tagged
  | cons origin others =>
      exact ⟨origin, others, rfl, by simpa [Tagged, origins, waited] using tagged⟩

theorem shifts_of_turn
    (lawful : staff.Lawful)
    (sound : staff.closedown.Sound staffed.callers)
    (tagged : staff.Tagged staffed)
    {turn : Turn step}
    {callers : Callers σ κ}
    (stepped : staff.closedown.step? staffed.callers turn = some callers) :
    staff.Shifts staffed (staff.turned staffed turn callers) (.turn turn) := by
  have stopped := Closedown.stopped_step? lawful.closedown stepped
  cases sound.turned lawful.closedown stepped with
  | aside aside session made happened same =>
      obtain ⟨longer, -⟩ := lawful.closedown.aside _ _ _ happened
      obtain ⟨jobs, queue, -, -⟩ := longer.queue
      subst made same
      exact .grows _ none stopped queue (rightpad_of_append tagged queue none) (.inl rfl)
  | ran task rest made first state waited left =>
      subst made
      obtain ⟨origin, others, origins, length⟩ := tagged.exists_cons waited
      refine .serves _ origin rest _ others stopped waited origins left ?_ ?_
      · simp only [turned, origins, List.tail_cons]
        exact rightpad_of_append length left none
      · rintro other ⟨⟩
        exact ran?_of_next? first
  | still rest more apart idle state waited left phases =>
      rcases waited with ⟨nothing, waited⟩ | ⟨rfl, waited⟩
      · have whole := left
        rw [← waited] at whole
        refine .grows more none stopped whole ?_ (.inl rfl)
        cases turn with
        | serve =>
            have empty : staffed.origins = [] :=
              List.eq_nil_of_length_eq_zero (by rw [tagged, waited, nothing rfl, List.length_nil])
            simp only [turned, empty, List.tail_nil]
            exact rightpad_of_append (by rw [waited, nothing rfl, List.length_nil, List.length_nil])
              whole none
        | _ => exact rightpad_of_append tagged whole none
      · obtain ⟨origin, others, origins, length⟩ := tagged.exists_cons waited
        refine .serves .stop origin rest more others stopped waited origins left ?_ nofun
        simp only [turned, origins, List.tail_cons]
        exact rightpad_of_append length left none

theorem shifts_of_act
    (lawful : staff.Lawful)
    (tagged : staff.Tagged staffed)
    {number : Nat}
    {act : Act action}
    {session : σ}
    (acted : staff.act? staffed.callers.session number act = some session) :
    staff.Shifts staffed (staff.acted staffed number act session) (.thread number act) := by
  obtain ⟨longer, -⟩ := extends_act? lawful acted
  obtain ⟨jobs, queue, known, nothing⟩ := longer.queue
  have stopped :
      (staff.closedown.context staffed.callers.session).stopped = true →
        (staff.closedown.context session).stopped = true :=
    fun stopped => longer.stopped.trans stopped
  -- Nobody but a handler that asks hands a job in.
  have quiet : (∀ action, act ≠ .ask action) → jobs = [] := by
    intro unasked
    apply List.eq_nil_iff_forall_not_mem.mpr
    intro job there
    obtain ⟨action, message, asks, -⟩ := known job there
    exact unasked action asks
  cases act with
  | take =>
      rw [quiet nofun] at queue
      exact .grows [] none stopped queue (List.append_nil _).symm (.inl rfl)
  | ask action =>
      refine .grows _ (staffed.busy number) stopped queue
        (rightpad_of_append tagged queue _) (.inr ⟨⟨number, rfl⟩, ?_⟩)
      intro shut
      rw [nothing shut]
      rfl
  | finish outcome =>
      rw [quiet nofun] at queue
      exact .grows [] none stopped queue (List.append_nil _).symm (.inl rfl)

theorem shifts_step?
    (lawful : staff.Lawful)
    (sound : staff.closedown.Sound staffed.callers)
    (tagged : staff.Tagged staffed)
    (stepped : staff.step? staffed event = some next) :
    staff.Shifts staffed next event := by
  rcases step?_cases stepped with
    ⟨turn, callers, rfl, -, happened, rfl⟩ | ⟨number, act, session, rfl, happened, rfl⟩
  · exact shifts_of_turn lawful sound tagged happened
  · exact shifts_of_act lawful tagged happened

theorem Shifts.tagged
    (shifts : staff.Shifts staffed next event)
    (tagged : staff.Tagged staffed) :
    staff.Tagged next := by
  cases shifts with
  | grows more asker stopped queue origins asked =>
      rw [Tagged, queue, origins, List.length_append, List.length_append,
        List.length_replicate, tagged]
  | serves envelope origin rest more others stopped waited origins queue left ran =>
      have length : others.length = rest.length := by
        simpa [Tagged, waited, origins] using tagged
      rw [Tagged, queue, left, List.length_append, List.length_append,
        List.length_replicate, length]

/-! ## Heralds -/

section

variable (staff : Staff σ core job ρ κ step message action)

/-- A job ran or waits, or the context takes no job any more. -/
def Announced
    (trail : List (job × core))
    (staffed : Staffed σ κ)
    (herald : job) :
    Prop :=
  (∃ state, (herald, state) ∈ trail) ∨
    Envelope.run herald ∈ (staff.closedown.context staffed.callers.session).queue ∨
      (staff.closedown.context staffed.callers.session).stopped = true

/-- Each connection has a job that is its herald.  The heralds of marked connections were
handed in, and whatever a handler of such a connection asked for waits behind. -/
structure Heralded
    (herald : ChannelId → job)
    (trail : List (job × core))
    (staffed : Staffed σ κ) : Prop where
  tagged : staff.Tagged staffed
  announced : ∀ id, staffed.Marks id → staff.Announced trail staffed (herald id)
  behind :
    ∀ (place : Nat) (id : ChannelId), staffed.origins[place]? = some (some id) →
      (∃ state, (herald id, state) ∈ trail) ∨
        ∃ earlier < place,
          (staff.closedown.context staffed.callers.session).queue[earlier]? =
            some (.run (herald id))

end

theorem heralded_start
    {callers : Callers σ κ}
    (queue : (staff.closedown.context callers.session).queue = [])
    (herald : ChannelId → job) :
    staff.Heralded herald [] { callers } where
  tagged := (congrArg List.length queue).symm
  announced id marks := by
    rcases marks with handed | ⟨number, holds⟩ | asked
    · exact nomatch handed
    · exact nomatch holds
    · exact nomatch asked
  behind place id there := nomatch there

theorem Announced.shifts
    {trail : List (job × core)}
    {herald : job}
    (announced : staff.Announced trail staffed herald)
    (shifts : staff.Shifts staffed next event) :
    staff.Announced (trail ++ (staff.ran? (staffed, event)).toList) next herald := by
  rcases announced with ⟨state, ran⟩ | waits | stopped
  · exact .inl ⟨state, List.mem_append_left _ ran⟩
  · cases shifts with
    | grows more asker stopped queue origins asked =>
        right
        left
        rw [queue]
        exact List.mem_append_left _ waits
    | serves envelope origin rest more others stopped waited origins queue left ran =>
        rw [waited] at waits
        rcases List.mem_cons.mp waits with first | behind
        · left
          rw [ran herald first.symm]
          exact ⟨_, List.mem_append_right _ List.mem_cons_self⟩
        · right
          left
          rw [queue]
          exact List.mem_append_left _ behind
  · right
    right
    cases shifts with
    | grows more asker still => exact still stopped
    | serves envelope origin rest more others still => exact still stopped

theorem getElem?_append_replicate
    {α : Type}
    {values : List α}
    {count place : Nat}
    {fill value : α}
    (there : (values ++ List.replicate count fill)[place]? = some value) :
    values[place]? = some value ∨ value = fill ∧ values.length ≤ place ∧ count ≠ 0 := by
  rcases Nat.lt_or_ge place values.length with inside | behind
  · rw [List.getElem?_append_left inside] at there
    exact .inl there
  · rw [List.getElem?_append_right behind] at there
    have filled := List.eq_of_mem_replicate (List.mem_of_getElem? there)
    refine .inr ⟨filled, behind, ?_⟩
    rintro rfl
    exact nomatch there

theorem Heralded.behind_grows
    {herald : ChannelId → job}
    {trail : List (job × core)}
    {more : List (Envelope job)}
    {asker : Option ChannelId}
    {place : Nat}
    {id : ChannelId}
    (heralded : staff.Heralded herald trail staffed)
    (asked :
      asker = none ∨
        (∃ number, staffed.busy number = asker) ∧
          ((staff.closedown.context staffed.callers.session).stopped = true → more = []))
    (there : (staffed.origins ++ List.replicate more.length asker)[place]? = some (some id)) :
    (∃ state, (herald id, state) ∈ trail) ∨
      ∃ earlier < place,
        (staff.closedown.context staffed.callers.session).queue[earlier]? =
          some (.run (herald id)) := by
  rcases getElem?_append_replicate there with before | ⟨rfl, behind, some⟩
  · exact heralded.behind place id before
  · rcases asked with none | ⟨⟨number, busy⟩, nothing⟩
    · exact nomatch none
    · rcases heralded.announced id (.inr (.inl ⟨number, busy⟩)) with ran | waits | stopped
      · exact .inl ran
      · right
        obtain ⟨earlier, found⟩ := List.mem_iff_getElem?.mp waits
        have inside := (List.getElem?_eq_some_iff.mp found).1
        rw [← heralded.tagged] at inside
        exact ⟨earlier, Nat.lt_of_lt_of_le inside behind, found⟩
      · rw [nothing stopped] at some
        exact (some rfl).elim

/-- Where a connection is read after its herald was handed in, the order stays. -/
theorem Heralded.stepped
    {herald : ChannelId → job}
    {trail : List (job × core)}
    (heralded : staff.Heralded herald trail staffed)
    (lawful : staff.Lawful)
    (sound : staff.closedown.Sound staffed.callers)
    (stepped : staff.step? staffed event = some next)
    (reads : ∀ id, staff.read? event = some id → staff.Announced trail staffed (herald id)) :
    staff.Heralded herald (trail ++ (staff.ran? (staffed, event)).toList) next := by
  have shifts := shifts_step? lawful sound heralded.tagged stepped
  constructor
  · exact shifts.tagged heralded.tagged
  · intro id marks
    rcases marks_step? stepped marks with before | reading
    · exact (heralded.announced id before).shifts shifts
    · exact (reads id reading).shifts shifts
  · intro place id there
    cases shifts with
    | grows more asker stopped queue origins asked =>
        rw [origins] at there
        rcases heralded.behind_grows asked there with
          ⟨state, ran⟩ | ⟨earlier, before, found⟩
        · exact .inl ⟨state, List.mem_append_left _ ran⟩
        · refine .inr ⟨earlier, before, ?_⟩
          rw [queue, List.getElem?_append_left (List.getElem?_eq_some_iff.mp found).1]
          exact found
    | serves envelope origin rest more others stopped waited origins queue left ran =>
        rw [left] at there
        rcases getElem?_append_replicate there with before | ⟨none, -⟩
        · rw [← List.getElem?_cons_succ (a := origin), ← origins] at before
          rcases heralded.behind (place + 1) id before with
            ⟨state, earlier⟩ | ⟨earlier, before, found⟩
          · exact .inl ⟨state, List.mem_append_left _ earlier⟩
          · rw [waited] at found
            cases earlier with
            | zero =>
                left
                rw [ran (herald id) (Option.some.inj found)]
                exact ⟨_, List.mem_append_right _ List.mem_cons_self⟩
            | succ earlier =>
                rw [List.getElem?_cons_succ] at found
                refine .inr ⟨earlier, Nat.lt_of_succ_lt_succ before, ?_⟩
                rw [queue, List.getElem?_append_left (List.getElem?_eq_some_iff.mp found).1]
                exact found
        · exact nomatch none

/-- What a handler asked for is about to run, so the herald of its connection ran. -/
theorem Heralded.ran_of_answers
    {herald : ChannelId → job}
    {trail : List (job × core)}
    (heralded : staff.Heralded herald trail staffed)
    {id : ChannelId}
    {task : job}
    (answers : staff.Answers staffed id task) :
    ∃ state, (herald id, state) ∈ trail := by
  have head := answers.2
  rw [List.head?_eq_getElem?] at head
  rcases heralded.behind 0 id head with ran | ⟨earlier, before, -⟩
  · exact ran
  · exact (Nat.not_lt_zero _ before).elim

end Staff

end LineProtocol
