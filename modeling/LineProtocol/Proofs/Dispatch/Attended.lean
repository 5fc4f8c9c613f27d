import LineProtocol.Proofs.Dispatch.Threads

/-!
# One thread that does what the handler says

A session that one thread attends to runs the handler on one message at a time.  The
thread asks for what the handler wants done with the message in hand, one after the other,
and is done when nothing is left to ask for.  Between any two of these the session's
context may run a job, and other messages may come.
-/

namespace LineProtocol

/-- A session, and what the handler of the message in hand has still to ask for. -/
structure Attended (σ action : Type) where
  session : σ
  pending : List action := []

/-- What the context of a session or its thread does next. -/
inductive Duty where
  /-- The context runs the first job that waits. -/
  | serve
  /-- The thread takes up the first message that waits. -/
  | take
  /-- The handler asks for the next thing. -/
  | ask
  /-- The handler ends. -/
  | finish
  deriving Repr, DecidableEq

namespace Crew

variable {job : Type}

/-- The crew has one worker, who is busy with this, and takes messages in. -/
structure Sole
    (crew : Crew job)
    (hand : Option job) : Prop where
  workers : crew.workers = [hand]
  accepting : crew.accepting = true

end Crew

namespace Serial

variable {σ job ρ : Type}

/-- The context takes jobs, and these wait for it. -/
structure Holds
    (serial : Serial σ job)
    (tasks : List job) : Prop where
  stopped : serial.stopped = false
  ended : serial.ended = false
  queue : serial.queue = tasks.map .run

theorem Holds.submit
    {serial : Serial σ job}
    {tasks : List job}
    (holds : serial.Holds tasks)
    (task : job) :
    serial.submit task = (.ok (), { serial with queue := (tasks ++ [task]).map .run }) := by
  rcases serial.submit_cases task with ⟨-, -, accepted⟩ | ⟨stopped | ended, -⟩
  · rw [accepted, holds.queue, List.map_append]
    rfl
  · exact nomatch holds.stopped.symm.trans stopped
  · exact nomatch holds.ended.symm.trans ended

/-- The state does not matter for what waits. -/
theorem Holds.withState
    {serial : Serial σ job}
    {tasks : List job}
    (holds : serial.Holds tasks)
    (state : σ) :
    ({ serial with state } : Serial σ job).Holds tasks :=
  ⟨holds.stopped, holds.ended, holds.queue⟩

/-- Where nothing waits, nothing is done. -/
theorem Holds.runNext_nil
    {serial : Serial σ job}
    (holds : serial.Holds [])
    (craft : Craft σ job ρ) :
    serial.runNext craft = (none, serial) := by
  unfold runNext
  rw [holds.ended, holds.queue]
  rfl

/-- A job that leads to no other is run and gone. -/
theorem Holds.runNext_cons
    {serial : Serial σ job}
    {task : job}
    {tasks : List job}
    (holds : serial.Holds (task :: tasks))
    {craft : Craft σ job ρ}
    {state : σ}
    {answer : ρ}
    (ran : craft.run serial.stopped task serial.state = { state, answer := some answer }) :
    serial.runNext craft =
      (some (some answer), { serial with state, queue := tasks.map .run }) := by
  unfold runNext
  rw [holds.ended, holds.queue]
  simp [perform, ran]

/-- Who is idle runs a job as soon as it is handed in. -/
theorem Holds.runNext_submit
    {serial : Serial σ job}
    (idle : serial.Holds [])
    {craft : Craft σ job ρ}
    {task : job}
    {state : σ}
    {answer : ρ}
    (ran : craft.run serial.stopped task serial.state = { state, answer := some answer }) :
    ((serial.submit task).2.runNext craft).2 = { serial with state } := by
  have waits : ({ serial with queue := [task].map .run } : Serial σ job).Holds [task] :=
    ⟨idle.stopped, idle.ended, rfl⟩
  rw [idle.submit, List.nil_append, waits.runNext_cons ran, List.map_nil]
  exact congrArg (fun queue => ({ serial with state, queue } : Serial σ job)) idle.queue.symm

end Serial

namespace Staff

variable {σ core job ρ κ step message action : Type}

section

variable
  (staff : Staff σ core job ρ κ step message action)
  (reaction : σ → message → Reaction action)

/-- Lets the context or the thread go on, if it can. -/
def attend?
    (attended : Attended σ action) :
    Duty → Option (Attended σ action)
  | .serve =>
      some
        { attended with
          session :=
            staff.closedown.withContext attended.session
              ((staff.closedown.context attended.session).runNext staff.closedown.craft).2 }
  | .take =>
      match (staff.crew attended.session).queue with
      | [] => none
      | message :: _ =>
          (staff.act? attended.session 0 .take).map fun session =>
            { session, pending := (reaction attended.session message).actions }
  | .ask =>
      match attended.pending with
      | [] => none
      | action :: pending =>
          (staff.act? attended.session 0 (.ask action)).map fun session => { session, pending }
  | .finish =>
      match attended.pending, (staff.crew attended.session).workers with
      | [], some message :: _ =>
          (staff.act? attended.session 0
            (.finish (reaction attended.session message).outcome)).map ({ session := · })
      | _, _ => none

/-- Lets the context and the thread do one thing after the other. -/
def attendAll?
    (attended : Attended σ action)
    (duties : List Duty) :
    Option (Attended σ action) :=
  duties.foldlM (staff.attend? reaction) attended

/-- How a session goes on that one thread attends to. -/
inductive Attends (attended : Attended σ action) : Duty → Attended σ action → Prop where
  | serve :
    Attends attended .serve
      { attended with
        session :=
          staff.closedown.withContext attended.session
            ((staff.closedown.context attended.session).runNext staff.closedown.craft).2 }
  | take
    {first : message}
    {rest : List message}
    (idle : (staff.crew attended.session).workers = [none])
    (waits : (staff.crew attended.session).queue = first :: rest) :
    Attends attended .take
      { session :=
          staff.given
            (staff.withCrew attended.session
              { staff.crew attended.session with
                workers := [some first]
                queue := rest
                taken := (staff.crew attended.session).taken ++ [first] })
            first
        pending := (reaction attended.session first).actions }
  | ask
    {held : message}
    {wanted : action}
    {pending : List action}
    (works : (staff.crew attended.session).workers = [some held])
    (wants : attended.pending = wanted :: pending) :
    Attends attended .ask
      { session :=
          staff.closedown.withContext attended.session
            ((staff.closedown.context attended.session).submit
              (staff.jobOf attended.session held wanted)).2
        pending }
  | finish
    {held : message}
    (works : (staff.crew attended.session).workers = [some held])
    (done : attended.pending = [])
    (ended : List message)
    (notices : List Notice) :
    Attends attended .finish
      { session :=
          staff.withCrew attended.session
            { staff.crew attended.session with workers := [none], ended, notices } }

end

variable
  {staff : Staff σ core job ρ κ step message action}
  {reaction : σ → message → Reaction action}
  {attended next : Attended σ action}

theorem attends_of_attend?
    {hand : Option message}
    (sole : (staff.crew attended.session).workers = [hand])
    {duty : Duty}
    (attends : staff.attend? reaction attended duty = some next) :
    staff.Attends reaction attended duty next := by
  cases duty with
  | serve =>
      obtain rfl := Option.some.inj attends
      exact .serve
  | take =>
      simp only [attend?] at attends
      split at attends
      · cases attends
      · rename_i message rest waits
        obtain ⟨session, acted, rfl⟩ := Option.map_eq_some_iff.mp attends
        simp only [act?] at acted
        split at acted
        · rename_i first others crew same takes
          obtain rfl := Option.some.inj acted
          obtain ⟨task, left, idle, waiting, rfl⟩ := Crew.take?_cases takes
          obtain ⟨rfl, rfl⟩ := List.cons.inj (waits.symm.trans waiting)
          obtain ⟨rfl, -⟩ := List.cons.inj (waits.symm.trans same)
          rw [sole, List.getElem?_cons_zero, Option.some.injEq] at idle
          subst idle
          have whole : staff.Attends reaction attended .take _ := .take sole waits
          rw [sole]
          exact whole
        · cases acted
  | ask =>
      simp only [attend?] at attends
      split at attends
      · cases attends
      · rename_i action pending wants
        obtain ⟨session, acted, rfl⟩ := Option.map_eq_some_iff.mp attends
        simp only [act?] at acted
        split at acted
        · rename_i message works
          obtain rfl := Option.some.inj acted
          rw [sole, List.getElem?_cons_zero, Option.some.injEq] at works
          subst works
          exact .ask sole wants
        · cases acted
  | finish =>
      simp only [attend?] at attends
      split at attends
      · rename_i held others done works
        obtain ⟨session, acted, rfl⟩ := Option.map_eq_some_iff.mp attends
        obtain ⟨crew, finishes, rfl⟩ := Option.map_eq_some_iff.mp acted
        obtain ⟨task, busy, rfl⟩ := Crew.finish?_cases finishes
        obtain ⟨rfl, rfl⟩ := List.cons.inj (works.symm.trans sole)
        rw [works, List.set_cons_zero]
        exact .finish works done _ _
      · cases attends

/-! ## Working off what waits -/

theorem attendAll?_cons
    {between : Attended σ action}
    {duty : Duty}
    {duties : List Duty}
    (attends : staff.attend? reaction attended duty = some between)
    (goes : staff.attendAll? reaction between duties = some next) :
    staff.attendAll? reaction attended (duty :: duties) = some next := by
  rw [attendAll?, List.foldlM_cons, attends]
  exact goes

/-- Where each job only makes the queue shorter, the context runs all that wait. -/
theorem exists_served
    {good : Attended σ action → Prop}
    (keeps :
      ∀ attended next, good attended → staff.attend? reaction attended .serve = some next →
        good next ∧
          (staff.closedown.context next.session).queue =
            (staff.closedown.context attended.session).queue.tail)
    (starts : good attended) :
    ∃ duties next,
      staff.attendAll? reaction attended duties = some next ∧ good next ∧
        (staff.closedown.context next.session).queue = [] := by
  have shortens :
      ∀ attended, good attended →
        (staff.closedown.context attended.session).queue.length ≠ 0 →
        ∃ duties next,
          staff.attendAll? reaction attended duties = some next ∧ good next ∧
            (staff.closedown.context next.session).queue.length <
              (staff.closedown.context attended.session).queue.length := by
    intro attended holds waits
    obtain ⟨later, shorter⟩ := keeps attended _ holds rfl
    refine ⟨[.serve], _, rfl, later, ?_⟩
    rw [shorter, List.length_tail]
    exact Nat.sub_one_lt waits
  obtain ⟨duties, next, goes, holds, done⟩ := exists_foldlM shortens starts
  exact ⟨duties, next, goes, holds, List.length_eq_zero_iff.mp done⟩

theorem exists_take
    (lawful : staff.Lawful)
    {first : message}
    {rest : List message}
    (idle : (staff.crew attended.session).workers = [none])
    (waits : (staff.crew attended.session).queue = first :: rest) :
    ∃ next,
      staff.attend? reaction attended .take = some next ∧
        (staff.crew next.session).workers = [some first] ∧
          (staff.crew next.session).queue = rest := by
  simp [attend?, act?, Crew.take?, idle, waits, lawful.crew_given, lawful.crew_withCrew]

theorem exists_ask
    (lawful : staff.Lawful)
    {held : message}
    {wanted : action}
    {pending : List action}
    (works : (staff.crew attended.session).workers = [some held])
    (wants : attended.pending = wanted :: pending) :
    ∃ next,
      staff.attend? reaction attended .ask = some next ∧ next.pending = pending ∧
        staff.crew next.session = staff.crew attended.session := by
  simp [attend?, act?, works, wants, lawful.crew_submit]

theorem exists_finish
    (lawful : staff.Lawful)
    {held : message}
    (works : (staff.crew attended.session).workers = [some held])
    (done : attended.pending = []) :
    ∃ next,
      staff.attend? reaction attended .finish = some next ∧ next.pending = [] ∧
        (staff.crew next.session).workers = [none] ∧
          (staff.crew next.session).queue = (staff.crew attended.session).queue := by
  simp [attend?, act?, Crew.finish?, works, done, lawful.crew_withCrew]

/-- The handler of the message in hand asks for all that it has to ask for, and ends. -/
theorem exists_finished
    (lawful : staff.Lawful)
    {held : message}
    (works : (staff.crew attended.session).workers = [some held]) :
    ∃ duties next,
      staff.attendAll? reaction attended duties = some next ∧ next.pending = [] ∧
        (staff.crew next.session).workers = [none] ∧
          (staff.crew next.session).queue = (staff.crew attended.session).queue := by
  induction asks : attended.pending generalizing attended with
  | nil =>
      obtain ⟨next, ends, rest⟩ := exists_finish lawful works asks
      exact ⟨[.finish], next, attendAll?_cons ends rfl, rest⟩
  | cons wanted pending ih =>
      obtain ⟨between, asked, fewer, same⟩ := exists_ask lawful works asks
      rw [← same] at works ⊢
      obtain ⟨duties, next, goes, rest⟩ := ih works fewer
      exact ⟨.ask :: duties, next, attendAll?_cons asked goes, rest⟩

/-- A thread that is idle takes up one message after the other until none is left. -/
theorem exists_idle_of_none
    (lawful : staff.Lawful)
    (idle : (staff.crew attended.session).workers = [none])
    (still : attended.pending = []) :
    ∃ duties next,
      staff.attendAll? reaction attended duties = some next ∧ next.pending = [] ∧
        (staff.crew next.session).queue = [] := by
  induction waits : (staff.crew attended.session).queue generalizing attended with
  | nil => exact ⟨[], attended, rfl, still, waits⟩
  | cons first rest ih =>
      obtain ⟨between, takes, works, fewer⟩ := exists_take lawful idle waits
      obtain ⟨duties, after, goes, done, free, same⟩ := exists_finished lawful works
      obtain ⟨more, next, empties, settled⟩ := ih free done (same.trans fewer)
      exact
        ⟨(.take :: duties) ++ more, next,
          foldlM_append_of_run (attendAll?_cons takes goes) empties, settled⟩

/-- Whatever the handlers ask for, a thread that is alone works off all that waits. -/
theorem exists_idle
    (lawful : staff.Lawful)
    {hand : Option message}
    (sole : (staff.crew attended.session).workers = [hand])
    (nothing : hand = none → attended.pending = []) :
    ∃ duties next,
      staff.attendAll? reaction attended duties = some next ∧ next.pending = [] ∧
        (staff.crew next.session).queue = [] := by
  cases hand with
  | none => exact exists_idle_of_none lawful sole (nothing rfl)
  | some held =>
      obtain ⟨duties, between, goes, done, free, -⟩ := exists_finished lawful sole
      obtain ⟨more, next, empties, settled⟩ := exists_idle_of_none lawful free done
      exact ⟨duties ++ more, next, foldlM_append_of_run goes empties, settled⟩

end Staff

end LineProtocol
