import LineProtocol.Dispatch.Crew

/-!
# What a crew takes in

A crew gets jobs by `dispatch` alone.  Everything else that it does is `Quiet`:
what waits gets no longer, and a crew that was stopped is not started again.
-/

namespace LineProtocol

namespace Crew

variable {job : Type}

/-- The jobs that were handed over, in order. -/
def jobs (crew : Crew job) : List job :=
  crew.taken ++ crew.queue

/-- No job was handed over, and a crew that was stopped stays so.  Jobs that waited may be
done by now. -/
structure Quiet (before after : Crew job) : Prop where
  jobs : after.jobs = before.jobs
  taken : before.taken.length ≤ after.taken.length
  workers : after.workers = before.workers
  accepting : after.accepting = true → before.accepting = true

/-- Nobody in a new crew is busy. -/
theorem idle_ofThreads
    (name : String)
    (threads number : Nat)
    (task : job) :
    (ofThreads name threads : Crew job).workers[number]? ≠ some (some task) := by
  intro busy
  exact nomatch List.eq_of_mem_replicate (List.mem_of_getElem? busy)

theorem Quiet.refl (crew : Crew job) : Quiet crew crew :=
  ⟨rfl, Nat.le_refl _, rfl, id⟩

theorem Quiet.trans
    {first second third : Crew job}
    (one : Quiet first second)
    (two : Quiet second third) :
    Quiet first third :=
  ⟨two.jobs.trans one.jobs, Nat.le_trans one.taken two.taken, two.workers.trans one.workers,
    one.accepting ∘ two.accepting⟩

theorem Quiet.queue
    {before after : Crew job}
    (quiet : Quiet before after) :
    after.queue.length ≤ before.queue.length := by
  have length := congrArg List.length quiet.jobs
  have taken := quiet.taken
  simp only [Crew.jobs, List.length_append] at length
  omega

theorem quiet_stop (crew : Crew job) : Quiet crew crew.stop :=
  ⟨rfl, Nat.le_refl _, rfl, by simp [stop]⟩

/-- A worker takes up what waits first. -/
theorem take?_cases
    {crew taken : Crew job}
    {worker : Nat}
    (takes : crew.take? worker = some taken) :
    ∃ task rest,
      crew.workers[worker]? = some none ∧ crew.queue = task :: rest ∧
        taken =
          { crew with
            workers := crew.workers.set worker (some task)
            queue := rest
            taken := crew.taken ++ [task] } := by
  unfold take? at takes
  split at takes
  · rename_i task rest idle waiting
    exact ⟨task, rest, idle, waiting, (Option.some.inj takes).symm⟩
  · exact nomatch takes

/-- A worker ends what it is busy with. -/
theorem finish?_cases
    {outcome : job → HandlerOutcome}
    {crew ended : Crew job}
    {worker : Nat}
    (finishes : crew.finish? outcome worker = some ended) :
    ∃ task,
      crew.workers[worker]? = some (some task) ∧
        ended =
          { crew with
            workers := crew.workers.set worker none
            ended := crew.ended ++ [task]
            notices := crew.notices ++ noticeOf (crew.workerName worker) (outcome task) } := by
  unfold finish? at finishes
  split at finishes
  · rename_i task busy
    exact ⟨task, busy, (Option.some.inj finishes).symm⟩
  · exact nomatch finishes

theorem quiet_workOne
    (outcome : job → HandlerOutcome)
    (crew : Crew job) :
    Quiet crew (crew.workOne outcome) := by
  unfold workOne
  cases takes : crew.take? 0 with
  | none => exact .refl _
  | some taken =>
      cases finishes : taken.finish? outcome 0 with
      | none => simpa [finishes] using Quiet.refl crew
      | some ended =>
          obtain ⟨task, rest, idle, waiting, rfl⟩ := take?_cases takes
          obtain ⟨other, busy, rfl⟩ := finish?_cases finishes
          simp only [Option.bind_some, finishes, Option.getD_some]
          constructor
          · simp [Crew.jobs, waiting]
          · simp
          · show (crew.workers.set 0 (some task)).set 0 none = crew.workers
            obtain ⟨inside, free⟩ := List.getElem?_eq_some_iff.mp idle
            rw [List.set_set, ← free]
            exact List.set_getElem_self inside
          · exact id

theorem quiet_settle
    (outcome : job → HandlerOutcome)
    (crew : Crew job) :
    Quiet crew (crew.settle outcome) := by
  unfold settle
  generalize crew.queue.length = count
  induction count with
  | zero => exact .refl _
  | succ count ih => exact ih.trans (quiet_workOne outcome _)

/-- A crew that was not stopped takes all that is handed over. -/
theorem foldl_dispatch
    {crew : Crew job}
    (accepting : crew.accepting = true)
    (messages : List String)
    (address : String → job) :
    messages.foldl (fun crew message => (crew.dispatch (address message)).2) crew =
      { crew with queue := crew.queue ++ messages.map address } := by
  induction messages generalizing crew with
  | nil => simp
  | cons message rest ih =>
      have taken :
          (crew.dispatch (address message)).2 =
            { crew with queue := crew.queue ++ [address message] } := by
        simp [dispatch, accepting]
      have others := @ih { crew with queue := crew.queue ++ [address message] } accepting
      rw [List.foldl_cons, taken, others]
      simp

/-- A crew that was stopped takes nothing. -/
theorem foldl_dispatch_of_stopped
    {crew : Crew job}
    (stopped : crew.accepting = false)
    (messages : List String)
    (address : String → job) :
    messages.foldl (fun crew message => (crew.dispatch (address message)).2) crew = crew := by
  induction messages with
  | nil => rfl
  | cons message rest ih =>
      have refused : (crew.dispatch (address message)).2 = crew := by
        simp [dispatch, stopped]
      rw [List.foldl_cons, refused, ih]

/-- Handing over starts no crew again. -/
theorem accepting_foldl_dispatch
    (crew : Crew job)
    (messages : List String)
    (address : String → job) :
    (messages.foldl (fun crew message => (crew.dispatch (address message)).2)
      crew).accepting = crew.accepting := by
  induction messages generalizing crew with
  | nil => rfl
  | cons message rest ih =>
      rw [List.foldl_cons, ih, dispatch]
      split
      · rfl
      · rfl

end Crew

end LineProtocol
