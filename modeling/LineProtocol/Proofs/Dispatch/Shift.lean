import Mathlib.Data.List.Perm.Basic
import LineProtocol.Dispatch.Shift
import LineProtocol.Proofs.Dispatch.Crew
import LineProtocol.Proofs.Run

/-!
# What a crew has done when its shift is over

Whatever handlers do and in whatever order workers take jobs up and end them,
every job that was handed over before the crew was stopped is worked off once.
`worked_off` says so of every run: jobs are taken up in the order in which they
were handed over, nobody goes while anything waits, and when all have gone the jobs
that ended are those that were handed over.

How a job ends decides nothing but what the log says about it.  A shift without
its log is `silent`, and runs with other outcomes differ in the log alone.
-/

namespace LineProtocol

namespace Shift

variable
  {job : Type}
  {outcome : job → HandlerOutcome}
  {shift next start final : Shift job}
  {event : Event job}
  {events : List (Event job)}
  {worker : Nat}
  {task : job}

/-! ## What was handed over -/

/-- The jobs that are handed over before the crew is stopped, in order. -/
def accepted : List (Event job) → List job
  | [] => []
  | .crew .stop :: _ => []
  | .crew (.dispatch task) :: events => task :: accepted events
  | _ :: events => accepted events

/-- Once a crew is stopped nothing more is taken in. -/
theorem accepted_append_of_stopped
    (stopped : .crew .stop ∈ events)
    (later : List (Event job)) :
    accepted (events ++ later) = accepted events := by
  induction events with
  | nil => exact nomatch stopped
  | cons event events ih =>
      rw [List.mem_cons] at stopped
      cases event with
      | leave worker => exact ih (stopped.resolve_left nofun)
      | crew event =>
          cases event with
          | stop => rfl
          | dispatch task => exact congrArg (task :: ·) (ih (stopped.resolve_left nofun))
          | take worker => exact ih (stopped.resolve_left nofun)
          | finish worker => exact ih (stopped.resolve_left nofun)

theorem accepted_append_of_running
    (running : .crew .stop ∉ events)
    (later : List (Event job)) :
    accepted (events ++ later) = accepted events ++ accepted later := by
  induction events with
  | nil => rfl
  | cons event events ih =>
      rw [List.mem_cons, not_or] at running
      cases event with
      | leave worker => exact ih running.2
      | crew event =>
          cases event with
          | stop => exact absurd rfl running.1
          | dispatch task => exact congrArg (task :: ·) (ih running.2)
          | take worker => exact ih running.2
          | finish worker => exact ih running.2

/-! ## What an event does -/

/-- The ways in which an event can change a shift. -/
inductive Changes
    (outcome : job → HandlerOutcome)
    (shift : Shift job) : Event job → Shift job → Prop where
  | dispatch
      (task : job) :
      Changes outcome shift (.crew (.dispatch task)) (shift.dispatch task).2
  | stop : Changes outcome shift (.crew .stop) { shift with crew := shift.crew.stop }
  | take
      {worker : Nat}
      {task : job}
      {rest : List job}
      (here : worker ∉ shift.gone)
      (idle : shift.crew.workers[worker]? = some none)
      (waiting : shift.crew.queue = task :: rest) :
      Changes outcome shift (.crew (.take worker))
        { shift with
          crew :=
            { shift.crew with
              workers := shift.crew.workers.set worker (some task)
              queue := rest
              taken := shift.crew.taken ++ [task] } }
  | finish
      {worker : Nat}
      {task : job}
      (busy : shift.crew.workers[worker]? = some (some task)) :
      Changes outcome shift (.crew (.finish worker))
        { shift with
          crew :=
            { shift.crew with
              workers := shift.crew.workers.set worker none
              ended := shift.crew.ended ++ [task]
              notices :=
                shift.crew.notices ++
                  Crew.noticeOf (shift.crew.workerName worker) (outcome task) } }
  | leave
      {worker : Nat}
      (idle : shift.crew.workers[worker]? = some none)
      (empty : shift.crew.queue = [])
      (stopped : shift.crew.accepting = false)
      (here : worker ∉ shift.gone) :
      Changes outcome shift (.leave worker) { shift with gone := shift.gone ++ [worker] }

theorem changes_of_step? (stepped : shift.step? outcome event = some next) :
    Changes outcome shift event next := by
  cases event with
  | leave worker =>
      rw [step?, leave?] at stepped
      split at stepped
      · rename_i idle empty stopped
        rw [Option.ite_none_left_eq_some] at stepped
        obtain ⟨here, same⟩ := stepped
        rw [← Option.some.inj same]
        exact .leave idle empty stopped here
      · exact nomatch stepped
  | crew event =>
      cases event with
      | dispatch task =>
          obtain rfl := Option.some.inj stepped
          exact .dispatch task
      | stop =>
          obtain rfl := Option.some.inj stepped
          exact .stop
      | take worker =>
          rw [step?, Option.ite_none_left_eq_some, Option.map_eq_some_iff] at stepped
          obtain ⟨here, crew, taken, rfl⟩ := stepped
          obtain ⟨task, rest, idle, waiting, rfl⟩ := Crew.take?_cases taken
          exact .take here idle waiting
      | finish worker =>
          obtain ⟨crew, ended, rfl⟩ := Option.map_eq_some_iff.mp stepped
          obtain ⟨task, busy, rfl⟩ := Crew.finish?_cases ended
          exact .finish busy

/-- Every change can be made. -/
theorem Changes.step? (changes : Changes outcome shift event next) :
    shift.step? outcome event = some next := by
  cases changes with
  | dispatch task => rfl
  | stop => rfl
  | take here idle waiting => simp [Shift.step?, Crew.step?, Crew.take?, here, idle, waiting]
  | finish busy => simp [Shift.step?, Crew.step?, Crew.finish?, busy]
  | leave idle empty stopped here => simp [Shift.step?, leave?, idle, empty, stopped, here]

/-! ## Jobs that are worked at -/

/-- The jobs that were taken up and have not ended. -/
def underway (crew : Crew job) : List job :=
  crew.workers.filterMap id

/-- One worker is busy with something else than before, or with nothing. -/
theorem filterMap_set
    {before : Option job}
    {workers : List (Option job)}
    (there : workers[worker]? = some before)
    (after : Option job) :
    ∃ others more,
      others.length + more.length < workers.length ∧
        workers.filterMap id = others ++ (before.toList ++ more) ∧
          (workers.set worker after).filterMap id = others ++ (after.toList ++ more) := by
  obtain ⟨inside, same⟩ := List.getElem?_eq_some_iff.mp there
  have parts :
      ∃ front back,
        workers = front ++ workers[worker] :: back ∧ front.length = worker ∧
          workers.set worker after = front ++ after :: back :=
    List.exists_of_set inside
  obtain ⟨front, back, split, -, changed⟩ := parts
  rw [same] at split
  have shorter := List.length_filterMap_le (id : Option job → Option job)
  refine ⟨front.filterMap id, back.filterMap id, ?_, ?_, ?_⟩
  · rw [split, List.length_append, List.length_cons]
    exact Nat.lt_succ_of_le (Nat.add_le_add (shorter front) (shorter back))
  · rw [split]
    cases before <;> simp
  · rw [changed]
    cases after <;> simp

/-- What was taken up has ended or is worked at.  One worker ends jobs in the order in which
it takes them up. -/
structure Balanced (crew : Crew job) : Prop where
  all : (crew.ended ++ underway crew).Perm crew.taken
  alone : crew.workers.length ≤ 1 → crew.ended ++ underway crew = crew.taken

theorem balanced_ofThreads
    (name : String)
    (threads : Nat) :
    Balanced (Crew.ofThreads name threads : Crew job) where
  all := by simp [underway, Crew.ofThreads]
  alone _ := by simp [underway, Crew.ofThreads]

theorem Balanced.take
    {crew : Crew job}
    (balanced : Balanced crew)
    (idle : crew.workers[worker]? = some none)
    (task : job)
    (rest : List job) :
    Balanced
      { crew with
        workers := crew.workers.set worker (some task)
        queue := rest
        taken := crew.taken ++ [task] } := by
  obtain ⟨all, alone⟩ := balanced
  obtain ⟨others, more, fewer, before, after⟩ := filterMap_set idle (some task)
  have was : crew.ended ++ underway crew = (crew.ended ++ others) ++ more := by
    rw [underway, before, List.append_assoc]
    rfl
  have now :
      crew.ended ++ (crew.workers.set worker (some task)).filterMap id =
        (crew.ended ++ others) ++ task :: more := by
    rw [after, List.append_assoc]
    rfl
  rw [was] at all alone
  constructor
  · rw [underway, now]
    exact (List.perm_middle.trans (all.cons task)).trans (List.perm_append_singleton _ _).symm
  · intro single
    rw [List.length_set] at single
    have nobody : more = [] := List.length_eq_zero_iff.mp (by omega)
    rw [underway, now, ← alone single, nobody, List.append_nil]

theorem Balanced.finish
    {crew : Crew job}
    (balanced : Balanced crew)
    (busy : crew.workers[worker]? = some (some task))
    (notices : List Notice) :
    Balanced
      { crew with
        workers := crew.workers.set worker none
        ended := crew.ended ++ [task]
        notices } := by
  obtain ⟨all, alone⟩ := balanced
  obtain ⟨others, more, fewer, before, after⟩ := filterMap_set busy none
  have was : crew.ended ++ underway crew = crew.ended ++ (others ++ task :: more) := by
    rw [underway, before]
    rfl
  have now :
      (crew.ended ++ [task]) ++ (crew.workers.set worker none).filterMap id =
        crew.ended ++ task :: (others ++ more) := by
    rw [after, List.append_assoc]
    rfl
  rw [was] at all alone
  constructor
  · rw [underway, now]
    exact (List.perm_middle.symm.append_left _).trans all
  · intro single
    rw [List.length_set] at single
    have nobody : others = [] := List.length_eq_zero_iff.mp (by omega)
    rw [underway, now, ← alone single, nobody]
    rfl

/-! ## What is kept -/

/-- What holds after every run. -/
structure Kept
    (name : String)
    (threads : Nat)
    (events : List (Event job))
    (shift : Shift job) : Prop where
  jobs : shift.crew.jobs = accepted events
  accepting : shift.crew.accepting = true ↔ .crew .stop ∉ events
  name : shift.crew.name = name
  workers : shift.crew.workers.length = max threads 1
  balanced : Balanced shift.crew
  gone :
    ∀ worker ∈ shift.gone,
      shift.crew.workers[worker]? = some none ∧ shift.crew.queue = [] ∧
        shift.crew.accepting = false

theorem kept_ofThreads
    (name : String)
    (threads : Nat) :
    Kept name threads [] (ofThreads name threads : Shift job) where
  jobs := rfl
  accepting := by simp [ofThreads, Crew.ofThreads]
  name := rfl
  workers := List.length_replicate
  balanced := balanced_ofThreads name threads
  gone _ := nofun

variable
  {name : String}
  {threads : Nat}

/-- While jobs are taken in somebody is there. -/
theorem Kept.not_isOver
    (kept : Kept name threads events shift)
    (running : shift.crew.accepting = true) :
    shift.isOver = false := by
  have first : 0 < shift.crew.workers.length := by
    rw [kept.workers]
    exact Nat.le_max_right threads 1
  rw [isOver, List.all_eq_false]
  refine ⟨0, List.mem_range.mpr first, fun gone => ?_⟩
  obtain ⟨-, -, stopped⟩ := kept.gone 0 (of_decide_eq_true gone)
  cases running.symm.trans stopped

/-- A job is taken in as long as the crew was not stopped. -/
theorem Kept.dispatch_eq
    (kept : Kept name threads events shift)
    (task : job) :
    shift.dispatch task =
      (shift.crew.accepting, { shift with crew := (shift.crew.dispatch task).2 }) := by
  cases running : shift.crew.accepting with
  | true => simp [Shift.dispatch, kept.not_isOver running, Crew.dispatch, running]
  | false => simp [Shift.dispatch, Crew.dispatch, running]

/-- Where nothing is handed over and nobody is stopped. -/
theorem Kept.quiet
    (kept : Kept name threads events shift)
    (event : Event job)
    (nothing : accepted [event] = [])
    (going : event ≠ .crew .stop) :
    shift.crew.jobs = accepted (events ++ [event]) ∧
      (shift.crew.accepting = true ↔ .crew .stop ∉ events ++ [event]) := by
  constructor
  · rw [kept.jobs]
    by_cases stopped : Event.crew .stop ∈ events
    · rw [accepted_append_of_stopped stopped]
    · rw [accepted_append_of_running stopped, nothing, List.append_nil]
  · rw [kept.accepting]
    simp [Ne.symm going]

theorem Kept.dispatch
    (kept : Kept name threads events shift)
    (task : job) :
    Kept name threads (events ++ [.crew (.dispatch task)]) (shift.dispatch task).2 := by
  have going : Event.crew .stop ∉ events ++ [Event.crew (.dispatch task)] ↔
      Event.crew .stop ∉ events := by
    simp
  rw [kept.dispatch_eq]
  by_cases running : shift.crew.accepting = true
  · have unstopped := kept.accepting.mp running
    rw [Crew.dispatch, if_pos running]
    refine { kept with jobs := ?_, accepting := ?_, balanced := ?_, gone := ?_ }
    · rw [accepted_append_of_running unstopped, ← kept.jobs]
      exact (List.append_assoc _ _ _).symm
    · rw [going]
      exact kept.accepting
    · exact ⟨kept.balanced.all, kept.balanced.alone⟩
    · intro worker left
      cases running.symm.trans (kept.gone worker left).2.2
  · have stopped : Event.crew .stop ∈ events := by
      by_contra unstopped
      exact running (kept.accepting.mpr unstopped)
    rw [Crew.dispatch, if_neg running]
    refine { kept with jobs := ?_, accepting := ?_ }
    · rw [accepted_append_of_stopped stopped]
      exact kept.jobs
    · rw [going]
      exact kept.accepting

theorem Kept.stop (kept : Kept name threads events shift) :
    Kept name threads (events ++ [.crew .stop]) { shift with crew := shift.crew.stop } := by
  have same : accepted (events ++ [.crew .stop]) = accepted events := by
    by_cases stopped : Event.crew .stop ∈ events
    · exact accepted_append_of_stopped stopped _
    · rw [accepted_append_of_running stopped, accepted, List.append_nil]
  refine { kept with jobs := ?_, accepting := ?_, balanced := ?_, gone := ?_ }
  · rw [same]
    exact kept.jobs
  · simp [Crew.stop]
  · exact ⟨kept.balanced.all, kept.balanced.alone⟩
  · intro worker left
    obtain ⟨idle, empty, -⟩ := kept.gone worker left
    exact ⟨idle, empty, rfl⟩

theorem Kept.step
    (kept : Kept name threads events shift)
    (changes : Changes outcome shift event next) :
    Kept name threads (events ++ [event]) next := by
  cases changes with
  | dispatch task => exact kept.dispatch task
  | stop => exact kept.stop
  | @take worker task rest here idle waiting =>
      have still : shift.crew.taken ++ [task] ++ rest = shift.crew.jobs := by
        rw [Crew.jobs, waiting, List.append_assoc]
        rfl
      obtain ⟨jobs, accepting⟩ := kept.quiet (.crew (.take worker)) rfl (by simp)
      refine { kept with
        jobs := still.trans jobs, accepting, workers := ?_, balanced := ?_, gone := ?_ }
      · rw [← kept.workers]
        exact List.length_set
      · exact kept.balanced.take idle task rest
      · intro other left
        cases waiting.symm.trans (kept.gone other left).2.1
  | @finish worker task busy =>
      obtain ⟨jobs, accepting⟩ := kept.quiet (.crew (.finish worker)) rfl (by simp)
      refine { kept with jobs, accepting, workers := ?_, balanced := ?_, gone := ?_ }
      · rw [← kept.workers]
        exact List.length_set
      · exact kept.balanced.finish busy _
      · intro other left
        obtain ⟨idle, empty, stopped⟩ := kept.gone other left
        have apart : worker ≠ other := by
          rintro rfl
          cases idle.symm.trans busy
        exact ⟨(List.getElem?_set_ne apart).trans idle, empty, stopped⟩
  | @leave worker idle empty stopped here =>
      obtain ⟨jobs, accepting⟩ := kept.quiet (.leave worker) rfl (by simp)
      refine { kept with jobs, accepting, gone := ?_ }
      intro other left
      rcases List.mem_append.mp left with before | last
      · exact kept.gone other before
      · rw [List.mem_singleton.mp last]
        exact ⟨idle, empty, stopped⟩

theorem kept_run (ran : events.foldlM (step? outcome) (ofThreads name threads) = some final) :
    Kept name threads events final := by
  induction ran using foldlM_induction with
  | none => exact kept_ofThreads name threads
  | snoc events event between final before stepped ih =>
      exact ih.step (changes_of_step? stepped)

/-! ## What the log says -/

/-- The job that an event ends, with the worker that was busy with it. -/
def ends : Shift job × Event job → Option (Nat × job)
  | (shift, .crew (.finish worker)) => shift.crew.workers[worker]?.join.map (worker, ·)
  | _ => none

/-- The jobs that ended in a run, in order, each with its worker. -/
def endings
    (outcome : job → HandlerOutcome)
    (start : Shift job)
    (events : List (Event job)) :
    List (Nat × job) :=
  (visits (step? outcome) start events).filterMap ends

theorem endings_snoc
    (ran : events.foldlM (step? outcome) start = some final)
    (event : Event job) :
    endings outcome start (events ++ [event]) =
      endings outcome start events ++ (ends (final, event)).toList := by
  rw [endings, visits_snoc ran, List.filterMap_append]
  cases ended : ends (final, event) <;> simp [endings, ended]

/-- What the log says about a job that ended. -/
def records
    (outcome : job → HandlerOutcome)
    (name : String)
    (ending : Nat × job) :
    List Notice :=
  Crew.noticeOf (name ++ "-" ++ toString ending.1) (outcome ending.2)

/-- Nothing is said about a job that was done, and one thing about any other. -/
theorem length_records
    (outcome : job → HandlerOutcome)
    (name : String)
    (ending : Nat × job) :
    (records outcome name ending).length = if outcome ending.2 = .done then 0 else 1 := by
  rw [records]
  cases outcome ending.2 <;> rfl

theorem length_flatMap_records
    (outcome : job → HandlerOutcome)
    (name : String)
    (endings : List (Nat × job)) :
    (endings.flatMap (records outcome name)).length =
      (endings.map Prod.snd).countP (outcome · ≠ .done) := by
  induction endings with
  | nil => rfl
  | cons ending endings ih =>
      rw [List.flatMap_cons, List.length_append, ih, length_records, List.map_cons,
        List.countP_cons, Nat.add_comm]
      by_cases done : outcome ending.2 = .done
      · simp [done]
      · simp [done]

/-- The shift with another log. -/
def withLog
    (shift : Shift job)
    (notices : List Notice) :
    Shift job :=
  { shift with crew := { shift.crew with notices } }

/-- Whatever jobs come to, the same events happen, and they change the same but for the
log. -/
theorem Changes.withLog
    (changes : Changes outcome shift event next)
    (other : job → HandlerOutcome)
    (notices : List Notice) :
    Changes other (shift.withLog notices) event
      (next.withLog
        (notices ++ (ends (shift, event)).toList.flatMap (records other shift.crew.name))) := by
  cases changes with
  | dispatch task =>
      have same : (shift.withLog notices).isOver = shift.isOver := rfl
      have same :
          ((shift.withLog notices).dispatch task).2 =
            (shift.dispatch task).2.withLog (notices ++ []) := by
        rw [List.append_nil, Shift.dispatch, Shift.dispatch, same]
        by_cases nobody : shift.isOver = true
        · rw [if_pos nobody, if_pos nobody]
        · rw [if_neg nobody, if_neg nobody]
          by_cases running : shift.crew.accepting = true
          · simp [Shift.withLog, Crew.dispatch, running]
          · simp [Shift.withLog, Crew.dispatch, running]
      exact same ▸ .dispatch task
  | stop =>
      have made : Changes other (shift.withLog notices) (.crew .stop) _ := .stop
      simpa [ends, Shift.withLog, Crew.stop] using made
  | @take worker task rest here idle waiting =>
      have made : Changes other (shift.withLog notices) (.crew (.take worker)) _ :=
        .take here idle waiting
      simpa [ends, Shift.withLog] using made
  | @finish worker task busy =>
      have made : Changes other (shift.withLog notices) (.crew (.finish worker)) _ :=
        .finish busy
      simpa [ends, Shift.withLog, busy, records, Crew.workerName] using made
  | @leave worker idle empty stopped here =>
      have made : Changes other (shift.withLog notices) (.leave worker) _ :=
        .leave idle empty stopped here
      simpa [ends, Shift.withLog] using made

/-- With other outcomes the same run leads to the same shift with another log. -/
theorem withLog_run
    (ran : events.foldlM (step? outcome) (ofThreads name threads) = some final)
    (other : job → HandlerOutcome) :
    events.foldlM (step? other) (ofThreads name threads) =
      some
        (final.withLog
          ((endings outcome (ofThreads name threads) events).flatMap (records other name))) := by
  induction ran using foldlM_induction with
  | none => rfl
  | snoc events event between final before stepped ih =>
      have changes := changes_of_step? stepped
      rw [foldlM_snoc_iff]
      refine ⟨_, ih, ?_⟩
      rw [endings_snoc before, List.flatMap_append, ← (kept_run before).name]
      exact (changes.withLog other _).step?

/-- Events end the jobs that are on record as ended. -/
theorem map_endings
    (ran : events.foldlM (step? outcome) (ofThreads name threads) = some final) :
    (endings outcome (ofThreads name threads) events).map Prod.snd = final.crew.ended := by
  induction ran using foldlM_induction with
  | none => rfl
  | snoc events event between final before stepped ih =>
      rw [endings_snoc before, List.map_append, ih]
      cases changes_of_step? stepped with
      | dispatch task =>
          rw [(kept_run before).dispatch_eq, Crew.dispatch]
          split <;> simp [ends]
      | finish busy => simp [ends, busy]
      | stop => simp [ends, Crew.stop]
      | take here idle waiting => simp [ends]
      | leave idle empty stopped here => simp [ends]

/-! ## Work goes on until all have gone -/

/-- The event is a worker's. -/
def Event.isWork : Event job → Bool
  | .crew (.take _) => true
  | .crew (.finish _) => true
  | .leave _ => true
  | _ => false

/-- How much workers have still to do. -/
def toDo (shift : Shift job) : Nat :=
  2 * shift.crew.queue.length + (underway shift.crew).length +
    ((List.range shift.crew.workers.length).filter (· ∉ shift.gone)).length

/-- As long as somebody is there who was told that no more will come, some worker gets on. -/
theorem exists_work
    (outcome : job → HandlerOutcome)
    (stopped : shift.crew.accepting = false)
    (going : shift.isOver = false) :
    ∃ event next,
      Event.isWork event = true ∧ Changes outcome shift event next ∧
        next.crew.accepting = false ∧ toDo next < toDo shift := by
  rw [isOver, List.all_eq_false] at going
  obtain ⟨worker, inside, here⟩ := going
  rw [List.mem_range] at inside
  rw [decide_eq_true_eq] at here
  cases held : shift.crew.workers[worker] with
  | some task =>
      have busy : shift.crew.workers[worker]? = some (some task) := by
        rw [List.getElem?_eq_getElem inside, held]
      refine ⟨_, _, rfl, .finish busy, stopped, ?_⟩
      obtain ⟨others, more, -, before, after⟩ := filterMap_set busy none
      simp only [toDo, underway, before, after, List.length_append, List.length_cons,
        List.length_set, Option.toList_none, Option.toList_some, List.length_nil]
      omega
  | none =>
      have idle : shift.crew.workers[worker]? = some none := by
        rw [List.getElem?_eq_getElem inside, held]
      cases waiting : shift.crew.queue with
      | cons task rest =>
          refine ⟨_, _, rfl, .take here idle waiting, stopped, ?_⟩
          obtain ⟨others, more, -, before, after⟩ := filterMap_set idle (some task)
          simp only [toDo, underway, before, after, waiting, List.length_append,
            List.length_cons, List.length_set, Option.toList_none, Option.toList_some,
            List.length_nil]
          omega
      | nil =>
          refine ⟨_, _, rfl, .leave idle waiting stopped here, stopped, ?_⟩
          have stays :
              (List.range shift.crew.workers.length).filter (· ∉ shift.gone ++ [worker]) =
                ((List.range shift.crew.workers.length).filter (· ∉ shift.gone)).filter
                  (· ≠ worker) := by
            simp [List.filter_filter, and_comm]
          have fewer :
              ((List.range shift.crew.workers.length).filter
                  (· ∉ shift.gone ++ [worker])).length <
                ((List.range shift.crew.workers.length).filter (· ∉ shift.gone)).length := by
            rw [stays, List.length_filter_lt_length_iff_exists]
            exact ⟨worker, by simp [inside, here], by simp⟩
          exact Nat.add_lt_add_left fewer _

/-- Workers alone bring a shift to its end. -/
theorem Kept.exists_isOver
    (kept : Kept name threads events shift)
    (outcome : job → HandlerOutcome)
    (stopped : shift.crew.accepting = false) :
    ∃ (later : List (Event job)) (last : Shift job),
      (∀ event ∈ later, Event.isWork event = true) ∧
        later.foldlM (step? outcome) shift = some last ∧ last.isOver = true := by
  induction amount : toDo shift using Nat.strongRecOn generalizing events shift with
  | _ amount ih =>
      cases going : shift.isOver with
      | true => exact ⟨[], shift, nofun, rfl, going⟩
      | false =>
          obtain ⟨event, next, work, changes, still, less⟩ :=
            exists_work outcome stopped going
          obtain ⟨later, last, works, ran, finished⟩ :=
            ih (toDo next) (amount ▸ less) (kept.step changes) still rfl
          refine
            ⟨event :: later, last, List.forall_mem_cons.mpr ⟨work, works⟩, ?_, finished⟩
          rw [List.foldlM_cons, changes.step?]
          exact ran

/-! ## All together -/

/-- What can be relied on after any run of a shift. -/
structure WorkedOff
    (outcome : job → HandlerOutcome)
    (name : String)
    (threads : Nat)
    (events : List (Event job))
    (final : Shift job) : Prop where
  /-- A job is taken in exactly if the crew was not stopped before. -/
  answered :
    ∀ earlier task later between,
      events = earlier ++ .crew (.dispatch task) :: later →
        earlier.foldlM (step? outcome) (ofThreads name threads) = some between →
          ((between.dispatch task).1 = true ↔ .crew .stop ∉ earlier)
  /-- Jobs are taken up in the order in which they were handed over. -/
  taken : final.crew.taken <+: accepted events
  /-- Nobody goes while anything waits or can still come. -/
  stays : ∀ worker ∈ final.gone, .crew .stop ∈ events ∧ final.crew.queue = []
  /-- When all have gone, each job that was taken in has ended once. -/
  ended :
    final.isOver = true →
      final.crew.taken = accepted events ∧ final.crew.ended.Perm (accepted events) ∧
        (threads ≤ 1 → final.crew.ended = accepted events)
  /-- The log has one record for each job that ended and was not done. -/
  noted :
    (endings outcome (ofThreads name threads) events).map Prod.snd = final.crew.ended ∧
      final.crew.notices =
        (endings outcome (ofThreads name threads) events).flatMap (records outcome name) ∧
      final.crew.notices.length = final.crew.ended.countP (outcome · ≠ .done)
  /-- With other outcomes everything happens in the same way but for the log. -/
  outcomes :
    ∀ other : job → HandlerOutcome,
      events.foldlM (step? other) (ofThreads name threads) =
        some
          (final.withLog
            ((endings outcome (ofThreads name threads) events).flatMap
              (records other name)))
  /-- After a stop the workers need nobody else to come to the end. -/
  ends :
    .crew .stop ∈ events →
      ∃ (later : List (Event job)) (last : Shift job),
        (∀ event ∈ later, Event.isWork event = true) ∧
          later.foldlM (step? outcome) final = some last ∧ last.isOver = true

/-- Where all have gone nothing waits and nothing is worked at. -/
theorem Kept.rests_of_isOver
    (kept : Kept name threads events shift)
    (finished : shift.isOver = true) :
    shift.crew.queue = [] ∧ underway shift.crew = [] := by
  have all : ∀ worker < shift.crew.workers.length, worker ∈ shift.gone := by
    simpa [isOver] using finished
  have first : 0 < shift.crew.workers.length := by
    rw [kept.workers]
    exact Nat.le_max_right threads 1
  refine ⟨(kept.gone 0 (all 0 first)).2.1, ?_⟩
  rw [underway, List.filterMap_eq_nil_iff]
  intro held there
  obtain ⟨worker, place⟩ := List.getElem?_of_mem there
  have inside := (List.getElem?_eq_some_iff.mp place).1
  exact Option.some.inj (place.symm.trans (kept.gone worker (all worker inside)).1)

/-- Whatever handlers do and however many workers there are, jobs that were handed over
before the crew was stopped are worked off, each once. -/
theorem worked_off
    (ran : events.foldlM (step? outcome) (ofThreads name threads) = some final) :
    WorkedOff outcome name threads events final := by
  have kept := kept_run ran
  have log :
      final.crew.notices =
        (endings outcome (ofThreads name threads) events).flatMap (records outcome name) := by
    have same := Option.some.inj (ran.symm.trans (withLog_run ran outcome))
    exact congrArg (·.crew.notices) same
  constructor
  case answered =>
    rintro earlier task later between - before
    have sooner := kept_run before
    rw [sooner.dispatch_eq]
    exact sooner.accepting
  case taken =>
    rw [← kept.jobs]
    exact List.prefix_append _ _
  case stays =>
    intro worker left
    obtain ⟨-, empty, stopped⟩ := kept.gone worker left
    refine ⟨?_, empty⟩
    by_contra running
    cases stopped.symm.trans (kept.accepting.mpr running)
  case ended =>
    intro finished
    obtain ⟨empty, nobody⟩ := kept.rests_of_isOver finished
    have all : final.crew.taken = accepted events := by
      rw [← kept.jobs, Crew.jobs, empty, List.append_nil]
    have balanced := kept.balanced
    refine ⟨all, ?_, fun single => ?_⟩
    · have perm := balanced.all
      rwa [nobody, List.append_nil, all] at perm
    · have same := balanced.alone (by rw [kept.workers]; omega)
      rwa [nobody, List.append_nil, all] at same
  case noted =>
    refine ⟨map_endings ran, log, ?_⟩
    rw [log, ← map_endings ran]
    exact length_flatMap_records _ _ _
  case outcomes => exact withLog_run ran
  case ends =>
    intro stopped
    refine kept.exists_isOver outcome ?_
    cases running : final.crew.accepting with
    | false => rfl
    | true => exact absurd stopped (kept.accepting.mp running)

/-- Two workers and three jobs, of which two go wrong and one still waits when the crew is
stopped.  A fourth comes too late. -/
theorem worked_off_two_workers :
    let outcome : Nat → HandlerOutcome := fun task =>
      if task = 1 then .failed "bad" else if task = 2 then .panicked else .done
    let events : List (Event Nat) :=
      [.crew (.dispatch 0), .crew (.dispatch 1), .crew (.take 0), .crew (.dispatch 2),
        .crew .stop, .crew (.dispatch 3), .crew (.take 1), .crew (.finish 1), .crew (.take 1),
        .crew (.finish 1), .crew (.finish 0), .leave 0, .leave 1]
    ∃ final,
      events.foldlM (step? outcome) (ofThreads "crew" 2) = some final ∧
        WorkedOff outcome "crew" 2 events final ∧ final.isOver = true ∧
          accepted events = [0, 1, 2] ∧ final.crew.ended = [1, 2, 0] ∧
            final.crew.notices =
              [.handlerFailed "crew-1" "bad", .handlerPanicked "crew-1"] := by
  intro outcome events
  exact ⟨_, rfl, worked_off rfl, rfl, rfl, rfl, rfl⟩

end Shift

end LineProtocol
