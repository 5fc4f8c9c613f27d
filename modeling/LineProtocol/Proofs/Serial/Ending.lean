import LineProtocol.Serial.Basic

/-!
# How a context ends

A context is ended by a last job, which is handed in once.  It runs behind all
that was taken before, nothing is taken behind it, and then the loop ends.
`Serial.Stage` says how far this is, and every step of the loop keeps to it.
-/

namespace LineProtocol

namespace Serial

variable {σ job ρ : Type}

/-- The job that the loop takes next. -/
def next? (serial : Serial σ job) : Option job :=
  if serial.ended then none
  else
    match serial.queue with
    | .run task :: _ => some task
    | _ => none

/-- Hands the last job in, without waiting for its answer. -/
def handLast
    (serial : Serial σ job)
    (task : job) :
    Except Fault Unit × Serial σ job :=
  match serial.refuse with
  | (false, serial) => (.error .tornDown, serial)
  | (true, refusing) =>
      match refusing.enqueue (.run task) with
      | (.error cause, serial) => (.error cause, serial)
      | (.ok (), waiting) => waiting.enqueue .stop

theorem handLast_of_stopped
    {serial : Serial σ job}
    (stopped : serial.stopped = true)
    (task : job) :
    serial.handLast task = (.error .tornDown, { serial with stopped := true }) := by
  simp [handLast, refuse, stopped]

/-- Who hands the last job in and gets through waits for its answer. -/
theorem finish_eq
    (craft : Craft σ job ρ)
    (serial : Serial σ job)
    (task : job) :
    serial.finish craft task =
      match serial.handLast task with
      | (.error cause, serial) => (.error cause, serial)
      | (.ok (), waiting) => waiting.answerAt craft serial.queue.length := by
  unfold finish handLast
  rcases serial.refuse with ⟨new, refusing⟩
  cases new with
  | false => rfl
  | true =>
      simp only
      rcases refusing.enqueue (.run task) with ⟨outcome, waiting⟩
      cases outcome with
      | error cause => rfl
      | ok => rfl

/-- Jobs were handed in from outside, if any were taken. -/
structure Extends
    (among : job → Prop)
    (before after : Serial σ job) : Prop where
  stopped : after.stopped = before.stopped
  ended : after.ended = before.ended
  queue :
    ∃ jobs : List job,
      after.queue = before.queue ++ jobs.map .run ∧ (∀ task ∈ jobs, among task) ∧
        (before.stopped = true → jobs = [])

variable {among : job → Prop}

theorem Extends.of_eq
    {before after : Serial σ job}
    (stopped : after.stopped = before.stopped)
    (ended : after.ended = before.ended)
    (queue : after.queue = before.queue) :
    Extends among before after :=
  ⟨stopped, ended, [], by simp [queue], by simp, fun _ => rfl⟩

theorem Extends.refl (serial : Serial σ job) : Extends among serial serial :=
  .of_eq rfl rfl rfl

theorem Extends.trans
    {first second third : Serial σ job}
    (one : Extends among first second)
    (two : Extends among second third) :
    Extends among first third where
  stopped := two.stopped.trans one.stopped
  ended := two.ended.trans one.ended
  queue := by
    obtain ⟨jobs, queue, here, none⟩ := one.queue
    obtain ⟨more, longer, there, nothing⟩ := two.queue
    refine ⟨jobs ++ more, by simp [longer, queue], ?_, ?_⟩
    · intro task member
      rcases List.mem_append.mp member with early | late
      · exact here task early
      · exact there task late
    · intro stopped
      rw [none stopped, nothing (one.stopped.trans stopped)]
      rfl

theorem Extends.mono
    {others : job → Prop}
    {before after : Serial σ job}
    (extends_ : Extends among before after)
    (weaker : ∀ task, among task → others task) :
    Extends others before after := by
  obtain ⟨stopped, ended, jobs, queue, all, nothing⟩ := extends_
  exact ⟨stopped, ended, jobs, queue, fun task member => weaker task (all task member), nothing⟩

theorem extends_submit
    (serial : Serial σ job)
    {task : job}
    (known : among task) :
    Extends among serial (serial.submit task).2 := by
  unfold submit enqueue
  split
  · exact .refl serial
  · rename_i taking
    split
    · exact .refl serial
    · exact ⟨rfl, rfl, [task], rfl, by simpa using known, fun stopped => (taking stopped).elim⟩

/-- A job that is handed in waits behind all others, unless no job is taken any
more. -/
theorem submit_cases
    (serial : Serial σ job)
    (task : job) :
    (serial.stopped = false ∧ serial.ended = false ∧
        serial.submit task =
          (.ok (), { serial with queue := serial.queue ++ [.run task] })) ∨
      ((serial.stopped = true ∨ serial.ended = true) ∧
        serial.submit task = (.error .tornDown, serial)) := by
  by_cases stopped : serial.stopped = true
  · exact .inr ⟨.inl stopped, by rw [submit, if_pos stopped]⟩
  · by_cases ended : serial.ended = true
    · exact .inr ⟨.inr ended, by rw [submit, if_neg stopped, enqueue, if_pos ended]⟩
    · refine .inl ⟨by simpa using stopped, by simpa using ended, ?_⟩
      rw [submit, if_neg stopped, enqueue, if_neg ended]

/-- A job that is taken waits in the queue. -/
theorem mem_queue_of_submit
    {serial waiting : Serial σ job}
    {task : job}
    (taken : serial.submit task = (.ok (), waiting)) :
    .run task ∈ waiting.queue := by
  rcases serial.submit_cases task with ⟨-, -, accepted⟩ | ⟨-, refused⟩
  · obtain ⟨-, rfl⟩ := Prod.mk.inj (accepted.symm.trans taken)
    simp
  · exact nomatch (Prod.mk.inj (refused.symm.trans taken)).1

/-! ## How far a context is -/

/-- How far a context is that is ended by one last job. -/
inductive Stage (last : job) (serial : Serial σ job) : Prop where
  | taking
    (stopped : serial.stopped = false)
    (ended : serial.ended = false)
    (jobs : List job)
    (queue : serial.queue = jobs.map .run)
    (others : last ∉ jobs)
  | finishing
    (stopped : serial.stopped = true)
    (ended : serial.ended = false)
    (jobs : List job)
    (queue : serial.queue = jobs.map .run ++ [.run last, .stop])
    (others : last ∉ jobs)
  /-- The last job ran. -/
  | stopping
    (stopped : serial.stopped = true)
    (ended : serial.ended = false)
    (queue : serial.queue = [.stop])
  | finished
    (stopped : serial.stopped = true)
    (ended : serial.ended = true)
    (queue : serial.queue = [])

variable {last : job}

theorem Stage.extends
    {before after : Serial σ job}
    (stage : Stage last before)
    (later : Extends (· ≠ last) before after) :
    Stage last after := by
  obtain ⟨stopped, ended, jobs, queue, others, nothing⟩ := later
  cases stage with
  | taking open_ running waiting queued apart =>
      refine .taking (stopped.trans open_) (ended.trans running) (waiting ++ jobs) ?_ ?_
      · rw [queue, queued, List.map_append]
      · rw [List.mem_append, not_or]
        exact ⟨apart, fun member => others last member rfl⟩
  | finishing shut running waiting queued apart =>
      refine .finishing (stopped.trans shut) (ended.trans running) waiting ?_ apart
      rw [queue, nothing shut, queued]
      simp
  | stopping shut running queued =>
      refine .stopping (stopped.trans shut) (ended.trans running) ?_
      rw [queue, nothing shut, queued]
      rfl
  | finished shut done queued =>
      refine .finished (stopped.trans shut) (ended.trans done) ?_
      rw [queue, nothing shut, queued]
      rfl

theorem Stage.of_ended
    {serial : Serial σ job}
    (stage : Stage last serial)
    (ended : serial.ended = true) :
    serial.stopped = true ∧ serial.queue = [] := by
  cases stage with
  | taking open_ running => simp [running] at ended
  | finishing shut running => simp [running] at ended
  | stopping shut running => simp [running] at ended
  | finished shut done queue => exact ⟨shut, queue⟩

theorem next?_eq_some_iff
    {serial : Serial σ job}
    {task : job} :
    serial.next? = some task ↔
      serial.ended = false ∧ ∃ rest, serial.queue = .run task :: rest := by
  unfold next?
  cases serial.ended with
  | true => simp
  | false =>
      cases serial.queue with
      | nil => simp
      | cons envelope rest => cases envelope <;> simp

/-- The loop runs a job, or ends, or has nothing to do. -/
theorem runNext_cases
    (craft : Craft σ job ρ)
    (serial : Serial σ job) :
    (∃ task rest,
        serial.next? = some task ∧ serial.queue = .run task :: rest ∧
          (serial.runNext craft).1 =
            some (craft.run serial.stopped task serial.state).answer ∧
          (serial.runNext craft).2.state =
            (craft.run serial.stopped task serial.state).state ∧
          (serial.runNext craft).2.queue =
            rest ++ (craft.run serial.stopped task serial.state).submitted.map .run ∧
          (serial.runNext craft).2.stopped = serial.stopped ∧
          (serial.runNext craft).2.ended = serial.ended) ∨
      (∃ rest,
        serial.queue = .stop :: rest ∧ serial.next? = none ∧
          serial.runNext craft = (none, { serial with queue := rest, ended := true })) ∨
      (serial.next? = none ∧ serial.runNext craft = (none, serial)) := by
  unfold runNext next?
  cases ended : serial.ended with
  | true => exact .inr (.inr ⟨rfl, rfl⟩)
  | false =>
      cases queue : serial.queue with
      | nil => exact .inr (.inr ⟨rfl, rfl⟩)
      | cons envelope rest =>
          cases envelope with
          | stop => exact .inr (.inl ⟨rest, rfl, rfl, rfl⟩)
          | run task => exact .inl ⟨task, rest, rfl, rfl, rfl, rfl, rfl, rfl, rfl⟩

/-- What running the first job comes to. -/
theorem runNext_of_next?
    (craft : Craft σ job ρ)
    {serial : Serial σ job}
    {task : job}
    (first : serial.next? = some task) :
    ∃ rest,
      serial.queue = .run task :: rest ∧
        (serial.runNext craft).1 =
          some (craft.run serial.stopped task serial.state).answer ∧
        (serial.runNext craft).2.state =
          (craft.run serial.stopped task serial.state).state ∧
        (serial.runNext craft).2.queue =
          rest ++ (craft.run serial.stopped task serial.state).submitted.map .run ∧
        (serial.runNext craft).2.stopped = serial.stopped ∧
        (serial.runNext craft).2.ended = serial.ended := by
  rcases runNext_cases craft serial with
    ⟨other, rest, next, facts⟩ | ⟨rest, -, idle, -⟩ | ⟨idle, -⟩
  · rw [first] at next
    obtain rfl := Option.some.inj next
    exact ⟨rest, facts⟩
  · simp [first] at idle
  · simp [first] at idle

/-- Where there is no job to take, no job is lost. -/
theorem runNext_of_idle
    (craft : Craft σ job ρ)
    {serial : Serial σ job}
    (idle : serial.next? = none) :
    (serial.runNext craft).1 = none ∧
      (serial.runNext craft).2.state = serial.state ∧
      (serial.runNext craft).2.stopped = serial.stopped ∧
      ∀ task, .run task ∈ (serial.runNext craft).2.queue ↔ .run task ∈ serial.queue := by
  rcases runNext_cases craft serial with
    ⟨task, rest, first, -⟩ | ⟨rest, queue, -, whole⟩ | ⟨-, whole⟩
  · simp [first] at idle
  · simp [whole, queue]
  · simp [whole]

/-- Nothing waits behind the end. -/
theorem Stage.rest_of_stop
    {serial : Serial σ job}
    {rest : List (Envelope job)}
    (stage : Stage last serial)
    (queue : serial.queue = .stop :: rest) :
    serial.stopped = true ∧ rest = [] := by
  cases stage with
  | taking open_ running jobs queued others =>
      cases jobs <;> simp [queued] at queue
  | finishing shut running jobs queued others =>
      cases jobs <;> simp [queued] at queue
  | stopping shut running queued =>
      simp only [queued, List.cons.injEq, true_and] at queue
      exact ⟨shut, queue.symm⟩
  | finished shut done queued => simp [queued] at queue

/-- Where the loop takes nothing, nothing waits. -/
theorem Stage.queue_of_unmoved
    {craft : Craft σ job ρ}
    {serial : Serial σ job}
    (stage : Stage last serial)
    (idle : serial.next? = none)
    (unmoved : (serial.runNext craft).2 = serial) :
    serial.queue = [] := by
  cases stage with
  | taking open_ running jobs queued others =>
      cases jobs with
      | nil => exact queued
      | cons head jobs => simp [next?, running, queued] at idle
  | finishing shut running jobs queued others =>
      cases jobs <;> simp [next?, running, queued] at idle
  | stopping shut running queued =>
      have ended : (serial.runNext craft).2.ended = true := by
        simp [Serial.runNext, running, queued]
      rw [unmoved, running] at ended
      exact nomatch ended
  | finished shut done queued => exact queued

/-- Nothing waits behind the last job but the end. -/
theorem Stage.of_last
    {serial : Serial σ job}
    (stage : Stage last serial)
    (first : serial.next? = some last) :
    serial.stopped = true ∧ serial.ended = false ∧ serial.queue = [.run last, .stop] := by
  obtain ⟨running, rest, queue⟩ := next?_eq_some_iff.mp first
  cases stage with
  | taking open_ _ jobs queued others =>
      cases jobs with
      | nil => simp [queued] at queue
      | cons head jobs =>
          simp only [queued, List.map_cons, List.cons.injEq, Envelope.run.injEq] at queue
          exact (others (queue.1 ▸ List.mem_cons_self)).elim
  | finishing shut _ jobs queued others =>
      cases jobs with
      | nil => exact ⟨shut, running, queued⟩
      | cons head jobs =>
          simp only [queued, List.map_cons, List.cons_append, List.cons.injEq,
            Envelope.run.injEq] at queue
          exact (others (queue.1 ▸ List.mem_cons_self)).elim
  | stopping _ _ queued => simp [queued] at queue
  | finished _ _ queued => simp [queued] at queue

/-- Of all that is handed in, the last job comes last. -/
theorem Stage.runNext
    {craft : Craft σ job ρ}
    {serial : Serial σ job}
    (taken :
      ∀ stopped task state, ∀ next ∈ (craft.run stopped task state).submitted,
        stopped = false ∧ next ≠ last)
    (stage : Stage last serial) :
    Stage last (serial.runNext craft).2 := by
  rcases runNext_cases craft serial with
    ⟨task, rest, -, queue, -, -, after, stopped, ended⟩ | ⟨rest, queue, -, whole⟩ |
      ⟨-, whole⟩
  · have submitted := taken serial.stopped task serial.state
    cases stage with
    | taking open_ running jobs queued others =>
        cases jobs with
        | nil => simp [queued] at queue
        | cons head jobs =>
            simp only [queued, List.map_cons, List.cons.injEq, Envelope.run.injEq] at queue
            obtain ⟨rfl, rfl⟩ := queue
            refine .taking (stopped.trans open_) (ended.trans running)
              (jobs ++ (craft.run serial.stopped head serial.state).submitted) ?_ ?_
            · rw [after, List.map_append]
            · intro member
              rcases List.mem_append.mp member with waited | fresh
              · exact others (List.mem_cons_of_mem _ waited)
              · exact (submitted _ fresh).2 rfl
    | finishing shut running jobs queued others =>
        have none_ : (craft.run serial.stopped task serial.state).submitted = [] :=
          List.eq_nil_iff_forall_not_mem.mpr fun next member => by
            simp [(submitted next member).1] at shut
        rw [none_] at after
        cases jobs with
        | nil =>
            simp only [queued, List.map_nil, List.nil_append, List.cons.injEq] at queue
            refine .stopping (stopped.trans shut) (ended.trans running) ?_
            rw [after, ← queue.2]
            rfl
        | cons head jobs =>
            simp only [queued, List.map_cons, List.cons_append, List.cons.injEq] at queue
            refine .finishing (stopped.trans shut) (ended.trans running) jobs ?_
              fun member => others (List.mem_cons_of_mem _ member)
            rw [after, ← queue.2]
            simp
    | stopping shut running queued => simp [queued] at queue
    | finished shut done queued => simp [queued] at queue
  · obtain ⟨shut, rfl⟩ := stage.rest_of_stop queue
    rw [whole]
    exact .finished shut rfl rfl
  · rw [whole]
    exact stage

/-- Nobody but one gets the last job in. -/
theorem Stage.handLast
    {serial : Serial σ job}
    (stage : Stage last serial) :
    (∃ whole, serial.handLast last = (.ok (), whole) ∧ serial.stopped = false ∧
        Stage last whole ∧ whole.stopped = true ∧ whole.ended = false ∧
          whole.state = serial.state ∧
            whole.queue = serial.queue ++ [.run last, .stop]) ∨
      (serial.stopped = true ∧
        ∃ whole, serial.handLast last = (.error .tornDown, whole)) := by
  cases stage with
  | taking open_ running jobs queued others =>
      refine .inl ⟨{ serial with
        stopped := true
        queue := serial.queue ++ [.run last, .stop] }, ?_, open_, ?_, rfl, running, rfl, rfl⟩
      · simp [Serial.handLast, refuse, enqueue, open_, running]
      · exact .finishing rfl running jobs (by rw [queued]) others
  | finishing shut => exact .inr ⟨shut, _, handLast_of_stopped shut last⟩
  | stopping shut => exact .inr ⟨shut, _, handLast_of_stopped shut last⟩
  | finished shut => exact .inr ⟨shut, _, handLast_of_stopped shut last⟩

end Serial

end LineProtocol
