import LineProtocol.Proofs.Serial.Ending

/-!
# Running all that waits

A context that runs all that waits is given as many steps as its jobs can cause.
These are enough: afterwards nothing waits, or the loop has ended, and each job
that waited before the loop's end was answered, by what it says when all jobs before
it ran.  A request that fails fails because the context is torn down.
-/

namespace LineProtocol

theorem total_append (weights others : List Nat) :
    total (weights ++ others) = total weights + total others := by
  induction weights with
  | nil => simp
  | cons weight weights ih =>
      rw [List.cons_append, total_cons, total_cons, ih, Nat.add_assoc]

/-- What jobs make of a state, one after the other, each told whether jobs are refused. -/
def Craft.stateAfter
    {σ job ρ : Type}
    (craft : Craft σ job ρ)
    (entries : List (Bool × job))
    (state : σ) :
    σ :=
  entries.foldl (fun state entry => (craft.run entry.1 entry.2 state).state) state

theorem Craft.stateAfter_append
    {σ job ρ : Type}
    (craft : Craft σ job ρ)
    (earlier later : List (Bool × job))
    (state : σ) :
    craft.stateAfter (earlier ++ later) state =
      craft.stateAfter later (craft.stateAfter earlier state) :=
  List.foldl_append

namespace Serial

variable
  {σ job ρ : Type}
  {craft : Craft σ job ρ}
  {last : job}

/-- The loop has nothing to do any more. -/
def Idle (serial : Serial σ job) : Prop :=
  serial.ended = true ∨ serial.queue = []

/-- Running a job leaves less to do, whatever it hands in. -/
theorem load_runNext
    (craft : Craft σ job ρ)
    {serial : Serial σ job}
    {task : job}
    (first : serial.next? = some task) :
    (serial.runNext craft).2.load craft < serial.load craft := by
  obtain ⟨rest, queue, -, -, longer, -, -⟩ := runNext_of_next? craft first
  have lighter :
      total ((craft.run serial.stopped task serial.state).submitted.map
          fun task => craft.weight task) <
        craft.weight task :=
    craft.lighter serial.stopped task serial.state
  simp only [load, longer, queue, List.map_append, List.map_map, List.map_cons,
    total_append, total_cons, Function.comp_def]
  omega

/-- Where there is no job to take, the loop ends or has nothing to do. -/
theorem idle_runNext
    (craft : Craft σ job ρ)
    {serial : Serial σ job}
    (idle : serial.next? = none) :
    (serial.runNext craft).2.Idle := by
  cases ended : serial.ended with
  | true => exact .inl (by simp [runNext, ended])
  | false =>
      cases queue : serial.queue with
      | nil => exact .inr (by simp [runNext, ended, queue])
      | cons envelope rest =>
          cases envelope with
          | run task => simp [next?, ended, queue] at idle
          | stop => exact .inl (by simp [runNext, ended, queue])

theorem runFor_succ_of_next?
    (craft : Craft σ job ρ)
    {serial : Serial σ job}
    {task : job}
    (count : Nat)
    (first : serial.next? = some task) :
    runFor craft (count + 1) serial =
      ((craft.run serial.stopped task serial.state).answer ::
          (runFor craft count (serial.runNext craft).2).1,
        (runFor craft count (serial.runNext craft).2).2) := by
  obtain ⟨rest, -, answer, -⟩ := runNext_of_next? craft first
  rcases taken : serial.runNext craft with ⟨heard, after⟩
  rw [taken] at answer
  simp only [runFor, taken, show heard = _ from answer]

theorem runFor_succ_of_idle
    (craft : Craft σ job ρ)
    {serial : Serial σ job}
    (count : Nat)
    (idle : serial.next? = none) :
    runFor craft (count + 1) serial = ([], (serial.runNext craft).2) := by
  obtain ⟨answer, -⟩ := runNext_of_idle craft idle
  rcases taken : serial.runNext craft with ⟨heard, after⟩
  rw [taken] at answer
  simp only [runFor, taken, show heard = _ from answer]

/-- With enough steps the loop does all that there is to do. -/
theorem idle_runFor
    {count : Nat}
    {serial : Serial σ job}
    (enough : serial.load craft < count) :
    (runFor craft count serial).2.Idle := by
  induction count generalizing serial with
  | zero => exact (Nat.not_lt_zero _ enough).elim
  | succ count ih =>
      cases first : serial.next? with
      | some task =>
          rw [runFor_succ_of_next? craft count first]
          have less := load_runNext craft first
          exact ih (by omega)
      | none =>
          rw [runFor_succ_of_idle craft count first]
          exact idle_runNext craft first

/-- With enough steps each job that waits before the loop's end is answered. -/
theorem length_runFor
    {count : Nat}
    {serial : Serial σ job}
    {jobs : List job}
    {rest : List (Envelope job)}
    (running : serial.ended = false)
    (queue : serial.queue = jobs.map .run ++ rest)
    (enough : serial.load craft < count) :
    jobs.length ≤ (runFor craft count serial).1.length := by
  induction count generalizing serial jobs rest with
  | zero => exact (Nat.not_lt_zero _ enough).elim
  | succ count ih =>
      cases jobs with
      | nil => exact Nat.zero_le _
      | cons task jobs =>
          have first : serial.next? = some task :=
            next?_eq_some_iff.mpr ⟨running, _, queue⟩
          obtain ⟨behind, whole, -, -, longer, -, ended⟩ := runNext_of_next? craft first
          have left : behind = jobs.map .run ++ rest := by
            simpa using whole.symm.trans queue
          rw [left, List.append_assoc] at longer
          have less := load_runNext craft first
          rw [runFor_succ_of_next? craft count first]
          exact Nat.succ_le_succ (ih (ended.trans running) longer (by omega))

/-- Where no job gives up, each one is answered. -/
theorem answered_runFor
    (answers : ∀ stopped task state, ∃ value,
      (craft.run stopped task state).answer = some value)
    (count : Nat)
    (serial : Serial σ job) :
    ∀ answer ∈ (runFor craft count serial).1, answer.isSome = true := by
  induction count generalizing serial with
  | zero => simp [runFor]
  | succ count ih =>
      cases first : serial.next? with
      | some task =>
          rw [runFor_succ_of_next? craft count first]
          intro answer member
          rcases List.mem_cons.mp member with rfl | later
          · obtain ⟨value, here⟩ := answers serial.stopped task serial.state
            rw [here]
            rfl
          · exact ih _ answer later
      | none =>
          rw [runFor_succ_of_idle craft count first]
          simp

/-- Each job that waits is answered, where no job gives up. -/
theorem exists_answer
    (answers : ∀ stopped task state, ∃ value,
      (craft.run stopped task state).answer = some value)
    {serial : Serial σ job}
    {jobs : List job}
    {rest : List (Envelope job)}
    (running : serial.ended = false)
    (queue : serial.queue = jobs.map .run ++ rest)
    {place : Nat}
    (inside : place < jobs.length) :
    ∃ value, (serial.settle craft).1[place]? = some (some value) := by
  have long : place < (serial.settle craft).1.length :=
    Nat.lt_of_lt_of_le inside (length_runFor running queue (Nat.lt_succ_self _))
  have answered := answered_runFor answers _ serial _ (List.getElem_mem long)
  obtain ⟨value, answer⟩ := Option.isSome_iff_exists.mp answered
  exact ⟨value, by rw [List.getElem?_eq_getElem long, ← answer]⟩

/-- However long the loop runs, of all that is handed in the last job comes
last. -/
theorem Stage.runFor
    (taken :
      ∀ stopped task state, ∀ next ∈ (craft.run stopped task state).submitted,
        stopped = false ∧ next ≠ last)
    (count : Nat)
    {serial : Serial σ job}
    (stage : Stage last serial) :
    Stage last (Serial.runFor craft count serial).2 := by
  induction count generalizing serial with
  | zero => exact stage
  | succ count ih =>
      cases first : serial.next? with
      | some task =>
          rw [runFor_succ_of_next? craft count first]
          exact ih (stage.runNext taken)
      | none =>
          rw [runFor_succ_of_idle craft count first]
          exact stage.runNext taken

theorem stopped_runFor
    (craft : Craft σ job ρ)
    (count : Nat)
    (serial : Serial σ job) :
    (runFor craft count serial).2.stopped = serial.stopped := by
  induction count generalizing serial with
  | zero => rfl
  | succ count ih =>
      cases first : serial.next? with
      | some task =>
          obtain ⟨rest, -, -, -, -, stopped, -⟩ := runNext_of_next? craft first
          rw [runFor_succ_of_next? craft count first]
          exact (ih _).trans stopped
      | none =>
          obtain ⟨-, -, stopped, -⟩ := runNext_of_idle craft first
          rw [runFor_succ_of_idle craft count first]
          exact stopped

/-- A stopped context has ended when all that waited ran. -/
theorem Stage.ended_of_idle
    {serial : Serial σ job}
    (stage : Stage last serial)
    (idle : serial.Idle)
    (stopped : serial.stopped = true) :
    serial.ended = true := by
  rcases idle with ended | empty
  · exact ended
  · cases stage with
    | taking open_ => exact nomatch open_.symm.trans stopped
    | finishing shut running jobs queue => simp [queue] at empty
    | stopping shut running queue => simp [queue] at empty
    | finished shut ended => exact ended

/-! ## Where settling ends -/

variable
  {serial : Serial σ job}
  {task : job}
  {jobs : List job}
  {rest : List (Envelope job)}

/-- A loop that has nothing to do does nothing. -/
theorem runFor_of_idle
    {serial : Serial σ job}
    (idle : serial.Idle)
    (count : Nat) :
    serial.runFor craft count = ([], serial) := by
  have nothing : serial.runNext craft = (none, serial) := by
    rcases idle with ended | empty
    · simp [Serial.runNext, ended]
    · simp [Serial.runNext, empty]
  cases count with
  | zero => rfl
  | succ count => rw [Serial.runFor, nothing]

theorem runFor_add
    (craft : Craft σ job ρ)
    (first second : Nat)
    (serial : Serial σ job) :
    (runFor craft (first + second) serial).2 =
      (runFor craft second (runFor craft first serial).2).2 := by
  induction first generalizing serial with
  | zero =>
      rw [Nat.zero_add]
      rfl
  | succ first ih =>
      rw [Nat.add_right_comm]
      cases next : serial.next? with
      | some task =>
          rw [runFor_succ_of_next? craft _ next, runFor_succ_of_next? craft _ next]
          exact ih _
      | none =>
          rw [runFor_succ_of_idle craft _ next, runFor_succ_of_idle craft _ next,
            runFor_of_idle (idle_runNext craft next)]

/-- Settling comes to where the loop has nothing to do, however it is reached. -/
theorem settle_of_idle
    {count : Nat}
    (idle : (serial.runFor craft count).2.Idle) :
    (serial.settle craft).2 = (serial.runFor craft count).2 := by
  rw [Serial.settle]
  have settled : (serial.runFor craft (serial.load craft + 1)).2.Idle :=
    Serial.idle_runFor (Nat.lt_succ_self _)
  calc
    (serial.runFor craft (serial.load craft + 1)).2
    _ = (serial.runFor craft (serial.load craft + 1 + count)).2 := by
      rw [runFor_add craft (serial.load craft + 1) count, runFor_of_idle settled]
    _ = (serial.runFor craft (count + (serial.load craft + 1))).2 := by rw [Nat.add_comm]
    _ = (serial.runFor craft count).2 := by rw [runFor_add, runFor_of_idle idle]

/-- Whoever settles later comes to the same. -/
theorem settle_runFor
    (count : Nat)
    (serial : Serial σ job) :
    ((serial.runFor craft count).2.settle craft).2 = (serial.settle craft).2 := by
  have both := runFor_add craft count ((serial.runFor craft count).2.load craft + 1) serial
  have idle : ((serial.runFor craft count).2.settle craft).2.Idle :=
    Serial.idle_runFor (Nat.lt_succ_self _)
  rw [Serial.settle, ← both] at idle ⊢
  exact (settle_of_idle idle).symm

/-- The answer of a job is what it says when all before it ran. -/
theorem getElem?_runFor
    {serial : Serial σ job}
    (running : serial.ended = false)
    (queue : serial.queue = jobs.map .run ++ .run task :: rest)
    (count : Nat) :
    (serial.runFor craft (jobs.length + 1 + count)).1[jobs.length]? =
      some
        (craft.run serial.stopped task
          (craft.stateAfter (jobs.map (serial.stopped, ·)) serial.state)).answer := by
  induction jobs generalizing serial rest with
  | nil =>
      have first : serial.next? = some task :=
        Serial.next?_eq_some_iff.mpr ⟨running, rest, queue⟩
      have steps : ([] : List job).length + 1 + count = count + 1 := by simp [Nat.add_comm]
      rw [steps, Serial.runFor_succ_of_next? craft count first]
      rfl
  | cons head jobs ih =>
      have first : serial.next? = some head :=
        Serial.next?_eq_some_iff.mpr ⟨running, _, queue⟩
      obtain ⟨behind, queue', -, state, longer, stopped, ended⟩ :=
        Serial.runNext_of_next? craft first
      obtain rfl : jobs.map .run ++ .run task :: rest = behind := by simpa [queue] using queue'
      have steps : (head :: jobs).length + 1 + count = jobs.length + 1 + count + 1 := by
        simp only [List.length_cons]
        omega
      rw [steps, Serial.runFor_succ_of_next? craft _ first, List.length_cons,
        List.getElem?_cons_succ]
      rw [List.append_assoc, List.cons_append] at longer
      rw [ih (ended.trans running) longer, stopped, state]
      rfl

/-- There is at least as much to do as jobs wait. -/
theorem length_le_load
    (craft : Craft σ job ρ)
    (queue : serial.queue = jobs.map .run ++ rest) :
    jobs.length ≤ serial.load craft := by
  rw [Serial.load, queue]
  clear queue
  induction jobs with
  | nil => exact Nat.zero_le _
  | cons task jobs ih =>
      have heavy := craft.lighter false task serial.state
      simp only [List.map_cons, List.cons_append, total_cons, List.length_cons]
      omega

/-- Settling answers a job that waits with what it says when all before it ran. -/
theorem getElem?_settle
    (running : serial.ended = false)
    (queue : serial.queue = jobs.map .run ++ .run task :: rest) :
    (serial.settle craft).1[jobs.length]? =
      some
        (craft.run serial.stopped task
          (craft.stateAfter (jobs.map (serial.stopped, ·)) serial.state)).answer := by
  obtain ⟨count, enough⟩ := Nat.exists_eq_add_of_le (length_le_load craft queue)
  have steps : serial.load craft + 1 = jobs.length + 1 + count := by omega
  rw [Serial.settle, steps]
  exact getElem?_runFor running queue count

/-! ## Answers -/

theorem answerAt_snd
    (craft : Craft σ job ρ)
    (serial : Serial σ job)
    (index : Nat) :
    (serial.answerAt craft index).2 = (serial.settle craft).2 := by
  simp only [answerAt]
  split
  · rfl
  · rfl

theorem answerAt_of_getElem?
    {craft : Craft σ job ρ}
    {serial : Serial σ job}
    {index : Nat}
    {value : ρ}
    (here : (serial.settle craft).1[index]? = some (some value)) :
    serial.answerAt craft index = (.ok value, (serial.settle craft).2) := by
  simp only [answerAt, here, Option.join_some]

theorem enqueue_error
    {serial after : Serial σ job}
    {envelope : Envelope job}
    {cause : Fault}
    (failed : serial.enqueue envelope = (.error cause, after)) :
    cause = .tornDown := by
  simp only [enqueue] at failed
  split at failed
  · cases failed
    rfl
  · cases failed

theorem submit_error
    {serial after : Serial σ job}
    {task : job}
    {cause : Fault}
    (failed : serial.submit task = (.error cause, after)) :
    cause = .tornDown := by
  simp only [submit] at failed
  split at failed
  · cases failed
    rfl
  · exact enqueue_error failed

theorem answerAt_error
    {craft : Craft σ job ρ}
    {serial after : Serial σ job}
    {index : Nat}
    {cause : Fault}
    (failed : serial.answerAt craft index = (.error cause, after)) :
    cause = .tornDown := by
  simp only [answerAt] at failed
  split at failed
  · cases failed
  · cases failed
    rfl

theorem call_error
    {craft : Craft σ job ρ}
    {serial after : Serial σ job}
    {task : job}
    {cause : Fault}
    (failed : serial.call craft task = (.error cause, after)) :
    cause = .tornDown := by
  simp only [call] at failed
  split at failed
  · rename_i refused
    cases failed
    exact submit_error refused
  · exact answerAt_error failed

theorem handLast_error
    {serial after : Serial σ job}
    {task : job}
    {cause : Fault}
    (failed : serial.handLast task = (.error cause, after)) :
    cause = .tornDown := by
  simp only [handLast] at failed
  split at failed
  · cases failed
    rfl
  · split at failed
    · rename_i refused
      cases failed
      exact enqueue_error refused
    · exact enqueue_error failed

theorem finish_error
    {craft : Craft σ job ρ}
    {serial after : Serial σ job}
    {task : job}
    {cause : Fault}
    (failed : serial.finish craft task = (.error cause, after)) :
    cause = .tornDown := by
  rw [finish_eq] at failed
  split at failed
  · rename_i refused
    cases failed
    exact handLast_error refused
  · exact answerAt_error failed

end Serial

end LineProtocol
