import Mathlib.Data.List.Induction
import LineProtocol.Proofs.Serial.Deeds
import LineProtocol.Proofs.Serial.Settling

/-!
# Scripts of requests

Whoever holds a context makes one request after the other, and between them the loop runs as
many of the jobs that wait as it likes.  Who waits for an answer lets the loop run at least
up to the job in question.

A `Diary` writes down which jobs were taken in and which ran.  `lawful_after` says what it
tells after any script: the jobs ran in the order in which they were taken in, the state is
what they made of it one after the other, an answer is that of a job behind all that were
taken in before, and after the last job nothing is taken and nothing changes.
-/

namespace LineProtocol

variable {σ job ρ : Type}

/-- A context and what happened to it so far. -/
structure Diary (σ job : Type) where
  serial : Serial σ job
  /-- The jobs that were taken in, in order. -/
  accepted : List job := []
  /-- The jobs that ran, in order, each with whether jobs were refused already. -/
  ran : List (Bool × job) := []

namespace Diary

/-- What can happen to a context. -/
inductive Move (job : Type) where
  | submit (task : job)
  | call (task : job)
  | finish (task : job)
  | isStopped
  | join
  /-- The loop takes what is first in the queue. -/
  | serve

/-- Whether a move asks for the end. -/
def Move.isFinish : Move job → Bool
  | .finish _ => true
  | .submit _ | .call _ | .isStopped | .join | .serve => false

/-- What is answered to a move. -/
inductive Reply (ρ : Type) where
  | told (outcome : Except Fault Unit)
  | answered (outcome : Except Fault ρ)
  | flag (stopped : Bool)
  | done

/-- What a job that ran says to whoever waits for it. -/
def verdict : Option ρ → Except Fault ρ
  | some answer => .ok answer
  | none => .error .tornDown

/-- The jobs that wait. -/
def waiting (diary : Diary σ job) : List job :=
  diary.serial.queue.filterMap fun envelope =>
    match envelope with
    | .run task => some task
    | .stop => none

/-- A context that nobody has used. -/
def fresh
    (name : String)
    (state : σ) :
    Diary σ job :=
  { serial := { name, state } }

variable (craft : Craft σ job ρ)

/-- Hands a job in. -/
def submit
    (diary : Diary σ job)
    (task : job) :
    Except Fault Unit × Diary σ job :=
  match diary.serial.submit task with
  | (.ok (), serial) => (.ok (), { diary with serial, accepted := diary.accepted ++ [task] })
  | (.error cause, serial) => (.error cause, { diary with serial })

/-- Hands the last job in. -/
def submitLast
    (diary : Diary σ job)
    (task : job) :
    Except Fault Unit × Diary σ job :=
  match diary.serial.handLast task with
  | (.ok (), serial) => (.ok (), { diary with serial, accepted := diary.accepted ++ [task] })
  | (.error cause, serial) => (.error cause, { diary with serial })

/-- The loop takes the first envelope. -/
def serve (diary : Diary σ job) : Diary σ job :=
  match diary.serial.next? with
  | none => { diary with serial := (diary.serial.runNext craft).2 }
  | some task =>
      { serial := (diary.serial.runNext craft).2
        accepted :=
          diary.accepted ++ (craft.run diary.serial.stopped task diary.serial.state).submitted
        ran := diary.ran ++ [(diary.serial.stopped, task)] }

/-- Lets the loop take at most `count` envelopes. -/
def serveFor : Nat → Diary σ job → Diary σ job
  | 0, diary => diary
  | count + 1, diary => serveFor count (diary.serve craft)

/-- Lets the loop run up to a job that waits and gives that job's answer. -/
def answerAt
    (diary : Diary σ job)
    (index count : Nat) :
    Except Fault ρ × Diary σ job :=
  (verdict ((Serial.runFor craft count diary.serial).1[index]?.join),
    diary.serveFor craft count)

/-- What happens at a move, and what is answered. -/
def perform (diary : Diary σ job) : Move job → Reply ρ × Diary σ job
  | .submit task => (.told (diary.submit task).1, (diary.submit task).2)
  | .call task =>
      match diary.submit task with
      | (.error cause, diary) => (.answered (.error cause), diary)
      | (.ok (), waiting) =>
          let (outcome, served) :=
            waiting.answerAt craft diary.serial.queue.length (diary.serial.queue.length + 1)
          (.answered outcome, served)
  | .finish task =>
      match diary.submitLast task with
      | (.error cause, diary) => (.answered (.error cause), diary)
      | (.ok (), waiting) =>
          let (outcome, served) :=
            waiting.answerAt craft diary.serial.queue.length (diary.serial.queue.length + 2)
          (.answered outcome, served)
  | .isStopped => (.flag diary.serial.stopped, diary)
  | .join => (.done, diary)
  | .serve => (.done, diary.serve craft)

/-- What a script makes of a context. -/
def after
    (diary : Diary σ job)
    (moves : List (Move job)) :
    Diary σ job :=
  moves.foldl (fun diary move => (diary.perform craft move).2) diary

variable
  {craft : Craft σ job ρ}
  {diary : Diary σ job}
  {task : job}
  {jobs : List job}
  {rest : List (Envelope job)}

/-! ## The loop -/

theorem serveFor_add
    (craft : Craft σ job ρ)
    (first second : Nat)
    (diary : Diary σ job) :
    diary.serveFor craft (first + second) = (diary.serveFor craft first).serveFor craft second := by
  induction first generalizing diary with
  | zero => rw [Nat.zero_add]; rfl
  | succ first ih => rw [Nat.succ_add]; exact ih _

/-- Several rounds of the loop, each as a move. -/
theorem after_replicate_serve
    (craft : Craft σ job ρ)
    (count : Nat)
    (diary : Diary σ job) :
    diary.after craft (List.replicate count .serve) = diary.serveFor craft count := by
  induction count generalizing diary with
  | zero => rfl
  | succ count ih => exact ih (diary.serve craft)

/-- The loop ran some jobs that were first in the queue. -/
structure Through
    (craft : Craft σ job ρ)
    (jobs : List job)
    (rest : List (Envelope job))
    (before after : Diary σ job) :
    Prop where
  ran : after.ran = before.ran ++ jobs.map (before.serial.stopped, ·)
  state :
    after.serial.state =
      craft.stateAfter (jobs.map (before.serial.stopped, ·)) before.serial.state
  /-- What the jobs handed in went behind everything. -/
  grown :
    ∃ more,
      after.accepted = before.accepted ++ more ∧ after.serial.queue = rest ++ more.map .run ∧
        (before.serial.stopped = true → more = [])
  stopped : after.serial.stopped = before.serial.stopped
  ended : after.serial.ended = before.serial.ended

theorem through_serve
    (refuses : ∀ task state, (craft.run true task state).submitted = [])
    (running : diary.serial.ended = false)
    (queue : diary.serial.queue = .run task :: rest) :
    Through craft [task] rest diary (diary.serve craft) := by
  have first : diary.serial.next? = some task :=
    Serial.next?_eq_some_iff.mpr ⟨running, rest, queue⟩
  obtain ⟨behind, queue', -, state, longer, stopped, ended⟩ :=
    Serial.runNext_of_next? craft first
  obtain rfl : rest = behind := by simpa [queue] using queue'
  simp only [serve, first]
  refine ⟨rfl, state, ⟨_, rfl, longer, fun shut => ?_⟩, stopped, ended⟩
  rw [shut, refuses]

theorem through_serveFor
    (refuses : ∀ task state, (craft.run true task state).submitted = [])
    (running : diary.serial.ended = false)
    (queue : diary.serial.queue = jobs.map .run ++ rest) :
    Through craft jobs rest diary (diary.serveFor craft jobs.length) := by
  induction jobs generalizing diary rest with
  | nil => exact ⟨by simp [serveFor], rfl, ⟨[], by simpa [serveFor] using queue⟩, rfl, rfl⟩
  | cons task jobs ih =>
      have one := through_serve refuses running queue
      obtain ⟨more, accepted, longer, nothing⟩ := one.grown
      have others := ih (one.ended.trans running) (longer.trans (List.append_assoc _ _ _))
      obtain ⟨further, accepted', longer', nothing'⟩ := others.grown
      constructor
      case ran => rw [List.length_cons, serveFor, others.ran, one.ran, one.stopped]; simp
      case state =>
        rw [List.length_cons, serveFor, others.state, one.state, one.stopped]
        rfl
      case grown =>
        refine ⟨more ++ further, ?_, ?_, fun shut => ?_⟩
        · rw [List.length_cons, serveFor, accepted', accepted, List.append_assoc]
        · rw [List.length_cons, serveFor, longer']
          simp
        · rw [nothing shut, nothing' (one.stopped.trans shut)]
          rfl
      case stopped => exact others.stopped.trans one.stopped
      case ended => exact others.ended.trans one.ended

/-- The loop takes its end. -/
theorem serve_of_stop
    (craft : Craft σ job ρ)
    (running : diary.serial.ended = false)
    (queue : diary.serial.queue = .stop :: rest) :
    diary.serve craft =
      { diary with serial := { diary.serial with queue := rest, ended := true } } := by
  simp [serve, Serial.next?, Serial.runNext, running, queue]

/-- What the loop does in a diary is what it does. -/
theorem serial_serve (diary : Diary σ job) :
    (diary.serve craft).serial = (diary.serial.runNext craft).2 := by
  rw [serve]
  split <;> rfl

theorem serial_serveFor
    (count : Nat)
    (diary : Diary σ job) :
    (diary.serveFor craft count).serial = (diary.serial.runFor craft count).2 := by
  induction count generalizing diary with
  | zero => rfl
  | succ count ih =>
      rw [serveFor, ih, serial_serve]
      cases first : diary.serial.next? with
      | some task => rw [Serial.runFor_succ_of_next? craft count first]
      | none =>
          rw [Serial.runFor_succ_of_idle craft count first,
            Serial.runFor_of_idle (Serial.idle_runNext craft first)]

/-- Who waits for a job is told what it says when all before it ran. -/
theorem answerAt_of_queue
    (craft : Craft σ job ρ)
    (running : diary.serial.ended = false)
    (queue : diary.serial.queue = jobs.map .run ++ .run task :: rest)
    (count : Nat) :
    diary.answerAt craft jobs.length (jobs.length + 1 + count) =
      (verdict
          (craft.run diary.serial.stopped task
            (craft.stateAfter (jobs.map (diary.serial.stopped, ·)) diary.serial.state)).answer,
        diary.serveFor craft (jobs.length + 1 + count)) := by
  rw [answerAt, Serial.getElem?_runFor running queue count]
  rfl

/-! ## What a diary says -/

/-- What every diary says. -/
structure Sound
    (craft : Craft σ job ρ)
    (initial : σ)
    (diary : Diary σ job) :
    Prop where
  order : diary.accepted = diary.ran.map (·.2) ++ diary.waiting
  state : diary.serial.state = craft.stateAfter diary.ran initial
  taking :
    diary.serial.stopped = false →
      diary.serial.ended = false ∧ diary.serial.queue = diary.waiting.map .run ∧
        ∀ entry ∈ diary.ran, entry.1 = false
  torn : diary.serial.stopped = true → diary.serial.ended = true ∧ diary.serial.queue = []

variable {initial : σ}

theorem sound_fresh
    (name : String)
    (state : σ) :
    Sound craft state (fresh name state) where
  order := rfl
  state := rfl
  taking := by simp [fresh, waiting]
  torn := by simp [fresh]

theorem waiting_of_queue
    (queue : diary.serial.queue = jobs.map .run) :
    diary.waiting = jobs := by
  rw [waiting, queue, List.filterMap_map]
  exact List.filterMap_some

/-- The loop ran some of the jobs, and jobs are still taken. -/
theorem Sound.through
    (sound : Sound craft initial diary)
    (taking : diary.serial.stopped = false)
    {after : Diary σ job}
    {later : List job}
    (waits : diary.waiting = jobs ++ later)
    (through : Through craft jobs (later.map .run) diary after) :
    Sound craft initial after := by
  obtain ⟨running, -, entries⟩ := sound.taking taking
  obtain ⟨more, accepted, queue, -⟩ := through.grown
  rw [← List.map_append] at queue
  have left := waiting_of_queue queue
  have open_ := through.stopped.trans taking
  constructor
  case order => simp [accepted, sound.order, waits, left, through.ran, Function.comp_def]
  case state => rw [through.state, sound.state, through.ran, Craft.stateAfter_append]
  case taking =>
    refine fun _ => ⟨through.ended.trans running, by rw [left, queue], ?_⟩
    rw [through.ran, taking]
    intro entry member
    rcases List.mem_append.mp member with before | new
    · exact entries entry before
    · obtain ⟨task, -, rfl⟩ := List.mem_map.mp new
      rfl
  case torn =>
    intro shut
    rw [open_] at shut
    cases shut

/-- While jobs are taken, all that ran ran while jobs were taken. -/
theorem Sound.ran_eq
    (sound : Sound craft initial diary)
    (taking : diary.serial.stopped = false) :
    diary.ran = (diary.ran.map (·.2)).map (false, ·) := by
  obtain ⟨-, -, entries⟩ := sound.taking taking
  have same : diary.ran.map (fun entry => (false, entry.2)) = diary.ran.map id :=
    List.map_congr_left fun entry member => Prod.ext (entries entry member).symm rfl
  simpa [Function.comp_def] using same.symm

/-! ## Handing in -/

/-- A diary with a job that waits behind all others. -/
def grown
    (diary : Diary σ job)
    (task : job) :
    Diary σ job :=
  { diary with
    serial := { diary.serial with queue := diary.serial.queue ++ [.run task] }
    accepted := diary.accepted ++ [task] }

theorem submit_of_taking
    (sound : Sound craft initial diary)
    (taking : diary.serial.stopped = false)
    (task : job) :
    diary.submit task = (.ok (), diary.grown task) := by
  obtain ⟨running, -⟩ := sound.taking taking
  simp [submit, Serial.submit, Serial.enqueue, taking, running, grown]

theorem submit_of_stopped
    (stopped : diary.serial.stopped = true)
    (task : job) :
    diary.submit task = (.error .tornDown, diary) := by
  simp [submit, stopped]

theorem waiting_grown
    (diary : Diary σ job)
    (task : job) :
    (diary.grown task).waiting = diary.waiting ++ [task] := by
  simp [waiting, grown]

theorem Sound.grown
    (sound : Sound craft initial diary)
    (taking : diary.serial.stopped = false)
    (task : job) :
    Sound craft initial (diary.grown task) where
  order := by rw [waiting_grown, ← List.append_assoc]; exact congrArg (· ++ [task]) sound.order
  state := sound.state
  taking := by
    obtain ⟨running, queue, entries⟩ := sound.taking taking
    refine fun _ => ⟨running, ?_, entries⟩
    rw [waiting_grown, List.map_append, ← queue]
    rfl
  torn := fun stopped => absurd stopped (by simp [Diary.grown, taking])

/-- While jobs are taken, the state is what all jobs but those that wait made of it. -/
theorem Sound.stateAfter_waiting
    (sound : Sound craft initial diary)
    (taking : diary.serial.stopped = false) :
    craft.stateAfter (diary.waiting.map (false, ·)) diary.serial.state =
      craft.stateAfter (diary.accepted.map (false, ·)) initial := by
  rw [sound.order, List.map_append, Craft.stateAfter_append, ← sound.ran_eq taking, sound.state]

theorem queue_grown
    (sound : Sound craft initial diary)
    (taking : diary.serial.stopped = false)
    (task : job) :
    (diary.grown task).serial.queue = diary.waiting.map .run ++ .run task :: [] := by
  rw [← (sound.taking taking).2.1]
  rfl

theorem length_queue
    (sound : Sound craft initial diary)
    (taking : diary.serial.stopped = false) :
    diary.serial.queue.length = diary.waiting.length := by
  rw [(sound.taking taking).2.1, List.length_map]

/-- Who waits for an answer lets the loop run all that waits, and then its job. -/
theorem perform_call_eq
    (sound : Sound craft initial diary)
    (taking : diary.serial.stopped = false)
    (task : job) :
    diary.perform craft (.call task) =
      (.answered
          (verdict
            (craft.run false task
              (craft.stateAfter (diary.waiting.map (false, ·)) diary.serial.state)).answer),
        (diary.grown task).serveFor craft (diary.waiting.length + 1)) := by
  have still : (diary.grown task).serial.ended = false := (sound.taking taking).1
  have answer := answerAt_of_queue craft still (queue_grown sound taking task) 0
  rw [show (diary.grown task).serial.stopped = false from taking] at answer
  simp only [perform, submit_of_taking sound taking, length_queue sound taking]
  rw [Nat.add_zero] at answer
  rw [answer]
  rfl

/-- The answer is that of the job behind all that were taken in before. -/
theorem perform_call
    (refuses : ∀ task state, (craft.run true task state).submitted = [])
    (sound : Sound craft initial diary)
    (taking : diary.serial.stopped = false)
    (task : job) :
    ∃ next,
      diary.perform craft (.call task) =
          (.answered
              (verdict
                (craft.run false task
                  (craft.stateAfter (diary.accepted.map (false, ·)) initial)).answer),
            next) ∧
        Sound craft initial next ∧ next.serial.stopped = false ∧
          next.ran = (diary.accepted ++ [task]).map (false, ·) ∧
            next =
              diary.after craft
                (.submit task :: List.replicate (diary.waiting.length + 1) .serve) := by
  have still : (diary.grown task).serial.ended = false := (sound.taking taking).1
  have all :
      (diary.grown task).serial.queue = (diary.waiting ++ [task]).map .run ++ ([].map .run) := by
    simpa using queue_grown sound taking task
  have through := through_serveFor refuses still all
  rw [List.length_append, List.length_singleton] at through
  refine ⟨(diary.grown task).serveFor craft (diary.waiting.length + 1), ?_, ?_, ?_, ?_, ?_⟩
  · rw [perform_call_eq sound taking, sound.stateAfter_waiting taking]
  · exact (sound.grown taking task).through taking (by simp [waiting_grown]) through
  · exact through.stopped.trans taking
  · have ran :=
      calc
        diary.ran ++ (diary.waiting ++ [task]).map (false, ·)
        _ = (diary.ran.map (·.2)).map (false, ·) ++
          (diary.waiting ++ [task]).map (false, ·) := by
          rw [← sound.ran_eq taking]
        _ = (diary.ran.map (·.2) ++ (diary.waiting ++ [task])).map (false, ·) :=
          List.map_append.symm
        _ = (diary.accepted ++ [task]).map (false, ·) := by
          rw [sound.order, List.append_assoc]
    rw [← ran, ← taking]
    exact through.ran
  · have handedIn : (diary.perform craft (.submit task)).2 = diary.grown task := by
      rw [perform, submit_of_taking sound taking]
    rw [← after_replicate_serve, ← handedIn]
    rfl

/-! ## The last job -/

/-- A diary with a last job that waits, and behind it the end of the loop. -/
def closing
    (diary : Diary σ job)
    (task : job) :
    Diary σ job :=
  { diary with
    serial :=
      { diary.serial with
        stopped := true
        queue := diary.serial.queue ++ [.run task, .stop] }
    accepted := diary.accepted ++ [task] }

theorem submitLast_of_taking
    (sound : Sound craft initial diary)
    (taking : diary.serial.stopped = false)
    (task : job) :
    diary.submitLast task = (.ok (), diary.closing task) := by
  obtain ⟨running, -⟩ := sound.taking taking
  simp [submitLast, Serial.handLast, Serial.refuse, Serial.enqueue, taking, running, closing]

theorem submitLast_of_stopped
    (stopped : diary.serial.stopped = true)
    (task : job) :
    diary.submitLast task = (.error .tornDown, diary) := by
  have same : { diary.serial with stopped := true } = diary.serial := by rw [← stopped]
  rw [submitLast, Serial.handLast_of_stopped stopped, same]

/-- When the last job ran, nothing waits but the end of the loop. -/
theorem Sound.closed
    (sound : Sound craft initial diary)
    {served : Diary σ job}
    (through : Through craft (diary.waiting ++ [task]) [.stop] (diary.closing task) served) :
    served.accepted = diary.accepted ++ [task] ∧ served.serial.queue = [.stop] ∧
      Sound craft initial
        { served with serial := { served.serial with queue := [], ended := true } } := by
  obtain ⟨more, accepted, left, nothing⟩ := through.grown
  obtain rfl := nothing rfl
  have all : served.accepted = diary.accepted ++ [task] := accepted.trans (List.append_nil _)
  refine ⟨all, left, ?_, ?_, ?_, fun _ => ⟨rfl, rfl⟩⟩
  · show served.accepted = served.ran.map (·.2) ++ []
    rw [all, through.ran, sound.order]
    simp [closing, Function.comp_def]
  · show served.serial.state = craft.stateAfter served.ran initial
    rw [through.ran, Craft.stateAfter_append, through.state]
    exact congrArg (craft.stateAfter _) sound.state
  · intro open_
    rw [show served.serial.stopped = true from through.stopped] at open_
    cases open_

theorem queue_closing
    (sound : Sound craft initial diary)
    (taking : diary.serial.stopped = false)
    (task : job) :
    (diary.closing task).serial.queue = diary.waiting.map .run ++ .run task :: [.stop] := by
  rw [← (sound.taking taking).2.1]
  rfl

/-- Who waits for the last job lets the loop run to its end. -/
theorem perform_finish_eq
    (sound : Sound craft initial diary)
    (taking : diary.serial.stopped = false)
    (task : job) :
    diary.perform craft (.finish task) =
      (.answered
          (verdict
            (craft.run true task
              (craft.stateAfter (diary.waiting.map (true, ·)) diary.serial.state)).answer),
        (diary.closing task).serveFor craft (diary.waiting.length + 2)) := by
  have still : (diary.closing task).serial.ended = false := (sound.taking taking).1
  have answer := answerAt_of_queue craft still (queue_closing sound taking task) 1
  simp only [perform, submitLast_of_taking sound taking, length_queue sound taking]
  rw [answer]
  rfl

/-- The last job runs behind all that were taken in before, and with it the loop is over. -/
theorem perform_finish
    (refuses : ∀ task state, (craft.run true task state).submitted = [])
    (sound : Sound craft initial diary)
    (taking : diary.serial.stopped = false)
    (task : job) :
    ∃ next,
      diary.perform craft (.finish task) =
          (.answered
              (verdict
                (craft.run true task
                  (craft.stateAfter (diary.waiting.map (true, ·)) diary.serial.state)).answer),
            next) ∧
        Sound craft initial next ∧ next.serial.stopped = true ∧
          next.ran = diary.ran ++ (diary.waiting ++ [task]).map (true, ·) ∧
            next.accepted = diary.accepted ++ [task] := by
  have still : (diary.closing task).serial.ended = false := (sound.taking taking).1
  have all :
      (diary.closing task).serial.queue = (diary.waiting ++ [task]).map .run ++ [.stop] := by
    simpa using queue_closing sound taking task
  have through := through_serveFor refuses still all
  rw [List.length_append, List.length_singleton] at through
  obtain ⟨accepted, left, closed⟩ := sound.closed through
  -- The last thing that the loop takes is its end.
  have steps :
      (diary.closing task).serveFor craft (diary.waiting.length + 2) =
        ((diary.closing task).serveFor craft (diary.waiting.length + 1)).serve craft :=
    serveFor_add craft _ 1 _
  rw [serve_of_stop craft (through.ended.trans still) left] at steps
  refine ⟨_, perform_finish_eq sound taking task, ?_, ?_, ?_, ?_⟩
  · rw [steps]
    exact closed
  · rw [steps]
    exact through.stopped
  · rw [steps]
    exact through.ran
  · rw [steps]
    exact accepted

/-! ## Single moves -/

/-- How a move is answered when no job is taken any more. -/
def refusal : Move job → Reply ρ
  | .submit _ => .told (.error .tornDown)
  | .call _ | .finish _ => .answered (.error .tornDown)
  | .isStopped => .flag true
  | .join | .serve => .done

/-- After the last job nothing changes any more. -/
theorem perform_of_stopped
    (sound : Sound craft initial diary)
    (stopped : diary.serial.stopped = true)
    (move : Move job) :
    diary.perform craft move = (refusal move, diary) := by
  cases move with
  | submit task => simp only [perform, submit_of_stopped stopped, refusal]
  | call task => simp only [perform, submit_of_stopped stopped, refusal]
  | finish task => simp only [perform, submitLast_of_stopped stopped, refusal]
  | isStopped => simp only [perform, stopped, refusal]
  | join => rfl
  | serve =>
      obtain ⟨ended, -⟩ := sound.torn stopped
      simp [perform, serve, Serial.next?, Serial.runNext, ended, refusal]

/-- Where nothing waits the loop does nothing. -/
theorem serve_of_nothing
    (sound : Sound craft initial diary)
    (taking : diary.serial.stopped = false)
    (nothing : diary.waiting = []) :
    diary.serve craft = diary := by
  obtain ⟨running, queue, -⟩ := sound.taking taking
  rw [nothing, List.map_nil] at queue
  simp [serve, Serial.next?, Serial.runNext, running, queue]

/-- The loop runs the job that was taken in first of those that wait, and what that job hands
in goes behind all that were taken in before. -/
theorem serve_of_waiting
    (refuses : ∀ task state, (craft.run true task state).submitted = [])
    (sound : Sound craft initial diary)
    (taking : diary.serial.stopped = false)
    (waits : diary.waiting = task :: jobs) :
    Sound craft initial (diary.serve craft) ∧ (diary.serve craft).serial.stopped = false ∧
      (diary.serve craft).ran = diary.ran ++ [(false, task)] ∧
        (diary.serve craft).accepted =
          diary.accepted ++ (craft.run false task diary.serial.state).submitted := by
  obtain ⟨running, queue, -⟩ := sound.taking taking
  rw [waits, List.map_cons] at queue
  have through := through_serve refuses running queue
  have first : diary.serial.next? = some task :=
    Serial.next?_eq_some_iff.mpr ⟨running, _, queue⟩
  refine ⟨sound.through taking waits through, through.stopped.trans taking, ?_, ?_⟩
  · rw [through.ran, taking]
    rfl
  · simp only [serve, first, taking]

/-- A move keeps what diaries say, and only the last job's stops the context. -/
theorem sound_perform
    (refuses : ∀ task state, (craft.run true task state).submitted = [])
    (sound : Sound craft initial diary)
    (move : Move job) :
    Sound craft initial (diary.perform craft move).2 ∧
      (diary.perform craft move).2.serial.stopped =
        (diary.serial.stopped || move.isFinish) := by
  cases stopped : diary.serial.stopped with
  | true =>
      rw [perform_of_stopped sound stopped]
      exact ⟨sound, stopped⟩
  | false =>
      cases move with
      | submit task =>
          simp only [perform, submit_of_taking sound stopped]
          exact ⟨sound.grown stopped task, stopped⟩
      | call task =>
          obtain ⟨next, answered, sound', taking, -⟩ := perform_call refuses sound stopped task
          rw [answered]
          exact ⟨sound', taking⟩
      | finish task =>
          obtain ⟨next, answered, sound', shut, -⟩ := perform_finish refuses sound stopped task
          rw [answered]
          exact ⟨sound', shut⟩
      | isStopped => exact ⟨sound, stopped⟩
      | join => exact ⟨sound, stopped⟩
      | serve =>
          cases waits : diary.waiting with
          | nil =>
              simp only [perform, serve_of_nothing sound stopped waits]
              exact ⟨sound, stopped⟩
          | cons task jobs =>
              obtain ⟨sound', taking, -⟩ := serve_of_waiting refuses sound stopped waits
              exact ⟨sound', taking⟩

theorem sound_after
    (refuses : ∀ task state, (craft.run true task state).submitted = [])
    (name : String)
    (initial : σ)
    (moves : List (Move job)) :
    Sound craft initial ((fresh name initial).after craft moves) ∧
      ((fresh name initial).after craft moves).serial.stopped = moves.any (·.isFinish) := by
  induction moves using List.reverseRecOn with
  | nil => exact ⟨sound_fresh name initial, rfl⟩
  | append_singleton moves move ih =>
      obtain ⟨sound, stopped⟩ := ih
      have goesOn := sound_perform refuses sound move
      rw [stopped] at goesOn
      simp only [after, List.foldl_append, List.foldl_cons, List.foldl_nil, List.any_append,
        List.any_cons, List.any_nil, Bool.or_false]
      exact goesOn

/-! ## What a context does without a diary -/

/-- What a request that waits for its answer comes to. -/
theorem answerAt_eq
    (craft : Craft σ job ρ)
    (serial : Serial σ job)
    (index : Nat) :
    serial.answerAt craft index =
      (verdict ((serial.settle craft).1[index]?.join), (serial.settle craft).2) := by
  simp only [Serial.answerAt]
  split
  case h_1 answer same => rw [same, verdict]
  case h_2 same => rw [same, verdict]

/-- Handing a job in and waiting for it, and then letting the loop run until nothing waits. -/
theorem serial_call
    (sound : Sound craft initial diary)
    (task : job) :
    ∃ outcome next,
      diary.perform craft (.call task) = (.answered outcome, next) ∧
        diary.serial.call craft task = (outcome, (next.serial.settle craft).2) := by
  cases stopped : diary.serial.stopped with
  | true =>
      have idle : diary.serial.Idle := .inl (sound.torn stopped).1
      refine ⟨_, _, perform_of_stopped sound stopped _, ?_⟩
      rw [Serial.call, Serial.submit_of_stopped stopped, Serial.settle, Serial.runFor_of_idle idle]
  | false =>
      have running := (sound.taking stopped).1
      have still : (diary.grown task).serial.ended = false := running
      have taken : diary.serial.submit task = (.ok (), (diary.grown task).serial) := by
        simp [Serial.submit, Serial.enqueue, stopped, running, Diary.grown]
      refine ⟨_, _, perform_call_eq sound stopped task, ?_⟩
      simp only [Serial.call, taken, length_queue sound stopped, answerAt_eq]
      rw [Serial.getElem?_settle still (queue_grown sound stopped task), serial_serveFor,
        Serial.settle_runFor, show (diary.grown task).serial.stopped = false from stopped]
      rfl

/-- Handing the last job in and waiting for it. -/
theorem serial_finish
    (refuses : ∀ task state, (craft.run true task state).submitted = [])
    (sound : Sound craft initial diary)
    (task : job) :
    ∃ outcome next,
      diary.perform craft (.finish task) = (.answered outcome, next) ∧
        diary.serial.finish craft task = (outcome, next.serial) := by
  cases stopped : diary.serial.stopped with
  | true =>
      have same : { diary.serial with stopped := true } = diary.serial := by rw [← stopped]
      refine ⟨_, _, perform_of_stopped sound stopped _, ?_⟩
      rw [Serial.finish_eq, Serial.handLast_of_stopped stopped, same]
  | false =>
      have running := (sound.taking stopped).1
      have still : (diary.closing task).serial.ended = false := running
      have taken : diary.serial.handLast task = (.ok (), (diary.closing task).serial) := by
        simp [Serial.handLast, Serial.refuse, Serial.enqueue, stopped, running, Diary.closing]
      obtain ⟨next, answered, sound', shut, -⟩ := perform_finish refuses sound stopped task
      have whole := perform_finish_eq sound stopped task
      obtain ⟨-, rfl⟩ := Prod.mk.inj (answered.symm.trans whole)
      refine ⟨_, _, whole, ?_⟩
      have idle : ((diary.closing task).serveFor craft (diary.waiting.length + 2)).serial.Idle :=
        .inl (sound'.torn shut).1
      rw [serial_serveFor] at idle ⊢
      rw [Serial.finish_eq, taken]
      simp only [length_queue sound stopped, answerAt_eq]
      rw [Serial.getElem?_settle still (queue_closing sound stopped task),
        Serial.settle_of_idle idle]
      rfl

/-! ## All together -/

/-- What holders of a context can rely on after a script: what it came to, and what the next
move comes to. -/
structure Lawful
    (craft : Craft σ job ρ)
    (initial : σ)
    (moves : List (Move job))
    (diary : Diary σ job) :
    Prop where
  /-- Jobs run in the order in which they were taken in. -/
  order : diary.accepted = diary.ran.map (·.2) ++ diary.waiting
  state : diary.serial.state = craft.stateAfter diary.ran initial
  isStopped : diary.perform craft .isStopped = (.flag (moves.any (·.isFinish)), diary)
  join : diary.perform craft .join = (.done, diary)
  submit :
    moves.any (·.isFinish) = false →
      ∀ task, ∃ next,
        diary.perform craft (.submit task) = (.told (.ok ()), next) ∧
          next.ran = diary.ran ∧ next.accepted = diary.accepted ++ [task]
  serve :
    moves.any (·.isFinish) = false →
      ∀ task jobs, diary.waiting = task :: jobs →
        ∃ next,
          diary.perform craft .serve = (.done, next) ∧
            next.ran = diary.ran ++ [(false, task)] ∧
              next.accepted =
                diary.accepted ++ (craft.run false task diary.serial.state).submitted
  /-- The answer is that of the job behind all that were taken in before.  Nothing else
  happens than that the job is handed in and the loop runs all that waits and then the job. -/
  call :
    moves.any (·.isFinish) = false →
      ∀ task, ∃ next,
        diary.perform craft (.call task) =
            (.answered
                (verdict
                  (craft.run false task
                    (craft.stateAfter (diary.accepted.map (false, ·)) initial)).answer),
              next) ∧
          next.ran = (diary.accepted ++ [task]).map (false, ·) ∧
            next =
              diary.after craft
                (.submit task :: List.replicate (diary.waiting.length + 1) .serve)
  /-- The last job finds jobs refused, and so do those that still waited. -/
  finish :
    moves.any (·.isFinish) = false →
      ∀ task, ∃ next,
        diary.perform craft (.finish task) =
            (.answered
                (verdict
                  (craft.run true task
                    (craft.stateAfter (diary.waiting.map (true, ·)) diary.serial.state)).answer),
              next) ∧
          next.ran = diary.ran ++ (diary.waiting ++ [task]).map (true, ·) ∧
            next.accepted = diary.accepted ++ [task]
  torn :
    moves.any (·.isFinish) = true →
      ∀ move, diary.perform craft move = (refusal move, diary)
  /-- A context that nobody keeps a diary of answers the same, and then runs on until nothing
  waits. -/
  serialCall :
    ∀ task, ∃ outcome next,
      diary.perform craft (.call task) = (.answered outcome, next) ∧
        diary.serial.call craft task = (outcome, (next.serial.settle craft).2)
  serialFinish :
    ∀ task, ∃ outcome next,
      diary.perform craft (.finish task) = (.answered outcome, next) ∧
        diary.serial.finish craft task = (outcome, next.serial)

theorem lawful_of_refuses
    (refuses : ∀ task state, (craft.run true task state).submitted = [])
    (name : String)
    (initial : σ)
    (moves : List (Move job)) :
    Lawful craft initial moves ((fresh name initial).after craft moves) := by
  obtain ⟨sound, stopped⟩ := sound_after refuses name initial moves
  constructor
  case order => exact sound.order
  case state => exact sound.state
  case isStopped => rw [perform, stopped]
  case join => rfl
  case submit =>
    intro taking task
    refine ⟨((fresh name initial).after craft moves).grown task, ?_, rfl, rfl⟩
    simp only [perform, submit_of_taking sound (stopped.trans taking)]
  case serve =>
    intro taking task jobs waits
    obtain ⟨-, -, ran, accepted⟩ :=
      serve_of_waiting refuses sound (stopped.trans taking) waits
    exact ⟨_, rfl, ran, accepted⟩
  case call =>
    intro taking task
    obtain ⟨next, answered, -, -, ran, same⟩ :=
      perform_call refuses sound (stopped.trans taking) task
    exact ⟨next, answered, ran, same⟩
  case finish =>
    intro taking task
    obtain ⟨next, answered, -, -, ran, accepted⟩ :=
      perform_finish refuses sound (stopped.trans taking) task
    exact ⟨next, answered, ran, accepted⟩
  case torn => exact fun shut => perform_of_stopped sound (stopped.trans shut)
  case serialCall => exact serial_call sound
  case serialFinish => exact serial_finish refuses sound

/-- Whatever is asked of a context, in whatever order and however far the loop comes in
between, it keeps to the order of what it took in, and every task comes to what its deeds come
to: its changes up to where it gives up, the tasks that it gets in, and no waiting for its own
context. -/
theorem lawful_after
    {ρ : Type}
    (name : String)
    (initial : σ)
    (moves : List (Move (Task σ ρ))) :
    Lawful Task.craft initial moves ((fresh name initial).after Task.craft moves) ∧
      ∀ (stopped : Bool) (task : Task σ ρ) (state : σ),
        Task.craft.run stopped task state =
          Task.outcome stopped (task.deeds stopped state) (task.ending stopped state) state :=
  ⟨lawful_of_refuses Task.submitted_of_stopped name initial moves, Task.run_eq⟩

end Diary

end LineProtocol
