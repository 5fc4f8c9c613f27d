import LineProtocol.Notice

/-!
# Serial contexts

A serial context owns a state and runs jobs on it one at a time, in the order
in which they were handed in.  Nobody else touches the state.  A job may hand
in further jobs, which go behind all that wait, and it may give up half way,
which keeps what it did so far and hurts no later job.

A context is stopped by a last job: from the moment of that request no job is
taken any more, those already taken still run, then the last one, and then the
loop ends.

What a job does is not fixed here; a `Craft` says it, together with a bound on
the work that a job can still cause, so that running all that waits comes to
an end.
-/

namespace LineProtocol

/-- What weights come to together. -/
def total (weights : List Nat) : Nat :=
  weights.foldr (· + ·) 0

@[simp]
theorem total_nil : total [] = 0 :=
  rfl

@[simp]
theorem total_cons
    (weight : Nat)
    (weights : List Nat) :
    total (weight :: weights) = weight + total weights :=
  rfl

/-- What running one job came to. -/
structure Ran (σ job ρ : Type) where
  state : σ
  /-- Jobs that were handed in and taken, in order. -/
  submitted : List job := []
  /-- The job's answer, or nothing if it gave up. -/
  answer : Option ρ

/-- What jobs do. -/
structure Craft (σ job ρ : Type) where
  /-- Runs a job; it is told whether jobs are still taken. -/
  run : Bool → job → σ → Ran σ job ρ
  /-- A bound on a job and all that it leads to. -/
  weight : job → Nat
  lighter :
    ∀ stopped job state,
      total ((run stopped job state).submitted.map weight) < weight job

/-- What waits in a context's queue. -/
inductive Envelope (job : Type) where
  | run (job : job)
  /-- The loop ends here. -/
  | stop
  deriving Repr, DecidableEq

/-- A context: its state, what waits, and how far it is stopped. -/
structure Serial (σ job : Type) where
  name : String
  state : σ
  queue : List (Envelope job) := []
  /-- No further job is taken. -/
  stopped : Bool := false
  /-- The loop has ended. -/
  ended : Bool := false
  notices : List Notice := []

namespace Serial

variable {σ job ρ : Type}

/-! ## Single steps -/

/-- Puts an envelope behind the others, unless nobody reads them any more. -/
def enqueue
    (serial : Serial σ job)
    (envelope : Envelope job) :
    Except Fault Unit × Serial σ job :=
  if serial.ended then (.error .tornDown, serial)
  else (.ok (), { serial with queue := serial.queue ++ [envelope] })

/-- From now on no job is taken.  The answer says whether that is new. -/
def refuse (serial : Serial σ job) : Bool × Serial σ job :=
  (!serial.stopped, { serial with stopped := true })

/-- Runs one job on the state. -/
def perform
    (craft : Craft σ job ρ)
    (serial : Serial σ job)
    (task : job) :
    Option ρ × Serial σ job :=
  let ran := craft.run serial.stopped task serial.state
  let notices :=
    if ran.answer.isSome then serial.notices
    else serial.notices ++ [.jobPanicked serial.name]
  (ran.answer,
    { serial with
      state := ran.state
      queue := serial.queue ++ ran.submitted.map .run
      notices })

/-- The loop takes the first envelope.  There is an answer if it held a job. -/
def runNext
    (craft : Craft σ job ρ)
    (serial : Serial σ job) :
    Option (Option ρ) × Serial σ job :=
  if serial.ended then (none, serial)
  else
    match serial.queue with
    | [] => (none, serial)
    | .stop :: rest => (none, { serial with queue := rest, ended := true })
    | .run task :: rest =>
        let (answer, serial) := perform craft { serial with queue := rest } task
        (some answer, serial)

/-! ## Running all that waits -/

/-- A bound on the steps that the loop can still take. -/
def load
    (craft : Craft σ job ρ)
    (serial : Serial σ job) :
    Nat :=
  total <| serial.queue.map fun envelope =>
    match envelope with
    | .run task => craft.weight task
    | .stop => 1

/-- Lets the loop take at most `count` envelopes. -/
def runFor
    (craft : Craft σ job ρ) :
    Nat → Serial σ job → List (Option ρ) × Serial σ job
  | 0, serial => ([], serial)
  | count + 1, serial =>
      match serial.runNext craft with
      | (some answer, serial) =>
          let (answers, serial) := runFor craft count serial
          (answer :: answers, serial)
      | (none, serial) => ([], serial)

/-- Lets the loop run until nothing waits. -/
def settle
    (craft : Craft σ job ρ)
    (serial : Serial σ job) :
    List (Option ρ) × Serial σ job :=
  runFor craft (serial.load craft + 1) serial

/-! ## Requests from outside -/

/-- Hands a job in. -/
def submit
    (serial : Serial σ job)
    (task : job) :
    Except Fault Unit × Serial σ job :=
  if serial.stopped then (.error .tornDown, serial)
  else serial.enqueue (.run task)

/-- Lets the loop run until nothing waits and gives the answer of the job that
is at an index of the queue. -/
def answerAt
    (craft : Craft σ job ρ)
    (serial : Serial σ job)
    (index : Nat) :
    Except Fault ρ × Serial σ job :=
  let (answers, serial) := serial.settle craft
  match answers[index]?.join with
  | some answer => (.ok answer, serial)
  | none => (.error .tornDown, serial)

/-- Hands a job in and waits for its answer. -/
def call
    (craft : Craft σ job ρ)
    (serial : Serial σ job)
    (task : job) :
    Except Fault ρ × Serial σ job :=
  match serial.submit task with
  | (.error cause, serial) => (.error cause, serial)
  | (.ok (), waiting) => waiting.answerAt craft serial.queue.length

/-- Hands the last job in, waits for its answer and ends the loop. -/
def finish
    (craft : Craft σ job ρ)
    (serial : Serial σ job)
    (task : job) :
    Except Fault ρ × Serial σ job :=
  match serial.refuse with
  | (false, serial) => (.error .tornDown, serial)
  | (true, refusing) =>
      match refusing.enqueue (.run task) with
      | (.error cause, serial) => (.error cause, serial)
      | (.ok (), waiting) =>
          match waiting.enqueue .stop with
          | (.error cause, serial) => (.error cause, serial)
          | (.ok (), waiting) => waiting.answerAt craft serial.queue.length

@[simp]
theorem submit_of_stopped
    {serial : Serial σ job}
    (stopped : serial.stopped = true)
    (task : job) :
    serial.submit task = (.error .tornDown, serial) := by
  simp [submit, stopped]

end Serial

end LineProtocol
