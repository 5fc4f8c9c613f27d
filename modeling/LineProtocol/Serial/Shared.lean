import LineProtocol.Serial.Task

/-!
# A serial context with several holders

Any number of threads hold handles on a serial context, and each goes at its own pace.
Handing a job in takes two steps: the thread looks whether jobs are still taken, and then it
puts its job into the queue.  Stopping takes three: the thread stops the taking of jobs, puts
the last job into the queue and puts the end of the loop behind it.  Then it waits until the
loop is over; nobody else can stop the context meanwhile.

The loop is a thread too.  It takes what is first in the queue, and the job that it runs goes
on step by step; where it hands a job in, it takes the same two steps.  Steps of different
threads come in any order.
-/

namespace LineProtocol

/-- How far a thread with a handle has come. -/
inductive Holder (job : Type) where
  /-- It has given its handle up. -/
  | gone
  | idle
  /-- It has seen that jobs are taken, and puts its job into the queue next. -/
  | submitting (task : job)
  /-- It has stopped the taking of jobs, and puts the last one into the queue next. -/
  | finishing (task : job)
  /-- It puts the end of the loop into the queue next. -/
  | stopping
  /-- It waits until the loop is over. -/
  | waiting

/-- Whether a thread is in the middle of stopping the context. -/
def Holder.isEnding {job : Type} : Holder job → Bool
  | .finishing _ | .stopping | .waiting => true
  | .gone | .idle | .submitting _ => false

/-- What came into the queue. -/
inductive Entry (job : Type) where
  | submitted (task : job)
  /-- The job of whoever stops the context. -/
  | last (task : job)
  | stop

namespace Entry

variable {job : Type}

/-- What the loop sees of an entry. -/
def envelope : Entry job → Envelope job
  | .submitted task => .run task
  | .last task => .run task
  | .stop => .stop

/-- The job that an entry brings. -/
def task? : Entry job → Option job
  | .submitted task => some task
  | .last task => some task
  | .stop => none

end Entry

/-- A job that the loop is in the middle of. -/
structure Underway (σ ρ : Type) where
  rest : Task σ ρ
  /-- It has seen that jobs are taken, and puts one into the queue next. -/
  cleared : Bool := false

/-- A context, the threads that hold it, and what happened to it so far. -/
structure SharedSerial (σ ρ : Type) where
  serial : Serial σ (Task σ ρ)
  holders : List (Holder (Task σ ρ)) := [.idle]
  underway : Option (Underway σ ρ) := none
  /-- The loop takes nothing more, but its queue is still there. -/
  leaving : Bool := false
  /-- What came into the queue, in order.  A job is in here exactly if handing it in was
  answered with success. -/
  came : List (Entry (Task σ ρ)) := []
  /-- The jobs that the loop has begun, in order. -/
  begun : List (Task σ ρ) := []

namespace SharedSerial

variable {σ ρ : Type}

/-- What threads do. -/
inductive Event (σ ρ : Type) where
  /-- A new thread gets a handle of its own. -/
  | clone (holder : Nat)
  | release (holder : Nat)
  /-- The first step of handing a job in. -/
  | submit (holder : Nat) (task : Task σ ρ)
  /-- The first step of stopping the context. -/
  | finish (holder : Nat) (task : Task σ ρ)
  /-- The next step of what a thread is in the middle of. -/
  | proceed (holder : Nat)
  /-- The next step of the loop. -/
  | serve

/-- A context with one handle. -/
def start
    (name : String)
    (state : σ) :
    SharedSerial σ ρ :=
  { serial := { name, state } }

/-- Says how far a thread has come. -/
def become
    (shared : SharedSerial σ ρ)
    (index : Nat)
    (holder : Holder (Task σ ρ)) :
    SharedSerial σ ρ :=
  { shared with holders := shared.holders.set index holder }

/-- Puts something into the queue, unless nobody reads it any more. -/
def put
    (shared : SharedSerial σ ρ)
    (entry : Entry (Task σ ρ)) :
    Except Fault Unit × SharedSerial σ ρ :=
  match shared.serial.enqueue entry.envelope with
  | (.ok (), serial) => (.ok (), { shared with serial, came := shared.came ++ [entry] })
  | (.error cause, serial) => (.error cause, { shared with serial })

/-- The next step of what a thread is in the middle of, if there is one. -/
def proceed?
    (shared : SharedSerial σ ρ)
    (index : Nat) :
    Holder (Task σ ρ) → Option (SharedSerial σ ρ)
  | .gone => none
  | .idle => none
  | .submitting task => some ((shared.put (.submitted task)).2.become index .idle)
  | .finishing task =>
      match shared.put (.last task) with
      | (.ok (), shared) => some (shared.become index .stopping)
      | (.error _, shared) => some (shared.become index .idle)
  | .stopping =>
      match shared.put .stop with
      | (.ok (), shared) => some (shared.become index .waiting)
      | (.error _, shared) => some (shared.become index .idle)
  | .waiting => if shared.serial.ended then some (shared.become index .idle) else none

/-- The next step of the job that the loop runs. -/
def work
    (shared : SharedSerial σ ρ)
    (job : Underway σ ρ) :
    SharedSerial σ ρ :=
  match job.rest with
  | .answer _ => { shared with underway := none }
  | .panic =>
      { shared with
        underway := none
        serial :=
          { shared.serial with
            notices := shared.serial.notices ++ [.jobPanicked shared.serial.name] } }
  | .change act next =>
      { shared with
        underway := some { rest := next }
        serial := { shared.serial with state := act shared.serial.state } }
  | .choose test yes no =>
      { shared with
        underway :=
          some { rest := if test shared.serial.stopped shared.serial.state then yes else no } }
  | .submit task next =>
      if job.cleared then
        { (shared.put (.submitted task)).2 with underway := some { rest := next } }
      else if shared.serial.stopped then { shared with underway := some { rest := next } }
      else { shared with underway := some { job with cleared := true } }
  | .call _ next => { shared with underway := some { rest := next } }
  | .finish _ next => { shared with underway := some { rest := next } }

/-- The loop goes on with the queue.  It also leaves when nothing waits and no handle is
left. -/
def take? (shared : SharedSerial σ ρ) : Option (SharedSerial σ ρ) :=
  if shared.serial.ended then none
  else if shared.leaving then
    some { shared with serial := { shared.serial with ended := true } }
  else
    match shared.serial.queue with
    | [] =>
        if shared.holders.all (· matches .gone) then some { shared with leaving := true }
        else none
    | .stop :: rest =>
        some { shared with leaving := true, serial := { shared.serial with queue := rest } }
    | .run task :: rest =>
        some
          { shared with
            underway := some { rest := task }
            begun := shared.begun ++ [task]
            serial := { shared.serial with queue := rest } }

/-- What an event makes of it all, if it can happen. -/
def step? (shared : SharedSerial σ ρ) : Event σ ρ → Option (SharedSerial σ ρ)
  | .clone index =>
      match shared.holders[index]? with
      | some .idle => some { shared with holders := shared.holders ++ [.idle] }
      | _ => none
  | .release index =>
      match shared.holders[index]? with
      | some .idle => some (shared.become index .gone)
      | _ => none
  | .submit index task =>
      match shared.holders[index]? with
      | some .idle =>
          if shared.serial.stopped then some shared
          else some (shared.become index (.submitting task))
      | _ => none
  | .finish index task =>
      match shared.holders[index]? with
      | some .idle =>
          if shared.holders.any (·.isEnding) then none
          else
            match shared.serial.refuse with
            | (true, serial) => some ({ shared with serial }.become index (.finishing task))
            | (false, serial) => some { shared with serial }
      | _ => none
  | .proceed index => shared.holders[index]?.bind (shared.proceed? index)
  | .serve =>
      match shared.underway with
      | some job => some (shared.work job)
      | none => shared.take?

end SharedSerial

end LineProtocol
