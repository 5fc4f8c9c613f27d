import LineProtocol.Dispatch.Reaction
import LineProtocol.Notice

/-!
# Handler threads

Messages are handed to a crew of workers, which take them from one queue in
the order in which they came.  Handing over never waits for a handler.  After
the crew is stopped nothing more is taken in, but what is queued is still
worked off.

A handler that fails or gives up is noted in the log and disturbs nothing
else: its worker goes on with the next job.
-/

namespace LineProtocol

/-- Workers, what they are busy with, and what waits for them. -/
structure Crew (job : Type) where
  name : String
  /-- What each worker is busy with. -/
  workers : List (Option job)
  accepting : Bool := true
  queue : List job := []
  /-- Jobs in the order in which they were taken up. -/
  taken : List job := []
  /-- Jobs in the order in which they ended. -/
  ended : List job := []
  notices : List Notice := []
  deriving Repr, DecidableEq

namespace Crew

variable {job : Type}

/-- A crew of at least one worker. -/
def ofThreads
    (name : String)
    (threads : Nat) :
    Crew job :=
  { name, workers := List.replicate (max threads 1) none }

/-- The name under which a worker appears in the log. -/
def workerName
    (crew : Crew job)
    (worker : Nat) :
    String :=
  crew.name ++ "-" ++ toString worker

/-- Hands a job over.  The answer says whether it was taken in. -/
def dispatch
    (crew : Crew job)
    (task : job) :
    Bool × Crew job :=
  if crew.accepting then (true, { crew with queue := crew.queue ++ [task] })
  else (false, crew)

/-- Takes in nothing more. -/
def stop (crew : Crew job) : Crew job :=
  { crew with accepting := false }

/-- An idle worker takes up the first job that waits. -/
def take?
    (crew : Crew job)
    (worker : Nat) :
    Option (Crew job) :=
  match crew.workers[worker]?, crew.queue with
  | some none, task :: rest =>
      some
        { crew with
          workers := crew.workers.set worker (some task)
          queue := rest
          taken := crew.taken ++ [task] }
  | _, _ => none

/-- What the log says about a handler's end. -/
def noticeOf
    (worker : String) :
    HandlerOutcome → List Notice
  | .done => []
  | .failed reason => [.handlerFailed worker reason]
  | .panicked => [.handlerPanicked worker]

/-- A busy worker's handler ends. -/
def finish?
    (outcome : job → HandlerOutcome)
    (crew : Crew job)
    (worker : Nat) :
    Option (Crew job) :=
  match crew.workers[worker]? with
  | some (some task) =>
      some
        { crew with
          workers := crew.workers.set worker none
          ended := crew.ended ++ [task]
          notices := crew.notices ++ noticeOf (crew.workerName worker) (outcome task) }
  | _ => none

/-- What can happen to a crew. -/
inductive Event (job : Type) where
  | dispatch (task : job)
  | stop
  | take (worker : Nat)
  | finish (worker : Nat)
  deriving Repr, DecidableEq

/-- Lets something happen, if it can. -/
def step?
    (outcome : job → HandlerOutcome)
    (crew : Crew job) :
    Event job → Option (Crew job)
  | .dispatch task => some (crew.dispatch task).2
  | .stop => some crew.stop
  | .take worker => crew.take? worker
  | .finish worker => crew.finish? outcome worker

/-- The first worker takes up a job and ends it. -/
def workOne
    (outcome : job → HandlerOutcome)
    (crew : Crew job) :
    Crew job :=
  ((crew.take? 0).bind (finish? outcome · 0)).getD crew

/-- The first worker works off all that waits. -/
def settle
    (outcome : job → HandlerOutcome)
    (crew : Crew job) :
    Crew job :=
  Nat.repeat (workOne outcome) crew.queue.length crew

end Crew

end LineProtocol
