import LineProtocol.Dispatch.Crew

/-!
# How a crew comes to its end

A worker goes for good when it looks for a job and finds that none waits and
that none will come, because the crew was stopped.  Until then it stays, whatever
its handlers do.

A `Shift` is a crew with those of its workers who have gone.  Where all have
gone nobody reads the queue any more, and nothing can be handed over.
-/

namespace LineProtocol

/-- A crew and who of it has gone, in order. -/
structure Shift (job : Type) where
  crew : Crew job
  gone : List Nat := []
  deriving Repr, DecidableEq

namespace Shift

variable {job : Type}

/-- A crew that nobody has left. -/
def ofThreads
    (name : String)
    (threads : Nat) :
    Shift job :=
  { crew := .ofThreads name threads }

/-- Every worker has gone. -/
def isOver (shift : Shift job) : Bool :=
  (List.range shift.crew.workers.length).all (· ∈ shift.gone)

/-- Hands a job over, if anybody is there who could take it up. -/
def dispatch
    (shift : Shift job)
    (task : job) :
    Bool × Shift job :=
  if shift.isOver then (false, shift)
  else
    let (answer, crew) := shift.crew.dispatch task
    (answer, { shift with crew })

/-- A worker that is not busy goes, if nothing waits and nothing will come. -/
def leave?
    (shift : Shift job)
    (worker : Nat) :
    Option (Shift job) :=
  match shift.crew.workers[worker]?, shift.crew.queue, shift.crew.accepting with
  | some none, [], false =>
      if worker ∈ shift.gone then none
      else some { shift with gone := shift.gone ++ [worker] }
  | _, _, _ => none

/-- What can happen during a shift. -/
inductive Event (job : Type) where
  | crew (event : Crew.Event job)
  | leave (worker : Nat)
  deriving Repr, DecidableEq

/-- Lets something happen, if it can.  Who has gone takes up nothing. -/
def step?
    (outcome : job → HandlerOutcome)
    (shift : Shift job) :
    Event job → Option (Shift job)
  | .crew (.dispatch task) => some (shift.dispatch task).2
  | .crew (.take worker) =>
      if worker ∈ shift.gone then none
      else (shift.crew.step? outcome (.take worker)).map fun crew => { shift with crew }
  | .crew event => (shift.crew.step? outcome event).map fun crew => { shift with crew }
  | .leave worker => shift.leave? worker

end Shift

end LineProtocol
