import LineProtocol.Serial.Task

/-!
# What a task comes to

A task does one thing after the other until it ends or gives up.  `run_eq` reads everything
that running it comes to off that list: the changes it made, also those before it gave up,
the tasks that it got in, and how each of its own requests was answered.  Waiting for the own
context is refused, and nothing is run for it.
-/

namespace LineProtocol.Task

variable {σ ρ : Type}

/-- One thing that a task does. -/
inductive Deed (σ ρ : Type) where
  | change (act : σ → σ)
  | submit (task : Task σ ρ)
  | call (task : Task σ ρ)
  | finish (task : Task σ ρ)

namespace Deed

/-- What a deed makes of the state. -/
def apply (state : σ) : Deed σ ρ → σ
  | .change act => act state
  | .submit _ | .call _ | .finish _ => state

/-- The task that a deed hands in. -/
def submitted? : Deed σ ρ → Option (Task σ ρ)
  | .submit task => some task
  | .change _ | .call _ | .finish _ => none

/-- How a request of a task to its own context is answered. -/
def reply? (stopped : Bool) : Deed σ ρ → Option (Except Fault Unit)
  | .change _ => none
  | .submit _ => some (if stopped then .error .tornDown else .ok ())
  | .call _ | .finish _ => some (.error .serialContext)

end Deed

/-- What a task does from a state on, until it ends or gives up. -/
def deeds (stopped : Bool) : Task σ ρ → σ → List (Deed σ ρ)
  | .answer _, _ => []
  | .panic, _ => []
  | .change act next, state => .change act :: deeds stopped next (act state)
  | .choose test yes no, state =>
      if test stopped state then deeds stopped yes state else deeds stopped no state
  | .submit task next, state => .submit task :: deeds stopped next state
  | .call task next, state => .call task :: deeds stopped next state
  | .finish task next, state => .finish task :: deeds stopped next state

/-- How a task reads its answer, unless it gives up. -/
def ending (stopped : Bool) : Task σ ρ → σ → Option (σ → ρ)
  | .answer read, _ => some read
  | .panic, _ => none
  | .change act next, state => ending stopped next (act state)
  | .choose test yes no, state =>
      if test stopped state then ending stopped yes state else ending stopped no state
  | .submit _ next, state => ending stopped next state
  | .call _ next, state => ending stopped next state
  | .finish _ next, state => ending stopped next state

/-- What deeds and an ending come to. -/
def outcome
    (stopped : Bool)
    (deeds : List (Deed σ ρ))
    (ending : Option (σ → ρ))
    (state : σ) :
    Ran σ (Task σ ρ) (Answer ρ) where
  state := deeds.foldl Deed.apply state
  submitted := if stopped then [] else deeds.filterMap Deed.submitted?
  answer :=
    ending.map fun read =>
      { value := read (deeds.foldl Deed.apply state)
        replies := deeds.filterMap (Deed.reply? stopped) }

/-- Running a task comes to what its deeds and its ending come to. -/
theorem run_eq
    (stopped : Bool)
    (task : Task σ ρ)
    (state : σ) :
    task.run stopped state =
      outcome stopped (task.deeds stopped state) (task.ending stopped state) state := by
  induction task generalizing state with
  | answer read => simp [run, outcome, deeds, ending]
  | panic => simp [run, outcome, deeds, ending]
  | change act next ih => exact ih (act state)
  | choose test yes no ihYes ihNo =>
      simp only [run, deeds, ending]
      split
      · exact ihYes state
      · exact ihNo state
  | submit task next _ ih =>
      simp only [run, deeds, ending, ih state]
      cases stopped <;>
        simp [outcome, Deed.apply, Deed.submitted?, Deed.reply?, Answer.replied,
          Function.comp_def]
  | call task next _ ih =>
      simp only [run, deeds, ending, ih state]
      simp [outcome, List.filterMap_cons, Deed.apply, Deed.submitted?, Deed.reply?,
        Answer.replied, Function.comp_def]
  | finish task next _ ih =>
      simp only [run, deeds, ending, ih state]
      simp [outcome, List.filterMap_cons, Deed.apply, Deed.submitted?, Deed.reply?,
        Answer.replied, Function.comp_def]

/-- Who is refused gets nothing in. -/
theorem submitted_of_stopped
    (task : Task σ ρ)
    (state : σ) :
    (task.run true state).submitted = [] := by
  rw [run_eq]
  rfl

end LineProtocol.Task
