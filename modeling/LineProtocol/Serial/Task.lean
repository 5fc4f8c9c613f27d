import LineProtocol.Serial.Basic

/-!
# Tasks

A task is a job written out: it changes the state, goes one way or another,
hands in further tasks, tries to wait for its own context, and at last reads
its answer off the state or gives up.  `Task.craft` makes serial contexts run tasks.

A task that waits for its own context would wait forever, so both ways of
doing that are refused without running anything.
-/

namespace LineProtocol

/-- A job that is written out. -/
inductive Task (σ ρ : Type) where
  /-- Answer what is read off the state. -/
  | answer (read : σ → ρ)
  /-- Give up. -/
  | panic
  | change (act : σ → σ) (next : Task σ ρ)
  /-- Go one of two ways, by whether jobs are refused and by the state. -/
  | choose (test : Bool → σ → Bool) (yes no : Task σ ρ)
  /-- Hand a task in to the own context. -/
  | submit (task : Task σ ρ) (next : Task σ ρ)
  /-- Hand a task in to the own context and wait for it. -/
  | call (task : Task σ ρ) (next : Task σ ρ)
  /-- Hand the last task in to the own context and wait for it. -/
  | finish (task : Task σ ρ) (next : Task σ ρ)

namespace Task

variable {σ ρ : Type}

/-- What a task is answered, and what its own requests were. -/
structure Answer (ρ : Type) where
  value : ρ
  replies : List (Except Fault Unit) := []

/-- Adds a reply in front. -/
def Answer.replied
    (reply : Except Fault Unit)
    (answer : Answer ρ) :
    Answer ρ :=
  { answer with replies := reply :: answer.replies }

/-- Runs a task on a state. -/
def run
    (stopped : Bool) :
    Task σ ρ → σ → Ran σ (Task σ ρ) (Answer ρ)
  | .answer read, state => { state, answer := some { value := read state } }
  | .panic, state => { state, answer := none }
  | .change act next, state => run stopped next (act state)
  | .choose test yes no, state =>
      if test stopped state then run stopped yes state else run stopped no state
  | .submit task next, state =>
      let ran := run stopped next state
      if stopped then
        { ran with answer := ran.answer.map (·.replied (.error .tornDown)) }
      else
        { ran with
          submitted := task :: ran.submitted
          answer := ran.answer.map (·.replied (.ok ())) }
  | .call _ next, state =>
      let ran := run stopped next state
      { ran with answer := ran.answer.map (·.replied (.error .serialContext)) }
  | .finish _ next, state =>
      let ran := run stopped next state
      { ran with answer := ran.answer.map (·.replied (.error .serialContext)) }

/-- A task and every task that it can hand in. -/
def weight : Task σ ρ → Nat
  | .answer _ => 1
  | .panic => 1
  | .change _ next => next.weight
  | .choose _ yes no => max yes.weight no.weight
  | .submit task next => task.weight + next.weight
  | .call _ next => next.weight
  | .finish _ next => next.weight

theorem submitted_lighter
    (stopped : Bool)
    (task : Task σ ρ)
    (state : σ) :
    total ((run stopped task state).submitted.map weight) < task.weight := by
  induction task generalizing state with
  | answer => simp [run, weight]
  | panic => simp [run, weight]
  | change act next ih => exact ih (act state)
  | choose test yes no ihYes ihNo =>
      have left := ihYes state
      have right := ihNo state
      simp only [run, weight]
      split <;> omega
  | submit task next _ ih =>
      have later := ih state
      cases stopped <;> simp [run, weight] at later ⊢ <;> omega
  | call task next _ ih => exact ih state
  | finish task next _ ih => exact ih state

/-- How serial contexts run tasks. -/
def craft : Craft σ (Task σ ρ) (Answer ρ) where
  run := run
  weight := weight
  lighter := submitted_lighter

end Task

end LineProtocol
