import Mathlib.Logic.Function.Basic
import LineProtocol.Proofs.Run
import LineProtocol.Proofs.Serial.Ending
import LineProtocol.Proofs.Transport.Later

/-!
# Many who shut down at once

Clients and servers are shut down in the same phases.  A caller hands in a job
that starts it, waits for every close that the job's answer tells of, and hands
in the last job.  The last job is handed in once; whoever comes later waits
until the one who did that is done.

`Closedown` says what the phases are for a kind of session.  `Callers` is a
session together with any number of callers, each of them somewhere in its
phases, and a `Turn` is one move of one of them, of the serial context, or of
anybody else.  Turns come in any order.
-/

namespace LineProtocol

/-! ## The phases of a shutdown -/

/-- How a kind of session is shut down, and what else happens to it. -/
structure Closedown (σ core job ρ κ action : Type) where
  craft : Craft core job ρ
  context : σ → Serial core job
  /-- The session with another context. -/
  withContext : σ → Serial core job → σ
  transport : core → Transport
  /-- The session with its transport changed. -/
  alterTransport : σ → (Transport → Transport) → σ
  /-- The job that starts a shutdown. -/
  first : job
  /-- The last job. -/
  last : job
  /-- What the first job's answer tells a caller to wait for. -/
  closings : ρ → List κ
  ticket : κ → Ticket
  /-- Waits for a close, for as long as one waits. -/
  await : σ → κ → σ
  /-- A call or a report, if it may be made. -/
  act? : σ → action → Option σ
  /-- The handler is given what waits for it. -/
  work : σ → σ

/-- What happens apart from shutdowns and from jobs that are run. -/
inductive Aside (action : Type) where
  | act (action : action)
  | work
  /-- The transport answers requests to close. -/
  | answer (chosen : ChannelId → Bool) (receipt : Receipt)
  /-- Others take numbers. -/
  | numbers (count : Nat)

/-- Where a caller is. -/
inductive CallerPhase (κ : Type) where
  | idle
  /-- The first job waits at a place of the queue. -/
  | begun (place : Nat)
  | waiting (closings : List κ)
  /-- The caller handed the last job in and waits for the context to end. -/
  | ending
  /-- Somebody else handed the last job in. -/
  | joining
  | returned
  deriving DecidableEq

/-- The caller's first job ran, and the caller did not return. -/
def CallerPhase.Waits {κ : Type} : CallerPhase κ → Prop
  | .waiting _ => True
  | .ending => True
  | _ => False

/-- A session and who shuts it down. -/
structure Callers (σ κ : Type) where
  session : σ
  phases : Nat → CallerPhase κ := fun _ => .idle
  /-- Who handed the last job in, until the context has ended. -/
  holder : Option Nat := none

/-- One move. -/
inductive Turn (action : Type) where
  | aside (aside : Aside action)
  /-- The context takes what is first in its queue. -/
  | serve
  /-- A caller hands the first job in. -/
  | call (caller : Nat)
  /-- A caller has waited for the next close, successfully or not. -/
  | wait (caller : Nat)
  /-- A caller hands the last job in. -/
  | finish (caller : Nat)
  /-- A caller returns. -/
  | leave (caller : Nat)

namespace Closedown

variable {σ core job ρ κ action : Type}

section

variable (closedown : Closedown σ core job ρ κ action)

/-- Lets happen what is no shutdown, if it may.  A request to close that was
answered is not waited for any more. -/
def aside? (session : σ) : Aside action → Option σ
  | .act action => closedown.act? session action
  | .work => some (closedown.work session)
  | .answer chosen receipt =>
      if receipt = .waiting then none
      else some (closedown.alterTransport session (·.settle chosen receipt))
  | .numbers count =>
      some (closedown.alterTransport session fun transport =>
        { transport with nextId := transport.nextId + count })

/-- A caller's phase after the context took something, which was answered if it
was a job. -/
def heard : Option (Option ρ) → CallerPhase κ → CallerPhase κ
  | some (some value), .begun 0 => .waiting (closedown.closings value)
  | some none, .begun 0 => .joining
  | some _, .begun (place + 1) => .begun place
  | _, phase => phase

/-- The context takes what is first in its queue. -/
def serve (callers : Callers σ κ) : Callers σ κ :=
  let (answer, context) := (closedown.context callers.session).runNext closedown.craft
  { callers with
    session := closedown.withContext callers.session context
    phases := fun caller => closedown.heard answer (callers.phases caller) }

/-- A caller hands the first job in, or waits for whoever came before. -/
def call
    (callers : Callers σ κ)
    (caller : Nat) :
    Callers σ κ :=
  let waiting := closedown.context callers.session
  match waiting.submit closedown.first with
  | (.ok (), context) =>
      { callers with
        session := closedown.withContext callers.session context
        phases := Function.update callers.phases caller (.begun waiting.queue.length) }
  | (.error _, _) =>
      { callers with phases := Function.update callers.phases caller .joining }

/-- A caller hands the last job in, unless somebody did so before. -/
def finish
    (callers : Callers σ κ)
    (caller : Nat) :
    Callers σ κ :=
  match (closedown.context callers.session).handLast closedown.last with
  | (.ok (), context) =>
      { session := closedown.withContext callers.session context
        phases := Function.update callers.phases caller .ending
        holder := some caller }
  | (.error _, _) =>
      { callers with phases := Function.update callers.phases caller .returned }

/-- Lets a turn happen, if it may. -/
def step?
    (callers : Callers σ κ) :
    Turn action → Option (Callers σ κ)
  | .aside aside =>
      (closedown.aside? callers.session aside).map fun session => { callers with session }
  | .serve => some (closedown.serve callers)
  | .call caller =>
      match callers.phases caller with
      | .idle => some (closedown.call callers caller)
      | _ => none
  | .wait caller =>
      match callers.phases caller with
      | .waiting (closing :: closings) =>
          some { callers with
            session := closedown.await callers.session closing
            phases := Function.update callers.phases caller (.waiting closings) }
      | _ => none
  | .finish caller =>
      match callers.phases caller, callers.holder with
      | .waiting [], none => some (closedown.finish callers caller)
      | _, _ => none
  | .leave caller =>
      match callers.phases caller with
      | .ending =>
          if (closedown.context callers.session).ended then
            some { callers with
              phases := Function.update callers.phases caller .returned
              holder := none }
          else none
      | .joining =>
          if callers.holder = none then
            some { callers with phases := Function.update callers.phases caller .returned }
          else none
      | _ => none

/-- What a turn comes to, by who makes it. -/
inductive Moves (callers : Callers σ κ) : Turn action → Callers σ κ → Prop where
  | aside
    {aside : Aside action}
    {session : σ}
    (happened : closedown.aside? callers.session aside = some session) :
    Moves callers (.aside aside) { callers with session }
  | serve : Moves callers .serve (closedown.serve callers)
  | call
    {caller : Nat}
    (idle : callers.phases caller = .idle) :
    Moves callers (.call caller) (closedown.call callers caller)
  | wait
    {caller : Nat}
    {closing : κ}
    {closings : List κ}
    (waits : callers.phases caller = .waiting (closing :: closings)) :
    Moves callers (.wait caller)
      { callers with
        session := closedown.await callers.session closing
        phases := Function.update callers.phases caller (.waiting closings) }
  | finish
    {caller : Nat}
    (done : callers.phases caller = .waiting [])
    (free : callers.holder = none) :
    Moves callers (.finish caller) (closedown.finish callers caller)
  | leave
    {caller : Nat}
    (ending : callers.phases caller = .ending)
    (ended : (closedown.context callers.session).ended = true) :
    Moves callers (.leave caller)
      { callers with
        phases := Function.update callers.phases caller .returned
        holder := none }
  | join
    {caller : Nat}
    (joining : callers.phases caller = .joining)
    (free : callers.holder = none) :
    Moves callers (.leave caller)
      { callers with phases := Function.update callers.phases caller .returned }

/-- Lets turns happen one after the other. -/
def run?
    (callers : Callers σ κ)
    (turns : List (Turn action)) :
    Option (Callers σ κ) :=
  turns.foldlM closedown.step? callers

/-- In a run the context ran a job, and until then the callers came to this. -/
def Served
    (start : Callers σ κ)
    (turns : List (Turn action))
    (task : job)
    (callers : Callers σ κ) :
    Prop :=
  ∃ earlier later,
    turns = earlier ++ .serve :: later ∧ closedown.run? start earlier = some callers ∧
      (closedown.context callers.session).next? = some task

/-- The job that a turn runs, with the state that the job finds. -/
def ran? : Callers σ κ × Turn action → Option (job × core)
  | (callers, .serve) =>
      (closedown.context callers.session).next?.map fun task =>
        (task, (closedown.context callers.session).state)
  | _ => none

/-- The jobs that ran, in order, each with the state that it found. -/
def trail
    (start : Callers σ κ)
    (turns : List (Turn action)) :
    List (job × core) :=
  (visits closedown.step? start turns).filterMap closedown.ran?

/-- A caller waits for a close that was not answered. -/
def Owed
    (callers : Callers σ κ)
    (caller : Nat) :
    Prop :=
  ∃ closings, callers.phases caller = .waiting closings ∧
    ∃ closing ∈ closings,
      (closedown.transport (closedown.context callers.session).state).receipts[
        (closedown.ticket closing).number]? = some .waiting

end

end Closedown

end LineProtocol
