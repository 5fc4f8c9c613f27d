import LineProtocol.Fault

/-!
# What a server is doing

A server as a whole is off, listening, serving clients, shutting down or in
error.  Nothing decides this but four facts: whether it has a listener, how
many clients it has, whether it is shutting down, and the fault that is still
recorded.  `ListeningState.derive` reads the state off them.

As with connections, two error states are alike whatever their causes.
-/

namespace LineProtocol

/-- What a server is doing. -/
inductive ListeningState where
  | off
  | listening
  | active
  | shuttingDown
  | failed (cause : Fault)
  deriving Repr, DecidableEq

namespace ListeningState

/-- The state's name, without the cause of an error. -/
def name : ListeningState → String
  | .off => "off"
  | .listening => "listening"
  | .active => "active connections"
  | .shuttingDown => "shutting down"
  | .failed _ => "error"

/-- The state's name, with the cause of an error. -/
def text : ListeningState → String
  | .failed cause => "error(" ++ cause.message ++ ")"
  | state => state.name

/-- Why the server is in error, if it is. -/
def cause? : ListeningState → Option Fault
  | .failed cause => some cause
  | _ => none

/-- Whether two states are of the same kind.  Errors are. -/
def alike : ListeningState → ListeningState → Bool
  | .off, .off => true
  | .listening, .listening => true
  | .active, .active => true
  | .shuttingDown, .shuttingDown => true
  | .failed _, .failed _ => true
  | _, _ => false

/-- The state that follows from the facts.  Shutting down hides everything
else, and a fault hides all but that. -/
def derive
    (bound : Bool)
    (connections : Nat)
    (shuttingDown : Bool)
    (fault : Option Fault) :
    ListeningState :=
  if shuttingDown then .shuttingDown
  else
    match fault with
    | some cause => .failed cause
    | none =>
        if !bound then .off
        else if 0 < connections then .active
        else .listening

@[simp]
theorem alike_self (state : ListeningState) : state.alike state = true := by
  cases state <;> rfl

end ListeningState

end LineProtocol
