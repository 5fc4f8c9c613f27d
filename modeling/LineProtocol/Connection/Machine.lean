import LineProtocol.Cell.Basic
import LineProtocol.Connection.State

/-!
# The state machine of a client

A machine is the state that a client's connection is in, together with the
cell through which others watch it.  An event that has a place in the state
moves the machine and publishes the new state; any other is refused, and then
nothing changes and nothing is published.
-/

namespace LineProtocol

/-- The current state and the cell that shows it. -/
structure Machine where
  current : ConnectionState := .disconnected
  cell : Cell ConnectionState := { value := .disconnected }
  deriving Repr, DecidableEq

namespace Machine

/-- Lets an event happen.  The answer is the new state, or why there is
none. -/
def apply
    (machine : Machine)
    (event : ConnectionEvent) :
    Except Fault ConnectionState × Machine :=
  match machine.current.after? event with
  | some next =>
      (.ok next, { current := next, cell := machine.cell.publish next })
  | none =>
      (.error (.invalidTransition machine.current.name event.name), machine)

/-- Lets an event happen if it has a place in the state. -/
def advance
    (machine : Machine)
    (event : ConnectionEvent) :
    Machine :=
  (machine.apply event).2

/-- A watched machine: one more subscriber. -/
def subscribe (machine : Machine) : Machine :=
  { machine with cell := machine.cell.subscribe }

theorem apply_of_some
    {machine : Machine}
    {event : ConnectionEvent}
    {next : ConnectionState}
    (leads : machine.current.after? event = some next) :
    machine.apply event =
      (.ok next, { current := next, cell := machine.cell.publish next }) := by
  simp [apply, leads]

theorem apply_of_none
    {machine : Machine}
    {event : ConnectionEvent}
    (refused : machine.current.after? event = none) :
    machine.apply event =
      (.error (.invalidTransition machine.current.name event.name), machine) := by
  simp [apply, refused]

end Machine

end LineProtocol
