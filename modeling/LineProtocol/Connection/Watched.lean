import LineProtocol.Cell.Shared
import LineProtocol.Connection.Machine

/-!
# A state machine that others watch

The machine belongs to one party, who lets events happen.  Others hold handles on its
cell: through them they read it, subscribe and go away again at any time, but they publish
nothing.  A publication locks the cell, so whoever subscribes meanwhile comes before it or
after it.

The machine's own handle is the first one, and it is kept as long as the machine is there.
-/

namespace LineProtocol

/-- A machine and the handles on its cell. -/
structure Watched where
  machine : Machine := {}
  handles : List Bool := [true]
  deriving Repr, DecidableEq

namespace Watched

/-- The cell with the handles on it. -/
def shared (watched : Watched) : SharedCell ConnectionState where
  cell := watched.machine.cell
  handles := watched.handles

/-- Something is done to the cell. -/
def withShared
    (watched : Watched)
    (shared : SharedCell ConnectionState) :
    Watched where
  machine := { watched.machine with cell := shared.cell }
  handles := shared.handles

/-- Whether those who watch can do something: they do not publish, and they do not drop
the machine's own handle. -/
def permits : SharedCell.Step ConnectionState → Bool
  | .ask (.publish _ _) => false
  | .ask (.release handle) => handle != 0
  | _ => true

/-- What can happen to a watched machine. -/
inductive Event where
  | happen (event : ConnectionEvent)
  | watch (step : SharedCell.Step ConnectionState)

/-- Lets something happen, if it can. -/
def step? (watched : Watched) : Event → Option Watched
  | .happen event => some { watched with machine := watched.machine.advance event }
  | .watch step =>
      if permits step then (watched.shared.step? step).map watched.withShared else none

end Watched

end LineProtocol
