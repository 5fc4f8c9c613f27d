import LineProtocol.Server.Core
import LineProtocol.Server.Moment

/-!
# A message on its way to all clients

A message for all is one job, but the connections are not the job's own.  Between the turns
of two clients the transport may close a connection, take no more of another one, or take
messages again, and others may look at the roster.  A `Casting` is a broadcast between two
such turns.
-/

namespace LineProtocol

/-- A server that is handing a frame to its clients, and those whose turn is still to come. -/
structure Casting where
  core : ServerCore
  frame : Bytes
  left : List Member

/-- A broadcast before the first turn. -/
def ServerCore.casting
    (core : ServerCore)
    (message : String) :
    Casting :=
  let (frame, encoder) := core.encoder.encode message
  { core := { core with encoder }, frame, left := core.roster.toList }

namespace Casting

/-- What can happen next. -/
inductive Event where
  /-- The next client has its turn. -/
  | deliver
  /-- Other threads went on. -/
  | elsewhere (core : ServerCore)

/-- What an event makes of a broadcast, if it can happen.  The log and the encoder are the
job's own meanwhile. -/
def step? (casting : Casting) : Event → Option Casting
  | .deliver =>
      match casting.left with
      | [] => none
      | member :: left =>
          some { casting with core := casting.core.deliver casting.frame member, left }
  | .elsewhere core =>
      if casting.core.Apart core ∧ core.encoder = casting.core.encoder ∧
          core.notices = casting.core.notices then
        some { casting with core }
      else none

end Casting

end LineProtocol
