import LineProtocol.Cell.Basic
import LineProtocol.Server.State
import LineProtocol.Table

/-!
# A server's clients

The roster knows every client that was admitted and has not left, which
connection belongs to whom, and in which order they came.  It also keeps what
else decides the server's state: the bound address, the recorded fault and
whether the server is shutting down.

Every change publishes at once: first the state, if it became another one or
is an error, then the list of identities if that changed.
-/

namespace LineProtocol

/-- A client: who it is and its connection. -/
structure Member where
  identity : Identity
  channel : ChannelId
  deriving Repr, DecidableEq

/-- All clients of a server. -/
structure Roster where
  /-- The clients by identity. -/
  members : Table Identity Member := {}
  /-- The identities in the order in which they came. -/
  order : List Identity := []
  bound : Option SocketAddress := none
  shuttingDown : Bool := false
  fault : Option Fault := none
  state : Cell ListeningState := { value := .off }
  identities : Cell (List Identity) := { value := [] }
  deriving Repr, DecidableEq

namespace Roster

/-- An empty roster that is watched from the start. -/
def watched : Roster :=
  { state := Cell.subscribe { value := .off }
    identities := Cell.subscribe { value := [] } }

/-! ## Reading -/

/-- How many clients there are. -/
def size (roster : Roster) : Nat :=
  roster.members.size

/-- The state that follows from what the roster knows. -/
def currentState (roster : Roster) : ListeningState :=
  .derive roster.bound.isSome roster.size roster.shuttingDown roster.fault

/-- The client with an identity. -/
def member?
    (roster : Roster)
    (identity : Identity) :
    Option Member :=
  roster.members.find? identity

/-- The clients in the order in which they came. -/
def toList (roster : Roster) : List Member :=
  roster.order.filterMap roster.member?

/-- The client that came last of those still there. -/
def mostRecent? (roster : Roster) : Option Member :=
  roster.order.getLast?.bind roster.member?

/-! ## Publishing -/

/-- Publishes the state if it is of another kind than the one shown, or an
error. -/
def publishState (roster : Roster) : Roster :=
  let next := roster.currentState
  if !next.alike roster.state.value || next.cause?.isSome then
    { roster with state := roster.state.publish next }
  else roster

/-- Publishes the list of identities. -/
def publishIdentities (roster : Roster) : Roster :=
  { roster with identities := roster.identities.publish roster.order }

/-! ## Changes -/

/-- The server got a listener. -/
def listenerBound
    (roster : Roster)
    (address : SocketAddress) :
    Roster :=
  publishState { roster with bound := some address, fault := none }

/-- The server's listener is gone.  The clients stay. -/
def listenerUnbound (roster : Roster) : Roster :=
  publishState { roster with bound := none, fault := none }

/-- Something failed that puts the whole server in error. -/
def recordFault
    (roster : Roster)
    (cause : Fault) :
    Roster :=
  publishState { roster with fault := some cause }

/-- Adds a client behind the others.  Nobody is added during a shutdown, or
twice. -/
def add
    (roster : Roster)
    (member : Member) :
    Except Fault Identity × Roster :=
  if roster.shuttingDown then (.error .tornDown, roster)
  else if (roster.member? member.identity).isSome then
    (.error (.duplicateIdentity member.identity), roster)
  else
    (.ok member.identity,
      publishIdentities <| publishState
        { roster with
          members := roster.members.insert member.identity member
          order := roster.order ++ [member.identity] })

/-- Removes a client, unless it is gone or its identity now belongs to another
connection. -/
def remove
    (roster : Roster)
    (identity : Identity)
    (channel : ChannelId) :
    Option Member × Roster :=
  match roster.member? identity with
  | none => (none, roster)
  | some member =>
      if member.channel = channel then
        (some member,
          publishIdentities <| publishState
            { roster with
              members := roster.members.erase identity
              order := roster.order.filter (· ≠ identity) })
      else (none, roster)

/-- Starts a shutdown. -/
def beginShutdown (roster : Roster) : Roster :=
  publishState { roster with shuttingDown := true }

/-- Takes all clients out, in order. -/
def drain (roster : Roster) : List Member × Roster :=
  (roster.toList,
    publishIdentities <| publishState { roster with members := {}, order := [] })

/-- Ends a shutdown. -/
def finishShutdown (roster : Roster) : Roster :=
  publishState { roster with shuttingDown := false, bound := none, fault := none }

@[simp]
theorem order_publishState (roster : Roster) :
    roster.publishState.order = roster.order := by
  unfold publishState
  grind

@[simp]
theorem members_publishState (roster : Roster) :
    roster.publishState.members = roster.members := by
  unfold publishState
  grind

end Roster

end LineProtocol
