import LineProtocol.Server.RosterSession

/-!
# A plain list of clients

What a roster is asked and what it answers can be said of a plain list: the
clients in the order in which they came, each with its connection, and whether
any more are let in.  A `Register` is that list.  It has no table to look in,
and no order beside the one of the list.
-/

namespace LineProtocol

/-- The clients in order, and whether no more are let in. -/
structure Register where
  clients : List (Identity × Channel) := []
  closing : Bool := false
  deriving Repr, DecidableEq

namespace Register

/-- What a roster knows of a client. -/
def entry (client : Identity × Channel) : Member :=
  { identity := client.1, channel := client.2.id }

/-- The identities in the order in which they came. -/
def identities (register : Register) : List Identity :=
  register.clients.map (·.1)

/-- The clients as a roster lists them. -/
def members (register : Register) : List Member :=
  register.clients.map entry

/-- The client with an identity. -/
def client?
    (register : Register)
    (identity : Identity) :
    Option (Identity × Channel) :=
  register.clients.find? (·.1 = identity)

/-- The client with an identity, as a roster knows it. -/
def member?
    (register : Register)
    (identity : Identity) :
    Option Member :=
  (register.client? identity).map entry

/-- Whether a client has this identity and this connection. -/
def isNamed
    (identity : Identity)
    (channel : ChannelId)
    (client : Identity × Channel) :
    Bool :=
  client.1 = identity && client.2.id = channel

/-- Answers one request. -/
def perform (register : Register) :
    RosterSession.Request → RosterSession.Reply × Register
  | .bound _ => (.done, register)
  | .unbound => (.done, register)
  | .recordFault _ => (.done, register)
  | .beginShutdown => (.done, { register with closing := true })
  | .finishShutdown => (.done, { register with closing := false })
  | .add identity channel =>
      if register.closing then (.added (.error .tornDown), register)
      else if identity ∈ register.identities then
        (.added (.error (.duplicateIdentity identity)), register)
      else
        (.added (.ok identity),
          { register with clients := register.clients ++ [(identity, channel)] })
  | .remove identity channel =>
      (.member ((register.clients.find? (isNamed identity channel)).map entry),
        { register with
          clients := register.clients.filter fun client =>
            !isNamed identity channel client })
  | .get identity => (.member (register.member? identity), register)
  | .list => (.members register.members, register)
  | .drain => (.members register.members, { register with clients := [] })
  | .send identity _ =>
      (.sent <| (register.client? identity).map fun client =>
          if client.2.isWritable then .ok () else .error (.notWritable client.2.id),
        register)

end Register

end LineProtocol
