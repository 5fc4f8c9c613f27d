import LineProtocol.Identity

/-!
# Channels

A channel is the handle on one connection.  It starts out pending, is opened
once by the transport, and is closed either by its holder, who first only asks
for it, or by the transport.

Holder and transport may act at the same time.  Every change of status is
therefore one exchange, which does nothing if the status is no longer the
expected one; asking for a close is two of them.
-/

namespace LineProtocol

/-- How far a channel is in its life. -/
inductive Status where
  | pending
  | opened
  | closing
  | closed
  deriving Repr, DecidableEq

namespace Status

/-- The place of a status in the order in which a channel goes through them. -/
def rank : Status → Nat
  | .pending => 0
  | .opened => 1
  | .closing => 2
  | .closed => 3

/-- Changes an expected status, and leaves any other. -/
def exchange (expected next actual : Status) : Status :=
  if actual = expected then next else actual

/-- The transport reports the connection as open. -/
def markOpen : Status → Status :=
  exchange .pending .opened

/-- The first half of asking for a close. -/
def leaveOpen : Status → Status :=
  exchange .opened .closing

/-- The second half of asking for a close. -/
def leavePending : Status → Status :=
  exchange .pending .closing

/-- The holder asks for a close. -/
def beginClose (status : Status) : Status :=
  status.leaveOpen.leavePending

end Status

/-- The handle on a connection. -/
structure Channel where
  id : ChannelId
  peer : Option SocketAddress := none
  status : Status := .pending
  deriving Repr, DecidableEq

namespace Channel

/-- Whether messages are taken. -/
def isWritable (channel : Channel) : Bool :=
  channel.status = .opened

/-- Whether the transport reported the connection as closed. -/
def isClosed (channel : Channel) : Bool :=
  channel.status = .closed

/-- The transport reports the connection as open. -/
def markOpen (channel : Channel) : Channel :=
  { channel with status := channel.status.markOpen }

/-- The transport reports the connection as closed. -/
def markClosed (channel : Channel) : Channel :=
  { channel with status := .closed }

/-- The holder asks for a close. -/
def beginClose (channel : Channel) : Channel :=
  { channel with status := channel.status.beginClose }

/-- The channel as a log shows it. -/
def text (channel : Channel) : String :=
  let peer :=
    match channel.peer with
    | some address => "Some(" ++ address.text ++ ")"
    | none => "None"
  "Channel \x7b id: ChannelId(" ++ toString channel.id.number ++ "), peer: " ++
    peer ++ ", writable: " ++ toString channel.isWritable ++ " \x7d"

end Channel

/-- A bound address on which connections are accepted. -/
structure Listener where
  id : ChannelId
  address : SocketAddress
  deriving Repr, DecidableEq

/-- The listener as a log shows it. -/
def Listener.text (listener : Listener) : String :=
  "Listener \x7b id: ChannelId(" ++ toString listener.id.number ++
    "), local_addr: " ++ listener.address.text ++ " \x7d"

end LineProtocol
