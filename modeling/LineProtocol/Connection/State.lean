import LineProtocol.Fault

/-!
# The life of a client's connection

A client is in one of five states, and six kinds of event move it.  The table
`ConnectionState.after?` says where an event leads, or that it has no place in
the state.

Two error states are alike whatever their causes, which is how an application
compares states; the cause itself is read with `cause?`.
-/

namespace LineProtocol

/-- Where a client's connection stands. -/
inductive ConnectionState where
  | disconnected
  | connecting
  | connected
  | disconnecting
  | failed (cause : Fault)
  deriving Repr, DecidableEq

namespace ConnectionState

/-- The state's name, without the cause of a failure. -/
def name : ConnectionState → String
  | .disconnected => "disconnected"
  | .connecting => "connecting"
  | .connected => "connected"
  | .disconnecting => "disconnecting"
  | .failed _ => "error"

/-- The state's name, with the cause of a failure. -/
def text : ConnectionState → String
  | .failed cause => "error(" ++ cause.message ++ ")"
  | state => state.name

/-- Why the connection failed, if it did. -/
def cause? : ConnectionState → Option Fault
  | .failed cause => some cause
  | _ => none

/-- Whether the connection failed. -/
def isFailed (state : ConnectionState) : Bool :=
  state.cause?.isSome

/-- Whether two states are of the same kind.  Failures are. -/
def alike : ConnectionState → ConnectionState → Bool
  | .disconnected, .disconnected => true
  | .connecting, .connecting => true
  | .connected, .connected => true
  | .disconnecting, .disconnecting => true
  | .failed _, .failed _ => true
  | _, _ => false

end ConnectionState

/-- What can happen to a client's connection. -/
inductive ConnectionEvent where
  | connectRequested
  | established
  | connectFailed (cause : Fault)
  | disconnectRequested
  | closed
  | broke (cause : Fault)
  deriving Repr, DecidableEq

/-- The event's name, without the cause of a failure. -/
def ConnectionEvent.name : ConnectionEvent → String
  | .connectRequested => "connect requested"
  | .established => "established"
  | .connectFailed _ => "connect failed"
  | .disconnectRequested => "disconnect requested"
  | .closed => "closed"
  | .broke _ => "io error"

/-- Where an event leads from a state. -/
def ConnectionState.after? : ConnectionState → ConnectionEvent → Option ConnectionState
  | .disconnected, .connectRequested => some .connecting
  | .failed _, .connectRequested => some .connecting
  | .connecting, .established => some .connected
  | .connecting, .connectFailed cause => some (.failed cause)
  | .connecting, .disconnectRequested => some .disconnecting
  | .connected, .disconnectRequested => some .disconnecting
  | .failed _, .disconnectRequested => some .disconnecting
  | .connected, .closed => some .disconnected
  | .failed _, .closed => some .disconnected
  | .disconnecting, .closed => some .disconnected
  | _, .broke cause => some (.failed cause)
  | _, _ => none

end LineProtocol
