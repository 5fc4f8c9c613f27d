import LineProtocol.Identity

/-!
# What can go wrong

A `Fault` is the cause of a failed operation or of an error state.  Faults
that come from the network carry the network's own reason.  The wording of a
fault is `Fault.message`; a program that has to tell causes apart matches on
the constructor and never on the wording.
-/

namespace LineProtocol

/-- The cause of a failure. -/
inductive Fault where
  /-- The target's name could not be looked up. -/
  | resolve (target reason : String)
  /-- The target's name stands for no address. -/
  | noAddress (target : String)
  | connect (address : SocketAddress) (reason : String)
  | bind (address : SocketAddress) (reason : String)
  /-- A close failed, or was not confirmed in time. -/
  | close (reason : String)
  | notWritable (channel : ChannelId)
  | unknownIdentity (identity : Identity)
  | noClients
  | duplicateIdentity (identity : Identity)
  /-- The event has no place in the state. -/
  | invalidTransition (state event : String)
  /-- A context waited for itself. -/
  | serialContext
  /-- The instance was shut down. -/
  | tornDown
  /-- A connection broke. -/
  | transport (reason : String)
  deriving Repr, DecidableEq

namespace Fault

/-- The wording of a fault. -/
def message : Fault → String
  | .resolve target _ => "failed to resolve " ++ target
  | .noAddress target => "no address found for " ++ target
  | .connect address _ => "connect to " ++ address.text ++ " failed"
  | .bind address _ => "bind to " ++ address.text ++ " failed"
  | .close _ => "close failed"
  | .notWritable channel => "channel " ++ channel.text ++ " is not writable"
  | .unknownIdentity identity => "unknown client identity " ++ identity.text
  | .noClients => "no client connected"
  | .duplicateIdentity identity =>
      "client identity " ++ identity.text ++ " is already connected"
  | .invalidTransition state event =>
      "invalid transition: " ++ event ++ " while " ++ state
  | .serialContext => "blocking operation called from inside its own serial context"
  | .tornDown => "instance has been shut down"
  | .transport _ => "transport I/O error"

/-- The name of the kind of fault, whatever it is about. -/
def kind : Fault → String
  | .resolve .. => "Resolve"
  | .noAddress _ => "NoAddress"
  | .connect .. => "Connect"
  | .bind .. => "Bind"
  | .close _ => "Close"
  | .notWritable _ => "NotWritable"
  | .unknownIdentity _ => "UnknownIdentity"
  | .noClients => "NoClients"
  | .duplicateIdentity _ => "DuplicateIdentity"
  | .invalidTransition .. => "InvalidTransition"
  | .serialContext => "SerialContext"
  | .tornDown => "TornDown"
  | .transport _ => "Io"

/-- The network's reason, for the faults that come from there. -/
def reason? : Fault → Option String
  | .resolve _ reason => some reason
  | .connect _ reason => some reason
  | .bind _ reason => some reason
  | .close reason => some reason
  | .transport reason => some reason
  | _ => none

end Fault

end LineProtocol
