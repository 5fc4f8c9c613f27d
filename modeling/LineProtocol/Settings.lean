import LineProtocol.Frame.Basic
import LineProtocol.Identity

/-!
# Settings

What can be chosen about the engine that moves octets, about a client and
about a server, with the values that hold where nothing is chosen.  At least
one thread always runs, so a choice of none counts as one.
-/

namespace LineProtocol

/-- What can be chosen about an engine. -/
structure EngineSettings where
  workerThreads : Nat := 2
  readBufferSize : Nat := 65536
  writeBufferSize : Nat := 65536
  /-- How many octets of a connection may wait to be sent. -/
  maxPendingWrite : Nat := 1048576
  noDelay : Bool := true
  receiveBufferSize : Option Nat := none
  sendBufferSize : Option Nat := none
  eventsCapacity : Nat := 1024
  deriving Repr, DecidableEq

namespace EngineSettings

/-- Chooses the number of workers. -/
def withWorkerThreads
    (settings : EngineSettings)
    (count : Nat) :
    EngineSettings :=
  { settings with workerThreads := max count 1 }

/-- Chooses the sizes of the system's buffers. -/
def withSocketBuffers
    (settings : EngineSettings)
    (receive send : Option Nat) :
    EngineSettings :=
  { settings with receiveBufferSize := receive, sendBufferSize := send }

/-- An optional number as settings show it. -/
def optionText : Option Nat → String
  | none => "None"
  | some size => "Some(" ++ toString size ++ ")"

/-- All settings by name. -/
def text (settings : EngineSettings) : String :=
  "EngineConfig \x7b worker_threads: " ++ toString settings.workerThreads ++
    ", read_buffer_size: " ++ toString settings.readBufferSize ++
    ", write_buffer_size: " ++ toString settings.writeBufferSize ++
    ", max_pending_write: " ++ toString settings.maxPendingWrite ++
    ", nodelay: " ++ toString settings.noDelay ++
    ", recv_buffer_size: " ++ optionText settings.receiveBufferSize ++
    ", send_buffer_size: " ++ optionText settings.sendBufferSize ++
    ", events_capacity: " ++ toString settings.eventsCapacity ++ " \x7d"

end EngineSettings

/-- Where a client or a server has its engine from. -/
inductive EngineSource where
  /-- An engine of its own, which is stopped with it. -/
  | owned (settings : EngineSettings)
  /-- An engine that others use too. -/
  | shared
  deriving Repr, DecidableEq

/-- The source as settings show it. -/
def EngineSource.text : EngineSource → String
  | .owned settings => "Owned(" ++ settings.text ++ ")"
  | .shared => "Shared(..)"

/-- What can be chosen about a client and a server alike. -/
structure EndpointSettings where
  engine : EngineSource := .owned {}
  framing : Framing := {}
  dispatchThreads : Nat := 2
  /-- How many milliseconds a shutdown waits for each close. -/
  shutdownTimeout : Nat := 5000
  deriving Repr, DecidableEq

/-- Chooses the number of handler threads. -/
def EndpointSettings.withDispatchThreads
    (settings : EndpointSettings)
    (count : Nat) :
    EndpointSettings :=
  { settings with dispatchThreads := max count 1 }

/-- What can be chosen about a client.  One worker is enough for its one
connection. -/
structure ClientSettings extends EndpointSettings where
  engine := .owned { workerThreads := 1 }
  deriving Repr, DecidableEq

/-- The policy as settings show it. -/
def IdentityPolicy.text : IdentityPolicy → String
  | .generated => "Generated"
  | .named _ => "Named(..)"

/-- What can be chosen about a server. -/
structure ServerSettings extends EndpointSettings where
  dispatchThreads := 4
  bindIp : IpAddress := .v4 .unspecified
  identity : IdentityPolicy := .generated

end LineProtocol
