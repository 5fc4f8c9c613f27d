import LineProtocol.Fault
import LineProtocol.Frame.Basic

/-!
# The log

A `Notice` is a record of something that an operator should see: a refused
request, a broken connection, a failing handler.  Each kind of notice is a
constructor with what it is about.  Its line in the log has a level, a fixed
message and named fields, which `level`, `message` and `fields` give.
-/

namespace LineProtocol

/-- How grave a notice is. -/
inductive Level where
  | warn
  | error
  deriving Repr, DecidableEq

/-- The name of a level. -/
def Level.text : Level → String
  | .warn => "warn"
  | .error => "error"

/-- A record for the log. -/
inductive Notice where
  /-- A client was asked to connect in a state that has no place for it. -/
  | connectIgnored (cause : Fault)
  /-- A connect came to nothing. -/
  | connectFailed (cause : Fault)
  /-- A client's connection broke. -/
  | connectionBroke (channel : ChannelId) (cause : Fault)
  /-- A client had no connection to send on. -/
  | sendUnconnected (state : String)
  /-- A client's connection did not take a message. -/
  | sendRefused (cause : Fault)
  /-- A client was shut down without its close being confirmed. -/
  | disconnectUnconfirmed (cause : Fault)
  /-- A frame was dropped because it is no text. -/
  | frameDropped (channel : ChannelId) (cause : FrameFault)
  /-- A connection is closed because a frame was too long. -/
  | frameTooLong (channel : ChannelId) (cause : FrameFault)
  /-- A message handler reported an error. -/
  | handlerFailed (worker reason : String)
  /-- A message handler gave up without reporting one. -/
  | handlerPanicked (worker : String)
  /-- A job of a serial context gave up. -/
  | jobPanicked (context : String)
  /-- A server was asked to listen while shutting down. -/
  | listenDuringShutdown (port : UInt16)
  /-- A server was asked to listen while it has a listener. -/
  | alreadyListening (bound : SocketAddress) (port : UInt16)
  /-- A server's address could not be bound. -/
  | listenFailed (cause : Fault)
  /-- A new connection was turned away. -/
  | connectionRejected (channel : ChannelId) (cause : Fault)
  /-- A server had no client for a message, or the client did not take it. -/
  | messageDropped (cause : Fault)
  /-- One client did not take a message that was for all. -/
  | broadcastRefused (client : Identity) (cause : Fault)
  /-- A listener could not accept a connection. -/
  | acceptFailed (reason : String)
  /-- A server was shut down without a close being confirmed. -/
  | closeUnconfirmed (resource : String) (cause : Fault)
  deriving Repr, DecidableEq

namespace Notice

/-- How grave the notice is. -/
def level : Notice → Level
  | .handlerPanicked _ => .error
  | .jobPanicked _ => .error
  | .listenFailed _ => .error
  | _ => .warn

/-- What the notice says, whatever it is about. -/
def message : Notice → String
  | .connectIgnored _ => "connect ignored"
  | .connectFailed _ => "connect failed"
  | .connectionBroke .. => "connection error"
  | .sendUnconnected _ => "send while not connected, message dropped"
  | .sendRefused _ => "send failed"
  | .disconnectUnconfirmed _ => "disconnect did not complete cleanly"
  | .frameDropped .. => "dropping undecodable frame"
  | .frameTooLong .. => "closing connection"
  | .handlerFailed .. => "message handler failed"
  | .handlerPanicked _ => "message handler panicked"
  | .jobPanicked _ => "job panicked in serial context"
  | .listenDuringShutdown _ => "listen during shutdown ignored"
  | .alreadyListening .. => "already listening, listen ignored"
  | .listenFailed _ => "listen failed"
  | .connectionRejected .. => "connection rejected"
  | .messageDropped _ => "send failed, message dropped"
  | .broadcastRefused .. => "broadcast send failed"
  | .acceptFailed _ => "accept failed"
  | .closeUnconfirmed .. => "close failed during shutdown"

/-- What the notice is about, by name. -/
def fields : Notice → List (String × String)
  | .connectIgnored cause => [("error", cause.message)]
  | .connectFailed cause => [("error", cause.message)]
  | .connectionBroke channel cause =>
      [("channel", channel.text), ("error", cause.message)]
  | .sendUnconnected state => [("state", state)]
  | .sendRefused cause => [("error", cause.message)]
  | .disconnectUnconfirmed cause => [("error", cause.message)]
  | .frameDropped channel cause =>
      [("channel", channel.text), ("error", cause.message)]
  | .frameTooLong channel cause =>
      [("channel", channel.text), ("error", cause.message)]
  | .handlerFailed worker reason => [("dispatcher", worker), ("error", reason)]
  | .handlerPanicked worker => [("dispatcher", worker)]
  | .jobPanicked context => [("context", context)]
  | .listenDuringShutdown port => [("port", toString port.toNat)]
  | .alreadyListening bound port =>
      [("bound", bound.text), ("port", toString port.toNat)]
  | .listenFailed cause => [("error", cause.message)]
  | .connectionRejected channel cause =>
      [("channel", channel.text), ("error", cause.message)]
  | .messageDropped cause => [("error", cause.message)]
  | .broadcastRefused client cause =>
      [("client", client.text), ("error", cause.message)]
  | .acceptFailed reason => [("error", reason)]
  | .closeUnconfirmed resource cause =>
      [("resource", resource), ("error", cause.message)]

end Notice

end LineProtocol
