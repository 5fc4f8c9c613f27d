import LineProtocol.Transport.Channel
import LineProtocol.Frame.Basic

/-!
# What a transport reports

A transport tells whoever handles a connection what becomes of it.  With the
first and the last report it usually changes the status of the connection's
channel; a report says whether it does.
-/

namespace LineProtocol

/-- What becomes of a connection. -/
inductive Report where
  | established (marks : Bool)
  | connectFailed (reason : String) (marks : Bool)
  | read (chunk : Bytes)
  | broke (reason : String)
  | closed (marks : Bool)
  deriving Repr, DecidableEq

/-- What the report does to the status of its channel. -/
def Report.mark : Report → Channel → Channel
  | .established true => Channel.markOpen
  | .connectFailed _ true => Channel.markClosed
  | .closed true => Channel.markClosed
  | _ => id

end LineProtocol
