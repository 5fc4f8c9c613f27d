import LineProtocol.Server.Roster
import LineProtocol.Transport.Basic

/-!
# Using a roster

A session is a roster together with the channels that its clients were added
with, so that messages can be sent to clients by identity.
-/

namespace LineProtocol

/-- A roster, its clients' channels, and what was written to them. -/
structure RosterSession where
  roster : Roster := {}
  channels : Table Identity Channel := {}
  writes : List Call := []
  deriving Repr, DecidableEq

namespace RosterSession

/-- What a roster is asked to do. -/
inductive Request where
  | bound (address : SocketAddress)
  | unbound
  | recordFault (cause : Fault)
  | beginShutdown
  | finishShutdown
  | add (identity : Identity) (channel : Channel)
  | remove (identity : Identity) (channel : ChannelId)
  | get (identity : Identity)
  | list
  | drain
  | send (identity : Identity) (bytes : Bytes)
  deriving Repr, DecidableEq

/-- What is answered. -/
inductive Reply where
  | done
  | added (outcome : Except Fault Identity)
  | member (member : Option Member)
  | members (members : List Member)
  | sent (outcome : Option (Except Fault Unit))

/-- Sends octets to a client, if it is there. -/
def send
    (session : RosterSession)
    (identity : Identity)
    (bytes : Bytes) :
    Option (Except Fault Unit) × RosterSession :=
  match (session.roster.member? identity).bind fun _ =>
      session.channels.find? identity with
  | none => (none, session)
  | some channel =>
      if channel.isWritable then
        (some (.ok ()),
          { session with writes := session.writes ++ [.write channel.id bytes] })
      else (some (.error (.notWritable channel.id)), session)

/-- Answers one request. -/
def perform (session : RosterSession) : Request → Reply × RosterSession
  | .bound address =>
      (.done, { session with roster := session.roster.listenerBound address })
  | .unbound => (.done, { session with roster := session.roster.listenerUnbound })
  | .recordFault cause =>
      (.done, { session with roster := session.roster.recordFault cause })
  | .beginShutdown => (.done, { session with roster := session.roster.beginShutdown })
  | .finishShutdown =>
      (.done, { session with roster := session.roster.finishShutdown })
  | .add identity channel =>
      let (outcome, roster) := session.roster.add { identity, channel := channel.id }
      let channels :=
        match outcome with
        | .ok _ => session.channels.insert identity channel
        | .error _ => session.channels
      (.added outcome, { session with roster, channels })
  | .remove identity channel =>
      let (member, roster) := session.roster.remove identity channel
      (.member member, { session with roster })
  | .get identity => (.member (session.roster.member? identity), session)
  | .list => (.members session.roster.toList, session)
  | .drain =>
      let (members, roster) := session.roster.drain
      (.members members, { session with roster })
  | .send identity bytes =>
      let (outcome, session) := session.send identity bytes
      (.sent outcome, session)

end RosterSession

end LineProtocol
