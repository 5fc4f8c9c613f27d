import LineProtocol.Server.RosterSession

/-!
# A roster that others look at

Only one thread changes a roster, but whoever holds one of its two cells can
look at any time: subscribe, take what was published, or go away, also while a
request is half done.  So a request is taken apart here into its `Effect`s, in
the order in which they happen, and others may look between any two of them.
-/

namespace LineProtocol

/-! ## Those who look -/

/-- What subscribers of a cell do. -/
inductive Look where
  | subscribe
  /-- Go away. -/
  | leave (index : Nat)
  /-- Take the next value, if there is one. -/
  | take (index : Nat)
  deriving Repr, DecidableEq

/-- Somebody looks at a cell.  The answer is the value that is taken, with the
place of who took it. -/
def Cell.look
    {α : Type}
    (cell : Cell α) :
    Look → Option (Nat × α) × Cell α
  | .subscribe => (none, cell.subscribe)
  | .leave index => (none, cell.unsubscribe index)
  | .take index =>
      match cell.subscription? index with
      | none => (none, cell)
      | some subscription =>
          (subscription.receive.1.map (index, ·),
            cell.setSubscription index subscription.receive.2)

namespace Roster

/-! ## Requests taken apart -/

/-- One change of a roster, or one publication. -/
inductive Effect where
  /-- The listener is another one, or none, and no fault counts any more. -/
  | bind (address : Option SocketAddress)
  | blame (cause : Fault)
  | shut (closing : Bool)
  | enrol (member : Member)
  | strike (identity : Identity)
  /-- Nobody is there any more. -/
  | clear
  | showState
  | showIdentities
  deriving Repr, DecidableEq

/-- What an effect makes of a roster. -/
def apply (roster : Roster) : Effect → Roster
  | .bind address => { roster with bound := address, fault := none }
  | .blame cause => { roster with fault := some cause }
  | .shut closing => { roster with shuttingDown := closing }
  | .enrol member =>
      { roster with
        members := roster.members.insert member.identity member
        order := roster.order ++ [member.identity] }
  | .strike identity =>
      { roster with
        members := roster.members.erase identity
        order := roster.order.filter (· ≠ identity) }
  | .clear => { roster with members := {}, order := [] }
  | .showState => roster.publishState
  | .showIdentities => roster.publishIdentities

/-- What a request does, one thing after the other. -/
def effects (roster : Roster) : RosterSession.Request → List Effect
  | .bound address => [.bind (some address), .showState]
  | .unbound => [.bind none, .showState]
  | .recordFault cause => [.blame cause, .showState]
  | .beginShutdown => [.shut true, .showState]
  | .finishShutdown => [.shut false, .bind none, .showState]
  | .add identity channel =>
      let member : Member := { identity, channel := channel.id }
      match (roster.add member).1 with
      | .ok _ => [.enrol member, .showState, .showIdentities]
      | .error _ => []
  | .remove identity channel =>
      match (roster.remove identity channel).1 with
      | some _ => [.strike identity, .showState, .showIdentities]
      | none => []
  | .drain => [.clear, .showState, .showIdentities]
  | .get _ => []
  | .list => []
  | .send _ _ => []

end Roster

/-- A roster, what is left of the request that it is at, and what those who
watch its state have taken, each value with the place of who took it. -/
structure Observed where
  roster : Roster := {}
  left : List Roster.Effect := []
  taken : List (Nat × ListeningState) := []
  deriving Repr, DecidableEq

namespace Observed

/-- What can happen next. -/
inductive Event where
  /-- A request is made.  The one before is done. -/
  | ask (request : RosterSession.Request)
  /-- The request goes on by one effect. -/
  | work
  | lookAtState (look : Look)
  | lookAtIdentities (look : Look)
  deriving Repr, DecidableEq

/-- The request that an event makes. -/
def Event.request? : Event → Option RosterSession.Request
  | .ask request => some request
  | _ => none

/-- What an event makes of it all, if it can happen. -/
def step? (observed : Observed) : Event → Option Observed
  | .ask request =>
      if observed.left = [] then
        some { observed with left := observed.roster.effects request }
      else none
  | .work =>
      match observed.left with
      | [] => none
      | effect :: left => some { observed with roster := observed.roster.apply effect, left }
  | .lookAtState look =>
      let (taken, state) := observed.roster.state.look look
      some
        { observed with
          roster := { observed.roster with state }
          taken := observed.taken ++ taken.toList }
  | .lookAtIdentities look =>
      some
        { observed with
          roster :=
            { observed.roster with identities := (observed.roster.identities.look look).2 } }

/-- What a subscriber of the state has received. -/
def received
    (observed : Observed)
    (index : Nat) :
    List ListeningState :=
  observed.taken.filterMap fun entry => if entry.1 = index then some entry.2 else none

end Observed

end LineProtocol
