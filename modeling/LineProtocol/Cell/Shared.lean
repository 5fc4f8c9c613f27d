import LineProtocol.Cell.Basic

/-!
# A watched value with several owners

A cell can be held through any number of handles, all of which see the same
value and the same subscribers.  Handles and subscribers are named by the
order in which they came, and either can be dropped; whoever uses one that was
dropped, or never was, is told that it is gone.

When the last handle is dropped nothing can be published any more.  What the
subscribers have waiting stays theirs, and then their streams end.
-/

namespace LineProtocol

/-- A cell and the handles on it, each with whether it is still held. -/
structure SharedCell (α : Type) where
  cell : Cell α
  handles : List Bool := [true]
  deriving Repr, DecidableEq

namespace SharedCell

variable {α : Type}

/-- What the holder of a handle or of a subscription can ask for. -/
inductive Request (α : Type) where
  | get (handle : Nat)
  | publish (handle : Nat) (value : α)
  | count (handle : Nat)
  | subscribe (handle : Nat)
  | clone (handle : Nat)
  | release (handle : Nat)
  | unsubscribe (subscription : Nat)
  /-- Take the next value. -/
  | receive (subscription : Nat)
  /-- Take values up to the first wanted one. -/
  | receiveUntil (subscription : Nat) (wanted : α → Bool)
  /-- Take all values that wait. -/
  | drain (subscription : Nat)
  /-- Take all values that wait and give the subscription up. -/
  | collect (subscription : Nat)

/-- What is answered. -/
inductive Reply (α : Type) where
  | gone
  | done
  | value (value : α)
  | count (count : Nat)
  | subscription (index : Nat)
  | handle (index : Nat)
  | received (value : Option α)
  | drained (values : List α)
  deriving Repr, DecidableEq

/-- Whether a handle is held. -/
def holds
    (shared : SharedCell α)
    (handle : Nat) :
    Bool :=
  shared.handles[handle]?.getD false

/-- Does something that takes a handle. -/
def through
    (shared : SharedCell α)
    (handle : Nat)
    (action : Reply α × SharedCell α) :
    Reply α × SharedCell α :=
  if shared.holds handle then action else (.gone, shared)

/-- Does something that takes a subscription. -/
def reading
    (shared : SharedCell α)
    (index : Nat)
    (action : Subscription α → Reply α × Subscription α) :
    Reply α × SharedCell α :=
  match shared.cell.subscription? index with
  | none => (.gone, shared)
  | some subscription =>
      let (reply, subscription) := action subscription
      (reply, { shared with cell := shared.cell.setSubscription index subscription })

/-- Answers one request. -/
def perform (shared : SharedCell α) : Request α → Reply α × SharedCell α
  | .get handle => shared.through handle (.value shared.cell.value, shared)
  | .publish handle value =>
      shared.through handle (.done, { shared with cell := shared.cell.publish value })
  | .count handle =>
      shared.through handle (.count shared.cell.subscriberCount, shared)
  | .subscribe handle =>
      shared.through handle
        (.subscription shared.cell.subscriptions.length,
          { shared with cell := shared.cell.subscribe })
  | .clone handle =>
      shared.through handle
        (.handle shared.handles.length,
          { shared with handles := shared.handles ++ [true] })
  | .release handle =>
      shared.through handle
        (.done, { shared with handles := shared.handles.set handle false })
  | .unsubscribe index =>
      shared.reading index fun subscription => (.done, subscription.drop)
  | .receive index =>
      shared.reading index fun subscription =>
        (.received subscription.receive.1, subscription.receive.2)
  | .receiveUntil index wanted =>
      shared.reading index fun subscription =>
        (.received (subscription.receiveUntil wanted).1,
          (subscription.receiveUntil wanted).2)
  | .drain index =>
      shared.reading index fun subscription =>
        (.drained subscription.drain.1, subscription.drain.2)
  | .collect index =>
      shared.reading index fun subscription =>
        (.drained subscription.pending, subscription.drop)

/-- Waits for the next value.  There is no answer yet as long as nothing waits and a handle
is held through which a value can come. -/
def await?
    (shared : SharedCell α)
    (index : Nat) :
    Option (Reply α × SharedCell α) :=
  match shared.cell.subscription? index with
  | none => some (.gone, shared)
  | some subscription =>
      if subscription.pending.isEmpty && shared.handles.any id then none
      else some (shared.perform (.receive index))

/-- What can happen to a cell. -/
inductive Step (α : Type) where
  | ask (request : Request α)
  /-- Somebody has waited for the next value. -/
  | await (subscription : Nat)

/-- Lets something happen, if it can. -/
def step? (shared : SharedCell α) : Step α → Option (SharedCell α)
  | .ask request => some (shared.perform request).2
  | .await index => (shared.await? index).map (·.2)

/-- A cell held through its first handle. -/
def ofValue (value : α) : SharedCell α :=
  { cell := { value } }

end SharedCell

end LineProtocol
