/-!
# A value that can be watched

A `Cell` holds the latest value of something and tells its subscribers about
every value that it is given.  A new subscriber starts with the value that the
cell holds at that moment; after that it gets each published value once, in
order.

A subscriber that is dropped is forgotten at the next publication, so until
then it is still counted.
-/

namespace LineProtocol

/-- One subscriber's stream of values. -/
structure Subscription (α : Type) where
  /-- Values that came and were not taken yet. -/
  pending : List α
  /-- The subscriber still wants values. -/
  live : Bool := true
  /-- The cell still counts the subscriber. -/
  listed : Bool := true
  deriving Repr, DecidableEq

namespace Subscription

variable {α : Type}

/-- A value is published: the subscriber gets it, or is forgotten. -/
def offer
    (value : α)
    (subscription : Subscription α) :
    Subscription α :=
  if subscription.live then
    { subscription with pending := subscription.pending ++ [value] }
  else { subscription with listed := false }

/-- The subscriber goes away, and with it what it did not take. -/
def drop (subscription : Subscription α) : Subscription α :=
  { subscription with pending := [], live := false }

/-- Takes the first value. -/
def receive (subscription : Subscription α) : Option α × Subscription α :=
  match subscription.pending with
  | [] => (none, subscription)
  | value :: rest => (some value, { subscription with pending := rest })

/-- Takes values up to the first that is wanted, or all if none is. -/
def receiveUntil
    (wanted : α → Bool)
    (subscription : Subscription α) :
    Option α × Subscription α :=
  match subscription.pending.dropWhile (!wanted ·) with
  | [] => (none, { subscription with pending := [] })
  | value :: rest => (some value, { subscription with pending := rest })

/-- Takes every value that is there. -/
def drain (subscription : Subscription α) : List α × Subscription α :=
  (subscription.pending, { subscription with pending := [] })

end Subscription

/-- The latest value and those who watch it, in the order in which they came. -/
structure Cell (α : Type) where
  value : α
  subscriptions : List (Subscription α) := []
  deriving Repr, DecidableEq

namespace Cell

variable {α : Type}

/-- Holds a new value and passes it on. -/
def publish
    (value : α)
    (cell : Cell α) :
    Cell α :=
  { value, subscriptions := cell.subscriptions.map (·.offer value) }

/-- Adds a subscriber, who starts with the value held now. -/
def subscribe (cell : Cell α) : Cell α :=
  { cell with subscriptions := cell.subscriptions ++ [{ pending := [cell.value] }] }

/-- How many subscribers the cell counts. -/
def subscriberCount (cell : Cell α) : Nat :=
  cell.subscriptions.countP (·.listed)

/-- The subscriber at an index, if there is one and it was not dropped. -/
def subscription?
    (cell : Cell α)
    (index : Nat) :
    Option (Subscription α) :=
  cell.subscriptions[index]?.filter (·.live)

/-- Replaces the subscriber at an index. -/
def setSubscription
    (cell : Cell α)
    (index : Nat)
    (subscription : Subscription α) :
    Cell α :=
  { cell with subscriptions := cell.subscriptions.set index subscription }

/-- Drops the subscriber at an index. -/
def unsubscribe
    (cell : Cell α)
    (index : Nat) :
    Cell α :=
  { cell with subscriptions := cell.subscriptions.modify index (·.drop) }

/-- Takes everything that a subscriber has waiting.  A dropped one has
nothing. -/
def drain
    (cell : Cell α)
    (index : Nat) :
    List α × Cell α :=
  match cell.subscription? index with
  | none => ([], cell)
  | some subscription =>
      (subscription.pending, cell.setSubscription index subscription.drain.2)

/-- Takes everything that waits, for each subscriber that was not dropped. -/
def drainAll (cell : Cell α) : List (Option (List α)) × Cell α :=
  let indices := List.range cell.subscriptions.length
  (indices.map fun index => (cell.subscription? index).map (·.pending),
    indices.foldl (fun cell index => (cell.drain index).2) cell)

@[simp]
theorem value_publish
    (value : α)
    (cell : Cell α) :
    (cell.publish value).value = value :=
  rfl

@[simp]
theorem value_subscribe (cell : Cell α) : cell.subscribe.value = cell.value :=
  rfl

@[simp]
theorem length_publish
    (value : α)
    (cell : Cell α) :
    (cell.publish value).subscriptions.length = cell.subscriptions.length := by
  simp [publish]

end Cell

end LineProtocol
