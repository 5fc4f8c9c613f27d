import Mathlib.Logic.Relation
import LineProtocol.Engine.History
import LineProtocol.Proofs.Transport.Later

/-!
# What befalls a connection

A worker tears a connection down from many places: from attempts to connect,
from reads, writes and flushes, from commands and when it stops.  All of them come
to few `Turn`s of the connection's `View`, which is how far it is and what its
handler was told.

A part of a step that makes turns and else leaves the worker as it is `Continues`
it.  There is one such lemma for each part.
-/

namespace LineProtocol

/-- What a worker knows of a connection: how far it is, if it is looked after, and what
its handler was told. -/
structure View where
  phase? : Option Phase
  told : List Callback

namespace View

/-- The handler was told the last that it is told. -/
def Ended (view : View) : Prop :=
  ∃ callback ∈ view.told, callback.isLast = true

/-- One thing that befalls a connection that is looked after. -/
inductive Turn : View → View → Prop where
  | opens {told} :
      Turn ⟨some .connecting, told⟩ ⟨some .active, told ++ [.established]⟩
  | fails {told} (reason : String) :
      Turn ⟨some .connecting, told⟩ ⟨none, told ++ [.connectFailed reason]⟩
  | reads {told} (chunk : Bytes) :
      Turn ⟨some .active, told⟩ ⟨some .active, told ++ [.read chunk]⟩
  | breaks {phase told} (reason : String) :
      phase ≠ .connecting →
        Turn ⟨some phase, told⟩ ⟨none, told ++ [.errored reason, .closed]⟩
  | closes {phase told} :
      Turn ⟨some phase, told⟩ ⟨none, told ++ [.closed]⟩

/-- Any number of turns. -/
def Goes : View → View → Prop :=
  Relation.ReflTransGen Turn

theorem Goes.refl (view : View) : Goes view view :=
  Relation.ReflTransGen.refl

theorem Turn.goes
    {before after : View}
    (turn : Turn before after) :
    Goes before after :=
  Relation.ReflTransGen.single turn

theorem Goes.trans
    {first second third : View}
    (goes : Goes first second)
    (further : Goes second third) :
    Goes first third :=
  Relation.ReflTransGen.trans goes further

/-- What was told stays told. -/
theorem Goes.prefix_told
    {before after : View}
    (goes : Goes before after) :
    before.told <+: after.told := by
  induction goes with
  | refl => exact List.prefix_rfl
  | tail _ turn ih =>
      refine ih.trans ?_
      cases turn with
      | opens => exact List.prefix_append _ _
      | fails => exact List.prefix_append _ _
      | reads => exact List.prefix_append _ _
      | breaks => exact List.prefix_append _ _
      | closes => exact List.prefix_append _ _

/-- Nothing befalls a connection that is not looked after. -/
theorem Goes.eq_of_gone
    {before after : View}
    (goes : Goes before after)
    (gone : before.phase? = none) :
    after = before := by
  induction goes with
  | refl => rfl
  | tail _ turn ih =>
      subst ih
      cases turn with
      | opens => cases gone
      | fails => cases gone
      | reads => cases gone
      | breaks => cases gone
      | closes => cases gone

end View

namespace Worker

open View (Goes Turn)

/-- What the worker knows of a connection. -/
def view
    (worker : Worker)
    (id : ChannelId) :
    View :=
  { phase? := (worker.slots.find? id).map (·.phase), told := worker.told id }

/-- The handle says that the connection is closed. -/
def HandleClosed
    (worker : Worker)
    (id : ChannelId) :
    Prop :=
  ∃ channel, worker.channels.find? id = some channel ∧ channel.isClosed = true

variable
  {worker : Worker}
  {farewell : ChannelId → List SocketAnswer}
  {id : ChannelId}
  {slot : Slot}

/-! ## Parts of a step -/

theorem told_tell
    (worker : Worker)
    (id other : ChannelId)
    (callback : Callback) :
    (worker.tell id callback).told other =
      worker.told other ++ if other = id then [callback] else [] := by
  rw [told, tell, List.filter_append, List.map_append]
  by_cases mine : other = id
  · simp [told, mine]
  · have elsewhere : id ≠ other := fun same => mine same.symm
    simp [told, mine, elsewhere]

theorem view_tell
    (worker : Worker)
    (id other : ChannelId)
    (callback : Callback) :
    (worker.tell id callback).view other =
      ⟨(worker.view other).phase?,
        worker.told other ++ if other = id then [callback] else []⟩ := by
  rw [view, told_tell]
  rfl

theorem view_of_slot
    (there : worker.slots.find? id = some slot) :
    worker.view id = ⟨some slot.phase, worker.told id⟩ := by
  rw [view, there]
  rfl

/-- Only the handle that is changed can come to say that it is closed. -/
theorem handleClosed_of_alter
    {other : ChannelId}
    {change : Channel → Channel}
    (closed : (worker.alter id change).HandleClosed other) :
    worker.HandleClosed other ∨ other = id := by
  obtain ⟨channel, found, shut⟩ := closed
  rw [alter, Table.find?_modify] at found
  by_cases mine : other = id
  · exact .inr mine
  · simp only [if_neg mine] at found
    exact .inl ⟨channel, by simpa using found, shut⟩

/-- A change that closes no handle. -/
theorem handleClosed_of_alter_open
    {other : ChannelId}
    {change : Channel → Channel}
    (opens : ∀ channel, (change channel).isClosed = true → channel.isClosed = true)
    (closed : (worker.alter id change).HandleClosed other) :
    worker.HandleClosed other := by
  obtain ⟨channel, found, shut⟩ := closed
  rw [alter, Table.find?_modify, Option.map_eq_some_iff] at found
  obtain ⟨before, there, rfl⟩ := found
  refine ⟨before, there, ?_⟩
  split at shut
  · exact opens before shut
  · exact shut

theorem isClosed_of_markOpen
    (channel : Channel)
    (closed : channel.markOpen.isClosed = true) :
    channel.isClosed = true := by
  obtain ⟨number, peer, status⟩ := channel
  cases status with
  | closed => rfl
  | pending => cases closed
  | opened => cases closed
  | closing => cases closed

theorem isClosed_of_beginClose
    (channel : Channel)
    (closed : channel.beginClose.isClosed = true) :
    channel.isClosed = true := by
  obtain ⟨number, peer, status⟩ := channel
  cases status with
  | closed => rfl
  | pending => cases closed
  | opened => cases closed
  | closing => cases closed

/-! ## Turns and nothing else -/

/-- The worker goes on with its connections, and nothing else of it changes but that
listeners may go. -/
structure Continues (before after : Worker) : Prop where
  goes : ∀ id, Goes (before.view id) (after.view id)
  handles : ∀ id, after.HandleClosed id → before.HandleClosed id ∨ (after.view id).Ended
  listeners : ∀ id ∈ after.listeners, id ∈ before.listeners
  queue : after.queue = before.queue
  stage : after.stage = before.stage
  settled : after.settled = before.settled

namespace Continues

theorem refl (worker : Worker) : Continues worker worker where
  goes _ := .refl _
  handles _ := .inl
  listeners _ := id
  queue := rfl
  stage := rfl
  settled := rfl

theorem trans
    {first second third : Worker}
    (continues : Continues first second)
    (further : Continues second third) :
    Continues first third where
  goes id := (continues.goes id).trans (further.goes id)
  handles id closed := by
    rcases further.handles id closed with earlier | ended
    · rcases continues.handles id earlier with first | ⟨callback, there, last⟩
      · exact .inl first
      · exact .inr ⟨callback, (further.goes id).prefix_told.subset there, last⟩
    · exact .inr ended
  listeners id there := continues.listeners id (further.listeners id there)
  queue := further.queue.trans continues.queue
  stage := further.stage.trans continues.stage
  settled := further.settled.trans continues.settled

end Continues

theorem closeSlot_of_slot
    (there : worker.slots.find? id = some slot) :
    worker.closeSlot farewell id =
      ((worker.forget id slot (farewell id)).alter id (·.markClosed)).tell id .closed := by
  rw [closeSlot, there]

theorem view_closeSlot
    (there : worker.slots.find? id = some slot)
    (other : ChannelId) :
    (worker.closeSlot farewell id).view other =
      if other = id then ⟨none, worker.told id ++ [.closed]⟩ else worker.view other := by
  have gone : (worker.closeSlot farewell id).slots.find? other =
      if other = id then none else worker.slots.find? other := by
    rw [closeSlot_of_slot there]
    exact Table.find?_erase worker.slots id other
  have said : (worker.closeSlot farewell id).told other =
      worker.told other ++ if other = id then [.closed] else [] := by
    rw [closeSlot_of_slot there, told_tell]
    rfl
  rw [view, gone, said]
  by_cases mine : other = id
  · simp [mine]
  · simp [mine, view]

theorem continues_closeSlot
    (worker : Worker)
    (farewell : ChannelId → List SocketAnswer)
    (id : ChannelId) :
    Continues worker (worker.closeSlot farewell id) := by
  cases there : worker.slots.find? id with
  | none =>
      rw [closeSlot, there]
      exact .refl worker
  | some slot =>
      refine ⟨fun other => ?_, fun other closed => ?_, ?_, ?_, ?_, ?_⟩
      · rw [view_closeSlot there]
        split
        · rename_i mine
          subst mine
          rw [view_of_slot there]
          exact Turn.closes.goes
        · exact .refl _
      · rw [view_closeSlot there]
        rw [closeSlot_of_slot there] at closed
        rcases handleClosed_of_alter closed with before | mine
        · exact .inl before
        · rw [if_pos mine]
          exact .inr ⟨.closed, by simp, rfl⟩
      all_goals rw [closeSlot_of_slot there]
      · exact fun _ there => there
      · rfl
      · rfl
      · rfl

/-- Something is told and nothing else. -/
theorem continues_tell
    {callback : Callback}
    (turn : Goes (worker.view id) ⟨(worker.view id).phase?, worker.told id ++ [callback]⟩) :
    Continues worker (worker.tell id callback) where
  goes other := by
    rw [view_tell]
    by_cases mine : other = id
    · subst mine
      simpa using turn
    · simpa [mine, view] using Goes.refl (worker.view other)
  handles _ := .inl
  listeners _ there := there
  queue := rfl
  stage := rfl
  settled := rfl

theorem continues_fail
    (ready : (worker.view id).phase? ≠ some .connecting)
    (reason : String) :
    Continues worker (worker.fail farewell id reason) := by
  cases there : worker.slots.find? id with
  | none =>
      rw [fail, there]
      exact .refl worker
  | some slot =>
      have failed : worker.fail farewell id reason =
        (worker.tell id (.errored reason)).closeSlot farewell id := by
        rw [fail, there]
      have closing := continues_closeSlot (worker.tell id (.errored reason)) farewell id
      rw [failed]
      refine ⟨fun other => ?_, closing.handles, closing.listeners, closing.queue,
        closing.stage, closing.settled⟩
      have found : (worker.tell id (.errored reason)).slots.find? id = some slot := there
      rw [view_closeSlot found]
      split
      · rename_i mine
        subst mine
        rw [view_of_slot there] at ready ⊢
        rw [told_tell, if_pos rfl, List.append_assoc]
        exact (Turn.breaks reason fun same => ready (congrArg some same)).goes
      · rename_i elsewhere
        rw [view_tell, if_neg elsewhere, List.append_nil]
        exact .refl _

theorem continues_readAll
    (active : (worker.view id).phase? = some .active)
    (arrivals : List Arrival) :
    Continues worker (worker.readAll farewell id arrivals) := by
  induction arrivals generalizing worker with
  | nil => exact .refl worker
  | cons arrival arrivals ih =>
      cases arrival with
      | chunk bytes =>
          have reads : Goes (worker.view id)
              ⟨(worker.view id).phase?, worker.told id ++ [.read bytes]⟩ := by
            rw [active, show worker.view id = ⟨some .active, worker.told id⟩ from
              congrArg (View.mk · _) active]
            exact (Turn.reads bytes).goes
          exact (continues_tell reads).trans (ih active)
      | nothing => exact .refl worker
      | ended => exact continues_closeSlot worker farewell id
      | failed reason => exact continues_fail (by simp [active]) reason

theorem continues_readAvailable
    (worker : Worker)
    (id : ChannelId)
    (arrivals : List Arrival) :
    Continues worker (worker.readAvailable farewell id arrivals) := by
  rw [readAvailable]
  split
  · rename_i slot there
    split
    · rename_i active
      exact continues_readAll (by rw [view_of_slot there, active]) arrivals
    · exact .refl worker
  · exact .refl worker

/-- Views after a connection is put down again. -/
theorem view_alterSlot
    (worker : Worker)
    (id other : ChannelId)
    (slot : Slot) :
    (worker.alterSlot id slot).view other =
      if other = id then ⟨some slot.phase, worker.told id⟩ else worker.view other := by
  have there : (worker.alterSlot id slot).slots.find? other =
      if other = id then some slot else worker.slots.find? other :=
    Table.find?_insert worker.slots id other slot
  rw [view, there]
  by_cases mine : other = id
  · simp only [mine]
    rfl
  · simp only [if_neg mine]
    rfl

theorem view_install
    (worker : Worker)
    (id other : ChannelId)
    (phase : Phase) :
    (worker.install id phase).view other =
      if other = id then ⟨some phase, worker.told id⟩ else worker.view other :=
  view_alterSlot worker id other _

theorem view_refuse
    (worker : Worker)
    (id other : ChannelId)
    (reason : String) :
    (worker.refuse id reason).view other =
      if other = id then
        ⟨(worker.view id).phase?, worker.told id ++ [.connectFailed reason]⟩
      else worker.view other := by
  rw [refuse, view_tell]
  split
  · rename_i mine
    rw [mine]
    rfl
  · rw [List.append_nil]
    rfl

/-- What waits for a socket does not matter. -/
theorem view_alterSlot_of_phase
    {altered : Slot}
    (there : worker.slots.find? id = some slot)
    (same : altered.phase = slot.phase)
    (other : ChannelId) :
    (worker.alterSlot id altered).view other = worker.view other := by
  rw [view_alterSlot]
  split
  · rename_i mine
    rw [mine, view_of_slot there, same]
  · rfl

theorem continues_alterSlot
    {altered : Slot}
    (there : worker.slots.find? id = some slot)
    (same : altered.phase = slot.phase) :
    Continues worker (worker.alterSlot id altered) where
  goes other := by
    rw [view_alterSlot_of_phase there same]
    exact .refl _
  handles _ := .inl
  listeners _ there := there
  queue := rfl
  stage := rfl
  settled := rfl

/-- A connection is put down again, and may then have broken. -/
theorem continues_alterSlot_fail
    (altered : Slot)
    (there : worker.slots.find? id = some slot)
    (same : altered.phase = slot.phase)
    (ready : slot.phase ≠ .connecting)
    (reason : String) :
    Continues worker ((worker.alterSlot id altered).fail farewell id reason) := by
  refine (continues_alterSlot there same).trans (continues_fail ?_ reason)
  rw [view_alterSlot_of_phase there same, view_of_slot there]
  exact fun connecting => ready (Option.some.inj connecting)

theorem continues_flush
    (ready : (worker.view id).phase? ≠ some .connecting)
    (answers : List SocketAnswer) :
    Continues worker (worker.flush farewell id answers) := by
  rw [flush]
  split
  · exact .refl worker
  · rename_i slot there
    rw [view_of_slot there] at ready
    have open_ : slot.phase ≠ .connecting := fun same => ready (congrArg some same)
    generalize slot.buffer.flush answers = flushed
    obtain ⟨outcome, buffer⟩ := flushed
    cases outcome with
    | ok rest => exact continues_alterSlot there rfl
    | error reason => exact continues_alterSlot_fail { slot with buffer } there rfl open_ reason

theorem continues_write
    (worker : Worker)
    (id : ChannelId)
    (bytes : Bytes)
    (answers : List SocketAnswer) :
    Continues worker (worker.write farewell id bytes answers) := by
  rw [write]
  split
  · exact .refl worker
  · rename_i slot there
    split
    · exact .refl worker
    · rename_i open_
      generalize slot.buffer.queue bytes answers = queued
      obtain ⟨outcome, buffer⟩ := queued
      cases outcome with
      | ok taken => exact continues_alterSlot there rfl
      | error reason => exact continues_alterSlot_fail { slot with buffer } there rfl open_ reason

theorem continues_attend
    (ready : (worker.view id).phase? ≠ some .connecting)
    (readiness : Readiness) :
    Continues worker (worker.attend id readiness) := by
  rw [attend]
  split
  · exact continues_fail ready _
  · have flushed :
        Continues worker
          (if readiness.writable then
            worker.flush readiness.farewell id readiness.answers
          else worker) := by
      split
      · exact continues_flush ready _
      · exact .refl worker
    dsimp only
    split
    · exact flushed.trans (continues_readAvailable _ id _)
    · exact flushed

/-- An attempt to connect that fails. -/
theorem continues_finishConnect_error
    (there : worker.slots.find? id = some slot)
    (connecting : slot.phase = .connecting)
    (reason : String) :
    Continues worker
      ({ worker with slots := worker.slots.erase id }.refuse id reason) := by
  have seen : ∀ other,
      ({ worker with slots := worker.slots.erase id }.refuse id reason).view other =
        if other = id then ⟨none, worker.told id ++ [.connectFailed reason]⟩
        else worker.view other := by
    intro other
    have gone : (worker.slots.erase id).find? other =
        if other = id then none else worker.slots.find? other :=
      Table.find?_erase worker.slots id other
    rw [refuse, view, told_tell]
    show View.mk (((worker.slots.erase id).find? other).map _) (worker.told other ++ _) = _
    rw [gone]
    by_cases mine : other = id
    · simp [mine]
    · simp [mine, view]
  refine ⟨fun other => ?_, fun other closed => ?_, fun _ there => there, rfl, rfl, rfl⟩
  · rw [seen]
    split
    · rename_i mine
      rw [mine, view_of_slot there, connecting]
      exact (Turn.fails reason).goes
    · exact .refl _
  · rw [seen]
    rcases handleClosed_of_alter closed with before | mine
    · exact .inl before
    · rw [if_pos mine]
      exact .inr ⟨.connectFailed reason, by simp, rfl⟩

/-- An attempt to connect that succeeds. -/
theorem continues_finishConnect_ok
    (there : worker.slots.find? id = some slot)
    (connecting : slot.phase = .connecting) :
    Continues worker
        (((worker.alterSlot id { slot with phase := .active }).alter id (·.markOpen)).tell id
          .established) ∧
      ((((worker.alterSlot id { slot with phase := .active }).alter id (·.markOpen)).tell id
          .established).view id).phase? = some .active := by
  have seen : ∀ other,
      (((worker.alterSlot id { slot with phase := .active }).alter id (·.markOpen)).tell id
          .established).view other =
        if other = id then ⟨some .active, worker.told id ++ [.established]⟩
        else worker.view other := by
    intro other
    rw [view, told_tell]
    show View.mk ((worker.alterSlot id { slot with phase := .active }).view other).phase?
      (worker.told other ++ _) = _
    rw [view_alterSlot]
    by_cases mine : other = id
    · simp [mine]
    · simp [mine, view]
  refine
    ⟨⟨fun other => ?_, fun other closed => ?_, fun _ there => there, rfl, rfl, rfl⟩, ?_⟩
  · rw [seen]
    split
    · rename_i mine
      rw [mine, view_of_slot there, connecting]
      exact Turn.opens.goes
    · exact .refl _
  · exact .inl (handleClosed_of_alter_open isClosed_of_markOpen closed)
  · rw [seen, if_pos rfl]

theorem continues_event
    (worker : Worker)
    (id : ChannelId)
    (readiness : Readiness) :
    Continues worker (worker.event id readiness) := by
  rw [event]
  split
  · exact .refl worker
  · rename_i slot there
    split
    · rename_i connecting
      rcases attempt : readiness.attempt with _ | (reason | _)
      · exact .refl worker
      · exact continues_finishConnect_error there connecting reason
      · obtain ⟨opened, active⟩ := continues_finishConnect_ok there connecting
        exact opened.trans (continues_attend (by rw [active]; decide) readiness)
    · rename_i open_
      refine continues_attend ?_ readiness
      rw [view_of_slot there]
      exact fun same => open_ (Option.some.inj same)

end Worker

end LineProtocol
