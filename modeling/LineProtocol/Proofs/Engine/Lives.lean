import Mathlib.Data.List.Induction
import Mathlib.Data.List.Nodup
import LineProtocol.Proofs.Engine.Acts

/-!
# The lives of connections

What the handler of a connection is told in the end is a `Life`, and there are
five kinds of lives.  A view is `Lively` if it can be met on the way through one.
Turns lead from lively views to lively views.

A connection that is brought begins a life, so it must not have one behind it.
`Standing` says of a worker that this is so, as long as every connection is
brought once: whoever is still to be brought was told nothing.
-/

namespace LineProtocol

namespace Callback

/-- All that the handler of one connection is told. -/
inductive Life : List Callback → Prop where
  | refused (reason : String) : Life [.connectFailed reason]
  | unopened : Life [.closed]
  | lost (reason : String) : Life [.errored reason, .closed]
  | closed (chunks : List Bytes) : Life (.established :: chunks.map .read ++ [.closed])
  | broken (chunks : List Bytes) (reason : String) :
      Life (.established :: chunks.map .read ++ [.errored reason, .closed])

namespace Life

/-- Only the last of a life is a last callback. -/
theorem dropLast_going
    {life : List Callback}
    (whole : Life life) :
    ∀ callback ∈ life.dropLast, callback.isLast = false := by
  have reads : ∀ chunks : List Bytes,
      ∀ callback ∈ chunks.map Callback.read, callback.isLast = false := by
    intro chunks callback there
    obtain ⟨chunk, -, rfl⟩ := List.mem_map.mp there
    rfl
  intro callback there
  cases whole with
  | refused reason => cases there
  | unopened => cases there
  | lost reason =>
      rw [List.mem_singleton.mp there]
      rfl
  | closed chunks =>
      rw [List.dropLast_concat] at there
      rcases List.mem_cons.mp there with rfl | read
      · rfl
      · exact reads chunks callback read
  | broken chunks reason =>
      rw [List.dropLast_append_of_ne_nil (List.cons_ne_nil _ _)] at there
      rcases List.mem_append.mp there with begun | failing
      · rcases List.mem_cons.mp begun with rfl | read
        · rfl
        · exact reads chunks callback read
      · rw [List.mem_singleton.mp failing]
        rfl

/-- Nothing is told behind a last callback. -/
theorem eq_nil_of_last
    {life before after : List Callback}
    {callback : Callback}
    (whole : Life life)
    (split : life = before ++ callback :: after)
    (last : callback.isLast = true) :
    after = [] := by
  by_contra more
  have there : callback ∈ life.dropLast := by
    rw [split, List.dropLast_append_of_ne_nil (List.cons_ne_nil _ _),
      List.dropLast_cons_of_ne_nil more]
    exact List.mem_append_right _ List.mem_cons_self
  rw [whole.dropLast_going callback there] at last
  cases last

/-- Reads apart, nothing is told twice. -/
theorem nodup_names
    {life : List Callback}
    (whole : Life life) :
    ((life.filter (·.chunk?.isNone)).map Callback.name).Nodup := by
  have reads : ∀ chunks : List Bytes,
      (chunks.map Callback.read).filter (·.chunk?.isNone) = [] := by
    intro chunks
    rw [List.filter_eq_nil_iff]
    intro callback there
    obtain ⟨chunk, -, rfl⟩ := List.mem_map.mp there
    simp [Callback.chunk?]
  cases whole with
  | refused reason => exact List.nodup_singleton _
  | unopened => exact List.nodup_singleton _
  | lost reason => simp [Callback.chunk?, Callback.name]
  | closed chunks =>
      rw [List.filter_append, List.filter_cons_of_pos rfl, reads]
      decide
  | broken chunks reason =>
      rw [List.filter_append, List.filter_cons_of_pos rfl, reads]
      simp [Callback.chunk?, Callback.name]

end Life

end Callback

namespace View

/-- A connection that the worker was not brought. -/
def unborn : View :=
  ⟨none, []⟩

/-- What is met on the way through a life. -/
inductive Lively : View → Prop where
  | unborn : Lively unborn
  | connecting : Lively ⟨some .connecting, []⟩
  | paused : Lively ⟨some .paused, [.established]⟩
  | active (chunks : List Bytes) : Lively ⟨some .active, .established :: chunks.map .read⟩
  | past {life : List Callback} : Callback.Life life → Lively ⟨none, life⟩

namespace Lively

variable
  {before after view : View}

theorem turn
    (lively : Lively before)
    (turn : Turn before after) :
    Lively after := by
  cases turn with
  | opens =>
      cases lively with
      | connecting => exact .active []
  | fails reason =>
      cases lively with
      | connecting => exact .past (.refused reason)
  | reads chunk =>
      cases lively with
      | active chunks =>
          have longer := Lively.active (chunks ++ [chunk])
          rwa [List.map_append] at longer
  | breaks reason ready =>
      cases lively with
      | connecting => exact absurd rfl ready
      | paused => exact .past (.broken [] reason)
      | active chunks => exact .past (.broken chunks reason)
  | closes =>
      cases lively with
      | connecting => exact .past .unopened
      | paused => exact .past (.closed [])
      | active chunks => exact .past (.closed chunks)

theorem goes
    (lively : Lively before)
    (goes : Goes before after) :
    Lively after := by
  induction goes with
  | refl => exact lively
  | tail _ next ih => exact ih.turn next

/-- Whatever was told so far is the beginning of a life. -/
theorem exists_life (lively : Lively view) :
    ∃ life, Callback.Life life ∧ view.told <+: life := by
  cases lively with
  | unborn => exact ⟨_, .unopened, List.nil_prefix⟩
  | connecting => exact ⟨_, .unopened, List.nil_prefix⟩
  | paused => exact ⟨_, .closed [], List.prefix_append _ _⟩
  | active chunks => exact ⟨_, .closed chunks, List.prefix_append _ _⟩
  | past whole => exact ⟨_, whole, List.prefix_rfl⟩

/-- A paused connection was told that it is open and nothing else. -/
theorem told_of_paused
    (lively : Lively view)
    (paused : view.phase? = some .paused) :
    view.told = [.established] := by
  cases lively with
  | paused => rfl
  | unborn => cases paused
  | connecting => cases paused
  | active chunks => cases paused
  | past whole => cases paused

/-- Whoever is not looked after was not brought or was told the last. -/
theorem unborn_or_ended
    (lively : Lively view)
    (gone : view.phase? = none) :
    view = View.unborn ∨ view.Ended := by
  cases lively with
  | unborn => exact .inl rfl
  | connecting => cases gone
  | paused => cases gone
  | active chunks => cases gone
  | past whole =>
      refine .inr ?_
      cases whole with
      | refused reason => exact ⟨.connectFailed reason, by simp, rfl⟩
      | unopened => exact ⟨.closed, by simp, rfl⟩
      | lost reason => exact ⟨.closed, by simp, rfl⟩
      | closed chunks => exact ⟨.closed, by simp, rfl⟩
      | broken chunks reason => exact ⟨.closed, by simp, rfl⟩

/-- Whoever was told the last is not looked after. -/
theorem gone_of_ended
    (lively : Lively view)
    (ended : view.Ended) :
    view.phase? = none := by
  obtain ⟨callback, there, last⟩ := ended
  cases lively with
  | unborn => rfl
  | past whole => rfl
  | connecting => cases there
  | paused =>
      rw [List.mem_singleton.mp there] at last
      cases last
  | active chunks =>
      rcases List.mem_cons.mp there with rfl | read
      · cases last
      · obtain ⟨chunk, -, rfl⟩ := List.mem_map.mp read
        cases last

end Lively

end View

namespace Worker

open View (Lively unborn)

variable
  {worker : Worker}
  {acts : List Act}
  {act : Act}
  {id : ChannelId}

/-- The connections that commands bring. -/
def brought (commands : List Command) : List ChannelId :=
  commands.filterMap (·.opens?)

/-- The connections that were brought by a history. -/
def bringing (acts : List Act) : List ChannelId :=
  acts.filterMap (·.opens?)

theorem mem_brought
    {command : Command}
    {commands : List Command}
    (there : command ∈ commands)
    (opens : command.opens? = some id) :
    id ∈ brought commands :=
  List.mem_filterMap.mpr ⟨command, there, opens⟩

theorem brought_append (first second : List Command) :
    brought (first ++ second) = brought first ++ brought second :=
  List.filterMap_append

theorem bringing_snoc
    (acts : List Act)
    (act : Act) :
    bringing (acts ++ [act]) = bringing acts ++ act.opens?.toList := by
  rw [bringing, List.filterMap_append]
  cases opens : act.opens? with
  | none => simp [bringing, opens]
  | some id => simp [bringing, opens]

/-- What joins the queue is brought by the act. -/
theorem opens?_of_mem_received
    (there : id ∈ brought (worker.received act)) :
    act.opens? = some id := by
  rw [received] at there
  split at there
  · cases there
  · obtain ⟨command, sent, opens⟩ := List.mem_filterMap.mp there
    rw [Act.opens?, Option.mem_toList.mp sent]
    exact opens

theorem opens?_of_mem_turnedAway
    {command : Command}
    (there : command ∈ worker.turnedAway act)
    (opens : command.opens? = some id) :
    act.opens? = some id := by
  rw [turnedAway] at there
  split at there
  · rw [Act.opens?, Option.mem_toList.mp there]
    exact opens
  · cases there

/-- Whoever is still to be brought was told nothing, whoever was brought goes through a
life, and a handle says that its connection is closed when the handler was told the last. -/
structure Standing
    (acts : List Act)
    (worker : Worker) : Prop where
  lively : ∀ id, (worker.view id).Lively
  distinct : (brought worker.queue).Nodup
  waiting : ∀ id ∈ brought worker.queue, worker.view id = unborn
  known : ∀ id ∈ brought worker.queue, id ∈ bringing acts
  absent : ∀ id, id ∉ bringing acts → worker.view id = unborn
  handles : ∀ id, worker.HandleClosed id → (worker.view id).Ended
  stopped : worker.Stopped → ∀ id, (worker.view id).phase? = none

theorem standing_start (limit : Nat) : Standing [] { limit } where
  lively _ := .unborn
  distinct := List.nodup_nil
  waiting _ := nofun
  known _ := nofun
  absent _ _ := rfl
  handles id closed := by
    obtain ⟨channel, found, -⟩ := closed
    cases found
  stopped _ _ := rfl

namespace Standing

/-- Whatever waits or is sent brings no connection twice. -/
theorem nodup_due
    (standing : Standing acts worker)
    (new : ∀ id, act.opens? = some id → id ∉ bringing acts) :
    (brought (worker.queue ++ worker.received act)).Nodup := by
  rw [brought_append, List.nodup_append]
  refine ⟨standing.distinct, ?_, ?_⟩
  · rw [received]
    split
    · exact List.nodup_nil
    · cases act.command? with
      | none => exact List.nodup_nil
      | some command =>
          cases opens : command.opens? with
          | none => simp [brought, opens]
          | some id => simp [brought, opens]
  · rintro id waits other joins rfl
    exact new id (opens?_of_mem_received joins) (standing.known id waits)

/-- Whoever waits or is sent was told nothing. -/
theorem unborn_of_due
    (standing : Standing acts worker)
    (new : ∀ id, act.opens? = some id → id ∉ bringing acts)
    (due : id ∈ brought (worker.queue ++ worker.received act)) :
    worker.view id = unborn := by
  rw [brought_append] at due
  rcases List.mem_append.mp due with waits | joins
  · exact standing.waiting id waits
  · exact standing.absent id (new id (opens?_of_mem_received joins))

theorem due_of_dealt
    {command : Command}
    (dealt : command ∈ worker.dealt act)
    (opens : command.opens? = some id) :
    id ∈ brought (worker.queue ++ worker.received act) := by
  rw [queue_step]
  exact mem_brought (List.mem_append_left _ dealt) opens

theorem due_of_takes?
    {command : Command}
    {surroundings : Surroundings}
    (takes : worker.takes? = some command)
    (opens : command.opens? = some id) :
    id ∈ brought (worker.queue ++ worker.received (.advance surroundings)) :=
  due_of_dealt (mem_deals_of_takes? takes) opens

/-- Whoever is refused was told nothing. -/
theorem unborn_of_refused
    (standing : Standing acts worker)
    (new : ∀ id, act.opens? = some id → id ∉ bringing acts)
    (refused : .connect id ∈ worker.dealt act ++ worker.turnedAway act) :
    worker.view id = unborn := by
  rcases List.mem_append.mp refused with dealt | away
  · exact standing.unborn_of_due new (due_of_dealt dealt rfl)
  · exact standing.absent id (new id (opens?_of_mem_turnedAway away rfl))

theorem lively_step
    (standing : Standing acts worker)
    (new : ∀ id, act.opens? = some id → id ∉ bringing acts)
    {after : View}
    (changes : Changes worker id act after) :
    after.Lively := by
  have due : id ∈ brought (worker.queue ++ worker.received act) → worker.view id = unborn :=
    standing.unborn_of_due new
  cases changes with
  | goes goes => exact (standing.lively id).goes goes
  | connects takes =>
      have fresh := due (due_of_takes? takes rfl)
      rw [show worker.told id = [] from congrArg View.told fresh]
      exact .connecting
  | refused reason there =>
      have fresh := standing.unborn_of_refused new there
      rw [show worker.told id = [] from congrArg View.told fresh, fresh]
      exact .past (.refused reason)
  | adopted takes registered =>
      have fresh := due (due_of_takes? takes rfl)
      rw [show worker.told id = [] from congrArg View.told fresh]
      exact .paused
  | lost reason takes registered =>
      have fresh := due (due_of_takes? takes rfl)
      rw [show worker.told id = [] from congrArg View.told fresh, fresh]
      exact .past (.lost reason)
  | resumed takes paused goes =>
      have told : worker.told id = [.established] :=
        (standing.lively id).told_of_paused paused
      rw [told] at goes
      exact (Lively.active []).goes goes

/-- A connection that was told nothing and is neither brought nor turned away stays so. -/
theorem unborn_of_passed
    {after : View}
    (changes : Changes worker id act after)
    (fresh : worker.view id = unborn)
    (passed : id ∉ brought (worker.dealt act ++ worker.turnedAway act)) :
    after = unborn := by
  have taken : ∀ {surroundings : Surroundings} {command : Command},
      act = .advance surroundings → worker.takes? = some command →
        command.opens? ≠ some id := by
    rintro surroundings command rfl takes opens
    exact passed (mem_brought (List.mem_append_left _ (mem_deals_of_takes? takes)) opens)
  cases changes with
  | goes goes =>
      rw [fresh] at goes
      exact goes.eq_of_gone rfl
  | connects takes => exact absurd rfl (taken rfl takes)
  | refused reason there => exact absurd (mem_brought there rfl) passed
  | adopted takes registered => exact absurd rfl (taken rfl takes)
  | lost reason takes registered => exact absurd rfl (taken rfl takes)
  | resumed takes paused goes =>
      rw [fresh] at paused
      cases paused

/-- Once everything was closed nothing is looked after any more. -/
theorem gone_of_stopped
    {after : View}
    (changes : Changes worker id act after)
    (stopped : worker.Stopped)
    (gone : (worker.view id).phase? = none) :
    after.phase? = none := by
  have nothing : worker.takes? = none := by
    rw [takes?, if_neg]
    intro running
    rcases stopped with draining | drained | ended
    · cases draining.symm.trans running
    · cases drained.symm.trans running
    · cases ended.symm.trans running
  cases changes with
  | goes goes => rwa [goes.eq_of_gone gone]
  | connects takes => cases nothing.symm.trans takes
  | refused reason there => exact gone
  | adopted takes registered => cases nothing.symm.trans takes
  | lost reason takes registered => exact gone
  | resumed takes paused goes => cases nothing.symm.trans takes

/-- Whoever waits behind an act was not brought by it. -/
theorem passed_of_waiting
    (standing : Standing acts worker)
    (new : ∀ id, act.opens? = some id → id ∉ bringing acts)
    (waits : id ∈ brought (worker.step act).queue) :
    id ∉ brought (worker.dealt act ++ worker.turnedAway act) := by
  have distinct := standing.nodup_due new
  rw [queue_step, brought_append, List.nodup_append] at distinct
  rw [brought_append]
  intro there
  rcases List.mem_append.mp there with dealt | away
  · exact distinct.2.2 id dealt id waits rfl
  · obtain ⟨command, turned, opens⟩ := List.mem_filterMap.mp away
    have waited : id ∈ brought (worker.queue ++ worker.received act) := by
      rw [queue_step, brought_append]
      exact List.mem_append_right _ waits
    rw [turnedAway] at turned
    split at turned
    · rename_i ended
      rw [received, if_pos ended, List.append_nil] at waited
      refine new id ?_ (standing.known id waited)
      rw [Act.opens?, Option.mem_toList.mp turned]
      exact opens
    · cases turned

/-- Whoever is dealt with or turned away was brought by the history. -/
theorem bringing_of_due
    (standing : Standing acts worker)
    (due : id ∈ brought (worker.queue ++ worker.received act)) :
    id ∈ bringing (acts ++ [act]) := by
  rw [brought_append] at due
  rw [bringing_snoc]
  rcases List.mem_append.mp due with waits | joins
  · exact List.mem_append_left _ (standing.known id waits)
  · exact List.mem_append_right _ (Option.mem_toList.mpr (opens?_of_mem_received joins))

theorem step
    (standing : Standing acts worker)
    (new : ∀ id, act.opens? = some id → id ∉ bringing acts) :
    Standing (acts ++ [act]) (worker.step act) where
  lively id := standing.lively_step new (changes_step worker act id)
  distinct := by
    have distinct := standing.nodup_due new
    rw [queue_step, brought_append, List.nodup_append] at distinct
    exact distinct.2.1
  waiting id waits := by
    have due : id ∈ brought (worker.queue ++ worker.received act) := by
      rw [queue_step, brought_append]
      exact List.mem_append_right _ waits
    exact unborn_of_passed (changes_step worker act id) (standing.unborn_of_due new due)
      (standing.passed_of_waiting new waits)
  known id waits := by
    refine standing.bringing_of_due ?_
    rw [queue_step, brought_append]
    exact List.mem_append_right _ waits
  absent id never := by
    rw [bringing_snoc] at never
    have fresh := standing.absent id fun known => never (List.mem_append_left _ known)
    refine unborn_of_passed (changes_step worker act id) fresh fun there => ?_
    rw [brought_append] at there
    rcases List.mem_append.mp there with dealt | away
    · refine never (bringing_snoc acts act ▸ standing.bringing_of_due ?_)
      rw [queue_step, brought_append]
      exact List.mem_append_left _ dealt
    · obtain ⟨command, turned, opens⟩ := List.mem_filterMap.mp away
      exact never (List.mem_append_right _
        (Option.mem_toList.mpr (opens?_of_mem_turnedAway turned opens)))
  handles id closed := by
    rcases (leaves_step worker act).handles id closed with before | ended
    · obtain ⟨callback, there, last⟩ := standing.handles id before
      exact ⟨callback, (changes_step worker act id).prefix_told.subset there, last⟩
    · exact ended
  stopped now id := by
    rcases stopped_step worker act now with before | gone
    · exact gone_of_stopped (changes_step worker act id) before (standing.stopped before id)
    · exact gone id

end Standing

/-- A worker that is brought no connection twice stands well after any history. -/
theorem standing_after
    (limit : Nat)
    (acts : List Act)
    (distinct : (bringing acts).Nodup) :
    Standing acts (({ limit } : Worker).after acts) := by
  induction acts using List.reverseRecOn with
  | nil => exact standing_start limit
  | append_singleton acts act ih =>
      rw [bringing_snoc, List.nodup_append] at distinct
      rw [after, List.foldl_append]
      refine (ih distinct.1).step fun id opens known => ?_
      exact distinct.2.2 id known id (Option.mem_toList.mpr opens) rfl

end Worker

end LineProtocol
