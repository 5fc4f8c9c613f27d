import LineProtocol.Proofs.Engine.Lives

/-!
# What handlers are told, and in which order

`told_protocol` is what a handler can rely on.  Whatever a worker is sent, whatever
the network reports and however each step turns out, what the handler of a
connection is told is the beginning of a `Life`; reads apart nothing is told
twice, and nothing behind a failure to connect or the close.  An accepted
connection is not read before the worker has taken a command to resume it.

The last part is a matter of what happened before.  As long as no such command was
taken the view of an accepted connection is `Unread`.
-/

namespace LineProtocol

namespace View

/-- Nothing was read, and nothing is about to be. -/
structure Unread (view : View) : Prop where
  connecting : view.phase? ≠ some .connecting
  active : view.phase? ≠ some .active
  reads : ∀ chunk, .read chunk ∉ view.told

variable
  {before after : View}

theorem Unread.told_more
    {phase? : Option Phase}
    {more : List Callback}
    (unread : Unread before)
    (connecting : phase? ≠ some .connecting)
    (active : phase? ≠ some .active)
    (reads : ∀ chunk, .read chunk ∉ more) :
    Unread ⟨phase?, before.told ++ more⟩ where
  connecting := connecting
  active := active
  reads chunk there := by
    rcases List.mem_append.mp there with earlier | new
    · exact unread.reads chunk earlier
    · exact reads chunk new

theorem Unread.goes
    (unread : Unread before)
    (goes : Goes before after) :
    Unread after := by
  induction goes with
  | refl => exact unread
  | tail _ turn ih =>
      cases turn with
      | opens => exact absurd rfl ih.connecting
      | fails reason => exact absurd rfl ih.connecting
      | reads chunk => exact absurd rfl ih.active
      | breaks reason ready => exact ih.told_more nofun nofun (by simp)
      | closes => exact ih.told_more nofun nofun (by simp)

theorem unread_unborn : Unread unborn where
  connecting := nofun
  active := nofun
  reads _ := nofun

end View

namespace Worker

open View (Unread unborn)

variable
  {worker : Worker}
  {acts : List Act}
  {act : Act}
  {id : ChannelId}

/-- The accepted connections that were brought by a history. -/
def adopting (acts : List Act) : List ChannelId :=
  acts.filterMap (·.adopts?)

/-- A running worker has taken a command to resume a connection that was told that it is
open and nothing else. -/
def Resumed
    (turns : List (Worker × Surroundings))
    (id : ChannelId) :
    Prop :=
  ∃ turn ∈ turns, turn.1.takes? = some (.resume id) ∧ turn.1.told id = [.established]

theorem turns_append
    (worker : Worker)
    (earlier later : List Act) :
    worker.turns (earlier ++ later) =
      worker.turns earlier ++ (worker.after earlier).turns later := by
  induction earlier generalizing worker with
  | nil => rfl
  | cons act earlier ih =>
      cases act with
      | advance surroundings =>
          exact congrArg ((worker, surroundings) :: ·) (ih _)
      | _ => exact ih _

theorem after_append
    (worker : Worker)
    (earlier later : List Act) :
    worker.after (earlier ++ later) = (worker.after earlier).after later :=
  List.foldl_append

/-- What can have been resumed later can have been resumed then. -/
theorem Resumed.snoc
    (resumed : Resumed (worker.turns acts) id)
    (act : Act) :
    Resumed (worker.turns (acts ++ [act])) id := by
  obtain ⟨turn, there, takes⟩ := resumed
  rw [turns_append]
  exact ⟨turn, List.mem_append_left _ there, takes⟩

theorem adopting_snoc
    (acts : List Act)
    (act : Act) :
    adopting (acts ++ [act]) = adopting acts ++ act.adopts?.toList := by
  rw [adopting, List.filterMap_append]
  cases adopts : act.adopts? with
  | none => simp [adopting, adopts]
  | some id => simp [adopting, adopts]

theorem opens?_of_adopts?
    (adopts : act.adopts? = some id) :
    act = .send (.adopt id) ∧ act.opens? = some id := by
  cases act with
  | send command =>
      cases command with
      | adopt other =>
          obtain rfl := Option.some.inj adopts
          exact ⟨rfl, rfl⟩
      | _ => cases adopts
  | _ => cases adopts

theorem adopting_subset (acts : List Act) : adopting acts ⊆ bringing acts := by
  intro id there
  obtain ⟨act, listed, adopts⟩ := List.mem_filterMap.mp there
  exact List.mem_filterMap.mpr ⟨act, listed, (opens?_of_adopts? adopts).2⟩

/-- An accepted connection is not connected, and not read unless it was resumed. -/
def Patient
    (start : Worker)
    (acts : List Act)
    (id : ChannelId) :
    Prop :=
  .connect id ∉ (start.after acts).queue ∧
    (Resumed (start.turns acts) id ∨ ((start.after acts).view id).Unread)

/-- A connection that is adopted is new. -/
theorem patient_adopt
    (standing : Standing acts worker)
    (new : id ∉ bringing acts) :
    .connect id ∉ (worker.step (.send (.adopt id))).queue ∧
      ((worker.step (.send (.adopt id))).view id).Unread := by
  have waits : .connect id ∉ worker.queue := fun there =>
    new (standing.known id (mem_brought there rfl))
  have sent := queue_send worker (.adopt id)
  refine ⟨fun there => ?_, ?_⟩
  · rw [show (worker.step (.send (.adopt id))).queue = _ from sent] at there
    rcases List.mem_append.mp there with earlier | joins
    · exact waits earlier
    · split at joins
      · cases joins
      · cases List.mem_singleton.mp joins
  · have same : (worker.step (.send (.adopt id))).view id = worker.view id := by
      show (worker.send (.adopt id)).2.view id = worker.view id
      rw [send]
      split
      · rfl
      · rfl
    rw [same, standing.absent id new]
    exact View.unread_unborn

/-- No command to connect comes up for a connection that was brought before. -/
theorem connect_notMem_step
    (new : ∀ id, act.opens? = some id → id ∉ bringing acts)
    (known : id ∈ bringing acts)
    (waits : .connect id ∉ worker.queue) :
    .connect id ∉ worker.queue ++ worker.received act := by
  intro there
  rcases List.mem_append.mp there with earlier | joins
  · exact waits earlier
  · exact new id (opens?_of_mem_received (mem_brought joins rfl)) known

/-- Whoever was not resumed was not read, unless an act resumes it. -/
theorem unread_step
    (standing : Standing acts worker)
    (new : ∀ id, act.opens? = some id → id ∉ bringing acts)
    (known : id ∈ bringing acts)
    (waits : .connect id ∉ worker.queue)
    (unread : (worker.view id).Unread)
    {after : View}
    (changes : Changes worker id act after) :
    after.Unread ∨
      ∃ surroundings,
        act = .advance surroundings ∧ worker.takes? = some (.resume id) ∧
          worker.told id = [.established] := by
  have never := connect_notMem_step new known waits
  have taken : ∀ {surroundings : Surroundings},
      act = .advance surroundings → worker.takes? ≠ some (.connect id) := by
    rintro surroundings rfl takes
    refine never ?_
    rw [queue_step]
    exact List.mem_append_left _ (mem_deals_of_takes? takes)
  cases changes with
  | goes goes => exact .inl (unread.goes goes)
  | connects takes => exact absurd takes (taken rfl)
  | refused reason there =>
      exact .inl (unread.told_more unread.connecting unread.active (by simp))
  | adopted takes registered => exact .inl (unread.told_more nofun nofun (by simp))
  | lost reason takes registered =>
      exact .inl (unread.told_more unread.connecting unread.active (by simp))
  | resumed takes paused goes =>
      exact .inr ⟨_, rfl, takes, (standing.lively id).told_of_paused paused⟩

theorem patient_after
    (limit : Nat)
    (acts : List Act)
    (distinct : (bringing acts).Nodup)
    (id : ChannelId)
    (adopted : id ∈ adopting acts) :
    Patient { limit } acts id := by
  induction acts using List.reverseRecOn with
  | nil => cases adopted
  | append_singleton acts act ih =>
      rw [bringing_snoc, List.nodup_append] at distinct
      have new : ∀ id, act.opens? = some id → id ∉ bringing acts := fun id opens known =>
        distinct.2.2 id known id (Option.mem_toList.mpr opens) rfl
      have standing := standing_after limit acts distinct.1
      rw [adopting_snoc] at adopted
      rw [Patient, after_append]
      rcases List.mem_append.mp adopted with earlier | now
      · obtain ⟨waits, resumed⟩ := ih distinct.1 earlier
        have known := adopting_subset acts earlier
        refine ⟨fun there => connect_notMem_step new known waits ?_, ?_⟩
        · rw [queue_step]
          exact List.mem_append_right _ there
        · rcases resumed with resumed | unread
          · exact .inl (resumed.snoc act)
          · rcases unread_step standing new known waits unread (changes_step _ act id) with
              still | ⟨surroundings, rfl, takes, told⟩
            · exact .inr still
            · refine .inl ⟨(({ limit } : Worker).after acts, surroundings), ?_, takes, told⟩
              rw [turns_append]
              exact List.mem_append_right _ List.mem_cons_self
      · obtain ⟨rfl, opens⟩ := opens?_of_adopts? (Option.mem_toList.mp now)
        obtain ⟨waits, unread⟩ := patient_adopt standing (new id opens)
        exact ⟨waits, .inr unread⟩

/-- Whatever happens to a worker that is brought no connection twice, and however it turns
out: what the handler of a connection is told is the beginning of a life.  It is told
nothing twice but reads, and nothing behind a failure to connect or a close.  An accepted
connection is read only when the worker has taken a command to resume it, which found it
open and told nothing else. -/
theorem told_protocol
    (limit : Nat)
    {acts : List Act}
    (distinct : (acts.filterMap (·.opens?)).Nodup)
    (id : ChannelId) :
    let worker : Worker := { limit }
    let told := (worker.after acts).told id
    (∃ life, Callback.Life life ∧ told <+: life) ∧
      ((told.filter (·.chunk?.isNone)).map Callback.name).Nodup ∧
      (∀ before callback after,
        told = before ++ callback :: after → callback.isLast = true → after = []) ∧
      (id ∈ acts.filterMap (·.adopts?) →
        ∀ chunk,
          .read chunk ∈ told →
            ∃ turn ∈ worker.turns acts,
              turn.1.takes? = some (.resume id) ∧ turn.1.told id = [.established]) := by
  intro worker told
  have standing := standing_after limit acts distinct
  obtain ⟨life, whole, rest, begins⟩ := (standing.lively id).exists_life
  refine ⟨⟨life, whole, rest, begins⟩, ?_, ?_, ?_⟩
  · refine whole.nodup_names.sublist (List.Sublist.map _ (List.Sublist.filter _ ?_))
    exact (show told <+: life from ⟨rest, begins⟩).sublist
  · intro before callback after split last
    have longer : life = before ++ callback :: (after ++ rest) := by
      rw [← begins, show ((worker.after acts).view id).told = _ from split]
      simp
    exact (List.append_eq_nil_iff.mp (whole.eq_nil_of_last longer last)).1
  · intro adopted chunk read
    rcases (patient_after limit acts distinct id adopted).2 with resumed | unread
    · exact resumed
    · exact absurd read (unread.reads chunk)

/-- An accepted connection is brought, resumed, read and closed. -/
def served : List Act :=
  [.pin ⟨1⟩ none, .send (.adopt ⟨1⟩), .advance {}, .send (.resume ⟨1⟩),
    .advance { arrivals := [.chunk [104, 105]] }, .send (.close ⟨1⟩ ⟨0⟩), .advance {}]

theorem told_protocol_served :
    (served.filterMap (·.opens?)).Nodup ∧
      (({ limit := 8 } : Worker).after served).told ⟨1⟩ =
        [.established, .read [104, 105], .closed] ∧
      ∃ turn ∈ ({ limit := 8 } : Worker).turns served,
        turn.1.takes? = some (.resume ⟨1⟩) ∧ turn.1.told ⟨1⟩ = [.established] := by
  have distinct : (served.filterMap (·.opens?)).Nodup := by decide
  have told :
      (({ limit := 8 } : Worker).after served).told ⟨1⟩ =
        [.established, .read [104, 105], .closed] := by
    decide
  obtain ⟨-, -, -, resumed⟩ := told_protocol 8 distinct ⟨1⟩
  refine ⟨distinct, told, resumed (by decide) [104, 105] ?_⟩
  rw [told]
  decide

end Worker

end LineProtocol
