import LineProtocol.Proofs.Engine.Homes

/-!
# Lost connects

Whoever connects should be told how that ended, also where the worker is about to
stop or has stopped.  There are three ways to be told.  The worker looks after the
connection and closes it with all others; or it finds the command when it empties its
queue; or its queue is gone, and the engine answers in its place.

A stopping worker looks into its queue until it finds nothing there, and drops it
after that.  A command that comes between the last look and the drop is taken and then
thrown away, so that nobody is told anything.  `heard_once_iff` says that connects are
lost in this way and in no other.
-/

namespace LineProtocol

/-- Exactly one callback of a life is a last one. -/
theorem Callback.Life.countP_last
    {life : List Callback}
    (whole : Life life) :
    life.countP (·.isLast) = 1 := by
  have reads : ∀ chunks : List Bytes, (chunks.map Callback.read).countP (·.isLast) = 0 := by
    intro chunks
    rw [List.countP_eq_zero]
    intro callback there
    obtain ⟨chunk, -, rfl⟩ := List.mem_map.mp there
    exact Bool.false_ne_true
  cases whole with
  | refused reason => rfl
  | unopened => rfl
  | lost reason => rfl
  | closed chunks =>
      rw [List.countP_append, List.countP_cons_of_neg Bool.false_ne_true, reads]
      rfl
  | broken chunks reason =>
      rw [List.countP_append, List.countP_cons_of_neg Bool.false_ne_true, reads]
      rfl

namespace View

variable
  {before after view : View}

/-- Whoever was told something was brought. -/
theorem ne_unborn_of_told
    {phase? : Option Phase}
    {told more : List Callback}
    {callback : Callback} :
    (⟨phase?, told ++ callback :: more⟩ : View) ≠ unborn := by
  simp [unborn]

/-- Whoever is looked after was brought. -/
theorem ne_unborn_of_phase
    {phase : Phase}
    {told : List Callback} :
    (⟨some phase, told⟩ : View) ≠ unborn := by
  simp [unborn]

/-- Whoever was brought and is not looked after was told the last exactly once. -/
theorem Lively.countP_last
    (lively : Lively view)
    (born : view ≠ View.unborn)
    (gone : view.phase? = none) :
    view.told.countP (·.isLast) = 1 := by
  cases lively with
  | unborn => exact absurd rfl born
  | connecting => cases gone
  | paused => cases gone
  | active chunks => cases gone
  | past whole => exact whole.countP_last

/-- Nothing makes a connection one that was not brought. -/
theorem Goes.born
    (goes : Goes before after)
    (born : before ≠ unborn) :
    after ≠ unborn := by
  induction goes with
  | refl => exact born
  | tail _ turn ih =>
      -- Whatever a turn brings, it tells something.
      cases turn <;> exact ne_unborn_of_told

end View

namespace Worker

open View (unborn)

variable
  {worker : Worker}
  {acts earlier later : List Act}
  {act : Act}
  {id : ChannelId}

/-- The worker does not look into its queue any more. -/
def Blind (worker : Worker) : Prop :=
  worker.stage = .drained ∨ worker.stage = .ended

/-- A connect is known to the worker, or waits for a worker that will see it. -/
def Awaited
    (worker : Worker)
    (id : ChannelId) :
    Prop :=
  worker.view id ≠ unborn ∨ (.connect id ∈ worker.queue ∧ ¬ worker.Blind)

theorem Changes.born
    {after : View}
    (changes : Changes worker id act after)
    (born : worker.view id ≠ unborn) :
    after ≠ unborn := by
  cases changes with
  | goes goes => exact goes.born born
  | connects takes => exact View.ne_unborn_of_phase
  | refused reason there => exact View.ne_unborn_of_told
  | adopted takes registered => exact View.ne_unborn_of_told
  | lost reason takes registered => exact View.ne_unborn_of_told
  | resumed takes paused goes => exact goes.born View.ne_unborn_of_phase

/-- A worker stops to look into its queue when it finds nothing there. -/
theorem blind_step
    (worker : Worker)
    (act : Act)
    (blind : (worker.step act).Blind) :
    worker.Blind ∨ (worker.step act).queue = [] := by
  have not_closing : (worker.step act).stage ≠ .closing := by
    intro closing
    rw [Blind, closing] at blind
    simp at blind
  by_cases own : ∃ surroundings, act = .advance surroundings
  · obtain ⟨surroundings, rfl⟩ := own
    rw [step] at blind not_closing ⊢
    cases stage : worker.stage with
    | running =>
        rcases stage_advance_of_running stage surroundings with running | closing
        · rw [Blind, running] at blind
          simp at blind
        · exact absurd closing not_closing
    | closing => simp [Blind, advance, stage] at blind
    | draining =>
        cases queue : worker.queue with
        | nil => exact .inr (by simp [advance, stage, queue])
        | cons command rest =>
            rcases stage_advance_of_draining stage queue surroundings with draining | closing
            · rw [Blind, draining] at blind
              simp at blind
            · exact absurd closing not_closing
    | drained => exact .inl (.inl stage)
    | ended => exact .inl (.inr stage)
  · rcases stage_step_of_not_advance worker fun surroundings same => own ⟨surroundings, same⟩
      with same | ⟨-, closing⟩
    · rw [Blind, same] at blind
      exact .inl blind
    · exact absurd closing not_closing

/-- A connect that a worker deals with while it looks into its queue is known to it. -/
theorem born_of_dealt
    (sees : ¬ worker.Blind)
    (dealt : .connect id ∈ worker.dealt act) :
    (worker.step act).view id ≠ unborn := by
  cases act with
  | advance surroundings =>
      have first : ∀ {command : Command} {rest : List Command},
          worker.queue = command :: rest → worker.deals = worker.queue.take 1 →
            command = .connect id := by
        intro command rest queue deals
        rw [Worker.dealt, deals, queue] at dealt
        exact (List.mem_singleton.mp dealt).symm
      rw [step, advance]
      split
      · rename_i running queue
        simp [Worker.dealt, deals, running, queue] at dealt
      · rename_i command rest running queue
        obtain rfl := first queue (by simp [deals, running])
        rw [perform]
        cases surroundings.attempt with
        | ok _ =>
            rw [connect, view_install, if_pos rfl]
            exact View.ne_unborn_of_phase
        | error reason =>
            rw [connect, view_refuse, if_pos rfl]
            exact View.ne_unborn_of_told
      · rename_i closing
        simp [Worker.dealt, deals, closing] at dealt
      · rename_i draining queue
        simp [Worker.dealt, deals, draining, queue] at dealt
      · rename_i command rest draining queue
        obtain rfl := first queue (by simp [deals, draining])
        rw [decline, view_refuse, if_pos rfl]
        exact View.ne_unborn_of_told
      · rename_i drained
        exact absurd (.inl drained) sees
      · rename_i ended
        exact absurd (.inr ended) sees
  | _ => cases dealt

/-- Whoever is awaited stays so. -/
theorem Awaited.step
    (awaited : worker.Awaited id)
    (act : Act) :
    (worker.step act).Awaited id := by
  rcases awaited with born | ⟨waits, sees⟩
  · exact .inl ((changes_step worker act id).born born)
  · have due : .connect id ∈ worker.dealt act ++ (worker.step act).queue := by
      rw [← queue_step]
      exact List.mem_append_left _ waits
    rcases List.mem_append.mp due with dealt | waiting
    · exact .inl (born_of_dealt sees dealt)
    · refine .inr ⟨waiting, fun blind => ?_⟩
      rcases blind_step worker act blind with before | empty
      · exact sees before
      · rw [empty] at waiting
        cases waiting

/-- A connect is awaited when it comes, unless the queue was already seen empty and is still
there. -/
theorem awaited_send
    (worker : Worker)
    (id : ChannelId)
    (clear : worker.stage ≠ .drained) :
    (worker.step (.send (.connect id))).Awaited id := by
  by_cases ended : worker.stage = .ended
  · refine .inl ?_
    rw [step, if_pos ended, view_refuse, if_pos rfl]
    exact View.ne_unborn_of_told
  · refine .inr ⟨?_, fun blind => ?_⟩
    · rw [step, if_neg ended, queue_send, if_neg ended]
      exact List.mem_append_right _ (List.mem_singleton_self _)
    · rw [Blind, step, if_neg ended, send, if_neg ended] at blind
      rcases blind with drained | gone
      · exact clear drained
      · exact ended gone

theorem awaited_after
    (awaited : worker.Awaited id)
    (acts : List Act) :
    (worker.after acts).Awaited id := by
  induction acts using List.reverseRecOn with
  | nil => exact awaited
  | append_singleton acts act ih =>
      rw [after_snoc]
      exact ih.step act

/-- Nothing becomes of a connect that the worker does not see. -/
theorem unborn_step_of_blind
    (blind : worker.Blind)
    (fresh : worker.view id = unborn)
    (other : act.opens? ≠ some id) :
    (worker.step act).Blind ∧ (worker.step act).view id = unborn := by
  by_cases own : ∃ surroundings, act = .advance surroundings
  · obtain ⟨surroundings, rfl⟩ := own
    rw [step]
    rcases blind with drained | ended
    · rw [advance, drained]
      obtain ⟨settled, given⟩ :=
        foldl_discard_frame { worker with queue := [], stage := .ended } worker.queue
      refine ⟨.inr ?_, (view_foldl_discard _ _ id).trans fresh⟩
      exact (congrArg Worker.stage given).trans rfl
    · rw [advance, ended]
      exact ⟨.inr ended, fresh⟩
  · have quiet := stage_step_of_not_advance worker fun surroundings same =>
      own ⟨surroundings, same⟩
    have same : (worker.step act).stage = worker.stage := by
      rcases quiet with same | ⟨running, -⟩
      · exact same
      · rw [Blind, running] at blind
        simp at blind
    refine ⟨?_, Standing.unborn_of_passed (changes_step worker act id) fresh fun there => ?_⟩
    · rwa [Blind, same]
    · rw [brought_append] at there
      rcases List.mem_append.mp there with dealt | away
      · cases act with
        | advance surroundings => exact own ⟨surroundings, rfl⟩
        | _ => cases dealt
      · obtain ⟨command, turned, opens⟩ := List.mem_filterMap.mp away
        exact other (opens?_of_mem_turnedAway turned opens)

theorem unborn_after_of_blind
    (blind : worker.Blind)
    (fresh : worker.view id = unborn)
    (others : id ∉ bringing acts) :
    (worker.after acts).Blind ∧ (worker.after acts).view id = unborn := by
  induction acts using List.reverseRecOn with
  | nil => exact ⟨blind, fresh⟩
  | append_singleton acts act ih =>
      rw [bringing_snoc, List.mem_append, not_or] at others
      obtain ⟨still, unseen⟩ := ih others.1
      rw [after_snoc]
      exact unborn_step_of_blind still unseen fun opens =>
        others.2 (Option.mem_toList.mpr opens)

/-- Whoever was awaited was told the last exactly once when the worker has ended. -/
theorem Standing.countP_last
    (standing : Standing acts worker)
    (awaited : worker.Awaited id)
    (ended : worker.stage = .ended) :
    (worker.told id).countP (·.isLast) = 1 := by
  rcases awaited with born | ⟨-, sees⟩
  · exact (standing.lively id).countP_last born (standing.stopped (.inr (.inr ended)) id)
  · exact absurd (.inr ended) sees

/-- What a connect comes to when the worker has ended. -/
theorem told_of_connect
    (limit : Nat)
    (distinct : (bringing (earlier ++ .send (.connect id) :: later)).Nodup)
    (ended :
      (({ limit } : Worker).after (earlier ++ .send (.connect id) :: later)).stage = .ended) :
    let told := (({ limit } : Worker).after (earlier ++ .send (.connect id) :: later)).told id
    ((({ limit } : Worker).after earlier).stage ≠ .drained → told.countP (·.isLast) = 1) ∧
      ((({ limit } : Worker).after earlier).stage = .drained → told = []) := by
  intro told
  have standing := standing_after limit _ distinct
  have comes :
      ({ limit } : Worker).after (earlier ++ .send (.connect id) :: later) =
        ((({ limit } : Worker).after earlier).step (.send (.connect id))).after later := by
    rw [after_append]
    rfl
  refine ⟨fun clear => standing.countP_last ?_ ended, fun drained => ?_⟩
  · rw [comes]
    exact awaited_after (awaited_send _ id clear) later
  · rw [bringing, List.filterMap_append, List.filterMap_cons] at distinct
    obtain ⟨sooner, behind, apart⟩ := List.nodup_append.mp distinct
    obtain ⟨alone, -⟩ := List.nodup_cons.mp behind
    have fresh : (({ limit } : Worker).after earlier).view id = unborn :=
      (standing_after limit earlier sooner).absent id fun known =>
        apart id known id List.mem_cons_self rfl
    have there : (({ limit } : Worker).after earlier).stage ≠ .ended := by
      rw [drained]
      decide
    have blind : ((({ limit } : Worker).after earlier).step (.send (.connect id))).Blind := by
      rw [step, if_neg there, send, if_neg there]
      exact .inl drained
    have unseen :
        ((({ limit } : Worker).after earlier).step (.send (.connect id))).view id = unborn := by
      rw [step, if_neg there, send, if_neg there]
      exact fresh
    have never := (unborn_after_of_blind blind unseen alone).2
    rw [← comes] at never
    exact congrArg View.told never

end Worker

namespace Usage

variable
  {settings : EngineSettings}
  {earlier later : List Event}
  {address : SocketAddress}
  {between final : Usage}
  {worker : Worker}

/-- The worker whose turn it is has found its queue empty for the last time, and the queue
is still there. -/
def InGap (usage : Usage) : Prop :=
  ∃ worker, usage.engine.workers[usage.engine.pick.1]? = some worker ∧ worker.stage = .drained

/-- A connect gives the worker whose turn it is a handle and a command. -/
theorem exists_journal_of_connect
    (before : earlier.foldlM step? (.start settings) = some between)
    (ran : (earlier ++ .connect address :: later).foldlM step? (.start settings) = some final) :
    ∃ further,
      (start settings).journal (earlier ++ .connect address :: later) between.engine.pick.1 =
        ((start settings).journal earlier between.engine.pick.1 ++
            [.pin ⟨between.engine.nextId⟩ (some address)]) ++
          .send (.connect ⟨between.engine.nextId⟩) :: further := by
  have onwards := ran
  rw [List.append_cons, List.foldlM_append] at onwards
  obtain ⟨next, went, -⟩ := Option.bind_eq_some_iff.mp onwards
  refine ⟨next.journal later between.engine.pick.1, ?_⟩
  rw [List.append_cons, journal_append went, journal_snoc before, acts, Engine.onWorker,
    if_pos rfl]
  simp

/-- Once the worker that a connect went to has ended, whoever connected was told exactly once
how that ended, unless the connect was made in the gap.  Whoever connected in the gap was
told nothing at all. -/
theorem heard_once_iff
    (before : earlier.foldlM step? (.start settings) = some between)
    (ran : (earlier ++ .connect address :: later).foldlM step? (.start settings) = some final)
    (home : final.engine.workers[between.engine.pick.1]? = some worker)
    (ended : worker.stage = .ended) :
    let told := final.told (between.engine.connect address).1
    (told.countP (·.isLast) = 1 ↔ ¬ between.InGap) ∧ (between.InGap → told = []) := by
  obtain ⟨workers, frame⟩ := between.engine.connect_frame address
  rw [frame]
  intro told
  have routed := routed_run ran
  obtain ⟨begins, rfl⟩ := worker_of_ran ran home
  obtain ⟨further, journal⟩ := exists_journal_of_connect before ran
  have there := worker_of_run begins before
  have distinct := routed.nodup_bringing between.engine.pick.1
  have sent :
      .connect ⟨between.engine.nextId⟩ ∈
        Worker.sending ((start settings).journal (earlier ++ .connect address :: later)
          between.engine.pick.1) := by
    rw [journal]
    exact List.mem_filterMap.mpr ⟨_, List.mem_append_right _ List.mem_cons_self, rfl⟩
  have said : told = _ := told_of_begins ran begins (routed.home_of_sent sent rfl)
  rw [journal] at distinct ended said
  obtain ⟨once, never⟩ := Worker.told_of_connect settings.maxPendingWrite distinct ended
  rw [Worker.after_snoc, ← said] at once never
  have gap : between.InGap ↔
      (({ limit := settings.maxPendingWrite } : Worker).after
        ((start settings).journal earlier between.engine.pick.1)).stage = .drained := by
    rw [InGap, there]
    exact ⟨fun ⟨_, same, drained⟩ => Option.some.inj same ▸ drained, fun drained =>
      ⟨_, rfl, drained⟩⟩
  refine ⟨⟨fun heard inside => ?_, fun clear => once fun drained => clear (gap.mpr drained)⟩,
    fun inside => never (gap.mp inside)⟩
  rw [never (gap.mp inside)] at heard
  cases heard

/-- A worker is told to stop, closes everything and finds its queue empty. -/
def leaving : List Event :=
  [.shutdown, .advance 0 {}, .advance 0 {}, .advance 0 {}]

/-- Somebody connects, and then the worker stops. -/
def connectThenLeave (address : SocketAddress) : List Event :=
  .connect address :: .advance 0 {} :: leaving

/-- The connect made before the stop is heard of once, the one made in the gap never. -/
theorem heard_once_iff_twice :
    let start : Usage := .start { workerThreads := 1 }
    let address : SocketAddress := { ip := .v4 .unspecified, port := 80 }
    let rest : List Event := .connect address :: [.advance 0 {}]
    ∃ between final,
      (connectThenLeave address).foldlM step? start = some between ∧ between.InGap ∧
        (connectThenLeave address ++ rest).foldlM step? start = some final ∧
        (final.told ⟨1⟩).countP (·.isLast) = 1 ∧ final.told ⟨2⟩ = [] := by
  intro start address rest
  obtain ⟨between, before⟩ :=
    Option.isSome_iff_exists.mp
      (by decide +kernel : ((connectThenLeave address).foldlM step? start).isSome = true)
  obtain ⟨final, ran⟩ :=
    Option.isSome_iff_exists.mp
      (by decide +kernel :
        ((connectThenLeave address ++ rest).foldlM step? start).isSome = true)
  have midway :
      ((connectThenLeave address).foldlM step? start).map
          (fun usage =>
            (usage.engine.pick.1, usage.engine.nextId, usage.engine.workers.map (·.stage))) =
        some (0, 2, [.drained]) := by
    decide +kernel
  have last :
      ((connectThenLeave address ++ rest).foldlM step? start).map
          (fun usage => usage.engine.workers.map (·.stage)) =
        some [.ended] := by
    decide +kernel
  rw [before] at midway
  rw [ran] at last
  simp only [Option.map_some, Option.some.injEq, Prod.mk.injEq] at midway last
  obtain ⟨turn, next, stages⟩ := midway
  obtain ⟨worker, workers, ended⟩ := List.map_eq_singleton_iff.mp last
  obtain ⟨stopping, others, drained⟩ := List.map_eq_singleton_iff.mp stages
  have home : final.engine.workers[0]? = some worker := by rw [workers]; rfl
  have gap : between.InGap := ⟨stopping, by rw [turn, others]; rfl, drained⟩
  have clear : ¬ start.InGap := by
    rintro ⟨fresh, first, late⟩
    cases first
    cases late
  have unused : ([] : List Event).foldlM step? start = some start := rfl
  obtain ⟨once, -⟩ := heard_once_iff unused ran home ended
  obtain ⟨-, never⟩ := heard_once_iff before ran (turn ▸ home) ended
  obtain ⟨_, frame⟩ := between.engine.connect_frame address
  rw [frame, next] at never
  exact ⟨between, final, before, gap, ran, once.mpr clear, never gap⟩

/-- Not every connect is heard of: one made in the gap goes away with the queue. -/
theorem not_always_heard :
    ¬ ∀ (settings : EngineSettings) (earlier : List Event) (address : SocketAddress)
        (later : List Event) (between final : Usage) (worker : Worker),
      earlier.foldlM step? (.start settings) = some between →
      (earlier ++ .connect address :: later).foldlM step? (.start settings) = some final →
      final.engine.workers[between.engine.pick.1]? = some worker →
      worker.stage = .ended →
      (final.told (between.engine.connect address).1).countP (·.isLast) = 1 := by
  intro always
  let address : SocketAddress := { ip := .v4 .unspecified, port := 80 }
  let rest : List Event := .connect address :: [.advance 0 {}]
  let start : Usage := .start { workerThreads := 1 }
  obtain ⟨between, before⟩ :=
    Option.isSome_iff_exists.mp
      (by decide +kernel : (leaving.foldlM step? start).isSome = true)
  obtain ⟨final, ran⟩ :=
    Option.isSome_iff_exists.mp
      (by decide +kernel : ((leaving ++ rest).foldlM step? start).isSome = true)
  have turn :
      (leaving.foldlM step? start).map
          (fun usage => (usage.engine.pick.1, usage.engine.nextId)) =
        some (0, 1) := by
    decide +kernel
  have last :
      ((leaving ++ rest).foldlM step? start).map
          (fun usage => (usage.engine.workers.map (·.stage), usage.told ⟨1⟩)) =
        some ([.ended], []) := by
    decide +kernel
  rw [before] at turn
  rw [ran] at last
  simp only [Option.map_some, Option.some.injEq, Prod.mk.injEq] at turn last
  obtain ⟨stages, silent⟩ := last
  obtain ⟨worker, workers, ended⟩ := List.map_eq_singleton_iff.mp stages
  have home : final.engine.workers[between.engine.pick.1]? = some worker := by
    rw [turn.1, workers]
    rfl
  have heard := always _ leaving address [.advance 0 {}] between final worker before ran home ended
  obtain ⟨_, frame⟩ := between.engine.connect_frame address
  rw [frame, turn.2, silent] at heard
  cases heard

end Usage

end LineProtocol
