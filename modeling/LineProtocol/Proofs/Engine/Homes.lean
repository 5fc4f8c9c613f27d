import LineProtocol.Proofs.Engine.Routed

/-!
# The home of a connection

Every number is pinned to a worker that is there, and stays so.  Whatever the handler
of a connection was told, its home told it (`told_home`).

A request to close that the engine settles without its workers needs none of
them: the connection has ended, or its home has.  As neither comes back, this
stays true, which is what `Vouched` says.
-/

namespace LineProtocol

namespace Worker

variable
  {worker : Worker}
  {id : ChannelId}

/-- What was told stays told. -/
theorem prefix_told_after
    (worker : Worker)
    (acts : List Act)
    (id : ChannelId) :
    worker.told id <+: (worker.after acts).told id := by
  induction acts using List.reverseRecOn with
  | nil => exact List.prefix_rfl
  | append_singleton acts act ih =>
      rw [after_snoc]
      exact ih.trans (changes_step _ act id).prefix_told

theorem ended_after
    (ended : (worker.view id).Ended)
    (acts : List Act) :
    ((worker.after acts).view id).Ended := by
  obtain ⟨callback, there, last⟩ := ended
  exact ⟨callback, (prefix_told_after worker acts id).subset there, last⟩

theorem stage_after_of_ended
    (ended : worker.stage = .ended)
    (acts : List Act) :
    (worker.after acts).stage = .ended := by
  induction acts using List.reverseRecOn with
  | nil => exact ended
  | append_singleton acts act ih =>
      rw [after_snoc]
      exact stage_step_of_ended ih act

end Worker

namespace Engine

theorem Does.length
    {before after : Engine}
    {acts : Nat → List Worker.Act}
    (does : Does before after acts) :
    after.workers.length = before.workers.length := by
  apply Nat.le_antisymm
  · rw [← List.getElem?_eq_none_iff, does, List.getElem?_eq_none (Nat.le_refl _)]
    rfl
  · have nothing := does after.workers.length
    rw [List.getElem?_eq_none (Nat.le_refl _)] at nothing
    exact List.getElem?_eq_none_iff.mp (Option.map_eq_none_iff.mp nothing.symm)

end Engine

namespace Usage

open Worker (CloseDealt)

variable
  {usage next final : Usage}
  {mailed : List (Nat × Command)}
  {events : List Event}
  {event : Event}
  {settings : EngineSettings}
  {id : ChannelId}
  {index : Nat}

/-! ## Homes -/

theorem homes_of_moves
    (moves : Moves usage event next) :
    next.engine.homes = usage.engine.homes ∨
      next.engine.homes =
        usage.engine.homes.insert ⟨usage.engine.nextId⟩ usage.engine.pick.1 := by
  cases moves with
  | connects => exact .inr rfl
  | binds more new => exact .inr rfl
  | accepts => exact .inr rfl
  | hands shown => exact .inl rfl
  | closes about sends cause => exact .inl rfl
  | goes sends => exact .inl rfl

/-- Whatever has a home keeps it. -/
theorem Routed.find?_step
    (routed : usage.Routed mailed)
    (moves : Moves usage event next)
    (known : usage.Knows id) :
    next.engine.homes.find? id = usage.engine.homes.find? id := by
  rcases homes_of_moves moves with same | inserted
  · rw [same]
  · have old : id ≠ ⟨usage.engine.nextId⟩ := by
      rintro rfl
      exact routed.not_knows_new known
    rw [inserted, Table.find?_insert, if_neg old]

theorem Routed.home_step
    (routed : usage.Routed mailed)
    (moves : Moves usage event next)
    (known : usage.Knows id) :
    next.engine.home id = usage.engine.home id := by
  rw [Engine.home, routed.find?_step moves known]
  rfl

/-- The home is the same all the way. -/
theorem home_of_run
    {earlier later : List Event}
    (before : earlier.foldlM step? (.start settings) = some usage)
    (known : usage.Knows id)
    (ran : later.foldlM step? usage = some final) :
    final.engine.homes.find? id = usage.engine.homes.find? id := by
  induction ran using foldlM_induction with
  | none => rfl
  | snoc events event between final went stepped ih =>
      have routed := routed_run (foldlM_append_of_run before went)
      have still : between.Knows id := by
        rw [Knows, ih]
        exact known
      rw [routed.find?_step (moves_step stepped) still, ih]

/-- There are workers, and all homes are among them. -/
structure Within (usage : Usage) : Prop where
  staffed : 0 < usage.engine.workers.length
  homes :
    ∀ id index,
      usage.engine.homes.find? id = some index → index < usage.engine.workers.length

theorem within_start (settings : EngineSettings) : (start settings).Within where
  staffed := by
    show 0 < (List.replicate (max settings.workerThreads 1) _).length
    rw [List.length_replicate]
    exact Nat.lt_of_lt_of_le Nat.one_pos (Nat.le_max_right _ _)
  homes _ _ := nofun

theorem Within.step
    (within : usage.Within)
    (stepped : usage.step? event = some next) :
    next.Within := by
  have length := (does_step stepped).length
  refine ⟨length ▸ within.staffed, fun id index found => ?_⟩
  rw [length]
  rcases homes_of_moves (moves_step stepped) with same | inserted
  · rw [same] at found
    exact within.homes id index found
  · rw [inserted, Table.find?_insert] at found
    split at found
    · rw [← Option.some.inj found]
      exact Nat.mod_lt _ within.staffed
    · exact within.homes id index found

theorem worker_start
    {worker : Worker}
    (there : (start settings).engine.workers[index]? = some worker) :
    worker = { limit := settings.maxPendingWrite } :=
  List.eq_of_mem_replicate (List.mem_of_getElem? there)

/-- Each worker is where what came to it leads. -/
theorem worker_of_ran
    {worker : Worker}
    (ran : events.foldlM step? (.start settings) = some final)
    (there : final.engine.workers[index]? = some worker) :
    (start settings).engine.workers[index]? = some { limit := settings.maxPendingWrite } ∧
      worker =
        ({ limit := settings.maxPendingWrite } : Worker).after
          ((start settings).journal events index) := by
  rw [does_run ran index] at there
  obtain ⟨first, begins, leads⟩ := Option.map_eq_some_iff.mp there
  obtain rfl := worker_start begins
  exact ⟨begins, leads.symm⟩

/-- The home of a connection is there. -/
theorem exists_home
    (ran : events.foldlM step? (.start settings) = some final)
    (known : final.Knows id) :
    ∃ worker, final.engine.workers[final.engine.home id]? = some worker := by
  have within : final.Within :=
    foldlM_keeps (fun _ _ _ kept stepped => kept.step stepped) (within_start settings) ran
  exact ⟨_, List.getElem?_eq_getElem (within.homes id _ (home_of_knows known))⟩

theorem flatMap_eq_of_others
    {α β : Type}
    {list : List α}
    {index : Nat}
    {value : α}
    (f : α → List β)
    (there : list[index]? = some value)
    (others : ∀ other value, other ≠ index → list[other]? = some value → f value = []) :
    list.flatMap f = f value := by
  induction list generalizing index with
  | nil => cases there
  | cons first list ih =>
      cases index with
      | zero =>
          obtain rfl := Option.some.inj there
          have silent : list.flatMap f = [] := by
            rw [List.flatMap_eq_nil_iff]
            intro value listed
            obtain ⟨other, found⟩ := List.mem_iff_getElem?.mp listed
            exact others (other + 1) value (Nat.succ_ne_zero other) found
          rw [List.flatMap_cons, silent, List.append_nil]
      | succ index =>
          have silent : f first = [] := others 0 first (Nat.succ_ne_zero index).symm rfl
          rw [List.flatMap_cons, silent, List.nil_append]
          exact ih there fun other value elsewhere found =>
            others (other + 1) value (fun same => elsewhere (Nat.succ.inj same)) found

/-- All that the handler of a connection was told, the home told it. -/
theorem told_home
    {worker : Worker}
    (ran : events.foldlM step? (.start settings) = some final)
    (home : final.engine.workers[final.engine.home id]? = some worker) :
    final.told id = worker.told id := by
  have routed := routed_run ran
  refine flatMap_eq_of_others _ home fun other visited elsewhere there => ?_
  obtain ⟨-, rfl⟩ := worker_of_ran ran there
  have standing := Worker.standing_after settings.maxPendingWrite _ (routed.nodup_bringing other)
  refine congrArg View.told (standing.absent id fun brought => ?_)
  obtain ⟨act, listed, opens⟩ := List.mem_filterMap.mp brought
  obtain ⟨command, sends, brings⟩ := Option.bind_eq_some_iff.mp opens
  have sent : command ∈ Worker.sending ((start settings).journal events other) :=
    List.mem_filterMap.mpr ⟨act, listed, sends⟩
  exact elsewhere (routed.home_of_sent sent (isSome_about?_of_opens? brings)).symm

/-- What the handler was told, in terms of what came to its home. -/
theorem told_of_begins
    (ran : events.foldlM step? (.start settings) = some final)
    (begins :
      (start settings).engine.workers[index]? = some { limit := settings.maxPendingWrite })
    (home : final.engine.home id = index) :
    final.told id =
      (({ limit := settings.maxPendingWrite } : Worker).after
        ((start settings).journal events index)).told id := by
  subst home
  exact told_home ran (worker_of_run begins ran)

/-- Whoever makes a step was there from the start. -/
theorem begins_of_turn
    {turn : Worker × Surroundings}
    (ran : events.foldlM step? (.start settings) = some final)
    (made : turn ∈ (start settings).turns events index) :
    (start settings).engine.workers[index]? = some { limit := settings.maxPendingWrite } := by
  obtain ⟨earlier, later, split⟩ := List.append_of_mem made
  obtain ⟨before, -, between, -, went, -, there⟩ := split_of_turns ran split
  exact (worker_of_ran went there).1

/-- What a worker has dealt with was sent to it. -/
theorem mem_sending_of_dealing
    {command : Command}
    (ran : events.foldlM step? (.start settings) = some final)
    (dealt : command ∈ Worker.dealing ((start settings).turns events index)) :
    command ∈ Worker.sending ((start settings).journal events index) := by
  obtain ⟨turn, made, -⟩ := List.mem_flatMap.mp dealt
  rw [turns_of_run (begins_of_turn ran made) ran] at dealt
  exact (Worker.traced_after _ _).sent.subset (List.mem_append_left _ dealt)

/-! ## Requests that no worker settles -/

/-- The connection has ended, or its home has. -/
def Idle
    (usage : Usage)
    (id : ChannelId) :
    Prop :=
  ∀ worker,
    usage.engine.workers[usage.engine.home id]? = some worker →
      (worker.view id).Ended ∨ worker.stage = .ended

theorem Idle.step
    (idle : usage.Idle id)
    (routed : usage.Routed mailed)
    (known : usage.Knows id)
    (stepped : usage.step? event = some next) :
    next.Idle id := by
  intro worker there
  rw [routed.home_step (moves_step stepped) known, does_step stepped] at there
  obtain ⟨before, home, rfl⟩ := Option.map_eq_some_iff.mp there
  rcases idle before home with ended | stopped
  · exact .inl (Worker.ended_after ended _)
  · exact .inr (Worker.stage_after_of_ended stopped _)

/-- A handle that says so belongs to a connection that has ended. -/
theorem idle_of_needsNothing
    (ran : events.foldlM step? (.start settings) = some final)
    (needs : final.engine.NeedsNothing id) :
    final.Idle id := by
  intro worker there
  rcases needs worker there with closed | ended
  · obtain ⟨-, rfl⟩ := worker_of_ran ran there
    have standing := Worker.standing_after settings.maxPendingWrite _
      ((routed_run ran).nodup_bringing (final.engine.home id))
    exact .inl (standing.handles id closed)
  · exact .inr ended

/-- The requests that the engine settled itself have nothing to wait for. -/
structure Vouched (usage : Usage) : Prop where
  asked : ∀ entry ∈ usage.engine.settled, entry.1.number < usage.engine.tickets
  idle :
    ∀ entry ∈ usage.engine.settled, ∀ id, (id, entry.1) ∈ usage.closes → usage.Idle id

/-- As long as no request is noted, nothing is to be said. -/
theorem Vouched.kept
    (vouched : usage.Vouched)
    (routed : usage.Routed mailed)
    (stepped : usage.step? event = some next)
    (settled : next.engine.settled = usage.engine.settled)
    (tickets : next.engine.tickets = usage.engine.tickets)
    (closes : next.closes = usage.closes) :
    next.Vouched where
  asked entry there := by
    rw [tickets]
    exact vouched.asked entry (settled ▸ there)
  idle entry there id asked := by
    rw [settled] at there
    rw [closes] at asked
    exact (vouched.idle entry there id asked).step routed (routed.asked _ asked).1 stepped

theorem Vouched.step
    (vouched : usage.Vouched)
    (ran : events.foldlM step? (.start settings) = some usage)
    (stepped : usage.step? event = some next) :
    next.Vouched := by
  have routed := routed_run ran
  have moves := moves_step stepped
  cases moves with
  | connects => exact vouched.kept routed stepped rfl rfl rfl
  | binds more new => exact vouched.kept routed stepped rfl rfl rfl
  | accepts => exact vouched.kept routed stepped rfl rfl rfl
  | hands shown => exact vouched.kept routed stepped rfl rfl rfl
  | goes sends => exact vouched.kept routed stepped rfl rfl rfl
  | closes about sends cause =>
      rename_i id workers settled
      have known := routed.knows_closing about
      -- A settled request is an old one, or the new one, which has nothing to wait for.
      have sorts :
          ∀ entry ∈ settled,
            entry ∈ usage.engine.settled ∨
              entry.1 = ⟨usage.engine.tickets⟩ ∧ usage.engine.NeedsNothing id := by
        intro entry there
        rcases cause with rfl | ⟨⟨receipt, rfl⟩, needs⟩
        · exact .inl there
        · rcases List.mem_append.mp there with before | now
          · exact .inl before
          · rw [List.mem_singleton.mp now]
            exact .inr ⟨rfl, needs⟩
      refine ⟨fun entry there => ?_, fun entry there other asked => ?_⟩
      · rcases sorts entry there with before | ⟨new, -⟩
        · exact Nat.lt_succ_of_lt (vouched.asked entry before)
        · rw [new]
          exact Nat.lt_succ_self _
      · rcases List.mem_append.mp asked with earlier | now
        · rcases sorts entry there with before | ⟨new, -⟩
          · exact (vouched.idle entry before other earlier).step routed
              (routed.asked _ earlier).1 stepped
          · have less := (routed.asked _ earlier).2
            rw [new] at less
            exact absurd less (Nat.lt_irrefl _)
        · obtain ⟨rfl, ticket⟩ := Prod.mk.inj (List.mem_singleton.mp now)
          rcases sorts entry there with before | ⟨-, needs⟩
          · have less := vouched.asked entry before
            rw [ticket] at less
            exact absurd less (Nat.lt_irrefl _)
          · exact (idle_of_needsNothing ran needs).step routed known stepped

theorem vouched_run
    (ran : events.foldlM step? (.start settings) = some final) :
    final.Vouched := by
  induction ran using foldlM_induction with
  | none => exact ⟨fun _ => nofun, fun _ => nofun⟩
  | snoc events event between final before stepped ih => exact ih.step before stepped

end Usage

end LineProtocol
