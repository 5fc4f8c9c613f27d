import LineProtocol.Proofs.Engine.Turns

/-!
# What a worker makes of an act

Beside turns, an act can bring a connection or resume one.  `changes_step` lists
all that an act can make of the view of a connection, `leaves_step` and
`queue_step` what becomes of the rest of the worker, and `stopped_step` when
nothing is looked after any more.  Whoever reasons about histories opens these and
none of the worker's functions.
-/

namespace LineProtocol

namespace Worker

open View (Goes)

variable
  {worker : Worker}
  {farewell : ChannelId → List SocketAnswer}
  {id : ChannelId}
  {slot : Slot}

/-! ## Commands -/

/-- A paused connection is resumed, or the worker goes on. -/
theorem resume_cases
    (worker : Worker)
    (id : ChannelId)
    (registration : Except String Unit)
    (arrivals : List Arrival) :
    Continues worker (worker.resume farewell id registration arrivals) ∨
      ∃ slot,
        worker.slots.find? id = some slot ∧ slot.phase = .paused ∧
          Continues (worker.alterSlot id { slot with phase := .active })
            (worker.resume farewell id registration arrivals) := by
  rw [resume]
  split
  · exact .inl (.refl worker)
  · rename_i slot there
    split
    · rename_i paused
      cases registration with
      | error reason =>
          exact .inl (continues_fail (by simp [view_of_slot there, paused]) reason)
      | ok _ => exact .inr ⟨slot, there, paused, continues_readAvailable _ id arrivals⟩
    · exact .inl (.refl worker)

/-- A request to close is settled behind what it asks for. -/
theorem close_cases
    (worker : Worker)
    (id : ChannelId)
    (ticket : Ticket)
    (deregistration : Except String Unit) :
    ∃ between receipt,
      worker.close farewell id ticket deregistration = between.settle ticket receipt ∧
        Continues worker between := by
  rw [close]
  split
  · refine ⟨_, _, rfl, fun _ => .refl _, fun _ => .inl, fun other there => ?_, rfl, rfl, rfl⟩
    exact (List.mem_filter.mp there).1
  · split
    · exact ⟨_, _, rfl, .refl worker⟩
    · exact ⟨_, _, rfl, continues_closeSlot worker farewell id⟩

/-- A worker that gives a command up settles a request to close, or does nothing. -/
theorem discard_frame
    (worker : Worker)
    (command : Command) :
    ∃ settled, worker.discard command = { worker with settled } := by
  cases command with
  | close id ticket => exact ⟨_, rfl⟩
  | _ => exact ⟨_, rfl⟩

theorem foldl_discard_frame
    (worker : Worker)
    (commands : List Command) :
    ∃ settled, commands.foldl discard worker = { worker with settled } := by
  induction commands generalizing worker with
  | nil => exact ⟨_, rfl⟩
  | cons command commands ih =>
      obtain ⟨first, given⟩ := discard_frame worker command
      obtain ⟨settled, rest⟩ := ih (worker.discard command)
      refine ⟨settled, rest.trans ?_⟩
      rw [given]

/-- Nobody hears of commands that are given up. -/
theorem view_discard
    (worker : Worker)
    (command : Command)
    (id : ChannelId) :
    (worker.discard command).view id = worker.view id := by
  obtain ⟨settled, given⟩ := discard_frame worker command
  rw [given]
  rfl

theorem view_foldl_discard
    (worker : Worker)
    (commands : List Command)
    (id : ChannelId) :
    (commands.foldl discard worker).view id = worker.view id := by
  obtain ⟨settled, given⟩ := foldl_discard_frame worker commands
  rw [given]
  rfl

theorem continues_foldl_closeSlot
    (worker : Worker)
    (farewell : ChannelId → List SocketAnswer)
    (ids : List ChannelId) :
    Continues worker (ids.foldl (closeSlot farewell) worker) := by
  induction ids generalizing worker with
  | nil => exact .refl worker
  | cons id ids ih => exact (continues_closeSlot worker farewell id).trans (ih _)

theorem continues_closeAll
    (worker : Worker)
    (farewell : ChannelId → List SocketAnswer) :
    Continues worker (worker.closeAll farewell) := by
  have closed := continues_foldl_closeSlot worker farewell (worker.slots.entries.map (·.1))
  exact ⟨closed.goes, closed.handles, fun _ => nofun, closed.queue, closed.stage,
    closed.settled⟩

/-! ## Acts -/

/-- The commands that a worker deals with in an act. -/
def dealt (worker : Worker) : Act → List Command
  | .advance _ => worker.deals
  | _ => []

/-- The command that joins the queue in an act. -/
def received
    (worker : Worker)
    (act : Act) :
    List Command :=
  if worker.stage = .ended then [] else act.command?.toList

/-- The command that finds no queue in an act. -/
def turnedAway
    (worker : Worker)
    (act : Act) :
    List Command :=
  if worker.stage = .ended then act.command?.toList else []

/-- All that an act can make of the view of a connection. -/
inductive Changes
    (worker : Worker)
    (id : ChannelId) :
    Act → View → Prop where
  | goes {act after} :
      Goes (worker.view id) after → Changes worker id act after
  | connects {surroundings} :
      worker.takes? = some (.connect id) →
        Changes worker id (.advance surroundings) ⟨some .connecting, worker.told id⟩
  | refused {act} (reason : String) :
      .connect id ∈ worker.dealt act ++ worker.turnedAway act →
        Changes worker id act
          ⟨(worker.view id).phase?, worker.told id ++ [.connectFailed reason]⟩
  | adopted {surroundings} :
      worker.takes? = some (.adopt id) →
        surroundings.registration = .ok () →
          Changes worker id (.advance surroundings)
            ⟨some .paused, worker.told id ++ [.established]⟩
  | lost {surroundings} (reason : String) :
      worker.takes? = some (.adopt id) →
        surroundings.registration = .error reason →
          Changes worker id (.advance surroundings)
            ⟨(worker.view id).phase?, worker.told id ++ [.errored reason, .closed]⟩
  | resumed {surroundings after} :
      worker.takes? = some (.resume id) →
        (worker.view id).phase? = some .paused →
          Goes ⟨some .active, worker.told id⟩ after →
            Changes worker id (.advance surroundings) after

/-- What was told stays told. -/
theorem Changes.prefix_told
    {act : Act}
    {after : View}
    (changes : Changes worker id act after) :
    worker.told id <+: after.told := by
  cases changes with
  | goes goes => exact goes.prefix_told
  | connects takes => exact List.prefix_rfl
  | refused reason there => exact List.prefix_append _ _
  | adopted takes registered => exact List.prefix_append _ _
  | lost reason takes registered => exact List.prefix_append _ _
  | resumed takes paused goes => exact goes.prefix_told

/-- Nothing changes. -/
theorem Changes.same
    {act : Act}
    {after : View}
    (same : after = worker.view id) :
    Changes worker id act after :=
  .goes (same ▸ .refl _)

theorem takes?_of_queue
    {command : Command}
    {rest : List Command}
    (running : worker.stage = .running)
    (queue : worker.queue = command :: rest) :
    worker.takes? = some command := by
  rw [takes?, if_pos running, queue, List.head?_cons]

theorem mem_deals_of_takes?
    {command : Command}
    (takes : worker.takes? = some command) :
    command ∈ worker.deals := by
  rw [takes?] at takes
  split at takes
  · rename_i running
    obtain ⟨rest, queue⟩ := List.head?_eq_some_iff.mp takes
    simp [deals, running, queue]
  · cases takes

theorem changes_perform
    {command : Command}
    {rest : List Command}
    (running : worker.stage = .running)
    (queue : worker.queue = command :: rest)
    (surroundings : Surroundings)
    (id : ChannelId) :
    Changes worker id (.advance surroundings)
      ((perform { worker with queue := rest } surroundings command).view id) := by
  have takes := takes?_of_queue running queue
  cases command with
  | connect other =>
      rw [perform]
      cases surroundings.attempt with
      | ok _ =>
          rw [connect, view_install]
          split
          · rename_i mine
            subst mine
            exact .connects takes
          · exact .same rfl
      | error reason =>
          rw [connect, view_refuse]
          split
          · rename_i mine
            subst mine
            exact .refused reason (List.mem_append_left _ (mem_deals_of_takes? takes))
          · exact .same rfl
  | adopt other =>
      rw [perform]
      cases registered : surroundings.registration with
      | ok _ =>
          rw [adopt, view_install, told_tell, if_pos rfl, view_tell]
          split
          · rename_i mine
            subst mine
            exact .adopted takes registered
          · rw [List.append_nil]
            exact .same rfl
      | error reason =>
          rw [adopt, view_tell, told_tell]
          split
          · rename_i mine
            subst mine
            rw [List.append_assoc]
            exact .lost reason takes registered
          · rw [List.append_nil, List.append_nil]
            exact .same rfl
  | listen other =>
      rw [perform]
      cases surroundings.registration with
      | ok _ => exact .same rfl
      | error reason => exact .same rfl
  | write other bytes =>
      exact .goes ((continues_write { worker with queue := rest } other bytes _).goes id)
  | resume other =>
      rw [perform]
      rcases resume_cases { worker with queue := rest } other surroundings.registration
          surroundings.arrivals with continues | ⟨slot, there, paused, continues⟩
      · exact .goes (continues.goes id)
      · have goes := continues.goes id
        rw [view_alterSlot] at goes
        by_cases mine : id = other
        · subst mine
          rw [if_pos rfl] at goes
          refine .resumed takes ?_ goes
          have found : worker.slots.find? id = some slot := there
          rw [view_of_slot found, paused]
        · rw [if_neg mine] at goes
          exact .goes goes
  | close other ticket =>
      obtain ⟨between, receipt, settles, continues⟩ :=
        close_cases { worker with queue := rest } other ticket surroundings.deregistration
      rw [perform, settles]
      exact .goes (continues.goes id)
  | shutdown => exact .same rfl

theorem changes_step
    (worker : Worker)
    (act : Act)
    (id : ChannelId) :
    Changes worker id act ((worker.step act).view id) := by
  cases act with
  | pin other peer => exact .same rfl
  | ask other => exact .same rfl
  | send command =>
      have sent : ∀ command, ((worker.send command).2).view id = worker.view id := by
        intro command
        rw [send]
        split
        · rfl
        · rfl
      cases command with
      | connect other =>
          rw [step]
          split
          · rename_i ended
            rw [view_refuse]
            split
            · rename_i mine
              subst mine
              exact .refused _ (by simp [turnedAway, ended, Act.command?])
            · exact .same rfl
          · exact .same (sent _)
      | _ => exact .same (sent _)
  | advance surroundings =>
      rw [step, advance]
      split
      · exact .same rfl
      · rename_i command rest running queue
        exact changes_perform running queue surroundings id
      · exact .goes ((continues_closeAll worker surroundings.farewell).goes id)
      · exact .same rfl
      · rename_i command rest draining queue
        cases command with
        | connect other =>
            rw [decline, view_refuse]
            split
            · rename_i mine
              subst mine
              exact .refused _ (by simp [dealt, deals, draining, queue])
            · exact .same rfl
        | _ => exact .same (view_discard { worker with queue := rest } _ id)
      · exact .same (view_foldl_discard _ _ id)
      · exact .same rfl
  | event other readiness =>
      rw [step]
      split
      · exact .goes ((continues_event worker other readiness).goes id)
      · exact .same rfl
  | stumble listener reason =>
      rw [step]
      split
      · exact .same rfl
      · exact .same rfl
  | breakDown =>
      rw [step, breakDown]
      split
      · exact .same rfl
      · exact .same rfl

/-! ## What else an act leaves -/

/-- What dealing with commands leaves alone, and what it adds. -/
structure Leaves
    (before : Worker)
    (commands : List Command)
    (after : Worker) : Prop where
  listeners : ∀ id ∈ after.listeners, id ∈ before.listeners ∨ .listen id ∈ commands
  settled :
    ∀ entry ∈ after.settled, entry ∈ before.settled ∨ ∃ id, .close id entry.1 ∈ commands
  handles : ∀ id, after.HandleClosed id → before.HandleClosed id ∨ (after.view id).Ended

/-- The same of one part of a step, which leaves the queue as it is. -/
structure Performs
    (before : Worker)
    (commands : List Command)
    (after : Worker) : Prop extends
    Leaves before commands after where
  queue : after.queue = before.queue
  stage : after.stage = before.stage ∨ after.stage = .closing

theorem Continues.performs
    {before after : Worker}
    (continues : Continues before after)
    (commands : List Command) :
    Performs before commands after where
  listeners id there := .inl (continues.listeners id there)
  settled _ there := .inl (continues.settled ▸ there)
  handles := continues.handles
  queue := continues.queue
  stage := .inl continues.stage

/-- Where the worker is in its life does not matter. -/
theorem Leaves.of_waiting
    {queue : List Command}
    {stage : Stage}
    {commands : List Command}
    {after : Worker}
    (leaves : Leaves { worker with queue, stage } commands after) :
    Leaves worker commands after :=
  ⟨leaves.listeners, leaves.settled, leaves.handles⟩

theorem performs_refuse
    (worker : Worker)
    (id : ChannelId)
    (reason : String)
    (commands : List Command) :
    Performs worker commands (worker.refuse id reason) where
  listeners _ := .inl
  settled _ := .inl
  handles other closed := by
    rcases handleClosed_of_alter closed with before | mine
    · exact .inl before
    · rw [view_refuse, if_pos mine]
      exact .inr ⟨.connectFailed reason, by simp, rfl⟩
  queue := rfl
  stage := .inl rfl

theorem performs_adopt
    (worker : Worker)
    (id : ChannelId)
    (registration : Except String Unit)
    (commands : List Command) :
    Performs worker commands (worker.adopt id registration) := by
  cases registration with
  | ok _ =>
      exact ⟨⟨fun _ => .inl, fun _ => .inl, fun _ closed =>
        .inl (handleClosed_of_alter_open isClosed_of_markOpen closed)⟩, rfl, .inl rfl⟩
  | error reason =>
      refine ⟨⟨fun _ => .inl, fun _ => .inl, fun other closed => ?_⟩, rfl, .inl rfl⟩
      rcases handleClosed_of_alter closed with before | mine
      · exact .inl before
      · rw [adopt, view_tell, if_pos mine]
        exact .inr ⟨.closed, by simp, rfl⟩

theorem performs_listen
    (worker : Worker)
    (id : ChannelId)
    (registration : Except String Unit) :
    Performs worker [.listen id] (worker.listen id registration) := by
  cases registration with
  | ok _ =>
      refine ⟨⟨fun other there => ?_, fun _ => .inl, fun _ => .inl⟩, rfl, .inl rfl⟩
      rcases List.mem_append.mp there with earlier | new
      · exact .inl earlier
      · rw [List.mem_singleton.mp new]
        exact .inr (List.mem_singleton_self _)
  | error reason => exact ⟨⟨fun _ => .inl, fun _ => .inl, fun _ => .inl⟩, rfl, .inl rfl⟩

/-- A request to close is settled, and nothing else of the worker changes. -/
theorem performs_settle
    {between : Worker}
    {commands : List Command}
    (performs : Performs worker commands between)
    {ticket : Ticket}
    (closes : .close id ticket ∈ commands)
    (receipt : Receipt) :
    Performs worker commands (between.settle ticket receipt) where
  listeners := performs.listeners
  settled entry there := by
    rcases List.mem_append.mp there with earlier | new
    · exact performs.settled entry earlier
    · rw [List.mem_singleton.mp new]
      exact .inr ⟨id, closes⟩
  handles := performs.handles
  queue := performs.queue
  stage := performs.stage

theorem performs_discard
    (worker : Worker)
    (command : Command) :
    Performs worker [command] (worker.discard command) := by
  have same : Performs worker [command] worker := (Continues.refl worker).performs _
  cases command with
  | close id ticket => exact performs_settle same (List.mem_singleton_self _) _
  | _ => exact same

theorem performs_foldl_discard
    (worker : Worker)
    (commands : List Command) :
    Performs worker commands (commands.foldl discard worker) := by
  induction commands generalizing worker with
  | nil => exact (Continues.refl worker).performs _
  | cons command commands ih =>
      have first := performs_discard worker command
      have rest := ih (worker.discard command)
      refine ⟨⟨fun id there => ?_, fun entry there => ?_, fun id closed => ?_⟩,
        rest.queue.trans first.queue, ?_⟩
      · rcases rest.listeners id there with earlier | listens
        · rcases first.listeners id earlier with before | listens
          · exact .inl before
          · rw [List.mem_singleton.mp listens]
            exact .inr List.mem_cons_self
        · exact .inr (List.mem_cons_of_mem _ listens)
      · rcases rest.settled entry there with earlier | ⟨id, closes⟩
        · rcases first.settled entry earlier with before | ⟨id, closes⟩
          · exact .inl before
          · rw [← List.mem_singleton.mp closes]
            exact .inr ⟨id, List.mem_cons_self⟩
        · exact .inr ⟨id, List.mem_cons_of_mem _ closes⟩
      · rcases rest.handles id closed with earlier | ended
        · rcases first.handles id earlier with before | ended
          · exact .inl before
          · rw [List.foldl_cons, view_foldl_discard]
            exact .inr ended
        · exact .inr ended
      · rcases rest.stage with same | closing
        · rw [List.foldl_cons, same]
          exact first.stage
        · exact .inr closing

theorem performs_perform
    (worker : Worker)
    (surroundings : Surroundings)
    (command : Command) :
    Performs worker [command] (worker.perform surroundings command) := by
  cases command with
  | connect id =>
      rw [perform]
      cases surroundings.attempt with
      | ok _ => exact ⟨⟨fun _ => .inl, fun _ => .inl, fun _ => .inl⟩, rfl, .inl rfl⟩
      | error reason => exact performs_refuse worker id reason _
  | adopt id => exact performs_adopt worker id _ _
  | listen id => exact performs_listen worker id _
  | write id bytes => exact (continues_write worker id bytes _).performs _
  | resume id =>
      rw [perform]
      rcases resume_cases worker id surroundings.registration surroundings.arrivals with
        continues | ⟨slot, -, -, continues⟩
      · exact continues.performs _
      · have performs := continues.performs [.resume id]
        exact ⟨⟨performs.listeners, performs.settled, performs.handles⟩, performs.queue,
          performs.stage⟩
  | close id ticket =>
      obtain ⟨between, receipt, settles, continues⟩ :=
        close_cases worker id ticket surroundings.deregistration
      rw [perform, settles]
      exact performs_settle (continues.performs _) (List.mem_singleton_self _) receipt
  | shutdown => exact ⟨⟨fun _ => .inl, fun _ => .inl, fun _ => .inl⟩, rfl, .inr rfl⟩

theorem performs_decline
    (worker : Worker)
    (command : Command) :
    Performs worker [command] (worker.decline command) := by
  cases command with
  | connect id => exact performs_refuse worker id _ _
  | _ => exact performs_discard worker _

theorem leaves_step
    (worker : Worker)
    (act : Act) :
    Leaves worker (worker.dealt act) (worker.step act) := by
  have same : Leaves worker (worker.dealt act) worker :=
    ((Continues.refl worker).performs _).toLeaves
  cases act with
  | pin id peer =>
      refine ⟨fun _ => .inl, fun _ => .inl, fun other closed => ?_⟩
      obtain ⟨channel, found, shut⟩ := closed
      rw [step, Table.find?_insert] at found
      split at found
      · obtain rfl := Option.some.inj found
        cases shut
      · exact .inl ⟨channel, found, shut⟩
  | ask id =>
      exact ⟨fun _ => .inl, fun _ => .inl, fun _ closed =>
        .inl (handleClosed_of_alter_open isClosed_of_beginClose closed)⟩
  | send command =>
      have sent : ∀ command, Leaves worker [] (worker.send command).2 := by
        intro command
        rw [send]
        split
        · exact same
        · exact ⟨fun _ => .inl, fun _ => .inl, fun _ => .inl⟩
      cases command with
      | connect id =>
          rw [step]
          split
          · exact (performs_refuse worker id _ _).toLeaves
          · exact sent _
      | _ => exact sent _
  | advance surroundings =>
      rw [step, advance]
      split
      · exact same
      · rename_i command rest running queue
        have deals : worker.deals = [command] := by simp [deals, running, queue]
        rw [dealt, deals]
        have performs := performs_perform { worker with queue := rest } surroundings command
        exact performs.toLeaves.of_waiting
      · have continues := continues_closeAll worker surroundings.farewell
        have performs := continues.performs worker.deals
        exact ⟨performs.listeners, performs.settled, performs.handles⟩
      · exact ⟨fun _ => .inl, fun _ => .inl, fun _ => .inl⟩
      · rename_i command rest draining queue
        have deals : worker.deals = [command] := by simp [deals, draining, queue]
        rw [dealt, deals]
        exact (performs_decline { worker with queue := rest } command).toLeaves.of_waiting
      · rename_i drained
        have deals : worker.deals = worker.queue := by simp [deals, drained]
        rw [dealt, deals]
        have performs :=
          performs_foldl_discard { worker with queue := [], stage := .ended } worker.queue
        exact performs.toLeaves.of_waiting
      · exact same
  | event id readiness =>
      rw [step]
      split
      · exact ((continues_event worker id readiness).performs _).toLeaves
      · exact same
  | stumble listener reason =>
      rw [step]
      split
      · exact ⟨fun _ => .inl, fun _ => .inl, fun _ => .inl⟩
      · exact same
  | breakDown =>
      rw [step, breakDown]
      split
      · exact ⟨fun _ => .inl, fun _ => .inl, fun _ => .inl⟩
      · exact same

/-! ## The queue -/

theorem queue_advance
    (worker : Worker)
    (surroundings : Surroundings) :
    worker.queue = worker.deals ++ (worker.advance surroundings).queue := by
  rw [advance]
  split
  · rename_i running queue
    simp [deals, running, queue]
  · rename_i command rest running queue
    rw [(performs_perform _ _ _).queue]
    simp [deals, running, queue]
  · rename_i closing
    simpa [deals, closing] using (continues_closeAll worker surroundings.farewell).queue.symm
  · rename_i draining queue
    simp [deals, draining, queue]
  · rename_i command rest draining queue
    rw [(performs_decline _ _).queue]
    simp [deals, draining, queue]
  · rename_i drained
    rw [(performs_foldl_discard _ _).queue]
    simp [deals, drained]
  · rename_i ended
    simp [deals, ended]

theorem queue_send
    (worker : Worker)
    (command : Command) :
    (worker.send command).2.queue =
      worker.queue ++ if worker.stage = .ended then [] else [command] := by
  rw [send]
  split
  · simp
  · rfl

/-- Whatever waits or is sent is dealt with or waits behind that. -/
theorem queue_step
    (worker : Worker)
    (act : Act) :
    worker.queue ++ worker.received act = worker.dealt act ++ (worker.step act).queue := by
  rw [received]
  cases act with
  | pin id peer => simp [Act.command?, dealt, step]
  | ask id => simp [Act.command?, dealt, step, alter]
  | send command =>
      have sent := (queue_send worker command).symm
      cases command with
      | connect id =>
          rw [step]
          split
          · simp [dealt, refuse, alter, tell]
          · rename_i there
            rw [if_neg there] at sent
            exact sent
      | _ => exact sent
  | advance surroundings =>
      simpa [Act.command?, dealt, step] using queue_advance worker surroundings
  | event id readiness =>
      have same : (worker.step (.event id readiness)).queue = worker.queue := by
        rw [step]
        split
        · exact (continues_event worker id readiness).queue
        · rfl
      simp [Act.command?, dealt, same]
  | stumble listener reason =>
      have same : (worker.step (.stumble listener reason)).queue = worker.queue := by
        rw [step]
        split
        · rfl
        · rfl
      simp [Act.command?, dealt, same]
  | breakDown =>
      have same : (worker.step .breakDown).queue = worker.queue := by
        rw [step, breakDown]
        split
        · rfl
        · rfl
      simp [Act.command?, dealt, same]

/-! ## The end -/

/-- The worker has closed everything. -/
def Stopped (worker : Worker) : Prop :=
  worker.stage = .draining ∨ worker.stage = .drained ∨ worker.stage = .ended

theorem gone_closeSlot
    (worker : Worker)
    (farewell : ChannelId → List SocketAnswer)
    (id : ChannelId) :
    ((worker.closeSlot farewell id).view id).phase? = none := by
  cases there : worker.slots.find? id with
  | none =>
      rw [closeSlot, there, view, there]
      rfl
  | some slot => rw [view_closeSlot there, if_pos rfl]

theorem gone_foldl_closeSlot
    (worker : Worker)
    (farewell : ChannelId → List SocketAnswer)
    (ids : List ChannelId)
    {id : ChannelId}
    (there : id ∈ ids) :
    ((ids.foldl (closeSlot farewell) worker).view id).phase? = none := by
  induction ids generalizing worker with
  | nil => cases there
  | cons first ids ih =>
      rw [List.foldl_cons]
      rcases List.mem_cons.mp there with rfl | later
      · have gone := gone_closeSlot worker farewell id
        rwa [((continues_foldl_closeSlot _ farewell ids).goes id).eq_of_gone gone]
      · exact ih _ later

/-- Nothing is looked after any more when everything was closed. -/
theorem gone_closeAll
    (worker : Worker)
    (farewell : ChannelId → List SocketAnswer)
    (id : ChannelId) :
    ((worker.closeAll farewell).view id).phase? = none := by
  have whole :
      (worker.closeAll farewell).view id =
        ((worker.slots.entries.map (·.1)).foldl (closeSlot farewell) worker).view id :=
    rfl
  rw [whole]
  by_cases there : id ∈ worker.slots.entries.map (·.1)
  · exact gone_foldl_closeSlot worker farewell _ there
  · have gone : (worker.view id).phase? = none := by
      rw [view, Option.map_eq_none_iff, Table.find?, Option.map_eq_none_iff,
        List.find?_eq_none]
      intro entry listed same
      exact there (List.mem_map.mpr ⟨entry, listed, of_decide_eq_true same⟩)
    rwa [((continues_foldl_closeSlot worker farewell _).goes id).eq_of_gone gone]

/-- Apart from its own steps a worker can only stop to run. -/
theorem stage_step_of_not_advance
    (worker : Worker)
    {act : Act}
    (other : ∀ surroundings, act ≠ .advance surroundings) :
    (worker.step act).stage = worker.stage ∨
      (worker.stage = .running ∧ (worker.step act).stage = .closing) := by
  cases act with
  | pin id peer => exact .inl rfl
  | ask id => exact .inl rfl
  | send command =>
      have sent : ∀ command, ((worker.send command).2).stage = worker.stage := by
        intro command
        rw [send]
        split
        · rfl
        · rfl
      cases command with
      | connect id =>
          rw [step]
          split
          · exact .inl rfl
          · exact .inl (sent _)
      | _ => exact .inl (sent _)
  | advance surroundings => exact absurd rfl (other surroundings)
  | event id readiness =>
      rw [step]
      split
      · exact .inl (continues_event worker id readiness).stage
      · exact .inl rfl
  | stumble listener reason =>
      rw [step]
      split
      · exact .inl rfl
      · exact .inl rfl
  | breakDown =>
      rw [step, breakDown]
      split
      · rename_i running
        exact .inr ⟨running, rfl⟩
      · exact .inl rfl

/-- A running worker goes on running or begins to stop. -/
theorem stage_advance_of_running
    (running : worker.stage = .running)
    (surroundings : Surroundings) :
    (worker.advance surroundings).stage = .running ∨
      (worker.advance surroundings).stage = .closing := by
  rw [advance, running]
  cases queue : worker.queue with
  | nil => exact .inl running
  | cons command rest => exact (performs_perform _ _ _).stage

/-- A worker that finds a command while it empties its queue goes on with that. -/
theorem stage_advance_of_draining
    (draining : worker.stage = .draining)
    {command : Command}
    {rest : List Command}
    (queue : worker.queue = command :: rest)
    (surroundings : Surroundings) :
    (worker.advance surroundings).stage = .draining ∨
      (worker.advance surroundings).stage = .closing := by
  rw [advance, draining, queue]
  exact (performs_decline _ _).stage

/-- Whoever has stopped had stopped before or has just closed everything. -/
theorem stopped_step
    (worker : Worker)
    (act : Act)
    (stopped : (worker.step act).Stopped) :
    worker.Stopped ∨ ∀ id, ((worker.step act).view id).phase? = none := by
  have not_closing : (worker.step act).stage ≠ .closing := by
    intro closing
    rw [Stopped, closing] at stopped
    simp at stopped
  by_cases own : ∃ surroundings, act = .advance surroundings
  · obtain ⟨surroundings, rfl⟩ := own
    rw [step] at stopped not_closing ⊢
    cases stage : worker.stage with
    | running =>
        rcases stage_advance_of_running stage surroundings with running | closing
        · rw [Stopped, running] at stopped
          simp at stopped
        · exact absurd closing not_closing
    | closing =>
        refine .inr fun id => ?_
        rw [advance, stage]
        exact gone_closeAll worker surroundings.farewell id
    | draining => exact .inl (.inl stage)
    | drained => exact .inl (.inr (.inl stage))
    | ended => exact .inl (.inr (.inr stage))
  · rcases stage_step_of_not_advance worker fun surroundings same => own ⟨surroundings, same⟩
      with same | ⟨-, closing⟩
    · rw [Stopped, same] at stopped
      exact .inl stopped
    · exact absurd closing not_closing

end Worker

end LineProtocol
