import LineProtocol.Engine.Usage
import LineProtocol.Proofs.Engine.Closing
import LineProtocol.Proofs.Run

/-!
# What reaches which worker

Each event on an engine is a few acts on each of its workers, mostly none.  So a run
of the engine gives each worker a history, its `journal`, and every worker is
where its journal leads (`workers_of_run`).
-/

namespace LineProtocol

namespace Engine

open Worker (Act)

/-- Acts on one worker. -/
def onWorker
    (index : Nat)
    (acts : List Act)
    (other : Nat) :
    List Act :=
  if other = index then acts else []

theorem onWorker_append
    (index : Nat)
    (earlier later : List Act)
    (other : Nat) :
    onWorker index earlier other ++ onWorker index later other =
      onWorker index (earlier ++ later) other := by
  rw [onWorker, onWorker, onWorker]
  split
  · rfl
  · rfl

/-- From one engine to another each worker goes through some acts. -/
def Does
    (before after : Engine)
    (acts : Nat → List Act) :
    Prop :=
  ∀ index,
    after.workers[index]? =
      before.workers[index]?.map fun (worker : Worker) => worker.after (acts index)

variable
  {engine : Engine}

theorem does_of_workers
    {before after : Engine}
    (same : after.workers = before.workers) :
    Does before after fun _ => [] := by
  intro index
  rw [same]
  exact Option.map_id'.symm

theorem Does.trans
    {first second third : Engine}
    {earlier later : Nat → List Act}
    (does : Does first second earlier)
    (further : Does second third later) :
    Does first third fun index => earlier index ++ later index := by
  intro index
  rw [further index, does index, Option.map_map]
  congr 1
  funext worker
  exact (Worker.after_append worker _ _).symm

theorem Does.congr
    {before after : Engine}
    {acts others : Nat → List Act}
    (does : Does before after acts)
    (same : ∀ index, acts index = others index) :
    Does before after others := by
  intro index
  rw [← same]
  exact does index

theorem getElem?_alterWorker
    (engine : Engine)
    (index other : Nat)
    (change : Worker → Worker) :
    (engine.alterWorker index change).workers[other]? =
      engine.workers[other]?.map fun worker =>
        if other = index then change worker else worker := by
  rw [alterWorker, List.getElem?_modify]
  by_cases mine : other = index
  · simp [mine]
  · have elsewhere : index ≠ other := fun same => mine same.symm
    simp [mine, elsewhere]

/-- A change of one worker that comes to acts on it. -/
theorem does_alterWorker
    (engine : Engine)
    (index : Nat)
    {change : Worker → Worker}
    (acts : List Act)
    (comes : ∀ worker, change worker = worker.after acts) :
    Does engine (engine.alterWorker index change) (onWorker index acts) := by
  intro other
  rw [getElem?_alterWorker, onWorker]
  by_cases mine : other = index
  · simp only [if_pos mine, comes]
  · simp only [if_neg mine]
    rfl

theorem workers_send
    (engine : Engine)
    (index other : Nat)
    (command : Command) :
    (engine.send index command).2.workers[other]? =
      engine.workers[other]?.map fun worker =>
        if other = index then (worker.send command).2 else worker := by
  rw [send]
  cases there : engine.workers[index]? with
  | none =>
      by_cases mine : other = index
      · simp [mine, there]
      · simp [mine]
  | some worker =>
      show (engine.alterWorker index fun _ => (worker.send command).2).workers[other]? = _
      rw [getElem?_alterWorker]
      by_cases mine : other = index
      · simp [mine, there]
      · simp [mine]

theorem sent_eq
    (engine : Engine)
    (index : Nat)
    (command : Command) :
    (engine.send index command).1 =
      engine.workers[index]?.any fun worker => worker.stage ≠ .ended := by
  rw [send]
  cases engine.workers[index]? with
  | none => rfl
  | some worker =>
      show (worker.send command).1 = decide (worker.stage ≠ .ended)
      rw [Worker.send]
      split
      · rename_i ended
        simp [ended]
      · rename_i there
        simp [there]

/-- Sending is an act on one worker, connects apart. -/
theorem does_send
    (engine : Engine)
    (index : Nat)
    {command : Command}
    (plain : ∀ id, command ≠ .connect id) :
    Does engine (engine.send index command).2 (onWorker index [.send command]) := by
  intro other
  rw [workers_send, onWorker]
  by_cases mine : other = index
  · simp only [if_pos mine]
    cases command with
    | connect id => exact absurd rfl (plain id)
    | _ => rfl
  · simp only [if_neg mine]
    rfl

/-- A command to connect is sent, or its connection is refused on the spot. -/
theorem does_sendConnect
    (engine : Engine)
    (index : Nat)
    (id : ChannelId) :
    Does engine
      (match engine.send index (.connect id) with
        | (true, engine) => (id, engine)
        | (false, engine) =>
            (id, engine.alterWorker index (·.refuse id Worker.stoppedReason))).2
      (onWorker index [.send (.connect id)]) := by
  intro other
  rw [onWorker]
  have sent := sent_eq engine index (.connect id)
  have left := workers_send engine index other (.connect id)
  generalize engine.send index (.connect id) = outcome at sent left
  obtain ⟨flag, after⟩ := outcome
  dsimp only at sent left
  by_cases mine : other = index
  · subst mine
    cases there : engine.workers[other]? with
    | none =>
        rw [there] at sent left
        subst sent
        dsimp only [Option.any_none]
        rw [getElem?_alterWorker, left]
        rfl
    | some worker =>
        rw [there] at sent left
        simp only [Option.any_some] at sent
        by_cases ended : worker.stage = .ended
        · obtain rfl : flag = false := by simp [sent, ended]
          dsimp only
          rw [getElem?_alterWorker, left]
          simp [Worker.after, Worker.step, Worker.send, ended]
        · obtain rfl : flag = true := by simp [sent, ended]
          dsimp only
          rw [left]
          simp [Worker.after, Worker.step, ended]
  · have same : after.workers[other]? = engine.workers[other]? := by
      rw [left]
      simp [mine]
    cases flag with
    | true => simpa [mine, Worker.after] using same
    | false =>
        dsimp only
        rw [getElem?_alterWorker, same]
        simp [mine, Worker.after]

/-! ## Requests -/

/-- An engine that has given out a new number. -/
def numbered
    (engine : Engine)
    (workers : List Worker) :
    Engine :=
  { engine with
    workers
    picked := engine.picked + 1
    nextId := engine.nextId + 1
    homes := engine.homes.insert ⟨engine.nextId⟩ engine.pick.1 }

theorem does_numbered (engine : Engine) :
    Does engine (engine.numbered engine.workers) fun _ => [] :=
  does_of_workers rfl

theorem does_addChannel
    (engine : Engine)
    (index : Nat)
    (id : ChannelId)
    (peer : Option SocketAddress) :
    Does engine (engine.addChannel index { id, peer }) (onWorker index [.pin id peer]) :=
  does_alterWorker engine index _ fun _ => rfl

/-- Connecting gives out a handle and sends one command. -/
theorem connect_eq
    (engine : Engine)
    (address : SocketAddress) :
    engine.connect address =
      match
        ((engine.numbered engine.workers).addChannel engine.pick.1
          { id := ⟨engine.nextId⟩, peer := some address }).send engine.pick.1
            (.connect ⟨engine.nextId⟩) with
      | (true, sent) => (⟨engine.nextId⟩, sent)
      | (false, sent) =>
          (⟨engine.nextId⟩,
            sent.alterWorker engine.pick.1 (·.refuse ⟨engine.nextId⟩ Worker.stoppedReason)) :=
  rfl

theorem does_connect
    (engine : Engine)
    (address : SocketAddress) :
    Does engine (engine.connect address).2
      (onWorker engine.pick.1
        [.pin ⟨engine.nextId⟩ (some address), .send (.connect ⟨engine.nextId⟩)]) := by
  have pinned := does_addChannel (engine.numbered engine.workers) engine.pick.1
    ⟨engine.nextId⟩ (some address)
  have whole := (does_numbered engine).trans
    (pinned.trans (does_sendConnect _ engine.pick.1 ⟨engine.nextId⟩))
  exact whole.congr fun index => onWorker_append _ _ _ index

/-- Binding sends one command, and the answer says whether it was taken. -/
theorem bind_eq
    (engine : Engine)
    (address : SocketAddress) :
    engine.bind address =
      match
        (engine.numbered engine.workers).send engine.pick.1 (.listen ⟨engine.nextId⟩) with
      | (true, sent) => (.ok { id := ⟨engine.nextId⟩, address }, sent)
      | (false, sent) => (.error Worker.stoppedReason, sent) :=
  rfl

theorem does_bind
    (engine : Engine)
    (address : SocketAddress) :
    Does engine (engine.bind address).2
      (onWorker engine.pick.1 [.send (.listen ⟨engine.nextId⟩)]) := by
  have sent : Does (engine.numbered engine.workers) _ _ :=
    does_send (engine.numbered engine.workers) engine.pick.1
      (show ∀ id, .listen ⟨engine.nextId⟩ ≠ Command.connect id from fun _ => nofun)
  rw [bind_eq]
  generalize (engine.numbered engine.workers).send engine.pick.1 (.listen ⟨engine.nextId⟩) =
    outcome at sent
  obtain ⟨taken, after⟩ := outcome
  cases taken with
  | true => exact (does_numbered engine).trans sent
  | false => exact (does_numbered engine).trans sent

theorem does_accept
    (engine : Engine)
    (peer : SocketAddress) :
    Does engine (engine.accept peer).2
      (onWorker engine.pick.1 [.pin ⟨engine.nextId⟩ (some peer)]) :=
  (does_numbered engine).trans
    (does_addChannel (engine.numbered engine.workers) engine.pick.1 ⟨engine.nextId⟩ (some peer))

theorem does_write
    (engine : Engine)
    (id : ChannelId)
    (bytes : Bytes) :
    Does engine (engine.write id bytes).2 fun index =>
      if ((engine.channel? id).map (·.isWritable)).getD false then
        onWorker (engine.home id) [.send (.write id bytes)] index
      else [] := by
  have sent : Does engine (engine.send (engine.home id) (.write id bytes)).2
      (onWorker (engine.home id) [.send (.write id bytes)]) :=
    does_send engine (engine.home id) fun _ => nofun
  rw [write]
  split
  · generalize engine.send (engine.home id) (.write id bytes) = outcome at sent
    obtain ⟨taken, after⟩ := outcome
    cases taken with
    | true => exact sent
    | false => exact sent
  · exact does_of_workers rfl

/-- Asking for a close sends one command.  Where nobody takes it, the request is settled. -/
theorem requestClose_eq
    (engine : Engine)
    (id : ChannelId) :
    engine.requestClose id =
      match
        Engine.send { engine with tickets := engine.tickets + 1 } (engine.home id)
          (.close id ⟨engine.tickets⟩) with
      | (true, sent) => (⟨engine.tickets⟩, sent)
      | (false, sent) => (⟨engine.tickets⟩, sent.settle ⟨engine.tickets⟩ .abandoned) :=
  rfl

theorem does_requestClose
    (engine : Engine)
    (id : ChannelId) :
    Does engine (engine.requestClose id).2
      (onWorker (engine.home id) [.send (.close id ⟨engine.tickets⟩)]) := by
  have sent : Does { engine with tickets := engine.tickets + 1 } _ _ :=
    does_send { engine with tickets := engine.tickets + 1 } (engine.home id)
      (show ∀ other, .close id ⟨engine.tickets⟩ ≠ Command.connect other from fun _ => nofun)
  have counted : Does engine { engine with tickets := engine.tickets + 1 } fun _ => [] :=
    does_of_workers rfl
  rw [requestClose_eq]
  generalize Engine.send _ (engine.home id) (.close id ⟨engine.tickets⟩) = outcome at sent
  obtain ⟨taken, after⟩ := outcome
  cases taken with
  | true => exact counted.trans sent
  | false => exact counted.trans sent

theorem does_close
    (engine : Engine)
    (id : ChannelId) :
    Does engine (engine.close id).2 fun index =>
      if ((engine.channel? id).map (·.isClosed)).getD false then []
      else
        onWorker (engine.home id) [.ask id, .send (.close id ⟨engine.tickets⟩)] index := by
  rw [close]
  split
  · exact does_of_workers rfl
  · have asked : Does engine (engine.alterWorker (engine.home id) (·.alter id (·.beginClose)))
        (onWorker (engine.home id) [.ask id]) :=
      does_alterWorker engine (engine.home id) _ fun _ => rfl
    have requested := does_requestClose
      (engine.alterWorker (engine.home id) (·.alter id (·.beginClose))) id
    exact (asked.trans requested).congr fun index => onWorker_append _ _ _ index

theorem does_shutdown (engine : Engine) :
    Does engine engine.shutdown fun _ =>
      if engine.shutDown then [] else [.send .shutdown] := by
  rw [shutdown]
  split
  · exact does_of_workers rfl
  · intro index
    rw [List.getElem?_map]
    rfl

end Engine

namespace Usage

open Engine (Does onWorker)
open Worker (Act)

variable
  {usage next start final : Usage}
  {events : List Event}
  {event : Event}

/-- What an event does to each worker. -/
def acts (usage : Usage) : Event → Nat → List Act
  | .connect address =>
      onWorker usage.engine.pick.1
        [.pin ⟨usage.engine.nextId⟩ (some address), .send (.connect ⟨usage.engine.nextId⟩)]
  | .bind _ => onWorker usage.engine.pick.1 [.send (.listen ⟨usage.engine.nextId⟩)]
  | .accept _ peer => onWorker usage.engine.pick.1 [.pin ⟨usage.engine.nextId⟩ (some peer)]
  | .hand id => onWorker (usage.engine.home id) [.send (.adopt id)]
  | .write id bytes => fun index =>
      if ((usage.engine.channel? id).map (·.isWritable)).getD false then
        onWorker (usage.engine.home id) [.send (.write id bytes)] index
      else []
  | .resume id => onWorker (usage.engine.home id) [.send (.resume id)]
  | .close id => fun index =>
      if ((usage.engine.channel? id).map (·.isClosed)).getD false then []
      else
        onWorker (usage.engine.home id)
          [.ask id, .send (.close id ⟨usage.engine.tickets⟩)] index
  | .closeListener listener =>
      onWorker (usage.engine.home listener.id)
        [.send (.close listener.id ⟨usage.engine.tickets⟩)]
  | .shutdown => fun _ => if usage.engine.shutDown then [] else [.send .shutdown]
  | .advance index surroundings => onWorker index [.advance surroundings]
  | .report id readiness => onWorker (usage.engine.home id) [.event id readiness]
  | .stumble listener reason =>
      onWorker (usage.engine.home listener) [.stumble listener reason]
  | .breakDown index => onWorker index [.breakDown]

theorem does_step
    (stepped : usage.step? event = some next) :
    Does usage.engine next.engine (usage.acts event) := by
  cases event with
  | connect address =>
      obtain rfl := Option.some.inj stepped
      exact Engine.does_connect usage.engine address
  | bind address =>
      have does := Engine.does_bind usage.engine address
      rw [step?] at stepped
      split at stepped
      · rename_i found
        obtain rfl := Option.some.inj stepped
        rwa [found] at does
      · rename_i found
        obtain rfl := Option.some.inj stepped
        rwa [found] at does
  | accept listener peer =>
      rw [step?] at stepped
      split at stepped
      · obtain rfl := Option.some.inj stepped
        exact Engine.does_accept usage.engine peer
      · cases stepped
  | hand id =>
      rw [step?] at stepped
      split at stepped
      · obtain rfl := Option.some.inj stepped
        exact Engine.does_send usage.engine _ fun _ => nofun
      · cases stepped
  | write id bytes =>
      rw [step?] at stepped
      split at stepped
      · obtain rfl := Option.some.inj stepped
        exact Engine.does_write usage.engine id bytes
      · cases stepped
  | resume id =>
      rw [step?] at stepped
      split at stepped
      · obtain rfl := Option.some.inj stepped
        exact Engine.does_send usage.engine _ fun _ => nofun
      · cases stepped
  | close id =>
      rw [step?] at stepped
      split at stepped
      · obtain rfl := Option.some.inj stepped
        exact Engine.does_close usage.engine id
      · cases stepped
  | closeListener listener =>
      rw [step?] at stepped
      split at stepped
      · obtain rfl := Option.some.inj stepped
        exact Engine.does_requestClose usage.engine listener.id
      · cases stepped
  | shutdown =>
      obtain rfl := Option.some.inj stepped
      exact Engine.does_shutdown usage.engine
  | advance index surroundings =>
      rw [step?] at stepped
      split at stepped
      · cases stepped
      · obtain rfl := Option.some.inj stepped
        exact Engine.does_alterWorker usage.engine index _ fun _ => rfl
  | report id readiness =>
      rw [step?] at stepped
      split at stepped
      · cases stepped
      · obtain rfl := Option.some.inj stepped
        exact Engine.does_alterWorker usage.engine _ _ fun _ => rfl
  | stumble listener reason =>
      rw [step?] at stepped
      split at stepped
      · obtain rfl := Option.some.inj stepped
        exact Engine.does_alterWorker usage.engine _ _ fun _ => rfl
      · cases stepped
  | breakDown index =>
      rw [step?] at stepped
      split at stepped
      · cases stepped
      · obtain rfl := Option.some.inj stepped
        exact Engine.does_alterWorker usage.engine index _ fun _ => rfl

/-! ## Journals -/

/-- What a run does to a worker. -/
def journal
    (start : Usage)
    (events : List Event)
    (index : Nat) :
    List Act :=
  (visits step? start events).flatMap fun visit => visit.1.acts visit.2 index

theorem journal_snoc
    (ran : events.foldlM step? start = some usage)
    (event : Event)
    (index : Nat) :
    start.journal (events ++ [event]) index =
      start.journal events index ++ usage.acts event index := by
  rw [journal, visits_snoc ran, List.flatMap_append, List.flatMap_singleton]
  rfl

/-- The journal of a longer run goes on. -/
theorem journal_append
    {earlier later : List Event}
    (ran : earlier.foldlM step? start = some usage)
    (index : Nat) :
    start.journal (earlier ++ later) index =
      start.journal earlier index ++ usage.journal later index := by
  rw [journal, visits_append ran, List.flatMap_append]
  rfl

theorem does_run
    (ran : events.foldlM step? start = some final) :
    Does start.engine final.engine (start.journal events) := by
  induction ran using foldlM_induction with
  | none => exact Engine.does_of_workers rfl
  | snoc events event between final before stepped ih =>
      exact (ih.trans (does_step stepped)).congr fun index =>
        (journal_snoc before event index).symm

/-- The step of its own that a worker makes in an event. -/
def turn?
    (usage : Usage)
    (index : Nat) :
    Event → Option (Worker × Surroundings)
  | .advance worker surroundings =>
      if index = worker then usage.engine.workers[index]?.map (·, surroundings) else none
  | _ => none

/-- The steps of its own that a worker makes in a run. -/
def turns
    (start : Usage)
    (events : List Event)
    (index : Nat) :
    List (Worker × Surroundings) :=
  (visits step? start events).filterMap fun visit => visit.1.turn? index visit.2

theorem turn?_eq_some
    {index : Nat}
    {turn : Worker × Surroundings}
    (made : usage.turn? index event = some turn) :
    event = .advance index turn.2 ∧ usage.engine.workers[index]? = some turn.1 := by
  cases event with
  | advance other surroundings =>
      rw [turn?] at made
      split at made
      · rename_i same
        obtain ⟨worker, there, rfl⟩ := Option.map_eq_some_iff.mp made
        rw [same] at there ⊢
        exact ⟨rfl, there⟩
      · cases made
  | _ => cases made

theorem turns_acts
    {index : Nat}
    {worker : Worker}
    (there : usage.engine.workers[index]? = some worker)
    (event : Event) :
    worker.turns (usage.acts event index) = (usage.turn? index event).toList := by
  have quiet : ∀ (other : Nat) (acts : List Act),
      (∀ worker : Worker, worker.turns acts = []) →
        worker.turns (onWorker other acts index) = [] := by
    intro other acts silent
    rw [onWorker]
    split
    · exact silent worker
    · rfl
  cases event with
  | advance other surroundings =>
      rw [acts, onWorker, turn?]
      split
      · rw [there]
        rfl
      · rfl
  | write id bytes =>
      rw [acts]
      split
      · exact quiet _ _ fun _ => rfl
      · rfl
  | close id =>
      rw [acts]
      split
      · rfl
      · exact quiet _ _ fun _ => rfl
  | shutdown =>
      rw [acts]
      split
      · rfl
      · rfl
  | _ => exact quiet _ _ fun _ => rfl

theorem turns_append
    {earlier later : List Event}
    (ran : earlier.foldlM step? start = some usage)
    (index : Nat) :
    start.turns (earlier ++ later) index =
      start.turns earlier index ++ usage.turns later index := by
  rw [turns, visits_append ran, List.filterMap_append]
  rfl

theorem turns_snoc
    (ran : events.foldlM step? start = some usage)
    (event : Event)
    (index : Nat) :
    start.turns (events ++ [event]) index =
      start.turns events index ++ (usage.turn? index event).toList := by
  rw [turns, visits_snoc ran, List.filterMap_append]
  cases made : usage.turn? index event with
  | none => simp [turns, made]
  | some turn => simp [turns, made]

/-- The steps that a worker makes in a run are those of its journal. -/
theorem turns_of_run
    {index : Nat}
    {worker : Worker}
    (there : start.engine.workers[index]? = some worker)
    (ran : events.foldlM step? start = some final) :
    start.turns events index = worker.turns (start.journal events index) := by
  induction ran using foldlM_induction with
  | none => rfl
  | snoc events event between final before stepped ih =>
      have reached : between.engine.workers[index]? =
          some (worker.after (start.journal events index)) := by
        rw [does_run before index, there]
        rfl
      rw [turns_snoc before, journal_snoc before, Worker.turns_append, ← ih, turns_acts reached]

/-- A step that a worker makes in a run is an event of the run. -/
theorem split_of_turns
    {index : Nat}
    {turn : Worker × Surroundings}
    {earlier later : List (Worker × Surroundings)}
    (ran : events.foldlM step? start = some final)
    (split : start.turns events index = earlier ++ turn :: later) :
    ∃ before after between,
      events = before ++ .advance index turn.2 :: after ∧
        before.foldlM step? start = some between ∧
        start.turns before index = earlier ∧
        between.engine.workers[index]? = some turn.1 := by
  induction ran using foldlM_induction generalizing later with
  | none => simp [turns, visits] at split
  | snoc events event between final ran stepped ih =>
      rw [turns_snoc ran] at split
      cases made : between.turn? index event with
      | none =>
          rw [made, Option.toList_none, List.append_nil] at split
          obtain ⟨before, after, there, rfl, found⟩ := ih split
          exact ⟨before, after ++ [event], there, by simp, found⟩
      | some last =>
          rw [made, Option.toList_some] at split
          rcases split_snoc split with ⟨rfl, rfl, -⟩ | ⟨shorter, sooner, -⟩
          · obtain ⟨rfl, there⟩ := turn?_eq_some made
            exact ⟨events, [], between, rfl, ran, rfl, there⟩
          · obtain ⟨before, after, there, rfl, found⟩ := ih sooner
            exact ⟨before, after ++ [event], there, by simp, found⟩

theorem worker_of_run
    {index : Nat}
    {worker : Worker}
    (there : start.engine.workers[index]? = some worker)
    (ran : events.foldlM step? start = some final) :
    final.engine.workers[index]? = some (worker.after (start.journal events index)) := by
  rw [does_run ran index, there]
  rfl

end Usage

end LineProtocol
