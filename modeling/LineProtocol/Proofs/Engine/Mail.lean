import LineProtocol.Proofs.Engine.Routes

/-!
# What is sent about which connection

Each event sends one command about a connection or a listener, or none.  `Moves` says
which, and what else the event makes of an engine in use: all but what its workers do.
What comes to a worker is what was sent to it (`letters_journal`).
-/

namespace LineProtocol

/-- The connection or listener that a command is about. -/
def Command.about? : Command → Option ChannelId
  | .connect id => some id
  | .adopt id => some id
  | .listen id => some id
  | .write id _ => some id
  | .resume id => some id
  | .close id _ => some id
  | .shutdown => none

/-- Whether a command neither brings nor closes anything. -/
def Command.isPlain : Command → Bool
  | .write _ _ => true
  | .resume _ => true
  | _ => false

namespace Engine

theorem send_frame
    (engine : Engine)
    (index : Nat)
    (command : Command) :
    ∃ workers, (engine.send index command).2 = { engine with workers } := by
  rw [send]
  split
  · exact ⟨_, rfl⟩
  · exact ⟨_, rfl⟩

theorem connect_frame
    (engine : Engine)
    (address : SocketAddress) :
    ∃ workers, engine.connect address = (⟨engine.nextId⟩, engine.numbered workers) := by
  obtain ⟨workers, sent⟩ := send_frame
    ((engine.numbered engine.workers).addChannel engine.pick.1
      { id := ⟨engine.nextId⟩, peer := some address })
    engine.pick.1 (.connect ⟨engine.nextId⟩)
  rw [connect_eq]
  generalize Engine.send _ engine.pick.1 (.connect ⟨engine.nextId⟩) = outcome at sent
  obtain ⟨taken, after⟩ := outcome
  dsimp only at sent
  subst sent
  cases taken with
  | true => exact ⟨workers, rfl⟩
  | false => exact ⟨_, rfl⟩

theorem home_numbered
    (engine : Engine)
    (workers : List Worker) :
    (engine.numbered workers).home ⟨engine.nextId⟩ = engine.pick.1 := by
  rw [home, numbered, Table.find?_insert, if_pos rfl]
  rfl

theorem bind_frame
    (engine : Engine)
    (address : SocketAddress) :
    ∃ workers,
      engine.bind address =
          (.ok { id := ⟨engine.nextId⟩, address }, engine.numbered workers) ∨
        ∃ reason, engine.bind address = (.error reason, engine.numbered workers) := by
  obtain ⟨workers, sent⟩ := send_frame (engine.numbered engine.workers) engine.pick.1
    (.listen ⟨engine.nextId⟩)
  rw [bind_eq]
  generalize (engine.numbered engine.workers).send engine.pick.1 (.listen ⟨engine.nextId⟩) =
    outcome at sent
  obtain ⟨taken, after⟩ := outcome
  dsimp only at sent
  subst sent
  cases taken with
  | true => exact ⟨workers, .inl rfl⟩
  | false => exact ⟨workers, .inr ⟨_, rfl⟩⟩

theorem accept_frame
    (engine : Engine)
    (peer : SocketAddress) :
    ∃ workers, engine.accept peer = (⟨engine.nextId⟩, engine.numbered workers) :=
  ⟨_, rfl⟩

theorem write_frame
    (engine : Engine)
    (id : ChannelId)
    (bytes : Bytes) :
    ∃ workers, (engine.write id bytes).2 = { engine with workers } := by
  obtain ⟨workers, sent⟩ := send_frame engine (engine.home id) (.write id bytes)
  rw [write]
  split
  · generalize engine.send (engine.home id) (.write id bytes) = outcome at sent
    obtain ⟨taken, after⟩ := outcome
    cases taken with
    | true => exact ⟨workers, sent⟩
    | false => exact ⟨workers, sent⟩
  · exact ⟨_, rfl⟩

/-- Nobody could deal with a request to close the connection, or nobody needs to. -/
def NeedsNothing
    (engine : Engine)
    (id : ChannelId) :
    Prop :=
  ∀ worker,
    engine.workers[engine.home id]? = some worker →
      worker.HandleClosed id ∨ worker.stage = .ended

theorem requestClose_frame
    (engine : Engine)
    (id : ChannelId) :
    ∃ workers settled,
      engine.requestClose id =
          (⟨engine.tickets⟩,
            { engine with workers, settled, tickets := engine.tickets + 1 }) ∧
        (settled = engine.settled ∨
          (∃ receipt, settled = engine.settled ++ [(⟨engine.tickets⟩, receipt)]) ∧
            ∀ worker,
              engine.workers[engine.home id]? = some worker → worker.stage = .ended) := by
  obtain ⟨workers, frame⟩ := send_frame { engine with tickets := engine.tickets + 1 }
    (engine.home id) (.close id ⟨engine.tickets⟩)
  have sent := sent_eq { engine with tickets := engine.tickets + 1 } (engine.home id)
    (.close id ⟨engine.tickets⟩)
  rw [requestClose_eq]
  generalize Engine.send _ (engine.home id) (.close id ⟨engine.tickets⟩) = outcome at frame sent
  obtain ⟨taken, after⟩ := outcome
  dsimp only at frame sent
  subst frame
  cases taken with
  | true => exact ⟨workers, _, rfl, .inl rfl⟩
  | false =>
      refine ⟨workers, _, rfl, .inr ⟨⟨_, rfl⟩, fun worker there => ?_⟩⟩
      rw [there] at sent
      simpa using sent.symm

theorem close_frame
    (engine : Engine)
    (id : ChannelId) :
    ∃ workers settled,
      engine.close id =
          (⟨engine.tickets⟩,
            { engine with workers, settled, tickets := engine.tickets + 1 }) ∧
        (settled = engine.settled ∨
          (∃ receipt, settled = engine.settled ++ [(⟨engine.tickets⟩, receipt)]) ∧
            engine.NeedsNothing id) := by
  rw [close]
  split
  · rename_i closed
    refine ⟨_, _, rfl, .inr ⟨⟨_, rfl⟩, fun worker there => .inl ?_⟩⟩
    rw [channel?, there, Option.bind_some] at closed
    cases found : worker.channels.find? id with
    | none => simp [found] at closed
    | some channel => exact ⟨channel, found, by simpa [found] using closed⟩
  · let asked := engine.alterWorker (engine.home id) (·.alter id (·.beginClose))
    obtain ⟨workers, settled, frame, cause⟩ := requestClose_frame asked id
    refine ⟨workers, settled, frame, ?_⟩
    rcases cause with same | ⟨new, ended⟩
    · exact .inl same
    · refine .inr ⟨new, fun worker there => .inr ?_⟩
      refine ended (worker.alter id (·.beginClose)) ?_
      show (engine.alterWorker _ _).workers[engine.home id]? = _
      rw [getElem?_alterWorker, there, Option.map_some, if_pos rfl]

end Engine

namespace Usage

variable
  {usage next start final : Usage}
  {events : List Event}
  {event : Event}

/-- The command about a connection or a listener that an event sends, and where to. -/
def mail (usage : Usage) : Event → Option (Nat × Command)
  | .connect _ => some (usage.engine.pick.1, .connect ⟨usage.engine.nextId⟩)
  | .bind _ => some (usage.engine.pick.1, .listen ⟨usage.engine.nextId⟩)
  | .hand id => some (usage.engine.home id, .adopt id)
  | .write id bytes =>
      if ((usage.engine.channel? id).map (·.isWritable)).getD false then
        some (usage.engine.home id, .write id bytes)
      else none
  | .resume id => some (usage.engine.home id, .resume id)
  | .close id =>
      if ((usage.engine.channel? id).map (·.isClosed)).getD false then none
      else some (usage.engine.home id, .close id ⟨usage.engine.tickets⟩)
  | .closeListener listener =>
      some (usage.engine.home listener.id, .close listener.id ⟨usage.engine.tickets⟩)
  | _ => none

/-- What an event makes of all but the workers. -/
inductive Moves (usage : Usage) : Event → Usage → Prop where
  | connects {address workers} :
      Moves usage (.connect address)
        { usage with
          engine := usage.engine.numbered workers
          held := usage.held ++ [⟨usage.engine.nextId⟩] }
  | binds {address workers} (more : List Listener) :
      (∀ listener ∈ more, listener.id = ⟨usage.engine.nextId⟩) →
        Moves usage (.bind address)
          { usage with
            engine := usage.engine.numbered workers
            listeners := usage.listeners ++ more }
  | accepts {listener peer workers} :
      Moves usage (.accept listener peer)
        { usage with
          engine := usage.engine.numbered workers
          held := usage.held ++ [⟨usage.engine.nextId⟩]
          offered :=
            usage.offered ++ [(⟨usage.engine.nextId⟩, usage.engine.home listener)] }
  | hands {id workers} :
      id ∈ usage.offered.map (·.1) →
        Moves usage (.hand id)
          { usage with
            engine := { usage.engine with workers }
            offered := usage.offered.filter (·.1 ≠ id) }
  | closes {event id workers settled} :
      (event = .close id ∧ id ∈ usage.held) ∨
          (∃ listener ∈ usage.listeners, event = .closeListener listener ∧
            listener.id = id) →
        (∀ entry ∈ usage.mail event,
          entry = (usage.engine.home id, .close id ⟨usage.engine.tickets⟩)) →
        (settled = usage.engine.settled ∨
          (∃ receipt,
              settled = usage.engine.settled ++ [(⟨usage.engine.tickets⟩, receipt)]) ∧
            usage.engine.NeedsNothing id) →
          Moves usage event
            { usage with
              engine :=
                { usage.engine with workers, settled, tickets := usage.engine.tickets + 1 }
              closes := usage.closes ++ [(id, ⟨usage.engine.tickets⟩)] }
  | goes {event workers shutDown} :
      (∀ entry ∈ usage.mail event,
        ∃ id ∈ usage.held,
          entry.1 = usage.engine.home id ∧ entry.2.about? = some id ∧
            entry.2.isPlain = true) →
        Moves usage event { usage with engine := { usage.engine with workers, shutDown } }

theorem moves_step
    (stepped : usage.step? event = some next) :
    Moves usage event next := by
  cases event with
  | connect address =>
      obtain ⟨workers, frame⟩ := usage.engine.connect_frame address
      rw [step?, frame] at stepped
      obtain rfl := Option.some.inj stepped
      exact .connects
  | bind address =>
      obtain ⟨workers, frame | ⟨reason, frame⟩⟩ := usage.engine.bind_frame address
      · rw [step?, frame] at stepped
        obtain rfl := Option.some.inj stepped
        exact .binds [_] fun listener there => by rw [List.mem_singleton.mp there]
      · rw [step?, frame] at stepped
        obtain rfl := Option.some.inj stepped
        have moves : Moves usage (.bind address)
            { usage with
              engine := usage.engine.numbered workers, listeners := usage.listeners ++ [] } :=
          .binds [] fun _ there => absurd there List.not_mem_nil
        rwa [List.append_nil] at moves
  | accept listener peer =>
      obtain ⟨workers, frame⟩ := usage.engine.accept_frame peer
      rw [step?, frame] at stepped
      split at stepped
      · obtain rfl := Option.some.inj stepped
        exact .accepts
      · cases stepped
  | hand id =>
      obtain ⟨workers, frame⟩ := usage.engine.send_frame (usage.engine.home id) (.adopt id)
      rw [step?, Engine.adopt, frame] at stepped
      split at stepped
      · rename_i shown
        obtain rfl := Option.some.inj stepped
        exact .hands shown
      · cases stepped
  | write id bytes =>
      obtain ⟨workers, frame⟩ := usage.engine.write_frame id bytes
      rw [step?, frame] at stepped
      split at stepped
      · rename_i held
        obtain rfl := Option.some.inj stepped
        refine .goes fun entry sent => ?_
        rw [mail] at sent
        split at sent
        · obtain rfl := Option.some.inj sent
          exact ⟨id, held, rfl, rfl, rfl⟩
        · cases sent
      · cases stepped
  | resume id =>
      obtain ⟨workers, frame⟩ := usage.engine.send_frame (usage.engine.home id) (.resume id)
      rw [step?, Engine.resume, frame] at stepped
      split at stepped
      · rename_i held
        obtain rfl := Option.some.inj stepped
        refine .goes fun entry sent => ?_
        obtain rfl := Option.some.inj sent
        exact ⟨id, held, rfl, rfl, rfl⟩
      · cases stepped
  | close id =>
      obtain ⟨workers, settled, frame, cause⟩ := usage.engine.close_frame id
      rw [step?, noted, frame] at stepped
      split at stepped
      · rename_i held
        obtain rfl := Option.some.inj stepped
        refine .closes (.inl ⟨rfl, held⟩) (fun entry sent => ?_) cause
        rw [mail] at sent
        split at sent
        · cases sent
        · exact (Option.some.inj sent).symm
      · cases stepped
  | closeListener listener =>
      obtain ⟨workers, settled, frame, cause⟩ := usage.engine.requestClose_frame listener.id
      rw [step?, noted, Engine.closeListener, frame] at stepped
      split at stepped
      · rename_i bound
        obtain rfl := Option.some.inj stepped
        refine .closes (.inr ⟨listener, bound, rfl, rfl⟩) (fun entry sent => ?_) ?_
        · exact (Option.some.inj sent).symm
        · rcases cause with same | ⟨new, ended⟩
          · exact .inl same
          · exact .inr ⟨new, fun worker there => .inr (ended worker there)⟩
      · cases stepped
  | shutdown =>
      rw [step?, Engine.shutdown] at stepped
      split at stepped
      · obtain rfl := Option.some.inj stepped
        exact .goes fun _ sent => by cases sent
      · obtain rfl := Option.some.inj stepped
        exact .goes fun _ sent => by cases sent
  | advance index surroundings =>
      rw [step?] at stepped
      split at stepped
      · cases stepped
      · obtain rfl := Option.some.inj stepped
        exact .goes fun _ sent => by cases sent
  | report id readiness =>
      rw [step?] at stepped
      split at stepped
      · cases stepped
      · obtain rfl := Option.some.inj stepped
        exact .goes fun _ sent => by cases sent
  | stumble listener reason =>
      rw [step?] at stepped
      split at stepped
      · obtain rfl := Option.some.inj stepped
        exact .goes fun _ sent => by cases sent
      · cases stepped
  | breakDown index =>
      rw [step?] at stepped
      split at stepped
      · cases stepped
      · obtain rfl := Option.some.inj stepped
        exact .goes fun _ sent => by cases sent

/-! ## All that was sent -/

/-- The commands about connections and listeners that a run sends, in order. -/
def mailed
    (start : Usage)
    (events : List Event) :
    List (Nat × Command) :=
  (visits step? start events).filterMap fun visit => visit.1.mail visit.2

theorem mailed_snoc
    (ran : events.foldlM step? start = some usage)
    (event : Event) :
    start.mailed (events ++ [event]) = start.mailed events ++ (usage.mail event).toList := by
  rw [mailed, visits_snoc ran, List.filterMap_append]
  cases sent : usage.mail event with
  | none => simp [mailed, sent]
  | some entry => simp [mailed, sent]

/-- What comes to a worker about connections and listeners. -/
def letters
    (index : Nat)
    (mailed : List (Nat × Command)) :
    List Command :=
  (mailed.filter (·.1 = index)).map (·.2)

theorem letters_append
    (index : Nat)
    (earlier later : List (Nat × Command)) :
    letters index (earlier ++ later) = letters index earlier ++ letters index later := by
  rw [letters, List.filter_append, List.map_append]
  rfl

theorem letters_acts
    (usage : Usage)
    (event : Event)
    (index : Nat) :
    (Worker.sending (usage.acts event index)).filter (·.about?.isSome) =
      letters index (usage.mail event).toList := by
  have single : ∀ (home : Nat) (acts : List Worker.Act) (command : Command),
      (Worker.sending acts).filter (·.about?.isSome) = [command] →
        (Worker.sending (Engine.onWorker home acts index)).filter (·.about?.isSome) =
          letters index [(home, command)] := by
    intro home acts command sends
    rw [Engine.onWorker]
    by_cases mine : index = home
    · rw [if_pos mine, sends]
      simp [letters, mine]
    · have elsewhere : home ≠ index := fun same => mine same.symm
      rw [if_neg mine]
      simp [letters, elsewhere, Worker.sending]
  have none : ∀ (home : Nat) (acts : List Worker.Act), Worker.sending acts = [] →
      (Worker.sending (Engine.onWorker home acts index)).filter (·.about?.isSome) = [] := by
    intro home acts silent
    rw [Engine.onWorker]
    split
    · rw [silent]
      rfl
    · rfl
  cases event with
  | connect address => exact single _ _ _ rfl
  | bind address => exact single _ _ _ rfl
  | accept listener peer => exact none _ _ rfl
  | hand id => exact single _ _ _ rfl
  | write id bytes =>
      rw [acts, mail]
      split
      · exact single _ _ _ rfl
      · rfl
  | resume id => exact single _ _ _ rfl
  | close id =>
      rw [acts, mail]
      split
      · rfl
      · exact single _ _ _ rfl
  | closeListener listener => exact single _ _ _ rfl
  | shutdown =>
      rw [acts]
      split
      · rfl
      · rfl
  | advance worker surroundings => exact none _ _ rfl
  | report id readiness => exact none _ _ rfl
  | stumble listener reason => exact none _ _ rfl
  | breakDown worker => exact none _ _ rfl

/-- What comes to a worker is what was sent to it. -/
theorem letters_journal
    (start : Usage)
    (events : List Event)
    (index : Nat) :
    (Worker.sending (start.journal events index)).filter (·.about?.isSome) =
      letters index (start.mailed events) := by
  rw [journal, mailed]
  induction visits step? start events with
  | nil => rfl
  | cons visit visits ih =>
      rw [List.flatMap_cons, Worker.sending, List.filterMap_append, List.filter_append]
      refine (congrArg₂ (· ++ ·) (letters_acts visit.1 visit.2 index) ih).trans ?_
      cases sent : visit.1.mail visit.2 with
      | none => simp [letters, sent]
      | some entry =>
          simp only [List.filterMap_cons, sent]
          exact (letters_append index [entry] _).symm

/-- A command about something that comes to a worker was sent to it. -/
theorem mem_mailed
    {command : Command}
    {index : Nat}
    (sent : command ∈ Worker.sending (start.journal events index))
    (about : command.about?.isSome = true) :
    (index, command) ∈ start.mailed events := by
  have there : command ∈ letters index (start.mailed events) := by
    rw [← letters_journal]
    exact List.mem_filter.mpr ⟨sent, about⟩
  obtain ⟨entry, kept, rfl⟩ := List.mem_map.mp there
  obtain ⟨listed, mine⟩ := List.mem_filter.mp kept
  rw [← of_decide_eq_true mine]
  exact listed

theorem letters_sublist
    (index : Nat)
    (mailed : List (Nat × Command)) :
    (letters index mailed).Sublist (mailed.map (·.2)) :=
  List.filter_sublist.map _

/-- Commands about something come to a worker in the order in which they were sent. -/
theorem sublist_mailed
    {commands : List Command}
    {index : Nat}
    (sent : commands.Sublist (Worker.sending (start.journal events index)))
    (about : ∀ command ∈ commands, command.about?.isSome = true) :
    commands.Sublist ((start.mailed events).map (·.2)) := by
  have kept := sent.filter (·.about?.isSome)
  rw [letters_journal, List.filter_eq_self.mpr about] at kept
  exact kept.trans (letters_sublist _ _)

theorem isSome_about?_of_opens?
    {command : Command}
    {id : ChannelId}
    (opens : command.opens? = some id) :
    command.about? = some id := by
  cases command with
  | connect other => exact opens
  | adopt other => exact opens
  | _ => cases opens

theorem bringing_eq (acts : List Worker.Act) :
    Worker.bringing acts =
      Worker.brought ((Worker.sending acts).filter (·.about?.isSome)) := by
  rw [Worker.bringing, Worker.brought, Worker.sending, List.filterMap_filter,
    List.filterMap_filterMap]
  apply List.filterMap_congr
  intro act _
  rw [Worker.Act.opens?]
  cases act.command? with
  | none => rfl
  | some command =>
      cases opens : command.opens? with
      | none => simp [opens]
      | some id => simp [opens, isSome_about?_of_opens? opens]

/-- The connections that come to a worker are among those that were sent. -/
theorem bringing_journal_sublist
    (start : Usage)
    (events : List Event)
    (index : Nat) :
    (Worker.bringing (start.journal events index)).Sublist
      (Worker.brought ((start.mailed events).map (·.2))) := by
  rw [bringing_eq, letters_journal]
  exact (letters_sublist _ _).filterMap _

end Usage

end LineProtocol
