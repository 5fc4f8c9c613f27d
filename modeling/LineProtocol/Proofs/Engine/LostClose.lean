import LineProtocol.Proofs.Engine.Homes

/-!
# Lost requests to close

A request to close a connection should be honoured: it is answered with success only
where the connection has ended or will never be established, and behind it
nothing is established or read.

The handle on an accepted connection is shown to the application before the connection
is handed to its worker.  Whoever asks for a close in between is ahead of the
hand-over.  The worker does not know the connection yet, takes it for one that is gone,
and answers with success; then it takes the connection on.  `honoured_iff`
says that requests are lost in this way and in no other.
-/

namespace LineProtocol

namespace Worker

variable
  {worker : Worker}
  {surroundings : Surroundings}
  {id : ChannelId}

theorem queue_of_takes?
    {command : Command}
    (takes : worker.takes? = some command) :
    worker.stage = .running ∧ ∃ rest, worker.queue = command :: rest := by
  rw [takes?] at takes
  split at takes
  · rename_i running
    exact ⟨running, List.head?_eq_some_iff.mp takes⟩
  · cases takes

/-- A connection that is taken on is established. -/
theorem told_of_takesOn
    (takesOn : TakesOn (worker, surroundings) id) :
    (worker.step (.advance surroundings)).told id = worker.told id ++ [.established] := by
  obtain ⟨takes, registered⟩ := takesOn
  obtain ⟨running, rest, queue⟩ := queue_of_takes? takes
  dsimp only at running queue registered
  simp only [step, advance, running, queue, perform, registered, adopt]
  refine (told_tell _ id id .established).trans ?_
  rw [if_pos rfl]
  rfl

end Worker

namespace Usage

open Worker (CloseDealt Overtaken)

variable
  {usage between final : Usage}
  {events earlier later : List Event}
  {settings : EngineSettings}
  {id : ChannelId}
  {ticket : Ticket}
  {index : Nat}

/-- No request to close the connection is lost in a run. -/
structure Honoured
    (start final : Usage)
    (events : List Event)
    (id : ChannelId) : Prop where
  /-- What is answered with success has ended or will never be established. -/
  answered :
    ∀ earlier later between ticket,
      events = earlier ++ later →
        earlier.foldlM step? start = some between →
          (id, ticket) ∈ between.closes →
            (between.engine.receipt ticket).outcome = .ok () →
              (∃ callback ∈ between.told id, callback.isLast = true) ∨
                .established ∉ final.told id
  /-- Behind a request that was dealt with nothing is established or read. -/
  quiet :
    ∀ earlier later between index,
      events = earlier ++ later →
        earlier.foldlM step? start = some between →
          CloseDealt (start.turns earlier index) id →
            ∃ more,
              final.told id = between.told id ++ more ∧
                ∀ callback ∈ more, callback.isUse = false

/-! ## Requests that are not overtaken -/

/-- A request to close is dealt with at home. -/
theorem home_of_closeDealt
    (ran : events.foldlM step? (.start settings) = some final)
    (dealt : CloseDealt ((start settings).turns events index) id) :
    final.engine.home id = index := by
  obtain ⟨ticket, closes⟩ := dealt
  exact (routed_run ran).home_of_sent (mem_sending_of_dealing ran closes) rfl

/-- A request that was dealt with stays so. -/
theorem closeDealt_append
    (before : earlier.foldlM step? (.start settings) = some between)
    (later : List Event)
    (dealt : CloseDealt ((start settings).turns earlier index) id) :
    CloseDealt ((start settings).turns (earlier ++ later) index) id := by
  obtain ⟨ticket, closes⟩ := dealt
  refine ⟨ticket, ?_⟩
  rw [turns_append before, Worker.dealing_append]
  exact List.mem_append_left _ closes

/-- Whoever deals with a request was there from the start. -/
theorem begins_of_closeDealt
    (ran : events.foldlM step? (.start settings) = some final)
    (dealt : CloseDealt ((start settings).turns events index) id) :
    (start settings).engine.workers[index]? = some { limit := settings.maxPendingWrite } := by
  obtain ⟨ticket, closes⟩ := dealt
  obtain ⟨turn, made, -⟩ := List.mem_flatMap.mp closes
  exact begins_of_turn ran made

/-- Behind a request to close that was dealt with nothing is established or read, as
long as it is not overtaken. -/
theorem quiet_of_closeDealt
    (before : earlier.foldlM step? (.start settings) = some between)
    (ran : (earlier ++ later).foldlM step? (.start settings) = some final)
    (held : id ∈ final.held)
    (dealt : CloseDealt ((start settings).turns earlier index) id)
    (clear : ¬ Overtaken ((start settings).turns (earlier ++ later) index) id) :
    ∃ more,
      final.told id = between.told id ++ more ∧
        ∀ callback ∈ more, callback.isUse = false := by
  have begins := begins_of_closeDealt before dealt
  have home := home_of_closeDealt before dealt
  have still := home_of_closeDealt ran (closeDealt_append before later dealt)
  rw [told_of_begins before begins home, told_of_begins ran begins still]
  rw [turns_of_run begins before] at dealt
  rw [turns_of_run begins ran] at clear
  have fair := (routed_run ran).fair held index
  rw [journal_append before] at fair clear ⊢
  rcases Worker.quiet_of_dealt settings.maxPendingWrite _ _ fair dealt with overtaken | quiet
  · exact absurd overtaken clear
  · exact quiet

/-- Who is not told of use any more has ended or was told nothing at all. -/
theorem ended_or_never
    {worker : Worker}
    (told : between.told id = worker.told id)
    (gone : worker.view id = View.unborn ∨ (worker.view id).Ended)
    (quiet :
      ∃ more,
        final.told id = between.told id ++ more ∧
          ∀ callback ∈ more, callback.isUse = false) :
    (∃ callback ∈ between.told id, callback.isLast = true) ∨
      .established ∉ final.told id := by
  rcases gone with fresh | ⟨callback, there, last⟩
  · obtain ⟨more, goes, silent⟩ := quiet
    have nothing : between.told id = [] := told.trans (congrArg View.told fresh)
    rw [nothing, List.nil_append] at goes
    rw [goes]
    exact .inr fun there => Bool.noConfusion (silent _ there)
  · exact .inl ⟨callback, told ▸ there, last⟩

/-- Whoever is answered with success was answered by the engine or by a worker. -/
theorem exists_settled_of_answered
    {engine : Engine}
    (answered : (engine.receipt ticket).outcome = .ok ()) :
    ∃ receipt,
      (ticket, receipt) ∈ engine.settled ∨
        ∃ (index : Nat) (worker : Worker),
          engine.workers[index]? = some worker ∧ (ticket, receipt) ∈ worker.settled := by
  rw [Engine.receipt] at answered
  cases found :
      (engine.settled ++ engine.workers.flatMap (·.settled)).find? (·.1 = ticket) with
  | none =>
      rw [found] at answered
      cases answered
  | some entry =>
      obtain ⟨other, receipt⟩ := entry
      have same := List.find?_some found
      dsimp only at same
      obtain rfl := of_decide_eq_true same
      refine ⟨receipt, ?_⟩
      rcases List.mem_append.mp (List.mem_of_find?_eq_some found) with settled | settles
      · exact .inl settled
      · obtain ⟨worker, there, settled⟩ := List.mem_flatMap.mp settles
        obtain ⟨index, listed⟩ := List.mem_iff_getElem?.mp there
        exact .inr ⟨index, worker, listed, settled⟩

/-- A ticket belongs to one request. -/
theorem Routed.eq_of_ticket
    {mailed : List (Nat × Command)}
    (routed : usage.Routed mailed)
    {other : ChannelId}
    (asked : (id, ticket) ∈ usage.closes)
    (also : (other, ticket) ∈ usage.closes) :
    other = id :=
  congrArg Prod.fst (List.inj_on_of_nodup_map routed.once also asked rfl)

/-- A request that a worker settled was dealt with by it. -/
theorem closeDealt_of_settled
    {worker : Worker}
    {receipt : Receipt}
    (ran : events.foldlM step? (.start settings) = some final)
    (asked : (id, ticket) ∈ final.closes)
    (there : final.engine.workers[index]? = some worker)
    (settled : (ticket, receipt) ∈ worker.settled) :
    CloseDealt ((start settings).turns events index) id := by
  have routed := routed_run ran
  obtain ⟨begins, rfl⟩ := worker_of_ran ran there
  obtain ⟨other, closes⟩ := (Worker.traced_after _ _).settled _ settled
  rw [← turns_of_run begins ran] at closes
  have sent := mem_mailed (mem_sending_of_dealing ran closes) rfl
  have noted := routed.closes other ticket (List.mem_map_of_mem sent)
  rw [routed.eq_of_ticket asked noted] at closes
  exact ⟨ticket, closes⟩

/-- Where there is nothing to wait for, the connection has ended or will never be
established. -/
theorem ended_or_never_of_idle
    (before : earlier.foldlM step? (.start settings) = some between)
    (ran : (earlier ++ later).foldlM step? (.start settings) = some final)
    (known : between.Knows id)
    (idle : between.Idle id) :
    (∃ callback ∈ between.told id, callback.isLast = true) ∨
      .established ∉ final.told id := by
  obtain ⟨worker, home⟩ := exists_home before known
  have told := told_home before home
  rcases idle worker home with ⟨callback, listed, last⟩ | ended
  · exact .inl ⟨callback, told ▸ listed, last⟩
  · obtain ⟨begins, rfl⟩ := worker_of_ran before home
    have standing := Worker.standing_after settings.maxPendingWrite _
      ((routed_run before).nodup_bringing (between.engine.home id))
    refine ended_or_never told
      ((standing.lively id).unborn_or_ended (standing.stopped (.inr (.inr ended)) id)) ?_
    have after : later.foldlM step? between = some final := by
      rwa [List.foldlM_append, before] at ran
    have still : final.engine.home id = between.engine.home id := by
      rw [Engine.home, home_of_run before known after]
      rfl
    have distinct := (routed_run ran).nodup_bringing (between.engine.home id)
    rw [told, told_of_begins ran begins still]
    rw [journal_append before] at distinct ⊢
    exact (Worker.quiet_of_ended settings.maxPendingWrite _ _ distinct ended).2

/-- Where a request was dealt with, the connection has ended or will never be established,
as long as the request is not overtaken. -/
theorem ended_or_never_of_closeDealt
    (before : earlier.foldlM step? (.start settings) = some between)
    (ran : (earlier ++ later).foldlM step? (.start settings) = some final)
    (held : id ∈ final.held)
    (dealt : CloseDealt ((start settings).turns earlier index) id)
    (clear : ¬ Overtaken ((start settings).turns (earlier ++ later) index) id) :
    (∃ callback ∈ between.told id, callback.isLast = true) ∨
      .established ∉ final.told id := by
  have quiet := quiet_of_closeDealt before ran held dealt clear
  have begins := begins_of_closeDealt before dealt
  have told := told_of_begins before begins (home_of_closeDealt before dealt)
  have fair := (routed_run ran).fair held index
  rw [journal_append before] at fair
  rw [turns_append before] at clear
  rw [turns_of_run begins before] at dealt clear
  refine ended_or_never told ?_ quiet
  rcases Worker.shut_of_dealt settings.maxPendingWrite _ fair.earlier dealt with
    overtaken | ended | ⟨fresh, -⟩
  · exact absurd (Worker.overtaken_append overtaken) clear
  · exact .inr ended
  · exact .inl fresh

/-- A request that is answered with success is for a connection that has ended or will
never be established, as long as no request is overtaken. -/
theorem ended_or_never_of_answered
    (before : earlier.foldlM step? (.start settings) = some between)
    (ran : (earlier ++ later).foldlM step? (.start settings) = some final)
    (held : id ∈ final.held)
    (asked : (id, ticket) ∈ between.closes)
    (answered : (between.engine.receipt ticket).outcome = .ok ())
    (clear : ¬ ∃ index, Overtaken ((start settings).turns (earlier ++ later) index) id) :
    (∃ callback ∈ between.told id, callback.isLast = true) ∨
      .established ∉ final.told id := by
  obtain ⟨receipt, settled | ⟨index, worker, there, settled⟩⟩ :=
    exists_settled_of_answered answered
  · exact ended_or_never_of_idle before ran ((routed_run before).asked _ asked).1
      ((vouched_run before).idle _ settled id asked)
  · exact ended_or_never_of_closeDealt before ran held
      (closeDealt_of_settled before asked there settled) fun overtaken =>
        clear ⟨index, overtaken⟩

/-! ## Requests that are overtaken -/

/-- Behind a request that is overtaken, a connection of which nothing was told is
established. -/
theorem established_of_overtaken
    (ran : events.foldlM step? (.start settings) = some final)
    (overtaken : Overtaken ((start settings).turns events index) id) :
    ∃ earlier later between,
      events = earlier ++ later ∧
        earlier.foldlM step? (.start settings) = some between ∧
        CloseDealt ((start settings).turns earlier index) id ∧
        between.told id = [] ∧
        .established ∈ final.told id := by
  obtain ⟨passed, ⟨worker, surroundings⟩, rest, split, dealt, takesOn⟩ := overtaken
  obtain ⟨earlier, later, between, rfl, before, rfl, there⟩ := split_of_turns ran split
  obtain ⟨begins, rfl⟩ := worker_of_ran before there
  have standing := Worker.standing_after settings.maxPendingWrite _
    ((routed_run before).nodup_bringing index)
  have home := home_of_closeDealt before dealt
  have still := home_of_closeDealt ran (closeDealt_append before _ dealt)
  -- The command is still in the queue, so the connection was not brought yet.
  obtain ⟨-, waiting, queue⟩ := Worker.queue_of_takes? takesOn.1
  have fresh := standing.waiting id (Worker.mem_brought (queue ▸ List.mem_cons_self) rfl)
  have silent : between.told id = [] :=
    (told_of_begins before begins home).trans (congrArg View.told fresh)
  refine ⟨earlier, _, between, rfl, before, dealt, silent, ?_⟩
  have onwards := ran
  rw [List.append_cons, List.foldlM_append] at onwards
  obtain ⟨next, went, -⟩ := Option.bind_eq_some_iff.mp onwards
  have journal :
      (start settings).journal (earlier ++ .advance index surroundings :: later) index =
        (start settings).journal earlier index ++ [.advance surroundings] ++
          next.journal later index := by
    rw [List.append_cons, journal_append went, journal_snoc before, acts, Engine.onWorker,
      if_pos rfl]
  rw [told_of_begins ran begins still, journal, Worker.after_append, Worker.after_snoc]
  refine (Worker.prefix_told_after _ (next.journal later index) id).subset ?_
  rw [Worker.told_of_takesOn takesOn]
  exact List.mem_append_right _ (List.mem_singleton_self _)

/-- Somebody asked for a close while the application was shown the handle. -/
def AskedWhileShown
    (start : Usage)
    (events : List Event)
    (id : ChannelId) :
    Prop :=
  ∃ earlier later between,
    events = earlier ++ .close id :: later ∧
      earlier.foldlM step? start = some between ∧
      id ∈ between.offered.map (·.1)

theorem AskedWhileShown.snoc
    {start : Usage}
    (asked : AskedWhileShown start events id)
    (event : Event) :
    AskedWhileShown start (events ++ [event]) id := by
  obtain ⟨earlier, later, between, rfl, found⟩ := asked
  exact ⟨earlier, later ++ [event], between, by simp, found⟩

/-- Whoever is shown was shown before or is new. -/
theorem offered_of_moves
    {event : Event}
    {next : Usage}
    (moves : Moves usage event next)
    (shown : id ∈ next.offered.map (·.1)) :
    id ∈ usage.offered.map (·.1) ∨
      id = ⟨usage.engine.nextId⟩ ∧ usage.mail event = none := by
  cases moves with
  | connects => exact .inl shown
  | binds more new => exact .inl shown
  | accepts =>
      rw [List.map_append] at shown
      rcases List.mem_append.mp shown with before | now
      · exact .inl before
      · exact .inr ⟨List.mem_singleton.mp now, rfl⟩
  | hands there => exact .inl ((List.filter_sublist.map _).subset shown)
  | closes about sends cause => exact .inl shown
  | goes sends => exact .inl shown

/-- Requests to close are sent by those who ask. -/
theorem closing_of_mail
    {event : Event}
    {next : Usage}
    {home : Nat}
    (moves : Moves usage event next)
    (sent : usage.mail event = some (home, .close id ticket)) :
    event = .close id ∨ ∃ listener ∈ usage.listeners, listener.id = id := by
  cases moves with
  | connects => cases sent
  | binds more new => cases sent
  | accepts => cases sent
  | hands there => cases sent
  | closes about sends cause =>
      obtain ⟨-, command⟩ := Prod.mk.inj (sends _ sent)
      obtain ⟨rfl, -⟩ := Command.close.inj command
      rcases about with ⟨same, -⟩ | ⟨listener, bound, -, same⟩
      · exact .inl same
      · exact .inr ⟨listener, bound, same⟩
  | goes sends =>
      obtain ⟨-, -, -, -, plain⟩ := sends _ sent
      cases plain

/-- Accepted connections are sent when they are not shown any more. -/
theorem shown_of_mail
    {event : Event}
    {next : Usage}
    {home : Nat}
    (moves : Moves usage event next)
    (sent : usage.mail event = some (home, .adopt id)) :
    id ∈ usage.offered.map (·.1) := by
  cases moves with
  | connects => cases sent
  | binds more new => cases sent
  | accepts => cases sent
  | hands there =>
      obtain ⟨-, command⟩ := Prod.mk.inj (Option.some.inj sent)
      obtain rfl := Command.adopt.inj command
      exact there
  | closes about sends cause =>
      obtain ⟨-, command⟩ := Prod.mk.inj (sends _ sent)
      cases command
  | goes sends =>
      obtain ⟨-, -, -, -, plain⟩ := sends _ sent
      cases plain

/-- A request to close that is sent for a connection that is shown, or ahead of the
hand-over, was made while the connection was shown. -/
theorem askedWhileShown_of_mailed
    (ran : events.foldlM step? (.start settings) = some final) :
    (id ∈ final.offered.map (·.1) →
        ∀ ticket,
          .close id ticket ∈ ((start settings).mailed events).map (·.2) →
            AskedWhileShown (.start settings) events id) ∧
      ∀ ticket,
        [.close id ticket, .adopt id].Sublist (((start settings).mailed events).map (·.2)) →
          AskedWhileShown (.start settings) events id := by
  induction ran using foldlM_induction with
  | none => exact ⟨nofun, fun _ order => by cases order⟩
  | snoc events event between final before stepped ih =>
      obtain ⟨shows, hands⟩ := ih
      have routed := routed_run before
      have moves := moves_step stepped
      rw [mailed_snoc before, List.map_append]
      refine ⟨fun shown ticket sent => ?_, fun ticket order => ?_⟩
      · rcases offered_of_moves moves shown with earlier | ⟨rfl, nothing⟩
        · rcases List.mem_append.mp sent with old | new
          · exact (shows earlier ticket old).snoc event
          · obtain ⟨⟨home, _⟩, mail, rfl⟩ := List.mem_map.mp new
            rcases closing_of_mail moves (Option.mem_toList.mp mail) with
              rfl | ⟨listener, bound, same⟩
            · exact ⟨events, [], between, rfl, before, earlier⟩
            · exact absurd (same ▸ routed.offered id earlier) (routed.bound listener bound).2
        · rw [nothing, Option.toList_none, List.map_nil, List.append_nil] at sent
          exact absurd (routed.known_of_mailed sent rfl) routed.not_knows_new
      · cases mail : between.mail event with
        | none =>
            rw [mail, Option.toList_none, List.map_nil, List.append_nil] at order
            exact (hands ticket order).snoc event
        | some entry =>
            obtain ⟨home, command⟩ := entry
            rw [mail, Option.toList_some, List.map_singleton] at order
            rcases sublist_pair_snoc order with earlier | ⟨rfl, there⟩
            · exact (hands ticket earlier).snoc event
            · exact (shows (shown_of_mail moves mail) ticket there).snoc event

/-- A request that is overtaken was made while the application was shown the handle. -/
theorem askedWhileShown_of_overtaken
    (ran : events.foldlM step? (.start settings) = some final)
    (overtaken : Overtaken ((start settings).turns events index) id) :
    AskedWhileShown (.start settings) events id := by
  obtain ⟨earlier, turn, later, split, ⟨ticket, closes⟩, takes, -⟩ := overtaken
  have begins := begins_of_turn ran (split ▸ List.mem_append_right _ List.mem_cons_self)
  have order :
      [.close id ticket, .adopt id].Sublist
        (Worker.dealing ((start settings).turns events index)) := by
    rw [split, Worker.dealing_append]
    refine (List.singleton_sublist.mpr closes).append (List.singleton_sublist.mpr ?_)
    exact List.mem_append_left _ (Worker.mem_deals_of_takes? takes)
  rw [turns_of_run begins ran] at order
  have sent := (order.trans (List.sublist_append_left _ _)).trans
    (Worker.traced_after settings.maxPendingWrite _).sent
  exact (askedWhileShown_of_mailed ran).2 ticket (sublist_mailed sent (by simp [Command.about?]))

/-- In every run of an engine, every connection has its requests to close honoured, except
where one is overtaken: it is dealt with by a worker that takes the connection on later.
That happens only to requests that are made while the application is shown the handle on
an accepted connection. -/
theorem honoured_iff
    (ran : events.foldlM step? (.start settings) = some final)
    (held : id ∈ final.held) :
    (Honoured (.start settings) final events id ↔
        ¬ ∃ index, Overtaken ((start settings).turns events index) id) ∧
      ((∃ index, Overtaken ((start settings).turns events index) id) →
        AskedWhileShown (.start settings) events id) := by
  refine ⟨⟨fun honoured => ?_, fun clear => ⟨?_, ?_⟩⟩, fun ⟨index, overtaken⟩ => ?_⟩
  · rintro ⟨index, overtaken⟩
    obtain ⟨earlier, later, between, split, before, dealt, silent, established⟩ :=
      established_of_overtaken ran overtaken
    obtain ⟨more, told, quiet⟩ := honoured.quiet earlier later between index split before dealt
    rw [told, silent, List.nil_append] at established
    exact Bool.noConfusion (quiet _ established)
  · rintro earlier later between ticket rfl before asked answered
    exact ended_or_never_of_answered before ran held asked answered clear
  · rintro earlier later between index rfl before dealt
    exact quiet_of_closeDealt before ran held dealt fun overtaken => clear ⟨index, overtaken⟩
  · exact askedWhileShown_of_overtaken ran overtaken

/-- An application asks for a close when it is shown the handle on a connection. -/
def closedInAccept : List Event :=
  [.bind { ip := .v4 .unspecified, port := 80 }, .advance 0 {},
    .accept ⟨1⟩ { ip := .v4 .unspecified, port := 5000 }, .close ⟨2⟩, .hand ⟨2⟩,
    .advance 0 {}, .advance 0 {}]

theorem honoured_iff_closedInAccept :
    let start : Usage := .start { workerThreads := 1 }
    ∃ final,
      closedInAccept.foldlM step? start = some final ∧ ⟨2⟩ ∈ final.held ∧
        ¬ Honoured start final closedInAccept ⟨2⟩ ∧
        AskedWhileShown start closedInAccept ⟨2⟩ := by
  intro start
  obtain ⟨final, ran⟩ :=
    Option.isSome_iff_exists.mp
      (by decide +kernel : (closedInAccept.foldlM step? start).isSome = true)
  have held : (closedInAccept.foldlM step? start).map (·.held) = some [⟨2⟩] := by
    decide +kernel
  rw [ran] at held
  simp only [Option.map_some, Option.some.injEq] at held
  have overtaken : Overtaken (start.turns closedInAccept 0) ⟨2⟩ := by
    have third :
        (start.turns closedInAccept 0)[2]?.map
            (fun turn => (turn.1.takes?, turn.2.registration)) =
          some (some (.adopt ⟨2⟩), .ok ()) := by
      decide +kernel
    obtain ⟨turn, made, same⟩ := Option.map_eq_some_iff.mp third
    obtain ⟨takes, registered⟩ := Prod.mk.inj same
    obtain ⟨inside, rfl⟩ := List.getElem?_eq_some_iff.mp made
    refine ⟨(start.turns closedInAccept 0).take 2, _, (start.turns closedInAccept 0).drop 3, ?_,
      ⟨⟨0⟩, by decide +kernel⟩, takes, registered⟩
    rw [← List.drop_eq_getElem_cons inside, List.take_append_drop]
  have there : ⟨2⟩ ∈ final.held := by simp [held]
  obtain ⟨iff, asked⟩ := honoured_iff ran there
  have lost : ¬ Honoured start final closedInAccept ⟨2⟩ := fun honoured =>
    iff.mp honoured ⟨0, overtaken⟩
  exact ⟨final, ran, there, lost, asked ⟨0, overtaken⟩⟩

/-- The request is answered with success, and then the connection is established. -/
theorem not_always_honoured :
    ¬ ∀ (settings : EngineSettings) (events : List Event) (final : Usage) (id : ChannelId),
        events.foldlM step? (.start settings) = some final →
          id ∈ final.held → Honoured (.start settings) final events id := by
  intro always
  let start : Usage := .start { workerThreads := 1 }
  obtain ⟨final, ran⟩ :=
    Option.isSome_iff_exists.mp
      (by decide +kernel : (closedInAccept.foldlM step? start).isSome = true)
  obtain ⟨between, before⟩ :=
    Option.isSome_iff_exists.mp
      (by decide +kernel : ((closedInAccept.take 6).foldlM step? start).isSome = true)
  have ends :
      (closedInAccept.foldlM step? start).map (fun usage => (usage.held, usage.told ⟨2⟩)) =
        some ([⟨2⟩], [.established]) := by
    decide +kernel
  have answers :
      ((closedInAccept.take 6).foldlM step? start).map
          (fun usage => (usage.closes, usage.engine.receipt ⟨0⟩, usage.told ⟨2⟩)) =
        some ([(⟨2⟩, ⟨0⟩)], .confirmed, []) := by
    decide +kernel
  rw [ran] at ends
  rw [before] at answers
  simp only [Option.map_some, Option.some.injEq, Prod.mk.injEq] at ends answers
  obtain ⟨held, told⟩ := ends
  obtain ⟨closes, confirmed, silent⟩ := answers
  have honoured := always { workerThreads := 1 } closedInAccept final ⟨2⟩ ran (by simp [held])
  rcases honoured.answered _ (closedInAccept.drop 6) between ⟨0⟩ rfl before (by simp [closes])
      (by rw [confirmed]; rfl) with ⟨callback, there, -⟩ | never
  · rw [silent] at there
    cases there
  · rw [told] at never
    exact never (List.mem_singleton_self _)

end Usage

end LineProtocol
