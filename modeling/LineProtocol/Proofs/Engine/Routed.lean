import LineProtocol.Proofs.Engine.Mail

/-!
# Where commands go

A connection has one home, and whatever is sent about it goes there.  It is
brought once: by the connect that makes its handle, so before anything else can
be sent about it, or by the hand-over of an accepted connection, so after the
application has seen its handle.  `Routed` says all of this of the commands that
were sent up to some point of a run.

So what comes to the home of a connection is a `Fair` history for it.
-/

namespace LineProtocol

namespace Usage

open Worker (Fair)

variable
  {usage next final : Usage}
  {events : List Event}
  {event : Event}
  {settings : EngineSettings}
  {id : ChannelId}

/-- Two in a list with one more are in the list, or the second is the one more. -/
theorem sublist_pair_snoc
    {α : Type}
    {list : List α}
    {first second last : α}
    (order : [first, second].Sublist (list ++ [last])) :
    [first, second].Sublist list ∨ second = last ∧ first ∈ list := by
  obtain ⟨before, behind, split, earlier, later⟩ := List.sublist_append_iff.mp order
  rcases List.eq_nil_or_concat' behind with rfl | ⟨rest, other, rfl⟩
  · rw [List.append_nil] at split
    exact .inl (split ▸ earlier)
  · obtain rfl : other = last := List.mem_singleton.mp (later.subset (by simp))
    have short : rest = [] := by
      have length := later.length_le
      simp only [List.length_append, List.length_singleton] at length
      exact List.length_eq_zero_iff.mp (by omega)
    subst short
    have halves : [first] ++ [second] = before ++ [other] := split
    obtain ⟨rfl, same⟩ := List.append_inj' halves rfl
    exact .inr ⟨(List.cons.inj same).1, earlier.subset List.mem_cons_self⟩

/-- Whether a number was given out. -/
def Knows
    (usage : Usage)
    (id : ChannelId) :
    Prop :=
  (usage.engine.homes.find? id).isSome = true

theorem home_of_knows
    {id : ChannelId}
    (known : usage.Knows id) :
    usage.engine.homes.find? id = some (usage.engine.home id) := by
  obtain ⟨index, found⟩ := Option.isSome_iff_exists.mp known
  rw [Engine.home, found]
  rfl

/-- What was sent about connections and listeners, and what is known of them. -/
structure Routed
    (usage : Usage)
    (mailed : List (Nat × Command)) : Prop where
  issued : ∀ id, usage.Knows id → id.number < usage.engine.nextId
  held : ∀ id ∈ usage.held, usage.Knows id
  /-- Listeners have numbers of their own. -/
  bound : ∀ listener ∈ usage.listeners, usage.Knows listener.id ∧ listener.id ∉ usage.held
  offered : ∀ id ∈ usage.offered.map (·.1), id ∈ usage.held
  /-- Commands go to the home of what they are about. -/
  homes :
    ∀ entry ∈ mailed, ∀ id,
      entry.2.about? = some id → usage.engine.homes.find? id = some entry.1
  listens : ∀ id, .listen id ∈ mailed.map (·.2) → id ∉ usage.held
  /-- A connection is not brought while the application is shown the handle. -/
  brought :
    ∀ id ∈ Worker.brought (mailed.map (·.2)),
      id ∈ usage.held ∧ id ∉ usage.offered.map (·.1)
  distinct : (Worker.brought (mailed.map (·.2))).Nodup
  prompt : ∀ id, Worker.Prompt (mailed.map (·.2)) id
  closes : ∀ id ticket, .close id ticket ∈ mailed.map (·.2) → (id, ticket) ∈ usage.closes
  asked :
    ∀ entry ∈ usage.closes,
      usage.Knows entry.1 ∧ entry.2.number < usage.engine.tickets
  /-- No two requests to close have one ticket. -/
  once : (usage.closes.map (·.2)).Nodup

namespace Routed

variable
  {mailed : List (Nat × Command)}

theorem known_of_mailed
    (routed : usage.Routed mailed)
    {command : Command}
    {id : ChannelId}
    (sent : command ∈ mailed.map (·.2))
    (about : command.about? = some id) :
    usage.Knows id := by
  obtain ⟨entry, there, rfl⟩ := List.mem_map.mp sent
  rw [Knows, routed.homes entry there id about]
  rfl

/-- A new number was not given out before. -/
theorem not_knows_new (routed : usage.Routed mailed) :
    ¬ usage.Knows ⟨usage.engine.nextId⟩ :=
  fun known => Nat.lt_irrefl _ (routed.issued _ known)

/-- One more command is sent to the home of what it is about. -/
theorem add
    (routed : usage.Routed mailed)
    (command : Command)
    {id : ChannelId}
    (about : command.about? = some id)
    (known : usage.Knows id)
    (brings :
      command.opens? = some id →
        id ∈ usage.held ∧ id ∉ usage.offered.map (·.1) ∧
          id ∉ Worker.brought (mailed.map (·.2)))
    (connects : command = .connect id → ∀ ticket, .close id ticket ∉ mailed.map (·.2))
    (listens : command = .listen id → id ∉ usage.held)
    (closes : ∀ ticket, command = .close id ticket → (id, ticket) ∈ usage.closes) :
    usage.Routed (mailed ++ [(usage.engine.home id, command)]) where
  issued := routed.issued
  held := routed.held
  bound := routed.bound
  offered := routed.offered
  homes entry there other subject := by
    rcases List.mem_append.mp there with earlier | new
    · exact routed.homes entry earlier other subject
    · obtain rfl := List.mem_singleton.mp new
      obtain rfl := Option.some.inj (about.symm.trans subject)
      exact home_of_knows known
  listens other there := by
    rw [List.map_append] at there
    rcases List.mem_append.mp there with earlier | new
    · exact routed.listens other earlier
    · obtain rfl := List.mem_singleton.mp new
      obtain rfl := Option.some.inj about
      exact listens rfl
  brought other there := by
    rw [List.map_append, Worker.brought_append] at there
    rcases List.mem_append.mp there with earlier | new
    · exact routed.brought other earlier
    · obtain ⟨_, single, opens⟩ := List.mem_filterMap.mp new
      obtain rfl := List.mem_singleton.mp single
      obtain rfl := Option.some.inj (about.symm.trans (isSome_about?_of_opens? opens))
      exact ⟨(brings opens).1, (brings opens).2.1⟩
  distinct := by
    rw [List.map_append, Worker.brought_append]
    refine List.nodup_append.mpr ⟨routed.distinct, ?_, ?_⟩
    · cases opens : command.opens? with
      | none => simp [Worker.brought, opens]
      | some other => simp [Worker.brought, opens]
    · rintro other earlier _ new rfl
      obtain ⟨_, single, opens⟩ := List.mem_filterMap.mp new
      obtain rfl := List.mem_singleton.mp single
      obtain rfl := Option.some.inj (about.symm.trans (isSome_about?_of_opens? opens))
      exact (brings opens).2.2 earlier
  prompt other ticket order := by
    rw [List.map_append] at order
    rcases sublist_pair_snoc order with earlier | ⟨rfl, there⟩
    · exact routed.prompt other ticket earlier
    · obtain rfl := Option.some.inj about
      exact connects rfl ticket there
  closes other ticket there := by
    rw [List.map_append] at there
    rcases List.mem_append.mp there with earlier | new
    · exact routed.closes other ticket earlier
    · obtain rfl := List.mem_singleton.mp new
      obtain rfl := Option.some.inj about
      exact closes ticket rfl
  asked := routed.asked
  once := routed.once

theorem find?_numbered
    (routed : usage.Routed mailed)
    (workers : List Worker)
    {id : ChannelId}
    (known : usage.Knows id) :
    (usage.engine.numbered workers).homes.find? id = usage.engine.homes.find? id := by
  have old : id ≠ ⟨usage.engine.nextId⟩ := by
    rintro rfl
    exact routed.not_knows_new known
  rw [Engine.numbered, Table.find?_insert, if_neg old]

theorem knows_numbered
    (routed : usage.Routed mailed)
    (workers : List Worker)
    {id : ChannelId}
    (known : usage.Knows id) :
    ((usage.engine.numbered workers).homes.find? id).isSome = true := by
  rw [routed.find?_numbered workers known]
  exact known

theorem knows_new
    (usage : Usage)
    (workers : List Worker) :
    ((usage.engine.numbered workers).homes.find? ⟨usage.engine.nextId⟩).isSome = true := by
  rw [Engine.numbered, Table.find?_insert, if_pos rfl]
  rfl

/-- A new number was not sent anything, whatever it is given to. -/
theorem number
    (routed : usage.Routed mailed)
    (workers : List Worker)
    (holds : List ChannelId)
    (bounds : List Listener)
    (shows : List (ChannelId × Nat))
    (held : ∀ id ∈ holds, id = ⟨usage.engine.nextId⟩)
    (bound : ∀ listener ∈ bounds, listener.id = ⟨usage.engine.nextId⟩ ∧ holds = [])
    (shown : ∀ id ∈ shows.map (·.1), id ∈ holds) :
    Routed
      { usage with
        engine := usage.engine.numbered workers
        held := usage.held ++ holds
        listeners := usage.listeners ++ bounds
        offered := usage.offered ++ shows }
      mailed where
  issued id known := by
    rw [Knows, Engine.numbered, Table.find?_insert] at known
    split at known
    · rename_i new
      rw [new]
      exact Nat.lt_succ_self _
    · exact Nat.lt_succ_of_lt (routed.issued id known)
  held id there := by
    rcases List.mem_append.mp there with before | now
    · exact routed.knows_numbered workers (routed.held id before)
    · rw [held id now]
      exact knows_new usage workers
  bound listener there := by
    rcases List.mem_append.mp there with before | now
    · obtain ⟨known, free⟩ := routed.bound listener before
      refine ⟨routed.knows_numbered workers known, fun taken => ?_⟩
      rcases List.mem_append.mp taken with earlier | new
      · exact free earlier
      · rw [held _ new] at known
        exact routed.not_knows_new known
    · obtain ⟨new, rfl⟩ := bound listener now
      rw [new, List.append_nil]
      exact ⟨knows_new usage workers, fun taken => routed.not_knows_new (routed.held _ taken)⟩
  offered id there := by
    rw [List.map_append] at there
    rcases List.mem_append.mp there with before | now
    · exact List.mem_append_left _ (routed.offered id before)
    · exact List.mem_append_right _ (shown id now)
  homes entry there id about := by
    have found := routed.homes entry there id about
    rw [routed.find?_numbered workers (by rw [Knows, found]; rfl)]
    exact found
  listens id there taken := by
    rcases List.mem_append.mp taken with before | now
    · exact routed.listens id there before
    · rw [held id now] at there
      exact routed.not_knows_new (routed.known_of_mailed there rfl)
  brought id there := by
    obtain ⟨old, seen⟩ := routed.brought id there
    refine ⟨List.mem_append_left _ old, fun offered => ?_⟩
    rw [List.map_append] at offered
    rcases List.mem_append.mp offered with before | now
    · exact seen before
    · rw [held id (shown id now)] at old
      exact routed.not_knows_new (routed.held _ old)
  distinct := routed.distinct
  prompt := routed.prompt
  closes := routed.closes
  asked entry there :=
    ⟨routed.knows_numbered workers (routed.asked entry there).1, (routed.asked entry there).2⟩
  once := routed.once

/-- A connection that the application has seen is not offered any more. -/
theorem hand
    (routed : usage.Routed mailed)
    (workers : List Worker)
    (id : ChannelId) :
    Routed
      { usage with
        engine := { usage.engine with workers }
        offered := usage.offered.filter (·.1 ≠ id) }
      mailed :=
  have fewer : (usage.offered.filter (·.1 ≠ id)).map (·.1) ⊆ usage.offered.map (·.1) :=
    (List.filter_sublist.map _).subset
  { routed with
    offered := fun other there => routed.offered other (fewer there)
    brought := fun other there =>
      ⟨(routed.brought other there).1, fun offered =>
        (routed.brought other there).2 (fewer offered)⟩ }

/-- A request to close is noted under a ticket of its own. -/
theorem note
    (routed : usage.Routed mailed)
    (workers : List Worker)
    (settled : List (Ticket × Receipt))
    {id : ChannelId}
    (known : usage.Knows id) :
    Routed
      { usage with
        engine := { usage.engine with workers, settled, tickets := usage.engine.tickets + 1 }
        closes := usage.closes ++ [(id, ⟨usage.engine.tickets⟩)] }
      mailed :=
  { routed with
    closes := fun other ticket there => List.mem_append_left _ (routed.closes other ticket there)
    asked := fun entry there => by
      rcases List.mem_append.mp there with before | now
      · exact ⟨(routed.asked entry before).1, Nat.lt_succ_of_lt (routed.asked entry before).2⟩
      · rw [List.mem_singleton.mp now]
        exact ⟨known, Nat.lt_succ_self _⟩
    once := by
      rw [List.map_append]
      refine List.nodup_append.mpr ⟨routed.once, List.nodup_singleton _, ?_⟩
      intro ticket before other now same
      obtain ⟨entry, there, rfl⟩ := List.mem_map.mp before
      have less := (routed.asked entry there).2
      rw [same, List.mem_singleton.mp now] at less
      exact Nat.lt_irrefl _ less }

/-- Whatever is asked to be closed has a home. -/
theorem knows_closing
    (routed : usage.Routed mailed)
    (about :
      (event = .close id ∧ id ∈ usage.held) ∨
        (∃ listener ∈ usage.listeners, event = .closeListener listener ∧ listener.id = id)) :
    usage.Knows id := by
  rcases about with ⟨-, held⟩ | ⟨listener, bound, -, rfl⟩
  · exact routed.held id held
  · exact (routed.bound listener bound).1

theorem step
    (routed : usage.Routed mailed)
    (moves : Moves usage event next) :
    next.Routed (mailed ++ (usage.mail event).toList) := by
  have fresh := routed.not_knows_new
  cases moves with
  | connects =>
      rename_i address workers
      have numbered := routed.number workers [⟨usage.engine.nextId⟩] [] []
        (fun _ => List.mem_singleton.mp) (fun _ => nofun) (fun _ => nofun)
      rw [List.append_nil, List.append_nil] at numbered
      have held := List.mem_append_right usage.held
        (List.mem_singleton_self (⟨usage.engine.nextId⟩ : ChannelId))
      have added := numbered.add (.connect ⟨usage.engine.nextId⟩) rfl
        (knows_new usage workers)
        (fun _ => ⟨held, fun there => fresh (routed.held _ (routed.offered _ there)),
          fun there => fresh (routed.held _ (routed.brought _ there).1)⟩)
        (fun _ _ there => fresh (routed.known_of_mailed there rfl)) nofun nofun
      rwa [usage.engine.home_numbered workers] at added
  | binds more new =>
      rename_i address workers
      have numbered := routed.number workers [] more [] (fun _ => nofun)
        (fun listener there => ⟨new listener there, rfl⟩) (fun _ => nofun)
      rw [List.append_nil, List.append_nil] at numbered
      have added := numbered.add (.listen ⟨usage.engine.nextId⟩) rfl
        (knows_new usage workers) nofun nofun (fun _ there => fresh (routed.held _ there)) nofun
      rwa [usage.engine.home_numbered workers] at added
  | accepts =>
      rename_i listener peer workers
      have numbered := routed.number workers [⟨usage.engine.nextId⟩] []
        [(⟨usage.engine.nextId⟩, usage.engine.home listener)]
        (fun _ => List.mem_singleton.mp) (fun _ => nofun) (fun _ there => there)
      rw [List.append_nil] at numbered
      exact (List.append_nil mailed).symm ▸ numbered
  | hands shown =>
      rename_i id workers
      have held := routed.offered id shown
      refine (routed.hand workers id).add (.adopt id) rfl (routed.held id held)
        (fun _ => ⟨held, fun there => ?_, fun there => (routed.brought id there).2 shown⟩)
        nofun nofun nofun
      obtain ⟨entry, kept, same⟩ := List.mem_map.mp there
      exact of_decide_eq_true (List.mem_filter.mp kept).2 same
  | closes about sends cause =>
      rename_i id workers settled
      have known := routed.knows_closing about
      have noted := routed.note workers settled known
      cases sent : usage.mail event with
      | none => exact (List.append_nil mailed).symm ▸ noted
      | some entry =>
          rw [sends entry sent]
          refine noted.add (.close id ⟨usage.engine.tickets⟩) rfl known nofun nofun
            nofun fun ticket same => ?_
          obtain rfl := (Command.close.inj same).2
          exact List.mem_append_right _ (List.mem_singleton_self _)
  | goes sends =>
      rename_i workers shutDown
      have gone : Routed { usage with engine := { usage.engine with workers, shutDown } } mailed :=
        { routed with }
      cases sent : usage.mail event with
      | none => exact (List.append_nil mailed).symm ▸ gone
      | some entry =>
          obtain ⟨id, held, home, about, plain⟩ := sends entry sent
          obtain ⟨index, command⟩ := entry
          obtain rfl := home
          exact gone.add command about (routed.held id held)
            (fun opens => by cases command <;> cases opens <;> cases plain)
            (by rintro rfl; cases plain) (by rintro rfl; cases plain)
            (by rintro ticket rfl; cases plain)

end Routed

theorem routed_start (settings : EngineSettings) : (start settings).Routed [] where
  issued _ := nofun
  held _ := nofun
  bound _ := nofun
  offered _ := nofun
  homes _ := nofun
  listens _ := nofun
  brought _ := nofun
  distinct := List.nodup_nil
  prompt _ _ order := by cases order
  closes _ _ := nofun
  asked _ := nofun
  once := List.nodup_nil

theorem routed_run
    (ran : events.foldlM step? (.start settings) = some final) :
    final.Routed ((start settings).mailed events) := by
  induction ran using foldlM_induction with
  | none => exact routed_start settings
  | snoc events event between final before stepped ih =>
      rw [mailed_snoc before]
      exact ih.step (moves_step stepped)

namespace Routed

variable
  {first : Usage}

/-- What comes to a worker brings no connection twice. -/
theorem nodup_bringing
    (routed : final.Routed (first.mailed events))
    (index : Nat) :
    (Worker.bringing (first.journal events index)).Nodup :=
  (bringing_journal_sublist first events index).nodup routed.distinct

/-- What comes to a worker is fair to every connection. -/
theorem fair
    (routed : final.Routed (first.mailed events))
    (held : id ∈ final.held)
    (index : Nat) :
    Fair (first.journal events index) id where
  distinct := routed.nodup_bringing index
  prompt ticket order :=
    routed.prompt id ticket (sublist_mailed order (by simp [Command.about?]))
  listens there :=
    routed.listens id (List.mem_map_of_mem (mem_mailed there rfl)) held

/-- What comes to a worker about a connection comes to its home. -/
theorem home_of_sent
    (routed : final.Routed (first.mailed events))
    {command : Command}
    {index : Nat}
    (sent : command ∈ Worker.sending (first.journal events index))
    (about : command.about? = some id) :
    final.engine.home id = index := by
  have there := mem_mailed sent (about ▸ rfl)
  rw [Engine.home, routed.homes _ there id about]
  rfl

end Routed

end Usage

end LineProtocol
