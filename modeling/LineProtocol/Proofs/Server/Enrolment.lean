import LineProtocol.Proofs.Server.Asides

/-!
# Who was admitted, and who is still there

The jobs that ran, each with the state that it found, tell who is on the roster:
whoever joined while the server was not shutting down and nobody had the same
identity, and whom no job has taken out since.  A job takes a client out if it
says that the connection is closed, if it kicks the client, or if it begins a
shutdown.

`Enrols` lists all that a job makes of the roster.  `Enrolment` ties the jobs
that ran to the roster, to what it shows, and to the connections that the
transport was asked to read.
-/

namespace LineProtocol

namespace Transport

/-- The connection that a request asks to be read. -/
def resumed? : Call → Option ChannelId
  | .resume id => some id
  | _ => none

/-- The connections that a transport was asked to read, in order. -/
def resumed (transport : Transport) : List ChannelId :=
  transport.calls.filterMap resumed?

theorem mem_resumed_iff
    {transport : Transport}
    {id : ChannelId} :
    id ∈ transport.resumed ↔ .resume id ∈ transport.calls := by
  constructor
  · intro there
    obtain ⟨call, member, resumes⟩ := List.mem_filterMap.mp there
    cases call <;> simp_all [resumed?]
  · exact fun asked => List.mem_filterMap.mpr ⟨_, asked, rfl⟩

/-- Where other requests were made at most. -/
theorem Asks.resumed
    {among : Call → Prop}
    {before after : Transport}
    (asks : Asks among before after)
    (others : ∀ id, ¬ among (.resume id)) :
    after.resumed = before.resumed := by
  obtain ⟨more, calls, known⟩ := asks.requests
  have silent : more.filterMap resumed? = [] := by
    rw [List.filterMap_eq_nil_iff]
    intro call member
    cases call with
    | resume id => exact (others id (known _ member)).elim
    | _ => rfl
  rw [Transport.resumed, calls, List.filterMap_append, silent, List.append_nil]
  rfl

theorem not_closes_resume
    (among : ChannelId → Prop)
    (id : ChannelId) :
    ¬ (Call.resume id).Closes among := by
  rintro ⟨other, same, -⟩
  exact nomatch same

theorem resumed_close
    (transport : Transport)
    (id : ChannelId) :
    (transport.close id).2.resumed = transport.resumed := by
  have closes : (Call.close id).Closes fun _ => True := ⟨id, rfl, trivial⟩
  exact (transport.asks_close closes).resumed (not_closes_resume _)

theorem resumed_write
    (transport : Transport)
    (id : ChannelId)
    (bytes : Bytes) :
    (transport.write id bytes).2.resumed = transport.resumed := by
  have asks : Asks (· = .write id bytes) transport (transport.write id bytes).2 :=
    asks_write _ rfl
  exact asks.resumed fun _ => nofun

theorem resumed_bind
    (transport : Transport)
    (address : SocketAddress) :
    (transport.bind address).2.resumed = transport.resumed := by
  have asked :
      (transport.bind address).2.calls = transport.reenter.calls ++ [.bind address] := by
    rw [bind]
    simp only
    split
    · rfl
    · rfl
  rw [resumed, asked, reenter]
  split
  · simp [record, resumed, resumed?]
  · simp [resumed, resumed?]

end Transport

/-- Everybody on the roster has the identity of the own connection. -/
def Roster.Linked
    (identityOf : ChannelId → Option Identity)
    (roster : Roster) :
    Prop :=
  ∀ identity member, roster.member? identity = some member →
    identityOf member.channel = some identity

namespace ServerCore

/-- The server lets the client in. -/
def Accepts
    (core : ServerCore)
    (member : Member) :
    Prop :=
  core.roster.shuttingDown = false ∧ core.roster.member? member.identity = none

instance (core : ServerCore) (member : Member) : Decidable (core.Accepts member) :=
  inferInstanceAs (Decidable (_ ∧ _))

/-- The job takes the connection off the roster, if it is on it. -/
def Removes
    (core : ServerCore)
    (id : ChannelId) :
    ServerJob → Prop
  | .leave member => member.channel = id
  | .kick identity =>
      ∃ member, core.roster.member? identity = some member ∧ member.channel = id
  | .beginShutdown => True
  | _ => False

/-- The connection that a job admits in the state that it finds. -/
def admitted? : ServerJob × ServerCore → Option ChannelId
  | (.join member, core) => if core.Accepts member then some member.channel else none
  | _ => none

/-- The connections that were admitted, in order. -/
def admissions (trail : List (ServerJob × ServerCore)) : List ChannelId :=
  trail.filterMap admitted?

/-- The connection was admitted, and no job took it off the roster since. -/
def Enlisted
    (trail : List (ServerJob × ServerCore))
    (id : ChannelId) :
    Prop :=
  ∃ front member core back,
    trail = front ++ (.join member, core) :: back ∧
      member.channel = id ∧ core.Accepts member ∧
      ∀ entry ∈ back, ¬ entry.2.Removes id entry.1

theorem Enlisted.mem_admissions
    {trail : List (ServerJob × ServerCore)}
    {id : ChannelId}
    (enlisted : Enlisted trail id) :
    id ∈ admissions trail := by
  obtain ⟨front, member, core, back, rfl, about, accepts, -⟩ := enlisted
  refine List.mem_filterMap.mpr ⟨(.join member, core), by simp, ?_⟩
  rw [admitted?, if_pos accepts, about]

theorem enlisted_snoc_iff
    {trail : List (ServerJob × ServerCore)}
    {task : ServerJob}
    {core : ServerCore}
    {id : ChannelId} :
    Enlisted (trail ++ [(task, core)]) id ↔
      (Enlisted trail id ∧ ¬ core.Removes id task) ∨
        ∃ member, task = .join member ∧ member.channel = id ∧ core.Accepts member := by
  constructor
  · rintro ⟨front, member, found, back, split, about, accepts, kept⟩
    rcases split_snoc split with ⟨-, same, -⟩ | ⟨shorter, whole, rfl⟩
    · obtain ⟨rfl, rfl⟩ := Prod.mk.inj same
      exact .inr ⟨member, rfl, about, accepts⟩
    · refine .inl ⟨⟨front, member, found, shorter, whole, about, accepts, ?_⟩, ?_⟩
      · exact fun entry there => kept entry (List.mem_append_left _ there)
      · exact kept (task, core) (by simp)
  · rintro (⟨⟨front, member, found, back, rfl, about, accepts, kept⟩, last⟩ |
      ⟨member, rfl, about, accepts⟩)
    · refine ⟨front, member, found, back ++ [(task, core)], by simp, about, accepts, ?_⟩
      intro entry there
      rcases List.mem_append.mp there with early | late
      · exact kept entry early
      · rw [List.mem_singleton.mp late]
        exact last
    · exact ⟨trail, member, core, [], rfl, about, accepts, by simp⟩

/-! ## What jobs make of the roster -/

/-- What a job can make of the roster. -/
inductive Enrols (core : ServerCore) : ServerJob → ServerCore → Prop
  | joined
    {member : Member}
    (accepts : core.Accepts member) :
    Enrols core (.join member)
      { core with
        roster := (core.roster.add member).2
        transport := core.transport.resume member.channel }
  | refused
    {member : Member}
    {after : ServerCore}
    (refuses : ¬ core.Accepts member)
    (roster : after.roster = core.roster)
    (transport : after.transport = (core.transport.close member.channel).2) :
    Enrols core (.join member) after
  | left
    {member : Member} :
    Enrols core (.leave member)
      { core with roster := (core.roster.remove member.identity member.channel).2 }
  | kicked
    {identity : Identity}
    {member : Member}
    {after : ServerCore}
    (found : core.roster.member? identity = some member)
    (roster : after.roster = (core.roster.remove identity member.channel).2) :
    Enrols core (.kick identity) after
  | unknown
    {identity : Identity}
    (absent : core.roster.member? identity = none) :
    Enrols core (.kick identity) core
  | drained
    {after : ServerCore}
    (roster : after.roster = core.roster.beginShutdown.drain.2) :
    Enrols core .beginShutdown after
  /-- The clients stay. -/
  | stays
    {task : ServerJob}
    {after : ServerCore}
    (roster : Roster)
    (keeps : ∀ id, ¬ core.Removes id task)
    (noJoin : ∀ member, task ≠ .join member)
    (members : roster.members = core.roster.members)
    (order : roster.order = core.roster.order)
    (identities : roster.identities = core.roster.identities)
    (shown : after.roster = core.roster ∨ after.roster = roster.publishState) :
    Enrols core task after

/-- Who is let in is on the roster and is read. -/
theorem join_of_accepts
    {core : ServerCore}
    {member : Member}
    (accepts : core.Accepts member) :
    core.join member =
        { core with
          roster := (core.roster.add member).2
          transport := core.transport.resume member.channel } ∧
      (core.roster.add member).2.member? member.identity = some member := by
  rw [join, Roster.add_of_absent accepts.1 accepts.2]
  exact ⟨rfl, (core.roster.member?_added member member.identity).trans (if_pos rfl)⟩

theorem enrols_join
    (core : ServerCore)
    (member : Member) :
    core.Enrols (.join member) (core.join member) := by
  rcases core.roster.add_cases member with ⟨cause, refused⟩ | ⟨running, absent, -⟩
  · have refuses : ¬ core.Accepts member := by
      rintro ⟨running, absent⟩
      simp [Roster.add, running, absent] at refused
    rw [join, refused]
    exact .refused refuses rfl rfl
  · rw [(join_of_accepts ⟨running, absent⟩).1]
    exact .joined ⟨running, absent⟩

theorem enrols_kick
    (core : ServerCore)
    (identity : Identity) :
    core.Enrols (.kick identity) (core.kick identity) := by
  rw [kick]
  split
  · rename_i absent
    exact .unknown absent
  · rename_i member found
    rcases removed : core.roster.remove identity member.channel with ⟨gone, roster⟩
    cases gone with
    | none => exact .kicked found (by rw [removed])
    | some other => exact .kicked found (by rw [removed])

theorem enrols_of_speaks
    {core after : ServerCore}
    {task : ServerJob}
    (speaks : Speaks core after)
    (keeps : ∀ id, ¬ core.Removes id task)
    (noJoin : ∀ member, task ≠ .join member) :
    core.Enrols task after :=
  .stays core.roster keeps noJoin rfl rfl rfl (.inl speaks.roster)

theorem enrols_listen
    (core : ServerCore)
    (port : UInt16) :
    core.Enrols (.listen port) (core.listen port) := by
  have keeps : ∀ id, ¬ core.Removes id (.listen port) := fun _ => id
  have noJoin : ∀ member, ServerJob.listen port ≠ .join member := by simp
  rw [listen]
  split
  · exact .stays core.roster keeps noJoin rfl rfl rfl (.inl rfl)
  · split
    · exact .stays core.roster keeps noJoin rfl rfl rfl (.inl rfl)
    · rcases bound : core.transport.bind { ip := core.bindIp, port } with ⟨outcome, transport⟩
      simp only [bound]
      cases outcome with
      | ok listener =>
          exact .stays { core.roster with bound := some listener.address, fault := none }
            keeps noJoin rfl rfl rfl (.inr rfl)
      | error reason =>
          exact .stays
            { core.roster with fault := some (.bind { ip := core.bindIp, port } reason) }
            keeps noJoin rfl rfl rfl (.inr rfl)

theorem enrols_stopListening (core : ServerCore) :
    core.Enrols .stopListening core.stopListening := by
  have keeps : ∀ id, ¬ core.Removes id .stopListening := fun _ => id
  have noJoin : ∀ member, ServerJob.stopListening ≠ .join member := by simp
  rw [stopListening]
  split
  · exact .stays core.roster keeps noJoin rfl rfl rfl (.inl rfl)
  · exact .stays { core.roster with bound := none, fault := none }
      keeps noJoin rfl rfl rfl (.inr rfl)

/-- These are all the things that jobs make of the roster. -/
theorem enrols_run
    (core : ServerCore)
    (task : ServerJob) :
    core.Enrols task (task.run core).2 := by
  cases task with
  | listen port => exact core.enrols_listen port
  | join member => exact core.enrols_join member
  | leave member => exact .left
  | send message target => exact enrols_of_speaks (core.speaks_send message target) nofun nofun
  | broadcast message => exact enrols_of_speaks (core.speaks_broadcast message) nofun nofun
  | kick identity => exact core.enrols_kick identity
  | stopListening => exact core.enrols_stopListening
  | beginShutdown => exact .drained core.clears_beginShutdown.1.roster
  | finishShutdown =>
      exact .stays
        { core.roster with shuttingDown := false, bound := none, fault := none }
        nofun nofun rfl rfl rfl (.inr rfl)

section

variable
  {core after : ServerCore}
  {task : ServerJob}
  {identityOf : ChannelId → Option Identity}

theorem Enrols.shown
    (enrols : core.Enrols task after)
    (shown : core.roster.Shown) :
    after.roster.Shown := by
  cases enrols with
  | joined accepts => exact shown.add _
  | refused refuses roster transport => exact roster ▸ shown
  | left => exact shown.remove _ _
  | kicked found roster => exact roster ▸ shown.remove _ _
  | unknown absent => exact shown
  | drained roster => exact roster ▸ Roster.shown_drain _
  | stays roster keeps noJoin members order identities published =>
      rcases published with same | published
      · exact same ▸ shown
      · exact published ▸ shown.publishState members order identities

theorem member?_of_remove
    {roster : Roster}
    {identity other : Identity}
    {channel : ChannelId}
    {member : Member}
    (found : (roster.remove identity channel).2.member? other = some member) :
    roster.member? other = some member := by
  rcases roster.remove_cases identity channel with same | ⟨_, -, -, removed⟩
  · rwa [same] at found
  · rw [removed, Roster.member?_removed] at found
    split at found
    · exact nomatch found
    · exact found

/-- Nobody gets onto the roster but by joining. -/
theorem Enrols.member?
    {identity : Identity}
    {member : Member}
    (enrols : core.Enrols task after)
    (found : after.roster.member? identity = some member) :
    core.roster.member? identity = some member ∨
      task = .join member ∧ member.identity = identity := by
  cases enrols with
  | @joined joining accepts =>
      change (core.roster.add joining).2.member? identity = some member at found
      rcases core.roster.add_cases joining with ⟨cause, refused⟩ | ⟨-, -, added⟩
      · rw [refused] at found
        exact .inl found
      · rw [added, Roster.member?_added] at found
        split at found
        · rename_i same
          obtain rfl := Option.some.inj found
          exact .inr ⟨rfl, same.symm⟩
        · exact .inl found
  | refused refuses roster transport => exact .inl (roster ▸ found)
  | left => exact .inl (member?_of_remove found)
  | kicked there roster => exact .inl (member?_of_remove (roster ▸ found))
  | unknown absent => exact .inl found
  | drained roster =>
      rw [roster, (core.roster.drain_beginShutdown).2.1.members] at found
      exact nomatch found
  | stays roster keeps noJoin members order identities published =>
      left
      rcases published with same | published
      · exact same ▸ found
      · rw [published, Roster.member?_publishState, Roster.member?, members] at found
        exact found

theorem Enrols.linked
    (enrols : core.Enrols task after)
    (linked : core.roster.Linked identityOf)
    (known : task.Linked identityOf) :
    after.roster.Linked identityOf := by
  intro identity member found
  rcases enrols.member? found with before | ⟨rfl, rfl⟩
  · exact linked identity member before
  · exact known

/-- A client that is taken out is there no more, and everybody else stays. -/
theorem holds_remove_iff
    {identity : Identity}
    {member : Member}
    (linked : core.roster.Linked identityOf)
    (found : core.roster.member? identity = some member)
    (id : ChannelId) :
    (core.roster.remove identity member.channel).2.Holds id ↔
      core.roster.Holds id ∧ member.channel ≠ id := by
  have removed :
      ∀ other, (core.roster.remove identity member.channel).2.member? other =
        if other = identity then none else core.roster.member? other := by
    intro other
    rcases core.roster.remove_cases identity member.channel with same | ⟨_, -, -, whole⟩
    · simp [Roster.remove, found] at same
    · rw [whole, Roster.member?_removed]
  constructor
  · intro held
    refine ⟨Roster.holds_of_remove held, ?_⟩
    rintro rfl
    obtain ⟨other, there, still, about⟩ := held
    rw [removed] at still
    split at still
    · cases still
    · rename_i different
      have theirs := linked other there still
      rw [about, linked identity member found] at theirs
      exact different (Option.some.inj theirs).symm
  · rintro ⟨held, different⟩
    exact (Roster.holds_remove held _ _).resolve_right (Ne.symm different)

/-- A connection that closes is there no more, also where it was not there: a connection has
one identity. -/
theorem holds_leave_iff
    {member : Member}
    (linked : core.roster.Linked identityOf)
    (known : identityOf member.channel = some member.identity)
    (id : ChannelId) :
    (core.roster.remove member.identity member.channel).2.Holds id ↔
      core.roster.Holds id ∧ member.channel ≠ id := by
  rcases core.roster.remove_cases member.identity member.channel with
    same | ⟨there, found, theirs, -⟩
  · rw [same]
    refine ⟨fun held => ⟨held, ?_⟩, And.left⟩
    rintro rfl
    obtain ⟨identity, there, found, theirs⟩ := held
    have own := linked identity there found
    rw [theirs] at own
    obtain rfl := Option.some.inj (known.symm.trans own)
    simp [Roster.remove, found, theirs] at same
  · rw [← theirs]
    exact holds_remove_iff linked found id

theorem removes_kick_iff
    {identity : Identity}
    {member : Member}
    (found : core.roster.member? identity = some member)
    {id : ChannelId} :
    core.Removes id (.kick identity) ↔ member.channel = id := by
  constructor
  · rintro ⟨other, there, about⟩
    obtain rfl := Option.some.inj (found.symm.trans there)
    exact about
  · exact fun about => ⟨member, found, about⟩

/-- Who is on the roster after a job was there before and was not taken out, or was
just admitted. -/
theorem Enrols.holds_iff
    (enrols : core.Enrols task after)
    (linked : core.roster.Linked identityOf)
    (known : task.Linked identityOf)
    (id : ChannelId) :
    after.roster.Holds id ↔
      (core.roster.Holds id ∧ ¬ core.Removes id task) ∨
        ∃ member, task = .join member ∧ member.channel = id ∧ core.Accepts member := by
  cases enrols with
  | @joined member accepts =>
      show (core.roster.add member).2.Holds id ↔ _
      rw [Roster.holds_add_iff (congrArg Prod.fst (Roster.add_of_absent accepts.1 accepts.2))]
      constructor
      · rintro (held | rfl)
        · exact .inl ⟨held, fun left => left⟩
        · exact .inr ⟨member, rfl, rfl, accepts⟩
      · rintro (⟨held, -⟩ | ⟨other, ⟨⟩, rfl, -⟩)
        · exact .inl held
        · exact .inr rfl
  | @refused member after refuses roster transport =>
      rw [roster]
      constructor
      · exact fun held => .inl ⟨held, fun left => left⟩
      · rintro (⟨held, -⟩ | ⟨other, ⟨⟩, -, accepts⟩)
        · exact held
        · exact (refuses accepts).elim
  | @left member =>
      show (core.roster.remove member.identity member.channel).2.Holds id ↔
        (core.roster.Holds id ∧ member.channel ≠ id) ∨ _
      rw [or_iff_left (by simp)]
      exact holds_leave_iff linked known id
  | @kicked identity member after found roster =>
      rw [roster, holds_remove_iff linked found, removes_kick_iff found, or_iff_left (by simp)]
  | @unknown identity absent =>
      rw [or_iff_left (by simp)]
      refine ⟨fun held => ⟨held, ?_⟩, And.left⟩
      rintro ⟨member, found, -⟩
      cases absent.symm.trans found
  | drained roster =>
      rw [roster, or_iff_left (by simp)]
      constructor
      · intro held
        exact (core.roster.drain_beginShutdown.2.1.not_holds id held).elim
      · rintro ⟨-, kept⟩
        exact (kept trivial).elim
  | stays roster keeps noJoin members order identities published =>
      have same : after.roster.Holds id ↔ core.roster.Holds id := by
        rcases published with same | published
        · rw [same]
        · rw [published]
          exact Roster.holds_publishState_iff members id
      rw [same]
      constructor
      · exact fun held => .inl ⟨held, keeps id⟩
      · rintro (⟨held, -⟩ | ⟨member, join, -, -⟩)
        · exact held
        · exact (noJoin member join).elim

end

/-! ## Who is read -/

theorem resumed_send
    (core : ServerCore)
    (message : String)
    (target : Option Identity) :
    (core.send message target).transport.resumed = core.transport.resumed := by
  rw [send]
  split
  · rfl
  · simp only
    split
    · exact Transport.resumed_write _ _ _
    · exact Transport.resumed_write _ _ _

theorem resumed_deliver
    (frame : Bytes)
    (core : ServerCore)
    (member : Member) :
    (deliver frame core member).transport.resumed = core.transport.resumed := by
  rw [deliver]
  simp only
  split
  · exact Transport.resumed_write _ _ _
  · exact Transport.resumed_write _ _ _

theorem resumed_broadcast
    (core : ServerCore)
    (message : String) :
    (core.broadcast message).transport.resumed = core.transport.resumed := by
  simp only [broadcast]
  apply List.foldlRecOn
    (motive := fun given : ServerCore => given.transport.resumed = core.transport.resumed)
    core.roster.toList
  · rfl
  · intro given same member _
    exact (resumed_deliver _ given member).trans same

theorem resumed_kick
    (core : ServerCore)
    (identity : Identity) :
    (core.kick identity).transport.resumed = core.transport.resumed := by
  rw [kick]
  split
  · rfl
  · split
    · rfl
    · exact Transport.resumed_close _ _

theorem resumed_listen
    (core : ServerCore)
    (port : UInt16) :
    (core.listen port).transport.resumed = core.transport.resumed := by
  rw [listen]
  split
  · rfl
  · split
    · rfl
    · have same := core.transport.resumed_bind { ip := core.bindIp, port }
      rcases bound : core.transport.bind { ip := core.bindIp, port } with ⟨outcome, transport⟩
      rw [bound] at same
      simp only [bound]
      cases outcome with
      | ok listener => exact same
      | error reason => exact same

theorem resumed_stopListening (core : ServerCore) :
    core.stopListening.transport.resumed = core.transport.resumed := by
  rw [stopListening]
  split
  · rfl
  · rename_i listener _
    have closes : (Call.close listener.id).Closes fun _ => True := ⟨_, rfl, trivial⟩
    exact (core.transport.asks_requestClose closes).resumed (Transport.not_closes_resume _)

/-- A job asks for a connection to be read where it admits the connection, and
nowhere else. -/
theorem resumed_run
    (core : ServerCore)
    (task : ServerJob) :
    (task.run core).2.transport.resumed =
      core.transport.resumed ++ (admitted? (task, core)).toList := by
  cases task with
  | listen port => exact (core.resumed_listen port).trans (List.append_nil _).symm
  | join member =>
      have enrols := core.enrols_join member
      show (core.join member).transport.resumed = _
      generalize core.join member = after at enrols
      cases enrols with
      | joined accepts =>
          simp [admitted?, accepts, Transport.resumed, Transport.resume, Transport.resumed?]
      | refused refuses roster transport =>
          rw [transport, Transport.resumed_close]
          simp [admitted?, refuses]
      | stays roster keeps noJoin => exact (noJoin member rfl).elim
  | leave member => exact (List.append_nil _).symm
  | send message target =>
      exact (core.resumed_send message target).trans (List.append_nil _).symm
  | broadcast message => exact (core.resumed_broadcast message).trans (List.append_nil _).symm
  | kick identity => exact (core.resumed_kick identity).trans (List.append_nil _).symm
  | stopListening => exact core.resumed_stopListening.trans (List.append_nil _).symm
  | beginShutdown =>
      have same := core.clears_beginShutdown.1.asks.resumed (Transport.not_closes_resume _)
      exact same.trans (List.append_nil _).symm
  | finishShutdown =>
      have same := core.finishShutdown_spec.2.2.2.2.resumed fun _ => id
      exact same.trans (List.append_nil _).symm

end ServerCore

/-! ## Sessions -/

namespace ServerSession

open ServerCore

/-- How the jobs that ran and the session go together. -/
structure Enrolment
    (trail : List (ServerJob × ServerCore))
    (session : ServerSession) : Prop where
  shown : session.core.roster.Shown
  linked : session.core.roster.Linked session.identity?
  queued : ∀ task, .run task ∈ session.context.queue → task.Linked session.identity?
  enlisted : ∀ id, session.core.roster.Holds id ↔ Enlisted trail id
  resumed : session.core.transport.resumed = admissions trail

theorem enrolment_start
    (names : String × String)
    (settings : ServerSettings)
    (policy : Option String → IdentityPolicy)
    (seed : Nat)
    (transport : Transport)
    (handler : String → Reaction ServerAction) :
    Enrolment [] (start names settings policy seed transport.unused handler) where
  shown := Roster.shown_watched
  linked _ _ := nofun
  queued _ := nofun
  enlisted id := by
    constructor
    · rintro ⟨identity, member, found, -⟩
      exact nomatch found
    · rintro ⟨front, member, core, back, split, -⟩
      simp at split
  resumed := rfl

variable
  {trail : List (ServerJob × ServerCore)}
  {session next : ServerSession}
  {task : ServerJob}

theorem linked_of_kept
    (kept :
      ∀ id identity, session.identity? id = some identity → next.identity? id = some identity)
    (known : task.Linked session.identity?) :
    task.Linked next.identity? := by
  cases task with
  | join member => exact kept _ _ known
  | leave member => exact kept _ _ known
  | _ => trivial

/-- Where jobs are handed in, closes are asked for and connections are added at
most. -/
theorem Enrolment.stirs
    {among : ServerJob → Prop}
    (enrolment : Enrolment trail session)
    (stirs : Stirs among session next)
    (kept :
      ∀ id identity, session.identity? id = some identity → next.identity? id = some identity)
    (known : ∀ task, among task → task.Linked next.identity?) :
    Enrolment trail next := by
  constructor
  · rw [stirs.roster]
    exact enrolment.shown
  · rw [stirs.roster]
    intro identity member found
    exact kept _ _ (enrolment.linked identity member found)
  · intro task there
    obtain ⟨jobs, queue, stirred, -⟩ := stirs.context.queue
    rw [queue] at there
    rcases List.mem_append.mp there with waited | fresh
    · exact linked_of_kept kept (enrolment.queued task waited)
    · exact known task (stirred task (by simpa using fresh))
  · rw [stirs.roster]
    exact enrolment.enlisted
  · rw [stirs.transport.resumed (Transport.not_closes_resume _)]
    exact enrolment.resumed

/-- Where a job ran. -/
theorem Enrolment.ran
    (enrolment : Enrolment trail session)
    (waited : .run task ∈ session.context.queue)
    (core : next.core = (task.run session.core).2)
    (links : next.links = session.links)
    (queued :
      ∀ other, .run other ∈ next.context.queue → .run other ∈ session.context.queue) :
    Enrolment (trail ++ [(task, session.core)]) next := by
  have enrols := session.core.enrols_run task
  have identities : next.identity? = session.identity? := by
    funext id
    rw [identity?, identity?, links]
  have known := enrolment.queued task waited
  constructor
  · rw [core]
    exact enrols.shown enrolment.shown
  · rw [core, identities]
    exact enrols.linked enrolment.linked known
  · intro other there
    rw [identities]
    exact enrolment.queued other (queued other there)
  · intro id
    rw [core, enrols.holds_iff enrolment.linked known, enlisted_snoc_iff,
      enrolment.enlisted id]
  · rw [core, resumed_run, enrolment.resumed, admissions, admissions, List.filterMap_append]
    cases admits : admitted? (task, session.core) with
    | none => simp [admits]
    | some id => simp [admits]

/-- Where no job ran, and phases of a shutdown were handed in at most. -/
theorem Enrolment.stays
    (enrolment : Enrolment trail session)
    (core : next.core = session.core)
    (links : next.links = session.links)
    (queued :
      ∀ task, .run task ∈ next.context.queue →
        .run task ∈ session.context.queue ∨ task = .beginShutdown ∨ task = .finishShutdown) :
    Enrolment trail next := by
  have identities : next.identity? = session.identity? := by
    funext id
    rw [identity?, identity?, links]
  constructor
  · rw [core]
    exact enrolment.shown
  · rw [core, identities]
    exact enrolment.linked
  · intro task there
    rw [identities]
    rcases queued task there with waited | rfl | rfl
    · exact enrolment.queued task waited
    · trivial
    · trivial
  · rw [core]
    exact enrolment.enlisted
  · rw [core]
    exact enrolment.resumed

end ServerSession

end LineProtocol
