import LineProtocol.Proofs.Dispatch.Threads
import LineProtocol.Proofs.Server.Admission

/-!
# When a server's handler may answer

A connection is read after the job that admits it asked for that.  So whatever the
handler of a message asks for runs behind that job, and finds the client on the roster
unless a job took it out since.

Each connection has an identity that was made for it.  Where identities are tokens and
no two of them are the same, the client on the roster that has the identity of a
connection is the one of that connection.
-/

namespace LineProtocol

namespace ServerCore

/-- The message is not sent because nobody has the identity. -/
def Misses
    (core : ServerCore)
    (text : String)
    (identity : Identity) :
    Prop :=
  core.send text (some identity) = core.note (.messageDropped (.unknownIdentity identity))

/-- A message to a client on the roster is written to the client's connection at most, and
what may be noted is that the connection does not take it. -/
theorem send_of_member
    {core : ServerCore}
    {identity : Identity}
    {member : Member}
    (found : core.roster.member? identity = some member)
    (text : String) :
    ((core.send text (some identity)).transport.calls = core.transport.calls ∨
        (core.send text (some identity)).transport.calls =
          core.transport.calls ++ [.write member.channel (core.encoder.encode text).1]) ∧
      ((core.send text (some identity)).notices = core.notices ∨
        (core.send text (some identity)).notices =
          core.notices ++ [.messageDropped (.notWritable member.channel)]) := by
  cases writable : core.transport.isWritable member.channel with
  | false =>
      simp only [send, recipient, found, Transport.write, writable]
      exact ⟨.inl rfl, .inr rfl⟩
  | true =>
      cases refuses : core.transport.refusesWrites with
      | false =>
          simp only [send, recipient, found, Transport.write, writable, refuses]
          exact ⟨.inr rfl, .inl rfl⟩
      | true =>
          simp only [send, recipient, found, Transport.write, writable, refuses]
          exact ⟨.inr rfl, .inr rfl⟩

theorem misses_iff
    {core : ServerCore}
    {text : String}
    {identity : Identity} :
    core.Misses text identity ↔ core.roster.member? identity = none := by
  cases found : core.roster.member? identity with
  | none => simp only [Misses, send, recipient, found]
  | some member =>
      simp only [reduceCtorEq, iff_false]
      intro misses
      have notices := congrArg ServerCore.notices misses
      rcases (send_of_member found text).2 with same | refused
      · rw [same] at notices
        simp [note] at notices
      · cases List.append_cancel_left (refused.symm.trans notices)

/-- The connection was admitted, and a job took it off the roster since. -/
def Removed
    (trail : List (ServerJob × ServerCore))
    (id : ChannelId) :
    Prop :=
  ∃ front member core back,
    trail = front ++ (.join member, core) :: back ∧
      member.channel = id ∧ core.Accepts member ∧
      ∃ entry ∈ back, entry.2.Removes id entry.1

/-- Whoever was admitted is on the roster or was taken off it. -/
theorem enlisted_or_removed
    {trail : List (ServerJob × ServerCore)}
    {id : ChannelId}
    (admitted : id ∈ admissions trail) :
    Enlisted trail id ∨ Removed trail id := by
  obtain ⟨⟨task, core⟩, there, admits⟩ := List.mem_filterMap.mp admitted
  cases task with
  | join member =>
      rw [admitted?] at admits
      split at admits
      · rename_i accepts
        obtain rfl := Option.some.inj admits
        obtain ⟨front, back, split⟩ := List.append_of_mem there
        by_cases removes : ∃ entry ∈ back, entry.2.Removes member.channel entry.1
        · exact .inr ⟨front, member, core, back, split, rfl, accepts, removes⟩
        · refine .inl ⟨front, member, core, back, split, rfl, accepts, ?_⟩
          exact fun entry there takes => removes ⟨entry, there, takes⟩
      · cases admits
  | _ => cases admits

end ServerCore

namespace ServerSession

open ServerCore

/-- How handlers work on a server. -/
def staff :
    Staff ServerSession ServerCore ServerJob (List Closing) Closing Step Parcel
      ServerAction where
  closedown := closedown
  crew session := session.core.crew
  withCrew session crew := session.alter fun core => { core with crew }
  given session parcel := { session with messages := session.messages ++ [parcel] }
  jobOf session parcel action := action.job (session.identityOf parcel.sender)
  reads?
    | .report id (.read _) => some id
    | _ => none

theorem staff_lawful : staff.Lawful where
  closedown := closedown_lawful
  crew_withCrew _ _ := rfl
  crew_given _ _ := rfl
  crew_submit session job := congrArg ServerCore.crew (session.context.state_submit job)
  crew _ _ := ⟨.of_eq rfl rfl rfl, rfl⟩
  given _ _ := rfl
  job _ _ action := by cases action <;> exact nofun

/-- A job that a handler can ask for. -/
def Asked (job : ServerJob) : Prop :=
  ∃ (action : ServerAction) (identityOf : Target → Identity), job = action.job identityOf

/-- What a thread does leaves connections and roster alone. -/
theorem stirs_thread
    {session next : ServerSession}
    {number : Nat}
    {act : Act ServerAction}
    (acted : staff.act? session number act = some next) :
    Stirs Asked session next ∧ next.links = session.links ∧ next.ways = session.ways := by
  have crewed : ∀ crew, Stirs Asked session (staff.withCrew session crew) :=
    fun crew => stirs_of_eq rfl rfl (.of_eq rfl rfl rfl)
  cases act with
  | take =>
      simp only [Staff.act?] at acted
      split at acted
      · rename_i parcel rest crew waits taken
        obtain rfl := Option.some.inj acted
        exact ⟨(crewed crew).trans (stirs_of_eq rfl rfl (.refl _)), rfl, rfl⟩
      · cases acted
  | ask action =>
      simp only [Staff.act?] at acted
      split at acted
      · obtain rfl := Option.some.inj acted
        exact ⟨session.stirs_submit ⟨action, _, rfl⟩, rfl, rfl⟩
      · cases acted
  | finish outcome =>
      obtain ⟨crew, -, rfl⟩ := Option.map_eq_some_iff.mp acted
      exact ⟨crewed crew, rfl, rfl⟩

/-! ## Identities that were made for connections -/

/-- Connections have numbers that were given out, and identities that were made for them. -/
structure Minted
    (policy : Option String → IdentityPolicy)
    (seed : Nat)
    (session : ServerSession) : Prop where
  policies : session.policy = policy
  seeds : session.seed = seed
  numbered : session.Numbered
  made :
    ∀ id identity, session.identity? id = some identity →
      ∃ name peer, identity = (policy name).identify (.ofSeed (seed + id.number)) peer

variable
  {policy : Option String → IdentityPolicy}
  {seed : Nat}
  {session next : ServerSession}

theorem Minted.stays
    (minted : Minted policy seed session)
    (links : next.links = session.links)
    (ways : next.ways = session.ways)
    (nextId : session.core.transport.nextId ≤ next.core.transport.nextId) :
    Minted policy seed next where
  policies := (congrArg (·.2.1) ways).trans minted.policies
  seeds := (congrArg (·.2.2) ways).trans minted.seeds
  numbered channel link found := by
    rw [links] at found
    exact Nat.lt_of_lt_of_le (minted.numbered channel link found) nextId
  made id identity known := by
    rw [identity?, links] at known
    exact minted.made id identity known

theorem Minted.aside
    {aside : Aside Step}
    (minted : Minted policy seed session)
    (happened : closedown.aside? session aside = some next) :
    Minted policy seed next := by
  have later := (stirs_aside? happened).transport.toLater.nextId
  cases aside with
  | act step =>
      obtain rfl := perform_of_act? happened
      rcases moved_cases minted.numbered (.act step) with
        ⟨-, grows⟩ | ⟨channel, link, chunk, found, -, moves⟩
      · change Grows session (session.perform step).2 at grows
        constructor
        · exact (congrArg (·.2.1) grows.ways).trans minted.policies
        · exact (congrArg (·.2.2) grows.ways).trans minted.seeds
        · exact grows.numbered
        · intro id identity known
          obtain ⟨link, found, rfl⟩ := Option.map_eq_some_iff.mp known
          cases before : session.links.find? id with
          | none =>
              obtain ⟨peer, name, rfl⟩ := grows.fresh id link before found
              exact ⟨name, peer, by rw [minted.policies, minted.seeds]⟩
          | some old =>
              obtain rfl := Option.some.inj ((grows.kept id old before).symm.trans found)
              exact minted.made id old.identity (Option.map_eq_some_iff.mpr ⟨old, before, rfl⟩)
      · have identities := identity?_read found chunk
        have ways := (session.read_eq channel link chunk).2.1
        rw [← moves] at identities ways
        constructor
        · exact (congrArg (·.2.1) ways).trans minted.policies
        · exact (congrArg (·.2.2) ways).trans minted.seeds
        · exact ((facade_lawful session.framing).kept session (.act step)
            ⟨rfl, minted.numbered⟩).2
        · intro id identity known
          exact minted.made id identity ((congrFun identities id).symm.trans known)
  | work =>
      obtain rfl := Option.some.inj happened
      have quiet := session.quiet_handleAll
      exact minted.stays quiet.links quiet.ways later
  | answer chosen receipt =>
      obtain ⟨-, rfl⟩ := Closedown.settles_of_answer happened
      exact minted.stays rfl rfl later
  | numbers count =>
      obtain rfl := Option.some.inj happened
      exact minted.stays rfl rfl later

/-! ## Runs -/

/-- What happens to a server whose handlers run in threads of their own. -/
abbrev Happening := Staffed.Event Step ServerAction

/-- A connection is read after the transport was asked to read it. -/
def ReadsResumed
    (start : Staffed ServerSession Closing)
    (events : List Happening) :
    Prop :=
  ∀ visit ∈ visits staff.step? start events, ∀ id ∈ staff.read? visit.2,
    .resume id ∈ visit.1.callers.session.core.transport.calls

instance (start : Staffed ServerSession Closing) (events : List Happening) :
    Decidable (ReadsResumed start events) :=
  inferInstanceAs
    (Decidable
      (∀ visit ∈ visits staff.step? start events, ∀ id ∈ staff.read? visit.2,
        .resume id ∈ visit.1.callers.session.core.transport.calls))

/-- The message is one of the client that has the connection. -/
def SentBy
    (session : ServerSession)
    (id : ChannelId)
    (parcel : Parcel) :
    Prop :=
  session.identity? id = some parcel.sender

/-- How the jobs that ran, the connections and a server with its threads go together. -/
structure Answering
    (policy : Option String → IdentityPolicy)
    (seed : Nat)
    (trail : List (ServerJob × ServerCore))
    (staffed : Staffed ServerSession Closing) : Prop where
  sound : closedown.Sound staffed.callers
  minted : Minted policy seed staffed.callers.session
  enrolment : Enrolment trail staffed.callers.session
  admitted : ∀ id, staffed.Marks id → id ∈ admissions trail
  recorded : staff.Recorded SentBy staffed

variable
  {trail : List (ServerJob × ServerCore)}
  {start staffed final : Staffed ServerSession Closing}
  {events : List Happening}
  {event : Happening}

/-- A step that brings octets is one that reads a connection. -/
theorem reads?_of_read?
    {step : Step}
    {id : ChannelId}
    {chunk : Bytes}
    (reads : session.read? (.act step) = some (id, chunk)) :
    staff.reads? step = some id := by
  unfold read? at reads
  split at reads
  · rename_i other octets same
    obtain rfl := Move.act.inj same
    obtain ⟨link, -, brings⟩ := Option.map_eq_some_iff.mp reads
    exact congrArg some (Prod.mk.inj brings).1
  · exact nomatch reads

/-- A connection keeps its identity, whatever happens. -/
theorem identity?_step?
    (sound : closedown.Sound staffed.callers)
    (numbered : staffed.callers.session.Numbered)
    (stepped : staff.step? staffed event = some final)
    {id : ChannelId}
    {identity : Identity}
    (known : staffed.callers.session.identity? id = some identity) :
    final.callers.session.identity? id = some identity := by
  have still : ∀ after : ServerSession, after.links = staffed.callers.session.links →
      after.identity? id = some identity := by
    intro after links
    rw [identity?, links]
    exact known
  rcases Staff.step?_cases stepped with
    ⟨turn, callers, rfl, -, turned, rfl⟩ | ⟨number, act, session, rfl, acted, rfl⟩
  · rcases turn_cases sound turned with
      ⟨aside, session, rfl, happened, rfl⟩ | ⟨task, rfl, runs⟩ | ⟨-, -, stays⟩
    · exact identity?_aside? numbered happened known
    · exact still _ runs.links
    · exact still _ stays.links
  · rw [Staff.session_acted]
    exact still _ (stirs_thread acted).2.1

/-- What happens to a server's crew in a turn. -/
theorem hands_turn
    {callers after : Callers ServerSession Closing}
    {turn : Turn Step}
    (sound : closedown.Sound callers)
    (numbered : callers.session.Numbered)
    (stepped : closedown.step? callers turn = some after) :
    Staff.Hands after.session.SentBy (staff.turnReads? turn) callers.session.core.crew
      after.session.core.crew := by
  rcases turn_cases sound stepped with
    ⟨aside, session, rfl, happened, rfl⟩ | ⟨task, rfl, runs⟩ | ⟨-, -, stays⟩
  · cases aside with
    | act step =>
        obtain rfl := perform_of_act? happened
        rcases moved_cases numbered (.act step) with
          ⟨-, grows⟩ | ⟨channel, link, chunk, found, reads, moves⟩
        · exact Staff.hands_of_quiet grows.crew
        · change (callers.session.perform step).2 = _ at moves
          have same := reads?_of_read? reads
          change Staff.Hands _ (staff.reads? step) _ _
          rw [moves, (callers.session.read_eq channel link chunk).2.2.1, same]
          apply Staff.hands_of_reads
          intro text
          rw [SentBy, identity?_read found, identity?, found]
          rfl
    | work =>
        obtain rfl := Option.some.inj happened
        exact Staff.hands_of_quiet callers.session.quiet_handleAll.core.crew
    | answer chosen receipt =>
        obtain ⟨-, rfl⟩ := Closedown.settles_of_answer happened
        exact Staff.hands_of_quiet (.refl _)
    | numbers count =>
        obtain rfl := Option.some.inj happened
        exact Staff.hands_of_quiet (.refl _)
  · rw [runs.core]
    exact Staff.hands_of_quiet (ServerJob.keeps_quiet.run false task callers.session.core).crew
  · rw [stays.core]
    exact Staff.hands_of_quiet (.refl _)

/-- What happens to a session, to its connections and to its roster. -/
theorem Answering.session_step?
    (answering : Answering policy seed trail staffed)
    (stepped : staff.step? staffed event = some final) :
    Minted policy seed final.callers.session ∧
      Enrolment (trail ++ (staff.ran? (staffed, event)).toList) final.callers.session := by
  obtain ⟨sound, minted, enrolment, -, -⟩ := answering
  rcases Staff.step?_cases stepped with
    ⟨turn, callers, rfl, -, turned, rfl⟩ | ⟨number, act, session, rfl, acted, rfl⟩
  · rcases turn_cases sound turned with
      ⟨aside, session, rfl, happened, rfl⟩ | ⟨task, rfl, runs⟩ | ⟨apart, idle, stays⟩
    · have nothing : staff.ran? (staffed, .turn (.aside aside)) = none := rfl
      rw [nothing, Option.toList_none, List.append_nil]
      refine ⟨minted.aside happened, ?_⟩
      apply enrolment.stirs (stirs_aside? happened)
      · exact fun id identity => identity?_aside? minted.numbered happened
      · exact fun task stirred => stirred.linked
    · have ways := (links_of_step? turned nofun).2
      rw [Staff.ran?_of_next? runs.first]
      exact ⟨minted.stays runs.links ways runs.later.nextId,
        enrolment.ran runs.mem runs.core runs.links runs.queued⟩
    · have ways := (links_of_step? turned apart).2
      rw [Staff.ran?_of_idle idle, Option.toList_none, List.append_nil]
      refine ⟨minted.stays stays.links ways ?_,
        enrolment.stays stays.core stays.links stays.queued⟩
      exact Nat.le_of_eq (congrArg (·.transport.nextId) stays.core).symm
  · rw [Staff.session_acted]
    obtain ⟨stirs, links, ways⟩ := stirs_thread acted
    refine ⟨minted.stays links ways stirs.transport.nextId, ?_⟩
    show Enrolment (trail ++ []) session
    rw [List.append_nil]
    apply enrolment.stirs stirs
    · intro id identity known
      rw [identity?, links]
      exact known
    · rintro task ⟨action, identityOf, rfl⟩
      cases action <;> trivial

theorem Answering.step
    (answering : Answering policy seed trail staffed)
    (stepped : staff.step? staffed event = some final)
    (resumed :
      ∀ id, staff.read? event = some id →
        .resume id ∈ staffed.callers.session.core.transport.calls) :
    Answering policy seed (trail ++ (staff.ran? (staffed, event)).toList) final := by
  obtain ⟨minted, enrolment⟩ := answering.session_step? stepped
  refine ⟨Staff.sound_step? staff_lawful answering.sound stepped, minted, enrolment, ?_, ?_⟩
  · intro id marks
    rw [admissions_append]
    apply List.mem_append_left
    rcases Staff.marks_step? stepped marks with before | reads
    · exact answering.admitted id before
    · rw [← answering.enrolment.resumed]
      exact Transport.mem_resumed_iff.mpr (resumed id reads)
  · have numbered := answering.minted.numbered
    apply answering.recorded.stepped staff_lawful stepped
    · exact fun _ _ known => identity?_step? answering.sound numbered stepped known
    · exact fun turn callers turned _ => hands_turn answering.sound numbered turned

/-- A new server with its threads. -/
def fresh
    (names : String × String)
    (settings : ServerSettings)
    (policy : Option String → IdentityPolicy)
    (seed : Nat)
    (transport : Transport)
    (handler : String → Reaction ServerAction) :
    Staffed ServerSession Closing :=
  { callers := { session := .start names settings policy seed transport.unused handler } }

theorem answering_run
    {names : String × String}
    {settings : ServerSettings}
    {transport : Transport}
    {handler : String → Reaction ServerAction}
    (ran : staff.run? (fresh names settings policy seed transport handler) events = some final)
    (resumed : ReadsResumed (fresh names settings policy seed transport handler) events) :
    Answering policy seed
      (staff.trail (fresh names settings policy seed transport handler) events) final := by
  induction ran using foldlM_induction with
  | none =>
      constructor
      · exact Closedown.sound_start rfl rfl rfl
      · exact ⟨rfl, rfl, nofun, nofun⟩
      · exact enrolment_start names settings policy seed transport handler
      · rintro id (handed | ⟨number, holds⟩ | asked)
        · exact nomatch handed
        · exact nomatch holds
        · exact nomatch asked
      · exact Staff.recorded_start rfl (Crew.idle_ofThreads _ _)
  | snoc events event between final before stepped ih =>
      rw [Staff.trail_snoc before]
      rw [ReadsResumed, visits_snoc before] at resumed
      apply (ih fun visit visited => resumed visit (List.mem_append_left _ visited)).step stepped
      exact resumed (between, event) (List.mem_append_right _ List.mem_cons_self)

/-- Where identities are tokens and no two of them are the same, an identity is that of one
connection. -/
theorem Minted.eq_of_identity?
    (minted : Minted policy seed session)
    (generated : ∀ name, policy name = .generated)
    (distinct :
      ∀ one other, session.Knows one → session.Knows other →
        Token.ofSeed (seed + one.number) = Token.ofSeed (seed + other.number) → one = other)
    {one other : ChannelId}
    {identity : Identity}
    (first : session.identity? one = some identity)
    (second : session.identity? other = some identity) :
    one = other := by
  have token : ∀ id, session.identity? id = some identity →
      identity = .token (.ofSeed (seed + id.number)) := by
    intro id known
    obtain ⟨name, peer, made⟩ := minted.made id identity known
    rw [made, generated name]
    rfl
  apply distinct one other (knows_of_identity? first) (knows_of_identity? second)
  exact Identity.token.inj ((token one first).symm.trans (token other second))

/-- A handler's job runs behind the admission of its message's connection.  A reply to the
sender finds nobody only where the sender was taken off the roster since, and it is written
to nobody else. -/
theorem Answering.reply
    (answering : Answering policy seed trail final)
    {id : ChannelId}
    {task : ServerJob}
    (answers : staff.Answers final id task) :
    id ∈ admissions trail ∧
      ∀ text identity, task = .send text (some identity) →
        final.callers.session.identity? id = some identity →
          (final.callers.session.core.Misses text identity → Removed trail id) ∧
            ((∀ name, policy name = .generated) →
              (∀ one other, final.callers.session.Knows one →
                final.callers.session.Knows other →
                  Token.ofSeed (seed + one.number) = Token.ofSeed (seed + other.number) →
                    one = other) →
                (task.run final.callers.session.core).2.transport.calls =
                    final.callers.session.core.transport.calls ∨
                  (task.run final.callers.session.core).2.transport.calls =
                    final.callers.session.core.transport.calls ++
                      [.write id (final.callers.session.core.encoder.encode text).1]) := by
  obtain ⟨-, minted, enrolment, admitted, -⟩ := answering
  have mine : id ∈ admissions trail :=
    admitted id (.inr (.inr (List.mem_of_mem_head? answers.2)))
  refine ⟨mine, ?_⟩
  rintro text identity rfl theirs
  refine ⟨fun misses => ?_, fun generated distinct => ?_⟩
  · rcases enlisted_or_removed mine with enlisted | removed
    · obtain ⟨other, member, found, about⟩ := (enrolment.enlisted id).mpr enlisted
      have own := enrolment.linked other member found
      rw [about, theirs] at own
      obtain rfl := Option.some.inj own
      exact nomatch (misses_iff.mp misses).symm.trans found
    · exact removed
  · show (final.callers.session.core.send text (some identity)).transport.calls = _ ∨
      (final.callers.session.core.send text (some identity)).transport.calls = _
    cases found : final.callers.session.core.roster.member? identity with
    | none =>
        left
        simp only [send, recipient, found]
        rfl
    | some member =>
        have own := enrolment.linked identity member found
        have same := minted.eq_of_identity? generated distinct own theirs
        rw [← same]
        exact (send_of_member found text).1

end ServerSession

end LineProtocol
