import LineProtocol.Proofs.Server.Enrolment
import LineProtocol.Proofs.Server.Shutdown

/-!
# How connections are admitted

A connection that opens hands in a job, and that job admits it or turns it away.
Two connections may carry the same name, and their jobs to join and to leave, and
those that kick them, may come in any order.

`openings` are the connections that were reported as open.  Each of them waits to
join, was admitted, or was closed, and in that order the jobs to join are run.  If
no connection is reported as open twice, each is read at most once, and a late
report about one that was turned away does not concern the client that has the
identity now.
-/

namespace LineProtocol

namespace ServerSession

open ServerCore

/-- The connection that a turn reports as open. -/
def opened? : Callers ServerSession Closing × Turn Step → Option ChannelId
  | (_, .aside (.act (.report id (.established _)))) => some id
  | (callers, .aside (.act (.join _ _))) =>
      if callers.session.core.transport.listeners = [] then none
      else some ⟨callers.session.core.transport.nextId⟩
  | _ => none

/-- The connections that were reported as open, in order. -/
def openings
    (start : Callers ServerSession Closing)
    (turns : List (Turn Step)) :
    List ChannelId :=
  (visits closedown.step? start turns).filterMap opened?

/-- The connection that a job lets join. -/
def joining? : Envelope ServerJob → Option ChannelId
  | .run (.join member) => some member.channel
  | _ => none

/-- The connections that wait to join, in order. -/
def joining (session : ServerSession) : List ChannelId :=
  session.context.queue.filterMap joining?

/-- The connections whose jobs to join ran, in order. -/
def joined (trail : List (ServerJob × ServerCore)) : List ChannelId :=
  trail.filterMap fun entry => joining? (.run entry.1)

variable
  {start callers next : Callers ServerSession Closing}
  {turns : List (Turn Step)}
  {turn : Turn Step}
  {id : ChannelId}

theorem openings_snoc_of_some
    (ran : closedown.run? start turns = some callers)
    (opens : opened? (callers, turn) = some id) :
    openings start (turns ++ [turn]) = openings start turns ++ [id] := by
  rw [openings, visits_snoc ran, List.filterMap_append, List.filterMap_cons_some opens]
  rfl

theorem openings_snoc_of_none
    (ran : closedown.run? start turns = some callers)
    (opens : opened? (callers, turn) = none) :
    openings start (turns ++ [turn]) = openings start turns := by
  rw [openings, visits_snoc ran, List.filterMap_append, List.filterMap_cons_none opens]
  exact List.append_nil _

theorem opened?_of_opens
    {step : Step}
    (opens : callers.session.Opens step id) :
    opened? (callers, .aside (.act step)) = some id := by
  rcases opens with ⟨marks, rfl⟩ | ⟨peer, name, rfl, bound, rfl⟩
  · rfl
  · exact if_neg bound

theorem opens_of_opened?
    (opens : opened? (callers, turn) = some id) :
    ∃ step, turn = .aside (.act step) ∧ callers.session.Opens step id := by
  unfold opened? at opens
  split at opens
  · rename_i marks same
    obtain ⟨-, rfl⟩ := Prod.mk.inj same
    obtain rfl := Option.some.inj opens
    exact ⟨_, rfl, .inl ⟨marks, rfl⟩⟩
  · rename_i peer name same
    obtain ⟨rfl, rfl⟩ := Prod.mk.inj same
    split at opens
    · exact nomatch opens
    · rename_i bound
      obtain rfl := Option.some.inj opens
      exact ⟨_, rfl, .inr ⟨peer, name, rfl, bound, rfl⟩⟩
  · exact nomatch opens

/-! ## Who waits to join -/

/-- A turn that reports no connection as open lets none wait. -/
theorem joining_of_none
    {aside : Aside Step}
    {session : ServerSession}
    (happened : closedown.aside? callers.session aside = some session)
    (opens : opened? (callers, .aside aside) = none) :
    session.joining = callers.session.joining := by
  obtain ⟨jobs, queue, stirred, -⟩ := (stirs_aside? happened).context.queue
  have none : (jobs.map Envelope.run).filterMap joining? = [] := by
    rw [List.filterMap_eq_nil_iff]
    intro envelope there
    obtain ⟨job, member, rfl⟩ := List.mem_map.mp there
    cases job with
    | join member' =>
        obtain ⟨step, rfl, opening⟩ := (stirred _ member).join member' rfl
        exact nomatch (opened?_of_opens opening).symm.trans opens
    | _ => rfl
  rw [joining, queue, List.filterMap_append, none, List.append_nil]
  rfl

/-- A connection that is open waits behind the others, or is closed where jobs are
not taken any more. -/
theorem joining_established
    (session : ServerSession)
    (id : ChannelId)
    (identity : Identity) :
    (session.established id identity).joining = session.joining ++ [id] ∨
      ((session.established id identity).joining = session.joining ∧
        (session.established id identity).core.transport.GivenUp id) := by
  rw [established, submit]
  rcases session.context.submit_cases (.join { identity, channel := id }) with
    ⟨-, -, accepted⟩ | ⟨-, refused⟩
  · left
    rw [accepted]
    exact List.filterMap_append
  · right
    rw [refused]
    exact ⟨rfl, Transport.givenUp_close _ id⟩

theorem joining_report
    {session : ServerSession}
    (known : session.Knows id)
    (marks : Bool) :
    (session.report id (.established marks)).2.joining = session.joining ++ [id] ∨
      ((session.report id (.established marks)).2.joining = session.joining ∧
        (session.report id (.established marks)).2.core.transport.GivenUp id) := by
  obtain ⟨link, found⟩ := Option.isSome_iff_exists.mp known
  simp only [ServerSession.report, found]
  exact joining_established (session.alterTransport _) id link.identity

theorem joining_of_opens
    {session next : ServerSession}
    {step : Step}
    (acted : session.act? step = some next)
    (opens : session.Opens step id) :
    next.joining = session.joining ++ [id] ∨
      (next.joining = session.joining ∧ next.core.transport.GivenUp id) := by
  rcases opens with ⟨marks, rfl⟩ | ⟨peer, name, rfl, bound, rfl⟩
  · simp only [act?] at acted
    split at acted
    · rename_i known
      obtain rfl := Option.some.inj acted
      exact joining_report known marks
    · cases acted
  · obtain rfl := Option.some.inj acted
    obtain ⟨-, -, known⟩ := stirs_accept (fun _ => True) session peer name
    have present : session.core.transport.listeners.isEmpty = false := by simpa using bound
    simp only [perform, reportListener, present]
    exact joining_report known true

/-- What happens beside the jobs opens no connection, or one that waits behind the others or is
closed. -/
theorem openings_aside_cases
    {aside : Aside Step}
    {session : ServerSession}
    (ran : closedown.run? start turns = some callers)
    (happened : closedown.aside? callers.session aside = some session) :
    (openings start (turns ++ [.aside aside]) = openings start turns ∧
        session.joining = callers.session.joining) ∨
      ∃ id,
        openings start (turns ++ [.aside aside]) = openings start turns ++ [id] ∧
          (session.joining = callers.session.joining ++ [id] ∨
            (session.joining = callers.session.joining ∧
              session.core.transport.GivenUp id)) := by
  cases opens : opened? (callers, .aside aside) with
  | none => exact .inl ⟨openings_snoc_of_none ran opens, joining_of_none happened opens⟩
  | some id =>
      obtain ⟨step, same, opening⟩ := opens_of_opened? opens
      obtain rfl := Turn.aside.inj same
      exact .inr ⟨id, openings_snoc_of_some ran opens, joining_of_opens happened opening⟩

theorem joining_of_runs
    {task : ServerJob}
    (runs : Runs task callers next) :
    callers.session.joining = (joining? (.run task)).toList ++ next.session.joining := by
  rw [joining, runs.queue]
  cases joins : joining? (.run task) with
  | none => exact List.filterMap_cons_none joins
  | some id => exact List.filterMap_cons_some joins

theorem joining_of_stays
    (stays : Stays callers next) :
    next.session.joining = callers.session.joining := by
  obtain ⟨rest, more, waited, left, phases⟩ := stays.queue
  have none : more.filterMap joining? = [] := by
    rw [List.filterMap_eq_nil_iff]
    intro envelope there
    cases envelope with
    | stop => rfl
    | run task =>
        rcases phases task there with rfl | rfl
        · rfl
        · rfl
  rw [joining, joining, left, List.filterMap_append, none, List.append_nil]
  rcases waited with same | ends
  · rw [same]
  · rw [ends]
    rfl

theorem joined_snoc
    (trail : List (ServerJob × ServerCore))
    (task : ServerJob)
    (core : ServerCore) :
    joined (trail ++ [(task, core)]) = joined trail ++ (joining? (.run task)).toList := by
  rw [joined, joined, List.filterMap_append]
  cases joins : joining? (.run task) with
  | none => simp [joins]
  | some id => simp [joins]

theorem admissions_sublist (trail : List (ServerJob × ServerCore)) :
    (admissions trail).Sublist (joined trail) := by
  induction trail with
  | nil => exact .refl _
  | cons entry trail ih =>
      obtain ⟨task, core⟩ := entry
      cases task with
      | join member =>
          by_cases accepts : core.Accepts member
          · have admits : admitted? (.join member, core) = some member.channel := if_pos accepts
            rw [admissions, List.filterMap_cons_some admits]
            exact ih.cons_cons _
          · have admits : admitted? (.join member, core) = none := if_neg accepts
            rw [admissions, List.filterMap_cons_none admits]
            exact ih.cons _
      | _ => exact ih

/-! ## Where every connection is -/

/-- How the connections that opened, the jobs that ran and the session go together. -/
structure Admitting
    (start : Callers ServerSession Closing)
    (turns : List (Turn Step))
    (callers : Callers ServerSession Closing) : Prop where
  enrolment : Enrolment (closedown.trail start turns) callers.session
  awaited :
    (joined (closedown.trail start turns) ++ callers.session.joining).Sublist
      (openings start turns)
  decided :
    ∀ id ∈ openings start turns,
      id ∈ callers.session.joining ∨ id ∈ admissions (closedown.trail start turns) ∨
        callers.session.core.transport.GivenUp id

theorem admitting_start
    (names : String × String)
    (settings : ServerSettings)
    (policy : Option String → IdentityPolicy)
    (seed : Nat)
    (transport : Transport)
    (handler : String → Reaction ServerAction) :
    let server : Callers ServerSession Closing :=
      { session := .start names settings policy seed transport.unused handler }
    Admitting server [] server where
  enrolment := enrolment_start names settings policy seed transport handler
  awaited := .refl _
  decided _ := nofun

theorem numbered_of_accounted
    (accounted : Accounted start turns callers) :
    callers.session.Numbered := by
  intro channel link found
  apply accounted.ledger.older
  rw [Knows, found]
  rfl

theorem Admitting.aside
    {aside : Aside Step}
    {session : ServerSession}
    (admitting : Admitting start turns callers)
    (accounted : Accounted start turns callers)
    (ran : closedown.run? start turns = some callers)
    (happened : closedown.aside? callers.session aside = some session) :
    Admitting start (turns ++ [.aside aside]) { callers with session } := by
  have stirs := stirs_aside? happened
  have trail : closedown.trail start (turns ++ [.aside aside]) = closedown.trail start turns :=
    Closedown.trail_snoc_of_none ran nofun
  have givenUp : ∀ id, callers.session.core.transport.GivenUp id →
      session.core.transport.GivenUp id :=
    fun id givenUp => givenUp.later stirs.transport.toLater accounted.numbered
  constructor
  · rw [trail]
    refine admitting.enrolment.stirs stirs ?_ fun task stirred => stirred.linked
    exact fun id identity => identity?_aside? (numbered_of_accounted accounted) happened
  · rw [trail]
    show (joined _ ++ session.joining).Sublist _
    rcases openings_aside_cases ran happened with
      ⟨opens, same⟩ | ⟨id, opens, waits | ⟨same, -⟩⟩
    · rw [opens, same]
      exact admitting.awaited
    · rw [opens, waits, ← List.append_assoc]
      exact admitting.awaited.append (.refl _)
    · rw [opens, same]
      exact admitting.awaited.trans (List.sublist_append_left _ _)
  · rw [trail]
    intro id there
    show id ∈ session.joining ∨ _ ∨ session.core.transport.GivenUp id
    have earlier : callers.session.joining ⊆ session.joining → id ∈ openings start turns →
        id ∈ session.joining ∨ id ∈ admissions (closedown.trail start turns) ∨
          session.core.transport.GivenUp id :=
      fun kept early => (admitting.decided id early).imp (@kept id) (Or.imp_right (givenUp id))
    rcases openings_aside_cases ran happened with
      ⟨opens, same⟩ | ⟨other, opens, waits | ⟨same, closed⟩⟩
    · rw [opens] at there
      rw [same] at earlier ⊢
      exact earlier (List.Subset.refl _) there
    · rw [opens] at there
      rw [waits] at earlier ⊢
      rcases List.mem_append.mp there with early | new
      · exact earlier (List.subset_append_left _ _) early
      · exact .inl (List.mem_append_right _ new)
    · rw [opens] at there
      rw [same] at earlier ⊢
      rcases List.mem_append.mp there with early | new
      · exact earlier (List.Subset.refl _) early
      · rw [List.mem_singleton.mp new]
        exact .inr (.inr closed)

/-- A job to join admits its connection or closes it. -/
theorem admitted_or_givenUp
    {member : Member}
    (runs : Runs (.join member) callers next) :
    admitted? (.join member, callers.session.core) = some member.channel ∨
      next.session.core.transport.GivenUp member.channel := by
  have enrols := callers.session.core.enrols_run (.join member)
  rw [← runs.core] at enrols
  generalize next.session.core = after at enrols
  cases enrols with
  | joined accepts => exact .inl (if_pos accepts)
  | refused _ _ closed =>
      right
      rw [closed]
      exact Transport.givenUp_close _ _
  | stays _ _ noJoin => exact (noJoin member rfl).elim

theorem Admitting.ran
    {task : ServerJob}
    (admitting : Admitting start turns callers)
    (accounted : Accounted start turns callers)
    (ran : closedown.run? start turns = some callers)
    (runs : Runs task callers next) :
    Admitting start (turns ++ [.serve]) next := by
  have trail : closedown.trail start (turns ++ [.serve]) =
      closedown.trail start turns ++ [(task, callers.session.core)] :=
    Closedown.trail_snoc_of_next? ran runs.first
  have opens : openings start (turns ++ [.serve]) = openings start turns :=
    openings_snoc_of_none ran rfl
  have joining := joining_of_runs runs
  constructor
  · rw [trail]
    exact admitting.enrolment.ran runs.mem runs.core runs.links runs.queued
  · have awaited := admitting.awaited
    rw [joining, ← List.append_assoc] at awaited
    rw [trail, opens, joined_snoc]
    exact awaited
  · rw [trail, opens, admissions, List.filterMap_append]
    intro id there
    rcases admitting.decided id there with waits | admitted | givenUp
    · rw [joining] at waits
      rcases List.mem_append.mp waits with now | later
      · cases task with
        | join member =>
            obtain rfl : id = member.channel := by simpa [joining?] using now
            rcases admitted_or_givenUp runs with admits | givenUp
            · right
              left
              apply List.mem_append_right
              exact List.mem_filterMap.mpr ⟨_, List.mem_cons_self, admits⟩
            · exact .inr (.inr givenUp)
        | _ => simp [joining?] at now
      · exact .inl later
    · exact .inr (.inl (List.mem_append_left _ admitted))
    · exact .inr (.inr (givenUp.later runs.later accounted.numbered))

theorem Admitting.stays
    (admitting : Admitting start turns callers)
    (ran : closedown.run? start turns = some callers)
    (apart : ∀ aside, turn ≠ .aside aside)
    (idle : turn = .serve → callers.session.context.next? = none)
    (stays : Stays callers next) :
    Admitting start (turns ++ [turn]) next := by
  have trail : closedown.trail start (turns ++ [turn]) = closedown.trail start turns :=
    Closedown.trail_snoc_of_none ran idle
  have opens : openings start (turns ++ [turn]) = openings start turns := by
    apply openings_snoc_of_none ran
    cases turn with
    | aside aside => exact (apart aside rfl).elim
    | _ => rfl
  constructor
  · rw [trail]
    exact admitting.enrolment.stays stays.core stays.links stays.queued
  · rw [trail, opens, joining_of_stays stays]
    exact admitting.awaited
  · rw [trail, opens, joining_of_stays stays, stays.core]
    exact admitting.decided

theorem Admitting.run
    {final : Callers ServerSession Closing}
    (starts : closedown.Sound start)
    (accounted : Accounted start [] start)
    (admitting : Admitting start [] start)
    (ran : closedown.run? start turns = some final) :
    Admitting start turns final := by
  induction ran using foldlM_induction with
  | none => exact admitting
  | snoc turns turn between final before stepped ih =>
      have accounted := accounted.run starts before
      rcases turn_cases (starts.run closedown_lawful before) stepped with
        ⟨aside, session, rfl, happened, rfl⟩ | ⟨task, rfl, runs⟩ | ⟨apart, idle, stays⟩
      · exact ih.aside accounted before happened
      · exact ih.ran accounted before runs
      · exact ih.stays before apart idle stays

/-! ## What the order keeps -/

/-- The connection opened, and it neither waits to join nor was admitted. -/
def TurnedAway
    (start : Callers ServerSession Closing)
    (turns : List (Turn Step))
    (callers : Callers ServerSession Closing)
    (id : ChannelId) :
    Prop :=
  id ∈ openings start turns ∧ id ∉ callers.session.joining ∧
    id ∉ admissions (closedown.trail start turns)

/-- A client is let in: before the transport is asked to read the connection, the
roster has the client under the identity of the connection, and shows it. -/
structure LetsIn
    (member : Member)
    (callers next : Callers ServerSession Closing)
    (enrolled : ServerCore) : Prop where
  job : callers.session.context.next? = some (.join member)
  accepts : callers.session.core.Accepts member
  identity : callers.session.identity? member.channel = some member.identity
  unasked : enrolled.transport = callers.session.core.transport
  found : enrolled.roster.member? member.identity = some member
  identities :
    enrolled.roster.identities.value =
      callers.session.core.roster.identities.value ++ [member.identity]
  state :
    enrolled.roster.state.value =
      .derive enrolled.roster.bound.isSome enrolled.roster.identities.value.length false
        enrolled.roster.fault
  resumes :
    next.session.core =
      { enrolled with transport := enrolled.transport.resume member.channel }

theorem letsIn_of_runs
    {member : Member}
    (enrolment : Enrolment (closedown.trail start turns) callers.session)
    (accepts : callers.session.core.Accepts member)
    (runs : Runs (.join member) callers next) :
    LetsIn member callers next
      { callers.session.core with roster := (callers.session.core.roster.add member).2 } := by
  have shown := enrolment.shown.add member
  have added := Roster.add_of_absent accepts.1 accepts.2
  have order : (callers.session.core.roster.add member).2.order =
      callers.session.core.roster.order ++ [member.identity] := by
    rw [added, Roster.order_publishIdentities, Roster.order_publishState]
  have open_ : (callers.session.core.roster.add member).2.shuttingDown = false := by
    rw [added]
    exact (Roster.shuttingDown_publishState _).trans accepts.1
  obtain ⟨joined, found⟩ := ServerCore.join_of_accepts accepts
  constructor
  · exact runs.first
  · exact accepts
  · exact enrolment.queued _ runs.mem
  · rfl
  · exact found
  · show (callers.session.core.roster.add member).2.identities.value = _
    rw [shown.identities, order, enrolment.shown.identities]
  · show (callers.session.core.roster.add member).2.state.value = .derive _
      (callers.session.core.roster.add member).2.identities.value.length _ _
    rw [shown.state, shown.identities, ← Roster.size_of_listed shown, ← open_]
    rfl
  · exact runs.core.trans joined

/-- A turn lets a client in, or the transport is asked to read nothing more. -/
theorem resumed_or_letsIn
    (sound : closedown.Sound callers)
    (enrolment : Enrolment (closedown.trail start turns) callers.session)
    (stepped : closedown.step? callers turn = some next) :
    next.session.core.transport.resumed = callers.session.core.transport.resumed ∨
      ∃ member enrolled, turn = .serve ∧ LetsIn member callers next enrolled := by
  rcases turn_cases sound stepped with
    ⟨aside, session, rfl, happened, rfl⟩ | ⟨task, rfl, runs⟩ | ⟨apart, idle, stays⟩
  · left
    exact (stirs_aside? happened).transport.resumed (Transport.not_closes_resume _)
  · cases admits : admitted? (task, callers.session.core) with
    | none =>
        left
        rw [runs.core, resumed_run, admits]
        exact List.append_nil _
    | some id =>
        right
        cases task with
        | join member =>
            by_cases accepts : callers.session.core.Accepts member
            · exact ⟨member, _, rfl, letsIn_of_runs enrolment accepts runs⟩
            · exact nomatch admits.symm.trans (if_neg accepts)
        | _ => exact nomatch admits
  · left
    rw [stays.core]

/-- A job to leave of a connection that is not on the roster changes nothing. -/
theorem leave_of_not_holds
    {core : ServerCore}
    {member : Member}
    (absent : ¬ core.roster.Holds member.channel) :
    core.leave member = core := by
  have gone : core.roster.remove member.identity member.channel = (none, core.roster) := by
    rcases core.roster.remove_cases member.identity member.channel with
      same | ⟨there, found, theirs, -⟩
    · exact same
    · exact (absent ⟨_, there, found, theirs⟩).elim
  rw [leave, gone]

/-- A connection that was not admitted is not on the roster, and never was. -/
theorem not_holds_of_notMem
    (starts : closedown.Sound start)
    (accounted : Accounted start [] start)
    (admitting : Admitting start [] start)
    {later : List (Turn Step)}
    (ran : closedown.run? start turns = some callers)
    (unadmitted : id ∉ admissions (closedown.trail start (turns ++ later))) :
    ¬ callers.session.core.roster.Holds id := by
  intro held
  have enlisted := ((admitting.run starts accounted ran).enrolment.enlisted id).mp held
  apply unadmitted
  rw [Closedown.trail, visits_append ran, List.filterMap_append, admissions,
    List.filterMap_append]
  exact List.mem_append_left _ enlisted.mem_admissions

theorem joined_append
    (front back : List (ServerJob × ServerCore)) :
    joined (front ++ back) = joined front ++ joined back :=
  List.filterMap_append

theorem admissions_append
    (front back : List (ServerJob × ServerCore)) :
    admissions (front ++ back) = admissions front ++ admissions back :=
  List.filterMap_append

/-- Where no connection opens twice, one whose job to join did not admit it was turned
away. -/
theorem Admitting.turnedAway
    {member : Member}
    {core : ServerCore}
    (admitting : Admitting start turns callers)
    (once : (openings start turns).Nodup)
    (ran : (.join member, core) ∈ closedown.trail start turns)
    (refuses : ¬ core.Accepts member) :
    TurnedAway start turns callers member.channel := by
  have alone := admitting.awaited.nodup once
  have opened := admitting.awaited.subset
  obtain ⟨front, back, split⟩ := List.append_of_mem ran
  have joins : joined (closedown.trail start turns) =
      joined front ++ member.channel :: joined back := by
    rw [split, joined_append]
    rfl
  have admits : admissions (closedown.trail start turns) =
      admissions front ++ admissions back := by
    have nothing : admitted? (.join member, core) = none := if_neg refuses
    rw [split, admissions_append, admissions, admissions, admissions,
      List.filterMap_cons_none nothing]
  rw [joins, List.append_assoc, List.cons_append, List.nodup_append', List.nodup_cons] at alone
  obtain ⟨-, ⟨notLater, -⟩, disjoint⟩ := alone
  refine ⟨?_, ?_, ?_⟩
  · apply opened
    rw [joins]
    simp
  · exact fun waits => notLater (List.mem_append_right _ waits)
  · rw [admits]
    intro admitted
    rcases List.mem_append.mp admitted with early | late
    · exact disjoint ((admissions_sublist front).subset early) List.mem_cons_self
    · exact notLater (List.mem_append_left _ ((admissions_sublist back).subset late))

/-- Where no connection is reported as open twice: the transport is asked to read a
connection at most once, by the job that admits it, and then the roster already shows the
client.  A connection that is turned away is closed, it is never read and never on the
roster, and what is reported about it later moves nothing.  On the roster are always the
connections that were admitted and that no close, kick or shutdown took out since. -/
theorem admission_disciplined
    {names : String × String}
    {settings : ServerSettings}
    {policy : Option String → IdentityPolicy}
    {seed : Nat}
    {transport : Transport}
    {handler : String → Reaction ServerAction}
    {turns : List (Turn Step)}
    {final : Callers ServerSession Closing}
    (ran :
      closedown.run?
          { session := .start names settings policy seed transport.unused handler } turns =
        some final)
    (once :
      (openings
        { session := .start names settings policy seed transport.unused handler }
        turns).Nodup) :
    let server : Callers ServerSession Closing :=
      { session := .start names settings policy seed transport.unused handler }
    (final.session.core.transport.resumed = admissions (closedown.trail server turns) ∧
        final.session.core.transport.resumed.Nodup) ∧
      (∀ turn next, closedown.step? final turn = some next →
        next.session.core.transport.resumed = final.session.core.transport.resumed ∨
          ∃ member enrolled, turn = .serve ∧ LetsIn member final next enrolled) ∧
      (∀ member core, (.join member, core) ∈ closedown.trail server turns →
        ¬ core.Accepts member → TurnedAway server turns final member.channel) ∧
      (∀ id, TurnedAway server turns final id →
        final.session.core.transport.GivenUp id ∧
          id ∉ final.session.core.transport.resumed ∧
          (∀ earlier later callers,
            turns = earlier ++ later → closedown.run? server earlier = some callers →
              ¬ callers.session.core.roster.Holds id) ∧
          (∀ marks next,
            closedown.step? final (.aside (.act (.report id (.closed marks)))) = some next →
              next.session.core.roster = final.session.core.roster ∧
                next.session.core.localAddress = final.session.core.localAddress) ∧
          ∀ member next,
            final.session.context.next? = some (.leave member) → member.channel = id →
              closedown.step? final .serve = some next →
                next.session.core = final.session.core) ∧
      ∀ id,
        final.session.core.roster.Holds id ↔ Enlisted (closedown.trail server turns) id := by
  intro server
  have starts : closedown.Sound server := Closedown.sound_start rfl rfl rfl
  have accounted : Accounted server [] server :=
    accounted_start names settings policy seed transport handler
  have unopened : Admitting server [] server :=
    admitting_start names settings policy seed transport handler
  have admitting : Admitting server turns final := unopened.run starts accounted ran
  have sound : closedown.Sound final := starts.run closedown_lawful ran
  have resumed := admitting.enrolment.resumed
  refine ⟨⟨resumed, ?_⟩, ?_, ?_, ?_, admitting.enrolment.enlisted⟩
  · rw [resumed]
    have joins : (joined (closedown.trail server turns)).Nodup :=
      (admitting.awaited.nodup once).of_append_left
    exact (admissions_sublist _).nodup joins
  · exact fun turn next stepped => resumed_or_letsIn sound admitting.enrolment stepped
  · exact fun member core there refuses => admitting.turnedAway once there refuses
  · rintro id ⟨opened, unqueued, unadmitted⟩
    have absent : ∀ earlier later callers,
        turns = earlier ++ later → closedown.run? server earlier = some callers →
          ¬ callers.session.core.roster.Holds id := by
      rintro earlier later callers rfl before
      exact not_holds_of_notMem starts accounted unopened before unadmitted
    refine ⟨?_, ?_, absent, ?_, ?_⟩
    · rcases admitting.decided id opened with waits | admitted | givenUp
      · exact (unqueued waits).elim
      · exact (unadmitted admitted).elim
      · exact givenUp
    · rw [resumed]
      exact unadmitted
    · intro marks next stepped
      obtain ⟨session, happened, rfl⟩ := Option.map_eq_some_iff.mp stepped
      have stirs := stirs_aside? happened
      exact ⟨stirs.roster, stirs.localAddress⟩
    · intro member next first about stepped
      rcases turn_cases sound stepped with
        ⟨aside, session, same, -⟩ | ⟨task, -, runs⟩ | ⟨-, idle, -⟩
      · exact nomatch same
      · obtain rfl := Option.some.inj (first.symm.trans runs.first)
        rw [runs.core]
        exact leave_of_not_holds (about ▸ absent turns [] final (by simp) ran)
      · exact nomatch first.symm.trans (idle rfl)

/-- Two connections carry one name.  The second is turned away, and its close is about to
be told.  The first stays. -/
theorem admission_disciplined_one_name :
    let server : Callers ServerSession Closing :=
      { session :=
          .start ("server", "crew") {} (fun _ => .named fun _ => "name") 0
            (Transport.unused {}) fun _ => {} }
    let peer : Option SocketAddress := some { ip := .v4 .unspecified, port := 4000 }
    let turns : List (Turn Step) :=
      [.aside (.act (.listen 80 none false)), .serve, .aside (.act (.join peer none)),
        .serve, .aside (.act (.join peer none)), .serve,
        .aside (.act (.report ⟨3⟩ (.closed true)))]
    ∃ final next,
      closedown.run? server turns = some final ∧
        (openings server turns).Nodup ∧
        final.session.core.transport.resumed = [⟨2⟩] ∧
        TurnedAway server turns final ⟨3⟩ ∧
        final.session.core.transport.GivenUp ⟨3⟩ ∧
        closedown.step? final .serve = some next ∧
        next.session.core = final.session.core ∧
        final.session.core.roster.Holds ⟨2⟩ ∧
        Enlisted (closedown.trail server turns) ⟨2⟩ := by
  intro server peer turns
  have goes : (closedown.run? server turns).any fun final =>
      final.session.joining = [] ∧
        final.session.core.transport.resumed = [⟨2⟩] ∧
        final.session.context.next? =
          some (.leave { identity := .named "name", channel := ⟨3⟩ }) ∧
        final.session.core.roster.member? (.named "name") =
          some { identity := .named "name", channel := ⟨2⟩ } := by
    decide +kernel
  obtain ⟨final, ran, shown⟩ := (Option.any_eq_true _ _).mp goes
  obtain ⟨unqueued, resumed, first, found⟩ := of_decide_eq_true shown
  have once : (openings server turns).Nodup := by decide +kernel
  have opened : ⟨3⟩ ∈ openings server turns := by decide +kernel
  have unadmitted : ⟨3⟩ ∉ admissions (closedown.trail server turns) := by decide +kernel
  obtain ⟨-, -, -, refused, registered⟩ := admission_disciplined ran once
  have turnedAway : TurnedAway server turns final ⟨3⟩ :=
    ⟨opened, by simp [unqueued], unadmitted⟩
  have held : final.session.core.roster.Holds ⟨2⟩ := ⟨_, _, found, rfl⟩
  obtain ⟨givenUp, -, -, -, unmoved⟩ := refused ⟨3⟩ turnedAway
  exact ⟨final, closedown.serve final, ran, once, resumed, turnedAway, givenUp, rfl,
    unmoved _ _ first rfl rfl, held, (registered ⟨2⟩).mp held⟩

end ServerSession

end LineProtocol
