import LineProtocol.Proofs.Server.Asides
import LineProtocol.Proofs.Server.Ledger
import LineProtocol.Proofs.Shutdown.Overtaking

/-!
# How a server's shutdown ends

From the first job of a shutdown on, a server shows that it is shutting down and
then that it is off, and nothing else.  It binds no listener and reads no further
connection.  Once the last job ran, every listener was closed once, every
connection that was ever open is closed or was asked to be closed, and there are
no clients and no address.

A connection can be in several places when a shutdown begins: its job to join may
still wait, it may be on the roster, or its close may have been reported.
`Accounted` says that it is in one of them, whatever turns were made.  `Progress`
says how far the shutdown is.
-/

namespace LineProtocol

namespace ServerSession

/-! ## What became of connections and listeners -/

/-- The transport reported that the connection is closed. -/
def Told
    (turns : List (Turn Step))
    (id : ChannelId) :
    Prop :=
  ∃ marks, .aside (.act (.report id (.closed marks))) ∈ turns

/-- The connection was reported as closed, or it was asked to be closed. -/
def Settled
    (turns : List (Turn Step))
    (callers : Callers ServerSession Closing)
    (id : ChannelId) :
    Prop :=
  Told turns id ∨ callers.session.core.transport.GivenUp id

/-- The transport reported that the connection is open. -/
def Established
    (start : Callers ServerSession Closing)
    (turns : List (Turn Step))
    (id : ChannelId) :
    Prop :=
  ∃ earlier step later callers,
    turns = earlier ++ .aside (.act step) :: later ∧
      closedown.run? start earlier = some callers ∧ callers.session.Opens step id

/-- Since then certain states were published, and connections and listeners were
closed at most. -/
structure Since
    (among : List ListeningState)
    (before after : Callers ServerSession Closing) : Prop where
  states :
    ∃ published, List.Sublist published among ∧
      after.session.core.roster.state =
        published.foldl (fun cell state => cell.publish state)
          before.session.core.roster.state
  asks :
    Transport.Asks (Call.Closes fun _ => True) before.session.core.transport
      after.session.core.transport

/-- Nothing is left of what a server has. -/
structure Off (core : ServerCore) : Prop where
  nobody : ∀ id, ¬ core.roster.Holds id
  listener : core.listener = none
  identities : core.roster.identities.value = []
  localAddress : core.localAddress.value = none
  state : core.roster.state.value = .off

variable
  {start callers next : Callers ServerSession Closing}
  {turns : List (Turn Step)}
  {turn : Turn Step}
  {id : ChannelId}

theorem Told.snoc
    (told : Told turns id)
    (turn : Turn Step) :
    Told (turns ++ [turn]) id := by
  obtain ⟨marks, there⟩ := told
  exact ⟨marks, List.mem_append_left _ there⟩

theorem Settled.snoc
    (settled : Settled turns callers id)
    (later :
      Transport.Later callers.session.core.transport next.session.core.transport)
    (numbered : callers.session.core.transport.Numbered)
    (turn : Turn Step) :
    Settled (turns ++ [turn]) next id := by
  rcases settled with told | givenUp
  · exact .inl (told.snoc turn)
  · exact .inr (givenUp.later later numbered)

theorem established_snoc_iff
    (ran : closedown.run? start turns = some callers)
    (turn : Turn Step) :
    Established start (turns ++ [turn]) id ↔
      Established start turns id ∨
        ∃ step, turn = .aside (.act step) ∧ callers.session.Opens step id := by
  constructor
  · rintro ⟨earlier, step, later, between, split, before, opens⟩
    rcases split_snoc_of_run ran split before with ⟨rfl, rfl, -⟩ | ⟨shorter, whole, -⟩
    · exact .inr ⟨step, rfl, opens⟩
    · exact .inl ⟨earlier, step, shorter, between, whole, before, opens⟩
  · rintro (⟨earlier, step, later, between, rfl, before, opens⟩ | ⟨step, rfl, opens⟩)
    · exact ⟨earlier, step, later ++ [turn], between, by simp, before, opens⟩
    · exact ⟨turns, step, [], callers, rfl, ran, opens⟩

/-! ## Where every connection is -/

/-- What is known of every connection after a run. -/
structure Accounted
    (start : Callers ServerSession Closing)
    (turns : List (Turn Step))
    (callers : Callers ServerSession Closing) : Prop where
  numbered : callers.session.core.transport.Numbered
  ledger : callers.session.core.Ledger callers.session.Knows
  orderly : callers.session.core.roster.Orderly
  members : ∀ id, callers.session.core.roster.Holds id → callers.session.Knows id
  joins : ∀ id, callers.session.Admits id → callers.session.Knows id
  leaves :
    ∀ member, .run (.leave member) ∈ callers.session.context.queue →
      Told turns member.channel
  opened :
    ∀ id, Established start turns id →
      Settled turns callers id ∨ callers.session.Admits id ∨
        callers.session.core.roster.Holds id

theorem accounted_start
    (names : String × String)
    (settings : ServerSettings)
    (policy : Option String → IdentityPolicy)
    (seed : Nat)
    (transport : Transport)
    (handler : String → Reaction ServerAction) :
    let server : Callers ServerSession Closing :=
      { session := .start names settings policy seed transport.unused handler }
    Accounted server [] server where
  numbered := transport.numbered_unused
  ledger :=
    { older := fun _ => nofun
      asked := fun _ => nofun
      listeners := fun _ => nofun
      distinct := List.nodup_nil
      present := fun _ => nofun
      counted := fun _ => nofun }
  orderly _ _ := nofun
  members := by
    rintro id ⟨identity, member, found, -⟩
    exact nomatch found
  joins := by
    rintro id ⟨member, there, -⟩
    exact nomatch there
  leaves _ := nofun
  opened := by
    rintro id ⟨earlier, step, later, between, split, -⟩
    simp at split

theorem Accounted.aside
    {aside : Aside Step}
    {session : ServerSession}
    (accounted : Accounted start turns callers)
    (ran : closedown.run? start turns = some callers)
    (happened : closedown.aside? callers.session aside = some session) :
    Accounted start (turns ++ [.aside aside]) { callers with session } := by
  have stirs := stirs_aside? happened
  obtain ⟨jobs, queue, stirred, -⟩ := stirs.context.queue
  have later : Transport.Later callers.session.core.transport session.core.transport :=
    stirs.transport.toLater
  have kept : ∀ id, callers.session.Admits id → session.Admits id := by
    rintro id ⟨member, there, about⟩
    exact ⟨member, queue ▸ List.mem_append_left _ there, about⟩
  constructor
  · exact later.numbered accounted.numbered
  · apply accounted.ledger.asks stirs.listener _ stirs.fresh
    exact stirs.transport.mono fun call closes => closes.spares
  · show session.core.roster.Orderly
    rw [stirs.roster]
    exact accounted.orderly
  · intro id held
    change session.core.roster.Holds id at held
    rw [stirs.roster] at held
    exact stirs.kept id (accounted.members id held)
  · rintro id ⟨member, there, rfl⟩
    change .run (ServerJob.join member) ∈ session.context.queue at there
    rw [queue] at there
    rcases List.mem_append.mp there with waited | fresh
    · exact stirs.kept _ (accounted.joins _ ⟨member, waited, rfl⟩)
    · have linked : (ServerJob.join member).Linked session.identity? :=
        (stirred _ (by simpa using fresh)).linked
      exact knows_of_identity? linked
  · intro member there
    change .run (ServerJob.leave member) ∈ session.context.queue at there
    rw [queue] at there
    rcases List.mem_append.mp there with waited | fresh
    · exact (accounted.leaves member waited).snoc _
    · obtain ⟨marks, same⟩ := (stirred _ (by simpa using fresh)).leave member rfl
      exact ⟨marks, by simp [same]⟩
  · intro id established
    show Settled _ _ id ∨ session.Admits id ∨ session.core.roster.Holds id
    rw [stirs.roster]
    rcases (established_snoc_iff ran _).mp established with early | ⟨step, same, opens⟩
    · rcases accounted.opened id early with settled | admits | held
      · exact .inl (settled.snoc later accounted.numbered _)
      · exact .inr (.inl (kept id admits))
      · exact .inr (.inr held)
    · obtain rfl := Turn.aside.inj same
      rcases admits_act? happened opens with admits | givenUp
      · exact .inr (.inl admits)
      · exact .inl (.inr givenUp)

/-- Whoever runs jobs and waits for closes knows the connections as before. -/
theorem links_of_step?
    (stepped : closedown.step? callers turn = some next)
    (apart : ∀ aside, turn ≠ .aside aside) :
    next.session.links = callers.session.links ∧ next.session.ways = callers.session.ways := by
  cases Closedown.moves_of_step? stepped with
  | aside happened => exact (apart _ rfl).elim
  | serve => exact ⟨rfl, rfl⟩
  | call idle =>
      simp only [Closedown.call]
      split
      · exact ⟨rfl, rfl⟩
      · exact ⟨rfl, rfl⟩
  | wait waits =>
      show (callers.session.awaitClose _).links = callers.session.links ∧
        (callers.session.awaitClose _).ways = callers.session.ways
      simp only [awaitClose]
      split
      · exact ⟨rfl, rfl⟩
      · exact ⟨rfl, rfl⟩
  | finish done free =>
      simp only [Closedown.finish]
      split
      · exact ⟨rfl, rfl⟩
      · exact ⟨rfl, rfl⟩
  | leave ending ended => exact ⟨rfl, rfl⟩
  | join joining free => exact ⟨rfl, rfl⟩

theorem knows_of_links
    (links : next.session.links = callers.session.links) :
    next.session.Knows = callers.session.Knows := by
  funext id
  rw [Knows, Knows, links]

/-- No job ran, and phases of the shutdown were handed in at most. -/
structure Stays (callers next : Callers ServerSession Closing) : Prop where
  core : next.session.core = callers.session.core
  links : next.session.links = callers.session.links
  queue :
    ∃ rest more,
      (callers.session.context.queue = rest ∨ callers.session.context.queue = .stop :: rest) ∧
        next.session.context.queue = rest ++ more ∧
        ∀ task, .run task ∈ more → task = .beginShutdown ∨ task = .finishShutdown

theorem Stays.queued
    (stays : Stays callers next)
    (task : ServerJob)
    (there : .run task ∈ next.session.context.queue) :
    .run task ∈ callers.session.context.queue ∨
      task = .beginShutdown ∨ task = .finishShutdown := by
  obtain ⟨rest, more, waited, left, phases⟩ := stays.queue
  rw [left] at there
  rcases List.mem_append.mp there with behind | fresh
  · rcases waited with same | ends
    · exact .inl (same ▸ behind)
    · exact .inl (ends ▸ List.mem_cons_of_mem _ behind)
  · exact .inr (phases task fresh)

theorem Stays.kept
    (stays : Stays callers next)
    (task : ServerJob)
    (there : .run task ∈ callers.session.context.queue) :
    .run task ∈ next.session.context.queue := by
  obtain ⟨rest, more, waited, left, -⟩ := stays.queue
  rw [left]
  apply List.mem_append_left
  rcases waited with same | ends
  · exact same ▸ there
  · rw [ends] at there
    simpa using there

/-- The context ran a job. -/
structure Runs
    (task : ServerJob)
    (callers next : Callers ServerSession Closing) : Prop where
  first : callers.session.context.next? = some task
  core : next.session.core = (task.run callers.session.core).2
  links : next.session.links = callers.session.links
  queue : callers.session.context.queue = .run task :: next.session.context.queue

theorem Runs.queued
    {task : ServerJob}
    (runs : Runs task callers next)
    (other : ServerJob)
    (there : .run other ∈ next.session.context.queue) :
    .run other ∈ callers.session.context.queue :=
  runs.queue ▸ List.mem_cons_of_mem _ there

theorem Runs.kept
    {task : ServerJob}
    (runs : Runs task callers next)
    (other : ServerJob)
    (there : .run other ∈ callers.session.context.queue) :
    other = task ∨ .run other ∈ next.session.context.queue := by
  rw [runs.queue] at there
  rcases List.mem_cons.mp there with first | behind
  · exact .inl (Envelope.run.inj first)
  · exact .inr behind

/-- A turn is an aside, or the context runs a job, or no job runs. -/
theorem turn_cases
    (sound : closedown.Sound callers)
    (stepped : closedown.step? callers turn = some next) :
    (∃ aside session,
        turn = .aside aside ∧ closedown.aside? callers.session aside = some session ∧
          next = { callers with session }) ∨
      (∃ task, turn = .serve ∧ Runs task callers next) ∨
      ((∀ aside, turn ≠ .aside aside) ∧
        (turn = .serve → callers.session.context.next? = none) ∧ Stays callers next) := by
  cases sound.turned closedown_lawful stepped with
  | aside aside session made happened same =>
      exact .inl ⟨aside, session, made, happened, same⟩
  | ran task rest made first state waited left =>
      refine .inr (.inl ⟨task, made, first, state, ?_, ?_⟩)
      · exact (links_of_step? stepped fun aside same => nomatch made.symm.trans same).1
      · have whole : next.session.context.queue = rest := left.trans (List.append_nil _)
        rw [whole]
        exact waited
  | still rest more apart idle state waited left phases =>
      exact .inr (.inr ⟨apart, idle, state, (links_of_step? stepped apart).1, rest, more,
        waited.imp And.right And.right, left, phases⟩)

theorem Accounted.stays
    (accounted : Accounted start turns callers)
    (ran : closedown.run? start turns = some callers)
    (apart : ∀ aside, turn ≠ .aside aside)
    (stays : Stays callers next) :
    Accounted start (turns ++ [turn]) next := by
  have knows := knows_of_links stays.links
  constructor
  · rw [stays.core]
    exact accounted.numbered
  · rw [stays.core, knows]
    exact accounted.ledger
  · rw [stays.core]
    exact accounted.orderly
  · rw [stays.core, knows]
    exact accounted.members
  · rintro id ⟨member, there, about⟩
    rw [knows]
    rcases stays.queued _ there with waited | phase | phase
    · exact accounted.joins id ⟨member, waited, about⟩
    · exact nomatch phase
    · exact nomatch phase
  · intro member there
    rcases stays.queued _ there with waited | phase | phase
    · exact (accounted.leaves member waited).snoc turn
    · exact nomatch phase
    · exact nomatch phase
  · intro id established
    rcases (established_snoc_iff ran turn).mp established with early | ⟨step, same, -⟩
    · rw [stays.core]
      rcases accounted.opened id early with settled | ⟨member, there, about⟩ | held
      · refine .inl (settled.snoc ?_ accounted.numbered turn)
        rw [stays.core]
        exact .refl _
      · exact .inr (.inl ⟨member, stays.kept _ there, about⟩)
      · exact .inr (.inr held)
    · exact (apart _ same).elim

theorem Runs.mem
    {task : ServerJob}
    (runs : Runs task callers next) :
    .run task ∈ callers.session.context.queue := by
  rw [runs.queue]
  exact List.mem_cons_self

theorem Runs.later
    {task : ServerJob}
    (runs : Runs task callers next) :
    Transport.Later callers.session.core.transport next.session.core.transport := by
  rw [runs.core]
  exact ServerCore.later_run _ task

theorem Accounted.ran
    {task : ServerJob}
    (accounted : Accounted start turns callers)
    (ran : closedown.run? start turns = some callers)
    (runs : Runs task callers next) :
    Accounted start (turns ++ [.serve]) next := by
  have knows := knows_of_links runs.links
  have tends := callers.session.core.tends_run task
  have joins : ∀ id, task.Joins id → callers.session.Knows id := by
    rintro id ⟨member, rfl, about⟩
    exact accounted.joins id ⟨member, runs.mem, about⟩
  rw [← runs.core] at tends
  constructor
  · exact runs.later.numbered accounted.numbered
  · rw [knows, runs.core]
    exact accounted.ledger.run accounted.members joins
  · exact tends.orderly accounted.orderly
  · intro id held
    rw [knows]
    rcases tends.gained id held with before | joined
    · exact accounted.members id before
    · exact joins id joined
  · rintro id ⟨member, there, about⟩
    rw [knows]
    exact accounted.joins id ⟨member, runs.queued _ there, about⟩
  · intro member there
    exact (accounted.leaves member (runs.queued _ there)).snoc .serve
  · intro id established
    rcases (established_snoc_iff ran _).mp established with early | ⟨step, same, -⟩
    · rcases accounted.opened id early with settled | ⟨member, there, about⟩ | held
      · exact .inl (settled.snoc runs.later accounted.numbered .serve)
      · rcases runs.kept _ there with same | waits
        · rcases tends.joined id ⟨member, same.symm, about⟩ with held | givenUp
          · exact .inr (.inr held)
          · exact .inl (.inr givenUp)
        · exact .inr (.inl ⟨member, waits, about⟩)
      · rcases tends.lost accounted.numbered accounted.orderly id held with
          still | ⟨member, rfl, about⟩ | givenUp
        · exact .inr (.inr still)
        · exact .inl (.inl (about ▸ (accounted.leaves member runs.mem).snoc .serve))
        · exact .inl (.inr givenUp)
    · exact nomatch same

theorem Accounted.run
    {final : Callers ServerSession Closing}
    (starts : closedown.Sound start)
    (accounted : Accounted start [] start)
    (ran : closedown.run? start turns = some final) :
    Accounted start turns final := by
  induction ran using foldlM_induction with
  | none => exact accounted
  | snoc turns turn between final before stepped ih =>
      rcases turn_cases (starts.run closedown_lawful before) stepped with
        ⟨aside, session, rfl, happened, rfl⟩ | ⟨task, rfl, runs⟩ | ⟨apart, -, stays⟩
      · exact ih.aside before happened
      · exact ih.ran before runs
      · exact ih.stays before apart stays

/-! ## How far a shutdown is -/

/-- How far the shutdown of a server is. -/
inductive Progress
    (start : Callers ServerSession Closing)
    (turns : List (Turn Step))
    (callers : Callers ServerSession Closing) : Prop where
  | serving
    (never : ∀ begun, ¬ closedown.Served start turns .beginShutdown begun)
    (going : ∀ served, ¬ closedown.Served start turns .finishShutdown served)
  | shutting
    (drained : callers.session.core.roster.Drained)
    (absent : callers.session.core.listener = none)
    (since :
      ∀ begun, closedown.Served start turns .beginShutdown begun →
        Since [.shuttingDown] begun callers)
    (going : ∀ served, ¬ closedown.Served start turns .finishShutdown served)
  | off
    (off : Off callers.session.core)
    (since :
      ∀ begun, closedown.Served start turns .beginShutdown begun →
        Since [.shuttingDown, .off] begun callers)
    (served : Callers ServerSession Closing)
    (last : closedown.Served start turns .finishShutdown served)

theorem Since.refl
    (among : List ListeningState)
    (callers : Callers ServerSession Closing) :
    Since among callers callers :=
  ⟨⟨[], List.nil_sublist _, rfl⟩, .refl _⟩

theorem Since.extend
    {among : List ListeningState}
    {begun : Callers ServerSession Closing}
    (since : Since among begun callers)
    (state : next.session.core.roster.state = callers.session.core.roster.state)
    (asks :
      Transport.Asks (Call.Closes fun _ => True) callers.session.core.transport
        next.session.core.transport) :
    Since among begun next := by
  obtain ⟨published, within, shown⟩ := since.states
  exact ⟨⟨published, within, state.trans shown⟩, since.asks.trans asks⟩

theorem Since.publish
    {among : List ListeningState}
    {begun : Callers ServerSession Closing}
    {shows : ListeningState}
    (since : Since among begun callers)
    (state :
      next.session.core.roster.state = callers.session.core.roster.state.publish shows)
    (asks :
      Transport.Asks (Call.Closes fun _ => True) callers.session.core.transport
        next.session.core.transport) :
    Since (among ++ [shows]) begun next := by
  obtain ⟨published, within, shown⟩ := since.states
  refine ⟨⟨published ++ [shows], within.append (.refl _), ?_⟩, since.asks.trans asks⟩
  rw [state, shown, List.foldl_append]
  rfl

theorem Off.rests
    {before after : ServerCore}
    (off : Off before)
    (rests : ServerCore.Rests before after) :
    Off after where
  nobody := rests.roster ▸ off.nobody
  listener := rests.listener.trans off.listener
  identities := rests.roster ▸ off.identities
  localAddress := rests.localAddress ▸ off.localAddress
  state := rests.roster ▸ off.state

/-- Where nothing is done but to ask for closes, the shutdown stays where it
is. -/
theorem Progress.rests
    (progress : Progress start turns callers)
    (rests : ServerCore.Rests callers.session.core next.session.core)
    (begins :
      ∀ begun, closedown.Served start (turns ++ [turn]) .beginShutdown begun →
        closedown.Served start turns .beginShutdown begun)
    (ends :
      ∀ served, closedown.Served start (turns ++ [turn]) .finishShutdown served →
        closedown.Served start turns .finishShutdown served) :
    Progress start (turns ++ [turn]) next := by
  have extend : ∀ {among begun}, Since among begun callers → Since among begun next :=
    fun since => since.extend (by rw [rests.roster]) rests.asks
  cases progress with
  | serving never going =>
      apply Progress.serving
      · exact fun begun happened => never begun (begins begun happened)
      · exact fun served happened => going served (ends served happened)
  | shutting drained absent since going =>
      apply Progress.shutting
      · rw [rests.roster]
        exact drained
      · exact rests.listener.trans absent
      · exact fun begun happened => extend (since begun (begins begun happened))
      · exact fun served happened => going served (ends served happened)
  | off off since served last =>
      apply Progress.off (off.rests rests) _ served (last.snoc turn)
      exact fun begun happened => extend (since begun (begins begun happened))

/-- The first job ran, for the first time or again. -/
theorem Progress.begun
    (progress : Progress start turns callers)
    (ran : closedown.run? start turns = some callers)
    (going : ∀ served, ¬ closedown.Served start turns .finishShutdown served)
    (runs : Runs .beginShutdown callers next) :
    Progress start (turns ++ [.serve]) next := by
  have clears := callers.session.core.clears_beginShutdown.1
  have whole : next.session.core = callers.session.core.beginShutdown.2 := runs.core
  obtain ⟨-, drained, told⟩ := callers.session.core.roster.drain_beginShutdown
  rw [← whole] at clears
  rw [← clears.roster] at drained told
  have now : Since [.shuttingDown] callers next := by
    rcases told with same | published
    · exact (Since.refl _ callers).extend same clears.asks
    · exact (Since.refl [] callers).publish published clears.asks
  apply Progress.shutting drained clears.listener
  · intro begun happened
    rcases (Closedown.served_snoc_iff ran).mp happened with earlier | ⟨-, rfl, -⟩
    · cases progress with
      | serving never => exact (never begun earlier).elim
      | shutting emptied absent since =>
          apply (since begun earlier).extend _ clears.asks
          rw [clears.roster]
          exact Roster.state_drain_of_drained emptied
      | off off since served last => exact (going served last).elim
    · exact now
  · intro served happened
    rcases (Closedown.served_snoc_iff ran).mp happened with earlier | ⟨-, rfl, last⟩
    · exact going served earlier
    · exact nomatch runs.first.symm.trans last

/-- The last job ran. -/
theorem Progress.finished
    (progress : Progress start turns callers)
    (ran : closedown.run? start turns = some callers)
    (begun : ∃ begun, closedown.Served start turns .beginShutdown begun)
    (going : ∀ served, ¬ closedown.Served start turns .finishShutdown served)
    (runs : Runs .finishShutdown callers next) :
    Progress start (turns ++ [.serve]) next := by
  obtain ⟨roster, listener, address, -, asks⟩ :=
    callers.session.core.finishShutdown_spec
  have whole : next.session.core = callers.session.core.finishShutdown := runs.core
  rw [← whole] at roster listener address asks
  cases progress with
  | serving never => exact (never _ begun.choose_spec).elim
  | off off since served last => exact (going served last).elim
  | shutting drained absent since =>
      obtain ⟨shown, identities⟩ := Roster.finishShutdown_of_drained drained
      rw [← roster] at shown identities
      refine .off ⟨?_, listener.trans absent, ?_, ?_, ?_⟩ ?_ callers ?_
      · intro id held
        have same : callers.session.core.roster.finishShutdown.Holds id ↔
            callers.session.core.roster.Holds id :=
          Roster.holds_publishState_iff rfl id
        rw [roster, same] at held
        exact drained.not_holds id held
      · rw [identities]
        exact drained.identities
      · rw [address]
        rfl
      · rw [shown]
        rfl
      · intro begun happened
        rcases (Closedown.served_snoc_iff ran).mp happened with earlier | ⟨-, rfl, first⟩
        · apply (since begun earlier).publish shown
          exact asks.mono fun call none => none.elim
        · exact nomatch runs.first.symm.trans first
      · exact (Closedown.served_snoc_iff ran).mpr (.inr ⟨rfl, rfl, runs.first⟩)

/-- A job ran that is no phase of a shutdown. -/
theorem Progress.ran
    {task : ServerJob}
    (progress : Progress start turns callers)
    (ran : closedown.run? start turns = some callers)
    (going : ∀ served, ¬ closedown.Served start turns .finishShutdown served)
    (runs : Runs task callers next)
    (first : task ≠ .beginShutdown)
    (last : task ≠ .finishShutdown) :
    Progress start (turns ++ [.serve]) next := by
  have earlier : ∀ phase served, task ≠ phase →
      closedown.Served start (turns ++ [.serve]) phase served →
        closedown.Served start turns phase served := by
    intro phase served other happened
    rcases (Closedown.served_snoc_iff ran).mp happened with before | ⟨-, rfl, now⟩
    · exact before
    · exact (other (Option.some.inj (runs.first.symm.trans now))).elim
  cases progress with
  | serving never =>
      apply Progress.serving
      · exact fun begun happened => never begun (earlier _ begun first happened)
      · exact fun served happened => going served (earlier _ served last happened)
  | off off since served ended => exact (going served ended).elim
  | shutting drained absent since =>
      have rests := ServerCore.rests_run drained absent first last
      rw [← runs.core] at rests
      apply (Progress.shutting drained absent since going).rests rests
      · exact fun begun happened => earlier _ begun first happened
      · exact fun served happened => earlier _ served last happened

theorem Progress.step
    (starts : closedown.Sound start)
    (idle : ∀ caller, ¬ (start.phases caller).Waits)
    (progress : Progress start turns callers)
    (ran : closedown.run? start turns = some callers)
    (stepped : closedown.step? callers turn = some next) :
    Progress start (turns ++ [turn]) next := by
  have quiet : (turn = .serve → callers.session.context.next? = none) →
      ∀ phase served, closedown.Served start (turns ++ [turn]) phase served →
        closedown.Served start turns phase served := by
    intro idle phase served happened
    rcases (Closedown.served_snoc_iff ran).mp happened with earlier | ⟨serves, -, first⟩
    · exact earlier
    · exact nomatch (idle serves).symm.trans first
  rcases turn_cases (starts.run closedown_lawful ran) stepped with
    ⟨aside, session, rfl, happened, rfl⟩ | ⟨task, rfl, runs⟩ | ⟨apart, idle, stays⟩
  · have stirs := stirs_aside? happened
    refine progress.rests ⟨stirs.roster, stirs.listener, stirs.localAddress, ?_⟩
      (quiet nofun _) (quiet nofun _)
    exact stirs.transport.mono fun call closes => closes.mono fun _ _ => trivial
  · have going : ∀ served, ¬ closedown.Served start turns .finishShutdown served := by
      intro served last
      have isSealed := Closedown.sealed_of_served closedown_lawful starts ran last
      exact nomatch isSealed.idle.symm.trans runs.first
    by_cases first : task = .beginShutdown
    · subst first
      exact progress.begun ran going runs
    · by_cases last : task = .finishShutdown
      · subst last
        have begun := Closedown.served_of_last closedown_lawful starts idle ran runs.first
        exact progress.finished ran begun going runs
      · exact progress.ran ran going runs first last
  · refine progress.rests ?_ (quiet idle _) (quiet idle _)
    rw [stays.core]
    exact .refl _

theorem Progress.run
    {final : Callers ServerSession Closing}
    (starts : closedown.Sound start)
    (idle : ∀ caller, ¬ (start.phases caller).Waits)
    (ran : closedown.run? start turns = some final) :
    Progress start turns final := by
  induction ran using foldlM_induction with
  | none =>
      apply Progress.serving
      · rintro begun ⟨earlier, later, split, -⟩
        simp at split
      · rintro served ⟨earlier, later, split, -⟩
        simp at split
  | snoc turns turn between final before stepped ih =>
      exact ih.step starts idle before stepped

/-- Whatever turns are made: since a shutdown began, a server showed nothing but
that it is shutting down and then off, and it asked for nothing but closes.  Since
the last job ran, every listener was asked to be closed once, every connection
that was reported as open was reported as closed or was asked to be closed, there
are no clients and no address, and the server is off. -/
theorem shutdown_complete
    {names : String × String}
    {settings : ServerSettings}
    {policy : Option String → IdentityPolicy}
    {seed : Nat}
    {transport : Transport}
    {handler : String → Reaction ServerAction}
    {turns : List (Turn Step)}
    {final : Callers ServerSession Closing}
    (ran :
      closedown.run?
          { session := .start names settings policy seed transport.unused handler } turns =
        some final) :
    let server : Callers ServerSession Closing :=
      { session := .start names settings policy seed transport.unused handler }
    (∀ begun, closedown.Served server turns .beginShutdown begun →
        Since [.shuttingDown, .off] begun final) ∧
      ∀ served, closedown.Served server turns .finishShutdown served →
        (∀ listener ∈ final.session.core.transport.listeners,
            final.session.core.transport.calls.count (.close listener.id) = 1) ∧
          (∀ id, Established server turns id → Settled turns final id) ∧
          final.session.core.roster.identities.value = [] ∧
          final.session.core.localAddress.value = none ∧
          final.session.core.roster.state.value = .off := by
  intro server
  have starts : closedown.Sound server := Closedown.sound_start rfl rfl rfl
  have accounted : Accounted server turns final :=
    (accounted_start names settings policy seed transport handler).run starts ran
  have progress : Progress server turns final := .run starts (fun _ waits => waits) ran
  constructor
  · intro begun happened
    cases progress with
    | serving never => exact (never begun happened).elim
    | shutting drained absent since =>
        obtain ⟨⟨published, within, shown⟩, asks⟩ := since begun happened
        exact ⟨⟨published, within.trans (by simp), shown⟩, asks⟩
    | off off since => exact since begun happened
  · intro served last
    cases progress with
    | serving never going => exact (going served last).elim
    | shutting drained absent since going => exact (going served last).elim
    | off off =>
        have isSealed := Closedown.sealed_of_served closedown_lawful starts ran last
        refine ⟨?_, ?_, off.identities, off.localAddress, off.state⟩
        · intro listener bound
          rw [accounted.ledger.counted listener bound, off.listener, if_neg nofun]
        · intro id established
          rcases accounted.opened id established with settled | ⟨member, there, -⟩ | held
          · exact settled
          · exact (isSealed.2 _ there).elim
          · exact (off.nobody id held).elim

/-! ## A run with connections in several places -/

theorem served_of_any
    {task : ServerJob}
    (earlier later : List (Turn Step))
    (first :
      (closedown.run? start earlier).any fun callers =>
        callers.session.context.next? = some task) :
    ∃ served, closedown.Served start (earlier ++ .serve :: later) task served := by
  obtain ⟨served, ran, first⟩ := (Option.any_eq_true _ _).mp first
  exact ⟨served, earlier, later, rfl, ran, of_decide_eq_true first⟩

theorem established_of_report
    (earlier later : List (Turn Step))
    (id : ChannelId)
    (goes : (closedown.run? start earlier).isSome) :
    Established start
      (earlier ++ .aside (.act (.report id (.established true))) :: later) id := by
  obtain ⟨callers, ran⟩ := Option.isSome_iff_exists.mp goes
  exact ⟨earlier, _, later, callers, rfl, ran, .inl ⟨true, rfl⟩⟩

theorem established_of_join
    (earlier later : List (Turn Step))
    (bound :
      (closedown.run? start earlier).any fun callers =>
        callers.session.core.transport.listeners ≠ [] ∧
          id = ⟨callers.session.core.transport.nextId⟩) :
    Established start (earlier ++ .aside (.act (.join none none)) :: later) id := by
  obtain ⟨callers, ran, bound⟩ := (Option.any_eq_true _ _).mp bound
  obtain ⟨listens, same⟩ := of_decide_eq_true bound
  exact ⟨earlier, _, later, callers, rfl, ran, .inr ⟨none, none, rfl, listens, same⟩⟩

/-- When the shutdown begins, one connection is on the roster, another waits to
join it, and a third is not open yet.  That opens after the last job. -/
theorem shutdown_complete_three_places :
    let server : Callers ServerSession Closing :=
      { session :=
          .start ("server", "crew") {} (fun _ => .generated) 0 (Transport.unused {})
            fun _ => {} }
    let turns : List (Turn Step) :=
      [.aside (.act (.listen 80 none false)), .serve, .aside (.act (.join none none)),
        .serve, .aside (.act (.accept none none)), .call 0, .aside (.act (.join none none)),
        .serve, .serve, .wait 0, .wait 0, .finish 0, .serve, .serve, .leave 0,
        .aside (.act (.report ⟨3⟩ (.established true)))]
    ∃ final begun served,
      closedown.run? server turns = some final ∧
        closedown.Served server turns .beginShutdown begun ∧
        Since [.shuttingDown, .off] begun final ∧
        closedown.Served server turns .finishShutdown served ∧
        final.session.core.transport.listeners ≠ [] ∧
        (∀ listener ∈ final.session.core.transport.listeners,
          final.session.core.transport.calls.count (.close listener.id) = 1) ∧
        (Established server turns ⟨2⟩ ∧ Settled turns final ⟨2⟩) ∧
        (Established server turns ⟨3⟩ ∧ Settled turns final ⟨3⟩) ∧
        (Established server turns ⟨4⟩ ∧ Settled turns final ⟨4⟩) ∧
        final.session.core.roster.identities.value = [] ∧
        final.session.core.localAddress.value = none ∧
        final.session.core.roster.state.value = .off := by
  intro server turns
  have goes : (closedown.run? server turns).any fun final =>
      final.session.core.transport.listeners ≠ [] := by
    decide +kernel
  obtain ⟨final, ran, bound⟩ := (Option.any_eq_true _ _).mp goes
  obtain ⟨begun, first⟩ : ∃ begun, closedown.Served server turns .beginShutdown begun := by
    apply served_of_any (turns.take 7) (turns.drop 8)
    decide +kernel
  obtain ⟨served, last⟩ : ∃ served, closedown.Served server turns .finishShutdown served := by
    apply served_of_any (turns.take 12) (turns.drop 13)
    decide +kernel
  have rostered : Established server turns ⟨2⟩ := by
    apply established_of_join (turns.take 2) (turns.drop 3)
    decide +kernel
  have reported : Established server turns ⟨3⟩ := by
    apply established_of_report (turns.take 15) [] ⟨3⟩
    decide +kernel
  have waiting : Established server turns ⟨4⟩ := by
    apply established_of_join (turns.take 6) (turns.drop 7)
    decide +kernel
  obtain ⟨since, complete⟩ := shutdown_complete ran
  obtain ⟨closed, settled, identities, address, state⟩ := complete served last
  exact ⟨final, begun, served, ran, first, since begun first, last, of_decide_eq_true bound,
    closed, ⟨rostered, settled _ rostered⟩, ⟨reported, settled _ reported⟩,
    ⟨waiting, settled _ waiting⟩, identities, address, state⟩

end ServerSession

end LineProtocol
