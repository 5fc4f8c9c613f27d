import LineProtocol.Proofs.Client.Asides
import LineProtocol.Proofs.Client.Stale
import LineProtocol.Proofs.Shutdown.Overtaking

/-!
# Connections that a client leaves behind

When a client has been shut down, every connection that it ever asked for should
have ended, or should have been asked to be closed.  A connection is lost in two
ways.  A client that failed may connect again while it still holds the broken
connection, and then it holds the new one instead.  And whoever shuts the client
down leaves a gap between the first job, which closes the connection, and the
last one, which only lets go: a connection that is asked for in the gap is
overlooked.

`settled_or_lost` says that there is no other way, however many callers shut the
client down.
-/

namespace LineProtocol

namespace ClientCore

/-- Whoever is asked to disconnect asks for the connection to be closed, unless
that was asked for before. -/
theorem givenUp_disconnect
    {core : ClientCore}
    {id : ChannelId}
    (apart : core.machine.current = .disconnected → core.channel = none)
    (held : core.channel = some id)
    (first : core.machine.current ≠ .disconnecting) :
    core.disconnect.2.transport.GivenUp id := by
  have closes : core.disconnect.2.transport = (core.transport.close id).2 := by
    cases state : core.machine.current with
    | disconnected => simp [apart state] at held
    | disconnecting => exact (first state).elim
    | connecting => simp [disconnect, state, held]; rfl
    | connected => simp [disconnect, state, held]; rfl
    | failed cause => simp [disconnect, state, held]; rfl
  rw [closes]
  exact Transport.givenUp_close _ id

end ClientCore

namespace ClientSession

/-! ## What became of a connection -/

/-- The transport reported that the connection ended. -/
def Told
    (turns : List (Turn Step))
    (id : ChannelId) :
    Prop :=
  ∃ report, .aside (.act (.report id report)) ∈ turns ∧ report.ends = true

/-- The connection ended, or it was asked to be closed. -/
def Settled
    (turns : List (Turn Step))
    (callers : Callers ClientSession Ticket)
    (id : ChannelId) :
    Prop :=
  Told turns id ∨ callers.session.core.transport.GivenUp id

variable
  (start : Callers ClientSession Ticket)
  (turns : List (Turn Step))

/-- A request to connect was accepted when the callers had come to this, and the
connection got this number. -/
def Opened
    (id : ChannelId)
    (opened : Callers ClientSession Ticket) :
    Prop :=
  ∃ address, closedown.Served start turns (.connect (.ok address)) opened ∧
    opened.session.core.AcceptsConnect ∧ id = ⟨opened.session.core.transport.nextId⟩

/-- Another request to connect was accepted while the client held the
connection. -/
def Replaced (id : ChannelId) : Prop :=
  ∃ address served, closedown.Served start turns (.connect (.ok address)) served ∧
    served.session.core.AcceptsConnect ∧ served.session.core.channel = some id

/-- The connection was asked for while the caller who handed the last job in
was already waiting, and the last job let go of it. -/
def Overlooked (id : ChannelId) : Prop :=
  ∃ caller opened served,
    Opened start turns id opened ∧ (opened.phases caller).Waits ∧
      closedown.Served start turns .finish served ∧ served.holder = some caller ∧
      served.session.core.channel = some id

variable
  {start : Callers ClientSession Ticket}
  {turns : List (Turn Step)}
  {callers next : Callers ClientSession Ticket}
  {id : ChannelId}

theorem Told.snoc
    (told : Told turns id)
    (turn : Turn Step) :
    Told (turns ++ [turn]) id := by
  obtain ⟨report, there, ends⟩ := told
  exact ⟨report, List.mem_append_left _ there, ends⟩

theorem Settled.snoc
    (settled : Settled turns callers id)
    (later :
      Transport.Later callers.session.core.transport next.session.core.transport)
    (numbered : callers.session.core.transport.Numbered)
    (turn : Turn Step) :
    Settled (turns ++ [turn]) next id := by
  rcases settled with told | givenUp
  · exact .inl (told.snoc turn)
  · exact .inr (givenUp.later later numbered)

theorem Opened.snoc
    {opened : Callers ClientSession Ticket}
    (happened : Opened start turns id opened)
    (turn : Turn Step) :
    Opened start (turns ++ [turn]) id opened := by
  obtain ⟨address, served, accepted, same⟩ := happened
  exact ⟨address, served.snoc turn, accepted, same⟩

theorem Replaced.snoc
    (replaced : Replaced start turns id)
    (turn : Turn Step) :
    Replaced start (turns ++ [turn]) id := by
  obtain ⟨address, served, happened, accepted, held⟩ := replaced
  exact ⟨address, served, happened.snoc turn, accepted, held⟩

theorem Overlooked.snoc
    (overlooked : Overlooked start turns id)
    (turn : Turn Step) :
    Overlooked start (turns ++ [turn]) id := by
  obtain ⟨caller, opened, served, asked, waits, last, holder, held⟩ := overlooked
  exact ⟨caller, opened, served, asked.snoc turn, waits, last.snoc turn, holder, held⟩

/-! ## Where no connection is lost -/

/-- A connection was asked for in a caller's gap. -/
def Late
    (start : Callers ClientSession Ticket)
    (turns : List (Turn Step))
    (caller : Nat)
    (id : ChannelId) :
    Prop :=
  ∃ opened, Opened start turns id opened ∧ (opened.phases caller).Waits

/-- What is known of every connection after a run. -/
structure Traced
    (start : Callers ClientSession Ticket)
    (turns : List (Turn Step))
    (callers : Callers ClientSession Ticket) : Prop where
  numbered : callers.session.core.transport.Numbered
  apart :
    callers.session.core.machine.current = .disconnected →
      callers.session.core.channel = none
  older :
    ∀ id, callers.session.core.channel = some id →
      id.number < callers.session.core.transport.nextId
  /-- Whoever is disconnecting asked for the close. -/
  disconnecting :
    callers.session.core.machine.current = .disconnecting →
      ∀ id, callers.session.core.channel = some id → Settled turns callers id
  /-- A job that ends a connection is handed in where it was reported. -/
  queued :
    ∀ task id, .run task ∈ callers.session.context.queue → task.ends id = true →
      Settled turns callers id
  /-- The first job of each caller asked for the close. -/
  gap :
    ∀ caller id, (callers.phases caller).Waits →
      callers.session.core.channel = some id →
        Settled turns callers id ∨ Late start turns caller id
  opened :
    ∀ id opened, Opened start turns id opened →
      Settled turns callers id ∨ Replaced start turns id ∨ Overlooked start turns id ∨
        callers.session.core.channel = some id
  gone :
    ∀ served, closedown.Served start turns .finish served →
      callers.session.core.channel = none

/-- Machine and channel stayed, nothing was taken back, and no job ran. -/
structure Unstirred
    (turn : Turn Step)
    (callers next : Callers ClientSession Ticket) : Prop where
  machine : next.session.core.machine = callers.session.core.machine
  channel : next.session.core.channel = callers.session.core.channel
  later : Transport.Later callers.session.core.transport next.session.core.transport
  idle : turn = .serve → callers.session.context.next? = none
  queued :
    ∀ task, .run task ∈ next.session.context.queue →
      .run task ∈ callers.session.context.queue ∨
        ∀ id, task.ends id = true →
          ∃ report, turn = .aside (.act (.report id report)) ∧ report.ends = true
  waits :
    ∀ caller, (next.phases caller).Waits → (callers.phases caller).Waits

theorem Traced.unstirred
    {turn : Turn Step}
    (traced : Traced start turns callers)
    (ran : closedown.run? start turns = some callers)
    (quiet : Unstirred turn callers next) :
    Traced start (turns ++ [turn]) next := by
  have settled : ∀ id, Settled turns callers id → Settled (turns ++ [turn]) next id :=
    fun id settled => settled.snoc quiet.later traced.numbered turn
  constructor
  · exact quiet.later.numbered traced.numbered
  · rw [quiet.machine, quiet.channel]
    exact traced.apart
  · intro id held
    rw [quiet.channel] at held
    exact Nat.lt_of_lt_of_le (traced.older id held) quiet.later.nextId
  · intro state id held
    rw [quiet.machine] at state
    rw [quiet.channel] at held
    exact settled id (traced.disconnecting state id held)
  · intro task id there ends
    rcases quiet.queued task there with waited | told
    · exact settled id (traced.queued task id waited ends)
    · obtain ⟨report, rfl, last⟩ := told id ends
      exact .inl ⟨report, by simp, last⟩
  · intro caller id waits held
    rw [quiet.channel] at held
    rcases traced.gap caller id (quiet.waits caller waits) held with
      known | ⟨opened, late, before⟩
    · exact .inl (settled id known)
    · exact .inr ⟨opened, late.snoc turn, before⟩
  · rintro id opened ⟨address, served, accepted, same⟩
    rcases (Closedown.served_snoc_iff ran).mp served with earlier | ⟨serves, -, first⟩
    · rcases traced.opened id opened ⟨address, earlier, accepted, same⟩ with
        known | replaced | overlooked | held
      · exact .inl (settled id known)
      · exact .inr (.inl (replaced.snoc turn))
      · exact .inr (.inr (.inl (overlooked.snoc turn)))
      · exact .inr (.inr (.inr (quiet.channel.trans held)))
    · exact nomatch (quiet.idle serves).symm.trans first
  · intro served last
    rcases (Closedown.served_snoc_iff ran).mp last with earlier | ⟨serves, -, first⟩
    · exact quiet.channel.trans (traced.gone served earlier)
    · exact nomatch (quiet.idle serves).symm.trans first

theorem unstirred_of_aside
    {turn : Turn Step}
    {aside : Aside Step}
    {session : ClientSession}
    (numbered : callers.session.core.transport.Numbered)
    (made : turn = .aside aside)
    (happened : closedown.aside? callers.session aside = some session) :
    Unstirred turn callers { callers with session } := by
  have stirs := stirs_aside? happened
  refine ⟨stirs.machine, stirs.channel, stirs.transport.toLater, ?_, ?_, fun _ waits => waits⟩
  · rw [made]
    exact nofun
  · intro task there
    obtain ⟨jobs, queue, known, -⟩ := stirs.context.queue
    rw [queue] at there
    rcases List.mem_append.mp there with waited | fresh
    · exact .inl waited
    · right
      intro id ends
      obtain ⟨step, same, other, report, channel, rfl, found, about, last⟩ :=
        (known task (by simpa using fresh)).ends id ends
      have other_eq : other = id := (numbered other channel found).1.symm.trans about
      exact ⟨report, by rw [made, same, other_eq], last⟩

/-- The context ran a job. -/
structure Runs
    (task : ClientJob)
    (callers next : Callers ClientSession Ticket) : Prop where
  first : callers.session.context.next? = some task
  state : next.session.core = (task.run false callers.session.core).state
  queued :
    ∀ other, .run other ∈ next.session.context.queue →
      .run other ∈ callers.session.context.queue ∨
        other ∈ (task.run callers.session.context.stopped callers.session.core).submitted
  waits :
    ∀ caller, (next.phases caller).Waits →
      (callers.phases caller).Waits ∨ task = .disconnect

variable {task : ClientJob}

theorem Runs.later (runs : Runs task callers next) :
    Transport.Later callers.session.core.transport next.session.core.transport := by
  rw [runs.state]
  exact ClientJob.later_run false task _

theorem Runs.mem (runs : Runs task callers next) :
    .run task ∈ callers.session.context.queue := by
  obtain ⟨-, rest, queue⟩ := Serial.next?_eq_some_iff.mp runs.first
  exact queue ▸ List.mem_cons_self

theorem Runs.served
    (runs : Runs task callers next)
    (ran : closedown.run? start turns = some callers) :
    closedown.Served start (turns ++ [.serve]) task callers :=
  (Closedown.served_snoc_iff ran).mpr (.inr ⟨rfl, rfl, runs.first⟩)

/-- What is held afterwards was held before, or it was just asked for. -/
theorem Runs.held_cases
    (runs : Runs task callers next)
    (ran : closedown.run? start turns = some callers)
    (held : next.session.core.channel = some id) :
    callers.session.core.channel = some id ∨
      (Opened start (turns ++ [.serve]) id callers ∧
        next.session.core.machine.current = .connecting ∧
        id.number < next.session.core.transport.nextId ∧ task ≠ .disconnect) := by
  have serving := runs.served ran
  rw [runs.state] at held ⊢
  rcases (ClientCore.moves_run _ task).held held with before | ⟨address, rfl, accepted, rfl⟩
  · exact .inl before
  · obtain ⟨-, -, nextId⟩ := ClientCore.connect_of_ok accepted address
    refine .inr ⟨⟨address, serving, accepted, rfl⟩,
      ClientCore.current_connect_of_ok accepted address, ?_, nofun⟩
    exact Nat.lt_of_lt_of_eq (Nat.lt_succ_self _) nextId.symm

theorem Traced.settled_of_disconnect
    (traced : Traced start turns callers)
    (runs : Runs task callers next)
    (asked : task = .disconnect)
    (held : callers.session.core.channel = some id) :
    Settled (turns ++ [.serve]) next id := by
  by_cases before : callers.session.core.machine.current = .disconnecting
  · exact (traced.disconnecting before id held).snoc runs.later traced.numbered .serve
  · right
    rw [runs.state, asked]
    exact ClientCore.givenUp_disconnect traced.apart held before

/-- A connection that a job lets go of ended, or is replaced or overlooked. -/
theorem Traced.released
    (traced : Traced start turns callers)
    (sound : closedown.Sound callers)
    (ran : closedown.run? start turns = some callers)
    (runs : Runs task callers next)
    (held : callers.session.core.channel = some id)
    (releases : callers.session.core.Releases id task) :
    Settled (turns ++ [.serve]) next id ∨ Replaced start (turns ++ [.serve]) id ∨
      Overlooked start (turns ++ [.serve]) id := by
  have settled : Settled turns callers id → Settled (turns ++ [.serve]) next id :=
    fun settled => settled.snoc runs.later traced.numbered .serve
  have serving := runs.served ran
  cases task with
  | connect target =>
      obtain ⟨accepts, address, rfl⟩ := releases
      exact .inr (.inl ⟨address, callers, serving, accepts, held⟩)
  | connectFailed other cause =>
      have ends : (ClientJob.connectFailed other cause).ends id = true :=
        decide_eq_true releases
      exact .inl (settled (traced.queued _ id runs.mem ends))
  | closed other =>
      have ends : (ClientJob.closed other).ends id = true := decide_eq_true releases
      exact .inl (settled (traced.queued _ id runs.mem ends))
  | finish =>
      obtain ⟨caller, holder, waits⟩ := sound.holder_of_last runs.first
      rcases traced.gap caller id waits held with known | ⟨opened, asked, between⟩
      · exact .inl (settled known)
      · exact .inr (.inr
          ⟨caller, opened, callers, asked.snoc .serve, between, serving, holder, held⟩)
  | send message => exact releases.elim
  | disconnect => exact releases.elim
  | established other => exact releases.elim
  | broke other cause => exact releases.elim

theorem Traced.ran
    (starts : closedown.Sound start)
    (traced : Traced start turns callers)
    (sound : closedown.Sound callers)
    (ran : closedown.run? start turns = some callers)
    (runs : Runs task callers next) :
    Traced start (turns ++ [.serve]) next := by
  have settled : ∀ id, Settled turns callers id → Settled (turns ++ [.serve]) next id :=
    fun id settled => settled.snoc runs.later traced.numbered .serve
  constructor
  · exact runs.later.numbered traced.numbered
  · rw [runs.state]
    exact (ClientCore.moves_run _ task).apart traced.apart
  · intro id held
    rcases runs.held_cases ran held with before | ⟨-, -, older, -⟩
    · exact Nat.lt_of_lt_of_le (traced.older id before) runs.later.nextId
    · exact older
  · intro disconnecting id held
    rcases runs.held_cases ran held with before | ⟨-, connecting, -, -⟩
    · rw [runs.state] at disconnecting
      rcases (ClientCore.moves_run _ task).disconnecting disconnecting with still | asked
      · exact settled id (traced.disconnecting still id before)
      · exact traced.settled_of_disconnect runs asked before
    · cases connecting.symm.trans disconnecting
  · intro other id there ends
    rcases runs.queued other there with waited | submitted
    · exact settled id (traced.queued other id waited ends)
    · obtain ⟨-, address, cause, -, rfl, failed⟩ := ClientJob.submitted_run submitted
      rw [ClientJob.state_run, ← runs.state] at failed
      obtain rfl : (⟨callers.session.core.transport.nextId⟩ : ChannelId) = id := by
        simpa [ClientJob.ends] using ends
      exact .inr (.inl failed)
  · intro caller id waiting held
    rcases runs.held_cases ran held with before | ⟨opened, -, -, other⟩
    · rcases runs.waits caller waiting with waited | asked
      · rcases traced.gap caller id waited before with known | ⟨opened, late, between⟩
        · exact .inl (settled id known)
        · exact .inr ⟨opened, late.snoc .serve, between⟩
      · exact .inl (traced.settled_of_disconnect runs asked before)
    · rcases runs.waits caller waiting with waited | asked
      · exact .inr ⟨callers, opened, waited⟩
      · exact (other asked).elim
  · rintro id opened ⟨address, served, accepted, same⟩
    rcases (Closedown.served_snoc_iff ran).mp served with earlier | ⟨-, rfl, now⟩
    · rcases traced.opened id opened ⟨address, earlier, accepted, same⟩ with
        known | replaced | overlooked | held
      · exact .inl (settled id known)
      · exact .inr (.inl (replaced.snoc .serve))
      · exact .inr (.inr (.inl (overlooked.snoc .serve)))
      · by_cases releases : callers.session.core.Releases id task
        · rcases traced.released sound ran runs held releases with
            known | replaced | overlooked
          · exact .inl known
          · exact .inr (.inl replaced)
          · exact .inr (.inr (.inl overlooked))
        · refine .inr (.inr (.inr ?_))
          rw [runs.state]
          have moves := callers.session.core.moves_run task
          exact (moves.holds_iff traced.apart (traced.older id held)).mpr ⟨held, releases⟩
    · obtain rfl := Option.some.inj (runs.first.symm.trans now)
      refine .inr (.inr (.inr ?_))
      rw [runs.state, same]
      exact (ClientCore.connect_of_ok accepted address).2.1
  · intro served last
    rcases (Closedown.served_snoc_iff ran).mp last with earlier | ⟨-, -, now⟩
    · -- Behind the last job there is none.
      have isSealed := Closedown.sealed_of_served closedown_lawful starts ran earlier
      cases isSealed.idle.symm.trans runs.first
    · obtain rfl := Option.some.inj (runs.first.symm.trans now)
      rw [runs.state]
      exact (ClientCore.finish_eq traced.apart).2

/-! ## Every turn -/

theorem traced_start
    (names : String × String)
    (settings : ClientSettings)
    (transport : Transport)
    (handler : String → Reaction ClientAction) :
    let client : Callers ClientSession Ticket :=
      { session := .start names settings transport.unused handler }
    Traced client [] client where
  numbered := transport.numbered_unused
  apart _ := rfl
  older _ := nofun
  disconnecting := nofun
  queued _ _ := nofun
  gap _ _ := nofun
  opened := by
    rintro id opened ⟨address, ⟨earlier, later, split, -⟩, -⟩
    simp at split
  gone := by
    rintro served ⟨earlier, later, split, -⟩
    simp at split

theorem Traced.step
    {turn : Turn Step}
    (starts : closedown.Sound start)
    (traced : Traced start turns callers)
    (sound : closedown.Sound callers)
    (ran : closedown.run? start turns = some callers)
    (stepped : closedown.step? callers turn = some next) :
    Traced start (turns ++ [turn]) next := by
  have waits : ∀ caller, (next.phases caller).Waits →
      (callers.phases caller).Waits ∨
        (turn = .serve ∧ callers.session.context.next? = some .disconnect) :=
    fun _ => Closedown.waits_of_step? closedown_lawful sound stepped
  cases sound.turned closedown_lawful stepped with
  | aside aside session made happened same =>
      rw [same]
      exact traced.unstirred ran (unstirred_of_aside traced.numbered made happened)
  | ran task rest made first state waited left =>
      rw [made] at waits ⊢
      refine traced.ran starts sound ran ⟨first, ?_, ?_, ?_⟩
      · exact state.trans (ClientJob.state_run _ task _)
      · intro other there
        change .run other ∈ (closedown.context next.session).queue at there
        rw [left] at there
        rcases List.mem_append.mp there with behind | submitted
        · exact .inl (waited ▸ List.mem_cons_of_mem _ behind)
        · obtain ⟨_, given, same⟩ := List.mem_map.mp submitted
          exact .inr (Envelope.run.inj same ▸ given)
      · intro caller waiting
        refine (waits caller waiting).imp_right ?_
        rintro ⟨-, now⟩
        exact Option.some.inj (first.symm.trans now)
  | still rest more apart idle state waited left phases =>
      have core : next.session.core = callers.session.core := state
      refine traced.unstirred ran ⟨?_, ?_, ?_, idle, ?_, ?_⟩
      · rw [core]
      · rw [core]
      · rw [core]
        exact .refl _
      · intro task there
        change .run task ∈ (closedown.context next.session).queue at there
        rw [left] at there
        rcases List.mem_append.mp there with behind | fresh
        · rcases waited with ⟨-, same⟩ | ⟨-, ends⟩
          · exact .inl (same ▸ behind)
          · exact .inl (ends ▸ List.mem_cons_of_mem _ behind)
        · right
          rcases phases task fresh with rfl | rfl
          · exact fun _ => nofun
          · exact fun _ => nofun
      · intro caller waiting
        rcases waits caller waiting with before | ⟨serves, first⟩
        · exact before
        · exact nomatch (idle serves).symm.trans first

theorem Traced.run
    {final : Callers ClientSession Ticket}
    (starts : closedown.Sound start)
    (traced : Traced start [] start)
    (ran : closedown.run? start turns = some final) :
    Traced start turns final := by
  induction ran using foldlM_induction with
  | none => exact traced
  | snoc turns turn between final before stepped ih =>
      exact ih.step starts (starts.run closedown_lawful before) before stepped

/-- When a shutdown returns, each connection that was ever asked for ended or was
asked to be closed, unless the client connected again while it still held the
connection, or the connection was asked for after the shutdown's first job. -/
theorem settled_or_lost
    {names : String × String}
    {settings : ClientSettings}
    {transport : Transport}
    {handler : String → Reaction ClientAction}
    {turns : List (Turn Step)}
    {final opened : Callers ClientSession Ticket}
    {caller : Nat}
    {id : ChannelId}
    (ran :
      closedown.run? { session := .start names settings transport.unused handler } turns =
        some final)
    (returned : final.phases caller = .returned)
    (asked :
      Opened { session := .start names settings transport.unused handler } turns id opened) :
    Settled turns final id ∨
      Replaced { session := .start names settings transport.unused handler } turns id ∨
      Overlooked { session := .start names settings transport.unused handler } turns id := by
  have holdsBack : closedown.HoldsBack
      { session := .start names settings transport.unused handler } :=
    Closedown.holdsBack closedown_lawful rfl rfl rfl
  obtain ⟨served, last⟩ := holdsBack.served_of_returned turns final caller ran returned
  have starts : closedown.Sound
      { session := .start names settings transport.unused handler } :=
    Closedown.sound_start rfl rfl rfl
  have traced := (traced_start names settings transport handler).run starts ran
  rcases traced.opened id opened asked with settled | replaced | overlooked | held
  · exact .inl settled
  · exact .inr (.inl replaced)
  · exact .inr (.inr overlooked)
  · exact nomatch (traced.gone served last).symm.trans held

/-! ## Runs that lose a connection -/

/-- The job asks for a connection to a known address. -/
def asks : ClientJob → Bool
  | .connect (.ok _) => true
  | _ => false

instance (core : ClientCore) : Decidable core.AcceptsConnect :=
  inferInstanceAs (Decidable (_ = _))

instance
    (transport : Transport)
    (id : ChannelId) :
    Decidable (transport.GivenUp id) :=
  inferInstanceAs (Decidable (_ ∨ _))

theorem opened_of_any
    (earlier later : List (Turn Step))
    (asked :
      (closedown.run? start earlier).any fun callers =>
        callers.session.context.next?.any asks ∧ callers.session.core.AcceptsConnect ∧
          id = ⟨callers.session.core.transport.nextId⟩) :
    ∃ opened, Opened start (earlier ++ .serve :: later) id opened := by
  obtain ⟨opened, ran, asked⟩ := (Option.any_eq_true _ _).mp asked
  obtain ⟨first, accepted, same⟩ := of_decide_eq_true asked
  obtain ⟨task, first, asks⟩ := (Option.any_eq_true _ _).mp first
  cases task with
  | connect target =>
      cases target with
      | ok address =>
          exact ⟨opened, address, ⟨earlier, later, rfl, ran, first⟩, accepted, same⟩
      | error cause => simp [ClientSession.asks] at asks
  | _ => simp [ClientSession.asks] at asks

/-- The connection is asked for between the two jobs of a shutdown. -/
theorem settled_or_lost_in_gap :
    let client : Callers ClientSession Ticket :=
      { session := .start ("client", "crew") {} (Transport.unused {}) fun _ => {} }
    let turns : List (Turn Step) :=
      [.call 0, .serve, .aside (.act (.connect "0.0.0.0" 80 (.found []) none false)), .serve,
        .finish 0, .serve, .serve, .leave 0]
    ∃ final opened,
      closedown.run? client turns = some final ∧ final.phases 0 = .returned ∧
        Opened client turns ⟨1⟩ opened ∧
        (Settled turns final ⟨1⟩ ∨ Replaced client turns ⟨1⟩ ∨
          Overlooked client turns ⟨1⟩) := by
  intro client turns
  have ends : (closedown.run? client turns).any fun final =>
      final.phases 0 = .returned := by
    decide +kernel
  obtain ⟨final, ran, ended⟩ := (Option.any_eq_true _ _).mp ends
  obtain ⟨opened, asked⟩ : ∃ opened, Opened client turns ⟨1⟩ opened := by
    apply opened_of_any
      [.call 0, .serve, .aside (.act (.connect "0.0.0.0" 80 (.found []) none false))]
      [.finish 0, .serve, .serve, .leave 0]
    decide +kernel
  have returned := of_decide_eq_true ended
  exact ⟨final, opened, ran, returned, asked, settled_or_lost ran returned asked⟩

/-- On a shared transport a client connects, loses the connection, connects again
and is shut down.  Nobody asks for the first connection to be closed. -/
theorem not_always_settled :
    ¬ ∀ (names : String × String) (settings : ClientSettings) (transport : Transport)
        (handler : String → Reaction ClientAction) (turns : List (Turn Step))
        (final opened : Callers ClientSession Ticket) (caller : Nat) (id : ChannelId),
        let client : Callers ClientSession Ticket :=
          { session :=
              .start names { settings with engine := .shared } transport.unused handler }
        closedown.run? client turns = some final →
          final.phases caller = .returned →
            Opened client turns id opened →
              Settled turns final id := by
  intro settled
  let client : Callers ClientSession Ticket :=
    { session :=
        .start ("client", "crew") { ({} : ClientSettings) with engine := .shared }
          (Transport.unused {}) fun _ => {} }
  let earlier : List (Turn Step) := [.aside (.act (.connect "0.0.0.0" 80 (.found []) none false))]
  let later : List (Turn Step) :=
    [.aside (.act (.report ⟨1⟩ (.established true))), .serve,
      .aside (.act (.report ⟨1⟩ (.broke "reset"))), .serve,
      .aside (.act (.connect "0.0.0.0" 80 (.found []) none false)), .serve,
      .aside (.act (.report ⟨2⟩ (.established true))), .serve,
      .call 0, .serve, .wait 0, .finish 0, .serve, .serve, .leave 0]
  have ends : (closedown.run? client (earlier ++ .serve :: later)).any fun final =>
      final.phases 0 = .returned ∧ ¬ final.session.core.transport.GivenUp ⟨1⟩ := by
    decide +kernel
  obtain ⟨final, ran, ended⟩ := (Option.any_eq_true _ _).mp ends
  obtain ⟨returned, open_⟩ := of_decide_eq_true ended
  obtain ⟨opened, asked⟩ :
      ∃ opened, Opened client (earlier ++ .serve :: later) ⟨1⟩ opened := by
    apply opened_of_any
    decide +kernel
  have settled : Settled (earlier ++ .serve :: later) final ⟨1⟩ :=
    settled ("client", "crew") {} {} (fun _ => {}) _ final opened 0 ⟨1⟩ ran returned asked
  rcases settled with ⟨report, there, last⟩ | givenUp
  · have known : report = .established true ∨ report = .broke "reset" := by
      simpa [earlier, later] using there
    rcases known with rfl | rfl
    · simp [Report.ends] at last
    · simp [Report.ends] at last
  · exact open_ givenUp

end ClientSession

end LineProtocol
