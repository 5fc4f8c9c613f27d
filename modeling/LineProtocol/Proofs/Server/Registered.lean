import LineProtocol.Proofs.Server.Admission
import LineProtocol.Proofs.Server.Register

/-!
# Who is registered, by the jobs that ran

Which connection belongs to whom, and in which order they came, follows from the jobs that
ran: `registered` reads it off them, as a plain list.  `Lists` says that a roster has that
list, and every job keeps it.

All messages of a server are written with one encoder.  No job leaves anything in it, so what
comes next is written as if it were the first.
-/

namespace LineProtocol

/-- What a job makes of the list of clients. -/
def Register.serve (register : Register) : ServerJob → Register
  | .join member =>
      (register.perform (.add member.identity { id := member.channel })).2
  | .leave member => (register.perform (.remove member.identity member.channel)).2
  | .kick identity =>
      { register with clients := register.clients.filter (·.1 ≠ identity) }
  | .beginShutdown => { clients := [], closing := true }
  | .finishShutdown => { register with closing := false }
  | _ => register

/-- The clients that the jobs that ran have left registered, in the order in which they were
let in. -/
def registered (trail : List (ServerJob × ServerCore)) : Register :=
  trail.foldl (fun register entry => register.serve entry.1) {}

theorem registered_snoc
    (trail : List (ServerJob × ServerCore))
    (job : ServerJob)
    (core : ServerCore) :
    registered (trail ++ [(job, core)]) = (registered trail).serve job :=
  List.foldl_append

/-- The roster has the clients that the list has. -/
def Roster.Lists
    (roster : Roster)
    (register : Register) :
    Prop :=
  ∃ session : RosterSession, session.roster = roster ∧ session.Keeps register

/-! ## What jobs make of the list -/

namespace Roster.Lists

open RosterSession (Request)

variable
  {roster : Roster}
  {register : Register}

theorem toList (lists : roster.Lists register) : roster.toList = register.members := by
  obtain ⟨session, rfl, keeps⟩ := lists
  exact keeps.toList

theorem mostRecent? (lists : roster.Lists register) :
    roster.mostRecent? = register.members.getLast? := by
  obtain ⟨session, rfl, keeps⟩ := lists
  exact keeps.mostRecent?

theorem found
    (lists : roster.Lists register)
    (identity : Identity) :
    roster.member? identity = register.member? identity := by
  obtain ⟨session, rfl, keeps⟩ := lists
  exact keeps.found identity

theorem distinct (lists : roster.Lists register) : register.identities.Nodup := by
  obtain ⟨session, rfl, keeps⟩ := lists
  exact keeps.distinct

end Roster.Lists

namespace ServerCore

theorem roster_join
    (core : ServerCore)
    (member : Member) :
    (core.join member).roster = (core.roster.add member).2 := by
  rw [join]
  split
  · rename_i added
    rw [added]
  · rename_i refused
    rw [refused]
    rfl

theorem roster_kick
    {core : ServerCore}
    {identity : Identity}
    {member : Member}
    (found : core.roster.member? identity = some member) :
    (core.kick identity).roster = (core.roster.remove identity member.channel).2 := by
  rw [kick, found]
  simp only
  split
  · rename_i ignored
    rw [ignored]
  · rename_i removed
    rw [removed]

variable
  {core : ServerCore}
  {register : Register}

theorem lists_kick
    (lists : core.roster.Lists register)
    (identity : Identity) :
    (core.kick identity).roster.Lists (register.serve (.kick identity)) := by
  have known := lists.found identity
  rw [Register.member?] at known
  cases found : register.client? identity with
  | none =>
      rw [found] at known
      have nobody : register.clients.filter (·.1 ≠ identity) = register.clients := by
        rw [List.filter_eq_self]
        intro client there
        rw [Register.client?, List.find?_eq_none] at found
        simpa using found client there
      rw [kick, known, Register.serve, nobody]
      exact lists
  | some client =>
      rw [found] at known
      obtain ⟨session, same, keeps⟩ := lists
      have kept := (keeps.remove identity client.2.id).2
      rw [Register.perform, Register.filter_isNamed_of_found keeps.distinct found] at kept
      refine ⟨_, ?_, kept⟩
      rw [roster_kick known, ← same]
      rfl

theorem lists_listen
    (lists : core.roster.Lists register)
    (port : UInt16) :
    (core.listen port).roster.Lists register := by
  obtain ⟨session, same, keeps⟩ := lists
  rw [listen]
  split
  · exact ⟨session, same, keeps⟩
  · split
    · exact ⟨session, same, keeps⟩
    · simp only
      split
      · rename_i listener transport bound
        exact ⟨_, congrArg (Roster.listenerBound · listener.address) same,
          (keeps.perform (.bound listener.address)).2⟩
      · rename_i reason transport failed
        exact ⟨_, congrArg (Roster.recordFault · _) same, (keeps.perform (.recordFault _)).2⟩

/-- Every job makes of the list what it makes of the roster. -/
theorem lists_run
    (lists : core.roster.Lists register)
    (task : ServerJob) :
    (task.run core).2.roster.Lists (register.serve task) := by
  cases task with
  | listen port => exact lists_listen lists port
  | join member =>
      obtain ⟨session, same, keeps⟩ := lists
      refine ⟨_, ?_, (keeps.add member.identity { id := member.channel }).2⟩
      exact (congrArg (fun roster => (roster.add member).2) same).trans
        (core.roster_join member).symm
  | leave member =>
      obtain ⟨session, same, keeps⟩ := lists
      exact ⟨_, congrArg (fun roster => (roster.remove member.identity member.channel).2) same,
        (keeps.remove member.identity member.channel).2⟩
  | send message target =>
      show (core.send message target).roster.Lists register
      rw [(core.speaks_send message target).roster]
      exact lists
  | broadcast message =>
      show (core.broadcast message).roster.Lists register
      rw [(core.speaks_broadcast message).roster]
      exact lists
  | kick identity => exact lists_kick lists identity
  | stopListening =>
      obtain ⟨session, same, keeps⟩ := lists
      show core.stopListening.roster.Lists register
      rw [stopListening]
      split
      · exact ⟨session, same, keeps⟩
      · exact ⟨_, congrArg Roster.listenerUnbound same, (keeps.perform .unbound).2⟩
  | beginShutdown =>
      obtain ⟨session, same, keeps⟩ := lists
      refine ⟨_, ?_, ((keeps.perform .beginShutdown).2.perform .drain).2⟩
      show _ = core.beginShutdown.2.roster
      rw [core.clears_beginShutdown.1.roster, ← same]
      rfl
  | finishShutdown =>
      obtain ⟨session, same, keeps⟩ := lists
      exact ⟨_, congrArg Roster.finishShutdown same, (keeps.perform .finishShutdown).2⟩

/-! ## The encoder -/

@[simp]
theorem encoder_deliver
    (frame : Bytes)
    (core : ServerCore)
    (member : Member) :
    (core.deliver frame member).encoder = core.encoder := by
  rw [deliver]
  simp only
  split
  · rfl
  · rfl

/-- No job leaves anything in the encoder. -/
theorem encoder_run
    {framing : Framing}
    (emptied : core.encoder = framing.encoder)
    (task : ServerJob) :
    (task.run core).2.encoder = framing.encoder := by
  cases task with
  | listen port =>
      show (core.listen port).encoder = _
      rw [listen]
      split
      · exact emptied
      · split
        · exact emptied
        · simp only
          split
          · exact emptied
          · exact emptied
  | join member =>
      show (core.join member).encoder = _
      rw [join]
      split
      · exact emptied
      · exact emptied
  | leave member => exact emptied
  | send message target =>
      show (core.send message target).encoder = _
      rw [send]
      split
      · exact emptied
      · simp only [emptied, Framing.encode_encoder]
        split
        · rfl
        · rfl
  | broadcast message =>
      show (core.broadcast message).encoder = _
      simp only [broadcast, emptied, Framing.encode_encoder]
      apply List.foldlRecOn (motive := fun core : ServerCore => core.encoder = framing.encoder)
      · rfl
      · intro given before member _
        rw [encoder_deliver, before]
  | kick identity =>
      show (core.kick identity).encoder = _
      rw [kick]
      split
      · exact emptied
      · split
        · exact emptied
        · exact emptied
  | stopListening =>
      show core.stopListening.encoder = _
      rw [stopListening]
      split
      · exact emptied
      · exact emptied
  | beginShutdown =>
      show core.beginShutdown.2.encoder = _
      cases present : core.listener with
      | none => simpa only [beginShutdown, closeListener, present] using emptied
      | some listener => simpa only [beginShutdown, closeListener, present] using emptied
  | finishShutdown => exact emptied

end ServerCore

namespace ServerSession

theorem encoder_submit
    (session : ServerSession)
    (job : ServerJob) :
    (session.submit job).2.core.encoder = session.core.encoder :=
  congrArg ServerCore.encoder (session.context.state_submit job)

theorem encoder_handleAll (session : ServerSession) :
    session.handleAll.core.encoder = session.core.encoder := by
  rw [handleAll]
  let empties (given : ServerSession) : Prop := given.core.encoder = session.core.encoder
  apply List.foldlRecOn (motive := empties)
  · rfl
  · intro given before parcel _
    rw [handle]
    apply List.foldlRecOn (motive := empties)
    · exact before
    · intro given before action _
      exact (encoder_submit _ _).trans before

theorem encoder_hear
    (session : ServerSession)
    (id : ChannelId)
    (link : Link)
    (report : Report) :
    (session.hear id link report).core.encoder = session.core.encoder := by
  cases report with
  | established marks =>
      have submitted := session.encoder_submit (.join { identity := link.identity, channel := id })
      simp only [hear, established]
      split
      · rename_i taken
        rwa [taken] at submitted
      · rename_i refused
        rwa [refused] at submitted
  | read chunk =>
      simp only [hear, read, foldl_note]
      split
      · rfl
      · rfl
  | closed marks => exact encoder_submit _ _
  | _ => rfl

theorem encoder_report
    (session : ServerSession)
    (id : ChannelId)
    (report : Report) :
    (session.report id report).2.core.encoder = session.core.encoder := by
  rw [ServerSession.report]
  split
  · rfl
  · exact encoder_hear _ id _ report

theorem encoder_call
    {session : ServerSession}
    {action : ServerSession → Except Fault Unit × ServerSession}
    (same : (action session).2.core.encoder = session.core.encoder) :
    (session.call action).2.core.encoder = session.core.encoder := by
  simp only [call]
  split
  · exact same
  · rfl

/-- Calls and reports leave the encoder alone. -/
theorem encoder_act?
    {session next : ServerSession}
    {step : Step}
    (acted : session.act? step = some next) :
    next.core.encoder = session.core.encoder := by
  cases step with
  | shutdown | drop => cases acted
  | report id report =>
      simp only [act?] at acted
      split at acted
      · obtain rfl := Option.some.inj acted
        exact encoder_report session id report
      · cases acted
  | accept peer name | acceptFailed reason =>
      obtain rfl := Option.some.inj acted
      simp only [perform, reportListener]
      split
      · rfl
      · rfl
  | join peer name =>
      obtain rfl := Option.some.inj acted
      simp only [perform, reportListener]
      split
      · rfl
      · exact encoder_report _ _ _
  | configure closeMode refusesWrites =>
      obtain rfl := Option.some.inj acted
      rfl
  | learn id identity =>
      obtain rfl := Option.some.inj acted
      simp only [perform]
      split
      · rfl
      · rfl
  | listen port failure reenters | stopListening | send message target | broadcast message
  | kick target =>
      obtain rfl := Option.some.inj acted
      exact encoder_call (encoder_submit _ _)

theorem encoder_aside?
    {session next : ServerSession}
    {aside : Aside Step}
    (happened : closedown.aside? session aside = some next) :
    next.core.encoder = session.core.encoder := by
  cases aside with
  | act step => exact encoder_act? happened
  | work =>
      obtain rfl := Option.some.inj happened
      exact session.encoder_handleAll
  | answer chosen receipt =>
      simp only [Closedown.aside?] at happened
      split at happened
      · cases happened
      · obtain rfl := Option.some.inj happened
        rfl
  | numbers count =>
      obtain rfl := Option.some.inj happened
      rfl

/-! ## Runs -/

variable
  {start callers next : Callers ServerSession Closing}
  {turns : List (Turn Step)}
  {turn : Turn Step}

/-- The roster has the clients that the jobs have left, each with a connection of its own, and
nothing is left in the encoder. -/
structure Addressed
    (framing : Framing)
    (trail : List (ServerJob × ServerCore))
    (core : ServerCore) : Prop where
  lists : core.roster.Lists (registered trail)
  emptied : core.encoder = framing.encoder

theorem addressed_start
    (names : String × String)
    (settings : ServerSettings)
    (policy : Option String → IdentityPolicy)
    (seed : Nat)
    (transport : Transport)
    (handler : String → Reaction ServerAction) :
    Addressed settings.framing []
      (ServerSession.start names settings policy seed transport handler).core where
  lists := ⟨_, rfl, RosterSession.keeps_fresh _ _⟩
  emptied := rfl

theorem Addressed.run
    {framing : Framing}
    {final : Callers ServerSession Closing}
    (starts : closedown.Sound start)
    (addressed : Addressed framing [] start.session.core)
    (ran : closedown.run? start turns = some final) :
    Addressed framing (closedown.trail start turns) final.session.core := by
  induction ran using foldlM_induction with
  | none => exact addressed
  | snoc turns turn between final before stepped ih =>
      rcases turn_cases (starts.run closedown_lawful before) stepped with
        ⟨aside, session, rfl, happened, rfl⟩ | ⟨task, rfl, runs⟩ | ⟨apart, idle, stays⟩
      · have trail : closedown.trail start (turns ++ [.aside aside]) =
            closedown.trail start turns := Closedown.trail_snoc_of_none before nofun
        rw [trail]
        constructor
        · show session.core.roster.Lists _
          rw [(stirs_aside? happened).roster]
          exact ih.lists
        · exact (encoder_aside? happened).trans ih.emptied
      · rw [Closedown.trail_snoc_of_next? before runs.first, runs.core]
        constructor
        · rw [registered_snoc]
          exact ServerCore.lists_run ih.lists task
        · exact ServerCore.encoder_run ih.emptied task
      · rw [Closedown.trail_snoc_of_none before idle, stays.core]
        exact ih

end ServerSession

end LineProtocol
