import LineProtocol.Proofs.Server.Jobs
import LineProtocol.Server.Moment

/-!
# Jobs of a server, effect by effect

The effects of a job, one after the other, make of a core what the job makes of it.  So a
job can be done without interruption, and then it does what it does: `exists_serves`.
-/

namespace LineProtocol

namespace ServerCore

/-! ## Jobs taken apart -/

theorem foldl_strike
    (core : ServerCore)
    (identity : Identity)
    (channel : ChannelId) :
    (core.strike identity channel).foldl apply core =
      { core with roster := (core.roster.remove identity channel).2 } := by
  rcases core.roster.remove_cases identity channel with ignored | ⟨member, -, -, removed⟩
  · rw [strike, ignored]
    rfl
  · rw [strike, removed]
    rfl

theorem foldl_close
    (members : List Member)
    (core : ServerCore) :
    (members.map fun member => Effect.close member.channel).foldl apply core =
      { core with transport := (closeAll members core.transport).2 } := by
  induction members generalizing core with
  | nil => rfl
  | cons member members ih => exact ih (core.apply (.close member.channel))

/-- What a job does is what its effects do, one after the other. -/
theorem foldl_effects
    (core : ServerCore)
    (job : ServerJob)
    (known : ∀ address, .bind address ∉ core.effects job) :
    (core.effects job).foldl apply core = (job.run core).2 := by
  cases job with
  | listen port =>
      show _ = core.listen port
      rw [effects] at known ⊢
      rw [listen]
      split at known
      case isTrue closing =>
        rw [if_pos closing, if_pos closing]
        rfl
      case isFalse running =>
        rw [if_neg running, if_neg running]
        cases there : core.listener with
        | some listener => rfl
        | none =>
            rw [there] at known
            exact (known _ List.mem_cons_self).elim
  | join member =>
      show _ = core.join member
      rcases core.roster.add_cases member with ⟨cause, refused⟩ | ⟨-, -, added⟩
      · rw [effects, join, refused]
        rfl
      · rw [effects, join, added]
        rfl
  | leave member => exact foldl_strike core member.identity member.channel
  | send message target => rfl
  | broadcast message => rfl
  | kick identity =>
      show _ = core.kick identity
      rw [effects, kick]
      cases there : core.roster.member? identity with
      | none => rfl
      | some member =>
          rcases core.roster.remove_cases identity member.channel with
            ignored | ⟨same, found, -, removed⟩
          · rw [Roster.remove, there] at ignored
            simp at ignored
          · obtain rfl := Option.some.inj (there.symm.trans found)
            simp only [List.foldl_append, foldl_strike, removed]
            rfl
  | stopListening =>
      show _ = core.stopListening
      rw [effects, stopListening]
      cases core.listener with
      | none => rfl
      | some listener => rfl
  | beginShutdown =>
      show _ = core.beginShutdown.2
      have listed := core.roster.drain_beginShutdown.1
      rcases closeListener_cases { core with roster := core.roster.beginShutdown } with
        ⟨absent, whole⟩ | ⟨listener, present, whole⟩
      · have absent : core.listener = none := absent
        rw [effects, absent]
        simp only [List.foldl_append, foldl_close, beginShutdown, whole, listed]
        rfl
      · have present : core.listener = some listener := present
        rw [effects, present]
        simp only [List.foldl_append, foldl_close, beginShutdown, whole, listed]
        rfl
  | finishShutdown =>
      show _ = core.finishShutdown
      rw [effects, finishShutdown]
      split
      · rfl
      · rfl

/-- An attempt to bind an address, with what follows it, is what listening does. -/
theorem foldl_follow
    {core : ServerCore}
    {port : UInt16}
    (running : core.roster.shuttingDown = false)
    (absent : core.listener = none) :
    let tries : Effect := .bind { ip := core.bindIp, port }
    (core.follow tries).foldl apply (core.apply tries) = core.listen port := by
  intro tries
  rw [follow, listen, running, absent, if_neg Bool.false_ne_true]
  simp only [tries, apply, absent]
  cases core.transport.bind { ip := core.bindIp, port } with
  | mk outcome transport =>
      cases outcome with
      | ok listener => rfl
      | error reason => rfl

/-- What follows an attempt is no further one. -/
theorem bind_notMem_follow
    (core : ServerCore)
    (effect : Effect)
    (address : SocketAddress) :
    .bind address ∉ core.follow effect := by
  cases effect with
  | bind other =>
      rw [follow]
      split
      · simp
      · simp
  | _ => simp [follow]

/-- Taking somebody off the roster has nothing to do with addresses. -/
theorem bind_notMem_strike
    (core : ServerCore)
    (identity : Identity)
    (channel : ChannelId)
    (address : SocketAddress) :
    .bind address ∉ core.strike identity channel := by
  rw [strike]
  split <;> simp

/-- Only a server that listens tries to bind an address, and it does nothing else first. -/
theorem listens_of_bind
    {core : ServerCore}
    {job : ServerJob}
    {address : SocketAddress}
    (tries : .bind address ∈ core.effects job) :
    ∃ port,
      job = .listen port ∧ core.roster.shuttingDown = false ∧ core.listener = none ∧
        address = { ip := core.bindIp, port } ∧ core.effects job = [.bind address] := by
  cases job with
  | listen port =>
      rw [effects] at tries ⊢
      split at tries
      case isTrue => simp at tries
      case isFalse running =>
        split at tries
        case h_1 => simp at tries
        case h_2 absent =>
          obtain rfl := Effect.bind.inj (List.mem_singleton.mp tries)
          have running : core.roster.shuttingDown = false := by simpa using running
          exact ⟨port, rfl, running, absent, rfl, by simp [running]⟩
  | leave member => exact (bind_notMem_strike core _ _ _ tries).elim
  | kick identity =>
      rw [effects] at tries
      split at tries
      · simp at tries
      · rcases List.mem_append.mp tries with first | last
        · exact (bind_notMem_strike core _ _ _ first).elim
        · simp at last
  | join member | stopListening | beginShutdown | finishShutdown =>
      rw [effects] at tries
      split at tries
      · simp at tries
      · simp at tries
  | _ => simp [effects] at tries

end ServerCore

namespace ServerMoment

open ServerCore (foldl_effects foldl_follow listens_of_bind bind_notMem_follow)

/-- What is left of a job can be worked off. -/
theorem exists_works
    (moment : ServerMoment)
    (known : ∀ address, .bind address ∉ moment.left) :
    ∃ (events : List Event) (closed : List Listener),
      events.foldlM step? moment =
        some
          { moment with
            core := moment.left.foldl ServerCore.apply moment.core
            left := []
            closed } := by
  generalize remains : moment.left = left at known ⊢
  induction left generalizing moment with
  | nil =>
      have same : { moment with left := [] } = moment := by rw [← remains]
      exact ⟨[], moment.closed, congrArg some same.symm⟩
  | cons effect left ih =>
      have apart : ∀ address, effect ≠ .bind address := by
        rintro address rfl
        exact known address List.mem_cons_self
      have quiet : moment.core.follow effect = [] ∧ moment.core.opens? effect = none := by
        cases effect with
        | bind address => exact (apart address rfl).elim
        | _ => exact ⟨rfl, rfl⟩
      let next : ServerMoment :=
        { moment with
          core := moment.core.apply effect
          left
          closed := moment.closed ++ effect.closes?.toList }
      obtain ⟨events, closed, goes⟩ :=
        ih next rfl fun address there => known address (List.mem_cons_of_mem _ there)
      refine ⟨.work :: events, closed, ?_⟩
      rw [List.foldlM_cons, step?, remains]
      simpa [quiet] using goes

/-- A job can be done without interruption, and then it does what it does. -/
theorem exists_serves
    (moment : ServerMoment)
    (idle : moment.left = [])
    (job : ServerJob)
    (begun : job = .finishShutdown → moment.closing = true) :
    ∃ (events : List Event) (opened closed : List Listener),
      events.foldlM step? moment =
        some
          { core := (job.run moment.core).2
            closing := job.closing moment.closing
            opened
            closed } := by
  let taken : ServerMoment :=
    { moment with
      left := moment.core.effects job
      closing := job.closing moment.closing }
  have take : moment.step? (.take job) = some taken := if_pos ⟨idle, begun⟩
  by_cases known : ∀ address, .bind address ∉ moment.core.effects job
  · obtain ⟨events, closed, goes⟩ := taken.exists_works known
    refine ⟨.take job :: events, taken.opened, closed, ?_⟩
    rw [List.foldlM_cons, take, ← foldl_effects moment.core job known]
    exact goes
  · obtain ⟨address, tries⟩ := not_forall_not.mp known
    obtain ⟨port, rfl, running, absent, rfl, only⟩ := listens_of_bind tries
    let attempt : ServerCore.Effect := .bind { ip := moment.core.bindIp, port }
    let tried : ServerMoment :=
      { taken with
        core := moment.core.apply attempt
        left := moment.core.follow attempt
        opened := moment.opened ++ (moment.core.opens? attempt).toList }
    have work : taken.step? .work = some tried := by
      rw [step?, show taken.left = [attempt] from only]
      simp [tried, taken, attempt, ServerCore.Effect.closes?]
    obtain ⟨events, closed, goes⟩ := tried.exists_works (bind_notMem_follow moment.core attempt)
    refine ⟨.take (.listen port) :: .work :: events, tried.opened, closed, ?_⟩
    have whole : tried.left.foldl ServerCore.apply tried.core = moment.core.listen port :=
      foldl_follow running absent
    rw [whole] at goes
    rw [List.foldlM_cons, take, Option.bind_eq_bind, Option.bind_some, List.foldlM_cons, work]
    exact goes

end ServerMoment

end LineProtocol
