import LineProtocol.Proofs.Shutdown.Callers

/-!
# Where the callers can be

`Lawful` lists what is relied on: no job gives up or hands the last job in,
nothing is taken back from a transport, and what happens apart from jobs hands
in jobs at most.  `Sound` says how the phases of the callers and the context's
queue go together, and holds after every run.  So nobody returns before the
context has ended, and the context does not end before the last job ran.
-/

namespace LineProtocol

namespace Closedown

variable {σ core job ρ κ action : Type}

section

variable (closedown : Closedown σ core job ρ κ action)

/-- What is relied on. -/
structure Lawful : Prop where
  context_withContext :
    ∀ session context, closedown.context (closedown.withContext session context) = context
  withContext_context :
    ∀ session, closedown.withContext session (closedown.context session) = session
  withContext_withContext :
    ∀ session one two,
      closedown.withContext (closedown.withContext session one) two =
        closedown.withContext session two
  context_await :
    ∀ session closing,
      closedown.context (closedown.await session closing) = closedown.context session
  /-- No job gives up. -/
  answers :
    ∀ stopped task state, ∃ value, (closedown.craft.run stopped task state).answer = some value
  /-- No job hands the last one in, and none is taken from a job after that. -/
  taken :
    ∀ stopped task state, ∀ next ∈ (closedown.craft.run stopped task state).submitted,
      stopped = false ∧ next ≠ closedown.last
  distinct : closedown.first ≠ closedown.last
  later :
    ∀ stopped task state,
      Transport.Later (closedown.transport state)
        (closedown.transport (closedown.craft.run stopped task state).state)
  /-- What is waited for was given out. -/
  tickets :
    ∀ stopped state value,
      (closedown.craft.run stopped closedown.first state).answer = some value →
        ∀ closing ∈ closedown.closings value,
          (closedown.ticket closing).number <
            (closedown.transport
              (closedown.craft.run stopped closedown.first state).state).receipts.length
  /-- The last job neither asks for a close nor answers a request to. -/
  settles :
    ∀ stopped state,
      (closedown.transport
          (closedown.craft.run stopped closedown.last state).state).receipts =
        (closedown.transport state).receipts
  aside :
    ∀ session aside next, closedown.aside? session aside = some next →
      Serial.Extends (· ≠ closedown.last) (closedown.context session)
          (closedown.context next) ∧
        Transport.Later (closedown.transport (closedown.context session).state)
          (closedown.transport (closedown.context next).state)

/-- The phases of a shutdown were handed in at most. -/
structure Quiet (before after : Serial core job) : Prop where
  state : after.state = before.state
  queue :
    ∃ more,
      after.queue = before.queue ++ more ∧
        (∀ task, .run task ∈ more → task = closedown.first ∨ task = closedown.last) ∧
          (after.stopped = before.stopped ∨ .run closedown.last ∈ more)

/-- What a caller's phase says of the context. -/
def Fits
    (context : Serial core job)
    (holder : Option Nat)
    (caller : Nat) :
    CallerPhase κ → Prop
  | .idle => True
  | .begun place => context.queue[place]? = some (.run closedown.first)
  | .waiting closings =>
      ∀ closing ∈ closings,
        (closedown.ticket closing).number <
          (closedown.transport context.state).receipts.length
  | .ending => holder = some caller
  | .joining => context.stopped = true
  | .returned => context.ended = true

/-- How phases and queue go together. -/
structure Sound (callers : Callers σ κ) : Prop where
  stage : Serial.Stage closedown.last (closedown.context callers.session)
  fits :
    ∀ caller,
      closedown.Fits (closedown.context callers.session) callers.holder caller
        (callers.phases caller)
  holds : ∀ caller, callers.holder = some caller → callers.phases caller = .ending
  /-- The last job was handed in by somebody who still waits, unless the context
  has ended. -/
  handed :
    (closedown.context callers.session).ended = false →
      ((closedown.context callers.session).stopped = true ↔
        ∃ caller, callers.holder = some caller)

end

variable
  {closedown : Closedown σ core job ρ κ action}
  {callers next : Callers σ κ}

/-- What the transport answers is never that it has no answer yet. -/
theorem settles_of_answer
    {session after : σ}
    {chosen : ChannelId → Bool}
    {receipt : Receipt}
    (happened : closedown.aside? session (.answer chosen receipt) = some after) :
    receipt ≠ .waiting ∧
      after = closedown.alterTransport session (·.settle chosen receipt) := by
  simp only [aside?] at happened
  split at happened
  · cases happened
  · rename_i known
    exact ⟨known, (Option.some.inj happened).symm⟩

theorem moves_of_step?
    {turn : Turn action}
    (stepped : closedown.step? callers turn = some next) :
    closedown.Moves callers turn next := by
  cases turn with
  | aside aside =>
      obtain ⟨session, happened, rfl⟩ := Option.map_eq_some_iff.mp stepped
      exact .aside happened
  | serve =>
      obtain rfl := Option.some.inj stepped
      exact .serve
  | call caller =>
      simp only [step?] at stepped
      split at stepped
      · rename_i idle
        obtain rfl := Option.some.inj stepped
        exact .call idle
      · simp at stepped
  | wait caller =>
      simp only [step?] at stepped
      split at stepped
      · rename_i closing closings waits
        obtain rfl := Option.some.inj stepped
        exact .wait waits
      · simp at stepped
  | finish caller =>
      simp only [step?] at stepped
      split at stepped
      · rename_i done free
        obtain rfl := Option.some.inj stepped
        exact .finish done free
      · simp at stepped
  | leave caller =>
      simp only [step?] at stepped
      split at stepped
      · rename_i ending
        split at stepped
        · rename_i ended
          obtain rfl := Option.some.inj stepped
          exact .leave ending ended
        · simp at stepped
      · rename_i joining
        split at stepped
        · rename_i free
          obtain rfl := Option.some.inj stepped
          exact .join joining free
        · simp at stepped
      · simp at stepped

/-- Handing the first job in leaves the state alone. -/
theorem call_cases
    (lawful : closedown.Lawful)
    (callers : Callers σ κ)
    (caller : Nat) :
    ((closedown.context callers.session).stopped = false ∧
        closedown.context (closedown.call callers caller).session =
          { closedown.context callers.session with
            queue := (closedown.context callers.session).queue ++ [.run closedown.first] } ∧
        closedown.call callers caller =
          { callers with
            session := (closedown.call callers caller).session
            phases :=
              Function.update callers.phases caller
                (.begun (closedown.context callers.session).queue.length) }) ∨
      (closedown.call callers caller =
          { callers with phases := Function.update callers.phases caller .joining } ∧
        ((closedown.context callers.session).stopped = true ∨
          (closedown.context callers.session).ended = true)) := by
  unfold call
  cases stopped : (closedown.context callers.session).stopped with
  | true => simp [Serial.submit, stopped]
  | false =>
      cases ended : (closedown.context callers.session).ended with
      | true => simp [Serial.submit, Serial.enqueue, stopped, ended]
      | false =>
          simp [Serial.submit, Serial.enqueue, stopped, ended, lawful.context_withContext]

theorem Fits.mono
    {context after : Serial core job}
    {holder : Option Nat}
    {caller : Nat}
    {phase : CallerPhase κ}
    (fits : closedown.Fits context holder caller phase)
    (queue : context.queue <+: after.queue)
    (stopped : context.stopped = true → after.stopped = true)
    (ended : context.ended = true → after.ended = true)
    (issued :
      (closedown.transport context.state).receipts.length ≤
        (closedown.transport after.state).receipts.length) :
    closedown.Fits after holder caller phase := by
  cases phase with
  | idle => trivial
  | begun place =>
      obtain ⟨more, whole⟩ := queue
      have inside := (List.getElem?_eq_some_iff.mp fits).1
      show after.queue[place]? = some (.run closedown.first)
      rw [← whole, List.getElem?_append_left inside]
      exact fits
  | waiting closings =>
      intro closing member
      exact Nat.lt_of_lt_of_le (fits closing member) issued
  | ending => exact fits
  | joining => exact stopped fits
  | returned => exact ended fits

theorem sound_start
    {session : σ}
    (stopped : (closedown.context session).stopped = false)
    (ended : (closedown.context session).ended = false)
    (queue : (closedown.context session).queue = []) :
    closedown.Sound { session } where
  stage := .taking stopped ended [] queue (List.not_mem_nil)
  fits _ := trivial
  holds caller here := by simp at here
  handed _ := by simp [stopped]

/-- Jobs were handed in beside the callers, and nothing was taken back. -/
theorem Sound.extends
    (sound : closedown.Sound callers)
    {session : σ}
    (longer :
      Serial.Extends (· ≠ closedown.last) (closedown.context callers.session)
        (closedown.context session))
    (later :
      Transport.Later (closedown.transport (closedown.context callers.session).state)
        (closedown.transport (closedown.context session).state)) :
    closedown.Sound { callers with session } := by
  obtain ⟨jobs, queue, -, -⟩ := longer.queue
  refine ⟨sound.stage.extends longer, ?_, sound.holds, ?_⟩
  · intro caller
    exact (sound.fits caller).mono ⟨jobs.map .run, queue.symm⟩
      (fun stopped => longer.stopped.trans stopped) (fun ended => longer.ended.trans ended)
      later.issued
  · intro running
    rw [longer.ended] at running
    rw [longer.stopped]
    exact sound.handed running

theorem Sound.aside
    (lawful : closedown.Lawful)
    (sound : closedown.Sound callers)
    {aside : Aside action}
    {session : σ}
    (happened : closedown.aside? callers.session aside = some session) :
    closedown.Sound { callers with session } := by
  obtain ⟨longer, later⟩ := lawful.aside _ _ _ happened
  exact sound.extends longer later

/-- The job that was first in the queue ran. -/
theorem fits_served
    (lawful : closedown.Lawful)
    {context after : Serial core job}
    {task : job}
    {rest : List (Envelope job)}
    {holder : Option Nat}
    {caller : Nat}
    {phase : CallerPhase κ}
    (queue : context.queue = .run task :: rest)
    (state : after.state = (closedown.craft.run context.stopped task context.state).state)
    (longer : rest <+: after.queue)
    (stopped : after.stopped = context.stopped)
    (ended : after.ended = context.ended)
    (fits : closedown.Fits context holder caller phase) :
    closedown.Fits after holder caller
      (closedown.heard
        (some (closedown.craft.run context.stopped task context.state).answer) phase) := by
  obtain ⟨value, answer⟩ := lawful.answers context.stopped task context.state
  rw [answer]
  cases phase with
  | idle => trivial
  | begun place =>
      change context.queue[place]? = some (.run closedown.first) at fits
      rw [queue] at fits
      cases place with
      | zero =>
          simp only [List.getElem?_cons_zero, Option.some.injEq, Envelope.run.injEq] at fits
          subst fits
          intro closing member
          rw [state]
          exact lawful.tickets _ _ value answer closing member
      | succ place =>
          simp only [List.getElem?_cons_succ] at fits
          obtain ⟨more, whole⟩ := longer
          have inside := (List.getElem?_eq_some_iff.mp fits).1
          show after.queue[place]? = some (.run closedown.first)
          rw [← whole, List.getElem?_append_left inside]
          exact fits
  | waiting closings =>
      intro closing member
      rw [state]
      exact Nat.lt_of_lt_of_le (fits closing member) (lawful.later _ task _).issued
  | ending => exact fits
  | joining => exact stopped.trans fits
  | returned => exact ended.trans fits

theorem context_serve
    (lawful : closedown.Lawful)
    (callers : Callers σ κ) :
    closedown.context (closedown.serve callers).session =
      ((closedown.context callers.session).runNext closedown.craft).2 :=
  lawful.context_withContext _ _

theorem phases_serve
    (callers : Callers σ κ)
    (caller : Nat) :
    (closedown.serve callers).phases caller =
      closedown.heard ((closedown.context callers.session).runNext closedown.craft).1
        (callers.phases caller) :=
  rfl

/-- Where no job was first in the queue, the callers hear nothing. -/
theorem heard_none (phase : CallerPhase κ) : closedown.heard none phase = phase := by
  cases phase <;> rfl

theorem Sound.serve
    (lawful : closedown.Lawful)
    (sound : closedown.Sound callers) :
    closedown.Sound (closedown.serve callers) := by
  have context := context_serve lawful callers
  have stage := sound.stage.runNext lawful.taken
  rw [← context] at stage
  have holder : (closedown.serve callers).holder = callers.holder := rfl
  refine ⟨stage, ?_, ?_, ?_⟩
  · intro caller
    rw [context, phases_serve, holder]
    rcases (closedown.context callers.session).runNext_cases closedown.craft with
      ⟨task, rest, -, queue, answer, state, longer, stopped, ended⟩ |
        ⟨rest, queue, -, whole⟩ |
        ⟨-, whole⟩
    · rw [answer]
      exact fits_served lawful queue state (longer ▸ List.prefix_append _ _) stopped ended
        (sound.fits caller)
    · rw [whole]
      have fits := sound.fits caller
      cases phase : callers.phases caller with
      | begun place =>
          rw [phase] at fits
          change (closedown.context callers.session).queue[place]? =
            some (.run closedown.first) at fits
          rw [queue, (sound.stage.rest_of_stop queue).2] at fits
          cases place <;> simp at fits
      | returned => rfl
      | idle => trivial
      | waiting closings => rwa [phase] at fits
      | ending => rwa [phase] at fits
      | joining => rwa [phase] at fits
    · rw [whole]
      have fits := sound.fits caller
      cases phase : callers.phases caller <;> rwa [phase] at fits
  · intro caller here
    rw [phases_serve, sound.holds caller here]
    cases ((closedown.context callers.session).runNext closedown.craft).1 with
    | none => rfl
    | some answer => cases answer <;> rfl
  · intro running
    rw [context] at running ⊢
    rw [holder]
    rcases (closedown.context callers.session).runNext_cases closedown.craft with
      ⟨task, rest, -, -, -, -, -, stopped, ended⟩ | ⟨rest, -, -, whole⟩ | ⟨-, whole⟩
    · rw [stopped]
      exact sound.handed (ended.symm.trans running)
    · simp [whole] at running
    · rw [whole] at running ⊢
      exact sound.handed running

theorem Sound.call
    (lawful : closedown.Lawful)
    (sound : closedown.Sound callers)
    {caller : Nat}
    (idle : callers.phases caller = .idle) :
    closedown.Sound (closedown.call callers caller) := by
  have free : ∀ other, callers.holder = some other → other ≠ caller := by
    rintro other here rfl
    simp [sound.holds other here] at idle
  rcases call_cases lawful callers caller with ⟨open_, context, whole⟩ | ⟨whole, shut⟩
  · have longer :
        Serial.Extends (· ≠ closedown.last) (closedown.context callers.session)
          (closedown.context (closedown.call callers caller).session) := by
      rw [context]
      exact ⟨rfl, rfl, [closedown.first], rfl, by simpa using lawful.distinct, by simp [open_]⟩
    have stage := sound.stage.extends longer
    rw [whole]
    refine ⟨stage, ?_, ?_, ?_⟩
    · intro other
      show closedown.Fits (closedown.context (closedown.call callers caller).session) _ _ _
      rw [context]
      by_cases same : other = caller
      · subst same
        simp [Fits]
      · simp only [Function.update_of_ne same]
        exact (sound.fits other).mono ⟨_, rfl⟩ id id (Nat.le_refl _)
    · intro other here
      simp only [Function.update_of_ne (free other here)]
      exact sound.holds other here
    · show (closedown.context (closedown.call callers caller).session).ended = false → _
      rw [context]
      exact sound.handed
  · have stopped : (closedown.context callers.session).stopped = true :=
      shut.elim id fun ended => (sound.stage.of_ended ended).1
    rw [whole]
    refine ⟨sound.stage, ?_, ?_, sound.handed⟩
    · intro other
      by_cases same : other = caller
      · subst same
        simpa [Fits] using stopped
      · simp only [Function.update_of_ne same]
        exact sound.fits other
    · intro other here
      simp only [Function.update_of_ne (free other here)]
      exact sound.holds other here

theorem Sound.wait
    (lawful : closedown.Lawful)
    (sound : closedown.Sound callers)
    {caller : Nat}
    {closing : κ}
    {closings : List κ}
    (waits : callers.phases caller = .waiting (closing :: closings)) :
    closedown.Sound
      { callers with
        session := closedown.await callers.session closing
        phases := Function.update callers.phases caller (.waiting closings) } := by
  have context := lawful.context_await callers.session closing
  refine ⟨?_, ?_, ?_, ?_⟩
  · simp only [context]
    exact sound.stage
  · intro other
    simp only [context]
    by_cases same : other = caller
    · subst same
      have fits := sound.fits other
      rw [waits] at fits
      simp only [Function.update_self]
      intro one member
      exact fits one (List.mem_cons_of_mem _ member)
    · simp only [Function.update_of_ne same]
      exact sound.fits other
  · intro other here
    have same : other ≠ caller := by
      rintro rfl
      simp [sound.holds other here] at waits
    simp only [Function.update_of_ne same]
    exact sound.holds other here
  · simp only [context]
    exact sound.handed

theorem Sound.finish
    (lawful : closedown.Lawful)
    (sound : closedown.Sound callers)
    {caller : Nat}
    (free : callers.holder = none) :
    closedown.Sound (closedown.finish callers caller) := by
  unfold Closedown.finish
  rcases sound.stage.handLast with
    ⟨after, handed, open_, stage, shut, running, state, queue⟩ | ⟨shut, after, refused⟩
  · rw [handed]
    simp only
    refine ⟨?_, ?_, ?_, ?_⟩
    · rw [lawful.context_withContext]
      exact stage
    · intro other
      rw [lawful.context_withContext]
      by_cases same : other = caller
      · subst same
        simp [Fits]
      · simp only [Function.update_of_ne same]
        have fits := sound.fits other
        cases phase : callers.phases other with
        | ending => simp [phase, Fits, free] at fits
        | _ =>
            rw [phase] at fits
            exact fits.mono ⟨_, queue.symm⟩ (fun _ => shut)
              (fun ended => by simp [(sound.stage.of_ended ended).1] at open_)
              (Nat.le_of_eq (by rw [state]))
    · intro other here
      obtain rfl := Option.some.inj here
      simp
    · simp [lawful.context_withContext, shut]
  · rw [refused]
    simp only
    have ended : (closedown.context callers.session).ended = true := by
      by_contra running
      obtain ⟨other, here⟩ := (sound.handed (by simpa using running)).mp shut
      simp [here] at free
    refine ⟨sound.stage, ?_, ?_, sound.handed⟩
    · intro other
      by_cases same : other = caller
      · subst same
        simpa [Fits] using ended
      · simp only [Function.update_of_ne same]
        exact sound.fits other
    · intro other here
      simp [free] at here

theorem Sound.leave
    (sound : closedown.Sound callers)
    {caller : Nat}
    (ending : callers.phases caller = .ending)
    (ended : (closedown.context callers.session).ended = true) :
    closedown.Sound
      { callers with
        phases := Function.update callers.phases caller .returned
        holder := none } := by
  have mine := sound.fits caller
  rw [ending] at mine
  refine ⟨sound.stage, ?_, by simp, by simp [ended]⟩
  intro other
  by_cases same : other = caller
  · subst same
    simpa [Fits] using ended
  · simp only [Function.update_of_ne same]
    have fits := sound.fits other
    cases phase : callers.phases other with
    | ending =>
        rw [phase] at fits
        have theirs : callers.holder = some other := fits
        have held : callers.holder = some caller := mine
        rw [held] at theirs
        exact (same (Option.some.inj theirs).symm).elim
    | _ => rwa [phase] at fits

theorem Sound.join
    (sound : closedown.Sound callers)
    {caller : Nat}
    (joining : callers.phases caller = .joining)
    (free : callers.holder = none) :
    closedown.Sound
      { callers with phases := Function.update callers.phases caller .returned } := by
  have shut := sound.fits caller
  rw [joining] at shut
  have ended : (closedown.context callers.session).ended = true := by
    by_contra running
    obtain ⟨other, here⟩ := (sound.handed (by simpa using running)).mp shut
    simp [here] at free
  refine ⟨sound.stage, ?_, ?_, sound.handed⟩
  · intro other
    by_cases same : other = caller
    · subst same
      simpa [Fits] using ended
    · simp only [Function.update_of_ne same]
      exact sound.fits other
  · intro other here
    simp [free] at here

theorem Sound.step
    (lawful : closedown.Lawful)
    (sound : closedown.Sound callers)
    {turn : Turn action}
    (moved : closedown.Moves callers turn next) :
    closedown.Sound next := by
  cases moved with
  | aside happened => exact sound.aside lawful happened
  | serve => exact sound.serve lawful
  | call idle => exact sound.call lawful idle
  | wait waits => exact sound.wait lawful waits
  | finish done free => exact sound.finish lawful free
  | leave ending ended => exact sound.leave ending ended
  | join joining free => exact sound.join joining free

theorem Sound.run
    (lawful : closedown.Lawful)
    (sound : closedown.Sound callers)
    {turns : List (Turn action)}
    (ran : closedown.run? callers turns = some next) :
    closedown.Sound next :=
  foldlM_keeps (fun _ _ _ sound stepped => sound.step lawful (moves_of_step? stepped)) sound ran

/-- Where no job is taken any more, none is taken later. -/
theorem stopped_step?
    (lawful : closedown.Lawful)
    {turn : Turn action}
    (stepped : closedown.step? callers turn = some next)
    (stopped : (closedown.context callers.session).stopped = true) :
    (closedown.context next.session).stopped = true := by
  cases moves_of_step? stepped with
  | aside happened =>
      obtain ⟨longer, -⟩ := lawful.aside _ _ _ happened
      exact longer.stopped.trans stopped
  | serve =>
      rw [context_serve lawful]
      rcases Serial.runNext_cases closedown.craft (closedown.context callers.session) with
        ⟨task, rest, -, -, -, -, -, shut, -⟩ | ⟨rest, -, -, whole⟩ | ⟨-, whole⟩
      · exact shut.trans stopped
      · rw [whole]
        exact stopped
      · rw [whole]
        exact stopped
  | @call caller idle =>
      rcases call_cases lawful callers caller with ⟨open_, -⟩ | ⟨whole, -⟩
      · exact nomatch open_.symm.trans stopped
      · rw [whole]
        exact stopped
  | wait waits =>
      rw [lawful.context_await]
      exact stopped
  | finish done free =>
      rw [Closedown.finish, Serial.handLast_of_stopped stopped]
      exact stopped
  | leave ending ended => exact stopped
  | join joining free => exact stopped

/-! ## What happened before -/

theorem quiet_of_eq
    {before after : Serial core job}
    (same : after = before) :
    closedown.Quiet before after := by
  subst same
  exact ⟨rfl, [], by simp, by simp, .inl rfl⟩

/-- A turn is an aside, or the context takes something, or phases of the
shutdown were handed in at most. -/
theorem Sound.step?_cases
    (lawful : closedown.Lawful)
    (sound : closedown.Sound callers)
    {turn : Turn action}
    (stepped : closedown.step? callers turn = some next) :
    (∃ aside session,
        turn = .aside aside ∧ closedown.aside? callers.session aside = some session ∧
          next = { callers with session }) ∨
      (turn = .serve ∧ next = closedown.serve callers) ∨
      (turn ≠ .serve ∧ (∀ aside, turn ≠ .aside aside) ∧
        closedown.Quiet (closedown.context callers.session)
          (closedown.context next.session)) := by
  cases moves_of_step? stepped with
  | aside happened => exact .inl ⟨_, _, rfl, happened, rfl⟩
  | serve => exact .inr (.inl ⟨rfl, rfl⟩)
  | @call caller idle =>
      refine .inr (.inr ⟨nofun, nofun, ?_⟩)
      rcases call_cases lawful callers caller with ⟨-, context, -⟩ | ⟨whole, -⟩
      · rw [context]
        exact ⟨rfl, [.run closedown.first], rfl, by simp, .inl rfl⟩
      · rw [whole]
        exact quiet_of_eq rfl
  | wait waits => exact .inr (.inr ⟨nofun, nofun, quiet_of_eq (lawful.context_await _ _)⟩)
  | @finish caller done free =>
      refine .inr (.inr ⟨nofun, nofun, ?_⟩)
      unfold Closedown.finish
      rcases sound.stage.handLast with
        ⟨after, handed, -, -, -, -, state, queue⟩ | ⟨-, after, refused⟩
      · rw [handed]
        simp only
        rw [lawful.context_withContext]
        exact ⟨state, _, queue, by simp, .inr (by simp)⟩
      · rw [refused]
        exact quiet_of_eq rfl
  | leave ending ended => exact .inr (.inr ⟨nofun, nofun, quiet_of_eq rfl⟩)
  | join joining free => exact .inr (.inr ⟨nofun, nofun, quiet_of_eq rfl⟩)

theorem run?_snoc_iff
    {start final : Callers σ κ}
    {turns : List (Turn action)}
    {turn : Turn action} :
    closedown.run? start (turns ++ [turn]) = some final ↔
      ∃ between,
        closedown.run? start turns = some between ∧
          closedown.step? between turn = some final :=
  foldlM_snoc_iff

theorem Served.snoc
    {start served : Callers σ κ}
    {turns : List (Turn action)}
    {task : job}
    (happened : closedown.Served start turns task served)
    (turn : Turn action) :
    closedown.Served start (turns ++ [turn]) task served := by
  obtain ⟨earlier, later, rfl, before, first⟩ := happened
  exact ⟨earlier, later ++ [turn], by simp, before, first⟩

theorem served_snoc_iff
    {start final served : Callers σ κ}
    {turns : List (Turn action)}
    {turn : Turn action}
    {task : job}
    (ran : closedown.run? start turns = some final) :
    closedown.Served start (turns ++ [turn]) task served ↔
      closedown.Served start turns task served ∨
        turn = .serve ∧ served = final ∧
          (closedown.context final.session).next? = some task := by
  constructor
  · rintro ⟨earlier, later, split, before, first⟩
    rcases split_snoc_of_run ran split before with ⟨rfl, rfl, -⟩ | ⟨shorter, whole, -⟩
    · exact .inr ⟨rfl, rfl, first⟩
    · exact .inl ⟨earlier, shorter, whole, before, first⟩
  · rintro (happened | ⟨rfl, rfl, first⟩)
    · exact happened.snoc turn
    · exact ⟨turns, [], rfl, ran, first⟩

/-- A turn that runs a job puts it behind the others. -/
theorem trail_snoc_of_next?
    {start final : Callers σ κ}
    {turns : List (Turn action)}
    {task : job}
    (ran : closedown.run? start turns = some final)
    (first : (closedown.context final.session).next? = some task) :
    closedown.trail start (turns ++ [.serve]) =
      closedown.trail start turns ++ [(task, (closedown.context final.session).state)] := by
  have runs : closedown.ran? (final, .serve) =
      some (task, (closedown.context final.session).state) := by
    rw [ran?, first]
    rfl
  rw [trail, visits_snoc ran, List.filterMap_append, List.filterMap_cons_some runs]
  rfl

theorem trail_snoc_of_none
    {start final : Callers σ κ}
    {turns : List (Turn action)}
    {turn : Turn action}
    (ran : closedown.run? start turns = some final)
    (idle : turn = .serve → (closedown.context final.session).next? = none) :
    closedown.trail start (turns ++ [turn]) = closedown.trail start turns := by
  have nothing : closedown.ran? (final, turn) = none := by
    cases turn with
    | serve =>
        rw [ran?, idle rfl]
        rfl
    | _ => rfl
  rw [trail, visits_snoc ran, List.filterMap_append, List.filterMap_cons_none nothing]
  exact List.append_nil _

/-- Where no job is taken any more and the last one does not wait, it ran. -/
theorem served_of_stopped
    (lawful : closedown.Lawful)
    {start final : Callers σ κ}
    {turns : List (Turn action)}
    (sound : closedown.Sound start)
    (open_ : (closedown.context start.session).stopped = false)
    (ran : closedown.run? start turns = some final)
    (stopped : (closedown.context final.session).stopped = true)
    (gone : .run closedown.last ∉ (closedown.context final.session).queue) :
    ∃ served, closedown.Served start turns closedown.last served := by
  induction ran using foldlM_induction with
  | none => simp [open_] at stopped
  | snoc turns turn between final before stepped ih =>
      have earlier :
          (closedown.context between.session).stopped = true →
            .run closedown.last ∉ (closedown.context between.session).queue →
              ∃ served, closedown.Served start (turns ++ [turn]) closedown.last served := by
        intro shut absent
        obtain ⟨served, happened⟩ := ih shut absent
        exact ⟨served, (served_snoc_iff before).mpr (.inl happened)⟩
      rcases (sound.run lawful before).step?_cases lawful stepped with
        ⟨aside, session, -, happened, rfl⟩ | ⟨rfl, rfl⟩ | ⟨-, -, quiet⟩
      · obtain ⟨longer, -⟩ := lawful.aside _ _ _ happened
        obtain ⟨jobs, queue, -, -⟩ := longer.queue
        refine earlier (longer.stopped.symm.trans stopped) fun member => gone ?_
        rw [queue]
        exact List.mem_append_left _ member
      · rw [context_serve lawful] at stopped gone
        cases first : (closedown.context between.session).next? with
        | none =>
            obtain ⟨-, -, shut, waiting⟩ := Serial.runNext_of_idle closedown.craft first
            exact earlier (shut.symm.trans stopped) fun member => gone ((waiting _).mpr member)
        | some task =>
            obtain ⟨rest, queue, -, -, longer, shut, -⟩ :=
              Serial.runNext_of_next? closedown.craft first
            by_cases last : task = closedown.last
            · subst last
              exact ⟨between, (served_snoc_iff before).mpr (.inr ⟨rfl, rfl, first⟩)⟩
            · refine earlier (shut.symm.trans stopped) fun member => gone ?_
              rw [queue] at member
              rw [longer]
              rcases List.mem_cons.mp member with here | behind
              · exact (last (Envelope.run.inj here).symm).elim
              · exact List.mem_append_left _ behind
      · obtain ⟨more, queue, -, same | handed⟩ := quiet.queue
        · refine earlier (same.symm.trans stopped) fun member => gone ?_
          rw [queue]
          exact List.mem_append_left _ member
        · refine (gone ?_).elim
          rw [queue]
          exact List.mem_append_right _ handed

/-! ## What a turn comes to -/

/-- A turn is an aside, or a job ran, or the state stayed and phases of the
shutdown were handed in at most. -/
inductive Turned
    (closedown : Closedown σ core job ρ κ action)
    (callers next : Callers σ κ)
    (turn : Turn action) : Prop where
  | aside
    (aside : Aside action)
    (session : σ)
    (turn : turn = .aside aside)
    (happened : closedown.aside? callers.session aside = some session)
    (next : next = { callers with session })
  | ran
    (task : job)
    (rest : List (Envelope job))
    (turn : turn = .serve)
    (first : (closedown.context callers.session).next? = some task)
    (state :
      (closedown.context next.session).state =
        (closedown.craft.run (closedown.context callers.session).stopped task
          (closedown.context callers.session).state).state)
    (waited : (closedown.context callers.session).queue = .run task :: rest)
    (left :
      (closedown.context next.session).queue =
        rest ++
          (closedown.craft.run (closedown.context callers.session).stopped task
            (closedown.context callers.session).state).submitted.map .run)
  | still
    (rest more : List (Envelope job))
    (apart : ∀ aside, turn ≠ .aside aside)
    (idle : turn = .serve → (closedown.context callers.session).next? = none)
    (state :
      (closedown.context next.session).state = (closedown.context callers.session).state)
    (waited :
      (turn = .serve → rest = []) ∧ (closedown.context callers.session).queue = rest ∨
        turn = .serve ∧ (closedown.context callers.session).queue = .stop :: rest)
    (left : (closedown.context next.session).queue = rest ++ more)
    (phases : ∀ task, .run task ∈ more → task = closedown.first ∨ task = closedown.last)

theorem Sound.turned
    (lawful : closedown.Lawful)
    (sound : closedown.Sound callers)
    {turn : Turn action}
    (stepped : closedown.step? callers turn = some next) :
    closedown.Turned callers next turn := by
  rcases sound.step?_cases lawful stepped with
    ⟨aside, session, turn, happened, same⟩ | ⟨rfl, rfl⟩ | ⟨noServe, noAside, quiet⟩
  · exact .aside aside session turn happened same
  · have context := context_serve lawful callers
    rcases Serial.runNext_cases closedown.craft (closedown.context callers.session) with
      ⟨task, rest, first, queue, -, state, left, -⟩ | ⟨rest, queue, idle, whole⟩ |
        ⟨idle, whole⟩
    · rw [← context] at state left
      exact .ran task rest rfl first state queue left
    · rw [whole] at context
      refine .still rest [] nofun (fun _ => idle) ?_ (.inr ⟨rfl, queue⟩) ?_ (by simp)
      · rw [context]
      · rw [context, List.append_nil]
    · have nothing := sound.stage.queue_of_unmoved idle (congrArg Prod.snd whole)
      rw [whole] at context
      refine .still _ [] nofun (fun _ => idle) ?_ (.inl ⟨fun _ => nothing, rfl⟩) ?_ (by simp)
      · rw [context]
      · rw [context, List.append_nil]
  · obtain ⟨more, longer, phases, -⟩ := quiet.queue
    exact .still _ more noAside (fun serves => (noServe serves).elim) quiet.state
      (.inl ⟨fun serves => (noServe serves).elim, rfl⟩) longer phases

theorem waits_of_update
    {caller other : Nat}
    {phase : CallerPhase κ}
    (on : phase.Waits → (callers.phases caller).Waits)
    (waits : (Function.update callers.phases caller phase other).Waits) :
    (callers.phases other).Waits := by
  by_cases same : other = caller
  · subst same
    rw [Function.update_self] at waits
    exact on waits
  · rwa [Function.update_of_ne same] at waits

theorem waits_of_serve
    (lawful : closedown.Lawful)
    (sound : closedown.Sound callers)
    {caller : Nat}
    (waits : ((closedown.serve callers).phases caller).Waits) :
    (callers.phases caller).Waits ∨
      (closedown.context callers.session).next? = some closedown.first := by
  rw [phases_serve] at waits
  cases first : (closedown.context callers.session).next? with
  | none =>
      obtain ⟨answer, -⟩ := Serial.runNext_of_idle closedown.craft first
      rw [answer, heard_none] at waits
      exact .inl waits
  | some task =>
      obtain ⟨rest, queue, answer, -⟩ := Serial.runNext_of_next? closedown.craft first
      obtain ⟨value, answers⟩ :=
        lawful.answers (closedown.context callers.session).stopped task
          (closedown.context callers.session).state
      have fits := sound.fits caller
      rw [answer, answers] at waits
      cases phase : callers.phases caller with
      | begun place =>
          rw [phase] at waits fits
          cases place with
          | zero =>
              change (closedown.context callers.session).queue[0]? =
                some (.run closedown.first) at fits
              simp only [queue, List.getElem?_cons_zero, Option.some.injEq,
                Envelope.run.injEq] at fits
              exact .inr (congrArg some fits)
          | succ place => exact waits.elim
      | waiting closings => exact .inl trivial
      | ending => exact .inl trivial
      | idle =>
          rw [phase] at waits
          exact waits.elim
      | joining =>
          rw [phase] at waits
          exact waits.elim
      | returned =>
          rw [phase] at waits
          exact waits.elim

/-- Whoever waits did so before, unless the first job just ran. -/
theorem waits_of_step?
    (lawful : closedown.Lawful)
    (sound : closedown.Sound callers)
    {turn : Turn action}
    (stepped : closedown.step? callers turn = some next)
    {caller : Nat}
    (waits : (next.phases caller).Waits) :
    (callers.phases caller).Waits ∨
      (turn = .serve ∧
        (closedown.context callers.session).next? = some closedown.first) := by
  cases moves_of_step? stepped with
  | aside happened => exact .inl waits
  | serve => exact (waits_of_serve lawful sound waits).imp_right fun first => ⟨rfl, first⟩
  | @call caller idle =>
      rcases call_cases lawful callers caller with ⟨-, -, whole⟩ | ⟨whole, -⟩
      · rw [whole] at waits
        exact .inl (waits_of_update False.elim waits)
      · rw [whole] at waits
        exact .inl (waits_of_update False.elim waits)
  | wait waiting => exact .inl (waits_of_update (fun _ => waiting ▸ trivial) waits)
  | @finish caller done free =>
      rw [Closedown.finish] at waits
      split at waits
      · exact .inl (waits_of_update (fun _ => done ▸ trivial) waits)
      · exact .inl (waits_of_update (fun _ => done ▸ trivial) waits)
  | leave ending ended => exact .inl (waits_of_update False.elim waits)
  | join joining free => exact .inl (waits_of_update False.elim waits)

/-- The last job was handed in by somebody who waits. -/
theorem Sound.holder_of_last
    (sound : closedown.Sound callers)
    (last : (closedown.context callers.session).next? = some closedown.last) :
    ∃ caller, callers.holder = some caller ∧ (callers.phases caller).Waits := by
  obtain ⟨stopped, running, -⟩ := sound.stage.of_last last
  obtain ⟨caller, holder⟩ := (sound.handed running).mp stopped
  refine ⟨caller, holder, ?_⟩
  rw [sound.holds caller holder]
  trivial

/-- Whoever waits had the first job run. -/
theorem served_of_waits
    (lawful : closedown.Lawful)
    {start final : Callers σ κ}
    {turns : List (Turn action)}
    (sound : closedown.Sound start)
    (idle : ∀ caller, ¬ (start.phases caller).Waits)
    (ran : closedown.run? start turns = some final)
    {caller : Nat}
    (waits : (final.phases caller).Waits) :
    ∃ served, closedown.Served start turns closedown.first served := by
  induction ran using foldlM_induction with
  | none => exact (idle caller waits).elim
  | snoc turns turn between final before stepped ih =>
      rcases waits_of_step? lawful (sound.run lawful before) stepped waits with
        waited | ⟨serves, first⟩
      · obtain ⟨served, happened⟩ := ih waited
        exact ⟨served, happened.snoc turn⟩
      · exact ⟨between, (served_snoc_iff before).mpr (.inr ⟨serves, rfl, first⟩)⟩

/-- The first job ran before the last. -/
theorem served_of_last
    (lawful : closedown.Lawful)
    {start final : Callers σ κ}
    {turns : List (Turn action)}
    (sound : closedown.Sound start)
    (idle : ∀ caller, ¬ (start.phases caller).Waits)
    (ran : closedown.run? start turns = some final)
    (last : (closedown.context final.session).next? = some closedown.last) :
    ∃ served, closedown.Served start turns closedown.first served := by
  obtain ⟨caller, -, waits⟩ := (sound.run lawful ran).holder_of_last last
  exact served_of_waits lawful sound idle ran waits

end Closedown

end LineProtocol
