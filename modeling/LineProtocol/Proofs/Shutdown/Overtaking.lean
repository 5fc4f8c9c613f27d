import LineProtocol.Proofs.Shutdown.Phases

/-!
# Callers that overtake each other

A caller returns only after the last job ran.  By then every other caller should
have got what it waits for.  Only the first caller is told of the closes, though:
whoever comes later has nothing to wait for, and may hand the last job in while
the first caller still waits.

`Sealed` says that no job waits any more and none will be taken.  From there on
nobody comes to wait for anything, so whether somebody is owed a close when
somebody else returns is settled at the last job.
-/

namespace LineProtocol

namespace Closedown

variable {σ core job ρ κ action : Type}

/-- A caller returns only after the last job ran.  At that job it is settled
whether anybody will return while another caller waits for a close that was not
answered. -/
structure HoldsBack
    (closedown : Closedown σ core job ρ κ action)
    (start : Callers σ κ) :
    Prop where
  served_of_returned :
    ∀ turns final caller,
      closedown.run? start turns = some final → final.phases caller = .returned →
        ∃ served, closedown.Served start turns closedown.last served
  overtaken_iff :
    ∀ turns served,
      closedown.run? start turns = some served →
        (closedown.context served.session).next? = some closedown.last →
          ((∃ later final caller other,
              closedown.run? served (.serve :: later) = some final ∧
                final.phases caller = .returned ∧ closedown.Owed final other) ↔
            ∃ other, closedown.Owed served other)

/-- No job waits, and none is taken any more. -/
def Sealed
    (closedown : Closedown σ core job ρ κ action)
    (callers : Callers σ κ) :
    Prop :=
  (closedown.context callers.session).stopped = true ∧
    ∀ task, .run task ∉ (closedown.context callers.session).queue

variable
  {closedown : Closedown σ core job ρ κ action}
  {callers next : Callers σ κ}

theorem Sealed.idle (isSealed : closedown.Sealed callers) :
    (closedown.context callers.session).next? = none := by
  cases first : (closedown.context callers.session).next? with
  | none => rfl
  | some task =>
      obtain ⟨-, rest, queue⟩ := Serial.next?_eq_some_iff.mp first
      exact (isSealed.2 task (queue ▸ List.mem_cons_self)).elim

/-- A caller that moves on is owed no more than before. -/
theorem owed_of_update
    {session : σ}
    {holder : Option Nat}
    {caller other : Nat}
    {phase : CallerPhase κ}
    (context : closedown.context session = closedown.context callers.session)
    (on :
      ∀ closings, phase = .waiting closings →
        ∃ closing, callers.phases caller = .waiting (closing :: closings))
    (owed :
      closedown.Owed
        { session, phases := Function.update callers.phases caller phase, holder } other) :
    closedown.Owed callers other := by
  obtain ⟨closings, waits, closing, member, unanswered⟩ := owed
  simp only [context] at unanswered
  by_cases same : other = caller
  · subst same
    simp only [Function.update_self] at waits
    obtain ⟨first, before⟩ := on closings waits
    exact ⟨_, before, closing, List.mem_cons_of_mem _ member, unanswered⟩
  · simp only [Function.update_of_ne same] at waits
    exact ⟨closings, waits, closing, member, unanswered⟩

/-- Where no job runs, nobody is owed more or less. -/
theorem owed_serve_iff
    (lawful : closedown.Lawful)
    (idle : (closedown.context callers.session).next? = none)
    (caller : Nat) :
    closedown.Owed (closedown.serve callers) caller ↔ closedown.Owed callers caller := by
  obtain ⟨answer, state, -, -⟩ := Serial.runNext_of_idle closedown.craft idle
  rw [← context_serve lawful callers] at state
  simp only [Owed, phases_serve, answer, heard_none, state]

/-- Nobody comes to wait for anything. -/
theorem Sealed.step
    (lawful : closedown.Lawful)
    (isSealed : closedown.Sealed callers)
    (sound : closedown.Sound callers)
    {turn : Turn action}
    (moved : closedown.Moves callers turn next) :
    closedown.Sealed next ∧
      ∀ caller, closedown.Owed next caller → closedown.Owed callers caller := by
  have idle := isSealed.idle
  obtain ⟨stopped, empty⟩ := isSealed
  cases moved with
  | @aside aside session happened =>
      obtain ⟨longer, later⟩ := lawful.aside _ _ _ happened
      obtain ⟨jobs, queue, -, nothing⟩ := longer.queue
      refine ⟨⟨longer.stopped.trans stopped, ?_⟩, ?_⟩
      · intro task member
        rw [queue, nothing stopped] at member
        exact empty task (by simpa using member)
      · rintro caller ⟨closings, waits, closing, member, unanswered⟩
        have fits := sound.fits caller
        rw [show callers.phases caller = .waiting closings from waits] at fits
        exact ⟨closings, waits, closing, member,
          later.settled _ (fits closing member) unanswered⟩
  | serve =>
      obtain ⟨-, -, shut, waiting⟩ := Serial.runNext_of_idle closedown.craft idle
      rw [← context_serve lawful callers] at shut waiting
      refine
        ⟨⟨shut.trans stopped, ?_⟩, fun caller => (owed_serve_iff lawful idle caller).mp⟩
      intro task member
      exact empty task ((waiting task).mp member)
  | @call caller idle =>
      rcases call_cases lawful callers caller with ⟨taking, -⟩ | ⟨whole, -⟩
      · simp [stopped] at taking
      · rw [whole]
        exact ⟨⟨stopped, empty⟩, fun _ => owed_of_update rfl (by simp)⟩
  | @wait caller closing closings waits =>
      have context := lawful.context_await callers.session closing
      refine ⟨?_, fun _ => owed_of_update context ?_⟩
      · simp only [Sealed, context]
        exact ⟨stopped, empty⟩
      · rintro others ⟨⟩
        exact ⟨closing, waits⟩
  | @finish caller done free =>
      rw [Closedown.finish, Serial.handLast_of_stopped stopped]
      exact ⟨⟨stopped, empty⟩, fun _ => owed_of_update rfl (by simp)⟩
  | leave ending ended => exact ⟨⟨stopped, empty⟩, fun _ => owed_of_update rfl (by simp)⟩
  | join joining free => exact ⟨⟨stopped, empty⟩, fun _ => owed_of_update rfl (by simp)⟩

theorem not_begun_of_last
    (lawful : closedown.Lawful)
    (sound : closedown.Sound callers)
    (first : (closedown.context callers.session).next? = some closedown.last)
    (caller place : Nat) :
    callers.phases caller ≠ .begun place := by
  intro begun
  have fits := sound.fits caller
  rw [begun] at fits
  change (closedown.context callers.session).queue[place]? = some (.run closedown.first) at fits
  rw [(sound.stage.of_last first).2.2] at fits
  match place with
  | 0 =>
      simp only [List.getElem?_cons_zero, Option.some.injEq, Envelope.run.injEq] at fits
      exact lawful.distinct fits.symm
  | 1 => simp at fits
  | place + 2 => simp at fits

/-- After the last job the end is all that is left in the queue. -/
theorem queue_serve_last
    (lawful : closedown.Lawful)
    (sound : closedown.Sound callers)
    (first : (closedown.context callers.session).next? = some closedown.last) :
    (closedown.context (closedown.serve callers).session).stopped = true ∧
      (closedown.context (closedown.serve callers).session).ended = false ∧
      (closedown.context (closedown.serve callers).session).queue = [.stop] := by
  obtain ⟨stopped, running, queue⟩ := sound.stage.of_last first
  obtain ⟨rest, queued, -, -, longer, shut, done⟩ :=
    Serial.runNext_of_next? closedown.craft first
  have nothing :
      (closedown.craft.run (closedown.context callers.session).stopped closedown.last
        (closedown.context callers.session).state).submitted = [] := by
    rw [List.eq_nil_iff_forall_not_mem]
    intro task member
    simp [(lawful.taken _ _ _ task member).1] at stopped
  rw [queue, List.cons.injEq] at queued
  rw [context_serve lawful callers]
  refine ⟨shut.trans stopped, done.trans running, ?_⟩
  rw [longer, nothing, ← queued.2]
  rfl

/-- The last job makes nobody wait, and answers nobody. -/
theorem owed_serve_last_iff
    (lawful : closedown.Lawful)
    (sound : closedown.Sound callers)
    (first : (closedown.context callers.session).next? = some closedown.last)
    (caller : Nat) :
    closedown.Owed (closedown.serve callers) caller ↔ closedown.Owed callers caller := by
  obtain ⟨rest, -, answer, state, -⟩ := Serial.runNext_of_next? closedown.craft first
  have same : (closedown.serve callers).phases caller = callers.phases caller := by
    obtain ⟨value, answers⟩ :=
      lawful.answers (closedown.context callers.session).stopped closedown.last
        (closedown.context callers.session).state
    rw [phases_serve, answer, answers]
    cases phase : callers.phases caller with
    | begun place => exact (not_begun_of_last lawful sound first caller place phase).elim
    | _ => rfl
  have receipts := lawful.settles (closedown.context callers.session).stopped
    (closedown.context callers.session).state
  rw [← state, ← context_serve lawful callers] at receipts
  simp only [Owed, same, receipts]

/-- After the last job nobody comes to wait for anything. -/
theorem Sealed.run
    (lawful : closedown.Lawful)
    (isSealed : closedown.Sealed callers)
    (sound : closedown.Sound callers)
    {turns : List (Turn action)}
    (ran : closedown.run? callers turns = some next) :
    closedown.Sealed next ∧
      ∀ caller, closedown.Owed next caller → closedown.Owed callers caller := by
  induction ran using foldlM_induction with
  | none => exact ⟨isSealed, fun _ owed => owed⟩
  | snoc turns turn between final before stepped ih =>
      obtain ⟨closed, kept⟩ := ih
      obtain ⟨still, fewer⟩ :=
        closed.step lawful (sound.run lawful before) (moves_of_step? stepped)
      exact ⟨still, fun caller owed => kept caller (fewer caller owed)⟩

/-- The last job is the last. -/
theorem sealed_of_served
    (lawful : closedown.Lawful)
    {start final served : Callers σ κ}
    {turns : List (Turn action)}
    (sound : closedown.Sound start)
    (ran : closedown.run? start turns = some final)
    (last : closedown.Served start turns closedown.last served) :
    closedown.Sealed final := by
  obtain ⟨earlier, later, rfl, before, first⟩ := last
  have went : closedown.run? served (.serve :: later) = some final := by
    rw [run?, List.foldlM_append] at ran
    simpa [run?, show earlier.foldlM closedown.step? start = some served from before] using ran
  have reached := sound.run lawful before
  obtain ⟨stopped, -, left⟩ := queue_serve_last lawful reached first
  have isSealed : closedown.Sealed (closedown.serve served) := ⟨stopped, by simp [left]⟩
  exact (isSealed.run lawful (reached.serve lawful) went).1

/-- Once the last job is first in the queue, its caller can return in three
turns. -/
theorem exists_return
    (lawful : closedown.Lawful)
    (sound : closedown.Sound callers)
    (first : (closedown.context callers.session).next? = some closedown.last) :
    ∃ caller final,
      closedown.run? callers [.serve, .serve, .leave caller] = some final ∧
        final.phases caller = .returned ∧
          ∀ other, closedown.Owed callers other → closedown.Owed final other := by
  obtain ⟨stopped, running, -⟩ := sound.stage.of_last first
  obtain ⟨caller, holder⟩ := (sound.handed running).mp stopped
  obtain ⟨-, going, left⟩ := queue_serve_last lawful sound first
  have idle : (closedown.context (closedown.serve callers).session).next? = none := by
    simp [Serial.next?, left]
  let after := closedown.serve (closedown.serve callers)
  have ended : (closedown.context after.session).ended = true := by
    rw [context_serve lawful]
    simp [Serial.runNext, going, left]
  have ending : after.phases caller = .ending :=
    ((sound.serve lawful).serve lawful).holds caller holder
  let final : Callers σ κ :=
    { after with
      phases := Function.update after.phases caller .returned
      holder := none }
  have leaves : closedown.step? after (.leave caller) = some final := by
    simp [step?, ending, ended, final]
  refine ⟨caller, final, ?_, Function.update_self .., ?_⟩
  · have served : closedown.run? callers [.serve, .serve] = some after := rfl
    exact run?_snoc_iff.mpr ⟨after, served, leaves⟩
  · intro other owed
    obtain ⟨closings, waits, unanswered⟩ :=
      (owed_serve_iff lawful idle other).mpr
        ((owed_serve_last_iff lawful sound first other).mpr owed)
    have different : other ≠ caller := by
      rintro rfl
      cases ending.symm.trans waits
    exact ⟨closings, (Function.update_of_ne different _ _).trans waits, unanswered⟩

theorem holdsBack
    (lawful : closedown.Lawful)
    {session : σ}
    (stopped : (closedown.context session).stopped = false)
    (ended : (closedown.context session).ended = false)
    (queue : (closedown.context session).queue = []) :
    closedown.HoldsBack { session } where
  served_of_returned turns final caller ran returned := by
    have sound : closedown.Sound { session } := sound_start stopped ended queue
    have fits := (sound.run lawful ran).fits caller
    rw [returned] at fits
    have done_ : (closedown.context final.session).ended = true := fits
    obtain ⟨shut, empty⟩ := (sound.run lawful ran).stage.of_ended done_
    exact served_of_stopped lawful sound stopped ran shut (by simp [empty])
  overtaken_iff turns served ran first := by
    have sound : closedown.Sound served := (sound_start stopped ended queue).run lawful ran
    constructor
    · rintro ⟨later, final, caller, other, went, -, owed⟩
      obtain ⟨stopped, -, left⟩ := queue_serve_last lawful sound first
      have isSealed : closedown.Sealed (closedown.serve served) := ⟨stopped, by simp [left]⟩
      have kept := isSealed.run lawful (sound.serve lawful) went
      exact ⟨other, (owed_serve_last_iff lawful sound first other).mp (kept.2 other owed)⟩
    · rintro ⟨other, owed⟩
      obtain ⟨caller, final, went, returned, kept⟩ := exists_return lawful sound first
      exact ⟨[.serve, .leave caller], final, caller, other, went, returned, kept other owed⟩

end Closedown

end LineProtocol
