import LineProtocol.Proofs.Server.Agreement
import LineProtocol.Proofs.Server.Shutdown

/-!
# A server's runs, moment by moment

What a server does between two calls is a run of moments: each of its jobs is worked off
effect by effect, and everything else that happens leaves the listener, the roster and the
address alone.  So what holds at every moment holds of a server, whoever calls it.
-/

namespace LineProtocol

namespace ServerSession

open ServerMoment (exists_serves)

variable
  {start callers : Callers ServerSession Closing}
  {turns : List (Turn Step)}

/-- The first job of a shutdown ran, and its last job did not. -/
def UnderWay
    (start : Callers ServerSession Closing)
    (turns : List (Turn Step)) :
    Prop :=
  (∃ begun, closedown.Served start turns .beginShutdown begun) ∧
    ∀ served, ¬ closedown.Served start turns .finishShutdown served

/-- Where no phase of a shutdown ran, the shutdown is as far as before. -/
theorem underWay_snoc_iff
    {turn : Turn Step}
    (ran : closedown.run? start turns = some callers)
    (other :
      turn = .serve →
        callers.session.context.next? ≠ some .beginShutdown ∧
          callers.session.context.next? ≠ some .finishShutdown) :
    UnderWay start (turns ++ [turn]) ↔ UnderWay start turns := by
  have same
      (task : ServerJob)
      (apart : turn = .serve → callers.session.context.next? ≠ some task)
      (served : Callers ServerSession Closing) :
      closedown.Served start (turns ++ [turn]) task served ↔
        closedown.Served start turns task served := by
    refine (Closedown.served_snoc_iff ran).trans (or_iff_left ?_)
    rintro ⟨serves, -, first⟩
    exact apart serves first
  rw [UnderWay, UnderWay]
  simp only [same .beginShutdown fun serves => (other serves).1,
    same .finishShutdown fun serves => (other serves).2]

/-- What a job makes of a shutdown is what its phases say. -/
theorem underWay_serve_iff
    {task : ServerJob}
    {closing : Bool}
    (ran : closedown.run? start turns = some callers)
    (first : callers.session.context.next? = some task)
    (going : ∀ served, ¬ closedown.Served start turns .finishShutdown served)
    (same : closing = true ↔ UnderWay start turns) :
    UnderWay start (turns ++ [.serve]) ↔ task.closing closing = true := by
  by_cases begins : task = .beginShutdown
  · subst begins
    refine iff_of_true ⟨⟨callers, ?_⟩, fun served last => ?_⟩ rfl
    · exact (Closedown.served_snoc_iff ran).mpr (.inr ⟨rfl, rfl, first⟩)
    · rcases (Closedown.served_snoc_iff ran).mp last with earlier | ⟨-, rfl, now⟩
      · exact going served earlier
      · cases first.symm.trans now
  · by_cases ends : task = .finishShutdown
    · subst ends
      refine iff_of_false (fun underWay => ?_) Bool.false_ne_true
      exact underWay.2 callers ((Closedown.served_snoc_iff ran).mpr (.inr ⟨rfl, rfl, first⟩))
    · have kept : task.closing closing = closing := by
        cases task with
        | beginShutdown => exact (begins rfl).elim
        | finishShutdown => exact (ends rfl).elim
        | _ => rfl
      rw [kept, same]
      refine underWay_snoc_iff ran fun _ => ?_
      rw [first]
      exact ⟨fun now => begins (Option.some.inj now), fun now => ends (Option.some.inj now)⟩

/-- Whatever turns are made, the server goes from moment to moment, and between two turns no
job is under way. -/
theorem exists_moments
    (starts : closedown.Sound start)
    (idle : ∀ caller, ¬ (start.phases caller).Waits)
    (ran : closedown.run? start turns = some callers) :
    ∃ (events : List ServerMoment.Event) (moment : ServerMoment),
      events.foldlM ServerMoment.step? { core := start.session.core } = some moment ∧
        moment.core = callers.session.core ∧ moment.left = [] ∧
          (moment.closing = true ↔ UnderWay start turns) := by
  induction ran using foldlM_induction with
  | none =>
      refine ⟨[], _, rfl, rfl, rfl, ⟨nofun, ?_⟩⟩
      rintro ⟨⟨begun, earlier, later, split, -⟩, -⟩
      simp at split
  | snoc turns turn between final before stepped ih =>
      obtain ⟨events, moment, goes, same, nothing, closing⟩ := ih
      rcases turn_cases (starts.run closedown_lawful before) stepped with
        ⟨aside, session, rfl, happened, rfl⟩ | ⟨task, rfl, runs⟩ | ⟨apart, quiet, stays⟩
      · have stirs := stirs_aside? happened
        have elsewhere :
            moment.step? (.elsewhere session.core) = some { moment with core := session.core } := by
          refine if_pos ⟨?_, ?_, ?_⟩
          · rw [same, stirs.listener]
          · rw [same, stirs.localAddress]
          · rw [same, stirs.roster]
        refine ⟨events ++ [.elsewhere session.core], { moment with core := session.core },
          foldlM_snoc_iff.mpr ⟨moment, goes, elsewhere⟩, rfl, nothing, ?_⟩
        have still : UnderWay start (turns ++ [.aside aside]) ↔ UnderWay start turns :=
          underWay_snoc_iff before nofun
        exact closing.trans still.symm
      · have going : ∀ served, ¬ closedown.Served start turns .finishShutdown served := by
          intro served last
          have isSealed := Closedown.sealed_of_served closedown_lawful starts before last
          cases isSealed.idle.symm.trans runs.first
        have begun : task = .finishShutdown → moment.closing = true := by
          rintro rfl
          exact closing.mpr
            ⟨Closedown.served_of_last closedown_lawful starts idle before runs.first, going⟩
        obtain ⟨more, opened, closed, works⟩ := exists_serves moment nothing task begun
        refine ⟨events ++ more, _, foldlM_append_of_run goes works, ?_, rfl, ?_⟩
        · rw [runs.core, same]
        · exact (underWay_serve_iff before runs.first going closing).symm
      · refine ⟨events, moment, goes, same.trans stays.core.symm, nothing, ?_⟩
        refine closing.trans (underWay_snoc_iff before fun serves => ?_).symm
        have nobody := quiet serves
        exact ⟨by simp [nobody], by simp [nobody]⟩

/-- Unless a shutdown is under way, a server that is between two turns holds a listener if and
only if it is bound, and shows the address of that listener. -/
theorem settled_of_run
    {names : String × String}
    {settings : ServerSettings}
    {policy : Option String → IdentityPolicy}
    {seed : Nat}
    {transport : Transport}
    {handler : String → Reaction ServerAction}
    (ran :
      closedown.run?
          { session := .start names settings policy seed transport handler } turns =
        some callers)
    (calm :
      ¬ UnderWay { session := .start names settings policy seed transport handler } turns) :
    callers.session.core.listener.map (·.address) = callers.session.core.roster.bound ∧
      callers.session.core.roster.bound = callers.session.core.localAddress.value := by
  obtain ⟨events, moment, goes, same, nothing, closing⟩ :=
    exists_moments (Closedown.sound_start rfl rfl rfl) (fun _ waits => waits) ran
  obtain ⟨unclosed, sound⟩ := ServerMoment.sound_run ⟨rfl, rfl, rfl, rfl⟩ goes
  have settled := sound.safe
  rw [nothing] at settled
  rw [← same]
  exact settled.agrees (Bool.eq_false_iff.mpr fun goesOn => calm (closing.mp goesOn))

end ServerSession

end LineProtocol
