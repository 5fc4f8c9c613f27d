import LineProtocol.Proofs.Serial.Straggling

/-!
# A loop that nobody disturbs

With several threads about, the loop makes one small step at a time.  As long as no other
thread steps in, its small steps come to what `Serial.runNext` does at once.
-/

namespace LineProtocol.SharedSerial

variable {σ ρ : Type}

/-- A context whose loop has run a job from its beginning to its end. -/
def ranThrough
    (shared : SharedSerial σ ρ)
    (task : Task σ ρ) :
    SharedSerial σ ρ :=
  { shared with
    serial := (shared.serial.perform Task.craft task).2
    underway := none
    came :=
      shared.came ++
        (task.run shared.serial.stopped shared.serial.state).submitted.map .submitted }

/-- Jobs that come to the same leave the same behind. -/
theorem ranThrough_congr
    {shared : SharedSerial σ ρ}
    {task other : Task σ ρ}
    (state :
      (task.run shared.serial.stopped shared.serial.state).state =
        (other.run shared.serial.stopped shared.serial.state).state)
    (submitted :
      (task.run shared.serial.stopped shared.serial.state).submitted =
        (other.run shared.serial.stopped shared.serial.state).submitted)
    (answer :
      (task.run shared.serial.stopped shared.serial.state).answer.isSome =
        (other.run shared.serial.stopped shared.serial.state).answer.isSome) :
    shared.ranThrough task = shared.ranThrough other := by
  simp only [ranThrough, Serial.perform, Task.craft, state, submitted, answer]
  congr

/-- The first of several steps of the loop, while it runs a job. -/
theorem foldlM_serve_of_underway
    {shared : SharedSerial σ ρ}
    {job : Underway σ ρ}
    (busy : shared.underway = some job)
    (count : Nat) :
    (List.replicate (count + 1) Event.serve).foldlM step? shared =
      (List.replicate count Event.serve).foldlM step? (shared.work job) := by
  simp [List.replicate_succ, step?, busy]

/-- The loop runs a job in small steps. -/
theorem exists_works
    (task : Task σ ρ)
    (shared : SharedSerial σ ρ)
    (running : shared.serial.ended = false) :
    ∃ count,
      (List.replicate count Event.serve).foldlM step?
          { shared with underway := some { rest := task } } =
        some (shared.ranThrough task) := by
  induction task generalizing shared with
  | answer read =>
      refine ⟨1, ?_⟩
      rw [foldlM_serve_of_underway rfl]
      simp [work, ranThrough, Serial.perform, Task.craft, Task.run]
  | panic =>
      refine ⟨1, ?_⟩
      rw [foldlM_serve_of_underway rfl]
      simp [work, ranThrough, Serial.perform, Task.craft, Task.run]
  | change act next ih =>
      obtain ⟨count, works⟩ :=
        ih { shared with serial := { shared.serial with state := act shared.serial.state } } running
      refine ⟨count + 1, ?_⟩
      rw [foldlM_serve_of_underway rfl]
      exact works
  | choose test yes no ihYes ihNo =>
      cases way : test shared.serial.stopped shared.serial.state with
      | true =>
          obtain ⟨count, works⟩ := ihYes shared running
          refine ⟨count + 1, ?_⟩
          rw [foldlM_serve_of_underway rfl]
          simp only [work, way, if_true]
          refine works.trans (congrArg some (ranThrough_congr ?_ ?_ ?_))
          all_goals simp [Task.run, way]
      | false =>
          obtain ⟨count, works⟩ := ihNo shared running
          refine ⟨count + 1, ?_⟩
          rw [foldlM_serve_of_underway rfl]
          simp only [work, way, Bool.false_eq_true, if_false]
          refine works.trans (congrArg some (ranThrough_congr ?_ ?_ ?_))
          all_goals simp [Task.run, way]
  | submit task next _ ih =>
      cases stopped : shared.serial.stopped with
      | true =>
          obtain ⟨count, works⟩ := ih shared running
          refine ⟨count + 1, ?_⟩
          rw [foldlM_serve_of_underway rfl]
          simp only [work, stopped, Bool.false_eq_true, if_false, if_true]
          refine works.trans (congrArg some (ranThrough_congr ?_ ?_ ?_))
          all_goals simp [Task.run, stopped]
      | false =>
          let grown : SharedSerial σ ρ :=
            { shared with
              serial :=
                { shared.serial with queue := shared.serial.queue ++ [.run task] }
              came := shared.came ++ [.submitted task] }
          let cleared : Underway σ ρ := { rest := .submit task next, cleared := true }
          have puts :
              { shared with underway := some cleared }.work cleared =
                { grown with underway := some { rest := next } } := by
            simp [work, cleared, put, Serial.enqueue, running, grown, Entry.envelope]
          obtain ⟨count, works⟩ := ih grown running
          refine ⟨count + 2, ?_⟩
          rw [foldlM_serve_of_underway rfl]
          simp only [work, stopped, Bool.false_eq_true, if_false]
          rw [foldlM_serve_of_underway rfl, puts]
          refine works.trans ?_
          simp [ranThrough, Serial.perform, Task.craft, Task.run, grown, stopped]
  | call task next _ ih =>
      obtain ⟨count, works⟩ := ih shared running
      refine ⟨count + 1, ?_⟩
      rw [foldlM_serve_of_underway rfl]
      refine works.trans (congrArg some (ranThrough_congr rfl rfl ?_))
      simp [Task.run]
  | finish task next _ ih =>
      obtain ⟨count, works⟩ := ih shared running
      refine ⟨count + 1, ?_⟩
      rw [foldlM_serve_of_underway rfl]
      refine works.trans (congrArg some (ranThrough_congr rfl rfl ?_))
      simp [Task.run]

/-- An idle loop takes the first job and runs it in small steps. -/
theorem exists_serves
    {shared : SharedSerial σ ρ}
    {task : Task σ ρ}
    {rest : List (Envelope (Task σ ρ))}
    (idle : shared.underway = none)
    (stays : shared.leaving = false)
    (running : shared.serial.ended = false)
    (first : shared.serial.queue = .run task :: rest) :
    ∃ count final,
      (List.replicate count Event.serve).foldlM step? shared = some final ∧
        final.underway = none ∧ final.begun = shared.begun ++ [task] ∧
          final.serial = (shared.serial.runNext Task.craft).2 := by
  let taken : SharedSerial σ ρ :=
    { shared with
      begun := shared.begun ++ [task]
      serial := { shared.serial with queue := rest } }
  have takes : shared.step? .serve = some { taken with underway := some { rest := task } } := by
    simp [step?, idle, take?, running, stays, first, taken]
  obtain ⟨count, works⟩ := exists_works task taken running
  refine ⟨count + 1, taken.ranThrough task, ?_, rfl, rfl, ?_⟩
  · rw [List.replicate_succ, List.foldlM_cons, takes]
    exact works
  · simp [ranThrough, Serial.runNext, running, first, taken]

end LineProtocol.SharedSerial
