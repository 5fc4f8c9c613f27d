import LineProtocol.Serial.Basic

/-!
# What all jobs keep

A relation between an earlier and a later state that every job keeps is kept
by everything that a serial context does, however many jobs a request sets
off.
-/

namespace LineProtocol

variable {σ job ρ : Type}

/-- No job leads out of a relation between an earlier and a later state. -/
structure Craft.Keeps
    (craft : Craft σ job ρ)
    (relation : σ → σ → Prop) : Prop where
  refl : ∀ state, relation state state
  trans : ∀ first second third,
    relation first second → relation second third → relation first third
  run : ∀ stopped task state, relation state (craft.run stopped task state).state

namespace Serial

@[simp]
theorem state_enqueue
    (serial : Serial σ job)
    (envelope : Envelope job) :
    (serial.enqueue envelope).2.state = serial.state := by
  unfold enqueue
  split
  · rfl
  · rfl

@[simp]
theorem state_submit
    (serial : Serial σ job)
    (task : job) :
    (serial.submit task).2.state = serial.state := by
  unfold submit
  split
  · rfl
  · exact serial.state_enqueue _

/-- Letting the loop take what waits is letting it take one envelope after the other, also
for whoever holds the context.  `held` is the holder with a context, and `move` is the move
in which the loop takes an envelope. -/
theorem exists_replicate_runFor
    {τ ε : Type}
    (craft : Craft σ job ρ)
    (moved : τ → ε → τ)
    (move : ε)
    (held : Serial σ job → τ)
    (moves : ∀ serial, moved (held serial) move = held (serial.runNext craft).2)
    (count : Nat)
    (serial : Serial σ job) :
    ∃ steps,
      held (runFor craft count serial).2 =
        (List.replicate steps move).foldl moved (held serial) := by
  induction count generalizing serial with
  | zero => exact ⟨0, rfl⟩
  | succ count ih =>
      have first := moves serial
      rw [runFor]
      split
      · rename_i answer rest taken
        rw [taken] at first
        obtain ⟨steps, leads⟩ := ih rest
        refine ⟨steps + 1, ?_⟩
        rw [List.replicate_succ, List.foldl_cons, first]
        exact leads
      · rename_i rest taken
        rw [taken] at first
        exact ⟨1, first.symm⟩

end Serial

namespace Craft.Keeps

open Serial

variable
  {craft : Craft σ job ρ}
  {relation : σ → σ → Prop}

theorem runNext
    (keeps : craft.Keeps relation)
    (serial : Serial σ job) :
    relation serial.state (serial.runNext craft).2.state := by
  unfold Serial.runNext
  split
  · exact keeps.refl _
  · split
    · exact keeps.refl _
    · exact keeps.refl _
    · exact keeps.run _ _ _

theorem runFor
    (keeps : craft.Keeps relation)
    (count : Nat)
    (serial : Serial σ job) :
    relation serial.state (Serial.runFor craft count serial).2.state := by
  induction count generalizing serial with
  | zero => exact keeps.refl _
  | succ count ih =>
      have first := keeps.runNext serial
      rw [Serial.runFor]
      split
      · rename_i answer rest taken
        rw [taken] at first
        exact keeps.trans _ _ _ first (ih rest)
      · rename_i rest taken
        rw [taken] at first
        exact first

theorem settle
    (keeps : craft.Keeps relation)
    (serial : Serial σ job) :
    relation serial.state (serial.settle craft).2.state :=
  keeps.runFor _ serial

theorem answerAt
    (keeps : craft.Keeps relation)
    (serial : Serial σ job)
    (index : Nat) :
    relation serial.state (serial.answerAt craft index).2.state := by
  have settled := keeps.settle serial
  simp only [Serial.answerAt]
  cases (serial.settle craft).1[index]?.join with
  | some answer => exact settled
  | none => exact settled

theorem call
    (keeps : craft.Keeps relation)
    (serial : Serial σ job)
    (task : job) :
    relation serial.state (serial.call craft task).2.state := by
  have same := serial.state_submit task
  unfold Serial.call
  split
  · rename_i cause rest refused
    rw [refused] at same
    rw [same]
    exact keeps.refl _
  · rename_i waiting taken
    rw [taken] at same
    rw [← same]
    exact keeps.answerAt waiting _

theorem finish
    (keeps : craft.Keeps relation)
    (serial : Serial σ job)
    (task : job) :
    relation serial.state (serial.finish craft task).2.state := by
  unfold Serial.finish
  split
  · rename_i rest refused
    obtain ⟨-, rfl⟩ := Prod.mk.inj refused
    exact keeps.refl _
  · rename_i refusing refused
    obtain ⟨-, rfl⟩ := Prod.mk.inj refused
    have first := state_enqueue { serial with stopped := true } (.run task)
    split
    · rename_i cause rest ended
      rw [ended] at first
      rw [first]
      exact keeps.refl _
    · rename_i waiting taken
      rw [taken] at first
      have second := waiting.state_enqueue .stop
      split
      · rename_i cause rest ended
        rw [ended, first] at second
        rw [second]
        exact keeps.refl _
      · rename_i last stopping
        rw [stopping, first] at second
        have answered := keeps.answerAt last serial.queue.length
        rw [second] at answered
        exact answered

end Craft.Keeps

end LineProtocol
