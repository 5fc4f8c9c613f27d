import Mathlib.Data.List.Basic
import Mathlib.Data.List.Induction

/-!
# Runs

A run is a list of events, each of which may be refused.  What one event keeps
a run keeps, and a place in a run with one event more is that event or a place
in the shorter run.

`visits` pairs each event of a run with the state that it finds, so that what
the events of a run do one after the other can be put into one list.
-/

namespace LineProtocol

variable {σ ε : Type}

theorem foldlM_snoc
    (step? : σ → ε → Option σ)
    (start : σ)
    (events : List ε)
    (event : ε) :
    (events ++ [event]).foldlM step? start =
      (events.foldlM step? start).bind fun state => step? state event := by
  simp [List.foldlM_append]

/-- The last event of a run happens after all others. -/
theorem foldlM_snoc_iff
    {step? : σ → ε → Option σ}
    {start final : σ}
    {events : List ε}
    {event : ε} :
    (events ++ [event]).foldlM step? start = some final ↔
      ∃ between, events.foldlM step? start = some between ∧
        step? between event = some final := by
  rw [foldlM_snoc, Option.bind_eq_some_iff]

/-- What holds before a run and is kept by each event of it holds after the run. -/
theorem foldlM_induction
    {step? : σ → ε → Option σ}
    {start : σ}
    {motive :
      ∀ (events : List ε) (final : σ), events.foldlM step? start = some final → Prop}
    (none : motive [] start rfl)
    (snoc :
      ∀ events event between final,
        (before : events.foldlM step? start = some between) →
          (stepped : step? between event = some final) →
            motive events between before →
              motive (events ++ [event]) final
                (foldlM_snoc_iff.mpr ⟨between, before, stepped⟩))
    {events : List ε}
    {final : σ}
    (ran : events.foldlM step? start = some final) :
    motive events final ran := by
  induction events using List.reverseRecOn generalizing final with
  | nil =>
      obtain rfl := Option.some.inj ran
      exact none
  | append_singleton events event ih =>
      obtain ⟨between, before, stepped⟩ := foldlM_snoc_iff.mp ran
      exact snoc events event between final before stepped (ih before)

/-- What holds at the start and is kept by each event holds at the end. -/
theorem foldlM_keeps
    {step? : σ → ε → Option σ}
    {good : σ → Prop}
    (kept : ∀ state event next, good state → step? state event = some next → good next)
    {start final : σ}
    {events : List ε}
    (starts : good start)
    (ran : events.foldlM step? start = some final) :
    good final := by
  induction ran using foldlM_induction with
  | none => exact starts
  | snoc events event between final before stepped ih =>
      exact kept between event final ih stepped

/-- A run goes on from where another came to. -/
theorem foldlM_append_of_run
    {step? : σ → ε → Option σ}
    {start between final : σ}
    {events later : List ε}
    (ran : events.foldlM step? start = some between)
    (goes : later.foldlM step? between = some final) :
    (events ++ later).foldlM step? start = some final := by
  rw [List.foldlM_append, ran]
  exact goes

/-- A run of a part is a run of the whole. -/
theorem foldlM_map_of_part
    {τ δ : Type}
    {step? : σ → ε → Option σ}
    {part? : τ → δ → Option τ}
    {place : τ → σ}
    {event : δ → ε}
    (steps : ∀ part act, step? (place part) (event act) = (part? part act).map place)
    {start final : τ}
    {acts : List δ}
    (ran : acts.foldlM part? start = some final) :
    (acts.map event).foldlM step? (place start) = some (place final) := by
  induction acts generalizing start with
  | nil =>
      obtain rfl := Option.some.inj ran
      rfl
  | cons act acts ih =>
      rw [List.foldlM_cons] at ran
      obtain ⟨between, acted, goes⟩ := Option.bind_eq_some_iff.mp ran
      rw [List.map_cons, List.foldlM_cons, steps, acted]
      exact ih goes

/-- Where something can be done as long as anything is left, a run comes to where nothing
is left. -/
theorem exists_foldlM
    {step? : σ → ε → Option σ}
    {good : σ → Prop}
    {left : σ → Nat}
    (goes :
      ∀ state, good state → left state ≠ 0 →
        ∃ (events : List ε) (next : σ),
          events.foldlM step? state = some next ∧ good next ∧ left next < left state)
    {start : σ}
    (starts : good start) :
    ∃ (events : List ε) (final : σ),
      events.foldlM step? start = some final ∧ good final ∧ left final = 0 := by
  induction amount : left start using Nat.strongRecOn generalizing start with
  | _ amount ih =>
      subst amount
      by_cases nothing : left start = 0
      · exact ⟨[], start, rfl, starts, nothing⟩
      · obtain ⟨events, next, ran, keeps, less⟩ := goes start starts nothing
        obtain ⟨later, final, rest, holds, done⟩ := ih (left next) less keeps rfl
        exact ⟨events ++ later, final, foldlM_append_of_run ran rest, holds, done⟩

theorem split_snoc
    {events earlier later : List ε}
    {last event : ε}
    (split : events ++ [last] = earlier ++ event :: later) :
    (earlier = events ∧ event = last ∧ later = []) ∨
      ∃ shorter, events = earlier ++ event :: shorter ∧ later = shorter ++ [last] := by
  rcases List.eq_nil_or_concat' later with rfl | ⟨shorter, final, rfl⟩
  · obtain ⟨same, lasts⟩ := List.append_inj' split rfl
    simp only [List.cons.injEq, and_true] at lasts
    exact .inl ⟨same.symm, lasts.symm, rfl⟩
  · rw [← List.cons_append, ← List.append_assoc] at split
    obtain ⟨same, lasts⟩ := List.append_inj' split rfl
    simp only [List.cons.injEq, and_true] at lasts
    exact .inr ⟨shorter, same, by rw [lasts]⟩

/-- The same with the state that the run has come to at that place. -/
theorem split_snoc_of_run
    {step? : σ → ε → Option σ}
    {start between final : σ}
    {events earlier later : List ε}
    {last event : ε}
    (ran : events.foldlM step? start = some final)
    (split : events ++ [last] = earlier ++ event :: later)
    (before : earlier.foldlM step? start = some between) :
    (event = last ∧ between = final ∧ later = []) ∨
      ∃ shorter, events = earlier ++ event :: shorter ∧ later = shorter ++ [last] := by
  rcases split_snoc split with ⟨rfl, same, nothing⟩ | shorter
  · rw [ran] at before
    exact .inl ⟨same, (Option.some.inj before).symm, nothing⟩
  · exact .inr shorter

/-! ## What events find -/

/-- The events of a run, each with the state that it finds. -/
def visits
    (step? : σ → ε → Option σ)
    (state : σ) :
    List ε → List (σ × ε)
  | [] => []
  | event :: events =>
      (state, event) ::
        match step? state event with
        | none => []
        | some next => visits step? next events

/-- What events find behind others that lead somewhere. -/
theorem visits_append
    {step? : σ → ε → Option σ}
    {start between : σ}
    {events : List ε}
    (ran : events.foldlM step? start = some between)
    (later : List ε) :
    visits step? start (events ++ later) =
      visits step? start events ++ visits step? between later := by
  induction events generalizing start with
  | nil =>
      obtain rfl := Option.some.inj ran
      rfl
  | cons first events ih =>
      rw [List.foldlM_cons] at ran
      obtain ⟨next, stepped, ran⟩ := Option.bind_eq_some_iff.mp ran
      simp only [List.cons_append, visits, stepped, ih ran]

/-- The last event of a run finds what the others led to. -/
theorem visits_snoc
    {step? : σ → ε → Option σ}
    {start final : σ}
    {events : List ε}
    (ran : events.foldlM step? start = some final)
    (event : ε) :
    visits step? start (events ++ [event]) = visits step? start events ++ [(final, event)] := by
  rw [visits_append ran, visits]
  cases step? final event with
  | none => rfl
  | some next => rfl

end LineProtocol
