import Mathlib.Data.List.Basic
import LineProtocol.Proofs.Cell.Changes
import LineProtocol.Proofs.Run

/-!
# Who is there

Whoever has followed the requests and the answers knows who is there: those who were
answered with a subscription and have not given it up since.  `attending` is that list, and
`attending_of_run` says that it is right, so nobody is cut off who has not gone.  `holding` is
the same list of the handles.
-/

namespace LineProtocol

/-! ## Coming and going -/

section Remaining

variable
  {σ ε : Type}
  {comes : σ × ε → List Nat}
  {goes : Nat → ε → Bool}
  {first : List Nat}
  {earlier later : List (σ × ε)}

/-- Who is there after some events: who was there or has come, and has not gone since. -/
def remaining
    (comes : σ × ε → List Nat)
    (goes : Nat → ε → Bool)
    (first : List Nat)
    (visits : List (σ × ε)) :
    List Nat :=
  visits.foldl
    (fun there visit => there.filter (!goes · visit.2) ++ comes visit) first

theorem remaining_append (earlier later : List (σ × ε)) :
    remaining comes goes first (earlier ++ later) =
      remaining comes goes (remaining comes goes first earlier) later := by
  simp [remaining]

/-- Those whose numbers are given out one after the other, before and after one event. -/
theorem filter_range_of_grown
    {count : Nat}
    {new : List Nat}
    {before after leaves : Nat → Bool}
    (next : new = [] ∨ new = [count])
    (changed :
      ∀ name, after name = (before name && !leaves name || new.contains name)) :
    (List.range (count + new.length)).filter after =
      ((List.range count).filter before).filter (!leaves ·) ++ new := by
  have old :
      ∀ name ∈ List.range count, after name = (!leaves name && before name) := by
    intro name member
    have less := List.mem_range.mp member
    rcases next with rfl | rfl
    · simp [changed, Bool.and_comm]
    · simp [changed, Bool.and_comm, Nat.ne_of_lt less]
  rw [List.filter_filter, ← List.filter_congr old]
  rcases next with rfl | rfl
  · simp
  · simp [List.range_succ, changed]

end Remaining

namespace SharedCell

variable
  {α : Type}
  {shared next final : SharedCell α}
  {step : Step α}
  {index handle : Nat}

/-! ## Subscriptions -/

/-- The subscriptions that are there. -/
def present (shared : SharedCell α) : List Nat :=
  (List.range shared.cell.subscriptions.length).filter
    fun index => (shared.cell.subscription? index).isSome

theorem mem_present :
    index ∈ shared.present ↔
      ∃ subscription, shared.cell.subscription? index = some subscription := by
  rw [present, List.mem_filter, List.mem_range, Option.isSome_iff_exists, and_iff_right_iff_imp]
  rintro ⟨subscription, there⟩
  exact Cell.lt_of_subscription? there

/-- How many there are. -/
theorem length_present (shared : SharedCell α) :
    shared.present.length = shared.cell.subscriptions.countP (·.live) := by
  have places :
      (List.range shared.cell.subscriptions.length).map (shared.cell.subscriptions[·]?) =
        shared.cell.subscriptions.map some := by
    apply List.ext_getElem <;> simp
  calc
    shared.present.length
      = ((List.range shared.cell.subscriptions.length).map
          (shared.cell.subscriptions[·]?)).countP
            (fun place => (place.filter (·.live)).isSome) := by
        rw [List.countP_map, List.countP_eq_length_filter]
        rfl
    _ = shared.cell.subscriptions.countP (·.live) := by
        rw [places, List.countP_map]
        apply List.countP_congr
        simp [Option.isSome_filter]

/-- After a step those are there who were and do not go, and who comes. -/
theorem present_of_changes (changes : Changes shared step next) :
    next.present =
      shared.present.filter (!step.givesUp ·) ++ admits (shared, step) := by
  rw [present, length_of_changes changes]
  apply filter_range_of_grown (admits_of_changes changes)
  exact isSome_subscription?_of_changes changes

/-! ## Handles -/

/-- The handles that are held. -/
def held (shared : SharedCell α) : List Nat :=
  (List.range shared.handles.length).filter shared.holds

theorem mem_held : handle ∈ shared.held ↔ shared.holds handle = true := by
  rw [held, List.mem_filter, List.mem_range, and_iff_right_iff_imp]
  intro holds
  by_contra outside
  rw [SharedCell.holds, List.getElem?_eq_none (Nat.le_of_not_lt outside)] at holds
  cases holds

/-- What a step does to the handles: one more may come, one may be dropped. -/
structure Passes
    (shared : SharedCell α)
    (step : Step α)
    (next : SharedCell α) :
    Prop where
  grants :
    grants (shared, step) = [] ∨
      shared.held ≠ [] ∧ grants (shared, step) = [shared.handles.length]
  length : next.handles.length = shared.handles.length + (SharedCell.grants (shared, step)).length
  holds :
    ∀ handle,
      next.holds handle =
        (shared.holds handle && !step.releases handle ||
          (SharedCell.grants (shared, step)).contains handle)

/-- Most steps leave the handles alone. -/
theorem Passes.of_handles
    (same : next.handles = shared.handles)
    (nothing : SharedCell.grants (shared, step) = [])
    (keeps : ∀ handle, step.releases handle = true → shared.holds handle = false) :
    Passes shared step next where
  grants := .inl nothing
  length := by simp [same, nothing]
  holds handle := by
    rw [nothing, SharedCell.holds, same]
    cases drops : step.releases handle with
    | false =>
        simp [SharedCell.holds]
    | true =>
        simpa [SharedCell.holds] using keeps handle drops

/-- Whoever reads has nothing to do with the handles. -/
theorem passes_reading
    (reader : Nat)
    (action : Subscription α → Reply α × Subscription α)
    (nothing : grants (shared, step) = [])
    (keeps : ∀ handle, step.releases handle = false) :
    Passes shared step (shared.reading reader action).2 := by
  apply Passes.of_handles _ nothing
  · simp [keeps]
  · rw [reading]
    split <;> rfl

theorem passes_perform (request : Request α) :
    Passes shared (.ask request) (shared.perform request).2 := by
  cases request with
  | get other | publish other | count other | subscribe other =>
      apply Passes.of_handles
      · simp only [perform, through]
        split <;> rfl
      · simp only [grants, perform, through]
        split <;> rfl
      · intro handle drops
        cases drops
  | clone other =>
      cases kept : shared.holds other with
      | false =>
          apply Passes.of_handles
          · simp [perform, through, kept]
          · simp [grants, perform, through, kept, Reply.handle?]
          · intro handle drops
            cases drops
      | true =>
          have new : grants (shared, .ask (.clone other)) = [shared.handles.length] := by
            simp [grants, perform, through, kept, Reply.handle?]
          have more : (shared.perform (.clone other)).2.handles = shared.handles ++ [true] := by
            simp [perform, through, kept]
          constructor
          · exact .inr ⟨List.ne_nil_of_mem (mem_held.mpr kept), new⟩
          · simp [new, more]
          · intro handle
            rw [new, holds, holds, more]
            rcases Nat.lt_trichotomy handle shared.handles.length with inside | rfl | outside
            · simp [Step.releases, List.getElem?_append_left inside, Nat.ne_of_lt inside]
            · simp
            · have beyond : (shared.handles ++ [true])[handle]? = none :=
                List.getElem?_eq_none (by simpa using Nat.succ_le_of_lt outside)
              simp [beyond, Nat.le_of_lt outside, Nat.ne_of_gt outside]
  | release other =>
      have nothing : grants (shared, .ask (.release other)) = [] := by
        simp only [grants, perform, through]
        split <;> rfl
      cases kept : shared.holds other with
      | false =>
          apply Passes.of_handles _ nothing
          · simpa [Step.releases] using kept
          · simp [perform, through, kept]
      | true =>
          have fewer :
              (shared.perform (.release other)).2.handles = shared.handles.set other false := by
            simp [perform, through, kept]
          constructor
          · exact .inl nothing
          · simp [nothing, fewer]
          · intro handle
            rw [nothing, holds, holds, fewer]
            by_cases same : other = handle
            · have gone : (shared.handles.set handle false)[handle]?.getD false = false := by
                rw [List.getElem?_set_self']
                cases shared.handles[handle]? <;> rfl
              simp [same, gone, Step.releases]
            · simp [same, Step.releases, List.getElem?_set_ne same]
  | unsubscribe reader | receive reader | receiveUntil reader | drain reader | collect reader =>
      apply passes_reading
      · simp only [grants, perform, reading]
        split <;> rfl
      · exact fun _ => rfl

theorem passes_of_step? (stepped : shared.step? step = some next) :
    Passes shared step next := by
  cases step with
  | ask request =>
      obtain rfl := Option.some.inj stepped
      exact passes_perform request
  | await reader =>
      apply Passes.of_handles
      · simp only [step?, await?, Option.map_eq_some_iff] at stepped
        obtain ⟨answer, answered, rfl⟩ := stepped
        split at answered
        · rw [← Option.some.inj answered]
        · rw [Option.ite_none_left_eq_some] at answered
          rw [← Option.some.inj answered.2, perform, reading]
          split <;> rfl
      · rfl
      · intro handle drops
        cases drops

/-- After a step those handles are held that were and are not dropped, and the new one. -/
theorem held_of_step? (stepped : shared.step? step = some next) :
    next.held = shared.held.filter (!step.releases ·) ++ grants (shared, step) := by
  have passes := passes_of_step? stepped
  rw [held, passes.length]
  apply filter_range_of_grown _ passes.holds
  exact passes.grants.imp_right And.right

/-- A handle is held until it is released. -/
theorem holds_of_step?
    (kept : shared.holds handle = true)
    (unreleased : step.releases handle = false)
    (stepped : shared.step? step = some next) :
    next.holds handle = true := by
  rw [(passes_of_step? stepped).holds, kept, unreleased]
  rfl

/-! ## What the history says -/

section Runs

variable
  {start : SharedCell α}
  {steps : List (Step α)}

/-- The subscriptions that were answered in a run and not given up since, for a cell that
nobody has watched before. -/
def attending
    (start : SharedCell α)
    (steps : List (Step α)) :
    List Nat :=
  remaining admits Step.givesUp [] (visits step? start steps)

/-- The handles that were answered in a run and not dropped since, with the first one. -/
def holding
    (start : SharedCell α)
    (steps : List (Step α)) :
    List Nat :=
  remaining grants Step.releases [0] (visits step? start steps)

/-- All subscriptions that were answered in a run. -/
def admitted
    (start : SharedCell α)
    (steps : List (Step α)) :
    List Nat :=
  (visits step? start steps).flatMap admits

theorem attending_snoc
    (ran : steps.foldlM step? start = some final)
    (step : Step α) :
    start.attending (steps ++ [step]) =
      (start.attending steps).filter (!step.givesUp ·) ++ admits (final, step) := by
  rw [attending, visits_snoc ran, remaining_append]
  rfl

theorem holding_snoc
    (ran : steps.foldlM step? start = some final)
    (step : Step α) :
    start.holding (steps ++ [step]) =
      (start.holding steps).filter (!step.releases ·) ++ grants (final, step) := by
  rw [holding, visits_snoc ran, remaining_append]
  rfl

theorem admitted_snoc
    (ran : steps.foldlM step? start = some final)
    (step : Step α) :
    start.admitted (steps ++ [step]) = start.admitted steps ++ admits (final, step) := by
  rw [admitted, visits_snoc ran, List.flatMap_append, List.flatMap_singleton]
  rfl

/-- Those are there who were answered with a subscription and have not given it up. -/
theorem attending_of_run
    (alone : start.cell.subscriptions = [])
    (ran : steps.foldlM step? start = some final) :
    start.attending steps = final.present := by
  induction ran using foldlM_induction with
  | none =>
      simp [attending, visits, remaining, present, alone]
  | snoc events event between final before stepped ih =>
      rw [attending_snoc before, ih, present_of_changes (changes_of_step? stepped)]

/-- Those handles are held that were answered and not dropped. -/
theorem holding_of_run
    (first : start.handles = [true])
    (ran : steps.foldlM step? start = some final) :
    start.holding steps = final.held := by
  induction ran using foldlM_induction with
  | none =>
      simp [holding, visits, remaining, held, first, SharedCell.holds]
  | snoc events event between final before stepped ih =>
      rw [holding_snoc before, ih, held_of_step? stepped]

/-- Subscriptions are numbered in the order in which they come. -/
theorem admitted_of_run
    (alone : start.cell.subscriptions = [])
    (ran : steps.foldlM step? start = some final) :
    start.admitted steps = List.range final.cell.subscriptions.length := by
  induction ran using foldlM_induction with
  | none =>
      simp [admitted, visits, alone]
  | snoc events event between final before stepped ih =>
      have changes := changes_of_step? stepped
      rw [admitted_snoc before, ih, length_of_changes changes]
      rcases admits_of_changes changes with nobody | new
      · simp [nobody]
      · simp [new, List.range_succ]

end Runs

end SharedCell

end LineProtocol
