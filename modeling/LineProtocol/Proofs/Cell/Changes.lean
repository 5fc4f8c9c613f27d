import LineProtocol.Cell.Shared

/-!
# What a request does to a cell

Four things can happen to a cell: nothing, a publication, a new subscriber, or something
that concerns one subscriber alone.  `changes_of_step?` says so for every step, together with
what the step publishes, what it hands to whom, whom it lets in and who gives a subscription
up by it; whatever is said of runs rests on it.
-/

namespace LineProtocol

/-! ## Single subscribers -/

namespace Cell

variable
  {α : Type}
  {cell : Cell α}
  {index : Nat}
  {subscription : Subscription α}

theorem subscription?_eq_some_iff :
    cell.subscription? index = some subscription ↔
      cell.subscriptions[index]? = some subscription ∧ subscription.live = true := by
  rw [subscription?, Option.filter_eq_some_iff]

theorem lt_of_subscription? (there : cell.subscription? index = some subscription) :
    index < cell.subscriptions.length :=
  (List.getElem?_eq_some_iff.mp (subscription?_eq_some_iff.mp there).1).1

/-- A published value goes to everybody who is there. -/
theorem subscription?_publish
    (value : α)
    (index : Nat) :
    (cell.publish value).subscription? index =
      (cell.subscription? index).map fun subscription =>
        { subscription with pending := subscription.pending ++ [value] } := by
  simp only [subscription?, publish, List.getElem?_map]
  cases cell.subscriptions[index]? with
  | none =>
      rfl
  | some subscription =>
      cases live : subscription.live <;> simp [Subscription.offer, Option.filter, live]

/-- A new subscriber starts with the value held now. -/
theorem subscription?_subscribe
    (cell : Cell α)
    (index : Nat) :
    cell.subscribe.subscription? index =
      if index = cell.subscriptions.length then some { pending := [cell.value] }
      else cell.subscription? index := by
  by_cases new : index = cell.subscriptions.length
  · simp [subscription?, subscribe, new, Option.filter]
  · rw [if_neg new, subscription?, subscription?, subscribe]
    congr 1
    rcases Nat.lt_or_gt_of_ne new with before | behind
    · exact List.getElem?_append_left before
    · rw [List.getElem?_append_right (Nat.le_of_lt behind)]
      rw [List.getElem?_eq_none (by simp; omega), List.getElem?_eq_none (by omega)]

/-- What one subscriber does is nothing to the others. -/
theorem subscription?_setSubscription
    (there : cell.subscription? index = some subscription)
    (after : Subscription α)
    (other : Nat) :
    (cell.setSubscription index after).subscription? other =
      if other = index then (some after).filter (·.live) else cell.subscription? other := by
  have inside := lt_of_subscription? there
  rw [subscription?, setSubscription, List.getElem?_set]
  by_cases same : other = index
  · rw [if_pos same, if_pos same.symm, if_pos (same ▸ inside)]
  · rw [if_neg same, if_neg (Ne.symm same), subscription?]

end Cell

namespace SharedCell

variable
  {α : Type}
  {shared next : SharedCell α}
  {step : Step α}
  {index handle : Nat}
  {subscription : Subscription α}

/-! ## What a step is answered with -/

/-- What waits for a subscriber. -/
def pending
    (shared : SharedCell α)
    (index : Nat) :
    List α :=
  ((shared.cell.subscription? index).map (·.pending)).getD []

/-- The values that an answer hands over. -/
def Reply.values : Reply α → List α
  | .received taken => taken.toList
  | .drained values => values
  | _ => []

/-- The subscription that an answer hands over. -/
def Reply.subscription? : Reply α → Option Nat
  | .subscription index => some index
  | _ => none

/-- The handle that an answer hands over. -/
def Reply.handle? : Reply α → Option Nat
  | .handle index => some index
  | _ => none

/-- What a step publishes: the value of a request that is not turned away. -/
def publishes : SharedCell α × Step α → List α
  | (shared, .ask (.publish handle value)) =>
      match (shared.perform (.publish handle value)).1 with
      | .gone => []
      | _ => [value]
  | _ => []

/-- The subscriptions that a step is answered with. -/
def admits : SharedCell α × Step α → List Nat
  | (shared, .ask request) => (shared.perform request).1.subscription?.toList
  | (_, .await _) => []

/-- The handles that a step is answered with. -/
def grants : SharedCell α × Step α → List Nat
  | (shared, .ask request) => (shared.perform request).1.handle?.toList
  | (_, .await _) => []

/-- Whether a step gives a subscription up. -/
def Step.givesUp (index : Nat) : Step α → Bool
  | .ask (.unsubscribe reader) => reader == index
  | .ask (.collect reader) => reader == index
  | _ => false

/-- Whether a step drops a handle. -/
def Step.releases (handle : Nat) : Step α → Bool
  | .ask (.release other) => other == handle
  | _ => false

/-- Values up to the first that is wanted, or all if none is. -/
def upTo
    (wanted : α → Bool)
    (values : List α) :
    List α :=
  values.takeWhile (!wanted ·) ++ (values.dropWhile (!wanted ·)).take 1

/-- What a step takes from what waits for a subscriber.  Who waits for a wanted value is not
shown those before it. -/
def consumes (index : Nat) : SharedCell α × Step α → List α
  | (shared, .ask (.receiveUntil reader wanted)) =>
      if reader = index then upTo wanted (shared.pending index) else []
  | (shared, .ask (.receive reader)) =>
      if reader = index then (shared.perform (.receive reader)).1.values else []
  | (shared, .ask (.drain reader)) =>
      if reader = index then (shared.perform (.drain reader)).1.values else []
  | (shared, .ask (.collect reader)) =>
      if reader = index then (shared.perform (.collect reader)).1.values else []
  | (shared, .await reader) =>
      if reader = index then ((shared.await? reader).map (·.1.values)).getD [] else []
  | _ => []

theorem publishes_of_held
    (held : shared.holds handle = true)
    (value : α) :
    publishes (shared, .ask (.publish handle value)) = [value] := by
  simp [publishes, perform, through, held]

theorem publishes_of_gone
    (gone : shared.holds handle = false)
    (value : α) :
    publishes (shared, .ask (.publish handle value)) = [] := by
  simp [publishes, perform, through, gone]

theorem admits_of_held (held : shared.holds handle = true) :
    admits (shared, .ask (.subscribe handle)) = [shared.cell.subscriptions.length] := by
  simp [admits, perform, through, held, Reply.subscription?]

/-- Nobody comes but by asking for it. -/
theorem admits_of_others
    (others : ∀ handle, shared.holds handle = true → step ≠ .ask (.subscribe handle)) :
    admits (shared, step) = [] := by
  cases step with
  | await reader =>
      rfl
  | ask request =>
      cases request with
      | subscribe handle =>
          have gone : shared.holds handle = false :=
            Bool.eq_false_iff.mpr fun held => others handle held rfl
          simp [admits, perform, through, gone, Reply.subscription?]
      | get | publish | count | clone | release =>
          simp only [admits, perform, through]
          split <;> rfl
      | unsubscribe | receive | receiveUntil | drain | collect =>
          simp only [admits, perform, reading]
          split <;> rfl

/-! ## What a step can do -/

/-- The ways in which a step can change a cell. -/
inductive Changes
    (shared : SharedCell α)
    (step : Step α) :
    SharedCell α → Prop where
  | rests
      (handles : List Bool)
      (publishes : publishes (shared, step) = [])
      (admits : admits (shared, step) = [])
      (consumes : ∀ index, consumes index (shared, step) = [])
      (keeps :
        ∀ index, step.givesUp index = true → shared.cell.subscription? index = none) :
      Changes shared step { shared with handles }
  | publish
      (handle : Nat)
      (value : α)
      (asked : step = .ask (.publish handle value))
      (held : shared.holds handle = true) :
      Changes shared step { shared with cell := shared.cell.publish value }
  | subscribe
      (handle : Nat)
      (asked : step = .ask (.subscribe handle))
      (held : shared.holds handle = true) :
      Changes shared step { shared with cell := shared.cell.subscribe }
  | reads
      (index : Nat)
      {subscription : Subscription α}
      (after : Subscription α)
      (there : shared.cell.subscription? index = some subscription)
      (publishes : publishes (shared, step) = [])
      (admits : admits (shared, step) = [])
      (live : after.live = !step.givesUp index)
      (takes :
        after.live = true →
          after.listed = subscription.listed ∧
            consumes index (shared, step) ++ after.pending = subscription.pending)
      (others :
        ∀ other, other ≠ index →
          consumes other (shared, step) = [] ∧ step.givesUp other = false) :
      Changes shared step { shared with cell := shared.cell.setSubscription index after }

/-- Who takes the next value has the others waiting. -/
theorem receive_spec (subscription : Subscription α) :
    subscription.receive.2.listed = subscription.listed ∧
      subscription.receive.1.toList ++ subscription.receive.2.pending = subscription.pending := by
  rw [Subscription.receive]
  cases waits : subscription.pending with
  | nil =>
      simp [waits]
  | cons value rest =>
      simp

/-- Who takes values up to a wanted one has the others waiting. -/
theorem receiveUntil_spec
    (wanted : α → Bool)
    (subscription : Subscription α) :
    (subscription.receiveUntil wanted).2.listed = subscription.listed ∧
      upTo wanted subscription.pending ++ (subscription.receiveUntil wanted).2.pending =
        subscription.pending := by
  have whole :
      subscription.pending.takeWhile (!wanted ·) ++ subscription.pending.dropWhile (!wanted ·) =
        subscription.pending :=
    List.takeWhile_append_dropWhile
  rw [upTo, Subscription.receiveUntil]
  cases rest : subscription.pending.dropWhile (!wanted ·) with
  | nil =>
      simpa [rest] using whole
  | cons value rest' =>
      simpa [rest] using whole

/-- Whoever takes values stays. -/
@[simp]
theorem live_receive (subscription : Subscription α) :
    subscription.receive.2.live = subscription.live := by
  rw [Subscription.receive]
  split <;> rfl

@[simp]
theorem live_receiveUntil
    (wanted : α → Bool)
    (subscription : Subscription α) :
    (subscription.receiveUntil wanted).2.live = subscription.live := by
  rw [Subscription.receiveUntil]
  split <;> rfl

/-- Somebody reads, who may not be there. -/
theorem changes_reading
    (reader : Nat)
    (action : Subscription α → Reply α × Subscription α)
    (quiet : publishes (shared, step) = [])
    (admits : admits (shared, step) = [])
    (others :
      ∀ other, other ≠ reader →
        consumes other (shared, step) = [] ∧ step.givesUp other = false)
    (gone :
      shared.cell.subscription? reader = none → consumes reader (shared, step) = [])
    (live :
      ∀ subscription, subscription.live = true →
        (action subscription).2.live = !step.givesUp reader)
    (takes :
      ∀ subscription,
        shared.cell.subscription? reader = some subscription →
          (action subscription).2.live = true →
            (action subscription).2.listed = subscription.listed ∧
              consumes reader (shared, step) ++ (action subscription).2.pending =
                subscription.pending) :
    Changes shared step (shared.reading reader action).2 := by
  rw [reading]
  split
  case h_1 nobody =>
    apply Changes.rests shared.handles quiet admits
    · intro index
      by_cases same : index = reader
      · rw [same, gone nobody]
      · exact (others index same).1
    · intro index drops
      by_cases same : index = reader
      · rw [same, nobody]
      · rw [(others index same).2] at drops
        cases drops
  case h_2 subscription there =>
    have here := (Cell.subscription?_eq_some_iff.mp there).2
    exact .reads reader _ there quiet admits (live subscription here)
      (takes subscription there) others

theorem changes_perform
    (request : Request α)
    (asked : step = .ask request) :
    Changes shared step (shared.perform request).2 := by
  subst asked
  cases request with
  | get handle | count handle =>
      simp only [perform, through]
      split <;> exact .rests shared.handles rfl (admits_of_others nofun) (fun _ => rfl) nofun
  | clone handle | release handle =>
      simp only [perform, through]
      split <;> exact .rests _ rfl (admits_of_others nofun) (fun _ => rfl) nofun
  | publish handle value =>
      simp only [perform, through]
      split
      case isTrue held =>
        exact .publish handle value rfl held
      case isFalse gone =>
        have quiet := publishes_of_gone (Bool.of_not_eq_true gone) value
        exact .rests shared.handles quiet (admits_of_others nofun) (fun _ => rfl) nofun
  | subscribe handle =>
      simp only [perform, through]
      split
      case isTrue held =>
        exact .subscribe handle rfl held
      case isFalse gone =>
        have nobody : admits (shared, .ask (.subscribe handle)) = [] := by
          apply admits_of_others
          rintro other held ⟨⟩
          exact gone held
        exact .rests shared.handles rfl nobody (fun _ => rfl) nofun
  | receive reader =>
      apply changes_reading reader _ rfl
      · exact admits_of_others nofun
      · intro other apart
        simp [consumes, Ne.symm apart, Step.givesUp]
      · intro nobody
        simp [consumes, perform, reading, nobody, Reply.values]
      · intro subscription live
        simp [live, Step.givesUp]
      · intro subscription there _
        simpa [consumes, perform, reading, there, Reply.values] using receive_spec subscription
  | receiveUntil reader wanted =>
      apply changes_reading reader _ rfl
      · exact admits_of_others nofun
      · intro other apart
        simp [consumes, Ne.symm apart, Step.givesUp]
      · intro nobody
        simp [consumes, pending, nobody, upTo]
      · intro subscription live
        simp [live, Step.givesUp]
      · intro subscription there _
        simpa [consumes, pending, there] using receiveUntil_spec wanted subscription
  | drain reader =>
      apply changes_reading reader _ rfl
      · exact admits_of_others nofun
      · intro other apart
        simp [consumes, Ne.symm apart, Step.givesUp]
      · intro nobody
        simp [consumes, perform, reading, nobody, Reply.values]
      · intro subscription live
        simp [live, Subscription.drain, Step.givesUp]
      · intro subscription there _
        simp [consumes, perform, reading, there, Reply.values, Subscription.drain]
  | unsubscribe reader | collect reader =>
      apply changes_reading reader _ rfl
      · exact admits_of_others nofun
      · intro other apart
        simp [consumes, Ne.symm apart, Step.givesUp]
      · intro nobody
        simp [consumes, perform, reading, nobody, Reply.values]
      · intro subscription live
        simp [Subscription.drop, Step.givesUp]
      · intro subscription there live
        simp [Subscription.drop] at live

theorem changes_of_step? (stepped : shared.step? step = some next) :
    Changes shared step next := by
  cases step with
  | ask request =>
      obtain rfl := Option.some.inj stepped
      exact changes_perform request rfl
  | await reader =>
      simp only [step?, Option.map_eq_some_iff] at stepped
      obtain ⟨⟨reply, _⟩, answered, rfl⟩ := stepped
      have heard : consumes reader (shared, .await reader) = reply.values := by
        simp [consumes, answered]
      have others :
          ∀ other, other ≠ reader →
            consumes other (shared, .await reader) = [] ∧
              (Step.await reader : Step α).givesUp other = false := by
        intro other apart
        simp [consumes, Ne.symm apart, Step.givesUp]
      rw [await?] at answered
      split at answered
      case h_1 nobody =>
        obtain ⟨rfl, rfl⟩ := Option.some.inj answered
        apply Changes.rests shared.handles rfl rfl
        · intro index
          by_cases same : index = reader
          · rw [same, heard]
            rfl
          · exact (others index same).1
        · exact nofun
      case h_2 subscription there =>
        rw [Option.ite_none_left_eq_some] at answered
        have said := Option.some.inj answered.2
        rw [perform, reading, there] at said
        obtain ⟨rfl, rfl⟩ := said
        have live := (Cell.subscription?_eq_some_iff.mp there).2
        apply Changes.reads reader _ there rfl rfl
        · simp [live, Step.givesUp]
        · intro _
          rw [heard]
          exact receive_spec subscription
        · exact others

/-! ## What a change leaves -/

variable (changes : Changes shared step next)

include changes

/-- The cell holds what was published last. -/
theorem value_of_changes :
    next.cell.value = ((publishes (shared, step)).getLast?).getD shared.cell.value := by
  cases changes with
  | rests handles quiet =>
      simp [quiet]
  | publish handle value asked held =>
      simp [asked, publishes_of_held held]
  | subscribe handle asked =>
      simp [asked, publishes]
  | reads index after there quiet =>
      simp [quiet, Cell.setSubscription]

/-- Those who came keep their numbers, and the next one gets the next number. -/
theorem length_of_changes :
    next.cell.subscriptions.length =
      shared.cell.subscriptions.length + (admits (shared, step)).length := by
  cases changes with
  | rests handles quiet nobody =>
      simp [nobody]
  | publish handle value asked =>
      simp [asked, admits_of_others]
  | subscribe handle asked held =>
      simp [asked, admits_of_held held, Cell.subscribe]
  | reads index after there quiet nobody =>
      simp [nobody, Cell.setSubscription]

/-- Whoever comes gets the next number, and no two come at once. -/
theorem admits_of_changes :
    admits (shared, step) = [] ∨ admits (shared, step) = [shared.cell.subscriptions.length] := by
  cases changes with
  | rests handles quiet nobody =>
      exact .inl nobody
  | publish handle value asked =>
      exact .inl (asked ▸ admits_of_others nofun)
  | subscribe handle asked held =>
      exact .inr (asked ▸ admits_of_held held)
  | reads index after there quiet nobody =>
      exact .inl nobody

/-- A subscriber has what it had, less what it took and more what was published, or it is
new. -/
theorem subscription?_of_changes
    (there : next.cell.subscription? index = some subscription) :
    (∃ before,
      shared.cell.subscription? index = some before ∧
        subscription.listed = before.listed ∧
          consumes index (shared, step) ++ subscription.pending =
            before.pending ++ publishes (shared, step)) ∨
      ∃ handle,
        step = .ask (.subscribe handle) ∧ shared.holds handle = true ∧
          index = shared.cell.subscriptions.length ∧
            subscription = { pending := [shared.cell.value] } := by
  cases changes with
  | rests handles quiet nobody still =>
      exact .inl ⟨subscription, there, rfl, by simp [quiet, still index]⟩
  | publish handle value asked held =>
      rw [Cell.subscription?_publish, Option.map_eq_some_iff] at there
      obtain ⟨before, there, rfl⟩ := there
      exact .inl ⟨before, there, rfl, by simp [asked, consumes, publishes_of_held held]⟩
  | subscribe handle asked held =>
      rw [Cell.subscription?_subscribe] at there
      split at there
      case isTrue new =>
        exact .inr ⟨handle, asked, held, new, (Option.some.inj there).symm⟩
      case isFalse old =>
        exact .inl ⟨subscription, there, rfl, by simp [asked, consumes, publishes]⟩
  | reads reader after here quiet nobody live takes others =>
      rw [Cell.subscription?_setSubscription here] at there
      split at there
      case isTrue same =>
        rw [Option.filter_eq_some_iff] at there
        obtain ⟨same', live⟩ := there
        obtain rfl := Option.some.inj same'
        obtain ⟨listed, taken⟩ := takes live
        exact .inl ⟨_, same ▸ here, listed, by rw [same, taken, quiet, List.append_nil]⟩
      case isFalse apart =>
        exact .inl ⟨subscription, there, rfl, by simp [others index apart, quiet]⟩

/-- Nothing is taken from what waits for somebody who is not there. -/
theorem consumes_of_absent (absent : shared.cell.subscription? index = none) :
    consumes index (shared, step) = [] := by
  cases changes with
  | rests handles quiet nobody still =>
      exact still index
  | publish handle value asked =>
      rw [asked]
      rfl
  | subscribe handle asked =>
      rw [asked]
      rfl
  | reads reader after there quiet nobody live takes others =>
      refine (others index ?_).1
      rintro rfl
      rw [there] at absent
      cases absent

/-- Who was there is there still, unless it gives the subscription up, and whoever comes is
there as well. -/
theorem isSome_subscription?_of_changes (index : Nat) :
    (next.cell.subscription? index).isSome =
      ((shared.cell.subscription? index).isSome && !step.givesUp index ||
        (admits (shared, step)).contains index) := by
  cases changes with
  | rests handles quiet nobody still keeps =>
      cases drops : step.givesUp index with
      | false =>
          simp [nobody]
      | true =>
          simp [nobody, keeps index drops]
  | publish handle value asked =>
      simp [asked, admits_of_others, Cell.subscription?_publish, Step.givesUp]
  | subscribe handle asked held =>
      have new : shared.cell.subscription? shared.cell.subscriptions.length = none := by
        simp [Cell.subscription?]
      rw [asked, admits_of_held held, Cell.subscription?_subscribe]
      by_cases same : index = shared.cell.subscriptions.length
      · simp [same]
      · simp [same, Step.givesUp]
  | reads reader after here quiet nobody live takes others =>
      rw [Cell.subscription?_setSubscription here, nobody]
      by_cases same : index = reader
      · subst same
        simp [here, live, Option.isSome_filter]
      · simp [same, others index same]

end SharedCell

end LineProtocol
