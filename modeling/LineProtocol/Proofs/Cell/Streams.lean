import Mathlib.Data.List.TakeWhile
import LineProtocol.Proofs.Cell.Presence

/-!
# What subscribers receive

A subscriber that has not gone has received, or has waiting, the value that the cell held
when it came and every value that was published since, in order.  From this one equation the
rest follows: who came later receives an end of what the others receive, and everybody's last
value is the one that the cell holds.

`delivers_of_run` says so for every sequence of requests through any number of handles, with
subscribers that come and go in between.  Who has come and who has gone is told from the
requests and their answers alone.  It also says what a wait for a wanted value takes, how
many subscribers are counted and how a stream ends.
-/

namespace LineProtocol

namespace SharedCell

variable
  {α : Type}
  {shared next final : SharedCell α}
  {step : Step α}
  {index handle : Nat}
  {subscription : Subscription α}

/-! ## What is published and what is taken -/

section Runs

variable
  {start : SharedCell α}
  {steps later : List (Step α)}

/-- What was published in a run. -/
def published
    (shared : SharedCell α)
    (steps : List (Step α)) :
    List α :=
  (visits step? shared steps).flatMap publishes

/-- What a subscriber took in a run. -/
def consumed
    (shared : SharedCell α)
    (steps : List (Step α))
    (index : Nat) :
    List α :=
  (visits step? shared steps).flatMap (consumes index)

theorem published_snoc
    (ran : steps.foldlM step? start = some final)
    (step : Step α) :
    start.published (steps ++ [step]) = start.published steps ++ publishes (final, step) := by
  rw [published, visits_snoc ran, List.flatMap_append, List.flatMap_singleton]
  rfl

theorem consumed_snoc
    (ran : steps.foldlM step? start = some final)
    (step : Step α)
    (index : Nat) :
    start.consumed (steps ++ [step]) index =
      start.consumed steps index ++ consumes index (final, step) := by
  rw [consumed, visits_snoc ran, List.flatMap_append, List.flatMap_singleton]
  rfl

theorem published_singleton
    (start : SharedCell α)
    (step : Step α) :
    start.published [step] = publishes (start, step) := by
  have nothing : ([] : List (Step α)).foldlM step? start = some start := rfl
  exact published_snoc nothing step

/-- What is published behind a first step. -/
theorem published_cons
    (stepped : shared.step? step = some next)
    (later : List (Step α)) :
    shared.published (step :: later) = publishes (shared, step) ++ next.published later := by
  rw [published, visits, stepped, List.flatMap_cons]
  rfl

/-- Who comes later has taken nothing before. -/
theorem consumed_of_absent
    (ran : steps.foldlM step? start = some final)
    (absent : final.cell.subscriptions.length ≤ index) :
    start.consumed steps index = [] := by
  induction ran using foldlM_induction with
  | none =>
      rfl
  | snoc events event between final before stepped ih =>
      have changes := changes_of_step? stepped
      have sooner : between.cell.subscriptions.length ≤ index := by
        rw [length_of_changes changes] at absent
        exact Nat.le_of_add_right_le absent
      have nobody : between.cell.subscription? index = none := by
        simp [Cell.subscription?, sooner, Option.filter]
      rw [consumed_snoc before, ih sooner, consumes_of_absent changes nobody, List.append_nil]

/-- The cell holds what was published last. -/
theorem value_of_run (ran : steps.foldlM step? start = some final) :
    final.cell.value = ((start.published steps).getLast?).getD start.cell.value := by
  induction ran using foldlM_induction with
  | none =>
      rfl
  | snoc events event between final before stepped ih =>
      rw [published_snoc before, value_of_changes (changes_of_step? stepped), ih,
        List.getLast?_append]
      cases (publishes (between, event)).getLast? <;> rfl

/-! ## Streams -/

/-- What a subscriber has taken and what it has still waiting. -/
def stream
    (start : SharedCell α)
    (steps : List (Step α))
    (index : Nat)
    (subscription : Subscription α) :
    List α :=
  start.consumed steps index ++ subscription.pending

/-- A stream goes on with what is published, or it begins. -/
theorem stream_snoc
    (ran : steps.foldlM step? start = some shared)
    (stepped : shared.step? step = some next)
    (there : next.cell.subscription? index = some subscription) :
    (∃ before,
      shared.cell.subscription? index = some before ∧
        subscription.listed = before.listed ∧
          start.stream (steps ++ [step]) index subscription =
            start.stream steps index before ++ publishes (shared, step)) ∨
      ∃ handle,
        step = .ask (.subscribe handle) ∧
          (shared.perform (.subscribe handle)).1 = .subscription index ∧
            index = shared.cell.subscriptions.length ∧ subscription.listed = true ∧
              start.stream (steps ++ [step]) index subscription = [shared.cell.value] := by
  simp only [stream, consumed_snoc ran, List.append_assoc]
  rcases subscription?_of_changes (changes_of_step? stepped) there with
    ⟨before, was, listed, same⟩ | ⟨handle, rfl, held, rfl, rfl⟩
  · exact .inl ⟨before, was, listed, by rw [same]⟩
  · refine .inr ⟨handle, rfl, ?_, rfl, rfl, ?_⟩
    · simp [perform, through, held]
    · rw [consumed_of_absent ran (Nat.le_refl _)]
      rfl

/-- Whoever does not give its subscription up goes on receiving what is published. -/
theorem stream_goesOn
    {before : Subscription α}
    (ran : steps.foldlM step? start = some shared)
    (there : shared.cell.subscription? index = some before)
    (goes : later.foldlM step? shared = some final)
    (stays : ∀ step ∈ later, step.givesUp index = false) :
    ∃ after,
      final.cell.subscription? index = some after ∧
        start.stream (steps ++ later) index after =
          start.stream steps index before ++ shared.published later := by
  induction goes using foldlM_induction with
  | none =>
      exact ⟨before, there, by simp [published, visits]⟩
  | snoc events event between final upTo stepped ih =>
      obtain ⟨was, known, whole⟩ :=
        ih fun step member => stays step (List.mem_append_left _ member)
      have still : (final.cell.subscription? index).isSome := by
        rw [isSome_subscription?_of_changes (changes_of_step? stepped), known,
          stays event (by simp)]
        rfl
      obtain ⟨after, here⟩ := Option.isSome_iff_exists.mp still
      refine ⟨after, here, ?_⟩
      have ranTo := foldlM_append_of_run ran upTo
      rcases stream_snoc ranTo stepped here with
        ⟨same, knownSame, -, goesOn⟩ | ⟨handle, -, -, new, -⟩
      · obtain rfl := Option.some.inj (knownSame.symm.trans known)
        rw [← List.append_assoc, goesOn, whole, published_snoc upTo, List.append_assoc]
      · have inside := Cell.lt_of_subscription? known
        omega

/-- What every run of a cell has brought to its subscribers. -/
structure Flows
    (start : SharedCell α)
    (steps : List (Step α))
    (final : SharedCell α) :
    Prop where
  since :
    ∀ index subscription, final.cell.subscription? index = some subscription →
      ∃ earlier handle later between,
        steps = earlier ++ .ask (.subscribe handle) :: later ∧
          earlier.foldlM step? start = some between ∧
            (between.perform (.subscribe handle)).1 = .subscription index ∧
              start.stream steps index subscription =
                between.cell.value :: between.published (.ask (.subscribe handle) :: later)
  suffix :
    ∀ sooner later first second, sooner ≤ later →
      final.cell.subscription? sooner = some first →
        final.cell.subscription? later = some second →
          start.stream steps later second <:+ start.stream steps sooner first
  latest :
    ∀ index subscription, final.cell.subscription? index = some subscription →
      (start.stream steps index subscription).getLast? = some final.cell.value
  listed :
    ∀ index subscription, final.cell.subscription? index = some subscription →
      subscription.listed = true

/-- A subscription begins with the value that the cell holds then, and loses nothing until it
is given up. -/
theorem stream_of_subscribe
    {earlier : List (Step α)}
    (ran : (earlier ++ .ask (.subscribe handle) :: later).foldlM step? start = some final)
    (before : earlier.foldlM step? start = some shared)
    (answered : (shared.perform (.subscribe handle)).1 = .subscription index)
    (stays : ∀ step ∈ later, step.givesUp index = false) :
    ∃ subscription,
      final.cell.subscription? index = some subscription ∧
        start.stream (earlier ++ .ask (.subscribe handle) :: later) index subscription =
          shared.cell.value :: shared.published (.ask (.subscribe handle) :: later) := by
  have held : shared.holds handle = true := by
    by_contra gone
    simp [perform, through, gone] at answered
  have stepped :
      shared.step? (.ask (.subscribe handle)) =
        some { shared with cell := shared.cell.subscribe } := by
    simp [step?, perform, through, held]
  have number : index = shared.cell.subscriptions.length := by
    simpa [perform, through, held, eq_comm] using answered
  have here :
      shared.cell.subscribe.subscription? index = some { pending := [shared.cell.value] } := by
    rw [Cell.subscription?_subscribe, if_pos number]
  have begun :
      (earlier ++ [Step.ask (.subscribe handle)]).foldlM step? start =
        some { shared with cell := shared.cell.subscribe } :=
    foldlM_snoc_iff.mpr ⟨shared, before, stepped⟩
  have goes :
      later.foldlM step? { shared with cell := shared.cell.subscribe } = some final := by
    rw [List.append_cons, List.foldlM_append, begun] at ran
    exact ran
  obtain ⟨after, there, whole⟩ := stream_goesOn begun here goes stays
  refine ⟨after, there, ?_⟩
  rw [List.append_cons, whole, published_cons stepped]
  have taken : start.consumed (earlier ++ [Step.ask (.subscribe handle)]) index = [] := by
    rw [consumed_snoc before, consumed_of_absent before number.ge]
    rfl
  rw [stream, taken]
  rfl

theorem flows_run
    (alone : start.cell.subscriptions = [])
    (ran : steps.foldlM step? start = some final) :
    start.Flows steps final := by
  induction ran using foldlM_induction with
  | none =>
      have nobody : ∀ index, start.cell.subscription? index = none := by
        simp [Cell.subscription?, alone, Option.filter]
      constructor <;> simp [nobody]
  | snoc events event between final before stepped ih =>
      constructor
      case since =>
        intro index subscription there
        rcases stream_snoc before stepped there with
          ⟨was, known, -, goesOn⟩ | ⟨handle, rfl, here, -, -, begins⟩
        · obtain ⟨earlier, handle, later, moment, rfl, upTo, here, whole⟩ :=
            ih.since index was known
          refine ⟨earlier, handle, later ++ [event], moment, by simp, upTo, here, ?_⟩
          have onwards :
              (Step.ask (.subscribe handle) :: later).foldlM step? moment = some between := by
            rw [List.foldlM_append, upTo] at before
            exact before
          rw [goesOn, whole, ← List.cons_append, published_snoc onwards, List.cons_append]
        · refine ⟨events, handle, [], between, rfl, before, here, ?_⟩
          rw [begins, published_singleton]
          rfl
      case suffix =>
        intro sooner later first second order there behind
        rcases stream_snoc before stepped behind with
          ⟨second, knownSecond, -, goesOn⟩ | ⟨handle, rfl, -, new, -, begins⟩
        · rcases stream_snoc before stepped there with
            ⟨first, known, -, goesOn'⟩ | ⟨handle, rfl, -, new, -, begins⟩
          · obtain ⟨front, whole⟩ :=
              ih.suffix sooner later first second order known knownSecond
            rw [goesOn, goesOn', ← whole]
            exact ⟨front, (List.append_assoc _ _ _).symm⟩
          · have inside := Cell.lt_of_subscription? knownSecond
            omega
        · rcases stream_snoc before stepped there with
            ⟨first, known, -, goesOn⟩ | ⟨_, _, -, same, -, begins'⟩
          · obtain ⟨front, whole⟩ :=
              List.getLast?_eq_some_iff.mp (ih.latest sooner first known)
            rw [begins, goesOn, whole]
            exact ⟨front, by simp [publishes]⟩
          · exact begins.trans begins'.symm ▸ List.suffix_refl _
      case latest =>
        intro index subscription there
        rw [value_of_changes (changes_of_step? stepped)]
        rcases stream_snoc before stepped there with
          ⟨was, known, -, goesOn⟩ | ⟨handle, rfl, -, -, -, begins⟩
        · rw [goesOn, List.getLast?_append, ih.latest index was known]
          cases (publishes (between, event)).getLast? <;> rfl
        · rw [begins]
          rfl
      case listed =>
        intro index subscription there
        rcases stream_snoc before stepped there with
          ⟨was, known, listed, -⟩ | ⟨_, _, -, -, listed, -⟩
        · exact listed.trans (ih.listed index was known)
        · exact listed

/-! ## Counting -/

/-- A publication counts those who are there, and forgets the others. -/
theorem subscriberCount_publish
    {cell : Cell α}
    (listed :
      ∀ index subscription, cell.subscription? index = some subscription →
        subscription.listed = true)
    (value : α) :
    (cell.publish value).subscriberCount = cell.subscriptions.countP (·.live) := by
  rw [Cell.subscriberCount, Cell.publish, List.countP_map]
  apply List.countP_congr
  intro subscription member
  cases live : subscription.live with
  | false =>
      simp [Subscription.offer, live]
  | true =>
      obtain ⟨index, there⟩ := List.getElem?_of_mem member
      have found := Cell.subscription?_eq_some_iff.mpr ⟨there, live⟩
      have counted := listed index subscription found
      simp [Subscription.offer, live, counted]

/-! ## The end of a stream -/

theorem any_handles (shared : SharedCell α) :
    shared.handles.any id = !shared.held.isEmpty := by
  rw [Bool.eq_iff_iff, List.any_eq_true, Bool.not_eq_true', List.isEmpty_eq_false_iff_exists_mem]
  constructor
  · rintro ⟨kept, member, rfl⟩
    obtain ⟨handle, there⟩ := List.getElem?_of_mem member
    exact ⟨handle, mem_held.mpr (by rw [holds, there]; rfl)⟩
  · rintro ⟨handle, member⟩
    have kept := mem_held.mp member
    rw [holds, Option.getD_eq_iff] at kept
    rcases kept with there | ⟨-, impossible⟩
    · exact ⟨true, List.mem_of_getElem? there, rfl⟩
    · cases impossible

theorem holds_of_deserted
    (deserted : shared.held = [])
    (handle : Nat) :
    shared.holds handle = false := by
  rw [← Bool.not_eq_true, ← mem_held, deserted]
  exact List.not_mem_nil

/-- Without a handle nothing is published, and nobody gets one. -/
theorem deserted_of_step?
    (deserted : shared.held = [])
    (stepped : shared.step? step = some next) :
    next.held = [] ∧ publishes (shared, step) = [] := by
  constructor
  · have nothing := (passes_of_step? stepped).grants.resolve_right fun more => more.1 deserted
    rw [held_of_step? stepped, deserted, nothing]
    rfl
  · cases step with
    | await reader =>
        rfl
    | ask request =>
        cases request with
        | publish handle value =>
            exact publishes_of_gone (holds_of_deserted deserted handle) value
        | _ =>
            rfl

/-- When nobody holds a handle any more, nothing is published any more. -/
theorem published_of_deserted
    (deserted : start.held = [])
    (ran : steps.foldlM step? start = some final) :
    final.held = [] ∧ start.published steps = [] := by
  induction ran using foldlM_induction with
  | none =>
      exact ⟨deserted, rfl⟩
  | snoc events event between final before stepped ih =>
      obtain ⟨still, nothing⟩ := deserted_of_step? ih.1 stepped
      exact ⟨still, by rw [published_snoc before, ih.2, nothing]; rfl⟩

/-- What several waits for the next value are answered, one after the other. -/
def answers?
    (index : Nat) :
    Nat → SharedCell α → Option (List (Reply α))
  | 0, _ => some []
  | count + 1, shared =>
      (shared.await? index).bind fun answer =>
        (answers? index count answer.2).map (answer.1 :: ·)

/-- When nobody holds a handle any more, whoever waits is given what is left, and then told
that nothing comes. -/
theorem answers?_of_deserted
    (deserted : shared.held = [])
    (there : shared.cell.subscription? index = some subscription)
    (count : Nat) :
    answers? index count shared =
      some
        (((subscription.pending.map some ++ List.replicate count none).take count).map
          .received) := by
  induction count generalizing shared subscription with
  | zero =>
      rfl
  | succ count ih =>
      have answered :
          shared.await? index =
            some
              (.received subscription.receive.1,
                { shared with
                  cell := shared.cell.setSubscription index subscription.receive.2 }) := by
        simp [await?, there, any_handles, deserted, perform, reading]
      have here :
          (shared.cell.setSubscription index subscription.receive.2).subscription? index =
            some subscription.receive.2 := by
        have live := (Cell.subscription?_eq_some_iff.mp there).2
        rw [Cell.subscription?_setSubscription there, if_pos rfl]
        simp [Option.filter, live]
      have still :
          held { shared with cell := shared.cell.setSubscription index subscription.receive.2 } =
            [] :=
        deserted
      rw [answers?, answered, Option.bind_some, ih still here, Subscription.receive]
      cases waits : subscription.pending with
      | nil =>
          simp [waits, List.replicate_succ]
      | cons value rest =>
          have enough : count ≤ (rest.map some ++ List.replicate count none).length := by simp
          have cut :
              ((rest.map some ++ List.replicate count none) ++ [none]).take count =
                (rest.map some ++ List.replicate count none).take count :=
            List.take_append_of_le_length enough
          rw [List.append_assoc, ← List.replicate_succ'] at cut
          simp [cut]

/-! ## Waiting for a value -/

/-- Who takes the next value is given the first that waits, if any. -/
theorem perform_receive (there : final.cell.subscription? index = some subscription) :
    final.perform (.receive index) =
      (.received subscription.pending.head?,
        { final with
          cell :=
            final.cell.setSubscription index
              { subscription with pending := subscription.pending.tail } }) := by
  rw [perform, reading, there]
  cases subscription with
  | mk pending live listed =>
      cases pending <;> rfl

/-- Who waits for a wanted value takes those before it as well. -/
theorem perform_receiveUntil_of_found
    (there : final.cell.subscription? index = some subscription)
    {wanted : α → Bool}
    {skipped rest : List α}
    {value : α}
    (waits : subscription.pending = skipped ++ value :: rest)
    (unwanted : ∀ other ∈ skipped, wanted other = false)
    (found : wanted value = true) :
    final.perform (.receiveUntil index wanted) =
      (.received (some value),
        { final with
          cell := final.cell.setSubscription index { subscription with pending := rest } }) := by
  have behind : subscription.pending.dropWhile (!wanted ·) = value :: rest := by
    rw [waits, List.dropWhile_append_of_pos fun other member => by simp [unwanted other member]]
    simp [found]
  simp [perform, reading, there, Subscription.receiveUntil, behind]

/-- Who waits for a wanted value that is not there takes all. -/
theorem perform_receiveUntil_of_none
    (there : final.cell.subscription? index = some subscription)
    {wanted : α → Bool}
    (unwanted : ∀ value ∈ subscription.pending, wanted value = false) :
    final.perform (.receiveUntil index wanted) =
      (.received none,
        { final with
          cell := final.cell.setSubscription index { subscription with pending := [] } }) := by
  have behind : subscription.pending.dropWhile (!wanted ·) = [] := by
    rw [List.dropWhile_eq_nil_iff]
    intro value member
    simp [unwanted value member]
  simp [perform, reading, there, Subscription.receiveUntil, behind]

/-! ## All together -/

/-- Who is there after a run, told from the requests and the answers alone, and what the
holder of a handle is answered then. -/
structure Attends
    (start : SharedCell α)
    (steps : List (Step α))
    (final : SharedCell α) :
    Prop where
  numbered : start.admitted steps = List.range (start.admitted steps).length
  there :
    ∀ index,
      index ∈ start.attending steps ↔
        ∃ subscription, final.cell.subscription? index = some subscription
  /-- Whoever was answered with a subscription and has not given it up lacks nothing. -/
  stays :
    ∀ earlier handle later between index,
      steps = earlier ++ .ask (.subscribe handle) :: later →
        earlier.foldlM step? start = some between →
          (between.perform (.subscribe handle)).1 = .subscription index →
            (∀ step ∈ later, step.givesUp index = false) →
              ∃ subscription,
                final.cell.subscription? index = some subscription ∧
                  start.stream steps index subscription =
                    between.cell.value ::
                      between.published (.ask (.subscribe handle) :: later)
  current : final.cell.value = ((start.published steps).getLast?).getD start.cell.value
  gets :
    ∀ handle ∈ start.holding steps,
      final.perform (.get handle) = (.value final.cell.value, final)
  subscribed :
    ∀ handle ∈ start.holding steps,
      (final.perform (.subscribe handle)).1 = .subscription (start.admitted steps).length
  cloned :
    ∀ handle ∈ start.holding steps,
      ∃ other ∉ start.holding steps, (final.perform (.clone handle)).1 = .handle other
  answered :
    ∀ handle value,
      (final.perform (.publish handle value)).1 =
        if handle ∈ start.holding steps then .done else .gone
  /-- Right after a publication all handles count those who are there. -/
  counted :
    ∀ handle ∈ start.holding steps, ∀ other ∈ start.holding steps, ∀ value,
      let next := (final.perform (.publish handle value)).2
      (next.perform (.count other)).1 = .count (start.attending steps).length

theorem attends_run
    (alone : start.cell.subscriptions = [])
    (first : start.handles = [true])
    (ran : steps.foldlM step? start = some final) :
    start.Attends steps final := by
  have all := admitted_of_run alone ran
  have count : (start.admitted steps).length = final.cell.subscriptions.length := by
    rw [all, List.length_range]
  have attending := attending_of_run alone ran
  have holds : ∀ handle, handle ∈ start.holding steps ↔ final.holds handle = true := by
    intro handle
    rw [holding_of_run first ran, mem_held]
  constructor
  case numbered =>
    rw [count, all]
  case there =>
    intro index
    rw [attending, mem_present]
  case stays =>
    rintro earlier handle later between index rfl before answered stays
    exact stream_of_subscribe ran before answered stays
  case current =>
    exact value_of_run ran
  case gets =>
    intro handle member
    simp [perform, through, (holds handle).mp member]
  case subscribed =>
    intro handle member
    simp [perform, through, (holds handle).mp member, count]
  case cloned =>
    intro handle member
    refine ⟨final.handles.length, ?_, by simp [perform, through, (holds handle).mp member]⟩
    rw [holds, SharedCell.holds, List.getElem?_eq_none (Nat.le_refl _)]
    exact Bool.false_ne_true
  case answered =>
    intro handle value
    simp only [perform, through, holds handle]
    split <;> rfl
  case counted =>
    intro handle member other here value next
    have held := (holds handle).mp member
    have grown : next = { final with cell := final.cell.publish value } := by
      simp [next, perform, through, held]
    have still : next.holds other = true := by
      rw [grown]
      exact (holds other).mp here
    simp only [perform, through, still, if_true]
    rw [grown, subscriberCount_publish (flows_run alone ran).listed, attending, length_present]

/-- What subscribers can rely on after any run: what they have received and have waiting, and
what the next request is answered. -/
structure Delivers
    (start : SharedCell α)
    (steps : List (Step α))
    (final : SharedCell α) :
    Prop
    extends Flows start steps final, Attends start steps final where
  received :
    ∀ index subscription, final.cell.subscription? index = some subscription →
      final.perform (.receive index) =
        (.received subscription.pending.head?,
          { final with
            cell :=
              final.cell.setSubscription index
                { subscription with pending := subscription.pending.tail } })
  /-- A wait lasts as long as nothing is there and a value can come. -/
  awaited :
    ∀ index subscription, final.cell.subscription? index = some subscription →
      final.await? index =
        if subscription.pending.isEmpty && !(start.holding steps).isEmpty then none
        else some (final.perform (.receive index))
  drained :
    ∀ index subscription, final.cell.subscription? index = some subscription →
      (final.perform (.drain index)).1 = .drained subscription.pending ∧
        (final.perform (.collect index)).1 = .drained subscription.pending
  found :
    ∀ index subscription wanted skipped value rest,
      final.cell.subscription? index = some subscription →
        subscription.pending = skipped ++ value :: rest →
          (∀ other ∈ skipped, wanted other = false) → wanted value = true →
            final.perform (.receiveUntil index wanted) =
              (.received (some value),
                { final with
                  cell :=
                    final.cell.setSubscription index { subscription with pending := rest } })
  missed :
    ∀ index subscription wanted,
      final.cell.subscription? index = some subscription →
        (∀ value ∈ subscription.pending, wanted value = false) →
          final.perform (.receiveUntil index wanted) =
            (.received none,
              { final with
                cell := final.cell.setSubscription index { subscription with pending := [] } })
  silent :
    start.holding steps = [] →
      ∀ later last, later.foldlM step? final = some last → final.published later = []
  ends :
    start.holding steps = [] →
      ∀ index subscription count,
        final.cell.subscription? index = some subscription →
          answers? index count final =
            some
              (((subscription.pending.map some ++ List.replicate count none).take count).map
                .received)

/-- Whatever is published, and whoever comes and goes meanwhile, streams lose nothing and
keep the order. -/
theorem delivers_of_run
    {value : α}
    (ran : steps.foldlM step? (ofValue value) = some final) :
    (ofValue value).Delivers steps final := by
  have holding : (ofValue value).holding steps = final.held := holding_of_run rfl ran
  constructor
  case toFlows =>
    exact flows_run rfl ran
  case toAttends =>
    exact attends_run rfl rfl ran
  case received =>
    intro index subscription there
    exact perform_receive there
  case awaited =>
    intro index subscription there
    rw [await?, there, any_handles, holding]
  case drained =>
    intro index subscription there
    simp [perform, reading, there, Subscription.drain]
  case found =>
    intro index subscription wanted skipped value rest there waits unwanted found
    exact perform_receiveUntil_of_found there waits unwanted found
  case missed =>
    intro index subscription wanted there unwanted
    exact perform_receiveUntil_of_none there unwanted
  case silent =>
    intro deserted later last goes
    exact (published_of_deserted (holding.symm.trans deserted) goes).2
  case ends =>
    intro deserted index subscription count there
    exact answers?_of_deserted (holding.symm.trans deserted) there count

/-- Two subscribers, of whom one comes later and through another handle, and a third that
does not stay. -/
theorem delivers_of_run_late_subscriber :
    let steps : List (Step Nat) :=
      [.ask (.subscribe 0), .ask (.publish 0 2), .ask (.clone 0), .ask (.subscribe 1),
        .ask (.subscribe 0), .await 0, .ask (.unsubscribe 2), .ask (.release 0),
        .ask (.publish 1 3), .ask (.release 1)]
    ∃ final,
      steps.foldlM step? (ofValue 1) = some final ∧ (ofValue 1).Delivers steps final ∧
        (ofValue 1).attending steps = [0, 1] ∧ (ofValue 1).consumed steps 0 = [1] ∧
          final.pending 0 = [2, 3] ∧ final.pending 1 = [2, 3] := by
  intro steps
  exact ⟨_, rfl, delivers_of_run rfl, rfl, rfl, rfl, rfl⟩

end Runs

end SharedCell

end LineProtocol
