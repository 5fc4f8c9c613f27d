import Mathlib.Data.List.Chain
import LineProtocol.Connection.Table
import LineProtocol.Connection.Watched
import LineProtocol.Proofs.Cell.Streams

/-!
# The published states are a path

Whoever watches a machine has received, or has waiting, the state that the machine was in
when the subscriber came and then every state that an event has led to, so the stream is a
path of the table.  What the table says about two states in a row, it says about every
stream.
-/

namespace LineProtocol

/-! ## One event -/

namespace Machine

/-- An event that has no place in the state is refused, and nothing changes. -/
theorem apply_of_misfit
    {machine : Machine}
    {event : ConnectionEvent}
    (misfit : ¬ event.Fits machine.current) :
    machine.apply event =
      (.error (.invalidTransition machine.current.name event.name), machine) :=
  apply_of_none ((ConnectionState.after?_eq_none_iff _ _).mpr misfit)

/-- Any other leads on, and what is published is what is answered. -/
theorem apply_of_fits
    {machine : Machine}
    {event : ConnectionEvent}
    (fits : event.Fits machine.current) :
    machine.apply event =
      (.ok event.target,
        { current := event.target, cell := machine.cell.publish event.target }) :=
  apply_of_some ((ConnectionState.after?_eq_some_iff _ _ _).mpr ⟨fits, rfl⟩)

end Machine

/-! ## Paths -/

namespace ConnectionState

/-- What the table says about a stream of states. -/
structure IsPath (states : List ConnectionState) : Prop where
  leads : states.IsChain Leads
  /-- Right before a connection there is an attempt to connect. -/
  connected :
    ∀ front back, states = front ++ .connected :: back → front ≠ [] →
      front.getLast? = some .connecting
  /-- Between two attempts to connect there is an end or a failure. -/
  connecting :
    ∀ front middle back,
      states = front ++ .connecting :: (middle ++ .connecting :: back) →
        ∃ state ∈ middle, state = .disconnected ∨ ∃ cause, state = .failed cause
  /-- A failure leads to nothing but a new attempt, an end or another failure. -/
  failed :
    ∀ front cause next back,
      states = front ++ .failed cause :: next :: back →
        next = .connecting ∨ next = .disconnecting ∨ next = .disconnected ∨
          ∃ other, next = .failed other

theorem IsPath.of_isChain
    {states : List ConnectionState}
    (chain : states.IsChain Leads) :
    IsPath states := by
  have leads := List.isChain_iff_forall_rel_of_append_cons_cons.mp chain
  refine ⟨chain, ?_, ?_, ?_⟩
  · rintro front back rfl something
    obtain ⟨earlier, state, rfl⟩ := List.eq_nil_or_concat' front |>.resolve_left something
    rw [List.append_assoc, List.singleton_append] at leads
    rw [List.getLast?_concat, eq_connecting_of_leads_connected (leads rfl)]
  · rintro front middle back rfl
    rcases List.eq_nil_or_concat' middle with rfl | ⟨earlier, state, rfl⟩
    · exact absurd (of_leads_connecting (leads rfl)) (by simp)
    · have whole :
          front ++ .connecting :: (earlier ++ [state] ++ .connecting :: back) =
            (front ++ .connecting :: earlier) ++ state :: .connecting :: back := by
        simp
      exact ⟨state, by simp, of_leads_connecting (leads whole)⟩
  · rintro front cause next back rfl
    exact of_leads_of_failed (leads rfl)

end ConnectionState

namespace Watched

open SharedCell

variable
  {watched between next final : Watched}
  {events : List Event}
  {event : Event}
  {index : Nat}
  {subscription : Subscription ConnectionState}

/-- What an event answers with, if it is an event of the machine that is accepted. -/
def returns : Watched × Event → List ConnectionState
  | (watched, .happen event) => (watched.machine.apply event).1.toOption.toList
  | (_, .watch _) => []

theorem returns_of_fits
    {event : ConnectionEvent}
    (fits : event.Fits watched.machine.current) :
    returns (watched, .happen event) = [event.target] := by
  rw [returns, Machine.apply_of_fits fits]
  rfl

theorem returns_of_misfit
    {event : ConnectionEvent}
    (misfit : ¬ event.Fits watched.machine.current) :
    returns (watched, .happen event) = [] := by
  rw [returns, Machine.apply_of_misfit misfit]
  rfl

/-- The states that a machine has answered with in a run. -/
def returned
    (watched : Watched)
    (events : List Event) :
    List ConnectionState :=
  (visits step? watched events).flatMap returns

theorem returned_snoc
    (ran : events.foldlM step? watched = some final)
    (event : Event) :
    watched.returned (events ++ [event]) = watched.returned events ++ returns (final, event) := by
  rw [returned, visits_snoc ran, List.flatMap_append, List.flatMap_singleton]
  rfl

theorem returned_singleton
    (watched : Watched)
    (event : Event) :
    watched.returned [event] = returns (watched, event) := by
  have nothing : ([] : List Event).foldlM step? watched = some watched := rfl
  exact returned_snoc nothing event

/-- What an event does to the cell. -/
def asks : Watched × Event → List (Step ConnectionState)
  | (watched, .happen event) => (returns (watched, .happen event)).map fun state =>
      .ask (.publish 0 state)
  | (_, .watch step) => [step]

/-- What is done to the cell in a run. -/
def asked
    (watched : Watched)
    (events : List Event) :
    List (Step ConnectionState) :=
  (visits step? watched events).flatMap asks

theorem asked_snoc
    (ran : events.foldlM step? watched = some final)
    (event : Event) :
    watched.asked (events ++ [event]) = watched.asked events ++ asks (final, event) := by
  rw [asked, visits_snoc ran, List.flatMap_append, List.flatMap_singleton]
  rfl

/-! ## What a step does to the cell -/

/-- Those who watch publish nothing. -/
theorem publishes_of_permits
    {step : Step ConnectionState}
    (permitted : permits step = true)
    (shared : SharedCell ConnectionState) :
    publishes (shared, step) = [] := by
  cases step with
  | ask request =>
      cases request with
      | publish handle state => cases permitted
      | _ => rfl
  | await reader => rfl

/-- Those who watch leave the machine's own handle alone. -/
theorem unreleased_of_permits
    {step : Step ConnectionState}
    (permitted : permits step = true) :
    step.releases 0 = false := by
  cases step with
  | ask request =>
      cases request with
      | release handle =>
          simpa [permits, Step.releases] using permitted
      | _ =>
          rfl
  | await reader =>
      rfl

/-- The cell shows the state that the machine is in, through a handle that is held. -/
structure Shows (watched : Watched) : Prop where
  held : watched.shared.holds 0 = true
  value : watched.machine.cell.value = watched.machine.current

theorem Shows.step
    (shows : watched.Shows)
    (stepped : watched.step? event = some next) :
    next.Shows := by
  cases event with
  | happen event =>
      obtain rfl := Option.some.inj stepped
      refine ⟨shows.held, ?_⟩
      by_cases fits : event.Fits watched.machine.current
      · rw [Machine.advance, Machine.apply_of_fits fits]
        rfl
      · rw [Machine.advance, Machine.apply_of_misfit fits]
        exact shows.value
  | watch step =>
      rw [step?, Option.ite_none_right_eq_some, Option.map_eq_some_iff] at stepped
      obtain ⟨permitted, shared, stepped, rfl⟩ := stepped
      refine ⟨holds_of_step? shows.held (unreleased_of_permits permitted) stepped, ?_⟩
      have same := value_of_changes (changes_of_step? stepped)
      rw [publishes_of_permits permitted] at same
      exact same.trans shows.value

theorem shows_run (ran : events.foldlM step? {} = some final) : final.Shows :=
  foldlM_keeps (fun _ _ _ shows stepped => shows.step stepped) ⟨rfl, rfl⟩ ran

/-- What happens to a watched machine is done to its cell. -/
theorem asks_of_step
    (shows : watched.Shows)
    (stepped : watched.step? event = some next) :
    (asks (watched, event)).foldlM SharedCell.step? watched.shared = some next.shared := by
  cases event with
  | happen event =>
      obtain rfl := Option.some.inj stepped
      by_cases fits : event.Fits watched.machine.current
      · rw [asks, returns_of_fits fits, List.map_singleton, List.foldlM_cons, SharedCell.step?,
          perform, through, shows.held, if_pos rfl]
        simp only [shared, Machine.advance, Machine.apply_of_fits fits]
        rfl
      · rw [asks, returns_of_misfit fits]
        simp only [shared, Machine.advance, Machine.apply_of_misfit fits]
        rfl
  | watch step =>
      rw [step?, Option.ite_none_right_eq_some, Option.map_eq_some_iff] at stepped
      obtain ⟨-, shared, stepped, rfl⟩ := stepped
      rw [asks, List.foldlM_cons, stepped]
      rfl

theorem asked_of_run (ran : events.foldlM step? {} = some final) :
    (asked {} events).foldlM SharedCell.step? (ofValue .disconnected) = some final.shared := by
  induction ran using foldlM_induction with
  | none => rfl
  | snoc events event between final before stepped ih =>
      rw [asked_snoc before]
      exact foldlM_append_of_run ih (asks_of_step (shows_run before) stepped)

/-! ## Streams -/

/-- What a subscriber has received in a run and what it has still waiting. -/
def stream
    (events : List Event)
    (index : Nat)
    (subscription : Subscription ConnectionState) :
    List ConnectionState :=
  (ofValue .disconnected).stream (asked {} events) index subscription

/-- A stream goes on with what an event answers, or it begins with the current state. -/
theorem stream_of_step
    (ran : events.foldlM step? {} = some between)
    (stepped : between.step? event = some final)
    (there : final.machine.cell.subscription? index = some subscription) :
    (∃ before,
      between.machine.cell.subscription? index = some before ∧
        stream (events ++ [event]) index subscription =
          stream events index before ++ returns (between, event)) ∨
      ∃ handle,
        event = .watch (.ask (.subscribe handle)) ∧
          (between.shared.perform (.subscribe handle)).1 = .subscription index ∧
            stream (events ++ [event]) index subscription = [between.machine.current] := by
  have shows := shows_run ran
  have asking := asks_of_step shows stepped
  simp only [stream, asked_snoc ran]
  cases event with
  | happen event =>
      refine .inl ?_
      by_cases fits : event.Fits between.machine.current
      · rw [asks, returns_of_fits fits] at asking ⊢
        have published : publishes (between.shared, .ask (.publish 0 event.target)) =
            [event.target] := by
          exact publishes_of_held shows.held event.target
        rcases stream_snoc (asked_of_run ran) (by simpa using asking) there with
          ⟨before, was, -, goesOn⟩ | ⟨_, other, -⟩
        · exact ⟨before, was, goesOn.trans (by rw [published])⟩
        · cases other
      · rw [asks, returns_of_misfit fits] at asking ⊢
        obtain same : between.shared = final.shared := Option.some.inj asking
        refine ⟨subscription, ?_, by simp⟩
        exact (congrArg (·.cell.subscription? index) same).trans there
  | watch step =>
      rw [step?, Option.ite_none_right_eq_some] at stepped
      rcases stream_snoc (asked_of_run ran) (by simpa [asks] using asking) there with
        ⟨before, was, -, goesOn⟩ | ⟨handle, rfl, reply, -, -, begins⟩
      · exact .inl ⟨before, was, goesOn.trans (by rw [publishes_of_permits stepped.1]; rfl)⟩
      · exact .inr ⟨handle, rfl, reply, begins.trans (by rw [← shows.value]; rfl)⟩

/-- What every run of a machine has brought to those who watch it. -/
structure Follows
    (events : List Event)
    (final : Watched) :
    Prop where
  since :
    ∀ index subscription, final.machine.cell.subscription? index = some subscription →
      ∃ earlier handle later between,
        events = earlier ++ .watch (.ask (.subscribe handle)) :: later ∧
          earlier.foldlM step? {} = some between ∧
            (between.shared.perform (.subscribe handle)).1 = .subscription index ∧
              stream events index subscription =
                between.machine.current ::
                  between.returned (.watch (.ask (.subscribe handle)) :: later)
  chain :
    ∀ index subscription, final.machine.cell.subscription? index = some subscription →
      (stream events index subscription).IsChain ConnectionState.Leads
  latest :
    ∀ index subscription, final.machine.cell.subscription? index = some subscription →
      (stream events index subscription).getLast? = some final.machine.current

/-- What an event answers is where the machine is then, and the table leads there. -/
theorem returns_of_step
    (stepped : watched.step? event = some next) :
    (returns (watched, event) = [] ∧ next.machine.current = watched.machine.current) ∨
      returns (watched, event) = [next.machine.current] ∧
        watched.machine.current.Leads next.machine.current := by
  cases event with
  | happen event =>
      obtain rfl := Option.some.inj stepped
      by_cases fits : event.Fits watched.machine.current
      · refine .inr ?_
        rw [returns_of_fits fits, Machine.advance, Machine.apply_of_fits fits]
        exact ⟨rfl, event, fits, rfl⟩
      · refine .inl ?_
        rw [returns_of_misfit fits, Machine.advance, Machine.apply_of_misfit fits]
        exact ⟨rfl, rfl⟩
  | watch step =>
      rw [step?, Option.ite_none_right_eq_some, Option.map_eq_some_iff] at stepped
      obtain ⟨-, shared, -, rfl⟩ := stepped
      exact .inl ⟨rfl, rfl⟩

theorem follows_run (ran : events.foldlM step? {} = some final) : Follows events final := by
  induction ran using foldlM_induction with
  | none => constructor <;> exact nofun
  | snoc events event between final before stepped ih =>
      constructor
      case since =>
        intro index subscription there
        rcases stream_of_step before stepped there with
          ⟨was, known, goesOn⟩ | ⟨handle, rfl, here, begins⟩
        · obtain ⟨earlier, handle, later, moment, rfl, upTo, here, whole⟩ :=
            ih.since index was known
          refine ⟨earlier, handle, later ++ [event], moment, by simp, upTo, here, ?_⟩
          have onwards :
              (Event.watch (.ask (.subscribe handle)) :: later).foldlM step? moment =
                some between := by
            rw [List.foldlM_append, upTo] at before
            exact before
          rw [goesOn, whole, ← List.cons_append, returned_snoc onwards, List.cons_append]
        · refine ⟨events, handle, [], between, rfl, before, here, ?_⟩
          rw [begins, returned_singleton]
          rfl
      case chain =>
        intro index subscription there
        rcases stream_of_step before stepped there with
          ⟨was, known, goesOn⟩ | ⟨handle, rfl, here, begins⟩
        · rw [goesOn]
          rcases returns_of_step stepped with ⟨nothing, -⟩ | ⟨answer, leads⟩
          · rw [nothing, List.append_nil]
            exact ih.chain index was known
          · rw [answer]
            refine (ih.chain index was known).append (List.isChain_singleton _) ?_
            rw [ih.latest index was known]
            simpa using leads
        · rw [begins]
          exact List.isChain_singleton _
      case latest =>
        intro index subscription there
        have moves := returns_of_step stepped
        rcases stream_of_step before stepped there with
          ⟨was, known, goesOn⟩ | ⟨handle, rfl, here, begins⟩
        · rw [goesOn]
          rcases moves with ⟨nothing, same⟩ | ⟨answer, -⟩
          · rw [nothing, List.append_nil, same]
            exact ih.latest index was known
          · rw [answer, List.getLast?_concat]
        · rcases moves with ⟨-, same⟩ | ⟨answer, -⟩
          · rw [begins, same]
            rfl
          · cases answer

/-! ## All together -/

/-- What every event does after a run, and what those who watch have seen. -/
structure Publishes
    (events : List Event)
    (final : Watched) :
    Prop where
  shown : final.machine.cell.value = final.machine.current
  refused :
    ∀ event : ConnectionEvent, ¬ event.Fits final.machine.current →
      final.machine.apply event =
        (.error (.invalidTransition final.machine.current.name event.name), final.machine)
  accepted :
    ∀ event : ConnectionEvent, event.Fits final.machine.current →
      final.machine.apply event =
        (.ok event.target,
          { current := event.target, cell := final.machine.cell.publish event.target })
  since :
    ∀ index subscription, final.machine.cell.subscription? index = some subscription →
      ∃ earlier handle later between,
        events = earlier ++ .watch (.ask (.subscribe handle)) :: later ∧
          earlier.foldlM step? {} = some between ∧
            (between.shared.perform (.subscribe handle)).1 = .subscription index ∧
              stream events index subscription =
                between.machine.current ::
                  between.returned (.watch (.ask (.subscribe handle)) :: later)
  path :
    ∀ index subscription, final.machine.cell.subscription? index = some subscription →
      ConnectionState.IsPath (stream events index subscription)

/-- Whatever happens to a machine, and whenever somebody subscribes, the states that are
published are a path of the table. -/
theorem publishes_of_run (ran : events.foldlM step? {} = some final) :
    Publishes events final where
  shown := (shows_run ran).value
  refused _ misfit := Machine.apply_of_misfit misfit
  accepted _ fits := Machine.apply_of_fits fits
  since := (follows_run ran).since
  path index subscription there := .of_isChain ((follows_run ran).chain index subscription there)

/-- A subscriber that comes while the machine connects, and a refused event. -/
theorem publishes_of_run_lost_connection :
    let events : List Event :=
      [.watch (.ask (.clone 0)), .happen .connectRequested, .watch (.ask (.subscribe 1)),
        .happen .established, .happen .connectRequested, .watch (.ask (.receive 0)),
        .happen (.broke (.transport "reset")), .happen .connectRequested]
    ∃ final subscription,
      events.foldlM step? {} = some final ∧ Publishes events final ∧
        final.machine.cell.subscription? 0 = some subscription ∧
          stream events 0 subscription =
            [.connecting, .connected, .failed (.transport "reset"), .connecting] := by
  intro events
  exact ⟨_, _, rfl, publishes_of_run rfl, rfl, rfl⟩

end Watched

end LineProtocol
