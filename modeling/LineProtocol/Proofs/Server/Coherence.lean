import Mathlib.Data.List.Chain
import LineProtocol.Proofs.Run
import LineProtocol.Proofs.Server.Register
import LineProtocol.Server.Observed

/-!
# What a roster shows is what it knows

A state that is like the one shown is not published, errors apart, and what is
published about one change is published in two parts.  `coherent` says that
nobody who looks can tell: between requests both cells show what the roster
knows, and whenever a list of identities is about to be published, the state that
goes with that list is shown already.  No subscriber receives one state twice in
a row, unless it is an error.

A roster's `bare` form forgets who watches it.  The effects of a request do not
depend on that, so a watched roster goes the way of one that is not watched
(`Follows`).  What subscribers receive is a matter of the state's cell alone
(`Steady`).
-/

namespace LineProtocol

namespace ListeningState

/-- The states can follow each other: they are of different kinds, or errors. -/
def Follows (next earlier : ListeningState) : Prop :=
  next.alike earlier = true → next.cause?.isSome = true

instance (next earlier : ListeningState) : Decidable (Follows next earlier) :=
  inferInstanceAs (Decidable (_ → _))

end ListeningState

namespace Roster

open RosterSession (Request)

/-! ## Effects -/

/-- What a request does is what its effects do. -/
theorem roster_perform
    (session : RosterSession)
    (request : Request) :
    (session.perform request).2.roster =
      (session.roster.effects request).foldl apply session.roster := by
  cases request with
  | add identity channel =>
      rcases session.roster.add_cases { identity, channel := channel.id } with
        ⟨cause, refused⟩ | ⟨-, -, added⟩
      · rw [RosterSession.perform, effects, refused]
        rfl
      · rw [RosterSession.perform, effects, added]
        rfl
  | remove identity channel =>
      rcases session.roster.remove_cases identity channel with
        ignored | ⟨member, -, -, removed⟩
      · rw [RosterSession.perform, effects, ignored]
        rfl
      · rw [RosterSession.perform, effects, removed]
        rfl
  | send identity bytes => exact RosterSession.roster_send session identity bytes
  | _ => rfl

/-- Nothing happens behind the publication of the identities. -/
def EndsShown (effects : List Effect) : Prop :=
  .showIdentities ∉ effects.dropLast

theorem EndsShown.rest
    {effect : Effect}
    {rest : List Effect}
    (ends : EndsShown (effect :: rest)) :
    EndsShown rest := by
  cases rest with
  | nil => exact List.not_mem_nil
  | cons next rest => exact fun there => ends (List.mem_cons_of_mem _ there)

theorem EndsShown.eq_nil
    {rest : List Effect}
    (ends : EndsShown (.showIdentities :: rest)) :
    rest = [] := by
  cases rest with
  | nil => rfl
  | cons next rest => exact absurd List.mem_cons_self ends

theorem endsShown_effects
    (roster : Roster)
    (request : Request) :
    EndsShown (roster.effects request) := by
  cases request with
  | add identity channel =>
      rw [effects]
      split
      · simp [EndsShown]
      · simp [EndsShown]
  | remove identity channel =>
      rw [effects]
      split
      · simp [EndsShown]
      · simp [EndsShown]
  | _ => simp [EndsShown, effects]

/-! ## Who watches does not matter -/

/-- The roster without those who watch it. -/
def bare (roster : Roster) : Roster :=
  { roster with
    state := { value := roster.state.value }
    identities := { value := roster.identities.value } }

theorem bare_publishState (roster : Roster) :
    roster.publishState.bare = roster.bare.publishState := by
  have same : roster.bare.currentState = roster.currentState := rfl
  have shown : roster.bare.state.value = roster.state.value := rfl
  rw [publishState, publishState, same, shown]
  split
  · rfl
  · rfl

theorem bare_apply
    (roster : Roster)
    (effect : Effect) :
    (roster.apply effect).bare = roster.bare.apply effect := by
  cases effect with
  | showState => exact bare_publishState roster
  | _ => rfl

theorem effects_bare
    (roster : Roster)
    (request : Request) :
    roster.bare.effects request = roster.effects request := by
  cases request with
  | add identity channel =>
      have same : ∀ member, (roster.bare.add member).1 = (roster.add member).1 := by
        intro member
        unfold add bare
        grind [member?]
      rw [effects, effects, same]
  | remove identity channel =>
      have same : (roster.bare.remove identity channel).1 = (roster.remove identity channel).1 := by
        unfold remove bare
        grind [member?]
      rw [effects, effects, same]
  | _ => rfl

end Roster

@[simp]
theorem Cell.value_look
    {α : Type}
    (cell : Cell α)
    (look : Look) :
    (cell.look look).2.value = cell.value := by
  cases look with
  | subscribe => rfl
  | leave index => rfl
  | take index =>
      rw [Cell.look]
      split
      · rfl
      · rfl

/-! ## One subscriber -/

/-- What a subscriber has received and what waits for it, where it has come at all: no two
states in a row are alike, errors apart, and one that is still there ends at the state
shown. -/
def Sees
    (shown : ListeningState)
    (received : List ListeningState) :
    Option (Subscription ListeningState) → Prop
  | none => received = []
  | some subscription =>
      (received ++ subscription.pending).IsChain (fun earlier next => next.Follows earlier) ∧
        (subscription.live = true →
          (received ++ subscription.pending).getLast? = some shown)

namespace Sees

variable
  {shown : ListeningState}
  {received : List ListeningState}
  {subscription : Subscription ListeningState}

theorem offer
    {next : ListeningState}
    (sees : Sees shown received (some subscription))
    (follows : next.Follows shown) :
    Sees next received (some (subscription.offer next)) := by
  obtain ⟨chain, last⟩ := sees
  rw [Subscription.offer]
  by_cases live : subscription.live = true
  · rw [if_pos live]
    refine ⟨?_, fun _ => ?_⟩
    · rw [← List.append_assoc]
      refine chain.append (List.isChain_singleton next) ?_
      intro earlier ends later starts
      obtain rfl := Option.some.inj ((last live).symm.trans ends)
      obtain rfl := Option.some.inj starts
      exact follows
    · rw [← List.append_assoc, List.getLast?_concat]
  · rw [if_neg live]
    exact ⟨chain, fun alive => absurd alive live⟩

theorem drop (sees : Sees shown received (some subscription)) :
    Sees shown received (some subscription.drop) := by
  refine ⟨?_, nofun⟩
  rw [Subscription.drop, List.append_nil]
  exact sees.1.left_of_append

theorem receive (sees : Sees shown received (some subscription)) :
    Sees shown (received ++ subscription.receive.1.toList)
      (some subscription.receive.2) := by
  have whole :
      received ++ subscription.receive.1.toList ++ subscription.receive.2.pending =
        received ++ subscription.pending := by
    rw [Subscription.receive]
    cases waits : subscription.pending with
    | nil => simp [waits]
    | cons value rest => simp
  have live : subscription.receive.2.live = subscription.live := by
    rw [Subscription.receive]
    split
    · rfl
    · rfl
  rw [Sees, whole, live]
  exact sees

end Sees

namespace Observed

open Roster (EndsShown)
open RosterSession (fresh)

variable
  {observed : Observed}

/-! ## All subscribers -/

/-- Every subscriber of the state has received what is right. -/
def Steady (observed : Observed) : Prop :=
  ∀ index,
    Sees observed.roster.state.value (observed.received index)
      observed.roster.state.subscriptions[index]?

theorem received_append
    (observed : Observed)
    (roster : Roster)
    (taken : Option (Nat × ListeningState))
    (index : Nat) :
    ({ observed with roster, taken := observed.taken ++ taken.toList }).received index =
      observed.received index ++
        (taken.toList.filterMap fun entry =>
          if entry.1 = index then some entry.2 else none) :=
  List.filterMap_append

theorem filterMap_taken
    (taken : Option ListeningState)
    (taker index : Nat) :
    ((taken.map (taker, ·)).toList.filterMap fun entry =>
        if entry.1 = index then some entry.2 else none) =
      if taker = index then taken.toList else [] := by
  cases taken with
  | none => simp
  | some value =>
      by_cases mine : taker = index
      · simp [mine]
      · simp [mine]

/-- A subscriber who looks sees what it should. -/
theorem Steady.look
    (steady : observed.Steady)
    (look : Look) :
    Steady
      { observed with
        roster := { observed.roster with state := (observed.roster.state.look look).2 }
        taken := observed.taken ++ (observed.roster.state.look look).1.toList } := by
  intro index
  have before := steady index
  rw [received_append]
  simp only [Cell.value_look]
  cases look with
  | subscribe =>
      simp only [Cell.look, Cell.subscribe, Option.toList_none, List.filterMap_nil,
        List.append_nil, List.getElem?_append]
      split
      · exact before
      · rename_i beyond
        rw [List.getElem?_eq_none (Nat.le_of_not_lt beyond)] at before
        rw [show observed.received index = [] from before]
        cases place : index - observed.roster.state.subscriptions.length with
        | zero => exact ⟨List.isChain_singleton _, fun _ => rfl⟩
        | succ more => rfl
  | leave gone =>
      simp only [Cell.look, Cell.unsubscribe, Option.toList_none, List.filterMap_nil,
        List.append_nil, List.getElem?_modify]
      cases there : observed.roster.state.subscriptions[index]? with
      | none =>
          rw [there] at before
          exact before
      | some subscription =>
          rw [there] at before
          by_cases mine : gone = index
          · simpa [mine] using before.drop
          · simpa [mine] using before
  | take taker =>
      rw [Cell.look]
      cases found : observed.roster.state.subscription? taker with
      | none => simpa using before
      | some subscription =>
          have there : observed.roster.state.subscriptions[taker]? = some subscription := by
            rw [Cell.subscription?, Option.filter_eq_some_iff] at found
            exact found.1
          simp only [filterMap_taken, Cell.setSubscription, List.getElem?_set]
          by_cases mine : taker = index
          · subst mine
            rw [there] at before
            have inside := (List.getElem?_eq_some_iff.mp there).1
            simpa [inside] using before.receive
          · simpa [mine] using before

/-- A state that is published follows the one that every subscriber has seen last. -/
theorem Steady.publishState (steady : observed.Steady) :
    Steady { observed with roster := observed.roster.publishState } := by
  have shows : observed.roster.publishState.state =
      if !observed.roster.currentState.alike observed.roster.state.value ||
          observed.roster.currentState.cause?.isSome then
        observed.roster.state.publish observed.roster.currentState
      else observed.roster.state := by
    rw [Roster.publishState]
    split
    · rfl
    · rfl
  intro index
  have before := steady index
  show Sees observed.roster.publishState.state.value (observed.received index)
    observed.roster.publishState.state.subscriptions[index]?
  rw [shows]
  split
  · rename_i told
    rw [Cell.publish, List.getElem?_map]
    cases there : observed.roster.state.subscriptions[index]? with
    | none =>
        rw [there] at before
        exact before
    | some subscription =>
        rw [there] at before
        refine before.offer fun alike => ?_
        simpa [alike] using told
  · exact before

/-! ## Runs -/

/-- The roster goes the way that the requests ask for, and shows it in order. -/
structure Keeping
    (observed : Observed)
    (requests : List RosterSession.Request) : Prop where
  goes :
    observed.left.foldl Roster.apply observed.roster.bare =
      ((fresh [] []).after requests).roster
  ends : EndsShown observed.left
  steady : observed.Steady

theorem keeping_start : Keeping {} [] where
  goes := rfl
  ends := List.not_mem_nil
  steady _ := rfl

theorem Keeping.ask
    {requests : List RosterSession.Request}
    (keeping : observed.Keeping requests)
    (idle : observed.left = [])
    (request : RosterSession.Request) :
    Keeping { observed with left := observed.roster.effects request }
      (requests ++ [request]) where
  goes := by
    have reached := keeping.goes
    rw [idle, List.foldl_nil] at reached
    rw [RosterSession.after, List.foldl_append]
    show _ = (((fresh [] []).after requests).perform request).2.roster
    rw [Roster.roster_perform, ← reached, Roster.effects_bare]
  ends := Roster.endsShown_effects _ _
  steady := keeping.steady

theorem Keeping.work
    {requests : List RosterSession.Request}
    (keeping : observed.Keeping requests)
    {effect : Roster.Effect}
    {left : List Roster.Effect}
    (next : observed.left = effect :: left) :
    Keeping { observed with roster := observed.roster.apply effect, left } requests where
  goes := by
    rw [← keeping.goes, next, List.foldl_cons]
    exact congrArg (left.foldl Roster.apply ·) (Roster.bare_apply _ _)
  ends := by
    have ends := keeping.ends
    rw [next] at ends
    exact ends.rest
  steady := by
    cases effect with
    | showState => exact keeping.steady.publishState
    | _ => exact keeping.steady

theorem Keeping.lookAtState
    {requests : List RosterSession.Request}
    (keeping : observed.Keeping requests)
    (look : Look) :
    Keeping
      { observed with
        roster := { observed.roster with state := (observed.roster.state.look look).2 }
        taken := observed.taken ++ (observed.roster.state.look look).1.toList }
      requests where
  goes := by
    rw [← keeping.goes]
    simp only [Roster.bare, Cell.value_look]
  ends := keeping.ends
  steady := keeping.steady.look look

theorem Keeping.lookAtIdentities
    {requests : List RosterSession.Request}
    (keeping : observed.Keeping requests)
    (look : Look) :
    Keeping
      { observed with
        roster :=
          { observed.roster with identities := (observed.roster.identities.look look).2 } }
      requests where
  goes := by
    rw [← keeping.goes]
    simp only [Roster.bare, Cell.value_look]
  ends := keeping.ends
  steady := keeping.steady

theorem Keeping.step
    {requests : List RosterSession.Request}
    (keeping : observed.Keeping requests)
    {event : Event}
    {next : Observed}
    (stepped : observed.step? event = some next) :
    next.Keeping (requests ++ event.request?.toList) := by
  cases event with
  | ask request =>
      rw [step?] at stepped
      split at stepped
      · rename_i idle
        obtain rfl := Option.some.inj stepped
        exact keeping.ask idle request
      · cases stepped
  | work =>
      rw [step?] at stepped
      split at stepped
      · cases stepped
      · rename_i effect left more
        obtain rfl := Option.some.inj stepped
        exact (List.append_nil requests).symm ▸ keeping.work more
  | lookAtState look =>
      obtain rfl := Option.some.inj stepped
      exact (List.append_nil requests).symm ▸ keeping.lookAtState look
  | lookAtIdentities look =>
      obtain rfl := Option.some.inj stepped
      exact (List.append_nil requests).symm ▸ keeping.lookAtIdentities look

theorem keeping_run
    {events : List Event}
    (ran : events.foldlM step? {} = some observed) :
    observed.Keeping (events.filterMap Event.request?) := by
  induction ran using foldlM_induction with
  | none => exact keeping_start
  | snoc events event between final before stepped ih =>
      have asked :
          (events ++ [event]).filterMap Event.request? =
            events.filterMap Event.request? ++ event.request?.toList := by
        cases request : event.request? with
        | none => simp [request]
        | some request => simp [request]
      rw [asked]
      exact ih.step stepped

/-- What a roster on its way knows, once all that is left is to publish: what it shows, and
what the list of its clients says. -/
theorem Keeping.shown
    {requests : List RosterSession.Request}
    (keeping : observed.Keeping requests)
    {publications : List Roster.Effect}
    (left : observed.left = publications)
    (silent : publications = [] ∨ publications = [.showIdentities]) :
    observed.roster.state.value =
        .derive observed.roster.bound.isSome
          (({} : Register).after requests).identities.length
          observed.roster.shuttingDown observed.roster.fault ∧
      observed.roster.order = (({} : Register).after requests).identities ∧
      (publications = [] → observed.roster.identities.value = observed.roster.order) := by
  have shown : ((fresh [] []).after requests).roster.Shown :=
    RosterSession.shown_after (RosterSession.shown_fresh [] []) requests
  have keeps : ((fresh [] []).after requests).Keeps (({} : Register).after requests) :=
    (RosterSession.keeps_fresh [] []).after requests
  have goes := keeping.goes
  have counted := Roster.size_of_listed shown
  have state := shown.state
  have order := keeps.order
  have identities := shown.identities
  rw [left] at goes
  rw [Roster.currentState, counted] at state
  rw [← order]
  rcases silent with rfl | rfl
  · rw [← goes] at state identities ⊢
    exact ⟨state, rfl, fun _ => identities⟩
  · rw [← goes] at state ⊢
    exact ⟨state, rfl, fun empty => absurd empty (List.cons_ne_nil _ _)⟩

/-- Whatever is asked of a roster and whoever looks at it: between requests the state shown
is the one that follows from what the roster knows, its cause included, and the identities
shown are those of the clients in the order in which they came.  When identities are about
to be published, the state that follows from them is shown already.  No subscriber of the
state receives two states in a row that are alike and no errors. -/
theorem coherent
    {events : List Event}
    {observed : Observed}
    (ran : events.foldlM step? {} = some observed) :
    let register := ({} : Register).after (events.filterMap Event.request?)
    let state := observed.roster.state.value
    let derived :=
      ListeningState.derive observed.roster.bound.isSome register.identities.length
        observed.roster.shuttingDown observed.roster.fault
    (observed.left = [] →
        state = derived ∧ observed.roster.identities.value = register.identities) ∧
      (∀ rest,
        observed.left = .showIdentities :: rest →
          observed.roster.order = register.identities ∧ state = derived) ∧
      ∀ index, (observed.received index).IsChain fun earlier next => next.Follows earlier := by
  intro register state derived
  have keeping : observed.Keeping (events.filterMap Event.request?) := keeping_run ran
  refine ⟨fun idle => ?_, fun rest left => ?_, fun index => ?_⟩
  · obtain ⟨shows, order, listed⟩ := keeping.shown idle (.inl rfl)
    exact ⟨shows, (listed rfl).trans order⟩
  · have ends := keeping.ends
    rw [left] at ends
    obtain rfl := ends.eq_nil
    obtain ⟨shows, order, -⟩ := keeping.shown left (.inr rfl)
    exact ⟨order, shows⟩
  · have sees := keeping.steady index
    cases there : observed.roster.state.subscriptions[index]? with
    | none =>
        rw [there] at sees
        rw [show observed.received index = [] from sees]
        exact List.isChain_nil
    | some subscription =>
        rw [there] at sees
        exact sees.1.left_of_append

/-- A server that is watched listens and lets somebody in, up to where the list of identities
is about to be published. -/
def lettingIn : List Event :=
  [.lookAtState .subscribe, .ask (.bound { ip := .v4 .unspecified, port := 4000 }), .work,
    .work, .ask (.add (.named "anna") { id := ⟨1⟩ }), .work, .work, .lookAtState (.take 0),
    .lookAtState (.take 0), .lookAtState (.take 0)]

theorem coherent_lettingIn :
    ∃ observed,
      lettingIn.foldlM step? {} = some observed ∧
        observed.left = [.showIdentities] ∧
        observed.roster.order = [.named "anna"] ∧
        observed.roster.identities.value = [] ∧
        observed.roster.state.value = .active ∧
        observed.received 0 = [.off, .listening, .active] := by
  obtain ⟨observed, ran⟩ : ∃ observed, lettingIn.foldlM step? {} = some observed :=
    ⟨_, rfl⟩
  have same := ran
  obtain rfl := Option.some.inj same
  obtain ⟨-, publishing, -⟩ := coherent ran
  obtain ⟨order, shows⟩ := publishing [] rfl
  exact ⟨_, ran, rfl, order.trans rfl, rfl, shows.trans rfl, rfl⟩

end Observed

end LineProtocol
