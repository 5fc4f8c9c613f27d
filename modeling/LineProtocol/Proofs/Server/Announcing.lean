import LineProtocol.Proofs.Server.Coherence

/-!
# How often an error is announced

Two error states are alike whatever their causes, so a roster publishes an error
even if the state shown is one already.  That is meant for new errors, but what
is asked is only whether the state is an error, not whether its cause was just
recorded.  So a fault that still stands is published again by whatever else
publishes the state: somebody who comes, somebody who goes, and the end of all
connections.

`announcedOnce_iff` says that this is all: errors are published by those who
record them only, and subscribers receive each cause once, as long as nobody
comes or goes while an error is shown.  `causes_told` has the causes that one
request publishes.
-/

namespace LineProtocol

namespace Roster

/-! ## What a publication says -/

/-- The state that is published where the roster is about to publish it, if it is to be
published at all. -/
def told? (roster : Roster) : Option ListeningState :=
  if !roster.currentState.alike roster.state.value || roster.currentState.cause?.isSome then
    some roster.currentState
  else none

theorem state_publishState (roster : Roster) :
    roster.publishState.state =
      roster.told?.toList.foldl (fun cell state => cell.publish state) roster.state := by
  rw [publishState, told?]
  split
  · rfl
  · rfl

/-- An error is published, whatever is shown. -/
theorem causes_told? (roster : Roster) :
    roster.told?.toList.filterMap ListeningState.cause? =
      roster.currentState.cause?.toList := by
  rw [told?]
  cases cause : roster.currentState.cause? with
  | none =>
      split
      · simp [cause]
      · rfl
  | some fault => simp [cause]

/-- A fault shows unless there is a shutdown. -/
theorem cause?_currentState (roster : Roster) :
    roster.currentState.cause? = if roster.shuttingDown then none else roster.fault := by
  unfold currentState ListeningState.derive
  grind [ListeningState.cause?]

/-- The states that effects publish, in order. -/
def told (roster : Roster) : List Effect → List ListeningState
  | [] => []
  | effect :: effects =>
      (if effect = .showState then roster.told?.toList else []) ++
        told (roster.apply effect) effects

/-- What happens to the state's cell is that these are published. -/
theorem state_foldl
    (roster : Roster)
    (effects : List Effect) :
    (effects.foldl apply roster).state =
      (roster.told effects).foldl (fun cell state => cell.publish state) roster.state := by
  induction effects generalizing roster with
  | nil => rfl
  | cons effect effects ih =>
      rw [List.foldl_cons, ih, told, List.foldl_append]
      cases effect with
      | showState =>
          rw [if_pos rfl, ← state_publishState]
          rfl
      | _ => rfl

theorem bare_foldl
    (roster : Roster)
    (effects : List Effect) :
    (effects.foldl apply roster).bare = effects.foldl apply roster.bare := by
  induction effects generalizing roster with
  | nil => rfl
  | cons effect effects ih => rw [List.foldl_cons, ih, bare_apply, List.foldl_cons]

/-- Nothing else is told where others watch. -/
theorem told_bare
    (roster : Roster)
    (effects : List Effect) :
    roster.bare.told effects = roster.told effects := by
  induction effects generalizing roster with
  | nil => rfl
  | cons effect effects ih =>
      rw [told, told, ← bare_apply, ih]
      rfl

end Roster

namespace RosterSession

/-! ## What requests say -/

/-- The cause that a request records, if it records one. -/
def Request.cause? : Request → Option Fault
  | .recordFault cause => some cause
  | _ => none

/-- The request changes who is there, or takes out whoever is. -/
def Request.Shifts (register : Register) : Request → Prop
  | .add identity _ => register.closing = false ∧ identity ∉ register.identities
  | .remove identity channel =>
      (register.clients.find? (Register.isNamed identity channel)).isSome = true
  | .drain => True
  | _ => False

instance (register : Register) (request : Request) : Decidable (request.Shifts register) :=
  match request with
  | .add _ _ => inferInstanceAs (Decidable (_ ∧ _))
  | .remove _ _ => inferInstanceAs (Decidable (_ = _))
  | .drain => .isTrue trivial
  | .bound _ | .unbound | .recordFault _ | .beginShutdown | .finishShutdown | .get _ | .list
  | .send _ _ => .isFalse not_false

/-- Somebody subscribes to the state. -/
def watch (session : RosterSession) : RosterSession :=
  { session with
    roster := { session.roster with state := session.roster.state.subscribe } }

/-- What somebody has received who subscribes to the state now, takes nothing, and looks
once the requests are done. -/
def heard
    (session : RosterSession)
    (requests : List Request) :
    List ListeningState :=
  match (session.watch.after requests).roster.state.subscriptions.getLast? with
  | none => []
  | some subscription => subscription.pending

/-- Errors are told once: only who records a fault publishes an error, that one, and a
subscriber receives causes that were recorded, in that order and none of them again. -/
structure AnnouncedOnce
    (states : List (Subscription ListeningState))
    (lists : List (Subscription (List Identity)))
    (requests : List Request) : Prop where
  only :
    ∀ earlier request later cause,
      requests = earlier ++ request :: later →
        .failed cause ∈ (((fresh states lists).after earlier).heard [request]).tail →
          request = .recordFault cause
  once :
    ∀ earlier later,
      requests = earlier ++ later →
        ((((fresh states lists).after earlier).heard later).filterMap
          ListeningState.cause?).Sublist (requests.filterMap Request.cause?)

/-- The states that a request publishes, in order. -/
def told
    (session : RosterSession)
    (request : Request) :
    List ListeningState :=
  session.roster.told (session.roster.effects request)

/-- The states that requests publish, in order. -/
def announced (session : RosterSession) : List Request → List ListeningState
  | [] => []
  | request :: requests =>
      session.told request ++ announced (session.perform request).2 requests

variable
  {session other : RosterSession}
  {register : Register}

/-! ## What is heard is what is told -/

theorem state_after
    (session : RosterSession)
    (requests : List Request) :
    (session.after requests).roster.state =
      (session.announced requests).foldl (fun cell state => cell.publish state)
        session.roster.state := by
  induction requests generalizing session with
  | nil => rfl
  | cons request requests ih =>
      show ((session.perform request).2.after requests).roster.state = _
      rw [ih, announced, List.foldl_append, Roster.roster_perform, Roster.state_foldl]
      rfl

/-- Others who watch change nothing. -/
theorem bare_perform
    (same : session.roster.bare = other.roster.bare)
    (request : Request) :
    (session.perform request).2.roster.bare = (other.perform request).2.roster.bare := by
  rw [Roster.roster_perform, Roster.roster_perform, Roster.bare_foldl, Roster.bare_foldl,
    ← Roster.effects_bare session.roster, ← Roster.effects_bare other.roster, same]

theorem announced_of_bare
    (same : session.roster.bare = other.roster.bare)
    (requests : List Request) :
    session.announced requests = other.announced requests := by
  induction requests generalizing session other with
  | nil => rfl
  | cons request requests ih =>
      have told : session.told request = other.told request := by
        rw [RosterSession.told, RosterSession.told, ← Roster.effects_bare session.roster,
          ← Roster.effects_bare other.roster, ← Roster.told_bare session.roster,
          ← Roster.told_bare other.roster, same]
      rw [announced, announced, told, ih (bare_perform same request)]

/-- A subscriber that stays gets all that is published behind what it has. -/
theorem getLast?_publish
    {cell : Cell ListeningState}
    {received : List ListeningState}
    (last : cell.subscriptions.getLast? = some { pending := received })
    (states : List ListeningState) :
    (states.foldl (fun cell state => cell.publish state) cell).subscriptions.getLast? =
      some { pending := received ++ states } := by
  induction states generalizing cell received with
  | nil => rw [List.append_nil]; exact last
  | cons state states ih =>
      have next :
          (cell.publish state).subscriptions.getLast? =
            some { pending := received ++ [state] } := by
        rw [Cell.publish, List.getLast?_map, last]
        rfl
      rw [List.foldl_cons, ih next, List.append_assoc]
      rfl

/-- Whoever watches from now on receives the state shown and then what is published. -/
theorem heard_eq
    (session : RosterSession)
    (requests : List Request) :
    session.heard requests = session.roster.state.value :: session.announced requests := by
  have last :
      session.watch.roster.state.subscriptions.getLast? =
        some { pending := [session.roster.state.value] } := List.getLast?_concat
  have same : session.watch.announced requests = session.announced requests :=
    announced_of_bare (show session.watch.roster.bare = session.roster.bare from rfl) requests
  rw [heard, state_after, getLast?_publish last, same]
  rfl

/-! ## Causes -/

/-- Changes with one publication of the state behind them, and at most one of the
identities, tell the cause of the roster that they make. -/
theorem causes_told_changes
    {roster : Roster}
    (changes rest : List Roster.Effect)
    (silent : .showState ∉ changes)
    (ends : .showState ∉ rest) :
    (roster.told (changes ++ .showState :: rest)).filterMap ListeningState.cause? =
      (changes.foldl Roster.apply roster).currentState.cause?.toList := by
  have nothing : ∀ {roster : Roster}, roster.told rest = [] := by
    intro roster
    induction rest generalizing roster with
    | nil => rfl
    | cons effect rest ih =>
        rw [List.mem_cons, not_or] at ends
        rw [Roster.told, if_neg fun same => ends.1 same.symm, ih ends.2]
        rfl
  induction changes generalizing roster with
  | nil =>
      rw [List.nil_append, Roster.told, if_pos rfl, nothing, List.append_nil,
        Roster.causes_told?]
      rfl
  | cons change changes ih =>
      rw [List.mem_cons, not_or] at silent
      rw [List.cons_append, Roster.told, if_neg fun same => silent.1 same.symm,
        List.nil_append, ih silent.2]
      rfl

/-- Who is let in by the roster is let in by the list. -/
theorem effects_add
    (keeps : session.Keeps register)
    (identity : Identity)
    (channel : Channel) :
    session.roster.effects (.add identity channel) =
      if Request.Shifts register (.add identity channel) then
        [.enrol { identity, channel := channel.id }, .showState, .showIdentities]
      else [] := by
  have answer :
      Reply.added (session.roster.add { identity, channel := channel.id }).1 =
        (register.perform (.add identity channel)).1 := (keeps.add identity channel).1
  rw [Register.perform] at answer
  by_cases closing : register.closing = true
  · rw [if_pos closing] at answer
    have shut : ¬ Request.Shifts register (.add identity channel) :=
      fun shifts => Bool.eq_false_iff.mp shifts.1 closing
    rw [Roster.effects, Reply.added.inj answer, if_neg shut]
  · rw [if_neg closing] at answer
    by_cases known : identity ∈ register.identities
    · rw [if_pos known] at answer
      have taken : ¬ Request.Shifts register (.add identity channel) :=
        fun shifts => shifts.2 known
      rw [Roster.effects, Reply.added.inj answer, if_neg taken]
    · rw [if_neg known] at answer
      rw [Roster.effects, Reply.added.inj answer,
        if_pos (show Request.Shifts register (.add identity channel) from
          ⟨Bool.eq_false_iff.mpr closing, known⟩)]

/-- Who leaves the roster leaves the list. -/
theorem effects_remove
    (keeps : session.Keeps register)
    (identity : Identity)
    (channel : ChannelId) :
    session.roster.effects (.remove identity channel) =
      if Request.Shifts register (.remove identity channel) then
        [.strike identity, .showState, .showIdentities]
      else [] := by
  have answer :
      Reply.member (session.roster.remove identity channel).1 =
        .member ((register.clients.find? (Register.isNamed identity channel)).map
          Register.entry) := (keeps.remove identity channel).1
  rw [Roster.effects, Reply.member.inj answer]
  cases found : register.clients.find? (Register.isNamed identity channel) with
  | none => simp [Request.Shifts, found]
  | some client => simp [Request.Shifts, found]

/-- The causes that a request publishes.  Whoever comes or goes publishes the fault that
still stands, and so does whoever takes everybody out. -/
theorem causes_told
    (keeps : session.Keeps register)
    (request : Request) :
    (session.told request).filterMap ListeningState.cause? =
      if request.Shifts register then session.roster.currentState.cause?.toList
      else if register.closing then [] else request.cause?.toList := by
  rw [told]
  cases request with
  | bound address =>
      refine (causes_told_changes [.bind (some address)] [] (by simp) (by simp)).trans ?_
      simp [Roster.cause?_currentState, Roster.apply, Request.cause?, Request.Shifts]
  | unbound =>
      refine (causes_told_changes [.bind none] [] (by simp) (by simp)).trans ?_
      simp [Roster.cause?_currentState, Roster.apply, Request.cause?, Request.Shifts]
  | recordFault cause =>
      refine (causes_told_changes [.blame cause] [] (by simp) (by simp)).trans ?_
      rw [if_neg (show ¬ Request.Shifts register (.recordFault cause) from not_false),
        ← keeps.closing, Roster.cause?_currentState]
      exact apply_ite Option.toList _ none (some cause)
  | beginShutdown =>
      refine (causes_told_changes [.shut true] [] (by simp) (by simp)).trans ?_
      simp [Roster.cause?_currentState, Roster.apply, Request.cause?, Request.Shifts]
  | finishShutdown =>
      refine (causes_told_changes [.shut false, .bind none] [] (by simp) (by simp)).trans ?_
      simp [Roster.cause?_currentState, Roster.apply, Request.cause?, Request.Shifts]
  | add identity channel =>
      rw [effects_add keeps]
      split
      · refine (causes_told_changes [.enrol _] [.showIdentities] (by simp) (by simp)).trans ?_
        simp [Roster.cause?_currentState, Roster.apply]
      · simp [Roster.told, Request.cause?]
  | remove identity channel =>
      rw [effects_remove keeps]
      split
      · refine (causes_told_changes [.strike _] [.showIdentities] (by simp) (by simp)).trans ?_
        simp [Roster.cause?_currentState, Roster.apply]
      · simp [Roster.told, Request.cause?]
  | drain =>
      refine (causes_told_changes [.clear] [.showIdentities] (by simp) (by simp)).trans ?_
      simp [Roster.cause?_currentState, Roster.apply, Request.Shifts]
  | get identity => simp [Roster.effects, Roster.told, Request.Shifts, Request.cause?]
  | list => simp [Roster.effects, Roster.told, Request.Shifts, Request.cause?]
  | send identity bytes => simp [Roster.effects, Roster.told, Request.Shifts, Request.cause?]

/-! ## Announcing -/

/-- Nobody comes or goes while an error is shown. -/
def Quiet
    (session : RosterSession)
    (register : Register)
    (requests : List Request) : Prop :=
  ∀ earlier request later,
    requests = earlier ++ request :: later →
      request.Shifts (register.after earlier) →
        (session.after earlier).roster.state.value.cause? = none

theorem Quiet.early
    {earlier later : List Request}
    (quiet : session.Quiet register (earlier ++ later)) :
    session.Quiet register earlier := by
  rintro first request rest rfl
  refine quiet first request (rest ++ later) ?_
  rw [List.append_assoc, List.cons_append]

theorem Quiet.late
    {earlier later : List Request}
    (quiet : session.Quiet register (earlier ++ later)) :
    (session.after earlier).Quiet (register.after earlier) later := by
  rintro first request rest rfl shifts
  rw [Register.after, Register.after, ← List.foldl_append] at shifts
  rw [after, after, ← List.foldl_append]
  exact quiet (earlier ++ first) request rest (List.append_assoc ..).symm shifts

/-- Then a request publishes the cause that it records, or none. -/
theorem causes_told_sublist
    (keeps : session.Keeps register)
    (shown : session.roster.Shown)
    {request : Request}
    (calm : request.Shifts register → session.roster.state.value.cause? = none) :
    ((session.told request).filterMap ListeningState.cause?).Sublist
      request.cause?.toList := by
  rw [causes_told keeps]
  split
  · rename_i shifts
    rw [← shown.state, calm shifts]
    exact List.nil_sublist _
  · split
    · exact List.nil_sublist _
    · exact List.Sublist.refl _

theorem causes_announced_sublist
    (keeps : session.Keeps register)
    (shown : session.roster.Shown)
    {requests : List Request}
    (quiet : session.Quiet register requests) :
    ((session.announced requests).filterMap ListeningState.cause?).Sublist
      (requests.filterMap Request.cause?) := by
  induction requests generalizing session register with
  | nil => exact List.nil_sublist _
  | cons request requests ih =>
      have first := causes_told_sublist keeps shown (quiet [] request requests rfl)
      have rest :=
        ih (keeps.perform request).2 (shown_perform shown request)
          (show session.Quiet register ([request] ++ requests) from quiet).late
      have causes :
          (request :: requests).filterMap Request.cause? =
            request.cause?.toList ++ requests.filterMap Request.cause? := by
        cases cause : request.cause? with
        | none => simp [cause]
        | some fault => simp [cause]
      rw [announced, List.filterMap_append, causes]
      exact first.append rest

theorem value_foldl_publish
    (states : List ListeningState)
    (cell : Cell ListeningState) :
    (states.foldl (fun cell state => cell.publish state) cell).value = cell.value ∨
      (states.foldl (fun cell state => cell.publish state) cell).value ∈ states := by
  induction states using List.reverseRecOn with
  | nil => exact .inl rfl
  | append_singleton states state _ =>
      rw [List.foldl_append]
      exact .inr (List.mem_append_right states (List.mem_singleton_self state))

/-- The error that is shown was announced. -/
theorem cause?_shown
    {states : List (Subscription ListeningState)}
    {lists : List (Subscription (List Identity))}
    (requests : List Request) :
    (((fresh states lists).after requests).roster.state.value.cause?.toList).Sublist
      (((fresh states lists).announced requests).filterMap ListeningState.cause?) := by
  cases cause : ((fresh states lists).after requests).roster.state.value.cause? with
  | none => exact List.nil_sublist _
  | some fault =>
      rw [Option.toList_some, List.singleton_sublist, List.mem_filterMap]
      refine ⟨_, ?_, cause⟩
      rw [state_after] at cause ⊢
      rcases value_foldl_publish ((fresh states lists).announced requests)
        (fresh states lists).roster.state with same | told
      · rw [same] at cause
        cases cause
      · exact told

/-- The state that is shown is the one that the roster has, and the clients are on a list. -/
theorem keeps_shown_after
    (states : List (Subscription ListeningState))
    (lists : List (Subscription (List Identity)))
    (earlier : List Request) :
    ((fresh states lists).after earlier).Keeps (({} : Register).after earlier) ∧
      ((fresh states lists).after earlier).roster.Shown :=
  ⟨(keeps_fresh states lists).after earlier, shown_after (shown_fresh states lists) earlier⟩

variable
  {states : List (Subscription ListeningState)}
  {lists : List (Subscription (List Identity))}
  {requests : List Request}

/-- Whoever comes or goes while an error is shown publishes it again. -/
theorem AnnouncedOnce.quiet
    (announced : AnnouncedOnce states lists requests) :
    (fresh states lists).Quiet {} requests := by
  intro earlier request later split shifts
  by_contra fails
  obtain ⟨cause, stands⟩ := Option.ne_none_iff_exists'.mp fails
  obtain ⟨keeps, shown⟩ := keeps_shown_after states lists earlier
  have causes := causes_told keeps request
  rw [if_pos shifts, ← shown.state, stands] at causes
  have told :
      cause ∈ (((fresh states lists).after earlier).told request).filterMap
        ListeningState.cause? := by
    rw [causes]
    exact List.mem_singleton_self cause
  obtain ⟨state, published, same⟩ := List.mem_filterMap.mp told
  obtain rfl : state = .failed cause := by
    cases state with
    | failed other => rw [ListeningState.cause?, Option.some.injEq] at same; rw [same]
    | _ => cases same
  have records := announced.only earlier request later cause split
  rw [heard_eq, List.tail_cons, RosterSession.announced, RosterSession.announced,
    List.append_nil] at records
  rw [records published] at shifts
  exact shifts

/-- Otherwise errors are published by those who record them, once each. -/
theorem Quiet.announcedOnce
    (quiet : (fresh states lists).Quiet {} requests) :
    AnnouncedOnce states lists requests where
  only := by
    intro earlier request later cause split published
    obtain ⟨keeps, shown⟩ := keeps_shown_after states lists earlier
    rw [heard_eq, List.tail_cons, announced, announced, List.append_nil] at published
    have calm := causes_told_sublist keeps shown (quiet earlier request later split)
    have recorded := calm.subset (List.mem_filterMap.mpr ⟨_, published, rfl⟩)
    cases request with
    | recordFault other =>
        rw [Request.cause?, Option.toList_some, List.mem_singleton] at recorded
        rw [recorded]
    | _ => cases recorded
  once := by
    rintro earlier later rfl
    obtain ⟨keeps, shown⟩ := keeps_shown_after states lists earlier
    have before :=
      causes_announced_sublist (keeps_fresh states lists) (shown_fresh states lists) quiet.early
    have behind := causes_announced_sublist keeps shown quiet.late
    have value := (cause?_shown earlier).trans before
    rw [heard_eq, List.filterMap_append]
    refine List.Sublist.trans ?_ (value.append behind)
    cases cause : ((fresh states lists).after earlier).roster.state.value.cause? with
    | none => simp [cause]
    | some fault => simp [cause]

/-- Whatever is asked of a roster and whoever watches it: errors are told once if and only if
nobody comes or goes, and not everybody is taken out, while an error is shown.  A fault that
stands is published again by each of these. -/
theorem announcedOnce_iff
    (states : List (Subscription ListeningState))
    (lists : List (Subscription (List Identity)))
    (requests : List Request) :
    AnnouncedOnce states lists requests ↔ (fresh states lists).Quiet {} requests :=
  ⟨AnnouncedOnce.quiet, Quiet.announcedOnce⟩

/-- A server lets somebody in, stops listening, and cannot bind the next listener. -/
def failsToListen : List Request :=
  [.bound { ip := .v4 .unspecified, port := 4000 }, .add (.named "anna") { id := ⟨2⟩ },
    .unbound, .recordFault (.bind { ip := .v4 .unspecified, port := 4001 } "address in use")]

/-- Whoever leaves then publishes the error again. -/
theorem not_always_announcedOnce :
    ¬ AnnouncedOnce [] [] (failsToListen ++ [.remove (.named "anna") ⟨2⟩]) := by
  intro announced
  cases
    announced.only failsToListen (.remove (.named "anna") ⟨2⟩) []
      (.bind { ip := .v4 .unspecified, port := 4001 } "address in use") rfl (by decide)

end RosterSession

end LineProtocol
