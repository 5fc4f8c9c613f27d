import LineProtocol.Engine.Session
import LineProtocol.Proofs.Engine.Homes

/-!
# What a session shows of its ends

All that a session does to its engine are events of a `Usage`.  What holds of an engine in
use therefore holds in every session, and what a handler is told is the beginning of a
`Life`.

A step shows of an end what its handler was told since the step before.  What was told stays
told, so the views of an end, one after the other, are all that its handler was told:
nothing is shown twice, and nothing is left out.
-/

namespace LineProtocol

namespace Usage

variable
  {settings : EngineSettings}
  {usage next final : Usage}
  {event : Event}
  {earlier later events : List Event}
  {id : ChannelId}

/-- Nobody loses a handle. -/
theorem held_subset_step (stepped : usage.step? event = some next) : usage.held ⊆ next.held := by
  cases moves_step stepped with
  | connects => exact List.subset_append_left _ _
  | accepts => exact List.subset_append_left _ _
  | binds more new => exact List.Subset.refl _
  | hands shown => exact List.Subset.refl _
  | closes about mail settled => exact List.Subset.refl _
  | goes mail => exact List.Subset.refl _

theorem held_subset_run
    (ran : events.foldlM step? usage = some final) :
    usage.held ⊆ final.held := by
  induction ran using foldlM_induction with
  | none => exact List.Subset.refl _
  | snoc events event between final before stepped ih =>
      exact List.Subset.trans ih (held_subset_step stepped)

/-- What a handler was told it stays told. -/
theorem prefix_told_run
    (before : earlier.foldlM step? (.start settings) = some usage)
    (known : usage.Knows id)
    (ran : later.foldlM step? usage = some final) :
    usage.told id <+: final.told id := by
  obtain ⟨worker, home⟩ := exists_home before known
  have there :
      final.engine.workers[final.engine.home id]? =
        some (worker.after (usage.journal later (usage.engine.home id))) := by
    rw [Engine.home, home_of_run before known ran]
    exact worker_of_run home ran
  rw [told_home before home, told_home (foldlM_append_of_run before ran) there]
  exact Worker.prefix_told_after worker _ id

/-- What a handler was told is the beginning of a life. -/
theorem exists_life_of_run
    (ran : events.foldlM step? (.start settings) = some final)
    (known : final.Knows id) :
    ∃ life, Callback.Life life ∧ final.told id <+: life := by
  obtain ⟨worker, home⟩ := exists_home ran known
  rw [told_home ran home]
  obtain ⟨-, rfl⟩ := worker_of_ran ran home
  have distinct := (routed_run ran).nodup_bringing (final.engine.home id)
  exact ((Worker.standing_after _ _ distinct).lively id).exists_life

end Usage

namespace EngineSession

/-! ## From one session to another -/

/-- Every end has a handle that somebody holds. -/
def Held (session : EngineSession) : Prop :=
  ∀ side ∈ session.ends, side.channel ∈ session.usage.held

/-- Between two sessions there is a run of the engine.  An end that was there still is, and
was brought something at most; one that was added was not shown anything. -/
structure Goes (before after : EngineSession) : Prop where
  run :
    ∃ events : List Usage.Event,
      events.foldlM Usage.step? before.usage = some after.usage
  kept :
    ∀ (index : Nat) (side : End), before.ends[index]? = some side →
      ∃ brought : Nat, after.ends[index]? = some { side with brought }
  fresh :
    ∀ (index : Nat) (side : End), before.ends[index]? = none →
      after.ends[index]? = some side →
      side.shown = 0
  held : Held before → Held after

variable
  {before between after session : EngineSession}

theorem goes_of_eq
    (usage : after.usage = before.usage)
    (ends : after.ends = before.ends) :
    Goes before after where
  run := ⟨[], congrArg some usage.symm⟩
  kept index side there := ⟨side.brought, by rw [ends, there]⟩
  fresh index side absent there := by
    rw [ends, absent] at there
    cases there
  held holds := by
    rw [Held, usage, ends]
    exact holds

theorem Goes.refl (session : EngineSession) : Goes session session :=
  goes_of_eq rfl rfl

theorem Goes.trans
    (first : Goes before between)
    (second : Goes between after) :
    Goes before after where
  run := by
    obtain ⟨earlier, ran⟩ := first.run
    obtain ⟨later, further⟩ := second.run
    exact ⟨earlier ++ later, foldlM_append_of_run ran further⟩
  kept index side there := by
    obtain ⟨brought, still⟩ := first.kept index side there
    exact second.kept index { side with brought } still
  fresh index side absent there := by
    cases found : between.ends[index]? with
    | none => exact second.fresh index side found there
    | some new =>
        obtain ⟨brought, still⟩ := second.kept index new found
        rw [there, Option.some.injEq] at still
        subst still
        exact first.fresh index new absent found
  held := second.held ∘ first.held

/-- The session that was answered is one to which the engine ran. -/
theorem Goes.answered
    (goes : Goes before between)
    {given reply : Reply}
    (same : some (given, between) = some (reply, after)) :
    Goes before after := by
  obtain ⟨-, rfl⟩ := Prod.mk.inj (Option.some.inj same)
  exact goes

theorem Goes.held_subset
    (goes : Goes before after) :
    before.usage.held ⊆ after.usage.held := by
  obtain ⟨events, ran⟩ := goes.run
  exact Usage.held_subset_run ran

theorem goes_happen
    (session : EngineSession)
    (event : Usage.Event) :
    Goes session (session.happen event) := by
  cases stepped : session.usage.step? event with
  | none =>
      apply goes_of_eq
      · rw [happen, stepped]
        rfl
      · rfl
  | some next =>
      have same : (session.happen event).usage = next := by
        rw [happen, stepped]
        rfl
      constructor
      case run =>
        refine ⟨[event], ?_⟩
        rw [same, List.foldlM_cons, stepped]
        rfl
      case kept => exact fun index side there => ⟨side.brought, there⟩
      case fresh =>
        intro index side absent there
        cases absent.symm.trans there
      case held =>
        intro holds side there
        rw [same]
        exact Usage.held_subset_step stepped (holds side there)

theorem Goes.happen
    (goes : Goes before between)
    (event : Usage.Event) :
    Goes before (between.happen event) :=
  goes.trans (goes_happen between event)

/-- A pair of ends whose handles are held is added. -/
theorem goes_join
    (session : EngineSession)
    (first second : End)
    (unseen : first.shown = 0 ∧ second.shown = 0)
    (holds : first.channel ∈ session.usage.held ∧ second.channel ∈ session.usage.held) :
    Goes session (session.join first second) where
  run := ⟨[], rfl⟩
  kept index side there := by
    refine ⟨side.brought, ?_⟩
    rw [join, List.getElem?_append_left (List.getElem?_eq_some_iff.mp there).choose]
    exact there
  fresh index side absent there := by
    rw [join, List.getElem?_append_right (List.getElem?_eq_none_iff.mp absent)] at there
    rcases List.mem_pair.mp (List.mem_of_getElem? there) with rfl | rfl
    · exact unseen.1
    · exact unseen.2
  held all := by
    intro side there
    rcases List.mem_append.mp there with old | new
    · exact all side old
    · rcases List.mem_pair.mp new with rfl | rfl
      · exact holds.1
      · exact holds.2

/-! ## What happens by itself -/

theorem goes_work
    (attempt : Except String Unit)
    (session : EngineSession)
    (index : Nat) :
    Goes session (session.work attempt index) := by
  rw [work]
  generalize ((session.engine.workers[index]?.map (·.remaining)).getD 0) = steps
  induction steps with
  | zero => exact .refl session
  | succ steps ih =>
      apply ih.trans
      rw [Nat.repeat, advance]
      split
      · exact .refl _
      · exact goes_happen _ _

/-- An end that is there is brought something. -/
theorem goes_bring
    {index : Nat}
    {side : End}
    (there : session.ends[index]? = some side)
    (brought : Nat) :
    Goes session { session with ends := session.ends.set index { side with brought } } where
  run := ⟨[], rfl⟩
  kept other same found := by
    by_cases here : index = other
    · subst here
      obtain rfl := Option.some.inj (there.symm.trans found)
      exact ⟨brought, List.getElem?_set_self (List.getElem?_eq_some_iff.mp there).choose⟩
    · exact ⟨same.brought, by rw [List.getElem?_set_ne here, found]⟩
  fresh other new absent found := by
    by_cases here : index = other
    · subst here
      cases absent.symm.trans there
    · rw [List.getElem?_set_ne here, absent] at found
      cases found
  held holds := by
    intro other found
    rcases List.mem_or_eq_of_mem_set found with old | rfl
    · exact holds other old
    · exact holds side (List.mem_of_getElem? there)

theorem goes_deliver
    (session : EngineSession)
    (index : Nat) :
    Goes session (session.deliver index) := by
  rw [deliver]
  split
  · rename_i side other there opposite
    split
    · exact (goes_bring there _).trans (goes_happen _ _)
    · exact .refl session
  · exact .refl session

theorem goes_settle
    (session : EngineSession)
    (attempt : Except String Unit) :
    Goes session (session.settle attempt) := by
  have worked : Goes session
      ((List.range session.engine.workers.length).foldl (work attempt) session) := by
    refine List.foldlRecOn _ _ (.refl session) fun given goes index _ => ?_
    exact goes.trans (goes_work attempt given index)
  rw [settle]
  refine List.foldlRecOn _ _ worked fun given goes index _ => ?_
  exact goes.trans (goes_deliver given index)

theorem Goes.settle
    (goes : Goes before between)
    (attempt : Except String Unit) :
    Goes before (between.settle attempt) :=
  goes.trans (goes_settle between attempt)

/-- The listener can be exchanged. -/
theorem Goes.listener
    (goes : Goes before between)
    (listener : Option Listener) :
    Goes before { between with listener } :=
  goes.trans (goes_of_eq rfl rfl)

/-! ## Requests -/

/-- Whoever connects holds the next handle. -/
theorem mem_held_connect
    (session : EngineSession)
    (address : SocketAddress) :
    session.nextChannel ∈ (session.happen (.connect address)).usage.held := by
  obtain ⟨workers, frame⟩ := session.usage.engine.connect_frame address
  rw [happen, Usage.step?, frame]
  exact List.mem_append_right _ (List.mem_singleton.mpr rfl)

/-- Whoever accepts holds the next handle. -/
theorem mem_held_accept
    {listener : ChannelId}
    (accepts : session.usage.accepts listener = true)
    (peer : SocketAddress) :
    session.nextChannel ∈ (session.happen (.accept listener peer)).usage.held := by
  obtain ⟨workers, frame⟩ := session.usage.engine.accept_frame peer
  rw [happen, Usage.step?, if_pos accepts, frame]
  exact List.mem_append_right _ (List.mem_singleton.mpr rfl)

theorem goes_connectRefused (session : EngineSession) :
    Goes session session.connectRefused := by
  have asked := goes_happen session (.connect localAddress)
  have holds := session.mem_held_connect localAddress
  have joined :=
    goes_join (session.happen (.connect localAddress))
      { channel := session.nextChannel }
      { channel := session.nextChannel, present := false } ⟨rfl, rfl⟩ ⟨holds, holds⟩
  exact (asked.trans joined).settle _

theorem goes_connectAccepted?
    {listener : Listener}
    (accepted : session.connectAccepted? listener = some after) :
    Goes session after := by
  have asked := goes_happen session (.connect listener.address)
  have dialled : Goes (session.happen (.connect listener.address)) (session.dial listener) :=
    ((Goes.refl _).settle (.ok ())).happen (.report session.nextChannel {})
  have took := goes_happen (session.dial listener) (.accept listener.id localAddress)
  rw [connectAccepted?] at accepted
  split at accepted
  · rename_i accepts
    obtain rfl := Option.some.inj accepted
    have first := took.held_subset (dialled.held_subset (session.mem_held_connect _))
    have second := mem_held_accept accepts localAddress
    have joined :=
      goes_join ((session.dial listener).happen (.accept listener.id localAddress))
        { channel := session.nextChannel }
        { channel := (session.dial listener).nextChannel } ⟨rfl, rfl⟩ ⟨first, second⟩
    exact ((((asked.trans dialled).trans took).trans joined).happen _).settle _
  · cases accepted

theorem goes_connect?
    (connected : session.connect? = some after) :
    Goes session after := by
  rw [connect?] at connected
  split at connected
  · obtain rfl := Option.some.inj connected
    exact session.goes_connectRefused
  · split at connected
    · obtain rfl := Option.some.inj connected
      exact session.goes_connectRefused
    · split at connected
      · exact goes_connectAccepted? connected
      · cases connected

theorem goes_atEnd
    {index : Nat}
    {event : ChannelId → Usage.Event}
    {replies : ChannelId → EngineSession → Reply}
    {reply : Reply}
    (asked : session.atEnd index event replies = some (reply, after)) :
    Goes session after := by
  rw [atEnd, Option.map_eq_some_iff] at asked
  obtain ⟨side, there, same⟩ := asked
  obtain ⟨-, rfl⟩ := Prod.mk.inj same
  exact ((Goes.refl session).happen _).settle _

/-- A request makes of a session what its engine makes of itself. -/
theorem goes_perform?
    {request : Step}
    {reply : Reply}
    (performed : session.perform? request = some (reply, after)) :
    Goes session after := by
  cases request with
  | bind =>
      have bound := goes_happen session (.bind localAddress)
      simp only [perform?] at performed
      split at performed
      · exact ((bound.listener _).settle _).answered performed
      · exact bound.answered performed
  | closeListener =>
      simp only [perform?] at performed
      split at performed
      · exact (Goes.refl session).answered performed
      · rename_i listener bound
        have asked := goes_happen session (.closeListener listener)
        exact ((asked.listener none).settle _).answered performed
  | connect =>
      obtain ⟨connected, came, same⟩ := Option.map_eq_some_iff.mp performed
      obtain ⟨-, rfl⟩ := Prod.mk.inj same
      exact goes_connect? came
  | resume index | write index bytes | close index =>
      rw [perform?] at performed
      exact goes_atEnd performed
  | shutdown =>
      exact (((Goes.refl session).happen _).settle _).answered performed

/-! ## What was shown -/

/-- Makes a step, and adds what it shows to what the steps before it showed. -/
def play?
    (played : List Entry × EngineSession)
    (request : Step) :
    Option (List Entry × EngineSession) :=
  (played.2.step? request).map fun (entry, after) => (played.1 ++ [entry], after)

/-- The views of an end, in order. -/
def views
    (entries : List Entry)
    (index : Nat) :
    List EndView :=
  entries.filterMap (·.ends[index]?)

/-- The views together are what a handler was told. -/
structure Tells
    (views : List EndView)
    (told : List Callback) : Prop where
  events : views.flatMap (·.events) = told.filter (·.chunk?.isNone)
  read : views.flatMap (·.read) = (told.filterMap (·.chunk?)).flatten

/-- After the steps of a session, all that happened was shown. -/
structure Shown
    (settings : EngineSettings)
    (played : List Entry × EngineSession) : Prop where
  run :
    ∃ events : List Usage.Event,
      events.foldlM Usage.step? (.start settings) = some played.2.usage
  held : Held played.2
  told :
    ∀ (index : Nat) (side : End), played.2.ends[index]? = some side →
      side.shown = (played.2.told side).length ∧
        Tells (views played.1 index) (played.2.told side)
  later : ∀ index : Nat, played.2.ends[index]? = none → views played.1 index = []

variable
  {settings : EngineSettings}
  {played next : List Entry × EngineSession}

/-- One more view tells what was told since the last one. -/
theorem Tells.view
    {views : List EndView}
    {side : End}
    {old : List Callback}
    (tells : Tells views old)
    (shown : side.shown = old.length)
    (longer : old <+: session.told side) :
    Tells (views ++ [session.view side]) (session.told side) := by
  obtain ⟨more, whole⟩ := longer
  have rest : (session.told side).drop side.shown = more := by
    rw [← whole, shown, List.drop_left]
  constructor
  · rw [List.flatMap_append, tells.events, ← whole, List.filter_append, EngineSession.view, rest]
    simp
  · rw [List.flatMap_append, tells.read, ← whole,
      List.filterMap_append, EngineSession.view, rest]
    simp

/-- What the handler of an end was told it stays told. -/
theorem prefix_told
    {side : End}
    {events : List Usage.Event}
    (ran : events.foldlM Usage.step? (.start settings) = some session.usage)
    (holds : side.channel ∈ session.usage.held)
    (goes : Goes session after)
    (brought : Nat) :
    session.told side <+: after.told { side with brought } := by
  obtain ⟨later, further⟩ := goes.run
  have known := (Usage.routed_run ran).held side.channel holds
  rw [told, told]
  split
  · exact Usage.prefix_told_run ran known further
  · exact List.prefix_rfl

theorem Shown.step
    (shown : Shown settings played)
    {request : Step}
    (plays : play? played request = some next) :
    Shown settings next := by
  obtain ⟨entries, session⟩ := played
  rw [play?, Option.map_eq_some_iff] at plays
  obtain ⟨⟨entry, final⟩, steps, rfl⟩ := plays
  rw [step?, Option.map_eq_some_iff] at steps
  obtain ⟨⟨reply, after⟩, performed, same⟩ := steps
  obtain ⟨rfl, rfl⟩ := Prod.mk.inj same
  have goes := goes_perform? performed
  obtain ⟨events, ran⟩ := shown.run
  obtain ⟨later, further⟩ := goes.run
  have viewed (index : Nat) :
      views (entries ++ [⟨reply, after.ends.map after.view, after.engine.shutDown⟩]) index =
        views entries index ++ (after.ends[index]?.map after.view).toList := by
    rw [views, List.filterMap_append, ← views]
    cases there : after.ends[index]? with
    | none => simp [there]
    | some side => simp [there]
  constructor
  case run => exact ⟨events ++ later, foldlM_append_of_run ran further⟩
  case held =>
    intro side there
    obtain ⟨before, found, rfl⟩ := List.mem_map.mp there
    exact goes.held shown.held before found
  case told =>
    intro index side there
    rw [seen, List.getElem?_map, Option.map_eq_some_iff] at there
    obtain ⟨side, found, rfl⟩ := there
    refine ⟨rfl, ?_⟩
    show Tells _ (after.told side)
    rw [viewed, found]
    cases old : session.ends[index]? with
    | none =>
        have nothing : Tells [] [] := ⟨rfl, rfl⟩
        rw [shown.later index old]
        exact nothing.view (goes.fresh index side old found) List.nil_prefix
    | some before =>
        obtain ⟨brought, still⟩ := goes.kept index before old
        obtain rfl := Option.some.inj (found.symm.trans still)
        obtain ⟨length, tells⟩ := shown.told index before old
        apply tells.view length
        exact prefix_told ran (shown.held before (List.mem_of_getElem? old)) goes brought
  case later =>
    intro index absent
    rw [seen, List.getElem?_map, Option.map_eq_none_iff] at absent
    rw [viewed, absent, shown.later index ?_]
    · rfl
    · cases old : session.ends[index]? with
      | none => rfl
      | some before =>
          obtain ⟨brought, still⟩ := goes.kept index before old
          cases absent.symm.trans still

/-- Whatever is asked of an engine that talks to itself, it goes the way of an engine in use.
The views of an end, in order, are all that its handler was told, and that is the beginning
of a life. -/
theorem views_of_run
    {host : Host}
    {requests : List Step}
    {entries : List Entry}
    {final : EngineSession}
    (ran : requests.foldlM play? ([], start host settings) = some (entries, final)) :
    (∃ events : List Usage.Event,
      events.foldlM Usage.step? (.start settings) = some final.usage) ∧
      ∀ (index : Nat) (side : End), final.ends[index]? = some side →
        Tells (views entries index) (final.told side) ∧
          ∃ life, Callback.Life life ∧ final.told side <+: life := by
  have begins : Shown settings ([], start host settings) :=
    { run := ⟨[], rfl⟩
      held := nofun
      told := nofun
      later := fun _ _ => rfl }
  have shown := foldlM_keeps (fun _ _ _ shown plays => shown.step plays) begins ran
  refine ⟨shown.run, fun index side there => ⟨(shown.told index side there).2, ?_⟩⟩
  obtain ⟨events, leads⟩ := shown.run
  rw [told]
  split
  · have known := (Usage.routed_run leads).held _ (shown.held side (List.mem_of_getElem? there))
    exact Usage.exists_life_of_run leads known
  · exact ⟨_, .unopened, List.nil_prefix⟩

/-- One end writes twice before the other end is read, and then closes. -/
example :
    let session : EngineSession := start {} { workerThreads := 2 }
    let requests : List Step :=
      [.bind, .connect, .write 0 [104], .write 0 [105], .resume 1, .close 0]
    (requests.foldlM play? ([], session)).map
        (fun played => (views played.1 0, views played.1 1)) =
      some
        ([⟨[.established], [], true, false⟩, ⟨[], [], true, false⟩,
            ⟨[], [], true, false⟩, ⟨[], [], true, false⟩, ⟨[.closed], [], false, true⟩],
          [⟨[.established], [], true, false⟩, ⟨[], [], true, false⟩,
            ⟨[], [], true, false⟩, ⟨[], [104, 105], true, false⟩,
            ⟨[.closed], [], false, true⟩]) := by
  decide +kernel

end EngineSession

end LineProtocol
