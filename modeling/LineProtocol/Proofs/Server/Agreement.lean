import LineProtocol.Proofs.Run
import LineProtocol.Proofs.Server.Effects

/-!
# Where a server listens

Listener, bound address and shown address are written down in different orders by different
jobs.  Between jobs they agree, unless a shutdown is under way; and while a job is under way
they agree as far as anybody can tell who goes by the published state.

Of a core only its `Places` matter: what it says about the listener in the three places, and
which listeners are open.  `Safe` says that whatever is left of a job does no harm and ends
well.  A job is safe where it begins, and each of its effects leaves the rest safe.
-/

namespace LineProtocol

namespace ListeningState

variable
  {bound shuttingDown : Bool}
  {connections : Nat}
  {fault : Option Fault}

theorem bound_of_derive
    (listens :
      derive bound connections shuttingDown fault = .listening ∨
        derive bound connections shuttingDown fault = .active) :
    shuttingDown = false ∧ bound = true := by
  cases shuttingDown <;> cases fault <;> cases bound <;> simp [derive] at listens ⊢

theorem unbound_of_derive (off : derive bound connections shuttingDown fault = .off) :
    shuttingDown = false ∧ bound = false := by
  cases shuttingDown <;> cases fault <;> cases bound <;> simp [derive] at off ⊢
  split at off <;> cases off

end ListeningState

namespace Roster

@[simp]
theorem bound_publishState (roster : Roster) : roster.publishState.bound = roster.bound := by
  rcases roster.publishState_cases with same | published
  · rw [same]
  · rw [published]

end Roster

namespace ServerCore

/-! ## What matters about a core -/

theorem localAddress_send
    (core : ServerCore)
    (message : String)
    (target : Option Identity) :
    (core.send message target).localAddress = core.localAddress := by
  rw [send]
  split
  · rfl
  · simp only
    split
    · rfl
    · rfl

theorem localAddress_broadcast
    (core : ServerCore)
    (message : String) :
    (core.broadcast message).localAddress = core.localAddress := by
  simp only [broadcast]
  apply List.foldlRecOn
    (motive := fun after : ServerCore => after.localAddress = core.localAddress)
    core.roster.toList
  · rfl
  · intro given before member _
    rw [← before, deliver]
    simp only
    split
    · rfl
    · rfl

/-- What a core says about its listener in three places, and the listeners that are open. -/
structure Places where
  listener : Option Listener
  bound : Option SocketAddress
  address : Option SocketAddress
  shuttingDown : Bool
  unclosed : List Listener

/-- A core with the listeners that are open. -/
def places
    (core : ServerCore)
    (unclosed : List Listener) :
    Places where
  listener := core.listener
  bound := core.roster.bound
  address := core.localAddress.value
  shuttingDown := core.roster.shuttingDown
  unclosed := unclosed

namespace Places

variable
  {places : Places}
  {closing : Bool}
  {left : List Effect}

/-- What an effect changes of it. -/
def apply (places : Places) : Effect → Places
  | .hold listener => { places with listener }
  | .closeListener _ => { places with unclosed := [] }
  | .announce address => { places with address }
  | .roster (.bind address) => { places with bound := address }
  | .roster (.shut closing) => { places with shuttingDown := closing }
  | _ => places

theorem unclosed_apply_roster
    (places : Places)
    (effect : Roster.Effect) :
    (places.apply (.roster effect)).unclosed = places.unclosed := by
  cases effect with
  | _ => rfl

/-- Between jobs all three places agree, unless a shutdown is under way; then there is no
listener any more. -/
structure Settled
    (closing : Bool)
    (places : Places) :
    Prop where
  shuttingDown : places.shuttingDown = closing
  unclosed : places.unclosed = places.listener.toList
  agrees :
    closing = false →
      places.listener.map (·.address) = places.bound ∧ places.bound = places.address
  absent : closing = true → places.listener = none

/-- An effect does no harm, given what is left behind it. -/
def Allows
    (places : Places)
    (left : List Effect) :
    Effect → Prop
  | .bind _ => left = [] ∧ places.listener = none ∧ places.shuttingDown = false
  | .closeListener listener => places.unclosed = [listener]
  | .roster .showState => places.shuttingDown = true ∨ places.bound = places.address
  | _ => True

/-- What is left does no harm and ends well. -/
def Safe (closing : Bool) : Places → List Effect → Prop
  | places, [] => places.Settled closing
  | places, effect :: left => places.Allows left effect ∧ Safe closing (places.apply effect) left

theorem Settled.shows (settled : places.Settled closing) :
    places.shuttingDown = true ∨ places.bound = places.address := by
  cases closing with
  | false => exact .inr (settled.agrees rfl).2
  | true => exact .inl settled.shuttingDown

/-- Only such effects are left as do not touch the listener in any place. -/
def Quiet : Effect → Prop
  | .bind _ | .hold _ | .closeListener _ | .announce _ => False
  | .roster (.bind _) | .roster (.shut _) => False
  | _ => True

theorem apply_of_quiet
    {effect : Effect}
    (quiet : Quiet effect)
    (places : Places) :
    places.apply effect = places := by
  cases effect with
  | bind address | hold listener | closeListener listener | announce address =>
      exact quiet.elim
  | roster effect =>
      cases effect with
      | bind address | shut closing => exact quiet.elim
      | _ => rfl
  | _ => rfl

theorem allows_of_quiet
    {effect : Effect}
    (quiet : Quiet effect)
    (shows : places.shuttingDown = true ∨ places.bound = places.address) :
    places.Allows left effect := by
  cases effect with
  | bind address | hold listener | closeListener listener | announce address =>
      exact quiet.elim
  | roster effect =>
      cases effect with
      | showState => exact shows
      | _ => trivial
  | _ => trivial

theorem Settled.safe
    (settled : places.Settled closing)
    (quiet : ∀ effect ∈ left, Quiet effect) :
    places.Safe closing left := by
  induction left with
  | nil => exact settled
  | cons effect left ih =>
      have first := quiet effect List.mem_cons_self
      refine ⟨allows_of_quiet first settled.shows, ?_⟩
      rw [apply_of_quiet first]
      exact ih fun other behind => quiet other (List.mem_cons_of_mem _ behind)

end Places

theorem places_apply
    (core : ServerCore)
    (effect : Effect)
    (unclosed : List Listener) :
    (core.apply effect).places ((core.places unclosed).apply effect).unclosed =
      (core.places unclosed).apply effect := by
  cases effect with
  | send message target =>
      have speaks := speaks_send core message target
      simp [places, apply, Places.apply, speaks.roster, speaks.listener, localAddress_send]
  | broadcast message =>
      have speaks := speaks_broadcast core message
      simp [places, apply, Places.apply, speaks.roster, speaks.listener, localAddress_broadcast]
  | roster effect =>
      cases effect with
      | showState => simp [places, apply, Places.apply, Roster.apply]
      | _ => rfl
  | _ => rfl

/-- Only one effect publishes a state. -/
theorem state_apply
    {effect : Effect}
    (core : ServerCore)
    (other : effect ≠ .roster .showState) :
    (core.apply effect).roster.state = core.roster.state := by
  cases effect with
  | send message target => exact congrArg Roster.state (speaks_send core message target).roster
  | broadcast message => exact congrArg Roster.state (speaks_broadcast core message).roster
  | roster effect =>
      cases effect with
      | showState => exact (other rfl).elim
      | _ => rfl
  | _ => rfl

/-! ## Jobs are safe -/

variable
  {core : ServerCore}
  {unclosed : List Listener}
  {closing : Bool}

theorem quiet_strike
    (core : ServerCore)
    (identity : Identity)
    (channel : ChannelId) :
    ∀ effect ∈ core.strike identity channel, Places.Quiet effect := by
  rw [strike]
  split
  · simp
  · simp [Places.Quiet]

open Places in
/-- A job that begins where all is settled is safe. -/
theorem safe_effects
    (settled : (core.places unclosed).Settled closing)
    (job : ServerJob)
    (begun : job = .finishShutdown → closing = true) :
    (core.places unclosed).Safe (job.closing closing) (core.effects job) := by
  cases job with
  | listen port =>
      rw [effects]
      split
      case isTrue => exact settled.safe (by simp [Quiet])
      case isFalse running =>
        split
        case h_1 => exact settled.safe (by simp [Quiet])
        case h_2 absent => exact ⟨⟨rfl, absent, by simpa [places] using running⟩, settled⟩
  | join member =>
      rw [effects]
      split
      · exact settled.safe (by simp [Quiet])
      · exact settled.safe (by simp [Quiet])
  | leave member => exact settled.safe (quiet_strike core _ _)
  | send message target => exact settled.safe (by simp [effects, Quiet])
  | broadcast message => exact settled.safe (by simp [effects, Quiet])
  | kick identity =>
      rw [effects]
      split
      · exact settled
      · refine settled.safe fun effect there => ?_
        rcases List.mem_append.mp there with first | last
        · exact quiet_strike core _ _ effect first
        · rw [List.mem_singleton.mp last]
          trivial
  | stopListening =>
      rw [effects]
      split
      case h_1 => exact settled
      case h_2 listener present =>
        have one : (core.places unclosed).unclosed = [listener] := by
          rw [settled.unclosed, places, present]
          rfl
        refine ⟨trivial, one, trivial, trivial, .inr rfl, settled.shuttingDown, rfl, ?_, ?_⟩
        · exact fun _ => ⟨rfl, rfl⟩
        · exact fun _ => rfl
  | beginShutdown =>
      have quiet :
          ∀ effect ∈ [Effect.roster .clear, .roster .showState, .roster .showIdentities] ++
              core.roster.toList.map fun member => Effect.close member.channel,
            Quiet effect := by
        simp [Quiet]
      rw [effects, List.append_assoc, List.append_assoc]
      refine ⟨trivial, .inl rfl, ?_⟩
      split
      case h_1 absent =>
        refine Settled.safe ⟨rfl, ?_, fun calm => ?_, fun _ => absent⟩ quiet
        · exact settled.unclosed
        · cases calm
      case h_2 listener present =>
        have one : (core.places unclosed).unclosed = [listener] := by
          rw [settled.unclosed, places, present]
          rfl
        refine ⟨trivial, one, Settled.safe ⟨rfl, rfl, fun calm => ?_, fun _ => rfl⟩ quiet⟩
        cases calm
  | finishShutdown =>
      have absent := settled.absent (begun rfl)
      have nothing : (core.places unclosed).unclosed = [] := by
        rw [settled.unclosed, absent]
        rfl
      have ends :
          (core.places unclosed).Safe false
            [.announce none, .roster (.shut false), .roster (.bind none), .roster .showState] := by
        refine
          ⟨trivial, trivial, trivial, .inr rfl, rfl, ?_,
            fun _ => ⟨?_, rfl⟩, fun closing => ?_⟩
        · exact nothing.trans (congrArg Option.toList absent).symm
        · exact congrArg (Option.map (·.address)) absent
        · cases closing
      rw [effects]
      split
      · exact ⟨trivial, trivial, ends⟩
      · exact ⟨trivial, ends⟩

end ServerCore

namespace ServerMoment

open ServerCore (Places places_apply safe_effects)

variable
  {moment next : ServerMoment}
  {event : Event}

/-! ## What every event keeps -/

/-- All listeners but one were closed, in the order in which they were bound, and what is left
of the job is safe. -/
structure Sound
    (moment : ServerMoment)
    (unclosed : List Listener) :
    Prop where
  opened : moment.opened = moment.closed ++ unclosed
  few : unclosed.length ≤ 1
  safe : (moment.core.places unclosed).Safe moment.closing moment.left

variable {unclosed : List Listener}

theorem Sound.take
    (sound : moment.Sound unclosed)
    (idle : moment.left = [])
    (job : ServerJob)
    (begun : job = .finishShutdown → moment.closing = true) :
    Sound
      { moment with
        left := moment.core.effects job
        closing := job.closing moment.closing }
      unclosed where
  opened := sound.opened
  few := sound.few
  safe := by
    have settled := sound.safe
    rw [idle] at settled
    exact safe_effects settled job begun

theorem Sound.elsewhere
    {core : ServerCore}
    (sound : moment.Sound unclosed)
    (apart : moment.core.Apart core) :
    Sound { moment with core } unclosed where
  opened := sound.opened
  few := sound.few
  safe := by
    obtain ⟨listener, address, roster⟩ := apart
    have same : core.places unclosed = moment.core.places unclosed := by
      rw [ServerCore.places, ServerCore.places, listener, address, roster]
    rw [same]
    exact sound.safe

/-- What an effect leads to that binds no listener. -/
theorem Sound.proceed
    {effect : ServerCore.Effect}
    {left : List ServerCore.Effect}
    {still : List Listener}
    (sound : moment.Sound unclosed)
    (next : moment.left = effect :: left)
    (opens : moment.core.opens? effect = none)
    (follows : moment.core.follow effect = [])
    (closes : unclosed = effect.closes?.toList ++ still)
    (remains : ((moment.core.places unclosed).apply effect).unclosed = still) :
    Sound
      { moment with
        core := moment.core.apply effect
        left := moment.core.follow effect ++ left
        opened := moment.opened ++ (moment.core.opens? effect).toList
        closed := moment.closed ++ effect.closes?.toList }
      still := by
  have safe := sound.safe
  rw [next] at safe
  have goes := places_apply moment.core effect unclosed
  rw [remains] at goes
  rw [opens, follows]
  constructor
  · rw [Option.toList_none, List.append_nil, sound.opened, closes, List.append_assoc]
  · have few := sound.few
    rw [closes, List.length_append] at few
    omega
  · rw [List.nil_append, goes]
    exact safe.2

theorem Sound.work
    {effect : ServerCore.Effect}
    {left : List ServerCore.Effect}
    (sound : moment.Sound unclosed)
    (next : moment.left = effect :: left) :
    ∃ still,
      Sound
        { moment with
          core := moment.core.apply effect
          left := moment.core.follow effect ++ left
          opened := moment.opened ++ (moment.core.opens? effect).toList
          closed := moment.closed ++ effect.closes?.toList }
        still := by
  have safe := sound.safe
  rw [next] at safe
  obtain ⟨allowed, safe⟩ := safe
  cases effect with
  | bind address =>
      obtain ⟨rfl, absent, running⟩ := allowed
      have settled : (moment.core.places unclosed).Settled moment.closing := safe
      have whole := settled.unclosed
      rw [absent] at whole
      obtain rfl : unclosed = [] := whole
      have opened : moment.opened = moment.closed := by simpa using sound.opened
      rw [ServerCore.follow, ServerCore.opens?, opened]
      cases (moment.core.transport.bind address).1 with
      | error reason =>
          refine ⟨[], by simp [ServerCore.Effect.closes?, Except.toOption], Nat.zero_le 1, ?_⟩
          exact Places.Settled.safe safe (by simp [Places.Quiet])
      | ok listener =>
          refine
            ⟨[listener], by simp [ServerCore.Effect.closes?, Except.toOption], Nat.le_refl 1,
              trivial, trivial, trivial, .inr rfl, settled.shuttingDown, rfl,
              fun _ => ⟨rfl, rfl⟩, ?_⟩
          intro closing
          cases running.symm.trans (settled.shuttingDown.trans closing)
  | closeListener listener =>
      obtain rfl : unclosed = [listener] := allowed
      exact ⟨[], sound.proceed next rfl rfl rfl rfl⟩
  | roster effect =>
      exact ⟨unclosed, sound.proceed next rfl rfl rfl (Places.unclosed_apply_roster _ _)⟩
  | _ => exact ⟨unclosed, sound.proceed next rfl rfl rfl rfl⟩

theorem Sound.step
    (sound : moment.Sound unclosed)
    (stepped : moment.step? event = some next) :
    ∃ still, next.Sound still := by
  cases event with
  | take job =>
      rw [step?, Option.ite_none_right_eq_some] at stepped
      obtain ⟨⟨idle, begun⟩, taken⟩ := stepped
      rw [← Option.some.inj taken]
      exact ⟨unclosed, sound.take idle job begun⟩
  | work =>
      rw [step?] at stepped
      split at stepped
      · cases stepped
      · rename_i effect left more
        rw [← Option.some.inj stepped]
        exact sound.work more
  | elsewhere core =>
      rw [step?, Option.ite_none_right_eq_some] at stepped
      obtain ⟨apart, went⟩ := stepped
      rw [← Option.some.inj went]
      exact ⟨unclosed, sound.elsewhere apart⟩

/-- A server as it starts: it has no listener, knows no address and shows none. -/
structure Starts (core : ServerCore) : Prop where
  listener : core.listener = none
  bound : core.roster.bound = none
  address : core.localAddress.value = none
  running : core.roster.shuttingDown = false

theorem Starts.settled
    {core : ServerCore}
    (starts : Starts core) :
    (core.places []).Settled false where
  shuttingDown := starts.running
  unclosed := (congrArg Option.toList starts.listener).symm
  agrees _ := by
    simp [ServerCore.places, starts.listener, starts.bound, starts.address]
  absent := nofun

theorem sound_run
    {core : ServerCore}
    {events : List Event}
    {final : ServerMoment}
    (starts : Starts core)
    (ran : events.foldlM step? { core } = some final) :
    ∃ unclosed, final.Sound unclosed := by
  have kept :
      ∀ (moment : ServerMoment) (event : Event) (next : ServerMoment),
        (∃ unclosed, moment.Sound unclosed) → moment.step? event = some next →
          ∃ unclosed, next.Sound unclosed := by
    rintro moment event next ⟨unclosed, sound⟩ stepped
    exact sound.step stepped
  have first : ∃ unclosed, Sound { core } unclosed :=
    ⟨[], rfl, Nat.zero_le 1, starts.settled⟩
  exact foldlM_keeps kept first ran

/-! ## What others see -/

/-- What the address shows when a state is published: the one that the server is bound to when
it listens, and none when it is off. -/
structure Tells
    (core : ServerCore)
    (state : ListeningState) :
    Prop where
  bound :
    state = .listening ∨ state = .active →
      ∃ address, core.roster.bound = some address ∧ core.localAddress.value = some address
  off : state = .off → core.localAddress.value = none

theorem tells_of_shows
    {core : ServerCore}
    (shows : core.roster.shuttingDown = true ∨ core.roster.bound = core.localAddress.value) :
    Tells core core.roster.currentState := by
  constructor
  · intro listens
    obtain ⟨running, bound⟩ := ListeningState.bound_of_derive listens
    obtain ⟨address, there⟩ := Option.isSome_iff_exists.mp bound
    have same := shows.resolve_left (Bool.eq_false_iff.mp running)
    exact ⟨address, there, same.symm.trans there⟩
  · intro off
    obtain ⟨running, unbound⟩ := ListeningState.unbound_of_derive off
    have same := shows.resolve_left (Bool.eq_false_iff.mp running)
    exact same.symm.trans (Option.isSome_eq_false_iff.mp unbound |> Option.isNone_iff_eq_none.mp)

/-- A failed attempt to bind an address opens nothing and closes nothing. -/
theorem bind_of_failure
    {before after : Transport}
    {address : SocketAddress}
    {reason : String}
    (failed : before.bind address = (.error reason, after)) :
    after.listeners = before.listeners ∧ after.channels = before.channels ∧
      after.receipts = before.receipts := by
  have kept :
      before.reenter.listeners = before.listeners ∧ before.reenter.channels = before.channels ∧
        before.reenter.receipts = before.receipts := by
    rw [Transport.reenter]
    split
    · exact ⟨rfl, rfl, rfl⟩
    · exact ⟨rfl, rfl, rfl⟩
  rw [Transport.bind] at failed
  simp only at failed
  split at failed
  · rw [← (Prod.mk.inj failed).2]
    exact kept
  · cases (Prod.mk.inj failed).1

/-- What a failed attempt to bind an address changes: the fault is recorded and published. -/
theorem listen_of_failure
    {core : ServerCore}
    {port : UInt16}
    {reason : String}
    {transport : Transport}
    (running : core.roster.shuttingDown = false)
    (absent : core.listener = none)
    (failed : core.transport.bind { ip := core.bindIp, port } = (.error reason, transport)) :
    let cause := Fault.bind { ip := core.bindIp, port } reason
    core.listen port =
      { core with
        transport
        roster :=
          { core.roster with
            fault := some cause
            state := core.roster.state.publish (.failed cause) }
        notices := core.notices ++ [.listenFailed cause] } := by
  simp [ServerCore.listen, running, absent, failed, Roster.recordFault, Roster.publishState,
    Roster.currentState, ListeningState.derive, ListeningState.cause?, ServerCore.note]

/-- What one effect publishes, if it publishes a state. -/
theorem Sound.tells
    (sound : moment.Sound unclosed)
    (stepped : moment.step? .work = some next) :
    next.core.roster.state = moment.core.roster.state ∨
      ∃ state,
        next.core.roster.state = moment.core.roster.state.publish state ∧
          Tells next.core state := by
  rw [step?] at stepped
  split at stepped
  · cases stepped
  · rename_i effect left more
    have safe := sound.safe
    rw [more] at safe
    rw [← Option.some.inj stepped]
    by_cases shown : effect = .roster .showState
    · subst shown
      have tells := tells_of_shows safe.1
      rcases moment.core.roster.publishState_cases with same | published
      · exact .inl (congrArg Roster.state same)
      · exact .inr ⟨_, congrArg Roster.state published, by
          simpa [ServerCore.apply, Roster.apply] using tells.bound, tells.off⟩
    · exact .inl (ServerCore.state_apply moment.core shown)

/-- What holds of a server at every moment. -/
structure Agrees (moment : ServerMoment) : Prop where
  settled :
    moment.left = [] → moment.closing = false →
      moment.core.listener.map (·.address) = moment.core.roster.bound ∧
        moment.core.roster.bound = moment.core.localAddress.value
  published :
    ∀ next, moment.step? .work = some next →
      next.core.roster.state = moment.core.roster.state ∨
        ∃ state,
          next.core.roster.state = moment.core.roster.state.publish state ∧
            Tells next.core state
  unclosed :
    ∃ unclosed,
      moment.opened = moment.closed ++ unclosed ∧ unclosed.length ≤ 1 ∧
        (moment.left = [] → unclosed = moment.core.listener.toList)
  /-- The next job can be done without interruption, and then it does what it does. -/
  serves :
    moment.left = [] →
      ∀ job : ServerJob, (job = .finishShutdown → moment.closing = true) →
        ∃ (events : List Event) (opened closed : List Listener),
          events.foldlM step? moment =
            some
              { core := (job.run moment.core).2
                closing := job.closing moment.closing
                opened
                closed }
  failed :
    ∀ port reason transport,
      moment.core.roster.shuttingDown = false → moment.core.listener = none →
        moment.core.transport.bind { ip := moment.core.bindIp, port } =
            (.error reason, transport) →
          let cause := Fault.bind { ip := moment.core.bindIp, port } reason
          moment.core.listen port =
              { moment.core with
                transport
                roster :=
                  { moment.core.roster with
                    fault := some cause
                    state := moment.core.roster.state.publish (.failed cause) }
                notices := moment.core.notices ++ [.listenFailed cause] } ∧
            transport.listeners = moment.core.transport.listeners ∧
              transport.channels = moment.core.transport.channels ∧
                transport.receipts = moment.core.transport.receipts

/-- Whatever jobs run, and whoever looks while they do, the three places agree as far as
anybody can tell, and no listener is left open behind another. -/
theorem agrees_of_run
    {core : ServerCore}
    {events : List Event}
    {final : ServerMoment}
    (starts : Starts core)
    (ran : events.foldlM step? { core } = some final) :
    Agrees final := by
  obtain ⟨unclosed, sound⟩ := sound_run starts ran
  have settled (idle : final.left = []) : (final.core.places unclosed).Settled final.closing := by
    have safe := sound.safe
    rw [idle] at safe
    exact safe
  exact
    { settled := fun idle calm => (settled idle).agrees calm
      published := fun _ stepped => sound.tells stepped
      unclosed := ⟨unclosed, sound.opened, sound.few, fun idle => (settled idle).unclosed⟩
      serves := exists_serves final
      failed := fun _ _ _ running absent failed =>
        ⟨listen_of_failure running absent failed, bind_of_failure failed⟩ }

/-- An address that cannot be bound at first, and a subscriber that comes while the server
stops listening. -/
theorem agrees_of_run_second_attempt :
    let core : ServerCore :=
      { crew := Crew.ofThreads "crew" 1
        transport := { failure := some "in use" } }
    let watched : ServerCore :=
      { core with roster := .watched, localAddress := core.localAddress.subscribe }
    let address : SocketAddress := { ip := core.bindIp, port := 80 }
    let events : List Event :=
      [.elsewhere watched, .take (.listen 80), .work, .work, .work, .work,
        .take (.listen 80), .work, .work, .work, .work, .work,
        .take .stopListening, .work, .work, .work, .work, .work]
    ∃ final,
      events.foldlM step? { core } = some final ∧ Agrees final ∧
        final.opened = [⟨⟨1⟩, address⟩] ∧ final.closed = final.opened ∧
          (final.core.roster.state.drain 0).1 =
            [.off, .failed (.bind address "in use"), .listening, .off] ∧
          (final.core.localAddress.drain 0).1 = [none, some address, none] := by
  intro core watched address events
  have goes : (events.foldlM step? { core }).any fun final =>
      final.opened = [⟨⟨1⟩, address⟩] ∧ final.closed = final.opened ∧
        (final.core.roster.state.drain 0).1 =
          [.off, .failed (.bind address "in use"), .listening, .off] ∧
        (final.core.localAddress.drain 0).1 = [none, some address, none] := by
    decide +kernel
  obtain ⟨final, ran, facts⟩ := (Option.any_eq_true _ _).mp goes
  exact ⟨final, ran, agrees_of_run ⟨rfl, rfl, rfl, rfl⟩ ran, of_decide_eq_true facts⟩

end ServerMoment

end LineProtocol
