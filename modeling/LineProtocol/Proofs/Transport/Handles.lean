import LineProtocol.Proofs.Run
import LineProtocol.Proofs.Transport.Later
import LineProtocol.Transport.Shared

/-!
# Handles that are used at once

The status of a channel is changed by exchanges alone, and none of them takes it back.
So it is what the exchanges of a run, one after the other, make of a pending channel, and
a run is known by its list of `Alteration`s as far as the status goes.

`Sound` says what a run leaves behind: the status that its exchanges make, what calls handed
over to the transport, and of each call, by how far it is, what it has done.
-/

namespace LineProtocol

namespace Status

theorem rank_exchange
    {expected next : Status}
    (up : expected.rank ≤ next.rank)
    (status : Status) :
    status.rank ≤ (exchange expected next status).rank := by
  unfold exchange
  split
  · rename_i same
    rw [same]
    exact up
  · exact Nat.le_refl _

theorem rank_le_closed (status : Status) : status.rank ≤ Status.closed.rank := by
  cases status <;> decide

theorem eq_closed_of_rank_le
    {status : Status}
    (up : Status.closed.rank ≤ status.rank) :
    status = .closed := by
  cases status with
  | closed => rfl
  | _ => simp [rank] at up

end Status

namespace Transport

/-! ## Receipts -/

/-- What is still to be answered was given out. -/
def Bounded (transport : Transport) : Prop :=
  ∀ entry ∈ transport.held, entry.2.number < transport.receipts.length

/-- The request is confirmed, and nobody will answer it again. -/
structure Done (transport : Transport) (ticket : Ticket) : Prop where
  confirmed : transport.receipts[ticket.number]? = some .confirmed
  unheld : ∀ entry ∈ transport.held, entry.2 ≠ ticket

/-- Receipts are given out and answered as they should be. -/
structure Keeps (before after : Transport) : Prop where
  bounded : before.Bounded → after.Bounded
  done : ∀ ticket, before.Done ticket → after.Done ticket

theorem keeps_of_eq
    {before after : Transport}
    (receipts : after.receipts = before.receipts)
    (held : after.held = before.held) :
    Keeps before after where
  bounded bounded := by
    rw [Bounded, held, receipts]
    exact bounded
  done ticket done := by
    refine ⟨?_, ?_⟩
    · rw [receipts]
      exact done.confirmed
    · rw [held]
      exact done.unheld

/-- A receipt is added, which may be still to be answered. -/
theorem keeps_of_append
    {before after : Transport}
    {receipt : Receipt}
    (receipts : after.receipts = before.receipts ++ [receipt])
    (held :
      ∀ entry ∈ after.held,
        entry ∈ before.held ∨ entry.2.number = before.receipts.length) :
    Keeps before after where
  bounded bounded entry member := by
    rw [receipts, List.length_append, List.length_singleton]
    rcases held entry member with old | new
    · exact Nat.lt_succ_of_lt (bounded entry old)
    · omega
  done ticket done := by
    have old := (List.getElem?_eq_some_iff.mp done.confirmed).1
    refine ⟨?_, ?_⟩
    · rw [receipts, List.getElem?_append_left old]
      exact done.confirmed
    · intro entry member same
      rcases held entry member with there | new
      · exact done.unheld entry there same
      · rw [same] at new
        omega

theorem keeps_issue
    (transport : Transport)
    (receipt : Receipt) :
    Keeps transport (transport.issue receipt).2 :=
  keeps_of_append rfl fun _ member => .inl member

/-- What was confirmed at once is done. -/
theorem done_issue
    {transport : Transport}
    (bounded : transport.Bounded) :
    (transport.issue .confirmed).2.Done (transport.issue .confirmed).1 where
  confirmed := by simp [issue]
  unheld := by
    rintro entry member same
    have old := bounded entry member
    rw [same] at old
    exact Nat.lt_irrefl _ old

theorem keeps_requestClose
    (transport : Transport)
    (id : ChannelId) :
    Keeps transport (transport.requestClose id).2 := by
  simp only [requestClose]
  cases (transport.record (.close id)).closeMode with
  | confirm => exact keeps_of_append rfl fun _ member => .inl member
  | drop => exact keeps_of_append rfl fun _ member => .inl member
  | refuse => exact keeps_of_append rfl fun _ member => .inl member
  | hold =>
      refine keeps_of_append rfl fun entry member => ?_
      rcases List.mem_append.mp member with old | new
      · exact .inl old
      · obtain rfl := List.mem_singleton.mp new
        exact .inr rfl

theorem getElem?_foldl_set
    (receipt : Receipt)
    {entries : List (ChannelId × Ticket)}
    {ticket : Ticket}
    (unheld : ∀ entry ∈ entries, entry.2 ≠ ticket)
    (receipts : List Receipt) :
    (entries.foldl (fun receipts entry => receipts.set entry.2.number receipt)
        receipts)[ticket.number]? = receipts[ticket.number]? := by
  induction entries generalizing receipts with
  | nil => rfl
  | cons entry rest ih =>
      have other : entry.2.number ≠ ticket.number := fun same =>
        unheld entry List.mem_cons_self (congrArg Ticket.mk same)
      rw [List.foldl_cons, ih fun entry member => unheld entry (List.mem_cons_of_mem _ member)]
      exact List.getElem?_set_ne other

theorem keeps_settleAll
    (transport : Transport)
    (receipt : Receipt) :
    Keeps transport (transport.settleAll receipt) := by
  have answered : (transport.settleAll receipt).receipts =
      transport.held.foldl (fun receipts entry => receipts.set entry.2.number receipt)
        transport.receipts := by
    simp [settleAll, settle, List.partition_eq_filter_filter]
  have nothing : (transport.settleAll receipt).held = [] := by
    simp [settleAll, settle, List.partition_eq_filter_filter]
  refine ⟨fun _ => ?_, fun ticket done => ⟨?_, ?_⟩⟩
  · rw [Bounded, nothing]
    exact fun _ => nofun
  · rw [answered, getElem?_foldl_set receipt done.unheld]
    exact done.confirmed
  · rw [nothing]
    exact fun _ => nofun

/-! ## The status of a channel -/

theorem channel?_alter_self
    (transport : Transport)
    (id : ChannelId)
    (change : Channel → Channel) :
    (transport.alter id change).channel? id = (transport.channel? id).map change := by
  rw [channel?_alter]
  simp

theorem alter_alter
    (transport : Transport)
    (id : ChannelId)
    (first second : Channel → Channel) :
    (transport.alter id first).alter id second =
      transport.alter id fun channel => second (first channel) := by
  have same : (transport.channels.modify id first).modify id second =
      transport.channels.modify id fun channel => second (first channel) := by
    simp only [Table.modify, List.map_map]
    congr 2
    funext entry
    by_cases here : entry.1 = id <;> simp [here]
  simp only [alter, same]

end Transport

/-- An exchange on the status of a channel, with the call that makes it. -/
inductive Alteration where
  | markOpen
  | markClosed
  | leaveOpen (index : Nat)
  | leavePending (index : Nat)
  deriving Repr, DecidableEq

/-- What the exchange makes of a status. -/
def Alteration.apply : Alteration → Status → Status
  | .markOpen => Status.markOpen
  | .markClosed => fun _ => .closed
  | .leaveOpen _ => Status.leaveOpen
  | .leavePending _ => Status.leavePending

/-- What exchanges, one after the other, make of a pending channel. -/
def Alteration.outcome (alterations : List Alteration) : Status :=
  alterations.foldl (fun status alteration => alteration.apply status) .pending

theorem Alteration.outcome_append
    (alterations more : List Alteration) :
    outcome (alterations ++ more) =
      more.foldl (fun status alteration => alteration.apply status) (outcome alterations) :=
  List.foldl_append

theorem Alteration.rank_apply
    (alteration : Alteration)
    (status : Status) :
    status.rank ≤ (alteration.apply status).rank := by
  cases alteration with
  | markOpen => exact Status.rank_exchange (by decide) status
  | markClosed => exact status.rank_le_closed
  | leaveOpen index => exact Status.rank_exchange (by decide) status
  | leavePending index => exact Status.rank_exchange (by decide) status

/-! ## Exchanges, one after the other -/

/-- The first half of asking for a close, which a pending channel does not mind. -/
def Alteration.Early (alteration : Alteration) : Prop :=
  ∃ index, alteration = .leaveOpen index

/-- The second half of asking for a close, or being opened again, which an open channel
does not mind. -/
def Alteration.Late (alteration : Alteration) : Prop :=
  alteration = .markOpen ∨ ∃ index, alteration = .leavePending index

theorem Alteration.not_early_markClosed : ¬ Alteration.markClosed.Early := by
  rintro ⟨index, none_⟩
  cases none_

theorem Alteration.not_early_leavePending (index : Nat) :
    ¬ (Alteration.leavePending index).Early := by
  rintro ⟨other, none_⟩
  cases none_

theorem Alteration.not_late_leaveOpen (index : Nat) :
    ¬ (Alteration.leaveOpen index).Late := by
  rintro (none_ | ⟨other, none_⟩)
  · cases none_
  · cases none_

theorem Alteration.outcome_eq_pending_iff (alterations : List Alteration) :
    outcome alterations = .pending ↔ ∀ alteration ∈ alterations, alteration.Early := by
  induction alterations using List.reverseRecOn with
  | nil => simp [outcome]
  | append_singleton alterations last ih =>
      rw [outcome_append, List.foldl_cons, List.foldl_nil]
      simp only [List.mem_append, List.mem_singleton, or_imp, forall_and, forall_eq, ← ih]
      generalize outcome alterations = status
      cases last <;> cases status <;>
        simp [apply, Early, Status.markOpen, Status.leaveOpen, Status.leavePending,
          Status.exchange]

theorem Alteration.foldl_of_late
    {alterations : List Alteration}
    (late : ∀ alteration ∈ alterations, alteration.Late) :
    alterations.foldl (fun status alteration => alteration.apply status) Status.opened =
      .opened := by
  induction alterations with
  | nil => rfl
  | cons first rest ih =>
      have unmoved : first.apply .opened = .opened := by
        rcases late first List.mem_cons_self with rfl | ⟨index, rfl⟩
        · rfl
        · rfl
      rw [List.foldl_cons, unmoved]
      exact ih fun alteration member => late alteration (List.mem_cons_of_mem _ member)

/-- A channel is open exactly if it was opened while it was pending, and no exchange has
found it open since. -/
theorem Alteration.outcome_eq_opened_iff (alterations : List Alteration) :
    outcome alterations = .opened ↔
      ∃ front back,
        alterations = front ++ .markOpen :: back ∧
          (∀ alteration ∈ front, alteration.Early) ∧
          ∀ alteration ∈ back, alteration.Late := by
  constructor
  · intro opened
    induction alterations using List.reverseRecOn with
    | nil => cases opened
    | append_singleton alterations last ih =>
        rw [outcome_append, List.foldl_cons, List.foldl_nil] at opened
        have before :
            outcome alterations = .pending ∧ last = .markOpen ∨
              outcome alterations = .opened ∧ last.Late := by
          generalize outcome alterations = status at opened
          cases last <;> cases status <;>
            simp_all [apply, Late, Status.markOpen, Status.leaveOpen, Status.leavePending,
              Status.exchange]
        rcases before with ⟨pending, rfl⟩ | ⟨open_, late⟩
        · exact ⟨alterations, [], rfl, (outcome_eq_pending_iff alterations).mp pending,
            by simp⟩
        · obtain ⟨front, back, rfl, early, lateToo⟩ := ih open_
          refine ⟨front, back ++ [last], by simp, early, ?_⟩
          intro alteration member
          rcases List.mem_append.mp member with there | here
          · exact lateToo alteration there
          · exact List.mem_singleton.mp here ▸ late
  · rintro ⟨front, back, rfl, early, late⟩
    rw [outcome_append, (outcome_eq_pending_iff front).mpr early]
    exact foldl_of_late late

namespace HandleCall

/-- The exchange that the next step of a call makes. -/
def alteration? (index : Nat) : HandleCall → Option Alteration
  | .close .leavingOpen => some (.leaveOpen index)
  | .close .leavingPending => some (.leavePending index)
  | _ => none

/-- What the next step of a call hands over to the transport. -/
def passes? (id : ChannelId) : HandleCall → Option Call
  | .write bytes .passing => some (.write id bytes)
  | .close .handing => some (.close id)
  | _ => none

end HandleCall

namespace SharedChannel

/-! ## What a run does -/

/-- The exchange that an event makes. -/
def alteration? : SharedChannel × Event → Option Alteration
  | (_, .markOpen) => some .markOpen
  | (_, .markClosed) => some .markClosed
  | (shared, .proceed index) => shared.calls[index]?.bind (·.alteration? index)
  | _ => none

/-- What an event hands over to the transport, with the call that does it. -/
def passes? : SharedChannel × Event → Option (Nat × Call)
  | (shared, .proceed index) =>
      (shared.calls[index]?.bind (·.passes? shared.id)).map fun call => (index, call)
  | _ => none

/-- The exchanges of a run, in order. -/
def alterations
    (shared : SharedChannel)
    (events : List Event) :
    List Alteration :=
  (visits step? shared events).filterMap alteration?

/-- What calls handed over to the transport in a run, in order. -/
def passed
    (shared : SharedChannel)
    (events : List Event) :
    List (Nat × Call) :=
  (visits step? shared events).filterMap passes?

/-- What one call handed over. -/
def passedBy
    (index : Nat)
    (passed : List (Nat × Call)) :
    List Call :=
  passed.filterMap fun entry => if entry.1 = index then some entry.2 else none

section

variable
  {shared final : SharedChannel}
  {events : List Event}

theorem alterations_snoc
    (ran : shared.run? events = some final)
    (event : Event) :
    shared.alterations (events ++ [event]) =
      shared.alterations events ++ (alteration? (final, event)).toList := by
  rw [alterations, visits_snoc ran, List.filterMap_append]
  cases made : alteration? (final, event) <;> simp [alterations, made]

theorem passed_snoc
    (ran : shared.run? events = some final)
    (event : Event) :
    shared.passed (events ++ [event]) =
      shared.passed events ++ (passes? (final, event)).toList := by
  rw [passed, visits_snoc ran, List.filterMap_append]
  cases made : passes? (final, event) <;> simp [passed, made]

end

/-! ## What a step does -/

/-- The next step of a call, with what it looks at. -/
inductive Advances (shared : SharedChannel) : HandleCall → HandleCall → Transport → Prop where
  | looked :
    Advances shared (.isWritable .reading)
      (.isWritable (.returned (shared.transport.isWritable shared.id))) shared.transport
  | admitted
    {bytes : Bytes}
    (writable : shared.status = .opened) :
    Advances shared (.write bytes .reading) (.write bytes .passing) shared.transport
  | refused
    {bytes : Bytes}
    (shut : shared.status ≠ .opened) :
    Advances shared (.write bytes .reading)
      (.write bytes (.returned (.error (.notWritable shared.id)))) shared.transport
  | passed
    {bytes : Bytes} :
    Advances shared (.write bytes .passing)
      (.write bytes (.returned (shared.transport.pass shared.id bytes).1))
      (shared.transport.pass shared.id bytes).2
  /-- A closed channel is confirmed at once. -/
  | settled
    (closed : shared.status = .closed) :
    Advances shared (.close .reading)
      (.close (.returned (shared.transport.issue .confirmed).1))
      (shared.transport.issue .confirmed).2
  | began
    (open_ : shared.status ≠ .closed) :
    Advances shared (.close .reading) (.close .leavingOpen) shared.transport
  | leftOpen :
    Advances shared (.close .leavingOpen) (.close .leavingPending)
      (shared.transport.alter shared.id (·.leaveOpen))
  | leftPending :
    Advances shared (.close .leavingPending) (.close .handing)
      (shared.transport.alter shared.id (·.leavePending))
  | handed :
    Advances shared (.close .handing)
      (.close (.returned (shared.transport.requestClose shared.id).1))
      (shared.transport.requestClose shared.id).2

/-- What an event comes to. -/
inductive Moves (shared : SharedChannel) : Event → SharedChannel → Prop where
  | begin
    (asking : Asking) :
    Moves shared (.begin asking) { shared with calls := shared.calls ++ [asking.call] }
  | proceed
    {index : Nat}
    {call next : HandleCall}
    {transport : Transport}
    (found : shared.calls[index]? = some call)
    (advances : shared.Advances call next transport) :
    Moves shared (.proceed index)
      { shared with transport, calls := shared.calls.set index next }
  | markOpen :
    Moves shared .markOpen
      { shared with transport := shared.transport.alter shared.id (·.markOpen) }
  | markClosed :
    Moves shared .markClosed
      { shared with transport := shared.transport.alter shared.id (·.markClosed) }
  | configure
    (closeMode : Option CloseMode)
    (refusesWrites : Option Bool) :
    Moves shared (.configure closeMode refusesWrites)
      { shared with transport := shared.transport.configured closeMode refusesWrites }
  | answer
    {receipt : Receipt}
    (known : receipt ≠ .waiting) :
    Moves shared (.answer receipt)
      { shared with transport := shared.transport.settleAll receipt }

theorem isWritable_iff (shared : SharedChannel) :
    shared.transport.isWritable shared.id = true ↔ shared.status = .opened := by
  rw [Transport.isWritable, status]
  cases shared.transport.channel? shared.id <;> simp [Channel.isWritable]

theorem isClosed_iff (shared : SharedChannel) :
    shared.transport.isClosed shared.id = true ↔ shared.status = .closed := by
  rw [Transport.isClosed, status]
  cases shared.transport.channel? shared.id <;> simp [Channel.isClosed]

theorem advances_of_advance?
    {shared : SharedChannel}
    {call next : HandleCall}
    {transport : Transport}
    (advanced : shared.advance? call = some (next, transport)) :
    shared.Advances call next transport := by
  cases call with
  | isWritable phase =>
      cases phase with
      | reading =>
          cases advanced
          exact .looked
      | returned writable => cases advanced
  | write bytes phase =>
      cases phase with
      | reading =>
          simp only [advance?] at advanced
          split at advanced
          · rename_i writable
            cases advanced
            exact .admitted (shared.isWritable_iff.mp writable)
          · rename_i shut
            cases advanced
            exact .refused fun opened => shut (shared.isWritable_iff.mpr opened)
      | passing =>
          cases advanced
          exact .passed
      | returned outcome => cases advanced
  | close phase =>
      cases phase with
      | reading =>
          simp only [advance?] at advanced
          split at advanced
          · rename_i closed
            cases advanced
            exact .settled (shared.isClosed_iff.mp closed)
          · rename_i open_
            cases advanced
            exact .began fun closed => open_ (shared.isClosed_iff.mpr closed)
      | leavingOpen =>
          cases advanced
          exact .leftOpen
      | leavingPending =>
          cases advanced
          exact .leftPending
      | handing =>
          cases advanced
          exact .handed
      | returned ticket => cases advanced

theorem moves_of_step?
    {shared next : SharedChannel}
    {event : Event}
    (stepped : shared.step? event = some next) :
    shared.Moves event next := by
  cases event with
  | begin asking =>
      obtain rfl := Option.some.inj stepped
      exact .begin asking
  | proceed index =>
      obtain ⟨call, found, rest⟩ := Option.bind_eq_some_iff.mp stepped
      obtain ⟨⟨after, transport⟩, advanced, same⟩ := Option.bind_eq_some_iff.mp rest
      obtain rfl := Option.some.inj same
      exact .proceed found (advances_of_advance? advanced)
  | markOpen =>
      obtain rfl := Option.some.inj stepped
      exact .markOpen
  | markClosed =>
      obtain rfl := Option.some.inj stepped
      exact .markClosed
  | configure closeMode refusesWrites =>
      obtain rfl := Option.some.inj stepped
      exact .configure closeMode refusesWrites
  | answer receipt =>
      simp only [step?] at stepped
      split at stepped
      · cases stepped
      · rename_i known
        obtain rfl := Option.some.inj stepped
        exact .answer known

/-- How a call has come to where it is after an event. -/
inductive Arises
    (shared : SharedChannel)
    (event : Event)
    (next : SharedChannel)
    (index : Nat)
    (call : HandleCall) :
    Prop where
  | stays
    (apart : event ≠ .proceed index)
    (found : shared.calls[index]? = some call)
  | begins
    {asking : Asking}
    (new : shared.calls.length ≤ index)
    (begun : event = .begin asking)
    (fresh : call = asking.call)
  | advances
    {before : HandleCall}
    {transport : Transport}
    (proceeds : event = .proceed index)
    (found : shared.calls[index]? = some before)
    (advances : shared.Advances before call transport)
    (moved : next = { shared with transport, calls := shared.calls.set index call })

theorem Moves.arises
    {shared next : SharedChannel}
    {event : Event}
    {index : Nat}
    {call : HandleCall}
    (moves : shared.Moves event next)
    (there : next.calls[index]? = some call) :
    shared.Arises event next index call := by
  cases moves with
  | begin asking =>
      rcases Nat.lt_or_ge index shared.calls.length with old | new
      · rw [List.getElem?_append_left old] at there
        exact .stays nofun there
      · rw [List.getElem?_append_right new] at there
        exact .begins new rfl (List.mem_singleton.mp (List.mem_of_getElem? there))
  | @proceed moving before after transport found advances =>
      by_cases same : index = moving
      · subst same
        have inside := (List.getElem?_eq_some_iff.mp found).1
        rw [List.getElem?_set_self inside] at there
        obtain rfl := Option.some.inj there
        exact .advances rfl found advances rfl
      · rw [List.getElem?_set_ne (Ne.symm same)] at there
        exact .stays (fun other => same (Event.proceed.inj other).symm) there
  | markOpen => exact .stays nofun there
  | markClosed => exact .stays nofun there
  | configure closeMode refusesWrites => exact .stays nofun there
  | answer known => exact .stays nofun there

/-- What an event makes of status, record and receipts. -/
structure Does (shared : SharedChannel) (event : Event) (next : SharedChannel) : Prop where
  id : next.id = shared.id
  known : next.transport.Knows next.id
  status :
    next.status =
      (alteration? (shared, event)).elim shared.status (·.apply shared.status)
  recorded :
    next.transport.calls =
      shared.transport.calls ++ (passes? (shared, event)).toList.map (·.2)
  keeps : Transport.Keeps shared.transport next.transport

section

variable
  {shared next : SharedChannel}
  {event : Event}

/-- Where the transport's channels, record and receipts stay. -/
theorem does_of_eq
    (known : shared.transport.Knows shared.id)
    (id : next.id = shared.id)
    (channels : next.transport.channels = shared.transport.channels)
    (unaltered : alteration? (shared, event) = none)
    (recorded :
      next.transport.calls =
        shared.transport.calls ++ (passes? (shared, event)).toList.map (·.2))
    (keeps : Transport.Keeps shared.transport next.transport) :
    shared.Does event next := by
  have found : next.transport.channel? next.id = shared.transport.channel? shared.id := by
    rw [Transport.channel?, Transport.channel?, channels, id]
  refine ⟨id, ?_, ?_, recorded, keeps⟩
  · rw [Transport.Knows, found]
    exact known
  · rw [unaltered, SharedChannel.status, found]
    rfl

/-- Where the status of the channel is exchanged. -/
theorem does_of_alter
    {change : Channel → Channel}
    {alteration : Alteration}
    (known : shared.transport.Knows shared.id)
    (id : next.id = shared.id)
    (transport : next.transport = shared.transport.alter shared.id change)
    (changes : ∀ channel, (change channel).status = alteration.apply channel.status)
    (altered : alteration? (shared, event) = some alteration)
    (kept : passes? (shared, event) = none) :
    shared.Does event next := by
  obtain ⟨channel, found⟩ := Option.isSome_iff_exists.mp known
  have after : next.transport.channel? next.id = some (change channel) := by
    rw [id, transport, Transport.channel?_alter_self, found, Option.map_some]
  refine ⟨id, ?_, ?_, ?_, ?_⟩
  · rw [Transport.Knows, after]
    rfl
  · rw [altered, SharedChannel.status, after, SharedChannel.status, found]
    exact changes channel
  · rw [kept, transport]
    exact (List.append_nil _).symm
  · rw [transport]
    exact Transport.keeps_of_eq rfl rfl

theorem does_of_advances
    {index : Nat}
    {call after : HandleCall}
    {transport : Transport}
    (known : shared.transport.Knows shared.id)
    (found : shared.calls[index]? = some call)
    (advances : shared.Advances call after transport) :
    shared.Does (.proceed index)
      { shared with transport, calls := shared.calls.set index after } := by
  have alters : alteration? (shared, .proceed index) = call.alteration? index := by
    rw [alteration?, found]
    rfl
  have hands :
      passes? (shared, .proceed index) =
        (call.passes? shared.id).map fun call => (index, call) := by
    rw [SharedChannel.passes?, found]
    rfl
  have quiet {calls : List HandleCall} (nothing : call.passes? shared.id = none)
      (none_ : call.alteration? index = none) :
      shared.Does (.proceed index) { shared with calls } :=
    does_of_eq known rfl rfl (alters.trans none_) (by simp [hands, nothing])
      (Transport.keeps_of_eq rfl rfl)
  cases advances with
  | looked => exact quiet rfl rfl
  | admitted writable => exact quiet rfl rfl
  | refused shut => exact quiet rfl rfl
  | began open_ => exact quiet rfl rfl
  | passed =>
      exact does_of_eq known rfl rfl alters (by rw [hands]; rfl)
        (Transport.keeps_of_eq rfl rfl)
  | settled closed =>
      exact does_of_eq known rfl rfl alters (by rw [hands]; exact (List.append_nil _).symm)
        (Transport.keeps_issue _ _)
  | leftOpen => exact does_of_alter known rfl rfl (fun _ => rfl) alters hands
  | leftPending => exact does_of_alter known rfl rfl (fun _ => rfl) alters hands
  | handed =>
      obtain ⟨calls, -, channels, -, -⟩ := shared.transport.requestClose_eq shared.id
      exact does_of_eq known rfl channels alters (by rw [hands]; exact calls)
        (Transport.keeps_requestClose _ _)

theorem does_of_moves
    (known : shared.transport.Knows shared.id)
    (moves : shared.Moves event next) :
    shared.Does event next := by
  cases moves with
  | begin asking =>
      exact does_of_eq known rfl rfl rfl (List.append_nil _).symm
        (Transport.keeps_of_eq rfl rfl)
  | proceed found advances => exact does_of_advances known found advances
  | markOpen => exact does_of_alter known rfl rfl (fun _ => rfl) rfl rfl
  | markClosed => exact does_of_alter known rfl rfl (fun _ => rfl) rfl rfl
  | configure closeMode refusesWrites =>
      exact does_of_eq known rfl rfl rfl (List.append_nil _).symm
        (Transport.keeps_of_eq rfl rfl)
  | answer known_ =>
      exact does_of_eq known rfl rfl rfl (List.append_nil _).symm
        (Transport.keeps_settleAll _ _)

/-- No event takes the status back. -/
theorem Does.rank_le (does : shared.Does event next) :
    shared.status.rank ≤ next.status.rank := by
  rw [does.status]
  cases alteration? (shared, event) with
  | none => exact Nat.le_refl _
  | some alteration => exact alteration.rank_apply _

end

/-! ## What is known of each call -/

/-- What a call has done, by how far it is: what it handed over, and which exchanges it
made. -/
def Accounts
    (shared : SharedChannel)
    (index : Nat)
    (alterations : List Alteration)
    (passed : List Call) :
    HandleCall → Prop
  | .write bytes (.returned outcome) =>
      (passed = [] ∧ outcome = .error (.notWritable shared.id)) ∨
        passed = [.write shared.id bytes]
  | .close .leavingPending => passed = [] ∧ .leaveOpen index ∈ alterations
  | .close .handing =>
      passed = [] ∧ .leaveOpen index ∈ alterations ∧ .leavePending index ∈ alterations
  | .close (.returned ticket) =>
      (passed = [] ∧ shared.status = .closed ∧ shared.transport.Done ticket) ∨
        (passed = [.close shared.id] ∧
          .leaveOpen index ∈ alterations ∧ .leavePending index ∈ alterations)
  | _ => passed = []

/-- What is known after a run. -/
structure Sound
    (shared : SharedChannel)
    (alterations : List Alteration)
    (passed : List (Nat × Call)) : Prop where
  known : shared.transport.Knows shared.id
  bounded : shared.transport.Bounded
  status : shared.status = Alteration.outcome alterations
  recorded : shared.transport.calls = passed.map (·.2)
  begun : ∀ entry ∈ passed, entry.1 < shared.calls.length
  accounts :
    ∀ index call, shared.calls[index]? = some call →
      shared.Accounts index alterations (passedBy index passed) call

theorem sound_start
    (id : ChannelId)
    (peer : Option SocketAddress)
    (closeMode : CloseMode)
    (refusesWrites : Bool) :
    Sound (start id peer closeMode refusesWrites) [] [] where
  known := by simp [start, Transport.Knows, Transport.channel?, Transport.adopt,
    Table.find?_insert]
  bounded := fun _ => nofun
  status := by simp [start, SharedChannel.status, Alteration.outcome, Transport.channel?,
    Transport.adopt, Table.find?_insert]
  recorded := rfl
  begun := fun _ => nofun
  accounts := fun _ _ => nofun

theorem passedBy_append
    (index : Nat)
    (passed more : List (Nat × Call)) :
    passedBy index (passed ++ more) = passedBy index passed ++ passedBy index more :=
  List.filterMap_append

/-- A call that was not begun has handed nothing over. -/
theorem passedBy_of_le
    {index count : Nat}
    {passed : List (Nat × Call)}
    (begun : ∀ entry ∈ passed, entry.1 < count)
    (new : count ≤ index) :
    passedBy index passed = [] := by
  rw [passedBy, List.filterMap_eq_nil_iff]
  intro entry member
  have older := begun entry member
  rw [if_neg (by omega)]

section

variable
  {shared next : SharedChannel}
  {alterations : List Alteration}
  {passed : List (Nat × Call)}
  {event : Event}

/-- What a call has done stays done. -/
theorem Accounts.mono
    {index : Nat}
    {handed : List Call}
    {call : HandleCall}
    (accounts : shared.Accounts index alterations handed call)
    (id : next.id = shared.id)
    (closed : shared.status = .closed → next.status = .closed)
    (keeps : Transport.Keeps shared.transport next.transport)
    (more : List Alteration) :
    next.Accounts index (alterations ++ more) handed call := by
  have still {alteration : Alteration} (made : alteration ∈ alterations) :
      alteration ∈ alterations ++ more :=
    List.mem_append_left _ made
  cases call with
  | isWritable phase => exact accounts
  | write bytes phase =>
      cases phase with
      | reading => exact accounts
      | passing => exact accounts
      | returned outcome =>
          unfold Accounts at accounts ⊢
          rw [id]
          exact accounts
  | close phase =>
      cases phase with
      | reading => exact accounts
      | leavingOpen => exact accounts
      | leavingPending => exact ⟨accounts.1, still accounts.2⟩
      | handing => exact ⟨accounts.1, still accounts.2.1, still accounts.2.2⟩
      | returned ticket =>
          unfold Accounts at accounts ⊢
          rw [id]
          rcases accounts with ⟨nothing, shut, done⟩ | ⟨handed, left, leftToo⟩
          · exact .inl ⟨nothing, closed shut, keeps.done ticket done⟩
          · exact .inr ⟨handed, still left, still leftToo⟩

theorem Does.closed
    (does : shared.Does event next)
    (closed : shared.status = .closed) :
    next.status = .closed := by
  have up := does.rank_le
  rw [closed] at up
  exact Status.eq_closed_of_rank_le up

/-- The call that does its next step. -/
theorem accounts_of_advances
    {index : Nat}
    {call after : HandleCall}
    {transport : Transport}
    {handed : List Call}
    (bounded : shared.transport.Bounded)
    (advances : shared.Advances call after transport)
    (does :
      shared.Does (.proceed index)
        { shared with transport, calls := shared.calls.set index after })
    (accounts : shared.Accounts index alterations handed call) :
    Accounts { shared with transport, calls := shared.calls.set index after } index
      (alterations ++ (call.alteration? index).toList)
      (handed ++ (call.passes? shared.id).toList) after := by
  cases advances with
  | looked => simpa [Accounts, HandleCall.passes?] using accounts
  | admitted writable => simpa [Accounts, HandleCall.passes?] using accounts
  | refused shut =>
      refine .inl ⟨?_, rfl⟩
      simpa [Accounts, HandleCall.passes?] using accounts
  | passed =>
      refine .inr ?_
      rw [show handed = [] from accounts]
      rfl
  | settled closed =>
      refine .inl ⟨?_, does.closed closed, Transport.done_issue bounded⟩
      simpa [Accounts, HandleCall.passes?] using accounts
  | began open_ => simpa [Accounts, HandleCall.passes?] using accounts
  | leftOpen =>
      refine ⟨?_, by simp [HandleCall.alteration?]⟩
      simpa [Accounts, HandleCall.passes?] using accounts
  | leftPending =>
      obtain ⟨nothing, left⟩ := accounts
      refine ⟨?_, List.mem_append_left _ left, by simp [HandleCall.alteration?]⟩
      simpa [HandleCall.passes?] using nothing
  | handed =>
      obtain ⟨nothing, left, leftToo⟩ := accounts
      refine .inr ⟨?_, List.mem_append_left _ left, List.mem_append_left _ leftToo⟩
      rw [nothing]
      rfl

theorem passes?_proceed
    {index : Nat}
    {call : HandleCall}
    (found : shared.calls[index]? = some call) :
    (passes? (shared, .proceed index)).toList =
      (call.passes? shared.id).toList.map fun call => (index, call) := by
  rw [SharedChannel.passes?, found, Option.bind_some]
  cases call.passes? shared.id <;> rfl

theorem passedBy_proceed
    {index : Nat}
    {call : HandleCall}
    (found : shared.calls[index]? = some call) :
    passedBy index (passed ++ (passes? (shared, .proceed index)).toList) =
      passedBy index passed ++ (call.passes? shared.id).toList := by
  rw [passedBy_append, passes?_proceed found]
  cases call.passes? shared.id <;> simp [passedBy]

/-- No event hands anything over for another call than the one that proceeds. -/
theorem passedBy_of_ne
    {index : Nat}
    (apart : event ≠ .proceed index) :
    passedBy index (passed ++ (passes? (shared, event)).toList) =
      passedBy index passed := by
  rw [passedBy_append, List.append_right_eq_self]
  cases event with
  | proceed moving =>
      have other : moving ≠ index := fun same => apart (congrArg Event.proceed same)
      rw [SharedChannel.passes?]
      cases shared.calls[moving]?.bind (·.passes? shared.id) <;> simp [passedBy, other]
  | _ => rfl

/-- What every call has done after a step. -/
theorem Sound.accounts_step
    (sound : Sound shared alterations passed)
    (moves : shared.Moves event next)
    (does : shared.Does event next)
    {index : Nat}
    {call : HandleCall}
    (there : next.calls[index]? = some call) :
    next.Accounts index (alterations ++ (alteration? (shared, event)).toList)
      (passedBy index (passed ++ (passes? (shared, event)).toList)) call := by
  cases moves.arises there with
  | stays apart found =>
      rw [passedBy_of_ne apart]
      exact (sound.accounts index call found).mono does.id does.closed does.keeps _
  | @begins asking new begun fresh =>
      subst begun fresh
      have nothing := passedBy_of_le sound.begun new
      have apart : Event.begin asking ≠ .proceed index := nofun
      rw [passedBy_of_ne apart]
      cases asking with
      | isWritable => exact nothing
      | write bytes => exact nothing
      | close => exact nothing
  | @advances before transport proceeds found advances moved =>
      subst proceeds moved
      have alters : alteration? (shared, .proceed index) = before.alteration? index := by
        rw [SharedChannel.alteration?, found]
        rfl
      rw [alters, passedBy_proceed found]
      exact accounts_of_advances sound.bounded advances does
        (sound.accounts index before found)

theorem begun_step
    (begun : ∀ entry ∈ passed, entry.1 < shared.calls.length)
    (moves : shared.Moves event next) :
    ∀ entry ∈ passed ++ (passes? (shared, event)).toList,
      entry.1 < next.calls.length := by
  intro entry member
  rcases List.mem_append.mp member with old | new
  · have older := begun entry old
    cases moves with
    | begin asking =>
        rw [List.length_append]
        exact Nat.lt_add_right _ older
    | proceed found advances =>
        rw [List.length_set]
        exact older
    | _ => exact older
  · cases moves with
    | proceed found advances =>
        rw [passes?_proceed found] at new
        obtain ⟨call, -, rfl⟩ := List.mem_map.mp new
        rw [List.length_set]
        exact (List.getElem?_eq_some_iff.mp found).1
    | _ => cases new

theorem Sound.step
    (sound : Sound shared alterations passed)
    (stepped : shared.step? event = some next) :
    Sound next (alterations ++ (alteration? (shared, event)).toList)
      (passed ++ (passes? (shared, event)).toList) := by
  have moves := moves_of_step? stepped
  have does := does_of_moves sound.known moves
  refine ⟨does.known, does.keeps.bounded sound.bounded, ?_, ?_,
    begun_step sound.begun moves, fun index call => sound.accounts_step moves does⟩
  · rw [does.status, sound.status, Alteration.outcome_append]
    cases alteration? (shared, event) with
    | none => rfl
    | some alteration => rfl
  · rw [does.recorded, sound.recorded, List.map_append]

end

theorem sound_run
    {id : ChannelId}
    {peer : Option SocketAddress}
    {closeMode : CloseMode}
    {refusesWrites : Bool}
    {events : List Event}
    {final : SharedChannel}
    (ran : (start id peer closeMode refusesWrites).run? events = some final) :
    Sound final ((start id peer closeMode refusesWrites).alterations events)
      ((start id peer closeMode refusesWrites).passed events) := by
  induction ran using foldlM_induction with
  | none => exact sound_start id peer closeMode refusesWrites
  | snoc events event between final before stepped ih =>
      rw [alterations_snoc before, passed_snoc before]
      exact ih.step stepped

end SharedChannel

end LineProtocol
