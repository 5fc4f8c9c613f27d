import LineProtocol.Proofs.Transport.Requests
import LineProtocol.Transport.Report

/-!
# What a transport never takes back

Whatever is asked of a transport and whatever it reports, numbers stay given
out, requests stay in the record, a receipt that is settled stays settled, and
a connection that was reported as closed stays closed.  `Transport.Later` says
all of this of an earlier and a later transport.
-/

namespace LineProtocol

namespace Table

theorem find?_modify
    {κ ν : Type}
    [DecidableEq κ]
    (table : Table κ ν)
    (key other : κ)
    (change : ν → ν) :
    (table.modify key change).find? other =
      (table.find? other).map fun value => if other = key then change value else value := by
  obtain ⟨entries⟩ := table
  simp only [find?, modify]
  induction entries with
  | nil => rfl
  | cons entry rest ih =>
      by_cases here : entry.1 = other
      · by_cases same : other = key
        · subst same
          simp [here]
        · simp [here, same]
      · have passed :
            (if entry.1 = key then (entry.1, change entry.2) else entry).1 = entry.1 := by
          split
          · rfl
          · rfl
        rw [List.map_cons, List.find?_cons_of_neg (by simpa [passed] using here),
          List.find?_cons_of_neg (by simpa using here)]
        exact ih

end Table

namespace Transport

/-- Every channel is found under its own number, which was given out. -/
def Numbered (transport : Transport) : Prop :=
  ∀ id channel, transport.channel? id = some channel →
    channel.id = id ∧ id.number < transport.nextId

/-- There is a channel with the number. -/
def Knows
    (transport : Transport)
    (id : ChannelId) :
    Prop :=
  (transport.channel? id).isSome = true

/-- A connection was reported as closed, or it was asked to be closed. -/
def GivenUp
    (transport : Transport)
    (id : ChannelId) :
    Prop :=
  transport.isClosed id = true ∨ .close id ∈ transport.calls

/-- The transport as it is before anything was asked of it. -/
def unused (transport : Transport) : Transport :=
  { transport with channels := {}, receipts := [], held := [], calls := [], listeners := [] }

theorem numbered_unused (transport : Transport) : transport.unused.Numbered :=
  fun _ _ => nofun

/-- Nothing was taken back. -/
structure Later (before after : Transport) : Prop where
  nextId : before.nextId ≤ after.nextId
  calls : before.calls <+: after.calls
  issued : before.receipts.length ≤ after.receipts.length
  settled :
    ∀ number, number < before.receipts.length →
      after.receipts[number]? = some .waiting → before.receipts[number]? = some .waiting
  numbered : before.Numbered → after.Numbered
  closed :
    before.Numbered → ∀ id, before.isClosed id = true → after.isClosed id = true

theorem Later.refl (transport : Transport) : Later transport transport where
  nextId := Nat.le_refl _
  calls := List.prefix_refl _
  issued := Nat.le_refl _
  settled _ _ waits := waits
  numbered numbered := numbered
  closed _ _ closed := closed

theorem Later.trans
    {first second third : Transport}
    (one : Later first second)
    (two : Later second third) :
    Later first third where
  nextId := Nat.le_trans one.nextId two.nextId
  calls := one.calls.trans two.calls
  issued := Nat.le_trans one.issued two.issued
  settled number old waits :=
    one.settled number old (two.settled number (Nat.lt_of_lt_of_le old one.issued) waits)
  numbered numbered := two.numbered (one.numbered numbered)
  closed numbered id closed := two.closed (one.numbered numbered) id (one.closed numbered id closed)

/-- What was given up stays given up. -/
theorem GivenUp.later
    {before after : Transport}
    {id : ChannelId}
    (givenUp : before.GivenUp id)
    (later : Later before after)
    (numbered : before.Numbered) :
    after.GivenUp id := by
  rcases givenUp with closed | asked
  · exact .inl (later.closed numbered id closed)
  · exact .inr (later.calls.subset asked)

/-! ## Parts of requests -/

/-- Where the channels are as they were and receipts were added at most. -/
theorem later_of_eq
    {before after : Transport}
    (nextId : before.nextId ≤ after.nextId)
    (calls : before.calls <+: after.calls)
    (receipts : before.receipts <+: after.receipts)
    (channels : after.channels = before.channels) :
    Later before after where
  nextId := nextId
  calls := calls
  issued := receipts.length_le
  settled number old waits := by
    obtain ⟨more, whole⟩ := receipts
    rwa [← whole, List.getElem?_append_left old] at waits
  numbered numbered id channel found := by
    rw [channel?, channels] at found
    obtain ⟨same, old⟩ := numbered id channel found
    exact ⟨same, Nat.lt_of_lt_of_le old nextId⟩
  closed _ id closed := by
    rwa [isClosed, channel?, channels]

theorem later_record
    (transport : Transport)
    (call : Call) :
    Later transport (transport.record call) :=
  later_of_eq (Nat.le_refl _) (List.prefix_append _ _) (List.prefix_refl _) rfl

theorem channel?_alter
    (transport : Transport)
    (id other : ChannelId)
    (change : Channel → Channel) :
    (transport.alter id change).channel? other =
      (transport.channel? other).map fun channel =>
        if other = id then change channel else channel :=
  transport.channels.find?_modify id other change

theorem knows_alter_iff
    (transport : Transport)
    (id other : ChannelId)
    (change : Channel → Channel) :
    (transport.alter id change).Knows other ↔ transport.Knows other := by
  rw [Knows, channel?_alter, Option.isSome_map]
  rfl

theorem knows_of_channels
    {before after : Transport}
    (channels : after.channels = before.channels)
    (id : ChannelId) :
    after.Knows id ↔ before.Knows id := by
  rw [Knows, channel?, channels]
  rfl

/-- A change that keeps the number of a channel, and keeps a closed channel
closed. -/
theorem later_alter
    (transport : Transport)
    (id : ChannelId)
    {change : Channel → Channel}
    (same : ∀ channel, (change channel).id = channel.id)
    (keeps : ∀ channel, channel.isClosed = true → (change channel).isClosed = true) :
    Later transport (transport.alter id change) where
  nextId := Nat.le_refl _
  calls := List.prefix_refl _
  issued := Nat.le_refl _
  settled _ _ waits := waits
  numbered numbered other channel found := by
    rw [channel?_alter] at found
    obtain ⟨earlier, there, rfl⟩ := Option.map_eq_some_iff.mp found
    obtain ⟨named, old⟩ := numbered other earlier there
    refine ⟨?_, old⟩
    split
    · rw [same, named]
    · exact named
  closed _ other closed := by
    rw [isClosed, channel?_alter]
    cases found : transport.channel? other with
    | none => simp [isClosed, found] at closed
    | some channel =>
        have was : channel.isClosed = true := by
          simpa [isClosed, found] using closed
        by_cases here : other = id
        · simp [here, keeps channel was]
        · simp [here, was]

theorem isClosed_markOpen
    {channel : Channel}
    (closed : channel.isClosed = true) :
    channel.markOpen.isClosed = true := by
  simp only [Channel.isClosed, decide_eq_true_eq] at closed
  simp [Channel.isClosed, Channel.markOpen, closed, Status.markOpen, Status.exchange]

theorem isClosed_beginClose
    {channel : Channel}
    (closed : channel.isClosed = true) :
    channel.beginClose.isClosed = true := by
  simp only [Channel.isClosed, decide_eq_true_eq] at closed
  simp [Channel.isClosed, Channel.beginClose, closed, Status.beginClose,
    Status.leaveOpen, Status.leavePending, Status.exchange]

theorem isClosed_mark
    (report : Report)
    {channel : Channel}
    (closed : channel.isClosed = true) :
    (report.mark channel).isClosed = true := by
  cases report with
  | established marks =>
      cases marks with
      | false => exact closed
      | true => exact isClosed_markOpen closed
  | connectFailed reason marks =>
      cases marks with
      | false => exact closed
      | true => rfl
  | read chunk => exact closed
  | broke reason => exact closed
  | closed marks =>
      cases marks with
      | false => exact closed
      | true => rfl

theorem id_mark
    (report : Report)
    (channel : Channel) :
    (report.mark channel).id = channel.id := by
  cases report with
  | established marks => cases marks <;> rfl
  | connectFailed reason marks => cases marks <;> rfl
  | read chunk => rfl
  | broke reason => rfl
  | closed marks => cases marks <;> rfl

theorem later_mark
    (transport : Transport)
    (id : ChannelId)
    (report : Report) :
    Later transport (transport.alter id report.mark) :=
  transport.later_alter id (id_mark report) fun _ closed => isClosed_mark report closed

/-- Asking for a close is recorded and gets a receipt. -/
theorem requestClose_eq
    (transport : Transport)
    (id : ChannelId) :
    (transport.requestClose id).2.calls = transport.calls ++ [.close id] ∧
      transport.receipts <+: (transport.requestClose id).2.receipts ∧
      (transport.requestClose id).2.channels = transport.channels ∧
      (transport.requestClose id).2.listeners = transport.listeners ∧
      (transport.requestClose id).1.number < (transport.requestClose id).2.receipts.length := by
  have extended : ∀ receipt : Receipt, transport.receipts <+: transport.receipts ++ [receipt] :=
    fun receipt => List.prefix_append _ _
  simp only [requestClose]
  cases (transport.record (.close id)).closeMode with
  | confirm => exact ⟨rfl, extended _, rfl, rfl, by simp [issue]⟩
  | hold => exact ⟨rfl, extended _, rfl, rfl, by simp [issue]⟩
  | drop => exact ⟨rfl, extended _, rfl, rfl, by simp [issue]⟩
  | refuse => exact ⟨rfl, extended _, rfl, rfl, by simp [issue]⟩

theorem later_requestClose
    (transport : Transport)
    (id : ChannelId) :
    Later transport (transport.requestClose id).2 := by
  obtain ⟨calls, receipts, channels, -, -⟩ := transport.requestClose_eq id
  refine later_of_eq (Nat.le_of_eq (transport.nextId_requestClose id).symm) ?_ receipts channels
  rw [calls]
  exact List.prefix_append _ _

theorem later_issue
    (transport : Transport)
    (receipt : Receipt) :
    Later transport (transport.issue receipt).2 :=
  later_of_eq (Nat.le_refl _) (List.prefix_refl _) (List.prefix_append _ _) rfl

/-- Adding a channel under a number that was just given out. -/
theorem later_adopt
    {transport : Transport}
    {channel : Channel}
    (new : channel.id = ⟨transport.nextId⟩) :
    Later transport
      ({ transport with nextId := transport.nextId + 1 }.adopt channel) where
  nextId := Nat.le_succ _
  calls := List.prefix_refl _
  issued := Nat.le_refl _
  settled _ _ waits := waits
  numbered numbered other there found := by
    simp only [channel?, adopt, Table.find?_insert] at found
    show there.id = other ∧ other.number < transport.nextId + 1
    split at found
    · rename_i same
      obtain rfl := Option.some.inj found
      refine ⟨same.symm, ?_⟩
      rw [same, new]
      exact Nat.lt_succ_self _
    · obtain ⟨named, old⟩ := numbered other there found
      exact ⟨named, Nat.lt_succ_of_lt old⟩
  closed numbered other closed := by
    have older : other ≠ channel.id := by
      rintro rfl
      cases found : transport.channel? channel.id with
      | none => simp [isClosed, found] at closed
      | some there =>
          have number := (numbered channel.id there found).2
          rw [new] at number
          exact Nat.lt_irrefl _ number
    simpa [isClosed, channel?, adopt, Table.find?_insert, older] using closed

/-! ## Requests of a serial context -/

theorem later_close
    (transport : Transport)
    (id : ChannelId) :
    Later transport (transport.close id).2 := by
  unfold close
  split
  · exact transport.later_issue _
  · have marked : Later transport (transport.alter id (·.beginClose)) :=
      transport.later_alter id (fun _ => rfl) fun _ => isClosed_beginClose
    exact marked.trans (later_requestClose _ id)

theorem knows_close_iff
    (transport : Transport)
    (id other : ChannelId) :
    (transport.close id).2.Knows other ↔ transport.Knows other := by
  rw [close]
  split
  · exact knows_of_channels rfl other
  · have channels := (requestClose_eq (transport.alter id (·.beginClose)) id).2.2.1
    exact (knows_of_channels channels other).trans (transport.knows_alter_iff id other _)

theorem givenUp_close
    (transport : Transport)
    (id : ChannelId) :
    (transport.close id).2.GivenUp id := by
  unfold close
  split
  · rename_i closed
    exact .inl closed
  · right
    rw [(requestClose_eq _ id).1]
    simp

/-- The receipt of a request to close is there. -/
theorem number_lt_close
    (transport : Transport)
    (id : ChannelId) :
    (transport.close id).1.number < (transport.close id).2.receipts.length := by
  unfold close
  split
  · simp [issue]
  · exact (requestClose_eq _ id).2.2.2.2

theorem later_closeListener
    (transport : Transport)
    (listener : Listener) :
    Later transport (transport.closeListener listener).2 :=
  transport.later_requestClose listener.id

theorem later_write
    (transport : Transport)
    (id : ChannelId)
    (bytes : Bytes) :
    Later transport (transport.write id bytes).2 := by
  unfold write
  split
  · exact transport.later_record _
  · exact .refl transport

theorem knows_write_iff
    (transport : Transport)
    (id other : ChannelId)
    (bytes : Bytes) :
    (transport.write id bytes).2.Knows other ↔ transport.Knows other := by
  rw [write]
  split
  · exact knows_of_channels rfl other
  · rfl

theorem later_stop (transport : Transport) : Later transport transport.stop :=
  later_of_eq (Nat.le_refl _) (List.prefix_refl _) (List.prefix_refl _) rfl

theorem later_reenter (transport : Transport) : Later transport transport.reenter := by
  unfold reenter
  split
  · exact later_of_eq (Nat.le_refl _) (List.prefix_append _ _) (List.prefix_refl _) rfl
  · exact .refl transport

theorem later_connect
    (transport : Transport)
    (address : SocketAddress) :
    Later transport (transport.connect address).2.2 := by
  have entered := transport.later_reenter
  have recorded :
      Later transport.reenter
        ({ transport.reenter with failure := none }.record
          (.connect address ⟨transport.reenter.nextId⟩)) :=
    later_of_eq (Nat.le_refl _) (List.prefix_append _ _) (List.prefix_refl _) rfl
  refine (entered.trans recorded).trans ?_
  refine later_adopt ?_
  split
  · rfl
  · rfl

/-- A new connection has the number that is next. -/
theorem knows_connect_iff
    (transport : Transport)
    (address : SocketAddress)
    (other : ChannelId) :
    (transport.connect address).2.2.Knows other ↔
      transport.Knows other ∨ other = ⟨transport.nextId⟩ := by
  have entered : transport.reenter.channels = transport.channels := by
    rw [reenter]
    split
    · rfl
    · rfl
  have number : transport.reenter.nextId = transport.nextId := by
    rw [reenter]
    split
    · rfl
    · rfl
  simp only [Knows, channel?, connect, newId, adopt, Table.find?_insert, record, entered, number,
    apply_ite Channel.id, Channel.markClosed, ite_self]
  by_cases new : other = ⟨transport.nextId⟩
  · simp [new]
  · simp [new]

/-- A connection that failed at once is closed. -/
theorem isClosed_connect
    {transport : Transport}
    {address : SocketAddress}
    {reason : String}
    (failed : (transport.connect address).2.1 = some reason) :
    (transport.connect address).2.2.isClosed ⟨transport.nextId⟩ = true := by
  have planned : transport.reenter.failure = some reason := failed
  simp [connect, newId, planned, isClosed, channel?, adopt, Table.find?_insert,
    Channel.markClosed, Channel.isClosed]

theorem later_bind
    (transport : Transport)
    (address : SocketAddress) :
    Later transport (transport.bind address).2 := by
  have asked := transport.later_reenter.trans (later_record _ (.bind address))
  unfold bind
  simp only
  split
  · exact asked.trans
      (later_of_eq (Nat.le_refl _) (List.prefix_refl _) (List.prefix_refl _) rfl)
  · exact asked.trans
      (later_of_eq (Nat.le_succ _) (List.prefix_refl _) (List.prefix_refl _) rfl)

end Transport

end LineProtocol
