import LineProtocol.Proofs.Transport.Later

/-!
# What a transport is asked for

`Transport.Asks` says of an earlier and a later transport that no listener was
bound in between, and which requests were made.  Outside of a serial context
these are requests to close, and nothing else.
-/

namespace LineProtocol

/-- The request is to close one of some channels. -/
def Call.Closes
    (among : ChannelId → Prop)
    (call : Call) :
    Prop :=
  ∃ id, call = .close id ∧ among id

/-- If the request is to close a channel, it is one of some. -/
def Call.Spares
    (among : ChannelId → Prop)
    (call : Call) :
    Prop :=
  ∀ id, call = .close id → among id

theorem Call.Closes.mono
    {among others : ChannelId → Prop}
    {call : Call}
    (closes : call.Closes among)
    (weaker : ∀ id, among id → others id) :
    call.Closes others := by
  obtain ⟨id, same, known⟩ := closes
  exact ⟨id, same, weaker id known⟩

theorem Call.Closes.spares
    {among : ChannelId → Prop}
    {call : Call}
    (closes : call.Closes among) :
    call.Spares among := by
  obtain ⟨id, rfl, known⟩ := closes
  rintro other ⟨⟩
  exact known

namespace Transport

/-- Nothing was taken back, no listener was bound, and only certain requests
were made. -/
structure Asks
    (among : Call → Prop)
    (before after : Transport) : Prop extends Later before after where
  listeners : after.listeners = before.listeners
  requests :
    ∃ more, after.calls = before.calls ++ more ∧ ∀ call ∈ more, among call

variable {among : Call → Prop}

theorem Asks.refl (transport : Transport) : Asks among transport transport where
  toLater := .refl transport
  listeners := rfl
  requests := ⟨[], by simp, by simp⟩

theorem Asks.trans
    {first second third : Transport}
    (one : Asks among first second)
    (two : Asks among second third) :
    Asks among first third where
  toLater := one.toLater.trans two.toLater
  listeners := two.listeners.trans one.listeners
  requests := by
    obtain ⟨early, calls, here⟩ := one.requests
    obtain ⟨late, longer, there⟩ := two.requests
    refine ⟨early ++ late, by rw [longer, calls, List.append_assoc], ?_⟩
    intro call member
    rcases List.mem_append.mp member with first | second
    · exact here call first
    · exact there call second

theorem Asks.mono
    {others : Call → Prop}
    {before after : Transport}
    (asks : Asks among before after)
    (weaker : ∀ call, among call → others call) :
    Asks others before after where
  toLater := asks.toLater
  listeners := asks.listeners
  requests := by
    obtain ⟨more, calls, known⟩ := asks.requests
    exact ⟨more, calls, fun call member => weaker call (known call member)⟩

/-- Where nothing was asked for. -/
theorem Later.asks
    {before after : Transport}
    (later : Later before after)
    (calls : after.calls = before.calls)
    (listeners : after.listeners = before.listeners) :
    Asks among before after where
  toLater := later
  listeners := listeners
  requests := ⟨[], by simp [calls], by simp⟩

/-! ## Requests -/

theorem asks_record
    (transport : Transport)
    {call : Call}
    (known : among call) :
    Asks among transport (transport.record call) where
  toLater := transport.later_record call
  listeners := rfl
  requests := ⟨[call], rfl, by simpa using known⟩

theorem asks_requestClose
    (transport : Transport)
    {id : ChannelId}
    (known : among (.close id)) :
    Asks among transport (transport.requestClose id).2 where
  toLater := transport.later_requestClose id
  listeners := (transport.requestClose_eq id).2.2.2.1
  requests := ⟨[.close id], (transport.requestClose_eq id).1, by simpa using known⟩

theorem asks_close
    (transport : Transport)
    {id : ChannelId}
    (known : among (.close id)) :
    Asks among transport (transport.close id).2 := by
  rw [close]
  split
  · exact (transport.later_issue _).asks rfl rfl
  · have marked : Later transport (transport.alter id (·.beginClose)) :=
      transport.later_alter id (fun _ => rfl) fun _ => isClosed_beginClose
    exact (marked.asks rfl rfl).trans (asks_requestClose _ known)

theorem asks_write
    (transport : Transport)
    {id : ChannelId}
    {bytes : Bytes}
    (known : among (.write id bytes)) :
    Asks among transport (transport.write id bytes).2 := by
  rw [write]
  split
  · exact transport.asks_record known
  · exact .refl transport

theorem asks_stop (transport : Transport) : Asks among transport transport.stop :=
  transport.later_stop.asks rfl rfl

/-! ## The other side -/

theorem asks_mark
    (transport : Transport)
    (id : ChannelId)
    (report : Report) :
    Asks among transport (transport.alter id report.mark) :=
  (transport.later_mark id report).asks rfl rfl

theorem asks_configured
    (transport : Transport)
    (closeMode : Option CloseMode)
    (refusesWrites : Option Bool) :
    Asks among transport (transport.configured closeMode refusesWrites) := by
  have later : Later transport (transport.configured closeMode refusesWrites) :=
    later_of_eq (Nat.le_refl _) (List.prefix_refl _) (List.prefix_refl _) rfl
  exact later.asks rfl rfl

/-- What is planned for the next request. -/
theorem asks_planned
    (transport : Transport)
    (failure : Option String)
    (reenters : Bool) :
    Asks among transport { transport with failure, reenters } := by
  have later : Later transport { transport with failure, reenters } :=
    later_of_eq (Nat.le_refl _) (List.prefix_refl _) (List.prefix_refl _) rfl
  exact later.asks rfl rfl

/-- Others take numbers. -/
theorem asks_numbers
    (transport : Transport)
    (count : Nat) :
    Asks among transport { transport with nextId := transport.nextId + count } := by
  have later : Later transport { transport with nextId := transport.nextId + count } :=
    later_of_eq (Nat.le_add_right _ _) (List.prefix_refl _) (List.prefix_refl _) rfl
  exact later.asks rfl rfl

theorem foldl_set
    {receipt : Receipt}
    (known : receipt ≠ .waiting)
    (entries : List (ChannelId × Ticket))
    (receipts : List Receipt) :
    (entries.foldl (fun receipts entry => receipts.set entry.2.number receipt)
          receipts).length = receipts.length ∧
      ∀ number : Nat,
        (entries.foldl (fun receipts entry => receipts.set entry.2.number receipt)
            receipts)[number]? = some .waiting →
          receipts[number]? = some .waiting := by
  induction entries generalizing receipts with
  | nil => exact ⟨rfl, fun _ waits => waits⟩
  | cons entry rest ih =>
      obtain ⟨length, waiting⟩ := ih (receipts.set entry.2.number receipt)
      refine ⟨length.trans List.length_set, ?_⟩
      intro number waits
      have set := waiting number waits
      rw [List.getElem?_set] at set
      split at set
      · split at set
        · exact (known (Option.some.inj set)).elim
        · simp at set
      · exact set

theorem asks_settle
    (transport : Transport)
    (chosen : ChannelId → Bool)
    {receipt : Receipt}
    (known : receipt ≠ .waiting) :
    Asks among transport (transport.settle chosen receipt) := by
  obtain ⟨length, waiting⟩ :=
    foldl_set known (transport.held.partition fun entry => chosen entry.1).1
      transport.receipts
  have later : Later transport (transport.settle chosen receipt) := by
    refine ⟨Nat.le_refl _, List.prefix_refl _, Nat.le_of_eq length.symm, ?_, ?_, ?_⟩
    · intro number _ waits
      exact waiting number waits
    · exact fun numbered => numbered
    · exact fun _ _ closed => closed
  exact later.asks rfl rfl

theorem asks_accept
    {transport : Transport}
    {channel : Channel}
    (new : channel.id = ⟨transport.nextId⟩) :
    Asks among transport
      ({ transport with nextId := transport.nextId + 1 }.adopt channel) :=
  (later_adopt new).asks rfl rfl

end Transport

end LineProtocol
