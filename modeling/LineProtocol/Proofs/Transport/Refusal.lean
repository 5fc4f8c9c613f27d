import LineProtocol.Proofs.Transport.Handles

/-!
# Whether a closed channel takes writes

Whoever asked for a close should find that no write is taken any more.  Asking makes two
exchanges, one for an open channel and then one for a pending one.  If the transport opens
the channel between them, both miss, and the channel stays open although the close has
returned.

`refuses_iff` says that there is no other way: where a close has returned or the channel
was reported as closed, writes that begin from then on are refused, unless the channel was
opened between the two exchanges of every close that has returned and no exchange has found
it open since.
-/

namespace LineProtocol

namespace SharedChannel

/-! ## One call on its own -/

/-- A call that is under way gets there by its own steps. -/
def GoesTo
    (shared : SharedChannel)
    (index : Nat)
    (final : SharedChannel) :
    Prop :=
  ∃ count, shared.run? (List.replicate count (.proceed index)) = some final

theorem GoesTo.refl
    (shared : SharedChannel)
    (index : Nat) :
    shared.GoesTo index shared :=
  ⟨0, rfl⟩

theorem GoesTo.next
    {shared final : SharedChannel}
    {index : Nat}
    {call after : HandleCall}
    {transport : Transport}
    (found : shared.calls[index]? = some call)
    (advanced : shared.advance? call = some (after, transport))
    (rest :
      GoesTo { shared with transport, calls := shared.calls.set index after } index final) :
    shared.GoesTo index final := by
  obtain ⟨count, ran⟩ := rest
  refine ⟨count + 1, ?_⟩
  have stepped : shared.step? (.proceed index) =
      some { shared with transport, calls := shared.calls.set index after } := by
    simp only [step?, found, Option.bind_eq_bind, Option.bind_some, advanced]
  rw [List.replicate_succ, run?, List.foldlM_cons, stepped]
  exact ran

/-- What becomes of a channel when a call is made that nothing comes between. -/
def alone (shared : SharedChannel) : Asking → SharedChannel
  | .isWritable =>
      { shared with
        calls :=
          shared.calls ++ [.isWritable (.returned (shared.transport.isWritable shared.id))] }
  | .write bytes =>
      let (outcome, transport) := shared.transport.write shared.id bytes
      { shared with transport, calls := shared.calls ++ [.write bytes (.returned outcome)] }
  | .close =>
      let (ticket, transport) := shared.transport.close shared.id
      { shared with transport, calls := shared.calls ++ [.close (.returned ticket)] }

/-- The next step of the call that was begun last. -/
theorem GoesTo.last
    {id : ChannelId}
    {before transport : Transport}
    {earlier : List HandleCall}
    {call after : HandleCall}
    {final : SharedChannel}
    (advanced :
      advance? { id, transport := before, calls := earlier ++ [call] } call =
        some (after, transport))
    (rest : GoesTo { id, transport, calls := earlier ++ [after] } earlier.length final) :
    GoesTo { id, transport := before, calls := earlier ++ [call] } earlier.length final := by
  refine GoesTo.next (by simp) advanced ?_
  simpa using rest

/-- A call that nothing comes between does what it does on a channel in one hand. -/
theorem goesTo_alone
    (shared : SharedChannel)
    (asking : Asking) :
    GoesTo { shared with calls := shared.calls ++ [asking.call] } shared.calls.length
      (shared.alone asking) := by
  obtain ⟨id, transport, calls⟩ := shared
  cases asking with
  | isWritable => exact .last rfl (.refl _ _)
  | write bytes =>
      unfold alone
      simp only [Asking.call]
      by_cases writable : transport.isWritable id = true
      · rw [Transport.write_eq_pass writable]
        refine .last (by rw [advance?, if_pos writable]) ?_
        exact .last rfl (.refl _ _)
      · rw [Transport.write, if_neg writable]
        exact .last (by rw [advance?, if_neg writable]) (.refl _ _)
  | close =>
      unfold alone
      simp only [Asking.call]
      by_cases closed : transport.isClosed id = true
      · rw [Transport.close, if_pos closed]
        exact .last (by rw [advance?, if_pos closed]) (.refl _ _)
      · rw [Transport.close, if_neg closed]
        refine .last (by rw [advance?, if_neg closed]) ?_
        refine .last rfl ?_
        refine .last rfl ?_
        refine .last rfl ?_
        rw [Transport.alter_alter]
        simp only [Channel.leavePending_leaveOpen]
        exact .refl _ _

/-! ## Asking for a close always returns -/

/-- By its own steps a call that asks for a close comes to have its receipt. -/
def Returns
    (shared : SharedChannel)
    (index : Nat) :
    Prop :=
  ∃ after ticket,
    shared.GoesTo index after ∧ after.calls[index]? = some (.close (.returned ticket))

section

variable
  {shared : SharedChannel}
  {index : Nat}

theorem Returns.next
    {call after : HandleCall}
    {transport : Transport}
    (found : shared.calls[index]? = some call)
    (advanced : shared.advance? call = some (after, transport))
    (rest :
      ∀ next : SharedChannel, next.calls[index]? = some after → next.Returns index) :
    shared.Returns index := by
  have inside := (List.getElem?_eq_some_iff.mp found).1
  obtain ⟨final, ticket, goes, returned⟩ :=
    rest { shared with transport, calls := shared.calls.set index after }
      (List.getElem?_set_self inside)
  exact ⟨final, ticket, goes.next found advanced, returned⟩

theorem returns_of_close
    {phase : ClosePhase}
    (found : shared.calls[index]? = some (.close phase)) :
    shared.Returns index := by
  have returned {ticket : Ticket} (next : SharedChannel)
      (found : next.calls[index]? = some (.close (.returned ticket))) :
      next.Returns index :=
    ⟨next, ticket, .refl _ _, found⟩
  have handing (next : SharedChannel)
      (found : next.calls[index]? = some (.close .handing)) :
      next.Returns index :=
    .next found rfl fun _ found => returned _ found
  have leavingPending (next : SharedChannel)
      (found : next.calls[index]? = some (.close .leavingPending)) :
      next.Returns index :=
    .next found rfl handing
  have leavingOpen (next : SharedChannel)
      (found : next.calls[index]? = some (.close .leavingOpen)) :
      next.Returns index :=
    .next found rfl leavingPending
  cases phase with
  | reading =>
      by_cases closed : shared.transport.isClosed shared.id = true
      · exact .next found (by rw [advance?, if_pos closed]) fun _ found => returned _ found
      · exact .next found (by rw [advance?, if_neg closed]) leavingOpen
  | leavingOpen => exact leavingOpen _ found
  | leavingPending => exact leavingPending _ found
  | handing => exact handing _ found
  | returned ticket => exact returned _ found

end

/-! ## Refusing writes -/

/-- From here on no write that begins is taken: none returns with success, and none
reaches the transport. -/
def Refuses (shared : SharedChannel) : Prop :=
  ∀ later final, shared.run? later = some final →
    ∀ index, shared.calls.length ≤ index →
      ∀ bytes,
        final.calls[index]? ≠ some (.write bytes (.returned (.ok ()))) ∧
          (index, .write shared.id bytes) ∉ shared.passed later

/-- A close has returned, or the channel was reported as closed. -/
def Shut
    (events : List Event)
    (final : SharedChannel) :
    Prop :=
  .markClosed ∈ events ∨
    ∃ (index : Nat) (ticket : Ticket),
      final.calls[index]? = some (.close (.returned ticket))

/-- The channel was opened between the two exchanges of every close that has returned, and
no exchange has found it open since. -/
def Crossed
    (alterations : List Alteration)
    (final : SharedChannel) :
    Prop :=
  ∃ front back,
    alterations = front ++ .markOpen :: back ∧
      (∀ alteration ∈ front, alteration.Early) ∧
      (∀ alteration ∈ back, alteration.Late) ∧
      ∀ index ticket, final.calls[index]? = some (.close (.returned ticket)) →
        .leaveOpen index ∈ front ∧ .leavePending index ∈ back

/-- An open channel takes the next write. -/
theorem not_refuses_of_opened
    {shared : SharedChannel}
    (opened : shared.status = .opened) :
    ¬ shared.Refuses := by
  intro refuses
  have writable := shared.isWritable_iff.mpr opened
  let index := shared.calls.length
  let between : SharedChannel :=
    { shared with calls := shared.calls ++ [.write [] .passing] }
  have before : shared.run? [.begin (.write []), .proceed index] = some between := by
    simp [run?, step?, Asking.call, advance?, writable, index, between]
  have passes : passes? (between, .proceed index) = some (index, .write shared.id []) := by
    simp [passes?, between, index, HandleCall.passes?]
  obtain ⟨final, stepped⟩ : ∃ final, between.step? (.proceed index) = some final := by
    simp [step?, between, index, advance?]
  have ran : shared.run? ([.begin (.write []), .proceed index] ++ [.proceed index]) =
      some final :=
    foldlM_snoc_iff.mpr ⟨between, before, stepped⟩
  apply (refuses _ final ran index (Nat.le_refl _) []).2
  rw [passed_snoc before, passes]
  simp

/-- A channel that was closed or asked to be closed, with the writes that have begun since
some moment. -/
structure Shutting
    (count : Nat)
    (shared : SharedChannel)
    (passed : List (Nat × Call)) : Prop where
  known : shared.transport.Knows shared.id
  left : Status.closing.rank ≤ shared.status.rank
  writes :
    ∀ index bytes phase, count ≤ index →
      shared.calls[index]? = some (.write bytes phase) →
        phase = .reading ∨ phase = .returned (.error (.notWritable shared.id))
  passed :
    ∀ index id bytes, count ≤ index → (index, .write id bytes) ∉ passed

theorem Shutting.not_passing
    {count index : Nat}
    {shared : SharedChannel}
    {passed : List (Nat × Call)}
    (shutting : Shutting count shared passed)
    (new : count ≤ index)
    (bytes : Bytes) :
    shared.calls[index]? ≠ some (.write bytes .passing) := by
  intro found
  cases shutting.writes index bytes .passing new found with
  | inl none_ => cases none_
  | inr none_ => cases none_

theorem eq_passing_of_passes?
    {id other : ChannelId}
    {bytes : Bytes}
    {call : HandleCall}
    (passes : call.passes? id = some (.write other bytes)) :
    call = .write bytes .passing := by
  cases call with
  | isWritable phase => cases passes
  | write others phase =>
      cases phase with
      | passing =>
          cases passes
          rfl
      | _ => cases passes
  | close phase =>
      cases phase with
      | _ => cases passes

theorem Shutting.step
    {count : Nat}
    {shared next : SharedChannel}
    {passed : List (Nat × Call)}
    {event : Event}
    (shutting : Shutting count shared passed)
    (stepped : shared.step? event = some next) :
    Shutting count next (passed ++ (passes? (shared, event)).toList) := by
  have moves := moves_of_step? stepped
  have does := does_of_moves shutting.known moves
  refine ⟨does.known, Nat.le_trans shutting.left does.rank_le, ?_, ?_⟩
  · intro index bytes phase new there
    rw [does.id]
    cases moves.arises there with
    | stays apart found => exact shutting.writes index bytes phase new found
    | @begins asking _ begun fresh =>
        cases asking with
        | write others =>
            cases fresh
            exact .inl rfl
        | _ => cases fresh
    | advances proceeds found advances moved =>
        cases advances with
        | admitted writable =>
            have left := shutting.left
            rw [writable] at left
            exact absurd left (by decide)
        | refused shut => exact .inr rfl
        | passed => exact (shutting.not_passing new bytes found).elim
  · intro index id bytes new member
    rcases List.mem_append.mp member with earlier | now
    · exact shutting.passed index id bytes new earlier
    · cases moves with
      | @proceed moving before after transport found advances =>
          rw [passes?_proceed found] at now
          obtain ⟨call, passes, same⟩ := List.mem_map.mp now
          obtain ⟨rfl, rfl⟩ := Prod.mk.inj same
          rw [eq_passing_of_passes? (Option.mem_toList.mp passes)] at found
          exact shutting.not_passing new bytes found
      | _ => cases now

theorem refuses_of_left
    {shared : SharedChannel}
    (known : shared.transport.Knows shared.id)
    (left : Status.closing.rank ≤ shared.status.rank) :
    shared.Refuses := by
  have starts : Shutting shared.calls.length shared [] := by
    refine ⟨known, left, ?_, fun _ _ _ _ => nofun⟩
    intro index bytes phase new found
    exact absurd (List.getElem?_eq_some_iff.mp found).1 (Nat.not_lt.mpr new)
  intro later final ran
  have shutting : Shutting shared.calls.length final (shared.passed later) := by
    induction ran using foldlM_induction with
    | none => exact starts
    | snoc events event between final before stepped ih =>
        rw [passed_snoc before]
        exact ih.step stepped
  intro index new bytes
  refine ⟨?_, shutting.passed index shared.id bytes new⟩
  intro taken
  cases shutting.writes index bytes _ new taken with
  | inl none_ => cases none_
  | inr none_ => cases none_

/-! ## The status in a run -/

/-- No run takes the status back. -/
theorem rank_le_of_run
    {shared final : SharedChannel}
    {events : List Event}
    (known : shared.transport.Knows shared.id)
    (ran : shared.run? events = some final) :
    shared.status.rank ≤ final.status.rank := by
  have kept (state : SharedChannel) (event : Event) (next : SharedChannel)
      (before : state.transport.Knows state.id ∧ shared.status.rank ≤ state.status.rank)
      (stepped : state.step? event = some next) :
      next.transport.Knows next.id ∧ shared.status.rank ≤ next.status.rank := by
    have does := does_of_moves before.1 (moves_of_step? stepped)
    exact ⟨does.known, Nat.le_trans before.2 does.rank_le⟩
  exact (foldlM_keeps kept ⟨known, Nat.le_refl _⟩ ran).2

section

variable
  {id : ChannelId}
  {peer : Option SocketAddress}
  {closeMode : CloseMode}
  {refusesWrites : Bool}
  {events : List Event}
  {final : SharedChannel}

theorem id_of_run
    (ran : (start id peer closeMode refusesWrites).run? events = some final) :
    final.id = id := by
  induction ran using foldlM_induction with
  | none => rfl
  | snoc events event between final before stepped ih =>
      have sound := sound_run before
      rw [(does_of_moves sound.known (moves_of_step? stepped)).id, ih]

theorem markClosed_mem_alterations
    {shared : SharedChannel}
    (ran : shared.run? events = some final)
    (closed : .markClosed ∈ events) :
    .markClosed ∈ shared.alterations events := by
  induction ran using foldlM_induction with
  | none => cases closed
  | snoc events event between final before stepped ih =>
      rw [alterations_snoc before]
      rcases List.mem_append.mp closed with earlier | now
      · exact List.mem_append_left _ (ih earlier)
      · obtain rfl := List.mem_singleton.mp now
        exact List.mem_append_right _ List.mem_cons_self

end

section

variable
  {alterations : List Alteration}
  {passed : List (Nat × Call)}
  {events : List Event}
  {final : SharedChannel}

/-- A channel that was closed or asked to be closed is not pending. -/
theorem Sound.not_pending
    (sound : Sound final alterations passed)
    (reported : .markClosed ∈ events → .markClosed ∈ alterations)
    (shut : Shut events final) :
    final.status ≠ .pending := by
  intro pending
  have early := (Alteration.outcome_eq_pending_iff alterations).mp (sound.status ▸ pending)
  rcases shut with closed | ⟨index, ticket, returned⟩
  · exact Alteration.not_early_markClosed (early _ (reported closed))
  · rcases sound.accounts index _ returned with ⟨-, closed, -⟩ | ⟨-, -, left⟩
    · rw [pending] at closed
      cases closed
    · exact Alteration.not_early_leavePending index (early _ left)

/-- A channel is open exactly if it was opened within every close that has returned. -/
theorem Sound.opened_iff_crossed (sound : Sound final alterations passed) :
    final.status = .opened ↔ Crossed alterations final := by
  rw [sound.status, Alteration.outcome_eq_opened_iff]
  constructor
  · rintro ⟨front, back, rfl, early, late⟩
    refine ⟨front, back, rfl, early, late, ?_⟩
    intro index ticket returned
    have opened : final.status = .opened :=
      sound.status.trans
        ((Alteration.outcome_eq_opened_iff _).mpr ⟨front, back, rfl, early, late⟩)
    rcases sound.accounts index _ returned with ⟨-, closed, -⟩ | ⟨-, first, second⟩
    · rw [opened] at closed
      cases closed
    -- Behind the opening the first half would have found the channel open, and before it
    -- the second half would have found it pending.
    · refine ⟨?_, ?_⟩
      · refine (List.mem_append.mp first).resolve_right fun behind => ?_
        have late := late _ ((List.mem_cons.mp behind).resolve_left nofun)
        exact Alteration.not_late_leaveOpen index late
      · have behind := (List.mem_append.mp second).resolve_left fun before =>
          Alteration.not_early_leavePending index (early _ before)
        exact (List.mem_cons.mp behind).resolve_left nofun
  · rintro ⟨front, back, whole, early, late, -⟩
    exact ⟨front, back, whole, early, late⟩

end

/-! ## Receipts that are confirmed at once -/

/-- A call that asked for a close found the channel closed. -/
def FoundClosed
    (shared : SharedChannel)
    (events : List Event)
    (index : Nat) :
    Prop :=
  ∃ moment,
    (moment, .proceed index) ∈ visits step? shared events ∧
      moment.calls[index]? = some (.close .reading) ∧
        moment.status = .closed

/-- A close that returned without passing its request on found the channel closed. -/
theorem foundClosed_of_returned
    {shared final : SharedChannel}
    {events : List Event}
    {index : Nat}
    {ticket : Ticket}
    (fresh : shared.calls = [])
    (ran : shared.run? events = some final)
    (returned : final.calls[index]? = some (.close (.returned ticket)))
    (nothing : passedBy index (shared.passed events) = []) :
    shared.FoundClosed events index := by
  induction ran using foldlM_induction with
  | none =>
      rw [fresh] at returned
      cases returned
  | snoc events event between final before stepped ih =>
      have whole := visits_snoc before event
      have earlier
          (found : between.calls[index]? = some (.close (.returned ticket)))
          (nothing : passedBy index (shared.passed events) = []) :
          shared.FoundClosed (events ++ [event]) index := by
        obtain ⟨moment, member, reading, closed⟩ := ih found nothing
        exact ⟨moment, whole ▸ List.mem_append_left _ member, reading, closed⟩
      rw [passed_snoc before] at nothing
      cases (moves_of_step? stepped).arises returned with
      | stays apart found =>
          rw [passedBy_of_ne apart] at nothing
          exact earlier found nothing
      | @begins asking _ begun fresh =>
          cases asking with
          | _ => cases fresh
      | advances proceeds found advances moved =>
          subst proceeds
          rw [passedBy_proceed found, List.append_eq_nil_iff] at nothing
          cases advances with
          | settled closed =>
              refine ⟨between, ?_, found, closed⟩
              rw [whole]
              exact List.mem_append_right _ List.mem_cons_self
          | handed => simp [HandleCall.passes?] at nothing

/-! ## The whole -/

/-- Whatever callers and the transport do, the status goes one way, and every close returns
a receipt that is confirmed at once because the channel was closed, or whose request was
passed on once.  Once a close has returned or the channel was reported as closed, writes
that begin are refused, unless the channel was opened within every close that has
returned. -/
theorem refuses_iff
    {id : ChannelId}
    {peer : Option SocketAddress}
    {closeMode : CloseMode}
    {refusesWrites : Bool}
    {events : List Event}
    {final : SharedChannel}
    (ran : (start id peer closeMode refusesWrites).run? events = some final) :
    (∀ later after,
      final.run? later = some after → final.status.rank ≤ after.status.rank) ∧
      final.transport.calls =
        ((start id peer closeMode refusesWrites).passed events).map (·.2) ∧
      (∀ index phase,
        final.calls[index]? = some (.close phase) → final.Returns index) ∧
      (∀ index ticket,
        final.calls[index]? = some (.close (.returned ticket)) →
          (passedBy index ((start id peer closeMode refusesWrites).passed events) = [] ∧
            (start id peer closeMode refusesWrites).FoundClosed events index ∧
            final.transport.Done ticket) ∨
          passedBy index ((start id peer closeMode refusesWrites).passed events) =
            [.close id]) ∧
      (Shut events final →
        (final.Refuses ↔
          ¬ Crossed ((start id peer closeMode refusesWrites).alterations events) final)) := by
  have sound := sound_run ran
  refine ⟨fun later after => rank_le_of_run sound.known, sound.recorded,
    fun index phase => returns_of_close, ?_, ?_⟩
  · intro index ticket returned
    rcases sound.accounts index _ returned with ⟨nothing, -, done⟩ | ⟨handed, -, -⟩
    · exact .inl ⟨nothing, foundClosed_of_returned rfl ran returned nothing, done⟩
    · rw [id_of_run ran] at handed
      exact .inr handed
  · intro shut
    rw [← sound.opened_iff_crossed]
    constructor
    · intro refuses opened
      exact not_refuses_of_opened opened refuses
    · intro closed
      have left := sound.not_pending (markClosed_mem_alterations ran) shut
      refine refuses_of_left sound.known ?_
      cases status : final.status with
      | pending => exact absurd status left
      | opened => exact absurd status closed
      | closing => decide
      | closed => decide

/-- A thread asks for a close, and the transport opens the channel between the two
exchanges. -/
def crossing : List Event :=
  [.begin .close, .proceed 0, .proceed 0, .markOpen, .proceed 0, .proceed 0]

/-- A close has returned and its request was passed on, but the channel takes writes. -/
theorem refuses_iff_crossed :
    ∃ final,
      (start ⟨7⟩ none .confirm false).run? crossing = some final ∧
        final.calls[0]? = some (.close (.returned ⟨0⟩)) ∧
          final.transport.calls = [.close ⟨7⟩] ∧
            final.status = .opened ∧ ¬ final.Refuses := by
  obtain ⟨final, ran, returned, calls, opened⟩ :
      ∃ final,
        (start ⟨7⟩ none .confirm false).run? crossing = some final ∧
          final.calls = [.close (.returned ⟨0⟩)] ∧
            final.transport.calls = [.close ⟨7⟩] ∧ final.status = .opened :=
    ⟨_, rfl, rfl, rfl, rfl⟩
  obtain ⟨-, -, -, -, refuses⟩ := refuses_iff ran
  have shut : Shut crossing final := .inr ⟨0, ⟨0⟩, by rw [returned]; rfl⟩
  have crossed :
      Crossed ((start ⟨7⟩ none .confirm false).alterations crossing) final := by
    refine ⟨[.leaveOpen 0], [.leavePending 0], rfl, by simp [Alteration.Early],
      by simp [Alteration.Late], ?_⟩
    intro index ticket found
    rw [returned] at found
    cases index with
    | zero => simp
    | succ index => cases found
  exact ⟨final, ran, by rw [returned]; rfl, calls, opened,
    fun refusing => (refuses shut).mp refusing crossed⟩

/-- Not every channel refuses writes once a close of it has returned. -/
theorem not_always_refuses :
    ¬ ∀ (id : ChannelId) (peer : Option SocketAddress) (closeMode : CloseMode)
        (refusesWrites : Bool) (events : List Event) (final : SharedChannel),
      (start id peer closeMode refusesWrites).run? events = some final →
        Shut events final → final.Refuses := by
  intro always
  obtain ⟨final, ran, returned, opened⟩ :
      ∃ final,
        (start ⟨7⟩ none .confirm false).run? crossing = some final ∧
          final.calls[0]? = some (.close (.returned ⟨0⟩)) ∧ final.status = .opened :=
    ⟨_, rfl, rfl, rfl⟩
  exact not_refuses_of_opened opened
    (always ⟨7⟩ none .confirm false crossing final ran (.inr ⟨0, ⟨0⟩, returned⟩))

end SharedChannel

end LineProtocol
