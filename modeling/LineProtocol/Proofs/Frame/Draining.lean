import LineProtocol.Dispatch.Intake
import LineProtocol.Proofs.Frame.Serving

/-!
# Asking a reader until it has no more

`Decoder.Yields` says which frames a reader yields, one question after the
other, up to the first that is answered by none.  Every reader comes to such an
end: a frame uses up a delimiter, or it reports an unclosed piece, which uses
up the whole buffer and leaves the reader skipping.  `Decoder.due` counts both.

The reader that is left is `Decoder.Spent`.  It answers every further question
in the same way and stays as it is.
-/

namespace LineProtocol

namespace Decoder

/-- Asks for a frame so many times, whatever the answers are. -/
def ask (decoder : Decoder) : Nat → List (Option Frame) × Decoder
  | 0 => ([], decoder)
  | count + 1 =>
      let (answer, next) := decoder.next
      let (later, final) := next.ask count
      (answer :: later, final)

/-- The frames that a reader yields when it is asked until it has none, and the
reader that is left then. -/
inductive Yields : Decoder → List Frame → Decoder → Prop where
  | done
      {decoder rest : Decoder}
      (answer : decoder.next = (none, rest)) :
      Yields decoder [] rest
  | more
      {decoder next rest : Decoder}
      {frame : Frame}
      {items : List Frame}
      (answer : decoder.next = (some frame, next))
      (later : Yields next items rest) :
      Yields decoder (frame :: items) rest

/-! ## Every frame is due -/

/-- How many frames a reader yields at most: one for each delimiter and one for
an unclosed piece.  While it is skipping, the first delimiter gives none. -/
def due (decoder : Decoder) : Nat :=
  decoder.buffer.count decoder.framing.delimiter + if decoder.discarding then 0 else 1

theorem due_of_reading
    {decoder : Decoder}
    (reading : decoder.discarding = false) :
    decoder.due = decoder.buffer.count decoder.framing.delimiter + 1 := by
  simp [due, reading]

theorem due_of_skipping
    {decoder : Decoder}
    (skipping : decoder.discarding = true) :
    decoder.due = decoder.buffer.count decoder.framing.delimiter := by
  simp [due, skipping]

theorem due_le (decoder : Decoder) :
    decoder.due ≤ decoder.buffer.count decoder.framing.delimiter + 1 := by
  cases way : decoder.discarding with
  | false => exact Nat.le_of_eq (due_of_reading way)
  | true =>
      rw [due_of_skipping way]
      exact Nat.le_succ _

/-- Octets up to and including a delimiter hold at least that one. -/
theorem count_drop_lt
    {delimiter : UInt8}
    {octets : Bytes}
    {stop : Nat}
    (here : octets[stop]? = some delimiter) :
    (octets.drop (stop + 1)).count delimiter < octets.count delimiter := by
  obtain ⟨short, here⟩ := List.getElem?_eq_some_iff.mp here
  have parts : octets = octets.take stop ++ delimiter :: octets.drop (stop + 1) := by
    rw [← here, ← List.drop_eq_getElem_cons short, List.take_append_drop]
  have counts := congrArg (List.count delimiter) parts
  rw [List.count_append, List.count_cons_self] at counts
  omega

/-- Behind a frame that a search found, no more is due than delimiters were
waiting before it. -/
theorem due_scan
    {decoder rest : Decoder}
    {frame : Frame}
    (answer : decoder.scan = (some frame, rest)) :
    rest.due ≤ decoder.buffer.count decoder.framing.delimiter := by
  rcases decoder.scan_cases with
    ⟨stop, here, scanned⟩ | ⟨limit, -, -, scanned⟩ | ⟨-, scanned⟩
  · obtain ⟨-, rfl⟩ := Prod.mk.inj (scanned.symm.trans answer)
    exact Nat.le_trans (due_le _) (Nat.succ_le_of_lt (count_drop_lt here))
  · obtain ⟨-, rfl⟩ := Prod.mk.inj (scanned.symm.trans answer)
    simp [due]
  · simp [scanned] at answer

/-- Every frame was due.  The delimiter that ends the skipping was due without a
frame, and makes up for the piece behind it. -/
theorem due_next
    {decoder rest : Decoder}
    {frame : Frame}
    (answer : decoder.next = (some frame, rest)) :
    rest.due < decoder.due := by
  rcases decoder.next_cases with
    ⟨reading, asked⟩ | ⟨skipping, stop, here, asked⟩ | ⟨-, asked⟩
  · rw [due_of_reading reading]
    exact Nat.lt_succ_of_le (due_scan (asked.symm.trans answer))
  · rw [due_of_skipping skipping]
    have left := due_scan (asked.symm.trans answer)
    exact Nat.lt_of_le_of_lt left (count_drop_lt here)
  · simp [asked] at answer

/-! ## Readers that have no more -/

/-- A reader has searched all that it has, or dropped it. -/
inductive Spent : Decoder → Prop where
  | reading
      {framing : Framing}
      {buffer : Bytes}
      (within : ¬ framing.Exceeds buffer) :
      Spent { framing, buffer, scanned := buffer.length, discarding := false }
  | skipping
      {framing : Framing}
      {scanned : Nat} :
      Spent { framing, buffer := [], scanned, discarding := true }

/-- A reader that has no more says so and stays as it is. -/
theorem Spent.next
    {decoder : Decoder}
    (spent : decoder.Spent) :
    decoder.next = (none, decoder) := by
  cases spent with
  | skipping => rfl
  | @reading framing buffer within =>
      have nowhere :
          delimiterAt? { framing, buffer, scanned := buffer.length, discarding := false } =
            none := by
        simp [delimiterAt?]
      rw [Decoder.next, if_neg (by simp), scan, nowhere]
      simp only [unterminated]
      split
      · rfl
      · rename_i limit limited
        rw [if_neg fun long => within ⟨limit, limited, long⟩]

theorem Spent.buffered_le
    {decoder : Decoder}
    {limit : Nat}
    (spent : decoder.Spent)
    (limited : decoder.framing.limit = some limit) :
    decoder.buffered ≤ limit := by
  cases spent with
  | skipping => exact Nat.zero_le limit
  | reading within => exact Nat.le_of_not_lt fun long => within ⟨limit, limited, long⟩

theorem spent_scan
    {decoder rest : Decoder}
    (reading : decoder.discarding = false)
    (answer : decoder.scan = (none, rest)) :
    rest.Spent := by
  rcases decoder.scan_cases with
    ⟨stop, -, scanned⟩ | ⟨limit, -, -, scanned⟩ | ⟨within, scanned⟩
  · simp [scanned] at answer
  · simp [scanned] at answer
  · obtain ⟨-, rfl⟩ := Prod.mk.inj (scanned.symm.trans answer)
    rw [reading]
    exact .reading within

/-- A question that is answered by none leaves a reader that has no more. -/
theorem spent_next
    {decoder rest : Decoder}
    (answer : decoder.next = (none, rest)) :
    rest.Spent := by
  rcases decoder.next_cases with
    ⟨reading, asked⟩ | ⟨-, stop, -, asked⟩ | ⟨discarding, asked⟩
  · exact spent_scan reading (asked.symm.trans answer)
  · exact spent_scan rfl (asked.symm.trans answer)
  · obtain ⟨-, rfl⟩ := Prod.mk.inj (asked.symm.trans answer)
    rw [discarding]
    exact .skipping

theorem framing_scan (decoder : Decoder) : decoder.scan.2.framing = decoder.framing := by
  rcases decoder.scan_cases with
    ⟨stop, -, scanned⟩ | ⟨limit, -, -, scanned⟩ | ⟨-, scanned⟩ <;>
    rw [scanned]

theorem framing_next (decoder : Decoder) : decoder.next.2.framing = decoder.framing := by
  rcases decoder.next_cases with ⟨-, asked⟩ | ⟨-, stop, -, asked⟩ | ⟨-, asked⟩
  · rw [asked, framing_scan]
  · rw [asked, framing_scan]
  · rw [asked]

theorem Spent.ask
    {decoder : Decoder}
    (spent : decoder.Spent)
    (count : Nat) :
    decoder.ask count = (List.replicate count none, decoder) := by
  induction count with
  | zero => rfl
  | succ count ih => simp only [Decoder.ask, spent.next, ih, List.replicate_succ]

/-! ## Until there is no more -/

section

variable {decoder rest : Decoder} {items : List Frame}

theorem Yields.length_le_due (yields : Yields decoder items rest) :
    items.length ≤ decoder.due := by
  induction yields with
  | done answer => exact Nat.zero_le _
  | more answer later ih =>
      have less := due_next answer
      rw [List.length_cons]
      omega

theorem Yields.length_le_buffered (yields : Yields decoder items rest) :
    items.length ≤ decoder.buffered := by
  induction yields with
  | done answer => exact Nat.zero_le _
  | more answer later ih =>
      have less := buffered_next answer
      rw [List.length_cons]
      omega

theorem Yields.spent (yields : Yields decoder items rest) : rest.Spent := by
  induction yields with
  | done answer => exact spent_next answer
  | more answer later ih => exact ih

theorem Yields.framing_eq (yields : Yields decoder items rest) :
    rest.framing = decoder.framing := by
  induction yields with
  | @done decoder rest answer =>
      have kept := decoder.framing_next
      rwa [answer] at kept
  | @more decoder next rest frame items answer later ih =>
      have kept := decoder.framing_next
      rw [answer] at kept
      exact ih.trans kept

/-- At the end no more is waiting than the limit allows. -/
theorem Yields.buffered_le
    (yields : Yields decoder items rest)
    {limit : Nat}
    (limited : decoder.framing.limit = some limit) :
    rest.buffered ≤ limit := by
  rw [← yields.framing_eq] at limited
  exact yields.spent.buffered_le limited

/-- Asking on and on gives the frames and then none for ever. -/
theorem Yields.ask
    (yields : Yields decoder items rest)
    (again : Nat) :
    decoder.ask (items.length + 1 + again) =
      (items.map some ++ List.replicate (1 + again) none, rest) := by
  induction yields with
  | @done decoder rest answer =>
      have spent := spent_next answer
      rw [List.length_nil, Nat.zero_add, Nat.add_comm 1 again]
      simp only [Decoder.ask, answer, spent.ask, List.replicate_succ]
      rfl
  | more answer later ih =>
      rw [List.length_cons, Nat.add_right_comm _ 1 1, Nat.add_right_comm _ 1 again]
      simp only [Decoder.ask, answer, ih]
      rfl

/-- Whoever would take more frames than there are takes them all. -/
theorem Yields.take
    (yields : Yields decoder items rest)
    (spare : Nat) :
    decoder.take (items.length + 1 + spare) = (items, rest) := by
  induction yields with
  | done answer =>
      rw [List.length_nil, Nat.zero_add, Nat.add_comm 1 spare, take_succ, answer]
  | more answer later ih =>
      rw [List.length_cons, Nat.add_right_comm _ 1 1, Nat.add_right_comm _ 1 spare, take_succ,
        answer]
      simp only [ih]

/-- Sorting a chunk's frames ends with them, or before, at one that is too long. -/
theorem Yields.sortOnto
    (yields : Yields decoder items rest)
    (done : Delivery)
    (spare : Nat) :
    Intake.sortOnto done (items.length + 1 + spare) decoder =
      Intake.sortOnto done (items.length + 1) decoder := by
  induction yields generalizing done with
  | done answer =>
      rw [List.length_nil, Nat.zero_add, Nat.add_comm 1 spare]
      simp only [Intake.sortOnto, answer]
  | @more decoder next rest frame items answer later ih =>
      rw [List.length_cons, Nat.add_right_comm _ 1 spare]
      simp only [Intake.sortOnto, answer]
      -- Only a frame that is too long ends the sorting before the reader does.
      match frame with
      | .ok message => exact ih _
      | .error (.undecodable length valid) => exact ih _
      | .error (.tooLong length limit) => rfl

end

/-- Every reader comes to an end. -/
theorem exists_yields (decoder : Decoder) :
    ∃ items rest, Yields decoder items rest := by
  induction amount : decoder.due using Nat.strongRecOn generalizing decoder with
  | _ amount ih =>
      subst amount
      match answer : decoder.next with
      | (none, rest) => exact ⟨[], rest, .done answer⟩
      | (some frame, next) =>
          obtain ⟨items, rest, later⟩ := ih next.due (due_next answer) next rfl
          exact ⟨frame :: items, rest, .more answer later⟩

/-- Taking every frame takes those up to the end. -/
theorem yields_drain (decoder : Decoder) :
    Yields decoder decoder.drain.1 decoder.drain.2 := by
  obtain ⟨items, rest, yields⟩ := decoder.exists_yields
  obtain ⟨spare, enough⟩ := Nat.exists_eq_add_of_le yields.length_le_buffered
  have drained : decoder.drain = (items, rest) := by
    rw [drain, enough, Nat.add_right_comm]
    exact yields.take spare
  rwa [drained]

/-- However a reader stands, asking it again and again gives at most as many
frames as delimiters are waiting, and one.  These are the frames that `drain`
takes; whoever asks further gets none for ever, and the reader stays as it is.
That is so behind every question that is answered by none, and then no more is
waiting than the limit allows.  Sorting the frames of a chunk asks no more
often either. -/
theorem drain_exhausts (decoder : Decoder) :
    let items : List Frame := decoder.drain.1
    let rest : Decoder := decoder.drain.2
    items.length ≤ decoder.buffer.count decoder.framing.delimiter + 1 ∧
      (∀ again : Nat,
        decoder.ask (items.length + 1 + again) =
          (items.map some ++ List.replicate (1 + again) none, rest)) ∧
      (∀ limit, decoder.framing.limit = some limit → rest.buffered ≤ limit) ∧
      (∀ spent : Decoder,
        decoder.next = (none, spent) →
          (∀ again : Nat, spent.ask again = (List.replicate again none, spent)) ∧
            ∀ limit, decoder.framing.limit = some limit → spent.buffered ≤ limit) ∧
      (∀ (done : Delivery) (spare : Nat),
        Intake.sortOnto done (items.length + 1 + spare) decoder =
          Intake.sortOnto done (items.length + 1) decoder) := by
  intro items rest
  have yields : Yields decoder items rest := decoder.yields_drain
  refine
    ⟨Nat.le_trans yields.length_le_due decoder.due_le, yields.ask,
      fun limit limited => yields.buffered_le limited, ?_, yields.sortOnto⟩
  intro spent answer
  have ends : Yields decoder [] spent := .done answer
  exact ⟨ends.spent.ask, fun limit limited => ends.buffered_le limited⟩

/-- No octets are allowed: an empty piece is a frame and any other is too long.
The reader gives one frame more than delimiters are waiting. -/
theorem drain_exhausts_no_octets :
    let framing : Framing := { delimiter := 10, limit := some 0 }
    let decoder : Decoder := { framing, buffer := [10, 65] }
    let rest : Decoder := { framing, discarding := true }
    framing.limit = some 0 ∧
      decoder.drain = ([.ok "", .error (.tooLong 1 0)], rest) ∧
      decoder.ask 5 =
        ([some (.ok ""), some (.error (.tooLong 1 0)), none, none, none], rest) ∧
      rest.next = (none, rest) ∧
      rest.ask 3 = ([none, none, none], rest) ∧
      rest.buffered ≤ 0 := by
  intro framing decoder rest
  have drained : decoder.drain = ([.ok "", .error (.tooLong 1 0)], rest) := by
    decide +kernel
  have answer : rest.next = (none, rest) := by decide
  obtain ⟨-, asked, within, -, -⟩ := drain_exhausts decoder
  obtain ⟨-, -, -, stays, -⟩ := drain_exhausts rest
  rw [drained] at asked within
  exact ⟨rfl, drained, asked 2, answer, (stays rest answer).1 3, within 0 rfl⟩

end Decoder

end LineProtocol
