import LineProtocol.Engine.WriteBuffer
import LineProtocol.Proofs.Run

/-!
# No octet is lost on the way to a socket

What a socket has taken and what still waits are together what was accepted, in the order in
which it came.  The socket may take as little as it likes each time, may have no room, and
may want to be asked again: nothing of this moves, drops or repeats an octet.  Octets that
are refused are refused as a whole, and what waits never exceeds the limit.

`Moves` says what one call does to a buffer; calls that follow each other are put together
with `Moves.trans`.
-/

namespace LineProtocol

namespace WriteBuffer

variable {buffer between next final : WriteBuffer}

/-- A buffer has taken octets in, and perhaps has handed some to the socket. -/
structure Moves
    (buffer : WriteBuffer)
    (bytes : Bytes)
    (next : WriteBuffer) :
    Prop where
  limit : next.limit = buffer.limit
  whole : next.sent ++ next.pending = buffer.sent ++ buffer.pending ++ bytes
  /-- What the socket took it does not give back. -/
  sent : buffer.sent <+: next.sent
  bounded : buffer.pending.length ≤ buffer.limit → next.pending.length ≤ next.limit

theorem Moves.refl (buffer : WriteBuffer) : Moves buffer [] buffer where
  limit := rfl
  whole := (List.append_nil _).symm
  sent := List.prefix_refl _
  bounded := id

theorem Moves.trans
    {bytes later : Bytes}
    (first : Moves buffer bytes between)
    (second : Moves between later next) :
    Moves buffer (bytes ++ later) next where
  limit := second.limit.trans first.limit
  whole := by rw [second.whole, first.whole, List.append_assoc]
  sent := first.sent.trans second.sent
  bounded := second.bounded ∘ first.bounded

/-! ## What a call does -/

theorem moves_advance
    (buffer : WriteBuffer)
    (count : Nat) :
    Moves buffer [] (buffer.advance count) where
  limit := rfl
  whole := by simp
  sent := List.prefix_append _ _
  bounded small := by
    rw [advance, List.length_drop]
    exact Nat.le_trans (Nat.sub_le _ _) small

theorem moves_append
    {bytes : Bytes}
    (room : buffer.fits bytes = true) :
    Moves buffer bytes (buffer.append bytes) where
  limit := rfl
  whole := (List.append_assoc _ _ _).symm
  sent := List.prefix_refl _
  bounded _ := by simpa [fits, append] using room

/-- The socket takes from the front of what waits, a part at a time. -/
theorem moves_flush
    (buffer : WriteBuffer)
    (answers : List SocketAnswer) :
    Moves buffer [] (buffer.flush answers).2 := by
  fun_induction flush buffer answers with
  | case4 buffer answers _ count _ ih => exact (moves_advance buffer count).trans ih
  | case6 buffer answers _ ih => exact ih
  | _ => exact .refl _

theorem moves_push
    {bytes : Bytes}
    (room : buffer.fits bytes = true)
    (answers : List SocketAnswer) :
    Moves buffer bytes (buffer.push bytes answers).2 := by
  have moves := (moves_append room).trans (moves_flush (buffer.append bytes) answers)
  rw [List.append_nil] at moves
  exact moves

theorem push_cases
    {bytes : Bytes}
    {answers : List SocketAnswer}
    {taken : Bool}
    (room : buffer.fits bytes = true)
    (answered : buffer.push bytes answers = (.ok taken, next)) :
    taken = true ∧ Moves buffer bytes next := by
  have moves := moves_push room answers
  rw [answered] at moves
  refine ⟨?_, moves⟩
  have said : ((buffer.append bytes).flush answers).1.map (fun _ => true) = .ok taken :=
    congrArg Prod.fst answered
  cases outcome : ((buffer.append bytes).flush answers).1 with
  | error reason => exact nomatch outcome ▸ said
  | ok left =>
      rw [outcome] at said
      exact (Except.ok.inj said).symm

/-- Octets are taken in as a whole, or refused as a whole for want of room. -/
theorem queue_cases
    {bytes : Bytes}
    {answers : List SocketAnswer}
    {taken : Bool}
    (answered : buffer.queue bytes answers = (.ok taken, next)) :
    (taken = true ∧ Moves buffer bytes next) ∨
      taken = false ∧ next = (buffer.flush answers).2 ∧ next.fits bytes = false := by
  rw [queue] at answered
  split at answered
  case isTrue room => exact .inl (push_cases room answered)
  case isFalse =>
    have offered := moves_flush buffer answers
    split at answered
    case h_1 => cases answered
    case h_2 left between flushed =>
      rw [flushed] at offered ⊢
      split at answered
      case isTrue room =>
        obtain ⟨rfl, moves⟩ := push_cases room answered
        exact .inl ⟨rfl, offered.trans moves⟩
      case isFalse full =>
        obtain ⟨said, rfl⟩ := Prod.mk.inj answered
        exact .inr ⟨(Except.ok.inj said).symm, rfl, Bool.eq_false_iff.mpr full⟩

/-! ## Calls in a row -/

/-- What the owner of a connection does with its buffer, and what the socket answers. -/
inductive Call where
  | queue (bytes : Bytes) (answers : List SocketAnswer)
  | flush (answers : List SocketAnswer)

/-- One call, unless it fails. -/
def step? (buffer : WriteBuffer) : Call → Option WriteBuffer
  | .queue bytes answers =>
      match buffer.queue bytes answers with
      | (.ok _, next) => some next
      | (.error _, _) => none
  | .flush answers =>
      match buffer.flush answers with
      | (.ok _, next) => some next
      | (.error _, _) => none

/-- The octets that a call takes in. -/
def accepts : WriteBuffer × Call → Bytes
  | (buffer, .queue bytes answers) =>
      match (buffer.queue bytes answers).1 with
      | .ok true => bytes
      | _ => []
  | (_, .flush _) => []

/-- The octets that were taken in by some calls. -/
def accepted
    (buffer : WriteBuffer)
    (calls : List Call) :
    Bytes :=
  (visits step? buffer calls).flatMap accepts

theorem moves_of_step?
    {call : Call}
    (stepped : buffer.step? call = some next) :
    Moves buffer (accepts (buffer, call)) next := by
  cases call with
  | queue bytes answers =>
      rw [step?] at stepped
      split at stepped
      case h_2 => cases stepped
      case h_1 taken after answered =>
        obtain rfl := Option.some.inj stepped
        rw [accepts, answered]
        rcases queue_cases answered with ⟨rfl, moves⟩ | ⟨rfl, rfl, -⟩
        · exact moves
        · exact moves_flush buffer answers
  | flush answers =>
      rw [step?] at stepped
      split at stepped
      case h_2 => cases stepped
      case h_1 left after answered =>
        obtain rfl := Option.some.inj stepped
        have moves := moves_flush buffer answers
        rw [answered] at moves
        exact moves

theorem moves_of_run
    {calls : List Call}
    (ran : calls.foldlM step? buffer = some final) :
    Moves buffer (buffer.accepted calls) final := by
  induction ran using foldlM_induction with
  | none => exact .refl buffer
  | snoc calls call between final before stepped ih =>
      rw [accepted, visits_snoc before, List.flatMap_append, List.flatMap_singleton]
      exact ih.trans (moves_of_step? stepped)

/-- What calls that did not fail have left in a new buffer. -/
structure Conserves
    (limit : Nat)
    (calls : List Call)
    (final : WriteBuffer) :
    Prop where
  whole : final.sent ++ final.pending = accepted { limit } calls
  bounded : final.pending.length ≤ limit
  /-- What is refused leaves nothing behind; it is refused after the socket was offered what
  waits, and only if there is no room even then. -/
  refused :
    ∀ bytes answers next, final.queue bytes answers = (.ok false, next) →
      next.sent ++ next.pending = final.sent ++ final.pending ∧
        next = (final.flush answers).2 ∧ limit < next.pending.length + bytes.length

/-- Whatever the socket does, what it took and what waits is what was accepted. -/
theorem conserves_of_run
    {limit : Nat}
    {calls : List Call}
    (ran : calls.foldlM step? { limit } = some final) :
    Conserves limit calls final := by
  have moves := moves_of_run ran
  have small := moves.bounded (Nat.zero_le _)
  rw [moves.limit] at small
  refine ⟨moves.whole, small, ?_⟩
  intro bytes answers next refused
  rcases queue_cases refused with ⟨taken, -⟩ | ⟨-, rfl, full⟩
  · cases taken
  · have offered := moves_flush final answers
    refine ⟨offered.whole.trans (List.append_nil _), rfl, ?_⟩
    simpa [fits, offered.limit, moves.limit] using full

/-- A socket that takes octets one by one, has no room, and wants to be asked again. -/
theorem conserves_of_run_slow_socket :
    let calls : List Call :=
      [.queue [1, 2, 3] [.took 1, .full], .queue [4, 5, 6] [.interrupted, .full],
        .queue [7] [.full], .flush [.interrupted, .took 2], .queue [8, 9] [.took 1, .took 9]]
    ∃ final,
      calls.foldlM step? { limit := 4 } = some final ∧ Conserves 4 calls final ∧
        accepted { limit := 4 } calls = [1, 2, 3, 7, 8, 9] := by
  intro calls
  exact ⟨_, rfl, conserves_of_run rfl, rfl⟩

end WriteBuffer

end LineProtocol
