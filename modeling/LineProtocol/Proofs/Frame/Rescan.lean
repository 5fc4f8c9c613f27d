import LineProtocol.Frame.Rescan
import LineProtocol.Proofs.Frame.Serving

/-!
# Going on with a search, and searching again

A reader's mark says how much of the buffer was searched in vain.  It is right
as long as it stays inside the buffer, no delimiter stands in front of it and
there is none while a piece is being skipped: that is `Decoder.Marked`, and
every reader that follows some stream is marked so.

A marked reader cuts its buffer at places inside it only, and it finds what a
`Rescanner` finds that has the same octets.  So whatever is done to the two,
they cannot be told apart.
-/

namespace LineProtocol

/-! ## Using a reader -/

/-- What is done to a reader. -/
inductive Use where
  | feed (chunk : Bytes)
  /-- It is asked for one frame. -/
  | next
  | draw (draw : Draw)
  deriving Repr, DecidableEq

/-- What is seen of one use: the frames that came of it, and how many octets
are waiting after it. -/
structure Sight where
  frames : List Frame
  buffered : Nat
  deriving Repr, DecidableEq

/-- How a reader of some kind is used. -/
structure Reading (σ : Type) where
  feed : σ → Bytes → σ
  next : σ → Option Frame × σ
  take : σ → Nat → List Frame × σ
  drain : σ → List Frame × σ
  buffered : σ → Nat

def Decoder.reading : Reading Decoder :=
  { feed, next, take, drain, buffered }

def Rescanner.reading : Reading Rescanner :=
  { feed, next, take, drain, buffered }

namespace Reading

variable {σ τ : Type}

/-- One use: the frames that come of it, and the reader then. -/
def perform
    (reading : Reading σ)
    (state : σ) :
    Use → List Frame × σ
  | .feed chunk => ([], reading.feed state chunk)
  | .next => ((reading.next state).1.toList, (reading.next state).2)
  | .draw .every => reading.drain state
  | .draw (.atMost count) => reading.take state count

/-- Any uses one after the other: what is seen of each, and the reader then. -/
def observe
    (reading : Reading σ)
    (state : σ) :
    List Use → List Sight × σ
  | [] => ([], state)
  | use :: uses =>
      let (frames, next) := reading.perform state use
      let (sights, final) := reading.observe next uses
      (⟨frames, reading.buffered next⟩ :: sights, final)

/-- What every use keeps holds after any uses. -/
theorem observe_keeps
    {reading : Reading σ}
    {good : σ → Prop}
    (kept : ∀ state use, good state → good (reading.perform state use).2)
    {state : σ}
    (starts : good state)
    (uses : List Use) :
    good (reading.observe state uses).2 := by
  induction uses generalizing state with
  | nil => exact starts
  | cons use uses ih => exact ih (kept state use starts)

/-- Readers that agree in each use cannot be told apart by any uses. -/
theorem observe_image
    {reading : Reading σ}
    {other : Reading τ}
    {image : σ → τ}
    {good : σ → Prop}
    (counts : ∀ state, other.buffered (image state) = reading.buffered state)
    (kept : ∀ state use, good state → good (reading.perform state use).2)
    (agrees :
      ∀ state use, good state →
        other.perform (image state) use =
          ((reading.perform state use).1, image (reading.perform state use).2))
    {state : σ}
    (starts : good state)
    (uses : List Use) :
    other.observe (image state) uses =
      ((reading.observe state uses).1, image (reading.observe state uses).2) := by
  induction uses generalizing state with
  | nil => rfl
  | cons use uses ih =>
      have later := ih (kept state use starts)
      simp only [observe, agrees state use starts, later, counts]

end Reading

/-! ## Cutting at the first delimiter -/

theorem partAt?_of_le
    {octets : Bytes}
    {place : Nat}
    (within : place ≤ octets.length) :
    partAt? octets place = some (octets.take place, octets.drop place) :=
  if_pos within

theorem length_take_of_idxOf?
    {delimiter : UInt8}
    {octets : Bytes}
    {stop : Nat}
    (found : octets.idxOf? delimiter = some stop) :
    (octets.take stop).length = stop := by
  obtain ⟨short, -⟩ := List.idxOf?_eq_some_iff.mp found
  exact List.length_take_of_le (Nat.le_of_lt short)

namespace Framing

/-- The first delimiter closes the first piece. -/
theorem pieces_of_idxOf?
    {framing : Framing}
    {buffer : Bytes}
    {stop : Nat}
    (found : buffer.idxOf? framing.delimiter = some stop) :
    framing.pieces buffer =
      buffer.take stop :: framing.pieces (buffer.drop (stop + 1)) := by
  obtain ⟨clear, split⟩ := split_of_idxOf? found
  rw [pieces, split, cut_append clear, ← split]
  rfl

theorem pieces_of_notMem
    {framing : Framing}
    {buffer : Bytes}
    (unclosed : framing.delimiter ∉ buffer) :
    framing.pieces buffer = [] := by
  rw [pieces, cut_of_notMem unclosed]

end Framing

namespace Decoder

/-! ## The mark -/

/-- The mark of a reader is right. -/
structure Marked (decoder : Decoder) : Prop where
  within : decoder.scanned ≤ decoder.buffer.length
  searched : decoder.framing.delimiter ∉ decoder.buffer.take decoder.scanned
  unset : decoder.discarding = true → decoder.scanned = 0

/-- A reader without a mark is marked rightly. -/
theorem marked_of_scanned_eq_zero
    {decoder : Decoder}
    (unset : decoder.scanned = 0) :
    decoder.Marked where
  within := by omega
  searched := by simp [unset]
  unset := fun _ => unset

theorem Follows.marked
    {framing : Framing}
    {decoder : Decoder}
    {stream : Bytes}
    {items : List Frame}
    (follows : Follows framing decoder stream items) :
    decoder.Marked := by
  cases follows with
  | reading unclosed reported within searched =>
      exact ⟨within, searched, by simp⟩
  | skipping => exact marked_of_scanned_eq_zero rfl

theorem Follows.framing_eq
    {framing : Framing}
    {decoder : Decoder}
    {stream : Bytes}
    {items : List Frame}
    (follows : Follows framing decoder stream items) :
    decoder.framing = framing := by
  cases follows with
  | reading => rfl
  | skipping => rfl

/-! ## Places inside the buffer -/

theorem scan?_eq_scan
    {decoder : Decoder}
    (marked : decoder.Marked) :
    decoder.scan? = some decoder.scan := by
  rw [scan?, scan, delimiterAt?, partAt?_of_le marked.within]
  simp only [Option.bind_eq_bind, Option.bind_some]
  cases found : (decoder.buffer.drop decoder.scanned).idxOf? decoder.framing.delimiter with
  | none => rfl
  | some offset =>
      obtain ⟨short, -⟩ := List.idxOf?_eq_some_iff.mp found
      rw [List.length_drop] at short
      have stop : decoder.scanned + offset ≤ decoder.buffer.length := by omega
      have behind : 1 ≤ (decoder.buffer.drop (decoder.scanned + offset)).length := by
        rw [List.length_drop]
        omega
      simp only [partAt?_of_le stop, partAt?_of_le behind, Option.bind_some,
        Option.map_some, List.drop_drop]

theorem skip?_eq_skip (decoder : Decoder) : decoder.skip? = some decoder.skip := by
  rw [skip?, skip]
  cases found : decoder.buffer.idxOf? decoder.framing.delimiter with
  | none => rfl
  | some stop =>
      obtain ⟨short, -⟩ := List.idxOf?_eq_some_iff.mp found
      simp only [partAt?_of_le (Nat.succ_le_of_lt short), Option.map_some]

theorem scanned_skip (decoder : Decoder) : decoder.skip.scanned = decoder.scanned := by
  rw [skip]
  split <;> rfl

theorem Marked.skip
    {decoder : Decoder}
    (marked : decoder.Marked)
    (discarding : decoder.discarding = true) :
    decoder.skip.Marked :=
  marked_of_scanned_eq_zero (decoder.scanned_skip.trans (marked.unset discarding))

/-- A marked reader that is asked for a frame cuts its buffer inside it. -/
theorem next?_eq_next
    {decoder : Decoder}
    (marked : decoder.Marked) :
    decoder.next? = some decoder.next := by
  rw [next?, next]
  split
  · rename_i discarding
    simp only [skip?_eq_skip, Option.bind_eq_bind, Option.bind_some]
    split
    · rfl
    · exact scan?_eq_scan (marked.skip discarding)
  · exact scan?_eq_scan marked

/-- A mark behind the end is noticed. -/
example : next? { buffer := [97], scanned := 2 } = none := by decide

/-! ## Without the mark -/

/-- The same reader without its mark. -/
def unmarked (decoder : Decoder) : Rescanner where
  framing := decoder.framing
  buffer := decoder.buffer
  discarding := decoder.discarding

/-- Searching from the mark on finds what searching everything finds. -/
theorem search_unmarked
    {decoder : Decoder}
    (marked : decoder.Marked) :
    decoder.unmarked.search = (decoder.scan.1, decoder.scan.2.unmarked) := by
  rw [scan, delimiterAt?_eq marked.within marked.searched]
  cases found : decoder.buffer.idxOf? decoder.framing.delimiter with
  | some stop =>
      simp only [Rescanner.search, unmarked, Framing.pieces_of_idxOf? found,
        length_take_of_idxOf? found]
  | none =>
      have clear : decoder.framing.delimiter ∉ decoder.buffer :=
        List.idxOf?_eq_none_iff.mp found
      simp only [Rescanner.search, unmarked, Framing.pieces_of_notMem clear,
        Framing.overlong, unterminated]
      cases decoder.framing.limit with
      | none => rfl
      | some limit =>
          by_cases long : limit < decoder.buffer.length
          · simp [long]
          · simp [long]

theorem skip_unmarked (decoder : Decoder) :
    decoder.unmarked.skip = decoder.skip.unmarked := by
  rw [skip]
  cases found : decoder.buffer.idxOf? decoder.framing.delimiter with
  | some stop =>
      simp only [Rescanner.skip, unmarked, Framing.pieces_of_idxOf? found,
        length_take_of_idxOf? found]
  | none =>
      have clear : decoder.framing.delimiter ∉ decoder.buffer :=
        List.idxOf?_eq_none_iff.mp found
      simp only [Rescanner.skip, unmarked, Framing.pieces_of_notMem clear]

/-- A marked reader and one without a mark give the same answer. -/
theorem next_unmarked
    {decoder : Decoder}
    (marked : decoder.Marked) :
    decoder.unmarked.next = (decoder.next.1, decoder.next.2.unmarked) := by
  rw [Rescanner.next, next, skip_unmarked]
  by_cases discarding : decoder.discarding = true
  · have found := search_unmarked (marked.skip discarding)
    rw [if_pos (show decoder.unmarked.discarding = true from discarding), if_pos discarding]
    by_cases still : decoder.skip.discarding = true
    · rw [if_pos (show decoder.skip.unmarked.discarding = true from still), if_pos still]
    · rw [if_neg (show ¬ decoder.skip.unmarked.discarding = true from still), if_neg still]
      exact found
  · rw [if_neg (show ¬ decoder.unmarked.discarding = true from discarding), if_neg discarding]
    exact search_unmarked marked

/-! ## Any uses -/

/-- A reader follows some stream. -/
def OnStream
    (framing : Framing)
    (decoder : Decoder) :
    Prop :=
  ∃ stream items, Follows framing decoder stream items

theorem onStream_decoder (framing : Framing) : OnStream framing framing.decoder :=
  ⟨[], [], follows_decoder framing⟩

section

variable {framing : Framing} {decoder : Decoder}

theorem OnStream.marked (follows : OnStream framing decoder) : decoder.Marked := by
  obtain ⟨stream, items, follows⟩ := follows
  exact follows.marked

theorem OnStream.framing_eq (follows : OnStream framing decoder) :
    decoder.framing = framing := by
  obtain ⟨stream, items, follows⟩ := follows
  exact follows.framing_eq

theorem OnStream.next (follows : OnStream framing decoder) :
    OnStream framing decoder.next.2 := by
  obtain ⟨stream, items, follows⟩ := follows
  have answers := follows.next
  match answer : decoder.next with
  | (some frame, rest) =>
      rw [answer] at answers
      exact ⟨stream, items ++ [frame], answers⟩
  | (none, rest) =>
      rw [answer] at answers
      exact ⟨stream, items, answers.1⟩

/-- Whatever is done to a reader, it goes on following a stream. -/
theorem OnStream.perform
    (follows : OnStream framing decoder)
    (use : Use) :
    OnStream framing (reading.perform decoder use).2 := by
  cases use with
  | next => exact follows.next
  | feed chunk =>
      obtain ⟨stream, items, follows⟩ := follows
      exact ⟨_, _, follows.feed chunk⟩
  | draw draw =>
      obtain ⟨stream, items, follows⟩ := follows
      cases draw with
      | every => exact ⟨_, _, follows.drain.1⟩
      | atMost count => exact ⟨_, _, (follows.take count).1⟩

theorem OnStream.take_unmarked
    (follows : OnStream framing decoder)
    (count : Nat) :
    decoder.unmarked.take count =
      ((decoder.take count).1, (decoder.take count).2.unmarked) := by
  induction count generalizing decoder with
  | zero => rfl
  | succ count ih =>
      have kept := follows.next
      rw [Rescanner.take, take_succ, next_unmarked follows.marked]
      match answer : decoder.next with
      | (some frame, rest) =>
          rw [answer] at kept
          simp only [ih kept]
      | (none, rest) => rfl

/-- A reader and one without a mark agree in each use. -/
theorem OnStream.perform_unmarked
    (follows : OnStream framing decoder)
    (use : Use) :
    Rescanner.reading.perform decoder.unmarked use =
      ((reading.perform decoder use).1, (reading.perform decoder use).2.unmarked) := by
  cases use with
  | feed chunk => rfl
  | next =>
      simp only [Reading.perform, Rescanner.reading, reading, next_unmarked follows.marked]
  | draw draw =>
      cases draw with
      | every => exact follows.take_unmarked (decoder.buffered + 1)
      | atMost count => exact follows.take_unmarked count

end

/-- Whatever a new reader was given and asked for, in any order: its mark is
inside the buffer, no delimiter stands in front of the mark, and there is no
mark while the rest of a piece is being skipped.  When it is asked for a frame,
it cuts its buffer at places inside it only.  And all that was ever seen of it,
the frames and how many octets were waiting, is what is seen of a reader that
searches the whole buffer each time. -/
theorem observe_rescanned
    (framing : Framing)
    (uses : List Use) :
    let decoder : Decoder := (reading.observe framing.decoder uses).2
    decoder.framing = framing ∧
      decoder.scanned ≤ decoder.buffer.length ∧
      framing.delimiter ∉ decoder.buffer.take decoder.scanned ∧
      (decoder.discarding = true → decoder.scanned = 0) ∧
      decoder.next? = some decoder.next ∧
      (reading.observe framing.decoder uses).1 =
        (Rescanner.reading.observe framing.rescanner uses).1 := by
  intro decoder
  have kept (decoder : Decoder) (use : Use) (follows : OnStream framing decoder) :
      OnStream framing (reading.perform decoder use).2 :=
    follows.perform use
  have follows : OnStream framing decoder :=
    Reading.observe_keeps kept (onStream_decoder framing) uses
  have searched := follows.marked.searched
  rw [follows.framing_eq] at searched
  have counts (decoder : Decoder) : decoder.unmarked.buffered = decoder.buffered := rfl
  -- A new reader without its mark is a new reader that never had one.
  have same :
      Rescanner.reading.observe framing.decoder.unmarked uses =
        ((reading.observe framing.decoder uses).1, decoder.unmarked) :=
    Reading.observe_image counts kept (fun _ use follows => follows.perform_unmarked use)
      (onStream_decoder framing) uses
  exact ⟨follows.framing_eq, follows.marked.within, searched, follows.marked.unset,
    next?_eq_next follows.marked, (congrArg Prod.fst same).symm⟩

/-- A frame is taken while the next piece is there in part, the reader is asked
in vain, the piece becomes too long, and more of it comes. -/
theorem observe_rescanned_too_long :
    let framing : Framing := { delimiter := 10, limit := some 2 }
    let uses : List Use :=
      [.feed [97, 10, 98], .next, .next, .feed [99, 100], .draw .every, .feed [101]]
    let decoder : Decoder := (reading.observe framing.decoder uses).2
    decoder.discarding = true ∧
      decoder.scanned = 0 ∧
      decoder.next? = some (none, { framing, discarding := true }) ∧
      (Rescanner.reading.observe framing.rescanner uses).1 =
        [⟨[], 3⟩, ⟨[.ok "a"], 1⟩, ⟨[], 1⟩, ⟨[], 3⟩,
          ⟨[.error (.tooLong 3 2)], 0⟩, ⟨[], 1⟩] := by
  intro framing uses decoder
  have skipping : decoder.discarding = true := by decide +kernel
  have answer : decoder.next = (none, { framing, discarding := true }) := by
    decide +kernel
  have seen :
      (reading.observe framing.decoder uses).1 =
        [⟨[], 3⟩, ⟨[.ok "a"], 1⟩, ⟨[], 1⟩, ⟨[], 3⟩,
          ⟨[.error (.tooLong 3 2)], 0⟩, ⟨[], 1⟩] := by
    decide +kernel
  obtain ⟨-, -, -, unset, checked, same⟩ := observe_rescanned framing uses
  exact ⟨skipping, unset skipping, checked.trans (congrArg some answer), same.symm.trans seen⟩

end Decoder

end LineProtocol
