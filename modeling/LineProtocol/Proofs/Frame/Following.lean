import Mathlib.Data.List.Forall2
import LineProtocol.Frame.Decoder
import LineProtocol.Proofs.Frame.Reference

/-!
# A reader and its stream

`Decoder.Follows` ties a reader to all octets that it was ever fed and to all
frames that it yielded.  There are two ways to stand: in front of a piece that
nothing was said about yet, or inside one that was reported as too long and
whose rest is being skipped.  The pieces before that were closed, each gave
one frame, and what is buffered is what follows them.

Feeding keeps a reader following, and so does asking for a frame, whatever was
left unread before.  A reader that has nothing to yield is `AtRest`, and then
it has yielded all frames of its stream.
-/

namespace LineProtocol

/-- A frame is a true report on a piece of which these octets have arrived. -/
def Framing.Reports
    (framing : Framing)
    (piece : Bytes) :
    Frame → Prop
  | .error (.tooLong length limit) =>
      framing.limit = some limit ∧ limit < length ∧ length ≤ piece.length
  | frame => frame = framing.verdict piece

namespace Framing

theorem Exceeds.append
    {framing : Framing}
    {piece : Bytes}
    (long : framing.Exceeds piece)
    (arriving : Bytes) :
    framing.Exceeds (piece ++ arriving) := by
  obtain ⟨limit, limited, longer⟩ := long
  refine ⟨limit, limited, ?_⟩
  rw [List.length_append]
  omega

theorem reports_verdict
    (framing : Framing)
    (piece : Bytes) :
    framing.Reports piece (framing.verdict piece) := by
  by_cases long : framing.Exceeds piece
  · obtain ⟨limit, limited, longer⟩ := long
    rw [verdict_of_exceeds limited longer]
    exact ⟨limited, longer, Nat.le_refl _⟩
  · unfold Reports
    split
    · rename_i length limit judged
      unfold verdict Frame.standard at judged
      split at judged
      · split at judged <;> simp at judged
      · rename_i limit limited
        rw [if_neg fun longer => long ⟨limit, limited, longer⟩] at judged
        split at judged <;> simp at judged
    · rfl

theorem Reports.unmeasured_eq
    {framing : Framing}
    {piece : Bytes}
    {frame : Frame}
    (reports : framing.Reports piece frame) :
    frame.unmeasured = (framing.verdict piece).unmeasured := by
  unfold Reports at reports
  split at reports
  · rename_i length limit
    obtain ⟨limited, long, seen⟩ := reports
    rw [verdict_of_exceeds limited (by omega)]
    rfl
  · rw [reports]

/-- A report on a piece that is too long stays true when more of it arrives. -/
theorem Reports.append
    {framing : Framing}
    {piece : Bytes}
    {frame : Frame}
    (reports : framing.Reports piece frame)
    (long : framing.Exceeds piece)
    (arriving : Bytes) :
    framing.Reports (piece ++ arriving) frame := by
  obtain ⟨limit, limited, longer⟩ := long
  have same := reports.unmeasured_eq
  rw [verdict_of_exceeds limited longer] at same
  match frame, same with
  | .error (.tooLong length limit), _ =>
      obtain ⟨limited, above, seen⟩ := reports
      refine ⟨limited, above, ?_⟩
      rw [List.length_append]
      omega

theorem forall₂_reports_append
    {framing : Framing}
    {closed : List Bytes}
    {piece : Bytes}
    {items : List Frame}
    (reported : List.Forall₂ framing.Reports (closed ++ [piece]) items)
    (long : framing.Exceeds piece)
    (arriving : Bytes) :
    List.Forall₂ framing.Reports (closed ++ [piece ++ arriving]) items := by
  induction closed generalizing items with
  | nil =>
      cases reported with
      | cons reports rest =>
          cases rest
          exact .cons (reports.append long arriving) .nil
  | cons first closed ih =>
      cases reported with
      | cons reports rest => exact .cons reports (ih rest)

theorem map_unmeasured
    {framing : Framing}
    {pieces : List Bytes}
    {items : List Frame}
    (reported : List.Forall₂ framing.Reports pieces items) :
    items.map Frame.unmeasured =
      (pieces.map framing.verdict).map Frame.unmeasured := by
  induction reported with
  | nil => rfl
  | cons reports _ ih => simp [reports.unmeasured_eq, ih]

end Framing

/-! ## Finding the delimiter -/

/-- The place of the first delimiter splits octets at it. -/
theorem split_of_idxOf?
    {delimiter : UInt8}
    {bytes : Bytes}
    {stop : Nat}
    (found : bytes.idxOf? delimiter = some stop) :
    delimiter ∉ bytes.take stop ∧
      bytes = bytes.take stop ++ delimiter :: bytes.drop (stop + 1) := by
  obtain ⟨short, here, nowhere⟩ := List.idxOf?_eq_some_iff.mp found
  constructor
  · intro member
    obtain ⟨index, before, there⟩ := List.mem_take_iff_getElem.mp member
    exact nowhere index (by omega) there
  · rw [← here, ← List.drop_eq_getElem_cons short, List.take_append_drop]

namespace Decoder

/-- Leaving out what was searched before does not change where the next
delimiter is found. -/
theorem delimiterAt?_eq
    {decoder : Decoder}
    (within : decoder.scanned ≤ decoder.buffer.length)
    (searched : decoder.framing.delimiter ∉ decoder.buffer.take decoder.scanned) :
    decoder.delimiterAt? = decoder.buffer.idxOf? decoder.framing.delimiter := by
  have nowhere :
      (decoder.buffer.take decoder.scanned).findIdx? (· == decoder.framing.delimiter) =
        none :=
    List.idxOf?_eq_none_iff.mpr searched
  have whole :
      decoder.buffer.idxOf? decoder.framing.delimiter =
        (decoder.buffer.take decoder.scanned ++
          decoder.buffer.drop decoder.scanned).findIdx?
            (· == decoder.framing.delimiter) := by
    rw [List.take_append_drop]
    rfl
  rw [whole, List.findIdx?_append, nowhere, Option.none_or,
    List.length_take_of_le within, delimiterAt?]
  simp only [Nat.add_comm]
  rfl

/-! ## Following -/

/-- A reader was fed this stream and has yielded these frames. -/
inductive Follows (framing : Framing) : Decoder → Bytes → List Frame → Prop where
  /-- It stands in front of a piece. -/
  | reading
      {closed : List Bytes}
      {buffer : Bytes}
      {scanned : Nat}
      {items : List Frame}
      (unclosed : ∀ piece ∈ closed, framing.delimiter ∉ piece)
      (reported : List.Forall₂ framing.Reports closed items)
      (within : scanned ≤ buffer.length)
      (searched : framing.delimiter ∉ buffer.take scanned) :
      Follows framing { framing, buffer, scanned, discarding := false }
        (joined framing.delimiter (closed, buffer)) items
  /-- It stands inside a piece that was reported as too long. -/
  | skipping
      {closed : List Bytes}
      {lost buffer : Bytes}
      {items : List Frame}
      (unclosed : ∀ piece ∈ closed, framing.delimiter ∉ piece)
      (opened : framing.delimiter ∉ lost)
      (long : framing.Exceeds lost)
      (reported : List.Forall₂ framing.Reports (closed ++ [lost]) items) :
      Follows framing { framing, buffer, scanned := 0, discarding := true }
        (joined framing.delimiter (closed, lost ++ buffer)) items

/-- A reader that has nothing to yield. -/
structure AtRest (decoder : Decoder) : Prop where
  unclosed : decoder.framing.delimiter ∉ decoder.buffer
  within : ¬ decoder.framing.Exceeds decoder.buffer
  skipped : decoder.discarding = true → decoder.buffer = []

theorem follows_decoder (framing : Framing) :
    Follows framing framing.decoder [] [] := by
  have unclosed : ∀ piece ∈ ([] : List Bytes), framing.delimiter ∉ piece := by simp
  exact .reading unclosed .nil (Nat.le_refl _) (by simp)

theorem atRest_decoder (framing : Framing) : framing.decoder.AtRest where
  unclosed := by simp [Framing.decoder]
  within := by
    rintro ⟨limit, _, long⟩
    simp [Framing.decoder] at long
  skipped := by simp [Framing.decoder]

theorem Follows.feed
    {framing : Framing}
    {decoder : Decoder}
    {stream : Bytes}
    {items : List Frame}
    (follows : Follows framing decoder stream items)
    (chunk : Bytes) :
    Follows framing (decoder.feed chunk) (stream ++ chunk) items := by
  cases follows with
  | @reading closed buffer scanned _ unclosed reported within searched =>
      have whole :
          joined framing.delimiter (closed, buffer) ++ chunk =
            joined framing.delimiter (closed, buffer ++ chunk) := by
        simp [joined]
      rw [whole]
      refine .reading unclosed reported ?_ ?_
      · simp only [List.length_append]
        omega
      · rwa [List.take_append_of_le_length within]
  | @skipping closed lost buffer _ unclosed opened long reported =>
      have whole :
          joined framing.delimiter (closed, lost ++ buffer) ++ chunk =
            joined framing.delimiter (closed, lost ++ (buffer ++ chunk)) := by
        simp [joined]
      rw [whole]
      exact .skipping unclosed opened long reported

/-- What an answer to the question for a frame has to be. -/
def Answers
    (framing : Framing)
    (stream : Bytes)
    (items : List Frame) :
    Option Frame × Decoder → Prop
  | (some frame, rest) => Follows framing rest stream (items ++ [frame])
  | (none, rest) => Follows framing rest stream items ∧ rest.AtRest

theorem joined_snoc
    (delimiter : UInt8)
    (closed : List Bytes)
    (piece rest : Bytes) :
    joined delimiter (closed ++ [piece], rest) =
      joined delimiter (closed, piece ++ delimiter :: rest) := by
  simp [joined]

/-- A reader in front of a piece answers rightly. -/
theorem answers_scan
    {framing : Framing}
    {closed : List Bytes}
    {buffer : Bytes}
    {scanned : Nat}
    {items : List Frame}
    (unclosed : ∀ piece ∈ closed, framing.delimiter ∉ piece)
    (reported : List.Forall₂ framing.Reports closed items)
    (within : scanned ≤ buffer.length)
    (searched : framing.delimiter ∉ buffer.take scanned) :
    Answers framing (joined framing.delimiter (closed, buffer)) items
      (scan { framing, buffer, scanned, discarding := false }) := by
  rw [scan, delimiterAt?_eq within searched]
  cases found : buffer.idxOf? framing.delimiter with
  | some stop =>
      obtain ⟨clear, split⟩ := split_of_idxOf? found
      have stream :
          joined framing.delimiter (closed, buffer) =
            joined framing.delimiter
              (closed ++ [buffer.take stop], buffer.drop (stop + 1)) := by
        rw [joined_snoc, ← split]
      simp only [Answers]
      rw [stream, Framing.judge_eq_verdict]
      refine .reading ?_ ?_ (Nat.zero_le _) (by simp)
      · intro piece member
        rcases List.mem_append.mp member with earlier | last
        · exact unclosed piece earlier
        · rw [List.mem_singleton.mp last]
          exact clear
      · exact List.rel_append reported
          (.cons (framing.reports_verdict _) .nil)
  | none =>
      have clear : framing.delimiter ∉ buffer := List.idxOf?_eq_none_iff.mp found
      have searchedAll : framing.delimiter ∉ buffer.take buffer.length := by
        rwa [List.take_length]
      simp only [unterminated]
      cases limited : framing.limit with
      | none =>
          refine ⟨.reading unclosed reported (Nat.le_refl _) searchedAll, clear, ?_, ?_⟩
          · rintro ⟨limit, given, _⟩
            simp [limited] at given
          · simp
      | some limit =>
          by_cases long : limit < buffer.length
          · simp only [if_pos long, Answers]
            have stream :
                joined framing.delimiter (closed, buffer) =
                  joined framing.delimiter (closed, buffer ++ []) := by
              rw [List.append_nil]
            rw [stream]
            refine .skipping unclosed clear ⟨limit, limited, long⟩ ?_
            exact List.rel_append reported
              (.cons ⟨limited, long, Nat.le_refl _⟩ .nil)
          · simp only [if_neg long, Answers]
            refine ⟨.reading unclosed reported (Nat.le_refl _) searchedAll, clear, ?_, ?_⟩
            · rintro ⟨other, given, longer⟩
              rw [limited, Option.some.injEq] at given
              subst given
              exact long longer
            · simp

/-- Asking for a frame keeps a reader following. -/
theorem Follows.next
    {framing : Framing}
    {decoder : Decoder}
    {stream : Bytes}
    {items : List Frame}
    (follows : Follows framing decoder stream items) :
    Answers framing stream items decoder.next := by
  cases follows with
  | reading unclosed reported within searched =>
      exact answers_scan unclosed reported within searched
  | @skipping closed lost buffer _ unclosed opened long reported =>
      rw [Decoder.next, if_pos rfl]
      cases found : buffer.idxOf? framing.delimiter with
      | none =>
          -- All that is buffered belongs to the piece that was reported.
          have clear : framing.delimiter ∉ buffer := List.idxOf?_eq_none_iff.mp found
          have skipped :
              skip { framing, buffer, scanned := 0, discarding := true } =
                { framing, buffer := [], scanned := 0, discarding := true } := by
            simp [skip, found]
          have stream :
              joined framing.delimiter (closed, lost ++ buffer) =
                joined framing.delimiter (closed, (lost ++ buffer) ++ []) := by
            rw [List.append_nil]
          rw [skipped, stream]
          refine ⟨.skipping unclosed ?_ (long.append buffer) ?_, by simp, ?_, fun _ => rfl⟩
          · simp [opened, clear]
          · exact Framing.forall₂_reports_append reported long buffer
          · rintro ⟨limit, _, longer⟩
            simp at longer
      | some stop =>
          -- The reported piece ends here, and the search starts anew behind it.
          obtain ⟨clear, split⟩ := split_of_idxOf? found
          have skipped :
              skip { framing, buffer, scanned := 0, discarding := true } =
                { framing, buffer := buffer.drop (stop + 1), scanned := 0,
                  discarding := false } := by
            simp [skip, found]
          have stream :
              joined framing.delimiter (closed, lost ++ buffer) =
                joined framing.delimiter
                  (closed ++ [lost ++ buffer.take stop], buffer.drop (stop + 1)) := by
            rw [joined_snoc, List.append_assoc, ← split]
          rw [skipped, stream]
          refine answers_scan ?_ ?_ (Nat.zero_le _) (by simp)
          · intro piece member
            rcases List.mem_append.mp member with earlier | last
            · exact unclosed piece earlier
            · rw [List.mem_singleton.mp last]
              simp [opened, clear]
          · exact Framing.forall₂_reports_append reported long (buffer.take stop)

/-! ## What was yielded -/

/-- Each frame is a true report on the piece at its place in the stream. -/
theorem Follows.reports
    {framing : Framing}
    {decoder : Decoder}
    {stream : Bytes}
    {items : List Frame}
    (follows : Follows framing decoder stream items)
    {index : Nat}
    {frame : Frame}
    (yielded : items[index]? = some frame) :
    ∃ piece, (framing.segments stream)[index]? = some piece ∧
      framing.Reports piece frame := by
  obtain ⟨pieces, later, cut, reported⟩ :
      ∃ pieces later, framing.segments stream = pieces ++ later ∧
        List.Forall₂ framing.Reports pieces items := by
    cases follows with
    | @reading closed buffer _ _ unclosed reported =>
        exact ⟨closed, _, Framing.segments_joined unclosed buffer, reported⟩
    | @skipping closed lost buffer _ unclosed opened long reported =>
        obtain ⟨more, later, split⟩ := Framing.segments_append opened buffer
        refine ⟨closed ++ [lost ++ more], later, ?_,
          Framing.forall₂_reports_append reported long more⟩
        rw [Framing.segments_joined unclosed, split]
        simp
  obtain ⟨short, here⟩ := List.getElem?_eq_some_iff.mp yielded
  have bound : index < pieces.length := by
    rw [reported.length_eq]
    exact short
  refine ⟨pieces[index], ?_, ?_⟩
  · rw [cut, List.getElem?_append_left bound, List.getElem?_eq_getElem bound]
  · rw [← here]
    exact reported.get bound short

/-- What was yielded is a beginning of the stream's frames. -/
theorem Follows.prefix_reference
    {framing : Framing}
    {decoder : Decoder}
    {stream : Bytes}
    {items : List Frame}
    (follows : Follows framing decoder stream items) :
    items.map Frame.unmeasured <+:
      (framing.reference stream).map Frame.unmeasured := by
  cases follows with
  | @reading closed buffer _ _ unclosed reported =>
      rw [Framing.map_unmeasured reported, Framing.reference_joined unclosed,
        List.map_append]
      exact List.prefix_append _ _
  | @skipping closed lost buffer _ unclosed opened long reported =>
      obtain ⟨limit, limited, longer⟩ := long
      obtain ⟨length, later, split⟩ :=
        Framing.reference_append opened limited longer buffer
      rw [Framing.map_unmeasured reported, Framing.reference_joined unclosed, split,
        List.map_append, List.map_append, List.map_append, List.map_singleton,
        List.map_singleton, Framing.verdict_of_exceeds limited longer, List.map_cons]
      refine (List.prefix_append_right_inj _).mpr ?_
      exact List.prefix_cons_inj _ |>.mpr List.nil_prefix

/-- A reader at rest has yielded all frames of its stream. -/
theorem Follows.eq_reference
    {framing : Framing}
    {decoder : Decoder}
    {stream : Bytes}
    {items : List Frame}
    (follows : Follows framing decoder stream items)
    (rest : decoder.AtRest) :
    items.map Frame.unmeasured = (framing.reference stream).map Frame.unmeasured := by
  cases follows with
  | @reading closed buffer _ _ unclosed reported =>
      rw [Framing.map_unmeasured reported, Framing.reference_joined unclosed,
        Framing.reference_of_notMem rest.unclosed,
        Framing.overlong_of_not_exceeds rest.within, List.append_nil]
  | @skipping closed lost buffer _ unclosed opened long reported =>
      have empty : buffer = [] := rest.skipped rfl
      subst empty
      obtain ⟨limit, limited, longer⟩ := long
      rw [Framing.map_unmeasured reported, Framing.reference_joined unclosed,
        List.append_nil, Framing.reference_of_notMem opened,
        Framing.overlong_of_exceeds limited longer, List.map_append, List.map_singleton,
        Framing.verdict_of_exceeds limited longer]

/-- A reader at rest keeps the unclosed piece, unless it is too long. -/
theorem Follows.buffered_eq
    {framing : Framing}
    {decoder : Decoder}
    {stream : Bytes}
    {items : List Frame}
    (follows : Follows framing decoder stream items)
    (rest : decoder.AtRest) :
    (¬ framing.Exceeds (framing.tail stream) →
        decoder.buffered = (framing.tail stream).length) ∧
      (framing.Exceeds (framing.tail stream) → decoder.buffered = 0) := by
  cases follows with
  | @reading closed buffer _ _ unclosed reported =>
      have tail : framing.tail (joined framing.delimiter (closed, buffer)) = buffer := by
        rw [Framing.tail, cut_joined unclosed, cut_of_notMem rest.unclosed]
      rw [tail]
      exact ⟨fun _ => rfl, fun long => (rest.within long).elim⟩
  | @skipping closed lost buffer _ unclosed opened long reported =>
      have empty : buffer = [] := rest.skipped rfl
      subst empty
      have tail :
          framing.tail (joined framing.delimiter (closed, lost ++ [])) = lost := by
        rw [Framing.tail, cut_joined unclosed, List.append_nil, cut_of_notMem opened]
      rw [tail]
      exact ⟨fun within => (within long).elim, fun _ => rfl⟩

end Decoder

end LineProtocol
