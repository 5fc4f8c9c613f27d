import LineProtocol.Frame.Stream
import LineProtocol.Proofs.Utf8.Text

/-!
# The frames of a stream, by the standard library

`Framing.reference` says which frames a stream holds in terms that know
nothing of this library's readers: the stream is split at the delimiter, and a
piece is text if the standard library accepts it as UTF-8.  This module shows
that it is the same list as `Framing.frames`, and how it grows with the
stream: closed pieces in front stay what they are, and a piece that is too
long is so from the octet on that exceeds the limit.

The length in a report on a piece that is too long depends on when the report
is made.  `Frame.unmeasured` takes it out, so that reports can be compared.
-/

namespace LineProtocol

/-! ## Cutting -/

theorem cut_of_notMem
    {delimiter : UInt8}
    {stream : Bytes}
    (unclosed : delimiter ∉ stream) :
    cut delimiter stream = ([], stream) := by
  induction stream with
  | nil => rfl
  | cons octet rest ih =>
      rw [List.mem_cons, not_or] at unclosed
      rw [cut, if_neg (Ne.symm unclosed.1), ih unclosed.2]
      rfl

/-- A delimiter closes the piece in front of it. -/
theorem cut_append
    {delimiter : UInt8}
    {piece : Bytes}
    (unclosed : delimiter ∉ piece)
    (rest : Bytes) :
    cut delimiter (piece ++ delimiter :: rest) =
      (piece :: (cut delimiter rest).1, (cut delimiter rest).2) := by
  induction piece with
  | nil => simp [cut]
  | cons octet piece ih =>
      rw [List.mem_cons, not_or] at unclosed
      rw [List.cons_append, cut, if_neg (Ne.symm unclosed.1), ih unclosed.2]
      rfl

/-- Closed pieces in front do not change how the rest is cut. -/
theorem cut_joined
    {delimiter : UInt8}
    {closed : List Bytes}
    (unclosed : ∀ piece ∈ closed, delimiter ∉ piece)
    (rest : Bytes) :
    cut delimiter (joined delimiter (closed, rest)) =
      (closed ++ (cut delimiter rest).1, (cut delimiter rest).2) := by
  induction closed with
  | nil => rfl
  | cons piece closed ih =>
      have first : delimiter ∉ piece := unclosed piece List.mem_cons_self
      have others : ∀ piece ∈ closed, delimiter ∉ piece :=
        fun piece member => unclosed piece (List.mem_cons_of_mem _ member)
      have front :
          joined delimiter (piece :: closed, rest) =
            piece ++ delimiter :: joined delimiter (closed, rest) := by
        simp [joined]
      rw [front, cut_append first, ih others]
      rfl

/-- A piece holds no delimiter, and neither does the tail. -/
theorem notMem_cut
    (delimiter : UInt8)
    (stream : Bytes) :
    (∀ piece ∈ (cut delimiter stream).1, delimiter ∉ piece) ∧
      delimiter ∉ (cut delimiter stream).2 := by
  induction stream with
  | nil => simp [cut]
  | cons octet rest ih =>
      obtain ⟨pieces, tail⟩ := ih
      rw [cut]
      split
      · simpa using ⟨pieces, tail⟩
      · rename_i other
        generalize cut delimiter rest = parts at pieces tail
        obtain ⟨_ | ⟨first, more⟩, last⟩ := parts
        · simpa [stretch] using ⟨Ne.symm other, tail⟩
        · simp only [List.forall_mem_cons] at pieces
          simpa [stretch, Ne.symm other] using ⟨pieces, tail⟩

/-- The pieces and the tail are what splitting at the delimiter gives. -/
theorem splitOn_eq_cut
    (delimiter : UInt8)
    (stream : Bytes) :
    stream.splitOn delimiter =
      (cut delimiter stream).1 ++ [(cut delimiter stream).2] := by
  rw [List.splitOn_eq_splitOnP]
  induction stream with
  | nil => rfl
  | cons octet rest ih =>
      rw [List.splitOnP_cons_eq_if_modifyHead, ih, cut]
      by_cases closes : octet = delimiter
      · simp [closes]
      · obtain ⟨pieces, tail⟩ := cut delimiter rest
        cases pieces <;> simp [closes, stretch]

/-! ## Judging -/

/-- A frame without the length that was seen of a piece that is too long. -/
def Frame.unmeasured : Frame → Frame
  | .error (.tooLong _ limit) => .error (.tooLong 0 limit)
  | frame => frame

/-- A piece of any length: text, or how far it is text. -/
def Frame.standard (piece : Bytes) : Frame :=
  match String.fromUTF8? piece.toByteArray with
  | some message => .ok message
  | none => .error (.undecodable piece.length (Utf8.readable piece))

theorem Frame.ofBytes_eq_standard (piece : Bytes) :
    Frame.ofBytes piece = Frame.standard piece := by
  by_cases valid : piece.toByteArray.IsValidUTF8
  · have written : Utf8.encode (String.fromUTF8 piece.toByteArray valid) = piece :=
      List.toList_data_toByteArray
    have read := Utf8.text_eq_ok_iff.mpr written
    simp [Frame.ofBytes, Frame.standard, String.fromUTF8?, valid, read]
  · have read := Utf8.text_eq_error_iff.mpr ⟨valid, rfl⟩
    simp [Frame.ofBytes, Frame.standard, String.fromUTF8?, valid, read]

namespace Framing

/-- A piece is longer than these rules allow. -/
def Exceeds
    (framing : Framing)
    (piece : Bytes) :
    Prop :=
  ∃ limit, framing.limit = some limit ∧ limit < piece.length

/-- What becomes of a closed piece. -/
def verdict
    (framing : Framing)
    (piece : Bytes) :
    Frame :=
  match framing.limit with
  | none => Frame.standard piece
  | some limit =>
      if limit < piece.length then .error (.tooLong piece.length limit)
      else Frame.standard piece

/-- The closed pieces of a stream and, last, the unclosed one. -/
def segments
    (framing : Framing)
    (stream : Bytes) :
    List Bytes :=
  stream.splitOn framing.delimiter

/-- The frames of a stream: one for each closed piece, and a report on the
unclosed one if it is too long already. -/
def reference
    (framing : Framing)
    (stream : Bytes) :
    List Frame :=
  (framing.segments stream).dropLast.map framing.verdict ++
    (framing.segments stream).getLast?.toList.flatMap framing.overlong

theorem judge_eq_verdict
    (framing : Framing)
    (piece : Bytes) :
    framing.judge piece = framing.verdict piece := by
  unfold judge verdict
  cases framing.limit with
  | none => exact Frame.ofBytes_eq_standard piece
  | some limit => simp only [Frame.ofBytes_eq_standard]

theorem segments_eq
    (framing : Framing)
    (stream : Bytes) :
    framing.segments stream = framing.pieces stream ++ [framing.tail stream] :=
  splitOn_eq_cut framing.delimiter stream

theorem reference_eq
    (framing : Framing)
    (stream : Bytes) :
    framing.reference stream =
      (framing.pieces stream).map framing.verdict ++
        framing.overlong (framing.tail stream) := by
  simp [reference, segments_eq]

/-- The library's own list of a stream's frames is the same. -/
theorem frames_eq_reference
    (framing : Framing)
    (stream : Bytes) :
    framing.frames stream = framing.reference stream := by
  rw [reference_eq, frames]
  congr 1
  exact List.map_congr_left fun piece _ => framing.judge_eq_verdict piece

/-! ## Growing -/

theorem verdict_of_exceeds
    {framing : Framing}
    {piece : Bytes}
    {limit : Nat}
    (limited : framing.limit = some limit)
    (long : limit < piece.length) :
    framing.verdict piece = .error (.tooLong piece.length limit) := by
  simp [verdict, limited, long]

theorem overlong_of_exceeds
    {framing : Framing}
    {piece : Bytes}
    {limit : Nat}
    (limited : framing.limit = some limit)
    (long : limit < piece.length) :
    framing.overlong piece = [.error (.tooLong piece.length limit)] := by
  simp [overlong, limited, long]

theorem overlong_of_not_exceeds
    {framing : Framing}
    {piece : Bytes}
    (within : ¬ framing.Exceeds piece) :
    framing.overlong piece = [] := by
  unfold overlong
  split
  · rfl
  · rename_i limit limited
    rw [if_neg fun long => within ⟨limit, limited, long⟩]

theorem segments_joined
    {framing : Framing}
    {closed : List Bytes}
    (unclosed : ∀ piece ∈ closed, framing.delimiter ∉ piece)
    (rest : Bytes) :
    framing.segments (joined framing.delimiter (closed, rest)) =
      closed ++ framing.segments rest := by
  rw [segments_eq, segments_eq, pieces, tail, cut_joined unclosed, List.append_assoc]
  rfl

theorem reference_joined
    {framing : Framing}
    {closed : List Bytes}
    (unclosed : ∀ piece ∈ closed, framing.delimiter ∉ piece)
    (rest : Bytes) :
    framing.reference (joined framing.delimiter (closed, rest)) =
      closed.map framing.verdict ++ framing.reference rest := by
  rw [reference_eq, reference_eq, pieces, tail, cut_joined unclosed, List.map_append,
    List.append_assoc]
  rfl

theorem reference_of_notMem
    {framing : Framing}
    {rest : Bytes}
    (unclosed : framing.delimiter ∉ rest) :
    framing.reference rest = framing.overlong rest := by
  rw [reference_eq, pieces, tail, cut_of_notMem unclosed]
  rfl

/-- Whatever arrives behind an unclosed piece goes into it or behind it. -/
theorem segments_append
    {framing : Framing}
    {piece : Bytes}
    (unclosed : framing.delimiter ∉ piece)
    (arriving : Bytes) :
    ∃ more later,
      framing.segments (piece ++ arriving) = (piece ++ more) :: later := by
  by_cases closes : framing.delimiter ∈ arriving
  · obtain ⟨more, rest, rfl, clear⟩ := List.eq_append_cons_of_mem closes
    have whole : framing.delimiter ∉ piece ++ more := by
      simp [unclosed, clear]
    refine ⟨more, framing.segments rest, ?_⟩
    rw [← List.append_assoc, segments_eq, segments_eq, pieces, tail, cut_append whole]
    rfl
  · have whole : framing.delimiter ∉ piece ++ arriving := by
      simp [unclosed, closes]
    refine ⟨arriving, [], ?_⟩
    rw [segments_eq, pieces, tail, cut_of_notMem whole]
    rfl

/-- An unclosed piece that is too long gives a report at its place, whatever
arrives behind it. -/
theorem reference_append
    {framing : Framing}
    {piece : Bytes}
    {limit : Nat}
    (unclosed : framing.delimiter ∉ piece)
    (limited : framing.limit = some limit)
    (long : limit < piece.length)
    (arriving : Bytes) :
    ∃ length later,
      framing.reference (piece ++ arriving) =
        .error (.tooLong length limit) :: later := by
  obtain ⟨more, later, split⟩ := segments_append unclosed arriving
  have longer : limit < (piece ++ more).length := by
    rw [List.length_append]
    omega
  cases later with
  | nil =>
      refine ⟨(piece ++ more).length, [], ?_⟩
      rw [reference, split]
      simpa using overlong_of_exceeds limited longer
  | cons next later =>
      refine ⟨(piece ++ more).length, ?_⟩
      rw [reference, split, List.dropLast_cons_cons, List.map_cons,
        verdict_of_exceeds limited longer]
      exact ⟨_, rfl⟩

end Framing

end LineProtocol
