import LineProtocol.Proofs.Engine.Conserving
import LineProtocol.Proofs.Frame.Inverse
import LineProtocol.Settings

/-!
# Whether a message finds room

A reader counts the octets of a message, a write buffer those of its frame, which has the
delimiter too.  Where both have the same limit, as they have unless something else was chosen,
one message length is left over: a message that is exactly as long as a reader allows has a
frame that no buffer takes in, not even an empty one.

`admits_iff` says that this is the only such length.  Whether there is room depends on the
buffer alone, so it makes no difference what the socket does.
-/

namespace LineProtocol

namespace Framing

/-- A reader with these rules yields the message, in whatever stream and chunks. -/
def Yields
    (framing : Framing)
    (message : String) :
    Prop :=
  ∃ feeds : List Feed, .ok message ∈ (framing.decoder.serve feeds).1

theorem notMem_of_mem_segments
    {framing : Framing}
    {piece stream : Bytes}
    (there : piece ∈ framing.segments stream) :
    framing.delimiter ∉ piece := by
  obtain ⟨pieces, tail⟩ := notMem_cut framing.delimiter stream
  rw [segments_eq] at there
  rcases List.mem_append.mp there with closed | last
  · exact pieces piece closed
  · rw [List.mem_singleton.mp last]
    exact tail

/-- The messages that are yielded are those without the delimiter and within the limit. -/
theorem yields_iff
    {framing : Framing}
    {message : String} :
    framing.Yields message ↔
      framing.delimiter ∉ Utf8.encode message ∧ ¬ framing.Exceeds (Utf8.encode message) := by
  constructor
  · rintro ⟨feeds, yielded⟩
    obtain ⟨index, here⟩ := List.mem_iff_getElem?.mp yielded
    have follows := (Decoder.follows_decoder framing).serve feeds
    rw [List.nil_append, List.nil_append] at follows
    obtain ⟨piece, placed, reports⟩ := follows.reports here
    obtain ⟨rfl, within⟩ := encode_of_reports reports
    exact ⟨notMem_of_mem_segments (List.mem_of_getElem? placed), within⟩
  · rintro ⟨clear, within⟩
    have written :
        [framing.frame message].flatten =
          (framing.encoder.encodeAll [message]).1.flatten := by
      rw [encoder, Encoder.encodeAll_frames]
      rfl
    have unclosed : ∀ other ∈ [message], framing.delimiter ∉ Utf8.encode other := by
      simpa using clear
    obtain ⟨back, -⟩ := Decoder.feedAll_encodeAll unclosed (by simpa using within) written
    refine ⟨[⟨framing.frame message, .every⟩], ?_⟩
    have served :
        (framing.decoder.serve [⟨framing.frame message, .every⟩]).1 =
          (framing.decoder.feedAll [framing.frame message]).1 :=
      rfl
    rw [served, back]
    exact List.mem_singleton_self _

end Framing

namespace WriteBuffer

variable {buffer : WriteBuffer}

/-- The octets are taken in, unless the socket fails. -/
def Admits
    (buffer : WriteBuffer)
    (bytes : Bytes)
    (answers : List SocketAnswer) :
    Prop :=
  (buffer.queue bytes answers).1 = .ok true ∨
    ∃ reason, (buffer.queue bytes answers).1 = .error reason

theorem flush_of_empty
    (empty : buffer.pending = [])
    (answers : List SocketAnswer) :
    buffer.flush answers = (.ok answers, buffer) := by
  cases answers with
  | nil => rfl
  | cons answer answers => simp [flush, empty]

/-- An empty buffer has room for as many octets as its limit says. -/
theorem fits_of_empty
    (empty : buffer.pending = [])
    (bytes : Bytes) :
    buffer.fits bytes = true ↔ bytes.length ≤ buffer.limit := by
  simp [fits, empty]

/-- What an empty buffer has no room for it refuses, and the socket is offered nothing. -/
theorem queue_of_empty_of_lt
    {bytes : Bytes}
    (empty : buffer.pending = [])
    (long : buffer.limit < bytes.length)
    (answers : List SocketAnswer) :
    buffer.queue bytes answers = (.ok false, buffer) := by
  have full : ¬ buffer.fits bytes = true := by
    rw [fits_of_empty empty]
    exact Nat.not_le.mpr long
  rw [queue, if_neg full, flush_of_empty empty]
  simp only [if_neg full]

/-- What there is room for is taken in, or the socket fails. -/
theorem admits_of_fits
    {bytes : Bytes}
    (room : buffer.fits bytes = true)
    (answers : List SocketAnswer) :
    buffer.Admits bytes answers := by
  have answered :
      (buffer.queue bytes answers).1 =
        ((buffer.append bytes).flush answers).1.map fun _ => true := by
    rw [queue, if_pos room]
    rfl
  rw [Admits, answered]
  cases ((buffer.append bytes).flush answers).1 with
  | ok left => exact .inl rfl
  | error reason => exact .inr ⟨reason, rfl⟩

/-- Whether an empty buffer takes octets in is a matter of how many they are. -/
theorem admits_of_empty_iff
    {bytes : Bytes}
    (empty : buffer.pending = [])
    (answers : List SocketAnswer) :
    buffer.Admits bytes answers ↔ bytes.length ≤ buffer.limit := by
  constructor
  · intro admits
    by_contra long
    rw [Admits, queue_of_empty_of_lt empty (Nat.not_le.mp long)] at admits
    rcases admits with taken | ⟨reason, failed⟩
    · exact nomatch taken
    · exact nomatch failed
  · exact fun short => admits_of_fits ((fits_of_empty empty bytes).mpr short) answers

/-- Where nothing else was chosen: a message that a reader yields is taken in by an empty
buffer, whatever the socket does, unless it is exactly as long as a reader allows.  Such a
message is refused and leaves no trace; of any other that is taken in no octet is lost. -/
theorem admits_iff
    {message : String}
    (readable : Framing.Yields {} message)
    {buffer : WriteBuffer}
    (empty : buffer.pending = [])
    (limit : buffer.limit = ({} : EngineSettings).maxPendingWrite)
    (answers : List SocketAnswer) :
    let frame := ((Framing.encoder {}).encode message).1
    (buffer.Admits frame answers ↔
        (Utf8.encode message).length ≠ ({} : EngineSettings).maxPendingWrite) ∧
      ∀ taken next, buffer.queue frame answers = (.ok taken, next) →
        next.sent ++ next.pending = buffer.sent ++ if taken then frame else [] := by
  intro frame
  have counted : frame.length = (Utf8.encode message).length + 1 :=
    List.length_append
  have within : (Utf8.encode message).length ≤ ({} : EngineSettings).maxPendingWrite := by
    by_contra long
    exact (Framing.yields_iff.mp readable).2 ⟨_, rfl, Nat.not_le.mp long⟩
  constructor
  · rw [admits_of_empty_iff empty, limit, counted]
    omega
  · intro taken next answered
    rcases queue_cases answered with ⟨rfl, moves⟩ | ⟨rfl, rfl, -⟩
    · simpa [empty] using moves.whole
    · rw [flush_of_empty empty]
      simp [empty]

/-! ## At the border -/

/-- A message of one letter. -/
def monotone (count : Nat) : String :=
  String.ofList (List.replicate count 'a')

theorem encode_monotone (count : Nat) :
    Utf8.encode (monotone count) = List.replicate count 97 := by
  rw [monotone, Utf8.encode_ofList]
  induction count with
  | zero => rfl
  | succ count ih =>
      rw [List.replicate_succ, Utf8.encodeChars_cons, ih]
      rfl

theorem yields_monotone
    {count : Nat}
    (short : count ≤ 1048576) :
    Framing.Yields {} (monotone count) := by
  rw [Framing.yields_iff, encode_monotone]
  constructor
  · intro closes
    exact absurd (List.eq_of_mem_replicate closes) (by decide)
  · rintro ⟨limit, limited, long⟩
    obtain rfl : 1048576 = limit := Option.some.inj limited
    rw [List.length_replicate] at long
    omega

/-- The longest message that finds room, on a socket that has none. -/
theorem admits_iff_one_short :
    Framing.Yields {} (monotone 1048575) ∧
      WriteBuffer.Admits { limit := 1048576 }
        ((Framing.encoder {}).encode (monotone 1048575)).1 [.full] := by
  have readable : Framing.Yields {} (monotone 1048575) := yields_monotone (by decide)
  have empty : ({ limit := 1048576 } : WriteBuffer).pending = [] := rfl
  obtain ⟨iff, -⟩ := admits_iff readable empty rfl [.full]
  refine ⟨readable, iff.mpr ?_⟩
  rw [encode_monotone, List.length_replicate]
  decide

/-- A message that is as long as a reader allows is refused by an empty buffer, though the
socket has room for all of it. -/
theorem not_always_admits :
    Framing.Yields {} (monotone 1048576) ∧
      ¬ WriteBuffer.Admits { limit := ({} : EngineSettings).maxPendingWrite }
          ((Framing.encoder {}).encode (monotone 1048576)).1 [.took 1048577] := by
  refine ⟨yields_monotone (Nat.le_refl _), ?_⟩
  have counted :
      ((Framing.encoder {}).encode (monotone 1048576)).1.length = 1048576 + 1 := by
    rw [Framing.encode_encoder, Framing.frame, List.length_append, encode_monotone,
      List.length_replicate]
    rfl
  rw [admits_of_empty_iff rfl, counted]
  decide

end WriteBuffer

end LineProtocol
