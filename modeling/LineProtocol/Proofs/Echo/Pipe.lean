import LineProtocol.Proofs.Client.Wire
import LineProtocol.Proofs.Dispatch.Intake
import LineProtocol.Proofs.Frame.Inverse

/-!
# A stream that is under way

Messages are written one behind the other, and some of the octets have arrived.  The
messages that can be read so far are then a beginning of those that were written, wherever
the octets end, and all of them as soon as every octet is there.  Nothing is ever taken for
too long.
-/

namespace LineProtocol

namespace Framing

/-- A message comes back as it was written: the delimiter is not in it, and it is not too
long. -/
structure Fits
    (framing : Framing)
    (text : String) : Prop where
  clear : framing.delimiter ∉ Utf8.encode text
  within : ¬ framing.Exceeds (Utf8.encode text)

theorem fits_iff
    {framing : Framing}
    {text : String} :
    framing.Fits text ↔
      framing.delimiter ∉ Utf8.encode text ∧
        ∀ limit ∈ framing.limit, (Utf8.encode text).length ≤ limit := by
  constructor
  · rintro ⟨clear, within⟩
    exact ⟨clear, fun limit limited =>
      Nat.le_of_not_lt fun long => within ⟨limit, limited, long⟩⟩
  · rintro ⟨clear, short⟩
    refine ⟨clear, ?_⟩
    rintro ⟨limit, limited, long⟩
    exact Nat.not_lt.mpr (short limit limited) long

instance (framing : Framing) (text : String) : Decidable (framing.Fits text) :=
  decidable_of_iff _ fits_iff.symm

/-- What is written for messages, one behind the other. -/
def written
    (framing : Framing)
    (texts : List String) :
    Bytes :=
  texts.flatMap framing.frame

theorem written_append
    (framing : Framing)
    (texts others : List String) :
    framing.written (texts ++ others) = framing.written texts ++ framing.written others :=
  List.flatMap_append

theorem written_singleton
    (framing : Framing)
    (text : String) :
    framing.written [text] = framing.frame text :=
  List.flatMap_singleton framing.frame text

/-- Only the delimiter matters for what is written. -/
theorem written_congr
    {framing other : Framing}
    (same : framing.delimiter = other.delimiter)
    (texts : List String) :
    framing.written texts = other.written texts := by
  unfold written frame
  rw [same]

/-- A frame in front is one message more. -/
theorem reference_frame_append
    {framing : Framing}
    {text : String}
    (fits : framing.Fits text)
    (rest : Bytes) :
    framing.reference (framing.frame text ++ rest) = .ok text :: framing.reference rest := by
  have joins :
      framing.frame text ++ rest =
        joined framing.delimiter ([Utf8.encode text], rest) := by
    simp [frame, joined]
  have closed : ∀ piece ∈ [Utf8.encode text], framing.delimiter ∉ piece := by
    intro piece member
    rw [List.mem_singleton.mp member]
    exact fits.clear
  rw [joins, reference_joined closed, List.map_singleton, verdict_encode fits.within]
  rfl

theorem reference_nil (framing : Framing) : framing.reference [] = [] := by
  have within : ¬ framing.Exceeds [] := by
    rintro ⟨limit, -, long⟩
    exact Nat.not_lt_zero limit long
  rw [reference_of_notMem List.not_mem_nil, overlong_of_not_exceeds within]

/-- A beginning of a message is nothing yet. -/
theorem reference_of_prefix
    {framing : Framing}
    {text : String}
    (fits : framing.Fits text)
    {stream : Bytes}
    (begins : stream <+: Utf8.encode text) :
    framing.reference stream = [] := by
  have clear : framing.delimiter ∉ stream := fun member =>
    fits.clear (begins.subset member)
  have within : ¬ framing.Exceeds stream := by
    rintro ⟨limit, limited, long⟩
    exact fits.within ⟨limit, limited, Nat.lt_of_lt_of_le long begins.length_le⟩
  rw [reference_of_notMem clear, overlong_of_not_exceeds within]

/-- What a beginning of written messages is: some of the messages, and then perhaps a
beginning of the next one. -/
theorem reference_of_written
    {framing : Framing}
    {texts : List String}
    (fits : ∀ text ∈ texts, framing.Fits text)
    {stream : Bytes}
    (begins : stream <+: framing.written texts) :
    ∃ front,
      front <+: texts ∧ framing.reference stream = front.map .ok ∧
        (stream = framing.written texts → front = texts) := by
  induction texts generalizing stream with
  | nil =>
      obtain rfl := List.prefix_nil.mp begins
      exact ⟨[], List.prefix_rfl, framing.reference_nil, fun _ => rfl⟩
  | cons text texts ih =>
      have first := fits text List.mem_cons_self
      have written :
          framing.written (text :: texts) = framing.frame text ++ framing.written texts :=
        List.flatMap_cons
      rw [written] at begins ⊢
      by_cases short : stream.length ≤ (Utf8.encode text).length
      · have inside : Utf8.encode text <+: framing.frame text ++ framing.written texts := by
          rw [frame, List.append_assoc]
          exact List.prefix_append _ _
        have part := List.prefix_of_prefix_length_le begins inside short
        refine ⟨[], List.nil_prefix, reference_of_prefix first part, ?_⟩
        intro same
        rw [same, frame, List.length_append, List.length_append, List.length_singleton] at short
        omega
      · have whole : framing.frame text <+: stream := by
          apply List.prefix_of_prefix_length_le (List.prefix_append _ _) begins
          rw [frame, List.length_append, List.length_singleton]
          omega
        obtain ⟨rest, rfl⟩ := whole
        obtain ⟨front, part, read, all⟩ :=
          ih (fun other member => fits other (List.mem_cons_of_mem _ member))
            ((List.prefix_append_right_inj _).mp begins)
        refine ⟨text :: front, List.cons_prefix_cons.mpr ⟨rfl, part⟩, ?_, ?_⟩
        · rw [reference_frame_append first, read, List.map_cons]
        · intro same
          rw [all (List.append_cancel_left same)]

theorem texts_map_ok (texts : List String) :
    LineProtocol.texts (texts.map .ok) = texts ∧
      (texts.map (.ok : String → Frame)).any Frame.isTooLong = false := by
  have clear : (texts.map (.ok : String → Frame)).any Frame.isTooLong = false := by
    simp [Frame.isTooLong]
  refine ⟨?_, clear⟩
  rw [texts_of_clear clear]
  simp [List.filterMap_map, Function.comp_def, Frame.message?]

/-- The messages that have come are a beginning of those that were written, and nothing is
too long. -/
theorem messages_of_written
    {framing : Framing}
    {texts : List String}
    (fits : ∀ text ∈ texts, framing.Fits text)
    {stream : Bytes}
    (begins : stream <+: framing.written texts) :
    framing.messages stream <+: texts ∧ framing.overruns stream = false := by
  obtain ⟨front, part, read, -⟩ := reference_of_written fits begins
  obtain ⟨same, clear⟩ := texts_map_ok front
  rw [messages, overruns, read, same]
  exact ⟨part, clear⟩

/-- Where every octet has come, so has every message. -/
theorem messages_written
    {framing : Framing}
    {texts : List String}
    (fits : ∀ text ∈ texts, framing.Fits text) :
    framing.messages (framing.written texts) = texts := by
  obtain ⟨front, -, read, all⟩ := reference_of_written fits List.prefix_rfl
  rw [messages, read, (texts_map_ok front).1, all rfl]

end Framing

/-! ## Channels that carry a stream -/

namespace Transport

/-- The octets that were handed over for a channel. -/
def octetsOn
    (transport : Transport)
    (id : ChannelId) :
    Bytes :=
  transport.calls.flatMap (Call.octetsOn id)

/-- A channel takes all that is written, and these are the octets so far. -/
structure Carries
    (transport : Transport)
    (id : ChannelId)
    (octets : Bytes) : Prop where
  writable : transport.isWritable id = true
  accepts : transport.refusesWrites = false
  handed : transport.octetsOn id = octets

theorem Carries.write
    {transport : Transport}
    {id : ChannelId}
    {octets : Bytes}
    (carries : transport.Carries id octets)
    (bytes : Bytes) :
    transport.write id bytes = (.ok (), transport.record (.write id bytes)) := by
  simp [Transport.write, carries.writable, carries.accepts]

/-- One more message is carried behind the others. -/
theorem Carries.record
    {transport : Transport}
    {id : ChannelId}
    {framing : Framing}
    {texts : List String}
    (carries : transport.Carries id (framing.written texts))
    (text : String) :
    (transport.record (.write id (framing.frame text))).Carries id
      (framing.written (texts ++ [text])) where
  writable := carries.writable
  accepts := carries.accepts
  handed := by
    rw [framing.written_append, framing.written_singleton, ← carries.handed]
    simp [octetsOn, Call.octetsOn]

end Transport

end LineProtocol
