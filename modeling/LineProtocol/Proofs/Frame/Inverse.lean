import LineProtocol.Frame.Encoder
import LineProtocol.Proofs.Frame.Serving

/-!
# Writing and reading are inverse

What an encoder writes is a joined list of closed pieces, one for each message.
A reader with the same rules takes it apart again, wherever the chunks are
cut, if no message holds the delimiter or is too long.

The other way, frames that are all messages determine the octets: each message
is the text of its piece, and text has one encoding.
-/

namespace LineProtocol

open Decoder

theorem Frame.standard_encode (message : String) :
    Frame.standard (Utf8.encode message) = .ok message := by
  have read := Utf8.text_eq_ok_iff.mpr (rfl : Utf8.encode message = Utf8.encode message)
  rw [← Frame.ofBytes_eq_standard, Frame.ofBytes, read]

theorem Frame.encode_of_standard
    {piece : Bytes}
    {message : String}
    (standard : Frame.standard piece = .ok message) :
    Utf8.encode message = piece := by
  rw [← Frame.ofBytes_eq_standard, Frame.ofBytes] at standard
  split at standard
  · rename_i read
    simp only [Except.ok.injEq] at standard
    subst standard
    exact Utf8.text_eq_ok_iff.mp read
  · simp at standard

theorem Frame.eq_ok_of_unmeasured
    {frame : Frame}
    {message : String}
    (same : frame.unmeasured = .ok message) :
    frame = .ok message := by
  unfold Frame.unmeasured at same
  split at same
  · simp at same
  · exact same

theorem Frame.eq_map_ok_of_unmeasured
    {items : List Frame}
    {messages : List String}
    (same :
      items.map Frame.unmeasured = (messages.map Except.ok).map Frame.unmeasured) :
    items = messages.map .ok := by
  induction messages generalizing items with
  | nil => simpa using same
  | cons message rest ih =>
      cases items with
      | nil => simp at same
      | cons frame later =>
          simp only [List.map_cons, List.cons.injEq] at same
          rw [Frame.eq_ok_of_unmeasured same.1, ih same.2, List.map_cons]

namespace Framing

theorem verdict_encode
    {framing : Framing}
    {message : String}
    (within : ¬ framing.Exceeds (Utf8.encode message)) :
    framing.verdict (Utf8.encode message) = .ok message := by
  unfold verdict
  cases limited : framing.limit with
  | none => exact Frame.standard_encode message
  | some limit =>
      simp only
      rw [if_neg fun long => within ⟨limit, limited, long⟩]
      exact Frame.standard_encode message

/-- A piece that is reported as a message is its encoding. -/
theorem encode_of_reports
    {framing : Framing}
    {piece : Bytes}
    {message : String}
    (reports : framing.Reports piece (.ok message)) :
    Utf8.encode message = piece ∧ ¬ framing.Exceeds piece := by
  have judged : framing.verdict piece = .ok message := Eq.symm reports
  have within : ¬ framing.Exceeds piece := by
    rintro ⟨limit, limited, long⟩
    rw [verdict_of_exceeds limited long] at judged
    simp at judged
  refine ⟨?_, within⟩
  unfold verdict at judged
  split at judged
  · exact Frame.encode_of_standard judged
  · rename_i limit limited
    rw [if_neg fun long => within ⟨limit, limited, long⟩] at judged
    exact Frame.encode_of_standard judged

theorem map_encode_of_reports
    {framing : Framing}
    {pieces : List Bytes}
    {messages : List String}
    (reported : List.Forall₂ framing.Reports pieces (messages.map .ok)) :
    messages.map Utf8.encode = pieces ∧ ∀ piece ∈ pieces, ¬ framing.Exceeds piece := by
  induction messages generalizing pieces with
  | nil =>
      obtain rfl := List.forall₂_nil_right_iff.mp reported
      simp
  | cons message rest ih =>
      obtain ⟨piece, later, first, others, rfl⟩ :=
        List.forall₂_cons_right_iff.mp reported
      obtain ⟨written, within⟩ := encode_of_reports first
      obtain ⟨writtenRest, withinRest⟩ := ih others
      refine ⟨by rw [List.map_cons, written, writtenRest], ?_⟩
      intro other member
      rcases List.mem_cons.mp member with rfl | later
      · exact within
      · exact withinRest other later

/-- What an encoder writes is a piece for each message, all of them closed. -/
theorem flatten_encodeAll
    (framing : Framing)
    (messages : List String) :
    (framing.encoder.encodeAll messages).1.flatten =
      joined framing.delimiter (messages.map Utf8.encode, []) := by
  rw [encoder, Encoder.encodeAll_frames]
  simp [joined, List.flatMap_def, Function.comp_def]

section

variable {framing : Framing} {messages : List String}

theorem notMem_map_encode
    (clear : ∀ message ∈ messages, framing.delimiter ∉ Utf8.encode message) :
    ∀ piece ∈ messages.map Utf8.encode, framing.delimiter ∉ piece := by
  intro piece member
  obtain ⟨message, listed, rfl⟩ := List.mem_map.mp member
  exact clear message listed

/-- The frames of what was written for messages without the delimiter and
within the limit are these messages. -/
theorem reference_encodeAll
    (clear : ∀ message ∈ messages, framing.delimiter ∉ Utf8.encode message)
    (within : ∀ message ∈ messages, ¬ framing.Exceeds (Utf8.encode message)) :
    framing.reference (framing.encoder.encodeAll messages).1.flatten =
      messages.map .ok := by
  have nothing : framing.overlong [] = [] :=
    overlong_of_not_exceeds (atRest_decoder framing).within
  rw [flatten_encodeAll, reference_joined (notMem_map_encode clear),
    reference_of_notMem (by simp), nothing, List.append_nil, List.map_map]
  exact List.map_congr_left fun message listed =>
    verdict_encode (within message listed)

end

end Framing

namespace Decoder

/-- A reader that took every frame after each chunk has yielded all frames of
its stream. -/
theorem follows_feedAll
    {framing : Framing}
    {decoder : Decoder}
    {stream : Bytes}
    {items : List Frame}
    (follows : Follows framing decoder stream items)
    (rest : decoder.AtRest)
    (chunks : List Bytes) :
    Follows framing (decoder.feedAll chunks).2 (stream ++ chunks.flatten)
        (items ++ (decoder.feedAll chunks).1) ∧
      (decoder.feedAll chunks).2.AtRest := by
  induction chunks generalizing decoder stream items with
  | nil => simpa [feedAll] using ⟨follows, rest⟩
  | cons chunk later ih =>
      obtain ⟨kept, resting⟩ := (follows.feed chunk).drain
      simpa [feedAll] using ih kept resting

/-- Messages without the delimiter and within the limit come back as they were
written, wherever the stream is cut, and nothing is left over. -/
theorem feedAll_encodeAll
    {framing : Framing}
    {messages : List String}
    {chunks : List Bytes}
    (clear : ∀ message ∈ messages, framing.delimiter ∉ Utf8.encode message)
    (within : ∀ message ∈ messages, ¬ framing.Exceeds (Utf8.encode message))
    (written : chunks.flatten = (framing.encoder.encodeAll messages).1.flatten) :
    (framing.decoder.feedAll chunks).1 = messages.map .ok ∧
      (framing.decoder.feedAll chunks).2.buffered = 0 := by
  obtain ⟨follows, rest⟩ :=
    follows_feedAll (follows_decoder framing) (atRest_decoder framing) chunks
  rw [List.nil_append, List.nil_append, written] at follows
  have tail : framing.tail (framing.encoder.encodeAll messages).1.flatten = [] := by
    rw [Framing.flatten_encodeAll, Framing.tail,
      cut_joined (Framing.notMem_map_encode clear), cut]
  have yielded := follows.eq_reference rest
  rw [Framing.reference_encodeAll clear within] at yielded
  have kept := (follows.buffered_eq rest).1
  rw [tail] at kept
  exact ⟨Frame.eq_map_ok_of_unmeasured yielded, kept (atRest_decoder framing).within⟩

/-- Where all frames are messages, the octets are what an encoder writes for
these messages and then what is buffered. -/
theorem Follows.encodeAll
    {framing : Framing}
    {decoder : Decoder}
    {stream : Bytes}
    {messages : List String}
    (follows : Follows framing decoder stream (messages.map .ok)) :
    (framing.encoder.encodeAll messages).1.flatten ++ decoder.buffer = stream := by
  rw [Framing.flatten_encodeAll]
  generalize listed : messages.map Except.ok = items at follows
  cases follows with
  | @reading closed buffer _ _ _ reported =>
      subst listed
      rw [(Framing.map_encode_of_reports reported).1]
      simp [joined]
  | @skipping _ lost _ _ _ _ long reported =>
      subst listed
      obtain ⟨-, within⟩ := Framing.map_encode_of_reports reported
      exact (within lost (by simp) long).elim

/-- An encoder and a reader with the same rules undo each other.  Messages
without the delimiter and within the limit are read back from what was written
for them, in whatever chunks it arrives.  Where a reader, served in whatever
way, has yielded messages only, writing these and adding what is buffered gives
the stream. -/
theorem encodeAll_inverse (framing : Framing) :
    (∀ (messages : List String) (chunks : List Bytes),
        (∀ message ∈ messages,
          framing.delimiter ∉ Utf8.encode message ∧
            ¬ framing.Exceeds (Utf8.encode message)) →
        chunks.flatten = (framing.encoder.encodeAll messages).1.flatten →
          (framing.decoder.feedAll chunks).1 = messages.map .ok ∧
            (framing.decoder.feedAll chunks).2.buffered = 0) ∧
      (∀ (messages : List String) (feeds : List Feed),
        (framing.decoder.serve feeds).1 = messages.map .ok →
          (framing.encoder.encodeAll messages).1.flatten ++
              (framing.decoder.serve feeds).2.buffer =
            feeds.flatMap Feed.chunk) := by
  constructor
  · intro messages chunks fit written
    exact feedAll_encodeAll (fun message listed => (fit message listed).1)
      (fun message listed => (fit message listed).2) written
  · intro messages feeds yielded
    have follows := (follows_decoder framing).serve feeds
    rw [List.nil_append, List.nil_append, yielded] at follows
    exact follows.encodeAll

/-- The delimiter is also the last octet of a character that no message holds,
one message is empty, and the cuts are inside a character and in front of a
delimiter. -/
theorem encodeAll_inverse_cut_character :
    let framing : Framing := { delimiter := 0xA9, limit := some 3 }
    let chunks : List Bytes := [[0xE2, 0x82], [0xAC], [0xA9, 0xA9, 0x61], [0xA9]]
    let feeds : List Feed := [⟨[0xE2, 0x82], .every⟩, ⟨[0xAC, 0xA9, 0xC3], .atMost 1⟩]
    (∀ message ∈ ["€", "", "a"],
        framing.delimiter ∉ Utf8.encode message ∧
          ¬ framing.Exceeds (Utf8.encode message)) ∧
      chunks.flatten = (framing.encoder.encodeAll ["€", "", "a"]).1.flatten ∧
      (framing.decoder.serve feeds).1 = ["€"].map .ok ∧
      (framing.decoder.feedAll chunks).1 = ["€", "", "a"].map .ok ∧
      (framing.decoder.feedAll chunks).2.buffered = 0 ∧
      (framing.encoder.encodeAll ["€"]).1.flatten ++
          (framing.decoder.serve feeds).2.buffer =
        [0xE2, 0x82, 0xAC, 0xA9, 0xC3] := by
  intro framing chunks feeds
  have fit :
      ∀ message ∈ ["€", "", "a"],
        framing.delimiter ∉ Utf8.encode message ∧
          ¬ framing.Exceeds (Utf8.encode message) := by
    intro message listed
    have short :
        framing.delimiter ∉ Utf8.encode message ∧ (Utf8.encode message).length ≤ 3 := by
      revert message
      decide +kernel
    refine ⟨short.1, ?_⟩
    rintro ⟨limit, limited, long⟩
    obtain rfl : 3 = limit := Option.some.inj limited
    have bound := short.2
    omega
  have written :
      chunks.flatten = (framing.encoder.encodeAll ["€", "", "a"]).1.flatten := by
    decide +kernel
  have yielded : (framing.decoder.serve feeds).1 = ["€"].map .ok := by
    decide +kernel
  obtain ⟨back, whole⟩ := encodeAll_inverse framing
  obtain ⟨messages, nothing⟩ := back ["€", "", "a"] chunks fit written
  exact ⟨fit, written, yielded, messages, nothing, whole ["€"] feeds yielded⟩

end Decoder

end LineProtocol
