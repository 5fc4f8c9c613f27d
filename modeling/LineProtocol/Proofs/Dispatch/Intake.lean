import LineProtocol.Dispatch.Intake
import LineProtocol.Proofs.Frame.Serving

/-!
# An intake and its stream

`Framing.messages` are the messages of a stream: the texts of its frames up to
the first that is too long.  Octets behind such a frame give no message any
more, whatever they are.

An intake is tied to all octets that it was ever given by `Intake.Follows`.
While it reads, its reader is at rest and has yielded no frame that is too
long; once it closes, the stream has such a frame.  Either way the messages
delivered so far are those of the stream.
-/

namespace LineProtocol

/-- Whether a frame reports a piece that is too long. -/
def Frame.isTooLong : Frame → Bool
  | .error (.tooLong _ _) => true
  | _ => false

/-- The text of a frame that is a message. -/
def Frame.message? : Frame → Option String
  | .ok message => some message
  | .error _ => none

/-- The messages up to the first frame that is too long. -/
def texts (frames : List Frame) : List String :=
  (frames.takeWhile (!·.isTooLong)).filterMap Frame.message?

namespace Framing

/-- The messages of a stream. -/
def messages
    (framing : Framing)
    (stream : Bytes) :
    List String :=
  texts (framing.reference stream)

/-- Whether a piece of a stream, closed or not, is too long. -/
def overruns
    (framing : Framing)
    (stream : Bytes) :
    Bool :=
  (framing.reference stream).any Frame.isTooLong

end Framing

/-! ## Texts -/

@[simp]
theorem Frame.isTooLong_unmeasured (frame : Frame) :
    frame.unmeasured.isTooLong = frame.isTooLong := by
  unfold Frame.unmeasured
  split
  · rfl
  · rfl

@[simp]
theorem Frame.message?_unmeasured (frame : Frame) :
    frame.unmeasured.message? = frame.message? := by
  unfold Frame.unmeasured
  split
  · rfl
  · rfl

theorem texts_map_unmeasured (frames : List Frame) :
    texts (frames.map Frame.unmeasured) = texts frames := by
  rw [texts, List.takeWhile_map, List.filterMap_map]
  simp only [Function.comp_def, Frame.isTooLong_unmeasured, Frame.message?_unmeasured]
  rfl

theorem any_map_unmeasured (frames : List Frame) :
    (frames.map Frame.unmeasured).any Frame.isTooLong = frames.any Frame.isTooLong := by
  rw [List.any_map]
  simp only [Function.comp_def, Frame.isTooLong_unmeasured]

/-- Where no frame is too long, no text is left out. -/
theorem texts_append
    {frames : List Frame}
    (clear : frames.any Frame.isTooLong = false)
    (later : List Frame) :
    texts (frames ++ later) = frames.filterMap Frame.message? ++ texts later := by
  have passes : ∀ frame ∈ frames, (!frame.isTooLong) = true := by
    intro frame member
    have short := List.any_eq_false.mp clear frame member
    simpa using short
  rw [texts, List.takeWhile_append_of_pos passes, List.filterMap_append]
  rfl

theorem texts_of_clear
    {frames : List Frame}
    (clear : frames.any Frame.isTooLong = false) :
    texts frames = frames.filterMap Frame.message? := by
  have all := texts_append clear []
  simpa [texts] using all

/-- Behind a frame that is too long there is no text. -/
theorem texts_cons_of_tooLong
    {frame : Frame}
    (long : frame.isTooLong = true)
    (later : List Frame) :
    texts (frame :: later) = [] := by
  rw [texts, List.takeWhile_cons_of_neg (by simp [long])]
  rfl

namespace Framing

/-- The messages of a stream are the texts of all that a reader at rest has
yielded. -/
theorem messages_of_rest
    {framing : Framing}
    {decoder : Decoder}
    {stream : Bytes}
    {items : List Frame}
    (follows : decoder.Follows framing stream items)
    (rest : decoder.AtRest)
    (clear : items.any Frame.isTooLong = false) :
    framing.messages stream = items.filterMap Frame.message? ∧
      framing.overruns stream = false := by
  have whole := follows.eq_reference rest
  constructor
  · rw [messages, ← texts_map_unmeasured, ← whole, texts_map_unmeasured,
      texts_of_clear clear]
  · rw [overruns, ← any_map_unmeasured, ← whole, any_map_unmeasured, clear]

/-- The messages of a stream are the texts of what a reader has yielded in
front of a frame that is too long. -/
theorem messages_of_tooLong
    {framing : Framing}
    {decoder : Decoder}
    {stream : Bytes}
    {items : List Frame}
    {frame : Frame}
    (follows : decoder.Follows framing stream (items ++ [frame]))
    (clear : items.any Frame.isTooLong = false)
    (long : frame.isTooLong = true) :
    framing.messages stream = items.filterMap Frame.message? ∧
      framing.overruns stream = true := by
  obtain ⟨later, whole⟩ := follows.prefix_reference
  constructor
  · have clearUnmeasured : (items.map Frame.unmeasured).any Frame.isTooLong = false := by
      rw [any_map_unmeasured, clear]
    have texts :
        (items.map Frame.unmeasured).filterMap Frame.message? =
          items.filterMap Frame.message? := by
      simp [List.filterMap_map]
    rw [messages, ← texts_map_unmeasured, ← whole, List.map_append, List.append_assoc,
      texts_append clearUnmeasured, texts, List.map_singleton, List.singleton_append,
      texts_cons_of_tooLong (by simpa using long), List.append_nil]
  · rw [overruns, ← any_map_unmeasured, ← whole]
    simp [long]

end Framing

/-! ## Intakes -/

namespace Intake

/-- An intake was given this stream and has delivered these messages. -/
inductive Follows (framing : Framing) : Intake → Bytes → List String → Prop where
  | reading
      {decoder : Decoder}
      {stream : Bytes}
      {items : List Frame}
      (follows : decoder.Follows framing stream items)
      (rest : decoder.AtRest)
      (clear : items.any Frame.isTooLong = false) :
      Follows framing { decoder } stream (items.filterMap Frame.message?)
  /-- The stream goes on, but nobody looks at it.  A reader that did would have
  yielded the same frames in front of the one that is too long. -/
  | closing
      {decoder reader : Decoder}
      {stream : Bytes}
      {items : List Frame}
      {frame : Frame}
      (follows : reader.Follows framing stream (items ++ [frame]))
      (clear : items.any Frame.isTooLong = false)
      (long : frame.isTooLong = true) :
      Follows framing { decoder, closing := true } stream
        (items.filterMap Frame.message?)

theorem follows_ofFraming (framing : Framing) :
    Follows framing (ofFraming framing) [] [] := by
  exact .reading (Decoder.follows_decoder framing) (Decoder.atRest_decoder framing) rfl

/-- What an intake has delivered are the messages of its stream, and it closes
exactly where the stream overruns. -/
theorem Follows.messages_eq
    {framing : Framing}
    {intake : Intake}
    {stream : Bytes}
    {messages : List String}
    (follows : Follows framing intake stream messages) :
    framing.messages stream = messages ∧ framing.overruns stream = intake.closing := by
  cases follows with
  | reading follows rest clear => exact Framing.messages_of_rest follows rest clear
  | closing follows clear long => exact Framing.messages_of_tooLong follows clear long

/-- What sorting the frames of a chunk comes to: texts behind those that were
there, and then either a reader at rest or a frame that is too long. -/
theorem follows_sortOnto
    {framing : Framing}
    {decoder : Decoder}
    {stream : Bytes}
    {items : List Frame}
    {count : Nat}
    (follows : decoder.Follows framing stream items)
    (clear : items.any Frame.isTooLong = false)
    (enough : decoder.buffered < count)
    (done : Delivery) :
    ∃ messages,
      (sortOnto done count decoder).1.messages = messages.reverse ++ done.messages ∧
        Follows framing (sortOnto done count decoder).2 stream
          (items.filterMap Frame.message? ++ messages) := by
  induction count generalizing decoder items done with
  | zero => omega
  | succ count ih =>
      have answers := follows.next
      rw [sortOnto]
      cases answer : decoder.next with
      | mk frame? rest =>
          rw [answer] at answers
          cases frame? with
          | none =>
              obtain ⟨kept, resting⟩ := answers
              refine ⟨[], by simp, ?_⟩
              rw [List.append_nil]
              exact .reading kept resting clear
          | some frame =>
              have less := Decoder.buffered_next answer
              cases frame with
              | ok message =>
                  obtain ⟨messages, sorted, kept⟩ :=
                    ih answers (by simp [clear, Frame.isTooLong]) (by omega)
                      { done with messages := message :: done.messages }
                  refine ⟨message :: messages, ?_, ?_⟩
                  · simpa using sorted
                  · simpa [Frame.message?] using kept
              | error fault =>
                  cases fault with
                  | undecodable length valid =>
                      obtain ⟨messages, sorted, kept⟩ :=
                        ih answers (by simp [clear, Frame.isTooLong]) (by omega)
                          { done with faults := .undecodable length valid :: done.faults }
                      refine ⟨messages, sorted, ?_⟩
                      rw [List.filterMap_append] at kept
                      simpa [List.filterMap_cons, Frame.message?] using kept
                  | tooLong length limit =>
                      refine ⟨[], by simp, ?_⟩
                      rw [List.append_nil]
                      exact .closing answers clear rfl

/-- Taking a chunk in keeps an intake following. -/
theorem Follows.read
    {framing : Framing}
    {intake : Intake}
    {stream : Bytes}
    {messages : List String}
    (follows : Follows framing intake stream messages)
    (chunk : Bytes) :
    Follows framing (intake.read chunk).2 (stream ++ chunk)
      (messages ++ (intake.read chunk).1.messages) := by
  cases follows with
  | @reading decoder _ items follows rest clear =>
      obtain ⟨delivered, sorted, kept⟩ :=
        follows_sortOnto (follows.feed chunk) clear (Nat.lt_succ_self _) {}
      have given :
          (Intake.read { decoder } chunk).1.messages = delivered := by
        simp [Intake.read, sorted]
      rw [given]
      exact kept
  | @closing decoder reader _ items frame follows clear long =>
      rw [read_of_closing]
      simpa using Follows.closing (follows.feed chunk) clear long

end Intake

end LineProtocol
