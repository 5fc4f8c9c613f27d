import LineProtocol.Proofs.Frame.Following

/-!
# Serving a stream in chunks

The user of a reader decides after each chunk how many of the frames that are
there are taken: every one, at most some number, or none.  A list of `Feed`s is
one such course, and `Decoder.serve` runs it.

`serve_reference` compares the course with the stream as a whole.  The frames
taken are a beginning of the stream's frames, and all of them as soon as the
reader said that there is no more.
-/

namespace LineProtocol

/-- How many of the frames that are there are taken after a chunk. -/
inductive Draw where
  | every
  | atMost (count : Nat)
  deriving Repr, DecidableEq

/-- A chunk, and what is taken after it. -/
structure Feed where
  chunk : Bytes
  draw : Draw
  deriving Repr, DecidableEq

namespace Decoder

/-- Takes a chunk and then as many frames as the feed asks for. -/
def serveOne
    (decoder : Decoder)
    (feed : Feed) :
    List Frame × Decoder :=
  match feed.draw with
  | .every => (decoder.feed feed.chunk).drain
  | .atMost count => (decoder.feed feed.chunk).take count

/-- Runs a course: the frames taken, and the reader after it. -/
def serve (decoder : Decoder) : List Feed → List Frame × Decoder
  | [] => ([], decoder)
  | feed :: rest =>
      let (frames, decoder) := decoder.serveOne feed
      let (later, decoder) := decoder.serve rest
      (frames ++ later, decoder)

end Decoder

/-- The reader says, within this feed, that there is no more.  Taking every
frame always leads there. -/
def Feed.ReachesEnd
    (feed : Feed)
    (decoder : Decoder) :
    Prop :=
  match feed.draw with
  | .every => True
  | .atMost count => (decoder.serveOne feed).1.length < count

namespace Decoder

/-! ## One question -/

/-- What a search can come to: a closed piece, a report on an unclosed one that
is too long, or nothing. -/
theorem scan_cases (decoder : Decoder) :
    (∃ stop, decoder.buffer[stop]? = some decoder.framing.delimiter ∧
        decoder.scan =
          (some (decoder.framing.judge (decoder.buffer.take stop)),
            { decoder with buffer := decoder.buffer.drop (stop + 1), scanned := 0 })) ∨
      (∃ limit, decoder.framing.limit = some limit ∧ limit < decoder.buffer.length ∧
        decoder.scan =
          (some (.error (.tooLong decoder.buffer.length limit)),
            { decoder with buffer := [], scanned := 0, discarding := true })) ∨
      (¬ decoder.framing.Exceeds decoder.buffer ∧
        decoder.scan = (none, { decoder with scanned := decoder.buffer.length })) := by
  rw [scan]
  cases found : decoder.delimiterAt? with
  | some stop =>
      obtain ⟨offset, here, rfl⟩ := Option.map_eq_some_iff.mp found
      obtain ⟨short, here, -⟩ := List.idxOf?_eq_some_iff.mp here
      refine .inl ⟨_, ?_, rfl⟩
      rw [← List.getElem?_drop, List.getElem?_eq_getElem short, here]
  | none =>
      simp only [unterminated]
      cases limited : decoder.framing.limit with
      | none =>
          refine .inr (.inr ⟨?_, rfl⟩)
          rintro ⟨limit, given, -⟩
          simp [limited] at given
      | some limit =>
          by_cases long : limit < decoder.buffer.length
          · exact .inr (.inl ⟨limit, rfl, long, if_pos long⟩)
          · refine .inr (.inr ⟨?_, if_neg long⟩)
            rintro ⟨other, given, longer⟩
            rw [limited, Option.some.injEq] at given
            subst given
            exact long longer

/-- What skipping can come to: the delimiter has arrived, or all is dropped. -/
theorem skip_cases (decoder : Decoder) :
    (∃ stop, decoder.buffer[stop]? = some decoder.framing.delimiter ∧
        decoder.skip =
          { decoder with buffer := decoder.buffer.drop (stop + 1), discarding := false }) ∨
      decoder.skip = { decoder with buffer := [] } := by
  rw [skip]
  cases found : decoder.buffer.idxOf? decoder.framing.delimiter with
  | some stop =>
      obtain ⟨short, here, -⟩ := List.idxOf?_eq_some_iff.mp found
      refine .inl ⟨stop, ?_, rfl⟩
      rw [List.getElem?_eq_getElem short, here]
  | none => exact .inr rfl

/-- A question is a search, of a reader that was not skipping or has got behind
the delimiter, or it finds that there is nothing but octets to skip. -/
theorem next_cases (decoder : Decoder) :
    (decoder.discarding = false ∧ decoder.next = decoder.scan) ∨
      (decoder.discarding = true ∧
        ∃ stop, decoder.buffer[stop]? = some decoder.framing.delimiter ∧
          decoder.next =
            scan
              { decoder with
                buffer := decoder.buffer.drop (stop + 1)
                discarding := false }) ∨
      (decoder.discarding = true ∧
        decoder.next = (none, { decoder with buffer := [] })) := by
  rw [next]
  cases discarding : decoder.discarding with
  | false => exact .inl ⟨rfl, rfl⟩
  | true =>
      rcases decoder.skip_cases with ⟨stop, here, skipped⟩ | skipped
      · refine .inr (.inl ⟨rfl, stop, here, ?_⟩)
        simp [skipped]
      · refine .inr (.inr ⟨rfl, ?_⟩)
        simp [skipped, discarding]

/-! ## Every frame uses up an octet -/

theorem buffered_scan
    {decoder rest : Decoder}
    {frame : Frame}
    (answer : decoder.scan = (some frame, rest)) :
    rest.buffered < decoder.buffered := by
  rcases decoder.scan_cases with
    ⟨stop, here, scanned⟩ | ⟨limit, -, long, scanned⟩ | ⟨-, scanned⟩
  · obtain ⟨-, rfl⟩ := Prod.mk.inj (scanned.symm.trans answer)
    obtain ⟨short, -⟩ := List.getElem?_eq_some_iff.mp here
    simp only [buffered, List.length_drop]
    omega
  · obtain ⟨-, rfl⟩ := Prod.mk.inj (scanned.symm.trans answer)
    simp only [buffered, List.length_nil]
    omega
  · simp [scanned] at answer

theorem buffered_next
    {decoder rest : Decoder}
    {frame : Frame}
    (answer : decoder.next = (some frame, rest)) :
    rest.buffered < decoder.buffered := by
  rcases decoder.next_cases with ⟨-, asked⟩ | ⟨-, stop, -, asked⟩ | ⟨-, asked⟩
  · exact buffered_scan (asked.symm.trans answer)
  · have less := buffered_scan (asked.symm.trans answer)
    simp only [buffered, List.length_drop] at less ⊢
    omega
  · simp [asked] at answer

/-- No more frames are taken than octets are there. -/
theorem length_take_le
    (decoder : Decoder)
    (count : Nat) :
    (decoder.take count).1.length ≤ decoder.buffered := by
  induction count generalizing decoder with
  | zero => simp
  | succ count ih =>
      rw [take_succ]
      split
      · rename_i frame rest answer
        have less := buffered_next answer
        have others := ih rest
        simp only [List.length_cons]
        omega
      · simp

/-! ## Taking frames -/

/-- Taking frames keeps a reader following, and one that yields fewer than
asked for is at rest. -/
theorem Follows.take
    {framing : Framing}
    {decoder : Decoder}
    {stream : Bytes}
    {items : List Frame}
    (follows : Follows framing decoder stream items)
    (count : Nat) :
    Follows framing (decoder.take count).2 stream (items ++ (decoder.take count).1) ∧
      ((decoder.take count).1.length < count → (decoder.take count).2.AtRest) := by
  induction count generalizing decoder items with
  | zero =>
      constructor
      · simpa using follows
      · simp
  | succ count ih =>
      have answers := follows.next
      rw [take_succ]
      cases answer : decoder.next with
      | mk frame? rest =>
          rw [answer] at answers
          cases frame? with
          | none =>
              obtain ⟨kept, resting⟩ := answers
              constructor
              · simpa using kept
              · intro _
                exact resting
          | some frame =>
              obtain ⟨kept, resting⟩ := ih answers
              constructor
              · simpa using kept
              · intro fewer
                simp only [List.length_cons, Nat.add_lt_add_iff_right] at fewer
                exact resting fewer

/-- Taking every frame leaves a reader at rest. -/
theorem Follows.drain
    {framing : Framing}
    {decoder : Decoder}
    {stream : Bytes}
    {items : List Frame}
    (follows : Follows framing decoder stream items) :
    Follows framing decoder.drain.2 stream (items ++ decoder.drain.1) ∧
      decoder.drain.2.AtRest := by
  obtain ⟨kept, resting⟩ := follows.take (decoder.buffered + 1)
  have fewer := decoder.length_take_le (decoder.buffered + 1)
  exact ⟨kept, resting (by omega)⟩

theorem Follows.serveOne
    {framing : Framing}
    {decoder : Decoder}
    {stream : Bytes}
    {items : List Frame}
    (follows : Follows framing decoder stream items)
    (feed : Feed) :
    Follows framing (decoder.serveOne feed).2 (stream ++ feed.chunk)
        (items ++ (decoder.serveOne feed).1) ∧
      (feed.ReachesEnd decoder → (decoder.serveOne feed).2.AtRest) := by
  obtain ⟨chunk, draw⟩ := feed
  have fed := follows.feed chunk
  cases draw with
  | every =>
      obtain ⟨kept, resting⟩ := fed.drain
      exact ⟨kept, fun _ => resting⟩
  | atMost count => exact fed.take count

/-! ## Whole courses -/

theorem Follows.serve
    {framing : Framing}
    {decoder : Decoder}
    {stream : Bytes}
    {items : List Frame}
    (follows : Follows framing decoder stream items)
    (feeds : List Feed) :
    Follows framing (decoder.serve feeds).2 (stream ++ feeds.flatMap Feed.chunk)
      (items ++ (decoder.serve feeds).1) := by
  induction feeds generalizing decoder stream items with
  | nil => simpa [Decoder.serve] using follows
  | cons feed rest ih =>
      obtain ⟨kept, -⟩ := follows.serveOne feed
      have served := ih kept
      simpa [Decoder.serve] using served

theorem serve_append
    (decoder : Decoder)
    (earlier later : List Feed) :
    decoder.serve (earlier ++ later) =
      ((decoder.serve earlier).1 ++ ((decoder.serve earlier).2.serve later).1,
        ((decoder.serve earlier).2.serve later).2) := by
  induction earlier generalizing decoder with
  | nil => simp [serve]
  | cons feed rest ih => simp [serve, ih]

/-- A fresh reader that is served a stream in chunks, with frames left unread
or not, yields a beginning of the stream's frames.  Each report on a piece that
is too long gives the limit and a length that the piece at its place has
reached.  After a feed within which the reader says that there is no more, it
has yielded all frames, and it keeps the unclosed piece unless that is too
long. -/
theorem serve_reference
    (framing : Framing)
    (feeds : List Feed) :
    let stream : Bytes := feeds.flatMap Feed.chunk
    let items : List Frame := (framing.decoder.serve feeds).1
    let decoder : Decoder := (framing.decoder.serve feeds).2
    items.map Frame.unmeasured <+: (framing.reference stream).map Frame.unmeasured ∧
      (∀ index length limit : Nat,
        items[index]? = some (.error (.tooLong length limit)) →
          framing.limit = some limit ∧ limit < length ∧
            ∃ piece, (framing.segments stream)[index]? = some piece ∧
              length ≤ piece.length) ∧
      (∀ (earlier : List Feed) (last : Feed),
        feeds = earlier ++ [last] →
        last.ReachesEnd (framing.decoder.serve earlier).2 →
          items.map Frame.unmeasured =
              (framing.reference stream).map Frame.unmeasured ∧
            (¬ framing.Exceeds (framing.tail stream) →
              decoder.buffered = (framing.tail stream).length) ∧
            (framing.Exceeds (framing.tail stream) → decoder.buffered = 0)) := by
  intro stream items decoder
  have follows : Follows framing decoder stream items :=
    (follows_decoder framing).serve feeds
  refine ⟨follows.prefix_reference, ?_, ?_⟩
  · intro index length limit yielded
    obtain ⟨piece, here, limited, longer, reached⟩ := follows.reports yielded
    exact ⟨limited, longer, piece, here, reached⟩
  · rintro earlier last rfl reaches
    have before := (follows_decoder framing).serve earlier
    obtain ⟨-, resting⟩ := before.serveOne last
    have rest : decoder.AtRest := by
      simpa [decoder, serve_append, serve] using resting reaches
    exact ⟨follows.eq_reference rest, follows.buffered_eq rest⟩

/-- A piece that grows too long over two feeds with frames left unread, and
whose rest and delimiter come in a third. -/
theorem serve_reference_unread :
    let framing : Framing := { delimiter := 10, limit := some 2 }
    let earlier : List Feed :=
      [⟨[97, 10, 98, 99], .atMost 0⟩, ⟨[100, 101], .atMost 2⟩]
    let last : Feed := ⟨[10, 255, 10, 102], .atMost 2⟩
    let items : List Frame := (framing.decoder.serve (earlier ++ [last])).1
    let decoder : Decoder := (framing.decoder.serve (earlier ++ [last])).2
    items[1]? = some (.error (.tooLong 4 2)) ∧
      last.ReachesEnd (framing.decoder.serve earlier).2 ∧
      ¬ framing.Exceeds (framing.tail ((earlier ++ [last]).flatMap Feed.chunk)) ∧
      framing.limit = some 2 ∧
      items.map Frame.unmeasured =
        (framing.reference ((earlier ++ [last]).flatMap Feed.chunk)).map
          Frame.unmeasured ∧
      decoder.buffered = 1 := by
  intro framing earlier last items decoder
  have long : items[1]? = some (.error (.tooLong 4 2)) := by decide +kernel
  have reaches : last.ReachesEnd (framing.decoder.serve earlier).2 := by
    show (_ : Nat) < 2
    decide +kernel
  have within :
      ¬ framing.Exceeds (framing.tail ((earlier ++ [last]).flatMap Feed.chunk)) := by
    rintro ⟨limit, limited, longer⟩
    obtain rfl : 2 = limit := Option.some.inj limited
    revert longer
    decide +kernel
  obtain ⟨-, reports, rest⟩ := serve_reference framing (earlier ++ [last])
  obtain ⟨limited, -, -⟩ := reports 1 4 2 long
  obtain ⟨whole, kept, -⟩ := rest earlier last rfl reaches
  exact ⟨long, reaches, within, limited, whole, kept within⟩

end Decoder

end LineProtocol
