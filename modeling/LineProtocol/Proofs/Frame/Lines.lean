import LineProtocol.Proofs.Frame.Inverse

/-!
# Messages that hold the delimiter

Nothing is escaped, so a message with the delimiter in it is read back as
several.  Where the delimiter is a character of its own, that is where it is
ASCII, this cuts the text at that character and nowhere else: every octet of a
longer character is at least `0x80`, so splitting the octets of a text is
writing the parts of the text.

`Framing.lines` are these parts.  A message and its lines are written the same
way, and the lines can be read back like any messages without the delimiter.
-/

namespace LineProtocol

theorem Frame.prefix_map_ok_of_unmeasured
    {items : List Frame}
    {messages : List String}
    (same :
      items.map Frame.unmeasured <+: (messages.map Except.ok).map Frame.unmeasured) :
    items <+: messages.map .ok := by
  rw [List.prefix_iff_eq_take, ← List.map_take, ← List.map_take] at same
  rw [Frame.eq_map_ok_of_unmeasured same, List.map_take]
  exact List.take_prefix _ _

namespace Utf8

/-! ## Splitting octets and splitting text -/

theorem toNat_lead_or_trail
    (bits least : Nat)
    (lower : 0x80 ≤ least)
    (upper : bits + least < 0x100) :
    ¬ (UInt8.ofNat (bits + least)).toNat < 0x80 := by
  rw [UInt8.toNat_ofNat']
  omega

/-- An ASCII octet occurs only as the whole of its own character. -/
theorem eq_of_mem_encodeChar
    {octet : UInt8}
    {char : Char}
    (ascii : octet.toNat < 0x80)
    (member : octet ∈ String.utf8EncodeChar char) :
    char = Char.ofNat octet.toNat := by
  unfold String.utf8EncodeChar at member
  simp only at member
  split at member
  · rename_i single
    obtain rfl := List.mem_singleton.mp member
    have value : (UInt8.ofNat char.val.toNat).toNat = char.toNat := by
      rw [UInt8.toNat_ofNat']
      exact Nat.mod_eq_of_lt (by omega)
    rw [value, Char.ofNat_toNat]
  -- All other octets are a lead or a trail, which are never ASCII.
  · exfalso
    split at member
    · simp only [List.mem_cons, List.not_mem_nil, or_false] at member
      rcases member with rfl | rfl
      · exact toNat_lead_or_trail _ 192 (by decide) (by omega) ascii
      · exact toNat_lead_or_trail _ 128 (by decide) (by omega) ascii
    · split at member
      · simp only [List.mem_cons, List.not_mem_nil, or_false] at member
        rcases member with rfl | rfl | rfl
        · exact toNat_lead_or_trail _ 224 (by decide) (by omega) ascii
        · exact toNat_lead_or_trail _ 128 (by decide) (by omega) ascii
        · exact toNat_lead_or_trail _ 128 (by decide) (by omega) ascii
      · simp only [List.mem_cons, List.not_mem_nil, or_false] at member
        rcases member with rfl | rfl | rfl | rfl
        · exact toNat_lead_or_trail _ 240 (by decide) (by omega) ascii
        · exact toNat_lead_or_trail _ 128 (by decide) (by omega) ascii
        · exact toNat_lead_or_trail _ 128 (by decide) (by omega) ascii
        · exact toNat_lead_or_trail _ 128 (by decide) (by omega) ascii

/-- Octets in front of the first delimiter go to the first part. -/
theorem splitOn_append_of_notMem
    {delimiter : UInt8}
    {front : Bytes}
    (clear : delimiter ∉ front)
    (rest : Bytes) :
    (front ++ rest).splitOn delimiter =
      (rest.splitOn delimiter).modifyHead (front ++ ·) := by
  induction front with
  | nil => exact (congrFun List.modifyHead_id (rest.splitOn delimiter)).symm
  | cons octet front ih =>
      obtain ⟨other, clear⟩ := not_or.mp (clear ∘ List.mem_cons.mpr)
      rw [List.cons_append, List.splitOn_cons_eq_if_modifyHead, ih clear,
        if_neg (by simpa using Ne.symm other), List.modifyHead_modifyHead]
      rfl

/-- Writing a text and splitting it at an ASCII character commute. -/
theorem splitOn_encodeChars
    {delimiter : UInt8}
    (ascii : delimiter.toNat < 0x80)
    (chars : List Char) :
    (encodeChars chars).splitOn delimiter =
      (chars.splitOn (Char.ofNat delimiter.toNat)).map encodeChars := by
  induction chars with
  | nil => rfl
  | cons char chars ih =>
      rw [encodeChars_cons, List.splitOn_cons_eq_if_modifyHead]
      by_cases same : char = Char.ofNat delimiter.toNat
      · rw [same, encodeChar_single ascii, if_pos (by simp), List.singleton_append,
          List.splitOn_cons_eq_if_modifyHead, if_pos (by simp), ih]
        rfl
      · have clear : delimiter ∉ String.utf8EncodeChar char :=
          fun member => same (eq_of_mem_encodeChar ascii member)
        rw [splitOn_append_of_notMem clear, ih, if_neg (by simpa using same)]
        cases chars.splitOn (Char.ofNat delimiter.toNat) with
        | nil => rfl
        | cons part parts => simp

end Utf8

/-! ## The lines of a message -/

namespace Framing

/-- The delimiter as a character. -/
def mark (framing : Framing) : Char :=
  Char.ofNat framing.delimiter.toNat

/-- The parts of a message between delimiters, in order.  There is always one
more than there are delimiters. -/
def lines
    (framing : Framing)
    (message : String) :
    List String :=
  (message.toList.splitOn framing.mark).map String.ofList

theorem lines_ne_nil
    (framing : Framing)
    (message : String) :
    framing.lines message ≠ [] := by
  simp [lines]

/-- The lines with the delimiter between them are the message. -/
theorem intercalate_lines
    (framing : Framing)
    (message : String) :
    (String.singleton framing.mark).intercalate (framing.lines message) = message := by
  apply String.toList_injective
  rw [String.toList_intercalate, lines, List.map_map]
  have same : String.toList ∘ String.ofList = id := by
    funext chars
    simp
  rw [same, List.map_id, String.toList_singleton]
  exact List.intercalate_splitOn framing.mark

theorem length_lines
    (framing : Framing)
    (message : String) :
    (framing.lines message).length = message.toList.count framing.mark + 1 := by
  rw [lines, List.length_map]
  induction message.toList with
  | nil => rfl
  | cons char chars ih =>
      rw [List.splitOn_cons_eq_if_modifyHead, List.count_cons]
      split
      · rw [List.length_cons, ih]
      · rw [List.length_modifyHead, ih, Nat.add_zero]

/-- Splitting what is written for a message is writing its lines. -/
theorem splitOn_encode
    {framing : Framing}
    (ascii : framing.delimiter.toNat < 0x80)
    (message : String) :
    (Utf8.encode message).splitOn framing.delimiter =
      (framing.lines message).map Utf8.encode := by
  rw [Utf8.encode_eq_encodeChars, Utf8.splitOn_encodeChars ascii, lines, List.map_map]
  exact List.map_congr_left fun chars _ => (Utf8.encode_ofList chars).symm

/-- A line is written without the delimiter. -/
theorem notMem_encode_line
    {framing : Framing}
    {message line : String}
    (ascii : framing.delimiter.toNat < 0x80)
    (listed : line ∈ framing.lines message) :
    framing.delimiter ∉ Utf8.encode line := by
  have part : Utf8.encode line ∈ (Utf8.encode message).splitOn framing.delimiter := by
    rw [splitOn_encode ascii]
    exact List.mem_map_of_mem listed
  obtain ⟨pieces, tail⟩ := notMem_cut framing.delimiter (Utf8.encode message)
  rw [splitOn_eq_cut] at part
  rcases List.mem_append.mp part with closed | last
  · exact pieces _ closed
  · rw [List.mem_singleton.mp last]
    exact tail

theorem mark_notMem_line
    {framing : Framing}
    {message line : String}
    (ascii : framing.delimiter.toNat < 0x80)
    (listed : line ∈ framing.lines message) :
    framing.mark ∉ line.toList := by
  intro member
  apply notMem_encode_line ascii listed
  rw [Utf8.encode_eq_encodeChars, Utf8.encodeChars]
  refine List.mem_flatMap.mpr ⟨framing.mark, member, ?_⟩
  rw [mark, Utf8.encodeChar_single ascii]
  exact List.mem_singleton_self _

theorem intercalate_append_delimiter
    (delimiter : UInt8)
    {parts : List Bytes}
    (some : parts ≠ []) :
    [delimiter].intercalate parts ++ [delimiter] = parts.flatMap (· ++ [delimiter]) := by
  induction parts with
  | nil => exact (some rfl).elim
  | cons part parts ih =>
      cases parts with
      | nil => simp
      | cons next parts =>
          rw [List.intercalate_cons_cons, List.append_assoc, ih (by simp)]
          simp

/-- A message is written as its lines are, one behind the other. -/
theorem frame_eq_flatMap_lines
    {framing : Framing}
    (ascii : framing.delimiter.toNat < 0x80)
    (message : String) :
    framing.frame message = (framing.lines message).flatMap framing.frame := by
  have whole :
      [framing.delimiter].intercalate ((Utf8.encode message).splitOn framing.delimiter) =
        Utf8.encode message :=
    List.intercalate_splitOn framing.delimiter
  rw [splitOn_encode ascii] at whole
  rw [frame, ← whole, intercalate_append_delimiter _ (by simp [lines_ne_nil]),
    List.flatMap_map]
  rfl

/-- Messages and their lines make the same stream. -/
theorem flatten_encodeAll_lines
    {framing : Framing}
    (ascii : framing.delimiter.toNat < 0x80)
    (messages : List String) :
    (framing.encoder.encodeAll messages).1.flatten =
      (framing.encoder.encodeAll (messages.flatMap framing.lines)).1.flatten := by
  have written (messages : List String) :
      (framing.encoder.encodeAll messages).1.flatten = messages.flatMap framing.frame := by
    rw [encoder, Encoder.encodeAll_frames, List.flatMap_def]
    rfl
  rw [written, written, List.flatMap_assoc]
  exact List.flatMap_congr fun message _ => frame_eq_flatMap_lines ascii message

end Framing

namespace Decoder

/-- With an ASCII delimiter and no limit, the reader of what was written for
some messages yields the lines of these, message by message, and nothing else.
It has yielded them all when the stream was fed to its end, and a beginning of
them, never a fault, at any time before, however the stream is cut and whatever
was left unread. -/
theorem feedAll_lines
    {framing : Framing}
    (ascii : framing.delimiter < 0x80)
    (unlimited : framing.limit = none)
    (messages : List String) :
    (∀ chunks : List Bytes,
        chunks.flatten = (framing.encoder.encodeAll messages).1.flatten →
          (framing.decoder.feedAll chunks).1 =
              (messages.flatMap framing.lines).map .ok ∧
            (framing.decoder.feedAll chunks).2.buffered = 0) ∧
      (∀ feeds : List Feed,
        feeds.flatMap Feed.chunk <+: (framing.encoder.encodeAll messages).1.flatten →
          (framing.decoder.serve feeds).1 <+:
            (messages.flatMap framing.lines).map .ok) ∧
      (∀ message ∈ messages,
        (String.singleton framing.mark).intercalate (framing.lines message) = message ∧
          (∀ line ∈ framing.lines message, framing.mark ∉ line.toList) ∧
          (framing.lines message).length = message.toList.count framing.mark + 1) := by
  have small : framing.delimiter.toNat < 0x80 := UInt8.lt_iff_toNat_lt.mp ascii
  have clear :
      ∀ line ∈ messages.flatMap framing.lines,
        framing.delimiter ∉ Utf8.encode line := by
    intro line listed
    obtain ⟨message, -, part⟩ := List.mem_flatMap.mp listed
    exact Framing.notMem_encode_line small part
  have within :
      ∀ line ∈ messages.flatMap framing.lines,
        ¬ framing.Exceeds (Utf8.encode line) := by
    rintro line - ⟨limit, limited, -⟩
    simp [unlimited] at limited
  refine ⟨?_, ?_, ?_⟩
  · intro chunks written
    rw [Framing.flatten_encodeAll_lines small] at written
    exact feedAll_encodeAll clear within written
  · rintro feeds ⟨missing, written⟩
    rw [Framing.flatten_encodeAll_lines small] at written
    -- Serving the missing octets too gives at least the frames so far.
    have follows :=
      (follows_decoder framing).serve (feeds ++ [⟨missing, .atMost 0⟩])
    have whole := follows.prefix_reference
    simp only [List.nil_append, List.flatMap_append, List.flatMap_singleton,
      written, Framing.reference_encodeAll clear within] at whole
    have yielded := Frame.prefix_map_ok_of_unmeasured whole
    rw [serve_append] at yielded
    exact (List.prefix_append _ _).trans yielded
  · intro message _
    exact ⟨framing.intercalate_lines message,
      fun line listed => Framing.mark_notMem_line small listed,
      framing.length_lines message⟩

/-- One message holds the delimiter twice in a row, one is empty and one is the
delimiter; the cuts are inside characters, and one frame stays unread. -/
theorem feedAll_lines_cut_character :
    let framing : Framing := { delimiter := 0x7C, limit := none }
    let messages : List String := ["é||€", "", "|"]
    let lines : List String := ["é", "", "€", "", "", ""]
    let chunks : List Bytes :=
      [[0xC3], [0xA9, 0x7C, 0x7C, 0xE2, 0x82], [0xAC, 0x7C, 0x7C], [0x7C, 0x7C]]
    let feeds : List Feed :=
      [⟨[0xC3, 0xA9, 0x7C], .atMost 0⟩, ⟨[0x7C, 0xE2], .atMost 1⟩]
    framing.delimiter < 0x80 ∧
      framing.limit = none ∧
      chunks.flatten = (framing.encoder.encodeAll messages).1.flatten ∧
      feeds.flatMap Feed.chunk <+: (framing.encoder.encodeAll messages).1.flatten ∧
      messages.flatMap framing.lines = lines ∧
      (framing.decoder.feedAll chunks).1 = lines.map .ok ∧
      (framing.decoder.feedAll chunks).2.buffered = 0 ∧
      (framing.decoder.serve feeds).1 <+: lines.map .ok ∧
      (String.singleton framing.mark).intercalate (framing.lines "é||€") = "é||€" ∧
      (framing.lines "é||€").length = "é||€".toList.count framing.mark + 1 := by
  intro framing messages lines chunks feeds
  have ascii : framing.delimiter < 0x80 := by decide
  have written : chunks.flatten = (framing.encoder.encodeAll messages).1.flatten := by
    decide +kernel
  have partly :
      feeds.flatMap Feed.chunk <+: (framing.encoder.encodeAll messages).1.flatten := by
    decide +kernel
  have cut : messages.flatMap framing.lines = lines := by decide +kernel
  obtain ⟨whole, early, parts⟩ := feedAll_lines ascii rfl messages
  rw [cut] at whole early
  obtain ⟨frames, empty⟩ := whole chunks written
  obtain ⟨joined, -, counted⟩ := parts "é||€" (by simp [messages])
  exact ⟨ascii, rfl, written, partly, cut, frames, empty, early feeds partly,
    joined, counted⟩

end Decoder

end LineProtocol
