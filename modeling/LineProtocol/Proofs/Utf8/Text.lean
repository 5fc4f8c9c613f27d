import Mathlib.Data.Nat.Find
import LineProtocol.Proofs.Utf8.Character

/-!
# Text as octets

Decoding takes characters off the front until none is left there.  It is
compared with the standard library's notion of valid UTF-8, which knows only
how text is written: octets spell a text exactly if they are the written form
of some characters.

The main statement is `text_eq_ok_iff`, that reading is the inverse of
writing, and `text_eq_error_iff`, that the length reported for other octets is
that of their longest beginning that is text.
-/

namespace LineProtocol.Utf8

/-- Characters as they are written one behind the other. -/
def encodeChars (chars : List Char) : Bytes :=
  chars.flatMap String.utf8EncodeChar

@[simp]
theorem encodeChars_cons
    (char : Char)
    (chars : List Char) :
    encodeChars (char :: chars) = String.utf8EncodeChar char ++ encodeChars chars := by
  simp [encodeChars]

@[simp]
theorem encode_ofList (chars : List Char) :
    encode (String.ofList chars) = encodeChars chars := by
  rw [encode, String.toByteArray_ofList, List.utf8Encode, List.toList_data_toByteArray]
  rfl

theorem encode_eq_encodeChars (message : String) :
    encode message = encodeChars message.toList := by
  conv_lhs => rw [← String.ofList_toList (s := message)]
  exact encode_ofList message.toList

/-! ## Decoding -/

theorem decodeOnto_eq
    (done : List Char)
    (count : Nat)
    (bytes : Bytes) :
    decodeOnto done count bytes =
      (done.reverse ++ (decodeOnto [] count bytes).1, (decodeOnto [] count bytes).2) := by
  induction count generalizing done bytes with
  | zero => simp [decodeOnto]
  | succ count ih =>
      rw [decodeOnto, decodeOnto]
      split
      · rename_i char rest _
        rw [ih (char :: done) rest, ih [char] rest]
        simp
      · simp

/-- Every character uses up an octet, so more rounds than octets change
nothing. -/
theorem decodeOnto_of_length_le
    {count : Nat}
    {bytes : Bytes}
    (enough : bytes.length ≤ count) :
    decodeOnto [] count bytes = decode bytes := by
  rw [decode]
  suffices same :
      ∀ limit, ∀ bytes : Bytes, bytes.length ≤ limit → ∀ count, bytes.length ≤ count →
        decodeOnto [] count bytes = decodeOnto [] bytes.length bytes by
    exact same count bytes enough count enough
  intro limit
  induction limit with
  | zero =>
      intro bytes short count _
      have empty : bytes = [] := List.length_eq_zero_iff.mp (by omega)
      subst empty
      cases count <;> simp [decodeOnto, front?]
  | succ limit ih =>
      intro bytes short count enough
      cases bytes with
      | nil => cases count <;> simp [decodeOnto, front?]
      | cons octet behind =>
          obtain ⟨rounds, rfl⟩ : ∃ rounds, count = rounds + 1 :=
            ⟨count - 1, by simp only [List.length_cons] at enough; omega⟩
          simp only [List.length_cons] at short enough ⊢
          rw [decodeOnto, decodeOnto]
          cases found : front? (octet :: behind) with
          | none => rfl
          | some read =>
              obtain ⟨char, rest⟩ := read
              have shorter := length_lt_of_front? found
              simp only [List.length_cons] at shorter
              simp only
              rw [decodeOnto_eq [char] rounds rest,
                decodeOnto_eq [char] behind.length rest,
                ih rest (by omega) rounds (by omega),
                ih rest (by omega) behind.length (by omega)]

/-- Decoding reads a written character first. -/
theorem decode_encodeChar
    (char : Char)
    (rest : Bytes) :
    decode (String.utf8EncodeChar char ++ rest) =
      (char :: (decode rest).1, (decode rest).2) := by
  have found := front?_eq_some_iff.mpr (rfl : _ = String.utf8EncodeChar char ++ rest)
  have shorter := length_lt_of_front? found
  rw [decode]
  obtain ⟨rounds, long⟩ :
      ∃ rounds, (String.utf8EncodeChar char ++ rest).length = rounds + 1 :=
    ⟨(String.utf8EncodeChar char ++ rest).length - 1, by omega⟩
  rw [long, decodeOnto, found]
  simp only
  rw [decodeOnto_eq, decodeOnto_of_length_le (by omega)]
  rfl

theorem decode_encodeChars
    (chars : List Char)
    (rest : Bytes) :
    decode (encodeChars chars ++ rest) =
      (chars ++ (decode rest).1, (decode rest).2) := by
  induction chars with
  | nil => rfl
  | cons char chars ih =>
      rw [encodeChars_cons, List.append_assoc, decode_encodeChar, ih]
      rfl

/-- Decoding loses nothing. -/
theorem encodeChars_decode (bytes : Bytes) :
    encodeChars (decode bytes).1 ++ (decode bytes).2 = bytes := by
  rw [decode]
  generalize bytes.length = count
  induction count generalizing bytes with
  | zero => rfl
  | succ count ih =>
      rw [decodeOnto]
      split
      · rename_i char rest found
        rw [decodeOnto_eq]
        simp only [List.reverse_singleton, List.singleton_append, encodeChars_cons,
          List.append_assoc]
        rw [ih rest]
        exact (front?_eq_some_iff.mp found).symm
      · rfl

theorem length_decode_le (bytes : Bytes) : (decode bytes).2.length ≤ bytes.length := by
  have whole := congrArg List.length (encodeChars_decode bytes)
  rw [List.length_append] at whole
  omega

/-! ## Text -/

/-- Reading octets as a text is the inverse of writing the text. -/
theorem text_eq_ok_iff
    {bytes : Bytes}
    {message : String} :
    text bytes = .ok message ↔ encode message = bytes := by
  constructor
  · intro reads
    have whole := encodeChars_decode bytes
    unfold text at reads
    split at reads
    · rename_i chars decoded
      rw [decoded] at whole
      obtain rfl : String.ofList chars = message := by simpa using reads
      simpa using whole
    · simp at reads
  · rintro rfl
    have decoded := decode_encodeChars message.toList []
    rw [decode_nil, List.append_nil, List.append_nil, ← encode_eq_encodeChars] at decoded
    simp [text, decoded]

theorem isValidUTF8_toByteArray_iff {bytes : Bytes} :
    bytes.toByteArray.IsValidUTF8 ↔ ∃ chars, encodeChars chars = bytes := by
  constructor
  · rintro ⟨chars, written⟩
    refine ⟨chars, ?_⟩
    rw [List.utf8Encode, List.toByteArray_inj] at written
    exact written.symm
  · rintro ⟨chars, rfl⟩
    exact ⟨chars, rfl⟩

/-- The length of the longest beginning that is text. -/
def readable (bytes : Bytes) : Nat :=
  Nat.findGreatest
    (fun count => (bytes.take count).toByteArray.IsValidUTF8)
    bytes.length

/-- Decoding stops exactly behind the longest beginning that is text. -/
theorem readable_eq (bytes : Bytes) :
    readable bytes = bytes.length - (decode bytes).2.length := by
  have whole := encodeChars_decode bytes
  have lengths := congrArg List.length whole
  rw [List.length_append] at lengths
  rw [readable, Nat.findGreatest_eq_iff]
  refine ⟨by omega, fun _ => ?_, fun count longer short => ?_⟩
  · have size :
        bytes.length - (decode bytes).2.length =
          (encodeChars (decode bytes).1).length := by
      omega
    have front :
        (encodeChars (decode bytes).1 ++ (decode bytes).2).take
            (encodeChars (decode bytes).1).length =
          encodeChars (decode bytes).1 :=
      List.take_left
    rw [whole] at front
    rw [size, front]
    exact isValidUTF8_toByteArray_iff.mpr ⟨_, rfl⟩
  · intro valid
    obtain ⟨chars, written⟩ := isValidUTF8_toByteArray_iff.mp valid
    -- A longer beginning made of whole characters would have been decoded too.
    have decoded := decode_encodeChars chars (bytes.drop count)
    rw [written, List.take_append_drop] at decoded
    have left := length_decode_le (bytes.drop count)
    rw [decoded] at longer
    simp only [List.length_drop] at left longer
    omega

/-- Octets that are no text are reported with their longest beginning that
is. -/
theorem text_eq_error_iff
    {bytes : Bytes}
    {valid : Nat} :
    text bytes = .error valid ↔
      ¬ bytes.toByteArray.IsValidUTF8 ∧ readable bytes = valid := by
  have whole := encodeChars_decode bytes
  rw [readable_eq]
  constructor
  · intro reads
    refine ⟨fun text? => ?_, ?_⟩
    · obtain ⟨chars, written⟩ := isValidUTF8_toByteArray_iff.mp text?
      have ok : text bytes = .ok (String.ofList chars) :=
        text_eq_ok_iff.mpr (by rw [encode_ofList, written])
      rw [ok] at reads
      simp at reads
    · unfold text at reads
      split at reads
      · simp at reads
      · rename_i chars rest _ decoded
        simpa [decoded] using reads
  · rintro ⟨invalid, rfl⟩
    unfold text
    split
    · rename_i chars decoded
      rw [decoded] at whole
      exact (invalid (isValidUTF8_toByteArray_iff.mpr ⟨chars, by simpa using whole⟩)).elim
    · rename_i chars rest _ decoded
      rw [decoded]

end LineProtocol.Utf8
