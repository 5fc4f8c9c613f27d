import LineProtocol.Utf8

/-!
# One character as octets

`Utf8.front?` reads a character off the front of some octets by arithmetic on
the lead octet and what follows it.  The standard table,
`String.utf8EncodeChar`, writes a character.  This module shows that the two
are inverse: what was written is read back, whatever stands behind it, and
what was read is how the table writes it.
-/

namespace LineProtocol.Utf8

/-! ## Parts of a character -/

theorem scalar?_toNat
    {least : Nat}
    {char : Char}
    (enough : least ≤ char.toNat) :
    scalar? least char.toNat = some char := by
  have valid : char.toNat.isValidChar := char.valid
  rw [scalar?, if_pos ⟨enough, valid⟩, Char.ofNat_toNat]

theorem toNat_of_scalar?
    {least value : Nat}
    {char : Char}
    (found : scalar? least value = some char) :
    least ≤ value ∧ char.toNat = value := by
  unfold scalar? at found
  split at found
  · rename_i fits
    have made : Char.ofNat value = char := by simpa using found
    refine ⟨fits.1, ?_⟩
    rw [← made, Char.ofNat, dif_pos fits.2]
    rfl
  · simp at found

theorem trail?_ofNat
    {bits : Nat}
    (small : bits < 64) :
    trail? (UInt8.ofNat (bits + 0x80)) = some bits := by
  have value : (UInt8.ofNat (bits + 0x80)).toNat = bits + 0x80 := by
    rw [UInt8.toNat_ofNat']
    omega
  have inside :
      0x80 ≤ UInt8.ofNat (bits + 0x80) ∧ UInt8.ofNat (bits + 0x80) < 0xC0 := by
    rw [UInt8.le_iff_toNat_le, UInt8.lt_iff_toNat_lt, value]
    simp only [UInt8.toNat_ofNat]
    omega
  rw [trail?, if_pos inside, value]
  simp

theorem eq_of_trail?
    {octet : UInt8}
    {bits : Nat}
    (found : trail? octet = some bits) :
    bits < 64 ∧ octet = UInt8.ofNat (bits + 0x80) := by
  unfold trail? at found
  split at found
  · rename_i inside
    simp only [UInt8.le_iff_toNat_le, UInt8.lt_iff_toNat_lt] at inside
    have value : octet.toNat - 0x80 = bits := by simpa using found
    have bounds : 0x80 ≤ octet.toNat ∧ octet.toNat < 0xC0 := inside
    refine ⟨by omega, ?_⟩
    rw [← UInt8.toNat_inj, UInt8.toNat_ofNat']
    omega
  · simp at found

/-! ## Lead octets -/

/-- Which branch a lead octet takes depends on its value alone. -/
theorem front?_lead
    {lead : UInt8}
    {value : Nat}
    (valued : lead.toNat = value)
    (rest : Bytes) :
    front? (lead :: rest) =
      if value < 0x80 then some (Char.ofNat value, rest)
      else if value < 0xC0 then none
      else if value < 0xE0 then
        match rest with
        | second :: rest => (pair? lead second).map fun char => (char, rest)
        | _ => none
      else if value < 0xF0 then
        match rest with
        | second :: third :: rest =>
            (triple? lead second third).map fun char => (char, rest)
        | _ => none
      else if value < 0xF8 then
        match rest with
        | second :: third :: fourth :: rest =>
            (quadruple? lead second third fourth).map fun char => (char, rest)
        | _ => none
      else none := by
  subst valued
  simp only [front?, UInt8.lt_iff_toNat_lt]
  rfl

theorem pair?_ofNat
    {high low : Nat}
    (highSmall : high < 32)
    (lowSmall : low < 64) :
    pair? (UInt8.ofNat (high + 0xC0)) (UInt8.ofNat (low + 0x80)) =
      scalar? 0x80 (high * 64 + low) := by
  have lead : (UInt8.ofNat (high + 0xC0)).toNat - 0xC0 = high := by
    rw [UInt8.toNat_ofNat']
    omega
  simp only [pair?, trail?_ofNat lowSmall, lead, Option.bind_eq_bind, Option.bind_some]

theorem triple?_ofNat
    {high middle low : Nat}
    (highSmall : high < 16)
    (middleSmall : middle < 64)
    (lowSmall : low < 64) :
    triple? (UInt8.ofNat (high + 0xE0)) (UInt8.ofNat (middle + 0x80))
        (UInt8.ofNat (low + 0x80)) =
      scalar? 0x800 (high * 4096 + middle * 64 + low) := by
  have lead : (UInt8.ofNat (high + 0xE0)).toNat - 0xE0 = high := by
    rw [UInt8.toNat_ofNat']
    omega
  simp only [triple?, trail?_ofNat middleSmall, trail?_ofNat lowSmall, lead,
    Option.bind_eq_bind, Option.bind_some]

theorem quadruple?_ofNat
    {top high middle low : Nat}
    (topSmall : top < 8)
    (highSmall : high < 64)
    (middleSmall : middle < 64)
    (lowSmall : low < 64) :
    quadruple? (UInt8.ofNat (top + 0xF0)) (UInt8.ofNat (high + 0x80))
        (UInt8.ofNat (middle + 0x80)) (UInt8.ofNat (low + 0x80)) =
      scalar? 0x10000 (top * 262144 + high * 4096 + middle * 64 + low) := by
  have lead : (UInt8.ofNat (top + 0xF0)).toNat - 0xF0 = top := by
    rw [UInt8.toNat_ofNat']
    omega
  -- Stated for any function, or checking it would count up to `0x10000`.
  have bound (finish : Nat → Nat → Nat → Option Char) :
      ((some high).bind fun high => (some middle).bind fun middle =>
          (some low).bind fun low => finish high middle low) =
        finish high middle low :=
    rfl
  rw [quadruple?, trail?_ofNat highSmall, trail?_ofNat middleSmall,
    trail?_ofNat lowSmall, lead]
  exact bound fun high middle low =>
    scalar? 0x10000 (top * 262144 + high * 4096 + middle * 64 + low)

/-! ## Reading what was written -/

section

variable
  {char : Char}
  {top high middle low : Nat}

theorem front?_pair
    (highSmall : high < 32)
    (lowSmall : low < 64)
    (whole : high * 64 + low = char.toNat)
    (least : 0x80 ≤ char.toNat)
    (rest : Bytes) :
    front? (UInt8.ofNat (high + 0xC0) :: UInt8.ofNat (low + 0x80) :: rest) =
      some (char, rest) := by
  have lead : (UInt8.ofNat (high + 0xC0)).toNat = high + 0xC0 := by
    rw [UInt8.toNat_ofNat']
    omega
  rw [front?_lead lead, if_neg (by omega), if_neg (by omega), if_pos (by omega)]
  simp only [pair?_ofNat highSmall lowSmall, whole, scalar?_toNat least, Option.map_some]

theorem front?_triple
    (highSmall : high < 16)
    (middleSmall : middle < 64)
    (lowSmall : low < 64)
    (whole : high * 4096 + middle * 64 + low = char.toNat)
    (least : 0x800 ≤ char.toNat)
    (rest : Bytes) :
    front?
        (UInt8.ofNat (high + 0xE0) :: UInt8.ofNat (middle + 0x80) ::
          UInt8.ofNat (low + 0x80) :: rest) =
      some (char, rest) := by
  have lead : (UInt8.ofNat (high + 0xE0)).toNat = high + 0xE0 := by
    rw [UInt8.toNat_ofNat']
    omega
  rw [front?_lead lead, if_neg (by omega), if_neg (by omega), if_neg (by omega),
    if_pos (by omega)]
  simp only [triple?_ofNat highSmall middleSmall lowSmall, whole, scalar?_toNat least,
    Option.map_some]

theorem front?_quadruple
    (topSmall : top < 8)
    (highSmall : high < 64)
    (middleSmall : middle < 64)
    (lowSmall : low < 64)
    (whole : top * 262144 + high * 4096 + middle * 64 + low = char.toNat)
    (least : 0x10000 ≤ char.toNat)
    (rest : Bytes) :
    front?
        (UInt8.ofNat (top + 0xF0) :: UInt8.ofNat (high + 0x80) ::
          UInt8.ofNat (middle + 0x80) :: UInt8.ofNat (low + 0x80) :: rest) =
      some (char, rest) := by
  have lead : (UInt8.ofNat (top + 0xF0)).toNat = top + 0xF0 := by
    rw [UInt8.toNat_ofNat']
    omega
  rw [front?_lead lead, if_neg (by omega), if_neg (by omega), if_neg (by omega),
    if_neg (by omega), if_pos (by omega)]
  simp only [quadruple?_ofNat topSmall highSmall middleSmall lowSmall, whole,
    scalar?_toNat least, Option.map_some]

end

/-- A written character is read back, whatever stands behind it. -/
theorem front?_encodeChar
    (char : Char)
    (rest : Bytes) :
    front? (String.utf8EncodeChar char ++ rest) = some (char, rest) := by
  have bound : char.toNat < 0x110000 := by
    have valid : char.toNat.isValidChar := char.valid
    unfold Nat.isValidChar at valid
    omega
  have digit (value : Nat) : value % 64 < 64 := Nat.mod_lt value (by decide)
  have value : char.val.toNat = char.toNat := rfl
  unfold String.utf8EncodeChar
  simp only [value]
  split
  · rename_i single
    have lead : (UInt8.ofNat char.toNat).toNat = char.toNat := by
      rw [UInt8.toNat_ofNat']
      omega
    rw [List.singleton_append, front?_lead lead, if_pos (by omega), Char.ofNat_toNat]
  · split
    · rename_i notSingle double
      have whole : char.toNat / 64 % 32 * 64 + char.toNat % 64 = char.toNat := by
        omega
      exact front?_pair (Nat.mod_lt _ (by decide)) (digit _) whole (by omega) rest
    · split
      · rename_i notSingle notDouble threefold
        have whole :
            char.toNat / 4096 % 16 * 4096 + char.toNat / 64 % 64 * 64 +
                char.toNat % 64 =
              char.toNat := by
          omega
        exact front?_triple (Nat.mod_lt _ (by decide)) (digit _) (digit _) whole
          (by omega) rest
      · rename_i notSingle notDouble notThreefold
        have whole :
            char.toNat / 262144 % 8 * 262144 + char.toNat / 4096 % 64 * 4096 +
                char.toNat / 64 % 64 * 64 + char.toNat % 64 =
              char.toNat := by
          omega
        exact front?_quadruple (Nat.mod_lt _ (by decide)) (digit _) (digit _) (digit _)
          whole (by omega) rest

/-! ## Writing what was read -/

theorem encodeChar_of_pair?
    {lead second : UInt8}
    {char : Char}
    (lower : 0xC0 ≤ lead.toNat)
    (upper : lead.toNat < 0xE0)
    (found : pair? lead second = some char) :
    String.utf8EncodeChar char = [lead, second] := by
  simp only [pair?, Option.bind_eq_bind, Option.bind_eq_some_iff] at found
  obtain ⟨low, trail, assembled⟩ := found
  obtain ⟨lowSmall, rfl⟩ := eq_of_trail? trail
  obtain ⟨least, value⟩ := toNat_of_scalar? assembled
  have shown : char.val.toNat = (lead.toNat - 0xC0) * 64 + low := value
  unfold String.utf8EncodeChar
  simp only [shown]
  have leadDigit :
      ((lead.toNat - 0xC0) * 64 + low) / 64 % 32 + 0xC0 = lead.toNat := by
    omega
  have lowDigit : ((lead.toNat - 0xC0) * 64 + low) % 64 = low := by
    omega
  rw [if_neg (by omega), if_pos (by omega), leadDigit, lowDigit, UInt8.ofNat_toNat]

theorem encodeChar_of_triple?
    {lead second third : UInt8}
    {char : Char}
    (lower : 0xE0 ≤ lead.toNat)
    (upper : lead.toNat < 0xF0)
    (found : triple? lead second third = some char) :
    String.utf8EncodeChar char = [lead, second, third] := by
  simp only [triple?, Option.bind_eq_bind, Option.bind_eq_some_iff] at found
  obtain ⟨middle, trail, low, lastTrail, assembled⟩ := found
  obtain ⟨middleSmall, rfl⟩ := eq_of_trail? trail
  obtain ⟨lowSmall, rfl⟩ := eq_of_trail? lastTrail
  obtain ⟨least, value⟩ := toNat_of_scalar? assembled
  have shown :
      char.val.toNat = (lead.toNat - 0xE0) * 4096 + middle * 64 + low :=
    value
  unfold String.utf8EncodeChar
  simp only [shown]
  have leadDigit :
      ((lead.toNat - 0xE0) * 4096 + middle * 64 + low) / 4096 % 16 + 0xE0 =
        lead.toNat := by
    omega
  have middleDigit :
      ((lead.toNat - 0xE0) * 4096 + middle * 64 + low) / 64 % 64 = middle := by
    omega
  have lowDigit :
      ((lead.toNat - 0xE0) * 4096 + middle * 64 + low) % 64 = low := by
    omega
  rw [if_neg (by omega), if_neg (by omega), if_pos (by omega), leadDigit, middleDigit,
    lowDigit, UInt8.ofNat_toNat]

theorem encodeChar_of_quadruple?
    {lead second third fourth : UInt8}
    {char : Char}
    (lower : 0xF0 ≤ lead.toNat)
    (upper : lead.toNat < 0xF8)
    (found : quadruple? lead second third fourth = some char) :
    String.utf8EncodeChar char = [lead, second, third, fourth] := by
  simp only [quadruple?, Option.bind_eq_bind, Option.bind_eq_some_iff] at found
  obtain ⟨high, trail, middle, nextTrail, low, lastTrail, assembled⟩ := found
  obtain ⟨highSmall, rfl⟩ := eq_of_trail? trail
  obtain ⟨middleSmall, rfl⟩ := eq_of_trail? nextTrail
  obtain ⟨lowSmall, rfl⟩ := eq_of_trail? lastTrail
  obtain ⟨least, value⟩ := toNat_of_scalar? assembled
  have shown :
      char.val.toNat =
        (lead.toNat - 0xF0) * 262144 + high * 4096 + middle * 64 + low :=
    value
  unfold String.utf8EncodeChar
  simp only [shown]
  have leadDigit :
      ((lead.toNat - 0xF0) * 262144 + high * 4096 + middle * 64 + low) / 262144 % 8 +
          0xF0 =
        lead.toNat := by
    omega
  have highDigit :
      ((lead.toNat - 0xF0) * 262144 + high * 4096 + middle * 64 + low) / 4096 % 64 =
        high := by
    omega
  have middleDigit :
      ((lead.toNat - 0xF0) * 262144 + high * 4096 + middle * 64 + low) / 64 % 64 =
        middle := by
    omega
  have lowDigit :
      ((lead.toNat - 0xF0) * 262144 + high * 4096 + middle * 64 + low) % 64 = low := by
    omega
  rw [if_neg (by omega), if_neg (by omega), if_neg (by omega), leadDigit, highDigit,
    middleDigit, lowDigit, UInt8.ofNat_toNat]

theorem encodeChar_single
    {lead : UInt8}
    (small : lead.toNat < 0x80) :
    String.utf8EncodeChar (Char.ofNat lead.toNat) = [lead] := by
  have valid : lead.toNat.isValidChar := Or.inl (by omega)
  have shown : (Char.ofNat lead.toNat).val.toNat = lead.toNat := by
    rw [Char.ofNat, dif_pos valid]
    rfl
  unfold String.utf8EncodeChar
  simp only [shown]
  rw [if_pos (by omega), UInt8.ofNat_toNat]

/-- Octets that were read as a character are how that character is written. -/
theorem eq_encodeChar_of_front?
    {bytes rest : Bytes}
    {char : Char}
    (found : front? bytes = some (char, rest)) :
    bytes = String.utf8EncodeChar char ++ rest := by
  cases bytes with
  | nil => simp [front?] at found
  | cons lead behind =>
      rw [front?_lead rfl] at found
      split at found
      · rename_i small
        obtain ⟨rfl, rfl⟩ : Char.ofNat lead.toNat = char ∧ behind = rest := by
          simpa using found
        rw [encodeChar_single small, List.singleton_append]
      · split at found
        · simp at found
        · split at found
          · rename_i notSmall lower upper
            split at found
            · rename_i second after
              obtain ⟨read, made, rfl, rfl⟩ :
                  ∃ read, pair? lead second = some read ∧ read = char ∧ after = rest := by
                simpa using found
              rw [encodeChar_of_pair? (by omega) upper made]
              rfl
            · simp at found
          · split at found
            · rename_i notSmall notTrail lower upper
              split at found
              · rename_i second third after
                obtain ⟨read, made, rfl, rfl⟩ :
                    ∃ read, triple? lead second third = some read ∧ read = char ∧
                      after = rest := by
                  simpa using found
                rw [encodeChar_of_triple? (by omega) upper made]
                rfl
              · simp at found
            · split at found
              · rename_i notSmall notTrail notPair lower upper
                split at found
                · rename_i second third fourth after
                  obtain ⟨read, made, rfl, rfl⟩ :
                      ∃ read, quadruple? lead second third fourth = some read ∧
                        read = char ∧ after = rest := by
                    simpa using found
                  rw [encodeChar_of_quadruple? (by omega) upper made]
                  rfl
                · simp at found
              · simp at found

/-- Reading a character off the front and writing one in front are inverse. -/
theorem front?_eq_some_iff
    {bytes rest : Bytes}
    {char : Char} :
    front? bytes = some (char, rest) ↔
      bytes = String.utf8EncodeChar char ++ rest := by
  constructor
  · exact eq_encodeChar_of_front?
  · rintro rfl
    exact front?_encodeChar char rest

end LineProtocol.Utf8
