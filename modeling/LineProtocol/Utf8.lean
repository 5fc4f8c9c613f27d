/-!
# Text as octets

Messages are text and connections carry octets.  This module writes text as
UTF-8 and reads octets back one whole character at a time, so that a reader
can say how far a piece of a stream is text.

`decode` splits octets into the characters of their longest readable beginning
and the octets that are left; nothing is lost between the two.
-/

namespace LineProtocol

/-- Octets in the order in which they travel. -/
abbrev Bytes := List UInt8

namespace Utf8

/-- The octets of a text. -/
def encode (text : String) : Bytes :=
  text.toByteArray.data.toList

/-- A character by its code point, unless fewer octets would have done or the
code point is no character. -/
def scalar? (least value : Nat) : Option Char :=
  if least ≤ value ∧ value.isValidChar then some (Char.ofNat value) else none

/-- The six bits that a continuation octet carries. -/
def trail? (octet : UInt8) : Option Nat :=
  if 0x80 ≤ octet ∧ octet < 0xC0 then some (octet.toNat - 0x80) else none

/-- A character of two octets. -/
def pair? (lead second : UInt8) : Option Char := do
  let low ← trail? second
  scalar? 0x80 ((lead.toNat - 0xC0) * 64 + low)

/-- A character of three octets. -/
def triple? (lead second third : UInt8) : Option Char := do
  let middle ← trail? second
  let low ← trail? third
  scalar? 0x800 ((lead.toNat - 0xE0) * 4096 + middle * 64 + low)

/-- A character of four octets. -/
def quadruple? (lead second third fourth : UInt8) : Option Char := do
  let high ← trail? second
  let middle ← trail? third
  let low ← trail? fourth
  scalar? 0x10000 ((lead.toNat - 0xF0) * 262144 + high * 4096 + middle * 64 + low)

/-- The first whole character and what follows it.  The lead octet alone
decides how many octets the character takes. -/
def front? : Bytes → Option (Char × Bytes)
  | [] => none
  | lead :: rest =>
      if lead < 0x80 then some (Char.ofNat lead.toNat, rest)
      else if lead < 0xC0 then none
      else if lead < 0xE0 then
        match rest with
        | second :: rest => (pair? lead second).map fun char => (char, rest)
        | _ => none
      else if lead < 0xF0 then
        match rest with
        | second :: third :: rest =>
            (triple? lead second third).map fun char => (char, rest)
        | _ => none
      else if lead < 0xF8 then
        match rest with
        | second :: third :: fourth :: rest =>
            (quadruple? lead second third fourth).map fun char => (char, rest)
        | _ => none
      else none

/-- Reads at most `count` characters behind those already read, which are kept
last first. -/
def decodeOnto (done : List Char) : Nat → Bytes → List Char × Bytes
  | 0, bytes => (done.reverse, bytes)
  | count + 1, bytes =>
      match front? bytes with
      | some (char, rest) => decodeOnto (char :: done) count rest
      | none => (done.reverse, bytes)

/-- The characters of the longest beginning made of whole characters, and the
octets behind it. -/
def decode (bytes : Bytes) : List Char × Bytes :=
  decodeOnto [] bytes.length bytes

/-- The text that octets spell, or how many of them are readable before the
first that is not. -/
def text (bytes : Bytes) : Except Nat String :=
  match decode bytes with
  | (chars, []) => .ok (String.ofList chars)
  | (_, rest) => .error (bytes.length - rest.length)

/-- A character read off the front leaves fewer octets. -/
theorem length_lt_of_front?
    {bytes rest : Bytes}
    {char : Char}
    (found : front? bytes = some (char, rest)) :
    rest.length < bytes.length := by
  unfold front? at found
  repeat' split at found
  all_goals
    simp only [reduceCtorEq, Option.some.injEq, Prod.mk.injEq,
      Option.map_eq_some_iff] at found
  all_goals
    obtain ⟨_, _, _, rfl⟩ := found
    simp only [List.length_cons]
    omega

@[simp]
theorem decode_nil : decode [] = ([], []) := rfl

end Utf8

end LineProtocol
