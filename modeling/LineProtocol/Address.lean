/-!
# Network addresses

Addresses of the fourth and sixth version of the internet protocol, alone and
with a port, with the text form in which they are written and read.

An address of the sixth version leaves out its first longest run of zero
groups, if that run has more than one group, and shows an embedded address of
the fourth version in that version's form.  Reading accepts every form of a
literal, and writing gives one of them, the canonical one.
-/

namespace LineProtocol

/-! ## Pieces of text -/

/-- The stretches between separators; one more than there are separators. -/
def fields
    (separator : Char) :
    List Char → List (List Char)
  | [] => [[]]
  | char :: rest =>
      if char = separator then [] :: fields separator rest
      else
        match fields separator rest with
        | [] => [[char]]
        | first :: others => (char :: first) :: others

/-- The value of a digit in a base up to sixteen. -/
def digit?
    (base : Nat)
    (char : Char) :
    Option Nat :=
  let value :=
    if char.isDigit then char.toNat - 48
    else if 'a' ≤ char ∧ char ≤ 'f' then char.toNat - 87
    else if 'A' ≤ char ∧ char ≤ 'F' then char.toNat - 55
    else base
  if value < base then some value else none

/-- A number of at least one digit. -/
def number?
    (base : Nat)
    (chars : List Char) :
    Option Nat :=
  if chars.isEmpty then none
  else
    chars.foldlM
      (fun value char => (digit? base char).map (value * base + ·))
      0

/-- A number up to `greatest`. -/
def numberUpTo?
    (base greatest : Nat)
    (chars : List Char) :
    Option Nat :=
  (number? base chars).filter (· ≤ greatest)

/-! ## Version four -/

/-- Four octets. -/
structure Ipv4 where
  octets : Vector UInt8 4
  deriving Repr, DecidableEq

namespace Ipv4

/-- The address that stands for every interface. -/
def unspecified : Ipv4 :=
  ⟨#v[0, 0, 0, 0]⟩

/-- The address by which a host reaches itself. -/
def loopback : Ipv4 :=
  ⟨#v[127, 0, 0, 1]⟩

/-- Decimal numbers with dots between them. -/
def text (address : Ipv4) : String :=
  String.intercalate "." (address.octets.toList.map fun octet => toString octet.toNat)

/-- An octet is written without leading zeros. -/
def octet? (chars : List Char) : Option UInt8 :=
  if chars.head? = some '0' ∧ chars.length ≠ 1 then none
  else (numberUpTo? 10 255 chars).map UInt8.ofNat

/-- Reads four octets with dots between them. -/
def parse? (chars : List Char) : Option Ipv4 :=
  match (fields '.' chars).mapM octet? with
  | some [a, b, c, d] => some ⟨#v[a, b, c, d]⟩
  | _ => none

end Ipv4

/-! ## Version six -/

/-- Eight groups of sixteen bits. -/
structure Ipv6 where
  groups : Vector UInt16 8
  deriving Repr, DecidableEq

namespace Ipv6

/-- A run of groups: where it starts and how long it is. -/
structure Run where
  start : Nat := 0
  length : Nat := 0
  deriving Repr, DecidableEq

/-- The first of the longest runs of zero groups. -/
def longestZeros (groups : List UInt16) : Run :=
  (List.range groups.length).foldl
    (fun best start =>
      let length := ((groups.drop start).takeWhile (· = 0)).length
      if best.length < length then ⟨start, length⟩ else best)
    {}

/-- The embedded address of version four, if this address is a mapped one. -/
def mapped? (address : Ipv6) : Option Ipv4 :=
  match address.groups.toList with
  | [0, 0, 0, 0, 0, 0xFFFF, high, low] =>
      some
        ⟨#v[(high >>> 8).toUInt8, high.toUInt8, (low >>> 8).toUInt8, low.toUInt8]⟩
  | _ => none

/-- Groups in base sixteen with colons between them. -/
def groupsText (groups : List UInt16) : String :=
  String.intercalate ":"
    (groups.map fun group => String.ofList (Nat.toDigits 16 group.toNat))

/-- The canonical form. -/
def text (address : Ipv6) : String :=
  match address.mapped? with
  | some embedded => "::ffff:" ++ embedded.text
  | none =>
      let groups := address.groups.toList
      let zeros := longestZeros groups
      if 1 < zeros.length then
        groupsText (groups.take zeros.start) ++ "::" ++
          groupsText (groups.drop (zeros.start + zeros.length))
      else
        groupsText groups

/-- Splits at the first pair of colons. -/
def atGap? : List Char → Option (List Char × List Char)
  | ':' :: ':' :: rest => some ([], rest)
  | char :: rest => (atGap? rest).map fun (front, back) => (char :: front, back)
  | [] => none

/-- A group is written in one to four digits. -/
def group? (chars : List Char) : Option UInt16 :=
  if 4 < chars.length then none
  else (number? 16 chars).map UInt16.ofNat

/-- The groups of a stretch without a gap.  Only its last part may be an
address of version four, which makes two groups. -/
def stretch?
    (embedded : Bool)
    (chars : List Char) :
    Option (List UInt16) :=
  let parts := fields ':' chars
  match parts.reverse with
  | [] => some []
  | last :: front => do
    let front ← front.reverse.mapM group?
    match if embedded then Ipv4.parse? last else none with
    | some address =>
        match address.octets.toList.map UInt8.toUInt16 with
        | [a, b, c, d] => some (front ++ [a <<< 8 ||| b, c <<< 8 ||| d])
        | _ => none
    | none => do
      let last ← group? last
      some (front ++ [last])

/-- The groups on one side of a gap, of which there may be none. -/
def side?
    (embedded : Bool)
    (chars : List Char) :
    Option (List UInt16) :=
  if chars.isEmpty then some [] else stretch? embedded chars

/-- An address from its groups, if there are eight. -/
def ofGroups? (groups : List UInt16) : Option Ipv6 :=
  if eight : groups.toArray.size = 8 then some ⟨⟨groups.toArray, eight⟩⟩ else none

/-- Reads eight groups, or fewer around a gap that stands for the others. -/
def parse? (chars : List Char) : Option Ipv6 :=
  match atGap? chars with
  | none => (stretch? true chars).bind ofGroups?
  | some (front, back) => do
    let front ← side? false front
    let back ← side? true back
    if 7 < front.length + back.length then none
    else
      ofGroups?
        (front ++ List.replicate (8 - front.length - back.length) 0 ++ back)

end Ipv6

/-! ## Either version, and ports -/

/-- An address of either version. -/
inductive IpAddress where
  | v4 (address : Ipv4)
  | v6 (address : Ipv6)
  deriving Repr, DecidableEq

namespace IpAddress

/-- The canonical form. -/
def text : IpAddress → String
  | .v4 address => address.text
  | .v6 address => address.text

/-- Reads a literal of either version. -/
def parse? (source : String) : Option IpAddress :=
  match Ipv4.parse? source.toList with
  | some address => some (.v4 address)
  | none => (Ipv6.parse? source.toList).map .v6

end IpAddress

/-- An address with a port.  One of version six may name a zone. -/
structure SocketAddress where
  ip : IpAddress
  port : UInt16
  zone : UInt32 := 0
  deriving Repr, DecidableEq

namespace SocketAddress

/-- The canonical form: an address of version six stands in brackets. -/
def text (address : SocketAddress) : String :=
  match address.ip with
  | .v4 ip => ip.text ++ ":" ++ toString address.port.toNat
  | .v6 ip =>
      let zone :=
        if address.zone = 0 then "" else "%" ++ toString address.zone.toNat
      "[" ++ ip.text ++ zone ++ "]:" ++ toString address.port.toNat

/-- Splits at the first occurrence of a character, which is dropped. -/
def splitAt?
    (separator : Char) :
    List Char → Option (List Char × List Char)
  | [] => none
  | char :: rest =>
      if char = separator then some ([], rest)
      else (splitAt? separator rest).map fun (front, back) => (char :: front, back)

/-- Reads a port. -/
def port? (chars : List Char) : Option UInt16 :=
  (numberUpTo? 10 65535 chars).map UInt16.ofNat

/-- Reads an address with its port. -/
def parse? (source : String) : Option SocketAddress :=
  match source.toList with
  | '[' :: rest => do
    let (inside, behind) ← splitAt? ']' rest
    let port ← match behind with
      | ':' :: port => port? port
      | _ => none
    match splitAt? '%' inside with
    | none => do
      let ip ← Ipv6.parse? inside
      some { ip := .v6 ip, port }
    | some (ip, zone) => do
      let ip ← Ipv6.parse? ip
      let zone ← numberUpTo? 10 4294967295 zone
      some { ip := .v6 ip, port, zone := UInt32.ofNat zone }
  | chars => do
    let (ip, port) ← splitAt? ':' chars
    let ip ← Ipv4.parse? ip
    let port ← port? port
    some { ip := .v4 ip, port }

end SocketAddress

end LineProtocol
