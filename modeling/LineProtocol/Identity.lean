import LineProtocol.Address

/-!
# Who a client is

A server tells its clients apart by an `Identity`: a token that it makes up
for each connection, or a name that the application chose.  A name is never
equal to a token, also when it is spelt like one.

Tokens are random identifiers of the fourth kind: 128 bits, of which four give
the kind and two the layout.
-/

namespace LineProtocol

/-- A connection or a listener, as the transport counts them. -/
structure ChannelId where
  number : Nat
  deriving Repr, DecidableEq

/-- A number with its sign. -/
def ChannelId.text (id : ChannelId) : String :=
  "#" ++ toString id.number

/-- An identifier of 128 bits. -/
structure Token where
  value : BitVec 128
  deriving Repr, DecidableEq

namespace Token

/-- How many base-sixteen digits stand between the dashes. -/
def layout : List Nat :=
  [8, 4, 4, 4, 12]

/-- The digits of a token, the highest first. -/
def digits (token : Token) : List Char :=
  (List.range 32).map fun place =>
    Nat.digitChar ((token.value.toNat >>> (4 * (31 - place))) % 16)

/-- Splits digits by the lengths of the groups. -/
def grouped : List Nat → List Char → List (List Char)
  | [], _ => []
  | length :: lengths, chars =>
      chars.take length :: grouped lengths (chars.drop length)

/-- Five groups of digits with dashes between them. -/
def text (token : Token) : String :=
  String.intercalate "-" ((grouped layout token.digits).map String.ofList)

/-- Reads five groups of digits with dashes between them. -/
def parse? (source : String) : Option Token :=
  let groups := fields '-' source.toList
  if groups.map List.length = layout then
    (number? 16 groups.flatten).map fun value => ⟨BitVec.ofNat 128 value⟩
  else none

/-- The token made from a seed: the seed fills what kind and layout leave
free. -/
def ofSeed (seed : Nat) : Token :=
  let bits := BitVec.ofNat 128 seed
  let low := bits &&& 0x3FFFFFFFFFFFFFFF
  let middle := (bits >>> 62) &&& 0xFFF
  let high := bits >>> 74
  ⟨(high <<< 80) ||| (4 <<< 76) ||| (middle <<< 64) ||| (2 <<< 62) ||| low⟩

/-- Whether a token is a random one of the usual layout. -/
def isRandom (token : Token) : Bool :=
  (token.value >>> 76) &&& 0xF == 4 && (token.value >>> 62) &&& 0x3 == 2

end Token

/-- Who a client is. -/
inductive Identity where
  | token (value : Token)
  | named (name : String)
  deriving Repr, DecidableEq

namespace Identity

/-- The name, or the token's text. -/
def text : Identity → String
  | .token value => value.text
  | .named name => name

/-- Whether the application chose this identity. -/
def isNamed : Identity → Bool
  | .token _ => false
  | .named _ => true

end Identity

/-- How a server finds the identity of a new connection. -/
inductive IdentityPolicy where
  /-- A fresh token for each connection. -/
  | generated
  /-- The name that the application gives to the peer's address. -/
  | named (name : SocketAddress → String)

/-- The identity of a connection.  A connection without a peer address gets the
token also where names are used. -/
def IdentityPolicy.identify
    (policy : IdentityPolicy)
    (token : Token)
    (peer : Option SocketAddress) :
    Identity :=
  match policy, peer with
  | .named name, some address => .named (name address)
  | _, _ => .token token

end LineProtocol
