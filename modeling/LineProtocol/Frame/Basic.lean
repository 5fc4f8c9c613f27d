import LineProtocol.Utf8

/-!
# Framing rules

A connection carries messages one behind the other, each closed by the same
octet.  There is no length field and nothing is escaped, so the rules of a
connection are just that octet and the longest message it accepts.

A frame that cannot become a message is reported by a `FrameFault`, which says
why; its wording is `FrameFault.message`.
-/

namespace LineProtocol

/-- What both ends of a connection agree on: the octet that closes a message
and the greatest length of one, if there is any. -/
structure Framing where
  delimiter : UInt8 := 10
  limit : Option Nat := some 1048576
  deriving Repr, DecidableEq

/-- Why a frame is no message. -/
inductive FrameFault where
  /-- The octets are not text; `valid` of them are before the first bad one. -/
  | undecodable (length valid : Nat)
  /-- At least `length` octets came where `limit` are allowed. -/
  | tooLong (length limit : Nat)
  deriving Repr, DecidableEq

/-- A frame as the reader hands it on. -/
abbrev Frame := Except FrameFault String

/-- The wording of a frame's fault. -/
def FrameFault.message : FrameFault → String
  | .undecodable length valid =>
      s!"frame of {length} bytes is not valid UTF-8 (at byte {valid})"
  | .tooLong length limit =>
      s!"frame of at least {length} bytes exceeds the {limit} byte limit"

/-- A frame of any length: text, or the fault that says how far it was. -/
def Frame.ofBytes (bytes : Bytes) : Frame :=
  match Utf8.text bytes with
  | .ok message => .ok message
  | .error valid => .error (.undecodable bytes.length valid)

/-- What a piece between two delimiters is under these rules.  Its length is
looked at first. -/
def Framing.judge
    (framing : Framing)
    (piece : Bytes) :
    Frame :=
  match framing.limit with
  | none => Frame.ofBytes piece
  | some limit =>
      if limit < piece.length then .error (.tooLong piece.length limit)
      else Frame.ofBytes piece

end LineProtocol
