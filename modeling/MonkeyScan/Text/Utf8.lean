import MonkeyScan.Text.Hex

/-!
# `MonkeyScan.Text.Utf8`: strict UTF-8

Files hold bytes, programs hold characters. `decode` accepts exactly the
well-formed sequences: no overlong form, no surrogate, nothing above
U+10FFFF. A refusal names the first byte that no well-formed text has there
and the bytes of the unfinished sequence before it.
-/

set_option autoImplicit false

namespace MonkeyScan.Text.Utf8

/-! ### Writing -/

/-- The byte sequence of one character. -/
def encodeChar (c : Char) : List UInt8 :=
  let n := c.toNat
  let tail (unit : Nat) : UInt8 := UInt8.ofNat (0x80 + n / unit % 0x40)
  if n < 0x80 then [UInt8.ofNat n]
  else if n < 0x800 then [UInt8.ofNat (0xc0 + n / 0x40), tail 1]
  else if n < 0x10000 then [UInt8.ofNat (0xe0 + n / 0x1000), tail 0x40, tail 1]
  else [UInt8.ofNat (0xf0 + n / 0x40000), tail 0x1000, tail 0x40, tail 1]

/-- The bytes of a text. -/
def encode (t : Text) : List UInt8 :=
  t.flatMap encodeChar

/-! ### Reading -/

/-- Why a sequence of bytes is not a character. -/
inductive Reason where
  /-- No character starts with this byte. -/
  | startByte
  /-- The input ends before the character does. -/
  | endOfData
  /-- The character does not go on with this byte. -/
  | continuationByte
  deriving DecidableEq, Repr

/-- The wording of a reason. -/
def Reason.message : Reason → Text
  | .startByte => "invalid start byte".toList
  | .endOfData => "unexpected end of data".toList
  | .continuationByte => "invalid continuation byte".toList

/-- Where and why decoding stopped: the span of the refused bytes, and the
first of them. -/
structure Fault where
  start : Nat
  length : Nat
  byte : UInt8
  reason : Reason
  deriving DecidableEq, Repr

/-- The full sentence for a fault. A span of one byte is told by its value, a
longer one by its first and last position. -/
def Fault.message (f : Fault) : Text :=
  let place :=
    if f.length = 1 then
      "byte 0x".toList ++ hexDigits 2 f.byte.toNat ++ " in position ".toList ++ ofNat f.start
    else
      "bytes in position ".toList ++ ofNat f.start ++ ['-'] ++ ofNat (f.start + f.length - 1)
  "'utf-8' codec can't decode ".toList ++ place ++ ": ".toList ++ f.reason.message

/-- What the first byte of a character announces: its share of the code
point, how many bytes follow, and the bounds on the next of them. -/
structure Lead where
  share : Nat
  tails : Nat
  low : Nat
  high : Nat

/-- The announcement of a first byte, if a character can start with it. Four
first bytes narrow the bounds on the second: below them the form would be
overlong, above them a surrogate or past the last code point. -/
def Lead.ofByte? (b : UInt8) : Option Lead :=
  let n := b.toNat
  if n < 0x80 then some ⟨n, 0, 0x80, 0xbf⟩
  else if n < 0xc2 then none
  else if n < 0xe0 then some ⟨n - 0xc0, 1, 0x80, 0xbf⟩
  else if n < 0xf0 then
    some ⟨n - 0xe0, 2, if n = 0xe0 then 0xa0 else 0x80, if n = 0xed then 0x9f else 0xbf⟩
  else if n < 0xf5 then
    some ⟨n - 0xf0, 3, if n = 0xf0 then 0x90 else 0x80, if n = 0xf4 then 0x8f else 0xbf⟩
  else none

/-- Reads `tails` further bytes, the first of them between `low` and `high`,
onto the value read so far. A failure tells how many were good. -/
def readTails : (tails low high value : Nat) → List UInt8 → Except (Reason × Nat) Nat
  | 0, _, _, value, _ => .ok value
  | _ + 1, _, _, _, [] => .error (.endOfData, 0)
  | tails + 1, low, high, value, b :: rest =>
    if low ≤ b.toNat ∧ b.toNat ≤ high then
      match readTails tails 0x80 0xbf (64 * value + (b.toNat - 0x80)) rest with
      | .ok n => .ok n
      | .error (reason, good) => .error (reason, good + 1)
    else .error (.continuationByte, 0)

/-- Reads one character: its first byte and those after it. The result tells
how many of the latter belong to it. -/
def readChar (b : UInt8) (rest : List UInt8) : Except (Reason × Nat) (Char × Nat) :=
  match Lead.ofByte? b with
  | none => .error (.startByte, 0)
  | some lead =>
    match readTails lead.tails lead.low lead.high lead.share rest with
    | .ok n => .ok (Char.ofNat n, lead.tails)
    | .error e => .error e

/-- Decodes bytes that start at position `start` of a file. -/
def decodeFrom (start : Nat) : List UInt8 → Except Fault Text
  | [] => .ok []
  | b :: rest =>
    match readChar b rest with
    | .error (reason, good) => .error ⟨start, good + 1, b, reason⟩
    | .ok (c, tails) =>
      match decodeFrom (start + tails + 1) (rest.drop tails) with
      | .ok t => .ok (c :: t)
      | .error f => .error f
termination_by bytes => bytes.length
decreasing_by simp only [List.length_drop, List.length_cons]; omega

/-- Decodes the bytes of a file. -/
def decode (bytes : List UInt8) : Except Fault Text :=
  decodeFrom 0 bytes

end MonkeyScan.Text.Utf8
