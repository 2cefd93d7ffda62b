import SqlAssist.Text.Quoted

/-!
# UTF-8

Reading is strict: a sequence that is cut short, too long or a surrogate is refused, and the fault
names its first byte and how many bytes it spans.
-/

namespace SqlAssist

/-- Bytes, one by one. -/
abbrev Bytes := List UInt8

namespace Utf8

/-- Why bytes are not UTF-8. -/
inductive Reason where
  /-- No character starts with this byte. -/
  | invalidStart
  /-- A character is not continued as it should be. -/
  | invalidContinuation
  /-- The bytes end inside a character. -/
  | unexpectedEnd
  deriving DecidableEq, Repr

/-- The words for a reason. -/
def Reason.message : Reason → String
  | invalidStart => "invalid start byte"
  | invalidContinuation => "invalid continuation byte"
  | unexpectedEnd => "unexpected end of data"

/-- The bytes that are not UTF-8. -/
structure Fault where
  /-- What is wrong. -/
  reason : Reason
  /-- The first byte of the faulty sequence. -/
  byte : UInt8
  /-- The number of bytes before it. -/
  position : Nat
  /-- The number of bytes that it spans. -/
  length : Nat
  deriving DecidableEq, Repr

/-- The words for a fault. -/
def Fault.message (f : Fault) : Text :=
  let place :=
    if f.length = 1 then
      "byte 0x".toList ++ Text.hexDigits 2 f.byte.toNat ++ " in position ".toList
        ++ Text.ofNat f.position
    else
      "bytes in position ".toList ++ Text.ofNat f.position
        ++ '-' :: Text.ofNat (f.position + f.length - 1)
  "'utf-8' codec can't decode ".toList ++ place ++ ": ".toList ++ f.reason.message.toList

/-- How a first byte goes on: the number of bytes behind it and the range of the second one. -/
def shape? (b : UInt8) : Option (Nat × UInt8 × UInt8) :=
  if b < 0x80 then some (0, 0, 0)
  else if b < 0xc2 then none
  else if b < 0xe0 then some (1, 0x80, 0xbf)
  else if b = 0xe0 then some (2, 0xa0, 0xbf)
  else if b = 0xed then some (2, 0x80, 0x9f)
  else if b < 0xf0 then some (2, 0x80, 0xbf)
  else if b = 0xf0 then some (3, 0x90, 0xbf)
  else if b < 0xf4 then some (3, 0x80, 0xbf)
  else if b = 0xf4 then some (3, 0x80, 0x8f)
  else none

/-- The bits that a first byte gives to its character. -/
def leadBits (b : UInt8) : Nat :=
  if b < 0x80 then b.toNat
  else if b < 0xe0 then b.toNat % 0x20
  else if b < 0xf0 then b.toNat % 0x10
  else b.toNat % 8

/-- Reads the bytes from a position on. Inside a character that started with `lead` at `start`,
`left` more bytes are due, the next one from `low` to `high`; `bits` is what has been read of it. -/
def decodeFrom (position : Nat) (lead : UInt8) (start left : Nat) (low high : UInt8) (bits : Nat) :
    Bytes → Except Fault Text
  | [] => if left = 0 then .ok [] else .error ⟨.unexpectedEnd, lead, start, position - start⟩
  | b :: r =>
    match left with
    | 0 =>
      match shape? b with
      | none => .error ⟨.invalidStart, b, position, 1⟩
      | some (0, _, _) => do
        let t ← decodeFrom (position + 1) b position 0 0 0 0 r
        pure (Char.ofNat b.toNat :: t)
      | some (n + 1, low, high) =>
        decodeFrom (position + 1) b position (n + 1) low high (leadBits b) r
    | n + 1 =>
      if low ≤ b ∧ b ≤ high then
        let bits := bits * 64 + b.toNat % 64
        if n = 0 then do
          let t ← decodeFrom (position + 1) lead start 0 0 0 0 r
          pure (Char.ofNat bits :: t)
        else decodeFrom (position + 1) lead start n 0x80 0xbf bits r
      else .error ⟨.invalidContinuation, lead, start, position - start⟩

/-- The text that the bytes hold. -/
def decode (bytes : Bytes) : Except Fault Text :=
  decodeFrom 0 0 0 0 0 0 0 bytes

/-- The bytes of one character. -/
def encodeChar (c : Char) : Bytes :=
  let n := c.toNat
  let tail (k : Nat) : UInt8 := (0x80 + k % 64).toUInt8
  if n < 0x80 then [n.toUInt8]
  else if n < 0x800 then [(0xc0 + n / 64).toUInt8, tail n]
  else if n < 0x10000 then [(0xe0 + n / 4096).toUInt8, tail (n / 64), tail n]
  else [(0xf0 + n / 262144).toUInt8, tail (n / 4096), tail (n / 64), tail n]

/-- The bytes of a text. -/
def encode (t : Text) : Bytes :=
  t.flatMap encodeChar

end Utf8

end SqlAssist
