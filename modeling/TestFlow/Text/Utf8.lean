/-! # Bytes as text

`decodeLossy` reads bytes as UTF-8 and drops what is not: of a malformed sequence the longest start
that could have been one is dropped as a whole, and reading goes on behind it. Overlong forms,
surrogates and code points above `0x10ffff` are malformed.
-/

namespace TestFlow.Text

/-- A byte that goes on a sequence: `10` and six bits. -/
def isContinuation (byte : UInt8) : Bool :=
  0x80 ≤ byte && byte ≤ 0xbf

/-- How a lead byte opens a sequence: its own bits, the range of the second byte, and the number of
bytes after the second. -/
structure Lead where
  bits : Nat
  low : UInt8
  high : UInt8
  more : Nat

/-- The sequence of two or more bytes that a byte opens, if it opens one. The second byte's range keeps
out overlong forms, surrogates and what is above `0x10ffff`. -/
def Lead.ofByte? (byte : UInt8) : Option Lead :=
  if 0xc2 ≤ byte && byte ≤ 0xdf then some ⟨byte.toNat - 0xc0, 0x80, 0xbf, 0⟩
  else if byte = 0xe0 then some ⟨0, 0xa0, 0xbf, 1⟩
  else if byte = 0xed then some ⟨0xd, 0x80, 0x9f, 1⟩
  else if 0xe1 ≤ byte && byte ≤ 0xef then some ⟨byte.toNat - 0xe0, 0x80, 0xbf, 1⟩
  else if byte = 0xf0 then some ⟨0, 0x90, 0xbf, 2⟩
  else if 0xf1 ≤ byte && byte ≤ 0xf3 then some ⟨byte.toNat - 0xf0, 0x80, 0xbf, 2⟩
  else if byte = 0xf4 then some ⟨4, 0x80, 0x8f, 2⟩
  else none

/-- Where a reader of bytes stands: between characters, or within a sequence with the bits so far, the
range of the next byte and the number of bytes after it. -/
inductive Decoding where
  | between
  | within (bits : Nat) (low high : UInt8) (more : Nat)

/-- Start a character at a byte: the character it is alone, and what is expected then. -/
def Decoding.start (byte : UInt8) : Option Char × Decoding :=
  if byte < 0x80 then (some (Char.ofNat byte.toNat), .between)
  else match Lead.ofByte? byte with
    | some lead => (none, .within lead.bits lead.low lead.high lead.more)
    | none => (none, .between)

/-- Take one more byte. A byte out of range ends the sequence unread and starts afresh. -/
def Decoding.step (byte : UInt8) : Decoding → Option Char × Decoding
  | .between => start byte
  | .within bits low high more =>
    if low ≤ byte && byte ≤ high then
      let sum := bits * 64 + (byte.toNat - 0x80)
      match more with
      | 0 => (some (Char.ofNat sum), .between)
      | more + 1 => (none, .within sum 0x80 0xbf more)
    else start byte

/-- The characters that bytes still to come give. -/
def decodeFrom : Decoding → List UInt8 → List Char
  | _, [] => []
  | state, byte :: rest =>
    match state.step byte with
    | (some c, next) => c :: decodeFrom next rest
    | (none, next) => decodeFrom next rest

/-- Bytes read as UTF-8, malformed sequences dropped. -/
def decodeLossy (bytes : List UInt8) : String :=
  .ofList (decodeFrom .between bytes)

end TestFlow.Text
