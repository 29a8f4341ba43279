/-!
# Text as UTF-8 bytes

All positions in a document count bytes of its UTF-8 form. This module measures characters in bytes,
cuts texts at byte offsets, and reads bytes back as text. A sequence of bytes is well formed if it
has no overlong form, no surrogate, nothing above U+10FFFF and no cut-off character.

## Main definitions

* `byteLength`: the number of bytes of a list of characters
* `charsBefore`, `charsWithin`: how many characters start before, or end by, a byte offset
* `dropBytes?`, `takeBytes?`: cut at a byte offset, if it lies between two characters
* `decodeUtf8`: the text that a sequence of bytes encodes, or why there is none
-/

namespace ProposalCheck

/-- The number of bytes of `cs` in UTF-8. -/
def byteLength : List Char → Nat
  | [] => 0
  | c :: rest => c.utf8Size + byteLength rest

/-- How many characters of `cs` start before byte `offset`. -/
def charsBefore (offset : Nat) : List Char → Nat
  | [] => 0
  | c :: rest => if offset = 0 then 0 else charsBefore (offset - c.utf8Size) rest + 1

/-- How many characters of `cs` end at or before byte `offset`. -/
def charsWithin (offset : Nat) : List Char → Nat
  | [] => 0
  | c :: rest => if offset < c.utf8Size then 0 else charsWithin (offset - c.utf8Size) rest + 1

/-- Drops the first `count` bytes; `none` if that would cut a character or there are fewer. -/
def dropBytes? (count : Nat) : List Char → Option (List Char)
  | [] => if count = 0 then some [] else none
  | c :: rest =>
    if count = 0 then some (c :: rest)
    else if c.utf8Size ≤ count then dropBytes? (count - c.utf8Size) rest
    else none

/-- Keeps the first `count` bytes; `none` if that would cut a character or there are fewer. -/
def takeBytes? (count : Nat) : List Char → Option (List Char)
  | [] => if count = 0 then some [] else none
  | c :: rest =>
    if count = 0 then some []
    else if c.utf8Size ≤ count then (takeBytes? (count - c.utf8Size) rest).map (c :: ·)
    else none

/-- Why a sequence of bytes is not UTF-8. -/
inductive Utf8Error where
  | invalidStart
  | invalidContinuation
  | unexpectedEnd
  deriving DecidableEq, Repr

/-- The wording of a decoding error. -/
def Utf8Error.reason : Utf8Error → String
  | .invalidStart => "invalid start byte"
  | .invalidContinuation => "invalid continuation byte"
  | .unexpectedEnd => "unexpected end of data"

/-- What the first byte of a character says: the range in which the second byte must lie, how many
bytes follow the first, and the bits that the first byte contributes. -/
def leadByte? (b : Nat) : Option (Nat × Nat × Nat × Nat) :=
  if 0xC2 ≤ b ∧ b ≤ 0xDF then some (0x80, 0xBF, 1, b - 0xC0)
  else if b = 0xE0 then some (0xA0, 0xBF, 2, 0)
  else if b = 0xED then some (0x80, 0x9F, 2, 0xD)
  else if 0xE1 ≤ b ∧ b ≤ 0xEF then some (0x80, 0xBF, 2, b - 0xE0)
  else if b = 0xF0 then some (0x90, 0xBF, 3, 0)
  else if b = 0xF4 then some (0x80, 0x8F, 3, 4)
  else if 0xF1 ≤ b ∧ b ≤ 0xF3 then some (0x80, 0xBF, 3, b - 0xF0)
  else none

/-- A character of which some bytes have been read: the range for the next byte, how many bytes are
still to come, and the bits so far. -/
structure PartialChar where
  low : Nat
  high : Nat
  remaining : Nat
  bits : Nat

/-- Reads bytes as characters. The first argument is the character in progress, if any. -/
def decodeBytes : Option PartialChar → List UInt8 → Except Utf8Error (List Char)
  | none, [] => .ok []
  | some _, [] => .error .unexpectedEnd
  | none, b :: rest =>
    if b.toNat < 0x80 then (decodeBytes none rest).map (Char.ofNat b.toNat :: ·)
    else match leadByte? b.toNat with
      | none => .error .invalidStart
      | some (low, high, remaining, bits) => decodeBytes (some ⟨low, high, remaining, bits⟩) rest
  | some p, b :: rest =>
    if p.low ≤ b.toNat ∧ b.toNat ≤ p.high then
      let bits := p.bits * 64 + (b.toNat - 0x80)
      if p.remaining ≤ 1 then (decodeBytes none rest).map (Char.ofNat bits :: ·)
      else decodeBytes (some ⟨0x80, 0xBF, p.remaining - 1, bits⟩) rest
    else .error .invalidContinuation

/-- The text that `bytes` encodes, or why there is none. -/
def decodeUtf8 (bytes : List UInt8) : Except Utf8Error String :=
  (decodeBytes none bytes).map String.ofList

end ProposalCheck
