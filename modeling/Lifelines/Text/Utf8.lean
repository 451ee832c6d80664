/-!
# Reading bytes as UTF-8

What a program prints is bytes. Where they are not UTF-8 they are still shown
as text: each maximal run of bytes that a character could start with, but that
the next byte rules out, becomes one replacement character, and so does each
byte that no character starts with.
-/

namespace Lifelines.Text

/-- What stands for bytes that are not UTF-8. -/
def replacementChar : Char := '\uFFFD'

/-- The least and the greatest second byte of a character of several bytes that
    starts with `b`, and how many bytes follow the second one. -/
def leadByte? (b : Nat) : Option (Nat × Nat × Nat) :=
  if 0xC2 ≤ b ∧ b ≤ 0xDF then some (0x80, 0xBF, 0)
  else if b = 0xE0 then some (0xA0, 0xBF, 1)
  else if b = 0xED then some (0x80, 0x9F, 1)
  else if 0xE1 ≤ b ∧ b ≤ 0xEF then some (0x80, 0xBF, 1)
  else if b = 0xF0 then some (0x90, 0xBF, 2)
  else if 0xF1 ≤ b ∧ b ≤ 0xF3 then some (0x80, 0xBF, 2)
  else if b = 0xF4 then some (0x80, 0x8F, 2)
  else none

/-- What the bytes read so far are a part of. -/
inductive Pending where
  /-- Nothing: the next byte starts a character. -/
  | none
  /-- A character with these bits so far, whose next byte is bounded and followed by
      `more` others. -/
  | some (bits low high more : Nat)

/-- The text of bytes, after the pending start of a character. -/
def decodeLossyFrom : Pending → List UInt8 → List Char
  | .none, [] => []
  | .some .., [] => [replacementChar]
  | .none, b :: rest =>
    let n := b.toNat
    if n < 0x80 then Char.ofNat n :: decodeLossyFrom .none rest
    else
      match leadByte? n with
      | Option.some (low, high, more) =>
        decodeLossyFrom (.some (n % Nat.pow 2 (5 - more)) low high more) rest
      | Option.none => replacementChar :: decodeLossyFrom .none rest
  | .some bits low high more, b :: rest =>
    let n := b.toNat
    if low ≤ n ∧ n ≤ high then
      let bits := bits * 64 + n % 64
      match more with
      | 0 => Char.ofNat bits :: decodeLossyFrom .none rest
      | more + 1 => decodeLossyFrom (.some bits 0x80 0xBF more) rest
    else if n < 0x80 then replacementChar :: Char.ofNat n :: decodeLossyFrom .none rest
    else
      match leadByte? n with
      | Option.some (low, high, more) =>
        replacementChar :: decodeLossyFrom (.some (n % Nat.pow 2 (5 - more)) low high more) rest
      | Option.none => replacementChar :: replacementChar :: decodeLossyFrom .none rest

/-- The text of bytes, with replacement characters where they are not UTF-8. -/
def decodeLossy (bytes : ByteArray) : String :=
  String.ofList (decodeLossyFrom .none bytes.toList)

end Lifelines.Text
