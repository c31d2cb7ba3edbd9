/-!
# UTF-8

Texts as bytes. Bytes that are no valid text can still be shown: each longest run that begins a
character and does not complete it becomes one replacement character.
-/

namespace HourlySnapshots.Text

/-- The bytes of a string. -/
def utf8 (s : String) : List UInt8 := s.toUTF8.toList

/-- The string that some bytes are, if they are valid. -/
def ofUtf8? (bytes : List UInt8) : Option String := String.fromUTF8? ⟨bytes.toArray⟩

/-- The character that stands for bytes that are none. -/
def replacement : Char := '\ufffd'

/--
For the first byte of a character: how many bytes follow, the bits that it contributes, and the
range of the byte after it. The ranges keep out long forms, surrogates and numbers that are too
large.
-/
def leadByte? (b : Nat) : Option (Nat × Nat × Nat × Nat) :=
  if 0xC2 ≤ b ∧ b ≤ 0xDF then some (1, b - 0xC0, 0x80, 0xBF)
  else if b = 0xE0 then some (2, 0, 0xA0, 0xBF)
  else if b = 0xED then some (2, b - 0xE0, 0x80, 0x9F)
  else if 0xE1 ≤ b ∧ b ≤ 0xEF then some (2, b - 0xE0, 0x80, 0xBF)
  else if b = 0xF0 then some (3, 0, 0x90, 0xBF)
  else if 0xF1 ≤ b ∧ b ≤ 0xF3 then some (3, b - 0xF0, 0x80, 0xBF)
  else if b = 0xF4 then some (3, b - 0xF0, 0x80, 0x8F)
  else none

/-- A character that has been begun: bytes to come, its bits, and the range of the next byte. -/
structure Partial where
  missing : Nat
  bits : Nat
  low : Nat
  high : Nat

/-- Reads bytes after those of a character that may have been begun. -/
def lossyFrom : Option Partial → List UInt8 → List Char
  | none, [] => []
  | some _, [] => [replacement]
  | some p, b :: rest =>
    let n := b.toNat
    if p.low ≤ n ∧ n ≤ p.high then
      let bits := p.bits * 64 + n % 64
      if p.missing ≤ 1 then Char.ofNat bits :: lossyFrom none rest
      else lossyFrom (some ⟨p.missing - 1, bits, 0x80, 0xBF⟩) rest
    else if n < 0x80 then replacement :: Char.ofNat n :: lossyFrom none rest
    else
      match leadByte? n with
      | some (missing, bits, low, high) =>
        replacement :: lossyFrom (some ⟨missing, bits, low, high⟩) rest
      | none => replacement :: replacement :: lossyFrom none rest
  | none, b :: rest =>
    let n := b.toNat
    if n < 0x80 then Char.ofNat n :: lossyFrom none rest
    else
      match leadByte? n with
      | some (missing, bits, low, high) => lossyFrom (some ⟨missing, bits, low, high⟩) rest
      | none => replacement :: lossyFrom none rest

/-- The text of some bytes, with replacement characters where they are not valid. -/
def lossy (bytes : List UInt8) : List Char := lossyFrom none bytes

/-- Why some bytes are no valid text. -/
inductive Utf8Fault where
  /-- Bytes from an index on begin a character and do not complete it. -/
  | broken (index length : Nat)
  /-- The bytes end within the character that begins at an index. -/
  | cutOff (index : Nat)
deriving DecidableEq

namespace Utf8Fault

def message : Utf8Fault → String
  | broken index length => s!"invalid utf-8 sequence of {length} bytes from index {index}"
  | cutOff index => s!"incomplete utf-8 byte sequence from index {index}"

end Utf8Fault

/-- The first fault in bytes from an index on; a character may have been begun some bytes before. -/
def utf8FaultFrom (index : Nat) : Option (Nat × Partial) → List UInt8 → Option Utf8Fault
  | none, [] => none
  | some (length, _), [] => some (.cutOff (index - length))
  | some (length, p), b :: rest =>
    let n := b.toNat
    if p.low ≤ n ∧ n ≤ p.high then
      if p.missing ≤ 1 then utf8FaultFrom (index + 1) none rest
      else utf8FaultFrom (index + 1) (some (length + 1, ⟨p.missing - 1, 0, 0x80, 0xBF⟩)) rest
    else some (.broken (index - length) length)
  | none, b :: rest =>
    let n := b.toNat
    if n < 0x80 then utf8FaultFrom (index + 1) none rest
    else
      match leadByte? n with
      | some (missing, bits, low, high) =>
        utf8FaultFrom (index + 1) (some (1, ⟨missing, bits, low, high⟩)) rest
      | none => some (.broken index 1)

/-- The first fault in some bytes, if they are no valid text. -/
def utf8Fault? (bytes : List UInt8) : Option Utf8Fault := utf8FaultFrom 0 none bytes

end HourlySnapshots.Text
