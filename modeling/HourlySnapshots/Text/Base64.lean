/-!
# Base64

Bytes in groups of three as four characters of an alphabet of 64, with `=` filling the last group.
The reader takes exactly what the writer writes: the filling is required, and the bits of the last
character that carry no data have to be zero.
-/

namespace HourlySnapshots.Text.Base64

/-- The alphabet, in the order of the values. -/
def alphabet : List Char :=
  "ABCDEFGHIJKLMNOPQRSTUVWXYZabcdefghijklmnopqrstuvwxyz0123456789+/".toList

/-- The character that fills the last group. -/
def filler : UInt8 := 61

/-- The character for a value below 64. -/
def symbol (value : Nat) : Char := alphabet.getD value '='

/-- The value of a character, given as a byte. -/
def value? (b : UInt8) : Option Nat :=
  let n := b.toNat
  if 65 ≤ n ∧ n ≤ 90 then some (n - 65)
  else if 97 ≤ n ∧ n ≤ 122 then some (n - 97 + 26)
  else if 48 ≤ n ∧ n ≤ 57 then some (n - 48 + 52)
  else if n = 43 then some 62
  else if n = 47 then some 63
  else none

/-- The characters for some bytes. -/
def encode : List UInt8 → List Char
  | a :: b :: c :: rest =>
    let n := a.toNat * 65536 + b.toNat * 256 + c.toNat
    symbol (n / 262144) :: symbol (n / 4096 % 64) :: symbol (n / 64 % 64) :: symbol (n % 64) ::
      encode rest
  | [a, b] =>
    let n := a.toNat * 1024 + b.toNat * 4
    [symbol (n / 4096), symbol (n / 64 % 64), symbol (n % 64), '=']
  | [a] =>
    let n := a.toNat * 16
    [symbol (n / 64), symbol (n % 64), '=', '=']
  | [] => []

/-- Why a text is not read. -/
inductive Fault where
  /-- A character that cannot stand where it stands. -/
  | symbol (byte : UInt8) (offset : Nat)
  /-- A last character with bits that carry no data. -/
  | lastSymbol (byte : UInt8) (offset : Nat)
  /-- A single character in the last group. -/
  | length (count : Nat)
  /-- A last group that is not filled up. -/
  | padding
deriving DecidableEq

namespace Fault

def message : Fault → String
  | symbol byte offset => s!"Invalid symbol {byte.toNat}, offset {offset}."
  | lastSymbol byte offset => s!"Invalid last symbol {byte.toNat}, offset {offset}."
  | length count => s!"Invalid input length: {count}"
  | padding => "Invalid padding"

end Fault

/-- The bytes in a run of values, six bits each; bits left over are dropped. -/
def pack : List Nat → List UInt8
  | a :: b :: c :: d :: rest =>
    let n := a * 262144 + b * 4096 + c * 64 + d
    UInt8.ofNat (n / 65536) :: UInt8.ofNat (n / 256) :: UInt8.ofNat n :: pack rest
  | [a, b, c] =>
    let n := a * 4096 + b * 64 + c
    [UInt8.ofNat (n / 1024), UInt8.ofNat (n / 4)]
  | [a, b] => [UInt8.ofNat ((a * 64 + b) / 16)]
  | _ => []

/-- The values of characters before the last group, which starts at `offset`. -/
def values (offset : Nat) : List UInt8 → Except Fault (List Nat)
  | [] => .ok []
  | b :: rest =>
    match value? b with
    | some v => (values (offset + 1) rest).map (v :: ·)
    | none => .error (.symbol b offset)

/-- What has been read of the last group. -/
structure Ending where
  /-- The values so far. -/
  values : List Nat
  /-- The last character with a value. -/
  last : UInt8
  /-- Where the filling began, and how many fillers there are. -/
  fillers : Option (Nat × Nat)

/-- Reads the last group, whose first character is at `start`. -/
def readEnding (start : Nat) : (index : Nat) → Ending → List UInt8 → Except Fault Ending
  | _, e, [] => .ok e
  | index, e, b :: rest =>
    if b = filler then
      if index < 2 then .error (.symbol b (start + index))
      else
        let fillers := match e.fillers with
          | none => (index, 1)
          | some (first, count) => (first, count + 1)
        readEnding start (index + 1) { e with fillers := some fillers } rest
    else
      match e.fillers, value? b with
      | some (first, _), _ => .error (.symbol filler (start + first))
      | none, none => .error (.symbol b (start + index))
      | none, some v =>
        readEnding start (index + 1) { e with values := e.values ++ [v], last := b } rest

/-- Checks the last group of a text; returns its values. -/
def endingValues (start : Nat) (bytes : List UInt8) : Except Fault (List Nat) := do
  let e ← readEnding start 0 ⟨[], 0, none⟩ bytes
  let count := e.values.length
  if count < 2 then .error (.length (start + count))
  else if (count + (e.fillers.elim 0 (·.2))) % 4 ≠ 0 then .error .padding
  else
    let idle := if count = 2 then 16 else if count = 3 then 4 else 1
    if e.values.getLast?.getD 0 % idle ≠ 0 then .error (.lastSymbol e.last (start + count - 1))
    else .ok e.values

/--
The bytes that a text stands for. A stray character after complete groups is reported before
anything else; then the first fault from left to right.
-/
def decode (text : List UInt8) : Except Fault (List UInt8) :=
  if text.isEmpty then .ok []
  else
    let odd := text.length % 4
    let start := text.length - (if odd = 0 then 4 else odd)
    let stray := text.getLast?.filter fun b => odd = 1 ∧ b ≠ filler ∧ (value? b).isNone
    match stray with
    | some b => .error (.symbol b (text.length - 1))
    | none => do
      let front ← values 0 (text.take start)
      let ending ← endingValues start (text.drop start)
      return pack (front ++ ending)

end HourlySnapshots.Text.Base64
