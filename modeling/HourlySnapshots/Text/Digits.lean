/-!
# Decimal digits

Reading whole numbers from runs of ASCII digits, and writing them with a fixed width.
-/

namespace HourlySnapshots.Text

/-- The value of a decimal digit. -/
def digit? (c : Char) : Option Nat :=
  if c.isDigit then some (c.toNat - '0'.toNat) else none

/-- The value of a non-empty run of digits. -/
def readDigits? (cs : List Char) : Option Nat :=
  if cs.isEmpty || !cs.all Char.isDigit then none else some (Nat.ofDigitChars 10 cs 0)

/-- The value of a run of digits below `limit`, with an optional plus sign. -/
def readCount? (limit : Nat) (cs : List Char) : Option Nat :=
  let digits := match cs with
    | '+' :: rest => rest
    | _ => cs
  (readDigits? digits).bind fun n => if n < limit then some n else none

/-- Why a text is no number below a limit. -/
inductive NumberFault where
  | empty
  | badDigit
  | tooLarge
deriving DecidableEq

namespace NumberFault

def message : NumberFault → String
  | empty => "cannot parse integer from empty string"
  | badDigit => "invalid digit found in string"
  | tooLarge => "number too large to fit in target type"

end NumberFault

/-- Appends a digit to a number that has to stay below `limit`. -/
def appendDigit (limit n : Nat) (c : Char) : Except NumberFault Nat :=
  match digit? c with
  | none => .error .badDigit
  | some d => if n * 10 + d < limit then .ok (n * 10 + d) else .error .tooLarge

/--
The value of a run of digits below `limit`, with an optional plus sign, or the first fault met from
left to right.
-/
def readBounded (limit : Nat) : List Char → Except NumberFault Nat
  | [] => .error .empty
  | ['+'] => .error .badDigit
  | '+' :: digits => digits.foldlM (appendDigit limit) 0
  | digits => digits.foldlM (appendDigit limit) 0

/-- The value of a run of digits with an optional sign, from `-limit` to `limit - 1`. -/
def readSigned? (limit : Nat) : List Char → Option Int
  | '-' :: digits =>
    (readDigits? digits).bind fun n => if n ≤ limit then some (-(n : Int)) else none
  | cs => (readCount? limit cs).map Int.ofNat

/-- The digits of a number, with zeros in front up to `width`. -/
def padded (width n : Nat) : List Char :=
  let digits := Nat.toDigits 10 n
  List.replicate (width - digits.length) '0' ++ digits

/-- The digits of a whole number, with a minus sign for negative ones. -/
def signedDigits (n : Int) : List Char :=
  if n < 0 then '-' :: Nat.toDigits 10 n.natAbs else Nat.toDigits 10 n.natAbs

/-- A number written in its shortest form is read back. -/
theorem readDigits?_toDigits (n : Nat) : readDigits? (Nat.toDigits 10 n) = some n := by
  have digits : (Nat.toDigits 10 n).all Char.isDigit = true :=
    List.all_eq_true.2 fun _ h => Nat.isDigit_of_mem_toDigits (by decide) (by decide) h
  simp [readDigits?, digits, Nat.toDigits_ne_nil, Nat.ofDigitChars_ten_toDigits]

end HourlySnapshots.Text
