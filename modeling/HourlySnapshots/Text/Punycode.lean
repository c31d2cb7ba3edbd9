/-!
# Punycode

Texts of any characters written in ASCII. The ASCII characters come first, then a hyphen, and then a
number for each other character in ascending order: how far it lies from the one before it, counted
over all places where it could stand. Numbers have digits in base 36, the least first; a digit below
its threshold is the last one of its number.
-/

namespace HourlySnapshots.Text.Punycode

/-- The value of a digit: letters of either case count from zero, and decimal digits follow them. -/
def digit? (c : Char) : Option Nat :=
  if c.isLower then some (c.toNat - 'a'.toNat)
  else if c.isUpper then some (c.toNat - 'A'.toNat)
  else if c.isDigit then some (c.toNat - '0'.toNat + 26)
  else none

/-- The threshold of the digit at a position, which counts in steps of 36. -/
def threshold (position bias : Nat) : Nat :=
  if position ≤ bias then 1 else if bias + 26 ≤ position then 26 else position - bias

/-- Divides by 35 until at most 455 is left; counts the divisions in steps of 36. -/
def shrink (delta steps : Nat) : Nat × Nat :=
  if 455 < delta then shrink (delta / 35) (steps + 36) else (delta, steps)
termination_by delta
decreasing_by exact Nat.div_lt_self (by omega) (by decide)

/-- The bias after a number, for a text that now has `length` characters. -/
def adapt (delta length : Nat) (first : Bool) : Nat :=
  let scaled := if first then delta / 700 else delta / 2
  let (rest, steps) := shrink (scaled + scaled / length) 0
  steps + 36 * rest / (rest + 38)

/-- Reads the digits of a number; returns `start` increased by the number, and the rest. -/
def readNumber? (bias : Nat) : List Char → (position weight start : Nat) → Option (Nat × List Char)
  | [], _, _, _ => none
  | c :: rest, position, weight, start =>
    match digit? c with
    | none => none
    | some d =>
      let limit := threshold position bias
      if d < limit then some (start + d * weight, rest)
      else readNumber? bias rest (position + 36) (weight * (36 - limit)) (start + d * weight)

/-- A number takes at least one digit. -/
theorem length_readNumber? {bias : Nat} {cs : List Char} {position weight start : Nat}
    {result : Nat × List Char} (h : readNumber? bias cs position weight start = some result) :
    result.2.length < cs.length := by
  induction cs generalizing position weight start with
  | nil => simp [readNumber?] at h
  | cons c rest ih =>
    rw [readNumber?] at h
    split at h
    · simp at h
    · dsimp only at h
      split at h
      · rw [← Option.some.inj h]; simp
      · have := ih h
        simp only [List.length_cons]
        omega

/--
Reads the numbers after the ASCII characters. The last character that was put in is `code`, and the
next one is looked for from `place` on.
-/
def insertAll? (bias code place : Nat) (done cs : List Char) : Option (List Char) :=
  match cs with
  | [] => some done
  | c :: rest =>
    match h : readNumber? bias (c :: rest) 36 1 place with
    | none => none
    | some (reached, left) =>
      have := length_readNumber? h
      let length := done.length + 1
      let next := code + reached / length
      if next.isValidChar then
        insertAll? (adapt (reached - place) length (place == 0)) next (reached % length + 1)
          (done.insertIdx (reached % length) (Char.ofNat next)) left
      else none
termination_by cs.length
decreasing_by simpa using this

/-- The text that is written after the last hyphen, and the one before it if it is not empty. -/
def splitAtHyphen (cs : List Char) : List Char × List Char :=
  let last := (cs.reverse.takeWhile (· ≠ '-')).reverse
  let before := cs.take (cs.length - last.length - 1)
  if before.isEmpty then ([], cs) else (before, last)

/-- The text that is written in Punycode, if its ASCII characters are such. -/
def decode? (cs : List Char) : Option (List Char) :=
  let (plain, numbers) := splitAtHyphen cs
  if plain.all fun c => c.toNat < 0x80 then insertAll? 72 0x80 0 plain numbers else none

end HourlySnapshots.Text.Punycode
