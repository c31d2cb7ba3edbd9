import HourlySnapshots.Calendar.Instant
import HourlySnapshots.Calendar.Date
import HourlySnapshots.Text.Blank
import HourlySnapshots.Text.Digits

/-!
# Instants as RFC 3339 texts

Instants are written in UTC with `Z` and with as few groups of three decimal places as show them
exactly. They are read in two ways: strictly, and leniently, with single-digit parts, blanks
between the parts, and any separator of the offset's halves.
-/

namespace HourlySnapshots

namespace Rfc3339

open Text (digit? padded trimStart isBlank)

/-! ## Writing -/

/-- A year with at least four digits; years outside 0 to 9999 carry a sign. -/
def yearText (year : Int) : List Char :=
  if year < 0 then '-' :: padded 4 year.natAbs
  else if 9999 < year then '+' :: padded 4 year.natAbs
  else padded 4 year.natAbs

/-- Decimal places of a second: none, or three, six or nine. -/
def fractionText (nanos : Nat) : List Char :=
  if nanos = 0 then []
  else if nanos % 1000000 = 0 then '.' :: padded 3 (nanos / 1000000)
  else if nanos % 1000 = 0 then '.' :: padded 6 (nanos / 1000)
  else '.' :: padded 9 nanos

/-- The written form of an instant. A leap second is the second 60 of its minute. -/
def toText (t : Instant) : List Char :=
  let date := Date.ofDays (t.secs / 86400)
  let inDay := (t.secs % 86400).toNat
  yearText date.year ++ '-' :: padded 2 date.month ++ '-' :: padded 2 date.day ++ 'T' ::
    padded 2 (inDay / 3600) ++ ':' :: padded 2 (inDay / 60 % 60) ++ ':' ::
    padded 2 (inDay % 60 + t.nanos / second) ++ fractionText (t.nanos % second) ++ ['Z']

/-! ## Parts -/

-- The reader of a part yields its value and the characters after it.

/-- Reads one up to `width` digits. -/
def digitsUpTo (width : Nat) (cs : List Char) : Option (Nat × List Char) :=
  let run := (cs.take width).takeWhile Char.isDigit
  if run.isEmpty then none else some (Nat.ofDigitChars 10 run 0, cs.drop run.length)

/-- Reads exactly `width` digits. -/
def digitsExactly (width : Nat) (cs : List Char) : Option (Nat × List Char) :=
  let run := cs.take width
  if run.length = width ∧ run.all Char.isDigit then
    some (Nat.ofDigitChars 10 run 0, cs.drop width)
  else none

/-- Reads the given character. -/
def mark (c : Char) : List Char → Option (List Char)
  | d :: rest => if c = d then some rest else none
  | [] => none

/-- Reads the decimal places of a second as nanoseconds; those after the ninth are passed over. -/
def places (cs : List Char) : Option (Nat × List Char) :=
  match cs with
  | '.' :: rest =>
    (digitsUpTo 9 rest).map fun (n, left) =>
      let taken := rest.length - left.length
      (n * Nat.pow 10 (9 - taken), left.dropWhile Char.isDigit)
  | _ => some (0, cs)

/-- Reads two digits of an hour or minute count, the first of them at most `first`. -/
def pairUpTo (first : Char) : List Char → Option (Nat × List Char)
  | a :: b :: rest =>
    if a.isDigit ∧ b.isDigit ∧ a ≤ first then
      some ((a.toNat - '0'.toNat) * 10 + (b.toNat - '0'.toNat), rest)
    else none
  | _ => none

/-- Reads an offset of hours and minutes as seconds east of UTC. -/
def offset (separator : List Char → Option (List Char)) (cs : List Char) :
    Option (Int × List Char) :=
  match cs with
  | 'Z' :: rest | 'z' :: rest => some (0, rest)
  | sign :: rest => do
    let factor : Int ←
      if sign = '+' then some 1
      else if sign = '-' ∨ sign = '−' then some (-1)
      else none
    let (hours, rest) ← pairUpTo '9' rest
    let rest ← separator rest
    let (minutes, rest) ← pairUpTo '5' rest
    return (factor * ((hours : Int) * 3600 + minutes * 60), rest)
  | [] => none

/--
The instant of a date, a time of day and an offset. The second 60 is the leap second that ends its
minute. There is none for a day or time that does not exist and for an offset of a day or more.
-/
def assemble? (date : Date) (hours minutes seconds nanos : Nat) (offset : Int) : Option Instant :=
  if date.isValid ∧ -262143 ≤ date.year ∧ date.year ≤ 262142 ∧ hours < 24 ∧ minutes < 60 ∧
      seconds ≤ 60 ∧ offset.natAbs < 86400 then
    let inMinute := min seconds 59
    let leap := if seconds = 60 then second else 0
    Instant.ofParts? (date.toDays * 86400 + hours * 3600 + minutes * 60 + inMinute - offset)
      (nanos + leap)
  else none

/-! ## Lenient reading -/

/-- Reads a year: four digits at most, or any number of digits after a sign. -/
def lenientYear (cs : List Char) : Option (Int × List Char) :=
  match trimStart cs with
  | '-' :: rest => (digitsUpTo rest.length rest).map fun (n, left) => (-(n : Int), left)
  | '+' :: rest => (digitsUpTo rest.length rest).map fun (n, left) => ((n : Int), left)
  | cs => (digitsUpTo 4 cs).map fun (n, left) => ((n : Int), left)

/-- Reads a part of one or two digits with blanks before it. -/
def lenientPair (cs : List Char) : Option (Nat × List Char) := digitsUpTo 2 (trimStart cs)

/-- Passes over blanks, then reads the given character. -/
def lenientMark (c : Char) (cs : List Char) : Option (List Char) := mark c (trimStart cs)

/-- Whether a character may stand between the hours and the minutes of a lenient offset. -/
def isSeparator (c : Char) : Bool := c == ':' || isBlank c

/-- Reads an offset, or the letters `UTC`. -/
def lenientOffset (cs : List Char) : Option (Int × List Char) :=
  if (cs.take 3).map Char.toUpper = ['U', 'T', 'C'] then some (0, cs.drop 3)
  else offset (fun cs => some (cs.dropWhile isSeparator)) cs

/-- Reads the character between date and time. -/
def lenientDivider : List Char → Option (List Char)
  | c :: rest => if c = 'T' ∨ c = 't' ∨ c = ' ' then some rest else none
  | [] => none

/-- Reads an instant leniently; only blanks may follow it. -/
def readLenient? (cs : List Char) : Option Instant := do
  let (year, cs) ← lenientYear cs
  let cs ← lenientMark '-' cs
  let (month, cs) ← lenientPair cs
  let cs ← lenientMark '-' cs
  let (day, cs) ← lenientPair cs
  let cs ← lenientDivider cs
  let (hours, cs) ← lenientPair cs
  let cs ← lenientMark ':' cs
  let (minutes, cs) ← lenientPair cs
  let cs ← lenientMark ':' cs
  let (seconds, cs) ← lenientPair cs
  let (nanos, cs) ← places cs
  let (east, cs) ← lenientOffset (trimStart cs)
  if (trimStart cs).isEmpty then assemble? ⟨year, month, day⟩ hours minutes seconds nanos east
  else none

/-! ## Strict reading -/

/-- Reads an instant strictly: every part with its full width, and nothing after it. -/
def readStrict? (cs : List Char) : Option Instant := do
  let (year, cs) ← digitsExactly 4 cs
  let cs ← mark '-' cs
  let (month, cs) ← digitsExactly 2 cs
  let cs ← mark '-' cs
  let (day, cs) ← digitsExactly 2 cs
  let cs ← lenientDivider cs
  let (hours, cs) ← digitsExactly 2 cs
  let cs ← mark ':' cs
  let (minutes, cs) ← digitsExactly 2 cs
  let cs ← mark ':' cs
  let (seconds, cs) ← digitsExactly 2 cs
  let (nanos, cs) ← places cs
  let (east, cs) ← offset (mark ':') cs
  if cs.isEmpty then assemble? ⟨year, month, day⟩ hours minutes seconds nanos east else none

end Rfc3339

end HourlySnapshots
