import HourlySnapshots.Rounding
import HourlySnapshots.Text.Blank
import HourlySnapshots.Text.Digits

/-!
# Decimal amounts

A decimal is a sign, a whole magnitude of at most 96 bits and a number of decimal places of at most
28. The places are kept: `1.5` and `1.50` are equal amounts written differently, and each is shown
as it was read. Reading rounds digits that do not fit, half away from zero; products round half to
even and fail when not even the whole part fits.

Zero is written without a sign, but a negative amount that is rounded to zero keeps its sign. It
then differs from zero in how it is shown and in nothing else.
-/

namespace HourlySnapshots

/-- A decimal amount: `magnitude` counted in units of `10 ^ -scale`, below zero if `negative`. -/
structure Decimal where
  negative : Bool
  magnitude : Nat
  scale : Nat
  magnitude_lt : magnitude < Nat.pow 2 96
  scale_le : scale ≤ 28
deriving DecidableEq

namespace Decimal

/-- The amount `0`, without decimal places. -/
def zero : Decimal := ⟨false, 0, 0, by decide, by decide⟩

instance : Inhabited Decimal := ⟨zero⟩

/-- The units of an amount as a whole number, in which the sign of zero is lost. -/
def coefficient (d : Decimal) : Int := if d.negative then -(d.magnitude : Int) else d.magnitude

/-- The amount with this sign, magnitude and scale, if both numbers are in range. -/
def ofSigned? (negative : Bool) (magnitude scale : Nat) : Option Decimal :=
  if h : magnitude < Nat.pow 2 96 ∧ scale ≤ 28 then
    some ⟨negative, magnitude, scale, h.1, h.2⟩
  else none

/-- The amount with this coefficient and scale, if both are in range; zero has no sign. -/
def ofParts? (coefficient : Int) (scale : Nat) : Option Decimal :=
  ofSigned? (coefficient < 0) coefficient.natAbs scale

/-- A whole amount, if its magnitude has at most 96 bits. -/
def ofInt? (n : Int) : Option Decimal := ofParts? n 0

/-- The amount that a literal of this library stands for; out of range literals are zero. -/
def literal (coefficient : Int) (scale : Nat) : Decimal := (ofParts? coefficient scale).getD zero

def isZero (d : Decimal) : Bool := d.magnitude == 0

def isNegative (d : Decimal) : Bool := d.coefficient < 0

def isPositive (d : Decimal) : Bool := 0 < d.coefficient

/-! ## Writing -/

/-- The digits of a magnitude with a point before the last `scale` of them. -/
def digitsWithPoint (magnitude scale : Nat) : List Char :=
  let digits := Nat.toDigits 10 magnitude
  let padded := List.replicate (scale + 1 - digits.length) '0' ++ digits
  let whole := padded.take (padded.length - scale)
  if scale = 0 then whole else whole ++ '.' :: padded.drop (padded.length - scale)

/-- The written form: all decimal places, no exponent, a minus sign if there is one. -/
def toText (d : Decimal) : List Char :=
  let body := digitsWithPoint d.magnitude d.scale
  if d.negative then '-' :: body else body

instance : ToString Decimal := ⟨fun d => String.ofList d.toText⟩

/-! ## Reading the plain form -/

/-- One more than the largest coefficient. -/
def bound : Nat := Nat.pow 2 96

open Text (digit? readCount?)

/--
Ends a coefficient before digits that do not fit: the first of them rounds the coefficient, half
away from zero, and the others are passed over, as are underscores. A coefficient that rounds up to
97 bits gives up one decimal place.
-/
def roundAt (coefficient scale : Nat) (rest : List Char) : Option (Nat × Nat) :=
  if !(rest.all fun c => c.isDigit || c == '_') then none
  else if ((rest.filter Char.isDigit).head?.bind digit?).getD 0 < 5 then some (coefficient, scale)
  else if coefficient + 1 < bound then some (coefficient + 1, scale)
  else if scale = 0 then none
  else some ((coefficient + 5) / 10, scale - 1)

/-- Below this a coefficient is short. -/
def shortBound : Nat := 1844674407370954906

/-- What follows the last place of all; right after a short coefficient an underscore is a zero. -/
def afterLastPlace (coefficient : Nat) (rest : List Char) : List Char :=
  if coefficient < shortBound && rest.head? == some '_' then '0' :: rest else rest

/--
Reads the digits of an unsigned amount: at least one digit, at most one point, and underscores
anywhere after the first digit. A whole part of more than 96 bits is refused; a fraction is cut
where it no longer fits, or after 28 places.
-/
def scan (point seen : Bool) (coefficient scale : Nat) : List Char → Option (Nat × Nat)
  | [] => if seen then some (coefficient, scale) else none
  | c :: rest =>
    match digit? c with
    | some d =>
      let longer := coefficient * 10 + d
      if longer < bound then
        let places := if point then scale + 1 else scale
        if point && 28 ≤ places then roundAt longer places (afterLastPlace coefficient rest)
        else scan point true longer places rest
      else if point then roundAt coefficient scale (c :: rest)
      else none
    | none =>
      if c = '.' && !point then scan true seen coefficient scale rest
      else if c = '_' && seen then scan point seen coefficient scale rest
      else none

/-- Reads an amount in plain notation, with an optional sign. -/
def readPlain? : List Char → Option Decimal
  | '-' :: rest => (scan false false 0 0 rest).bind fun (n, s) => ofParts? (-(n : Int)) s
  | '+' :: rest => (scan false false 0 0 rest).bind fun (n, s) => ofParts? n s
  | cs => (scan false false 0 0 cs).bind fun (n, s) => ofParts? n s

/-! ## Reading scientific notation -/

/-- The amount `d * 10 ^ exponent`. -/
def scaleUp? (d : Decimal) (exponent : Nat) : Option Decimal :=
  if exponent ≤ d.scale then ofSigned? d.negative d.magnitude (d.scale - exponent)
  else if 28 < exponent then none
  else ofSigned? d.negative (d.magnitude * Nat.pow 10 (exponent - d.scale)) 0

/--
The amount `d * 10 ^ -exponent`, rounded half away from zero to 28 decimal places. The sign stays
when nothing else does.
-/
def scaleDown? (d : Decimal) (exponent : Nat) : Option Decimal :=
  if 28 < exponent then none
  else if d.scale + exponent ≤ 28 then ofSigned? d.negative d.magnitude (d.scale + exponent)
  else
    let unit := Nat.pow 10 (d.scale + exponent - 28)
    ofSigned? d.negative ((d.magnitude + unit / 2) / unit) 28

/--
Reads `plain`, an `e` or `E`, and an exponent of at most 28 in magnitude. A negative exponent adds
decimal places; a positive one takes them away and then appends zeros.
-/
def readScientific? (cs : List Char) : Option Decimal :=
  let isMark := fun c : Char => c == 'e' || c == 'E'
  match cs.dropWhile (fun c => !isMark c) with
  | [] => none
  | _ :: exponent =>
    (readPlain? (cs.takeWhile fun c => !isMark c)).bind fun d =>
      match exponent with
      | '-' :: digits => (readCount? (Nat.pow 2 32) digits).bind d.scaleDown?
      | _ => (readCount? (Nat.pow 2 32) exponent).bind d.scaleUp?

/-- Reads an amount in plain notation or else in scientific notation. -/
def read? (cs : List Char) : Option Decimal :=
  (readPlain? cs).or (readScientific? cs)

/--
Reads an amount the way people and services write them: blanks around it and commas anywhere in it
are passed over.
-/
def readLenient? (cs : List Char) : Option Decimal :=
  match (Text.trim cs).filter (· != ',') with
  | [] => none
  | cleaned => read? cleaned

/-! ## Products -/

/--
Rounds `coefficient` units of `10 ^ -scale` to at most `places` decimal places: as many places as
leave a coefficient of 96 bits.
-/
def fit (coefficient scale : Nat) : (places : Nat) → Option (Nat × Nat)
  | 0 =>
    let rounded := roundHalfEven coefficient (Nat.pow 10 scale)
    if rounded < bound then some (rounded, 0) else none
  | places + 1 =>
    let rounded := roundHalfEven coefficient (Nat.pow 10 (scale - (places + 1)))
    if rounded < bound then some (rounded, places + 1) else fit coefficient scale places

/-- Whether the magnitude of an amount has at most 32 bits. -/
def isShort (d : Decimal) : Bool := d.magnitude < Nat.pow 2 32

/--
The product of two amounts, with as many decimal places as fit, rounded half to even; `none` when
the whole part has more than 96 bits. A product with zero is the plain `0`. The product of two
short magnitudes is the plain `0` where it lies more than 47 places behind the point, and has no
sign where it is rounded to zero.
-/
def mul? (a b : Decimal) : Option Decimal :=
  let magnitude := a.magnitude * b.magnitude
  let scale := a.scale + b.scale
  let short := a.isShort && b.isShort
  if magnitude = 0 ∨ (short ∧ 47 < scale) then some zero
  else
    (fit magnitude scale (min scale 28)).bind fun (n, s) =>
      ofSigned? (a.negative != b.negative && !(short && n == 0)) n s

end Decimal

end HourlySnapshots
