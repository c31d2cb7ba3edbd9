import HourlySnapshots.Rounding

/-!
# Binary floating point of 64 bits

A finite number is a sign, a significand of at most 53 bits and a power of two. Every operation
is the exact one followed by one rounding, half to even. The written form has the fewest digits
that are read back as the same number, and of those the nearest.
-/

namespace HourlySnapshots

/--
A finite binary floating-point number: `significand * 2 ^ exponent`, negated if `negative`. The
zeros have exponent `-1074`, the least one.
-/
structure Binary64 where
  negative : Bool
  significand : Nat
  exponent : Int
deriving DecidableEq, Inhabited

namespace Binary64

/-- The zero without a sign. -/
def zero : Binary64 := ⟨false, 0, -1074⟩

def isZero (x : Binary64) : Bool := x.significand == 0

/-- The same number with the other sign. -/
def neg (x : Binary64) : Binary64 := { x with negative := !x.negative }

/-! ## Rounding -/

/-- The greatest `e` with `2 ^ e ≤ num / den`, for two positive numbers. -/
def binaryExponent (num den : Nat) : Int :=
  let guess : Int := (Nat.log2 num : Int) - (Nat.log2 den : Int)
  let reached :=
    if 0 ≤ guess then den * Nat.pow 2 guess.toNat ≤ num else den ≤ num * Nat.pow 2 (-guess).toNat
  if reached then guess else guess - 1

/-- `num / den` divided by `2 ^ e`, rounded to a whole number. -/
def roundShifted (num den : Nat) (e : Int) : Nat :=
  if 0 ≤ e then roundHalfEven num (den * Nat.pow 2 e.toNat)
  else roundHalfEven (num * Nat.pow 2 (-e).toNat) den

/-- The number nearest to `num / den`; `none` when it is beyond the largest finite one. -/
def ofRatio? (negative : Bool) (num den : Nat) : Option Binary64 :=
  if num = 0 then some ⟨negative, 0, -1074⟩
  else
    let e := max (binaryExponent num den - 52) (-1074)
    let rounded := roundShifted num den e
    let (m, q) := if rounded = Nat.pow 2 53 then (Nat.pow 2 52, e + 1) else (rounded, e)
    if 971 < q then none
    else if m = 0 then some ⟨negative, 0, -1074⟩
    else some ⟨negative, m, q⟩

/-- The magnitude as a fraction. -/
def ratio (x : Binary64) : Nat × Nat :=
  if 0 ≤ x.exponent then (x.significand * Nat.pow 2 x.exponent.toNat, 1)
  else (x.significand, Nat.pow 2 (-x.exponent).toNat)

/-- The number nearest to a natural number; `none` beyond the largest finite one. -/
def ofNat? (n : Nat) : Option Binary64 := ofRatio? false n 1

def mul? (x y : Binary64) : Option Binary64 :=
  let (a, b) := x.ratio
  let (c, d) := y.ratio
  ofRatio? (x.negative != y.negative) (a * c) (b * d)

/-- The rounded quotient; `none` for a zero divisor or beyond the largest finite number. -/
def div? (x y : Binary64) : Option Binary64 :=
  let (a, b) := x.ratio
  let (c, d) := y.ratio
  if c = 0 then none else ofRatio? (x.negative != y.negative) (a * d) (b * c)

/-- The nearest whole magnitude, half away from zero. -/
def roundMagnitude (x : Binary64) : Nat :=
  let (a, b) := x.ratio
  (2 * a + b) / (2 * b)

/-! ## Shortest digits -/

/-- The greatest `e` with `10 ^ e ≤ num / den`, for two positive numbers. -/
def decimalExponent (num den : Nat) : Int :=
  if den ≤ num then ((Nat.toDigits 10 (num / den)).length : Int) - 1
  else -((Nat.toDigits 10 ((den - 1) / num)).length : Int)

/--
The interval of numbers that are read as `x`, as numerators over one denominator: lower end, the
number itself, upper end, denominator. Below a power of two the gap is half as wide.
-/
def readInterval (x : Binary64) : Nat × Nat × Nat × Nat :=
  let (up, down) :=
    if 0 ≤ x.exponent then (Nat.pow 2 x.exponent.toNat, 1) else (1, Nat.pow 2 (-x.exponent).toNat)
  let lower := if x.significand = Nat.pow 2 52 ∧ -1074 < x.exponent then 1 else 2
  ((4 * x.significand - lower) * up, 4 * x.significand * up, (4 * x.significand + 2) * up, 4 * down)

/-- `a` times `10 ^ e` as a fraction. -/
def timesPowerOfTen (a : Nat) (e : Int) : Nat × Nat :=
  if 0 ≤ e then (a * Nat.pow 10 e.toNat, 1) else (a, Nat.pow 10 (-e).toNat)

/--
A decimal of the grid `10 ^ e` that is read as `x`: one of the two grid points around it, the
nearer one if both are, and the even one of two equally near.
-/
def onGrid? (x : Binary64) (e : Int) : Option Nat :=
  let (low, here, high, den) := x.readInterval
  let (up, down) := timesPowerOfTen 1 e
  let below := (here * down) / (den * up)
  let inside := fun d : Nat =>
    let point := d * up * den
    if x.significand % 2 = 0 then decide (low * down ≤ point ∧ point ≤ high * down)
    else decide (low * down < point ∧ point < high * down)
  let distance := fun d : Nat =>
    let point := d * up * den
    if point ≤ here * down then here * down - point else point - here * down
  if inside below && 0 < below then
    if inside (below + 1) then
      if distance below < distance (below + 1) then some below
      else if distance (below + 1) < distance below then some (below + 1)
      else if below % 2 = 0 then some below
      else some (below + 1)
    else some below
  else if inside (below + 1) then some (below + 1)
  else none

/-- A coefficient without its trailing zeros, and the power of ten that makes up for them. -/
def dropZeros : (fuel : Nat) → Nat → Int → Nat × Int
  | 0, d, e => (d, e)
  | fuel + 1, d, e => if d % 10 = 0 ∧ d ≠ 0 then dropZeros fuel (d / 10) (e + 1) else (d, e)

/-- Tries grids of growing fineness, `tries` of them, down from `10 ^ e`. -/
def shortestFrom (x : Binary64) : (tries : Nat) → Int → Nat × Int
  | 0, e => (0, e)
  | tries + 1, e =>
    match x.onGrid? e with
    | some d => dropZeros 20 d e
    | none => shortestFrom x tries (e - 1)

/--
The digits `d` and the exponent `e` of the shortest decimal `d * 10 ^ e` that is read back as the
magnitude of `x`; zero gives `(0, 0)`. Seventeen digits always suffice.
-/
def shortest (x : Binary64) : Nat × Int :=
  if x.significand = 0 then (0, 0)
  else
    let (num, den) := x.ratio
    shortestFrom x 17 (decimalExponent num den)

/-! ## Written forms -/

/-- The digits `ds` times `10 ^ e` without an exponent; whole numbers have no point. -/
def positional (ds : List Char) (e : Int) : List Char :=
  if 0 ≤ e then ds ++ List.replicate e.toNat '0'
  else
    let places := (-e).toNat
    if places < ds.length then ds.take (ds.length - places) ++ '.' :: ds.drop (ds.length - places)
    else '0' :: '.' :: (List.replicate (places - ds.length) '0' ++ ds)

/-- The written form without an exponent, however many zeros it takes. -/
def toPlainText (x : Binary64) : List Char :=
  let (d, e) := x.shortest
  let body := positional (Nat.toDigits 10 d) e
  if x.negative then '-' :: body else body

/--
The written form of a number in a document: at least one decimal place while the decimal exponent
is between -5 and 15, and otherwise an exponent with its sign.
-/
def toText (x : Binary64) : List Char :=
  let (d, e) := x.shortest
  let ds := Nat.toDigits 10 d
  let power : Int := (ds.length : Int) - 1 + e
  let body :=
    if -5 ≤ power ∧ power ≤ 15 then
      if 0 ≤ e then positional ds e ++ ['.', '0'] else positional ds e
    else
      let tail := match ds with
        | [] => []
        | [only] => [only]
        | first :: more => first :: '.' :: more
      let sign := if power < 0 then '-' else '+'
      tail ++ 'e' :: sign :: Nat.toDigits 10 power.natAbs
  if x.negative then '-' :: body else body

end Binary64

end HourlySnapshots
