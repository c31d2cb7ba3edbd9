import HourlySnapshots.Json.Basic
import HourlySnapshots.Text.Digits
import HourlySnapshots.Text.Hex

/-!
# Reading JSON

A document is one value with blanks around it. Objects and arrays may be nested 127 deep. Every
reader takes the characters that remain and returns its result with those that remain after it;
`none` means that the text is no document.
-/

namespace HourlySnapshots.Json

open Text (digit?)

/-- What a reader yields: a result and the characters after it. -/
abbrev Rest (α : Type) := Option (α × List Char)

/-! ## Blanks and words -/

/-- The characters without leading spaces, tabs and line ends. -/
def skipBlanks : List Char → List Char
  | [] => []
  | c :: rest => if c = ' ' ∨ c = '\n' ∨ c = '\t' ∨ c = '\r' then skipBlanks rest else c :: rest

/-- The characters after a given word. -/
def skipWord? : (word : List Char) → List Char → Option (List Char)
  | [], cs => some cs
  | _ :: _, [] => none
  | w :: word, c :: rest => if w = c then skipWord? word rest else none

/-! ## Strings -/

/-- The character that a single-letter escape stands for. -/
def escaped? : Char → Option Char
  | '"' => some '"'
  | '\\' => some '\\'
  | '/' => some '/'
  | 'b' => some (Char.ofNat 8)
  | 'f' => some (Char.ofNat 12)
  | 'n' => some '\n'
  | 'r' => some '\r'
  | 't' => some '\t'
  | _ => none

/--
Reads the characters of a string up to and including its closing quote. Code points beyond 16 bits
are escaped as a pair of surrogates; a surrogate without its partner is refused, and so is an
unescaped control character.
-/
def readStringTail (fuel : Nat) (cs : List Char) : Rest (List Char) :=
  match fuel with
  | 0 => none
  | fuel + 1 =>
    match cs with
    | [] => none
    | '"' :: rest => some ([], rest)
    | '\\' :: 'u' :: a :: b :: c :: d :: rest =>
      match Text.readHex? [a, b, c, d] with
      | none => none
      | some unit =>
        if 0xDC00 ≤ unit ∧ unit ≤ 0xDFFF then none
        else if 0xD800 ≤ unit ∧ unit ≤ 0xDBFF then
          match rest with
          | '\\' :: 'u' :: a :: b :: c :: d :: rest =>
            match Text.readHex? [a, b, c, d] with
            | none => none
            | some low =>
              if 0xDC00 ≤ low ∧ low ≤ 0xDFFF then
                let point := 0x10000 + (unit - 0xD800) * 0x400 + (low - 0xDC00)
                (readStringTail fuel rest).map fun (s, left) => (Char.ofNat point :: s, left)
              else none
          | _ => none
        else (readStringTail fuel rest).map fun (s, left) => (Char.ofNat unit :: s, left)
    | '\\' :: c :: rest =>
      match escaped? c with
      | none => none
      | some e => (readStringTail fuel rest).map fun (s, left) => (e :: s, left)
    | c :: rest =>
      if c.toNat < 0x20 ∨ c = '\\' then none
      else (readStringTail fuel rest).map fun (s, left) => (c :: s, left)

/-- Reads a string after its opening quote. -/
def readString (cs : List Char) : Rest String :=
  (readStringTail (cs.length + 1) cs).map fun (s, left) => (String.ofList s, left)

/-! ## Numbers -/

/--
The floating-point number for a 64-bit coefficient and a power of ten: the rounded coefficient,
multiplied or divided once by the rounded power. Powers below `10 ^ -308` take a division by
`10 ^ 308` first; a number beyond the largest finite one is refused.
-/
def scaled? (fuel : Nat) (x : Binary64) (exponent : Int) : Option Binary64 :=
  match fuel with
  | 0 => some x
  | fuel + 1 =>
    if exponent.natAbs ≤ 308 then
      (Binary64.ofNat? (Nat.pow 10 exponent.natAbs)).bind fun power =>
        if 0 ≤ exponent then x.mul? power else x.div? power
    else if x.isZero then some x
    else if 0 ≤ exponent then none
    else
      (Binary64.ofNat? (Nat.pow 10 308)).bind fun power =>
        (x.div? power).bind fun smaller => scaled? fuel smaller (exponent + 308)

/-- The floating-point number with this sign, coefficient and power of ten. -/
def floatOf? (negative : Bool) (coefficient : Nat) (exponent : Int) : Option Json :=
  (Binary64.ofNat? coefficient).bind fun x =>
    (scaled? 4 x exponent).map fun y => .number (.float (if negative then y.neg else y))

/--
Reads digits into a coefficient while it fits 64 bits. Returns the coefficient, how many digits
went into it, how many followed that did not fit, and the characters after them.
-/
def readCoefficient (coefficient taken : Nat) : List Char → Nat × Nat × Nat × List Char
  | [] => (coefficient, taken, 0, [])
  | c :: rest =>
    match digit? c with
    | none => (coefficient, taken, 0, c :: rest)
    | some d =>
      let longer := coefficient * 10 + d
      if longer < Nat.pow 2 64 then readCoefficient longer (taken + 1) rest
      else
        let ignored := (c :: rest).takeWhile Char.isDigit
        (coefficient, taken, ignored.length, (c :: rest).dropWhile Char.isDigit)

/-- The largest value of the exponent counter. -/
def exponentLimit : Nat := Nat.pow 2 31 - 1

/-- Reads the exponent after its mark; the power of ten so far is added to it. -/
def readExponent (negative : Bool) (coefficient : Nat) (power : Int) (cs : List Char) : Rest Json :=
  let (below, digits) := match cs with
    | '+' :: rest => (false, rest)
    | '-' :: rest => (true, rest)
    | _ => (false, cs)
  let run := digits.takeWhile Char.isDigit
  let left := digits.dropWhile Char.isDigit
  if run.isEmpty then none
  else
    let n := Nat.ofDigitChars 10 run 0
    if exponentLimit < n then
      if coefficient ≠ 0 ∧ !below then none
      else some (.number (.float ⟨negative, 0, -1074⟩), left)
    else
      let total := if below then power - n else power + n
      (floatOf? negative coefficient total).map fun v => (v, left)

/-- Reads what may follow the digits of a coefficient that is a floating-point number. -/
def readFloatTail (negative : Bool) (coefficient : Nat) (power : Int) (cs : List Char) :
    Rest Json :=
  match cs with
  | 'e' :: rest | 'E' :: rest => readExponent negative coefficient power rest
  | _ => (floatOf? negative coefficient power).map fun v => (v, cs)

/-- Reads the decimal places after the point. -/
def readPlaces (negative : Bool) (coefficient : Nat) (power : Int) (cs : List Char) : Rest Json :=
  let (longer, taken, ignored, left) := readCoefficient coefficient 0 cs
  if taken + ignored = 0 then none
  else readFloatTail negative longer (power - taken) left

/-- Reads a number after its sign. -/
def readMagnitude (negative : Bool) (cs : List Char) : Rest Json :=
  match cs with
  | [] => none
  | first :: _ =>
    if !first.isDigit then none
    else
      let (coefficient, taken, ignored, left) :=
        if first = '0' then (0, 1, 0, cs.drop 1) else readCoefficient 0 0 cs
      if first = '0' && (left.head?.any Char.isDigit) then none
      else
        match left with
        | '.' :: rest => readPlaces negative coefficient ignored rest
        | 'e' :: rest | 'E' :: rest => readExponent negative coefficient ignored rest
        | _ =>
          if ignored ≠ 0 then (floatOf? negative coefficient ignored).map fun v => (v, left)
          else if taken = 0 then none
          else if !negative then some (ofInt coefficient, left)
          else if coefficient = 0 ∨ Nat.pow 2 63 < coefficient then
            (floatOf? true coefficient 0).map fun v => (v, left)
          else some (ofInt (-(coefficient : Int)), left)

/-! ## Values -/

/-- Reads the items of an array, from its first item to its closing bracket. -/
def readItems (item : List Char → Rest Json) (fuel : Nat) (cs : List Char) : Rest (List Json) :=
  match fuel with
  | 0 => none
  | fuel + 1 =>
    (item cs).bind fun (value, left) =>
      match skipBlanks left with
      | ',' :: rest => (readItems item fuel rest).map fun (more, left) => (value :: more, left)
      | ']' :: rest => some ([value], rest)
      | _ => none

/-- Reads the fields of an object, from its first name to its closing brace. -/
def readFields (item : List Char → Rest Json) (fuel : Nat) (cs : List Char) :
    Rest (List (String × Json)) :=
  match fuel with
  | 0 => none
  | fuel + 1 =>
    match skipBlanks cs with
    | '"' :: rest =>
      (readString rest).bind fun (name, left) =>
        match skipBlanks left with
        | ':' :: rest =>
          (item rest).bind fun (value, left) =>
            match skipBlanks left with
            | ',' :: rest =>
              (readFields item fuel rest).map fun (more, left) => ((name, value) :: more, left)
            | '\x7d' :: rest => some ([(name, value)], rest)
            | _ => none
        | _ => none
    | _ => none

/-- Reads a value, with leading blanks, in which arrays and objects nest at most `depth` deep. -/
def readValue (depth : Nat) (cs : List Char) : Rest Json :=
  match skipBlanks cs with
  | 'n' :: rest => (skipWord? ['u', 'l', 'l'] rest).map fun left => (.null, left)
  | 't' :: rest => (skipWord? ['r', 'u', 'e'] rest).map fun left => (.bool true, left)
  | 'f' :: rest => (skipWord? ['a', 'l', 's', 'e'] rest).map fun left => (.bool false, left)
  | '"' :: rest => (readString rest).map fun (s, left) => (.string s, left)
  | '-' :: rest => readMagnitude true rest
  | '[' :: rest =>
    match depth with
    | 0 => none
    | depth + 1 =>
      match skipBlanks rest with
      | ']' :: left => some (.array [], left)
      | _ =>
        (readItems (readValue depth) (rest.length + 1) rest).map fun (items, left) =>
          (.array items, left)
  | '\x7b' :: rest =>
    match depth with
    | 0 => none
    | depth + 1 =>
      match skipBlanks rest with
      | '\x7d' :: left => some (.object [], left)
      | _ =>
        (readFields (readValue depth) (rest.length + 1) rest).map fun (fields, left) =>
          (ofFields fields, left)
  | cs => readMagnitude false cs

/-- The value that a text holds, if it is a document. -/
def read? (text : String) : Option Json :=
  (readValue 127 text.toList).bind fun (value, left) =>
    if (skipBlanks left).isEmpty then some value else none

end HourlySnapshots.Json
