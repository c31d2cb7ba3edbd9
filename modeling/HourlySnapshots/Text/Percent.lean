import HourlySnapshots.Text.Hex
import HourlySnapshots.Text.Utf8

/-!
# Percent encoding

Texts as parts of an address: the bytes of characters that cannot stand there are written as a
percent sign and two hexadecimal digits. In a form, a space is written as a plus sign.
-/

namespace HourlySnapshots.Text.Percent

/-- A byte as a percent sign and two digits. -/
def escape (b : UInt8) : List Char := '%' :: (hexDigits 2 b.toNat).map Char.toUpper

/-- Letters, digits and the marks that never have a meaning in an address. -/
def isUnreserved (c : Char) : Bool :=
  c.isAlphanum || c == '-' || c == '.' || c == '_' || c == '~'

/-- The characters that a form leaves as they are. -/
def isFormPlain (c : Char) : Bool :=
  c.isAlphanum || c == '*' || c == '-' || c == '.' || c == '_'

/-- A text with the bytes of all characters escaped that are not to be left as they are. -/
def encodeWith (keep : Char → Bool) (cs : List Char) : List Char :=
  cs.flatMap fun c => if keep c then [c] else (utf8 (String.singleton c)).flatMap escape

/-- A text as one component of an address. -/
def encode (cs : List Char) : List Char := encodeWith isUnreserved cs

/-- A text as a name or value of a form. -/
def encodeForm (cs : List Char) : List Char :=
  cs.flatMap fun c => if c == ' ' then ['+'] else encodeWith isFormPlain [c]

/-- The bytes of a text whose escapes are resolved; a percent sign without two digits stays. -/
def decodeBytes : List Char → List UInt8
  | [] => []
  | '%' :: a :: b :: rest =>
    match hexValue? a, hexValue? b with
    | some x, some y => UInt8.ofNat (x * 16 + y) :: decodeBytes rest
    | _, _ => 37 :: decodeBytes (a :: b :: rest)
  | c :: rest => utf8 (String.singleton c) ++ decodeBytes rest

/-- A text whose escapes are resolved. -/
def decode (cs : List Char) : List Char := lossy (decodeBytes cs)

/-- A name or value of a form. -/
def decodeForm (cs : List Char) : List Char :=
  decode (cs.map fun c => if c = '+' then ' ' else c)

/-- A text before and after the first of some character; the second part is empty without one. -/
def splitAtFirst (mark : Char) (cs : List Char) : List Char × List Char :=
  (cs.takeWhile (· ≠ mark), (cs.dropWhile (· ≠ mark)).drop 1)

/-- The names and values in a query, in order. -/
def formPairs (query : List Char) : List (String × String) :=
  ((query.splitOn '&').filter fun part => !part.isEmpty).map fun part =>
    let (name, value) := splitAtFirst '=' part
    (String.ofList (decodeForm name), String.ofList (decodeForm value))

end HourlySnapshots.Text.Percent
