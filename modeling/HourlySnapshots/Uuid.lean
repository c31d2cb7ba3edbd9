import HourlySnapshots.Json.Decode
import HourlySnapshots.Text.Hex

/-!
# Universally unique identifiers

Batches of records are told apart by identifiers of 128 bits, written as 32 hexadecimal digits in
five groups.
-/

namespace HourlySnapshots

/-- An identifier of 128 bits. -/
structure Uuid where
  value : Nat
  value_lt : value < Nat.pow 2 128
deriving DecidableEq

namespace Uuid

open Text (hexDigits readHex?)

/-- The identifier with a given value, taken modulo `2 ^ 128`. -/
def ofNat (n : Nat) : Uuid := ⟨n % Nat.pow 2 128, Nat.mod_lt _ (by decide)⟩

instance : Inhabited Uuid := ⟨ofNat 0⟩

/-- Five groups of hexadecimal digits with hyphens between them. -/
def toText (u : Uuid) : List Char :=
  let digits := hexDigits 32 u.value
  digits.take 8 ++ '-' :: (digits.drop 8).take 4 ++ '-' :: (digits.drop 12).take 4 ++ '-' ::
    (digits.drop 16).take 4 ++ '-' :: digits.drop 20

/-- Reads 32 hexadecimal digits without hyphens. -/
def readSimple? (cs : List Char) : Option Uuid :=
  if cs.length = 32 then (readHex? cs).map ofNat else none

/-- Reads 32 hexadecimal digits in five groups. -/
def readGrouped? (cs : List Char) : Option Uuid :=
  if cs.length = 36 ∧ [8, 13, 18, 23].all fun i => cs[i]? = some '-' then
    readSimple? (cs.take 8 ++ (cs.drop 9).take 4 ++ (cs.drop 14).take 4 ++ (cs.drop 19).take 4 ++
      cs.drop 24)
  else none

/--
Reads an identifier with or without hyphens; the form with hyphens may stand in braces or after
`urn:uuid:`, in capitals or not.
-/
def read? (cs : List Char) : Option Uuid :=
  if cs.length = 32 then readSimple? cs
  else if cs.length = 36 then readGrouped? cs
  else if cs.length = 38 ∧ cs.head? = some '\x7b' ∧ cs.getLast? = some '\x7d' then
    readGrouped? ((cs.drop 1).take 36)
  else if (cs.take 9).map Char.toLower = "urn:uuid:".toList then readGrouped? (cs.drop 9)
  else none

def decode : Json → Decoded Uuid
  | .string s => match read? s.toList with
    | some u => .ok u
    | none => .error .shape
  | _ => .error .shape

def encode (u : Uuid) : Json := .string (String.ofList u.toText)

end Uuid

end HourlySnapshots
