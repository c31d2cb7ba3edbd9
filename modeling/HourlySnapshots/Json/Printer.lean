import HourlySnapshots.Json.Basic
import HourlySnapshots.Text.Digits

/-!
# Writing JSON

The compact form: no blanks, fields in ascending order of their names, and only quotes,
backslashes and control characters escaped.
-/

namespace HourlySnapshots

namespace JsonNumber

/-- The written form of a number. -/
def toText : JsonNumber → List Char
  | whole n => Text.signedDigits n
  | float x => x.toText

end JsonNumber

namespace Json

/-- A character inside a quoted string. -/
def quotedChar (c : Char) : List Char :=
  if c = '"' then ['\\', '"']
  else if c = '\\' then ['\\', '\\']
  else if c = '\n' then ['\\', 'n']
  else if c = '\r' then ['\\', 'r']
  else if c = '\t' then ['\\', 't']
  else if c.toNat = 8 then ['\\', 'b']
  else if c.toNat = 12 then ['\\', 'f']
  else if c.toNat < 0x20 then
    ['\\', 'u', '0', '0', Nat.digitChar (c.toNat / 16), Nat.digitChar (c.toNat % 16)]
  else [c]

/-- A string in quotes. -/
def quoted (s : String) : List Char :=
  '"' :: (s.toList.flatMap quotedChar ++ ['"'])

mutual

/-- The compact form of a value. -/
def toText : Json → List Char
  | .null => ['n', 'u', 'l', 'l']
  | .bool true => ['t', 'r', 'u', 'e']
  | .bool false => ['f', 'a', 'l', 's', 'e']
  | .number n => n.toText
  | .string s => quoted s
  | .array items => '[' :: (itemsText items ++ [']'])
  | .object fields => '\x7b' :: (fieldsText fields ++ ['\x7d'])

/-- The items of an array, divided by commas. -/
def itemsText : List Json → List Char
  | [] => []
  | [last] => toText last
  | item :: rest => toText item ++ ',' :: itemsText rest

/-- The fields of an object, divided by commas. -/
def fieldsText : List (String × Json) → List Char
  | [] => []
  | [(name, value)] => quoted name ++ ':' :: toText value
  | (name, value) :: rest => quoted name ++ ':' :: toText value ++ ',' :: fieldsText rest

end

/-- The compact form of a value, as a string. -/
def write (value : Json) : String := String.ofList value.toText

end Json

end HourlySnapshots
