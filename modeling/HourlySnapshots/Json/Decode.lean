import HourlySnapshots.Calendar.Rfc3339
import HourlySnapshots.Decimal
import HourlySnapshots.Json.Basic

/-!
# Decoding JSON into records

A record is an object with named fields or an array with the fields in order. Fields that the
record does not name are passed over; an array must not have items left over.
-/

namespace HourlySnapshots

/-- Why a JSON value does not decode. -/
inductive DecodeError where
  /-- The value does not have the expected shape. -/
  | shape
  /-- A text was expected, possibly written as a number, and something else was found. -/
  | notText (found : Json)

/-- What a decoder yields. -/
abbrev Decoded (α : Type) := Except DecodeError α

namespace Json

/-! ## Parts of a record -/

/-- A record value whose fields are about to be decoded. -/
inductive Record where
  | named (fields : List (String × Json))
  | inOrder (names : List String) (items : List Json)

/-- Views a value as a record with these fields. -/
def asRecord (names : List String) : Json → Decoded Record
  | .object fields => .ok (.named fields)
  | .array items => .ok (.inOrder names items)
  | _ => .error .shape

namespace Record

/-- The value given for a field. -/
def get? (name : String) : Record → Option Json
  | named fields => fields.lookup name
  | inOrder names items => (names.zip items).lookup name

/-- A field that has to be there. -/
def required {α : Type} (r : Record) (name : String) (decode : Json → Decoded α) : Decoded α :=
  match r.get? name with
  | some value => decode value
  | none => .error .shape

/-- A field that may be `null`, and that an object may leave out. -/
def optional {α : Type} (r : Record) (name : String) (decode : Json → Decoded α) :
    Decoded (Option α) :=
  match r.get? name, r with
  | some .null, _ => .ok none
  | some value, _ => (decode value).map some
  | none, named _ => .ok none
  | none, inOrder _ _ => .error .shape

/-- A field with a default, which both an object and an array may leave out. -/
def defaulted {α : Type} (r : Record) (name : String) (default : α) (decode : Json → Decoded α) :
    Decoded α :=
  match r.get? name with
  | some value => decode value
  | none => .ok default

/-- Checks that an array has no items left over. -/
def complete : Record → Decoded Unit
  | named _ => .ok ()
  | inOrder names items => if items.length ≤ names.length then .ok () else .error .shape

end Record

/-! ## Values -/

/-- A string. -/
def decodeText : Json → Decoded String
  | .string s => .ok s
  | _ => .error .shape

/-- A string, or a number taken as its written form. -/
def decodeTextOrNumber : Json → Decoded String
  | .string s => .ok s
  | .number (.whole n) => .ok (String.ofList (Text.signedDigits n))
  | .number (.float x) => .ok (String.ofList x.toText)
  | other => .error (.notText other)

/-- `null`, or a value. -/
def decodeOption {α : Type} (decode : Json → Decoded α) : Json → Decoded (Option α)
  | .null => .ok none
  | value => (decode value).map some

/-- A decimal: a string in plain or scientific notation, or a number. -/
def decodeDecimal : Json → Decoded Decimal
  | .string s => match Decimal.read? s.toList with
    | some d => .ok d
    | none => .error .shape
  | .number (.whole n) => match Decimal.ofInt? n with
    | some d => .ok d
    | none => .error .shape
  | .number (.float x) => match Decimal.readPlain? x.toPlainText with
    | some d => .ok d
    | none => .error .shape
  | _ => .error .shape

/-- An instant, in any spelling that the lenient reader knows. -/
def decodeInstant : Json → Decoded Instant
  | .string s => match Rfc3339.readLenient? s.toList with
    | some t => .ok t
    | none => .error .shape
  | _ => .error .shape

/-- A decimal as a string that keeps its places. -/
def ofDecimal (d : Decimal) : Json := .string (String.ofList d.toText)

/-- An instant as a string. -/
def ofInstant (t : Instant) : Json := .string (String.ofList (Rfc3339.toText t))

/-! ## Lenient numbers -/

/--
The amount that a number or a string denotes: numbers as they are written, strings with blanks
around them and commas in them passed over. Every other value denotes none.
-/
def amount? : Json → Option Decimal
  | .number (.whole n) => Decimal.ofInt? n
  | .number (.float x) => Decimal.readLenient? x.toText
  | .string s => Decimal.readLenient? s.toList
  | _ => none

/-- The amount of the first of several fields that is there and denotes one. -/
def firstAmount? (names : List String) (value : Json) : Option Decimal :=
  names.findSome? fun name => (value.field? name).bind amount?

end Json

end HourlySnapshots
