import HourlySnapshots.Binary64

/-!
# JSON values

Documents as services send them and as records keep them. The fields of an object are
in ascending order of their names, each name once.
-/

namespace HourlySnapshots

/--
A JSON number: whole numbers written without fraction and exponent that fit a 64-bit integer, with
or without sign, and binary floating-point numbers for all others.
-/
inductive JsonNumber where
  | whole (n : Int)
  | float (x : Binary64)
deriving DecidableEq, Inhabited

/-- A JSON value. -/
inductive Json where
  | null
  | bool (b : Bool)
  | number (n : JsonNumber)
  | string (s : String)
  | array (items : List Json)
  | object (fields : List (String × Json))
deriving Inhabited

namespace Json

/-- Puts a field into its place by name; an earlier value of the same name is replaced. -/
def insertField (name : String) (value : Json) : List (String × Json) → List (String × Json)
  | [] => [(name, value)]
  | (other, kept) :: rest =>
    if name < other then (name, value) :: (other, kept) :: rest
    else if name = other then (name, value) :: rest
    else (other, kept) :: insertField name value rest

/-- The object with these fields; of fields with one name the last one counts. -/
def ofFields (fields : List (String × Json)) : Json :=
  .object (fields.foldl (fun kept (name, value) => insertField name value kept) [])

/-- The value of a field; `none` for a missing field and for values that are no objects. -/
def field? (name : String) : Json → Option Json
  | .object fields => fields.lookup name
  | _ => none

/-- The value at the end of a path of fields. -/
def path? : List String → Json → Option Json
  | [], value => some value
  | name :: rest, value => (value.field? name).bind (path? rest)

/-- The text of a string value. -/
def text? : Json → Option String
  | .string s => some s
  | _ => none

/-- The whole number of a number value. -/
def whole? : Json → Option Int
  | .number (.whole n) => some n
  | _ => none

def isObject : Json → Bool
  | .object _ => true
  | _ => false

def isNull : Json → Bool
  | .null => true
  | _ => false

/-- A whole number as a value. -/
def ofInt (n : Int) : Json := .number (.whole n)

/-- An optional value, `null` when absent. -/
def ofOption {α : Type} (encode : α → Json) : Option α → Json
  | none => .null
  | some a => encode a

end Json

end HourlySnapshots
