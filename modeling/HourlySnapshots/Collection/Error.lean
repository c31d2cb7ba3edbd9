import HourlySnapshots.Decimal

/-!
# What can go wrong in a collection

Services fail in five ways, items are invalid in three, and the store refuses a batch in
two. Each error keeps its cause; the wording is in one function per kind of error.
-/

namespace HourlySnapshots

/-- Why a call to a service gave no answer. -/
inductive ServiceError where
  | timeout (detail : String)
  | connection (detail : String)
  | status (code : Nat) (detail : String)
  | auth (detail : String)
  | malformed (detail : String)
deriving DecidableEq, Inhabited

namespace ServiceError

/-- The error for a reply with an unsuccessful status: 401 and 403 mean rejected credentials. -/
def ofStatus (code : Nat) (detail : String) : ServiceError :=
  if code = 401 ∨ code = 403 then .auth s!"status {code}: {detail}" else .status code detail

def message : ServiceError → String
  | timeout detail => s!"upstream request timed out: {detail}"
  | connection detail => s!"upstream unreachable: {detail}"
  | status code detail => s!"upstream returned status {code}: {detail}"
  | auth detail => s!"upstream rejected credentials: {detail}"
  | malformed detail => s!"malformed upstream payload: {detail}"

/-- Whether the service rejected the credentials. -/
def isAuth : ServiceError → Bool
  | auth _ => true
  | _ => false

/-- Whether the same call may succeed later. -/
def isTransient : ServiceError → Bool
  | timeout _ | connection _ | status _ _ => true
  | auth _ | malformed _ => false

end ServiceError

/-- Why an item is not stored. -/
inductive ValidationError where
  | missingField (field : String)
  | negative (field : String) (value : Decimal)
  | notPositive (field : String) (value : Decimal)
deriving DecidableEq

namespace ValidationError

def message : ValidationError → String
  | missingField field => s!"missing required field `{field}`"
  | negative field value => s!"field `{field}` must not be negative (got {value})"
  | notPositive field value => s!"field `{field}` must be positive (got {value})"

end ValidationError

/-- Why the store did not take a batch. -/
inductive StoreError where
  | unavailable (detail : String)
  | rejected (detail : String)
deriving DecidableEq

namespace StoreError

def message : StoreError → String
  | unavailable detail => s!"snapshot store unavailable: {detail}"
  | rejected detail => s!"snapshot store rejected batch: {detail}"

end StoreError

end HourlySnapshots
