import HourlySnapshots.Calendar.Instant
import HourlySnapshots.Collection.Error

/-!
# Results of a collection

A collection either fails with the error of a service or yields items, possibly none.
Validation keeps the valid items in their order and reports why each of the others was dropped.
-/

namespace HourlySnapshots

/-- What one collection yields, and the instant it was made for. -/
structure CollectionResult (α : Type) where
  outcome : Except ServiceError (List α)
  collectedAt : Instant

namespace CollectionResult

variable {α : Type}

/-- Whether the collection succeeded, with or without items. -/
def success (r : CollectionResult α) : Bool :=
  match r.outcome with
  | .ok _ => true
  | .error _ => false

/-- The items collected; none after a failure. -/
def items (r : CollectionResult α) : List α :=
  match r.outcome with
  | .ok items => items
  | .error _ => []

/-- The error of a failed collection. -/
def error? (r : CollectionResult α) : Option ServiceError :=
  match r.outcome with
  | .ok _ => none
  | .error e => some e

/-- Keeps the items that `check` finds nothing wrong with; returns what is wrong with the others. -/
def filterValid (r : CollectionResult α) (check : α → Option ValidationError) :
    CollectionResult α × List ValidationError :=
  ({ r with outcome := r.outcome.map fun items => items.filter fun item => (check item).isNone },
    r.items.filterMap check)

end CollectionResult

end HourlySnapshots
