import HourlySnapshots.Collection.Result
import HourlySnapshots.Store

/-!
# Collectors

A collector asks its services for the items of an hour, checks each item, and stores the
valid ones as one batch. What it asks and where it stores are operations on a state `σ`, so that
the same collector runs over a live service and over recorded replies.
-/

namespace HourlySnapshots

/-- What a batch is stamped with when it is saved. -/
structure Stamp where
  batchId : Uuid
  createdAt : Instant
deriving Inhabited

/-- The store as collectors reach it. -/
structure Storage (σ : Type) where
  insertBatch : List SnapshotRecord → σ → Except StoreError (List Nat) × σ
  registerIfAbsent : PortfolioMaster → σ → Except StoreError Bool × σ
  /-- A fresh batch id and the present instant. -/
  stamp : σ → Stamp × σ

/-- How a collector presents itself. -/
structure CollectorInfo where
  name : String
  kind : String
  description : String
deriving DecidableEq, Inhabited

namespace CollectorInfo

def encode (i : CollectorInfo) : Json :=
  .ofFields [
    ("name", .string i.name),
    ("type", .string i.kind),
    ("description", .string i.description)]

def decode (json : Json) : Decoded CollectorInfo := do
  let r ← json.asRecord ["name", "type", "description"]
  let name ← r.required "name" Json.decodeText
  let kind ← r.required "type" Json.decodeText
  let description ← r.required "description" Json.decodeText
  r.complete
  return ⟨name, kind, description⟩

end CollectorInfo

/-- A collector of items of type `α`: how it presents itself, and its three stages. -/
structure Collector (σ α : Type) where
  info : CollectorInfo
  collect : Instant → σ → CollectionResult α × σ
  /-- What is wrong with an item, if anything. -/
  validate : α → Option ValidationError
  /-- Stores the items; returns how many rows were written. -/
  save : CollectionResult α → σ → Except StoreError Nat × σ

namespace Collector

variable {σ α : Type}

/--
Runs the three stages for an hour. The run succeeds when there was nothing to collect, or when at
least one row was written.
-/
def run (c : Collector σ α) (time : Instant) (s : σ) : Bool × σ :=
  let (result, s) := c.collect time s
  match result.outcome with
  | .error _ => (false, s)
  | .ok [] => (true, s)
  | .ok (_ :: _) =>
    let valid := (result.filterValid c.validate).1
    if valid.items.isEmpty then (false, s)
    else
      match c.save valid s with
      | (.ok rows, s) => (decide (0 < rows), s)
      | (.error _, s) => (false, s)

end Collector

/-- Writes a batch of records unless it is empty; returns how many rows were written. -/
def saveRecords {σ : Type} (storage : Storage σ) (records : List SnapshotRecord) (s : σ) :
    Except StoreError Nat × σ :=
  if records.isEmpty then (.ok 0, s)
  else
    let (ids, s) := storage.insertBatch records s
    (ids.map List.length, s)

end HourlySnapshots
