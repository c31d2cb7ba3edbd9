import HourlySnapshots.Collection.Error
import HourlySnapshots.Portfolio
import HourlySnapshots.Snapshot

/-!
# The snapshot store

An append-only list of records with consecutive ids, and the directory of portfolios, which keeps
the first master entry of each fund. While writes fail, nothing changes.
-/

namespace HourlySnapshots

/-- The contents of the store. -/
structure Store where
  /-- Records with their ids, in the order they were written. -/
  rows : List (Nat × SnapshotRecord)
  /-- The id given out last. -/
  lastId : Nat
  /-- Master entries in the order they were written. -/
  portfolios : List PortfolioMaster
  /-- Whether writes are refused. -/
  failWrites : Bool
deriving Inhabited

namespace Store

/-- The store before the first write. -/
def empty : Store := ⟨[], 0, [], false⟩

/-- The records in the order they were written. -/
def records (s : Store) : List SnapshotRecord := s.rows.map (·.2)

/-- The records of a batch with the ids that follow `last`. -/
def number (last : Nat) : List SnapshotRecord → List (Nat × SnapshotRecord)
  | [] => []
  | record :: rest => (last + 1, record) :: number (last + 1) rest

/-- The error of every write while writes fail. -/
def offline : StoreError := .unavailable "in-memory store offline"

/-- Appends a batch as a whole; returns the ids of its records in order. -/
def insertBatch (batch : List SnapshotRecord) (s : Store) : Except StoreError (List Nat) × Store :=
  if s.failWrites then (.error offline, s)
  else
    let rows := number s.lastId batch
    (.ok (rows.map (·.1)), { s with rows := s.rows ++ rows, lastId := s.lastId + batch.length })

/-- Keeps a master entry unless its fund has one; returns whether it is kept. -/
def registerIfAbsent (m : PortfolioMaster) (s : Store) : Except StoreError Bool × Store :=
  if s.failWrites then (.error offline, s)
  else if s.portfolios.any fun kept => kept.fundName == m.fundName then (.ok false, s)
  else (.ok true, { s with portfolios := s.portfolios ++ [m] })

/-- Lets writes fail, or succeed again. -/
def setFailWrites (fail : Bool) (s : Store) : Store := { s with failWrites := fail }

/-- The master entries in ascending order of the fund names. -/
def sortedPortfolios (s : Store) : List PortfolioMaster :=
  s.portfolios.mergeSort fun a b => a.fundName ≤ b.fundName

/--
The records with the numbers of their batches, which are counted from zero in the order of their
first records.
-/
def batchedRecords (s : Store) : List (Nat × SnapshotRecord) :=
  let batches := (s.records.map SnapshotRecord.batchId).eraseDups
  s.records.map fun record => (batches.idxOf record.batchId, record)

/-- The store with its records in ascending order of their kinds and subjects. -/
def orderedBySubject (s : Store) : Store :=
  let key := fun (row : Nat × SnapshotRecord) => (row.2.kind.name, row.2.subjectKey)
  let le := fun (a b : String × String) => a.1 < b.1 || (a.1 == b.1 && a.2 ≤ b.2)
  { s with rows := s.rows.mergeSort fun a b => le (key a) (key b) }

/-- A batch is numbered without changing it. -/
theorem map_snd_number (last : Nat) (batch : List SnapshotRecord) :
    (number last batch).map (·.2) = batch := by
  induction batch generalizing last with
  | nil => rfl
  | cons record rest ih => simp [number, ih]

end Store

end HourlySnapshots
