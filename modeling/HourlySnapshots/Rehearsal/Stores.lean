import HourlySnapshots.Collection.Collector

/-!
# Stores of a rehearsal

A store and a directory of portfolios, which may be the same one. Batches are stamped with
consecutive ids.
-/

namespace HourlySnapshots

/-- The stores that the collectors of a rehearsal write to. -/
structure Stores where
  store : Store
  /-- The directory of portfolios; none when the store keeps it. -/
  directory : Option Store
  /-- How many batches have been stamped. -/
  stamps : Nat

namespace Stores

/-- One store that also keeps the directory. -/
def single : Stores := ⟨.empty, none, 0⟩

/-- A store, and another one that keeps the directory. -/
def split : Stores := ⟨.empty, some .empty, 0⟩

/-- The store that keeps the directory. -/
def directoryStore (s : Stores) : Store := s.directory.getD s.store

/-- Puts a changed directory back. -/
def setDirectory (s : Stores) (changed : Store) : Stores :=
  match s.directory with
  | some _ => { s with directory := some changed }
  | none => { s with store := changed }

def insertBatch (s : Stores) (records : List SnapshotRecord) :
    Except StoreError (List Nat) × Stores :=
  let (answer, store) := s.store.insertBatch records
  (answer, { s with store := store })

def registerIfAbsent (s : Stores) (master : PortfolioMaster) : Except StoreError Bool × Stores :=
  let (answer, directory) := s.directoryStore.registerIfAbsent master
  (answer, s.setDirectory directory)

/-- The stamp of the next batch. -/
def stamp (s : Stores) : Stamp × Stores :=
  (⟨.ofNat (Nat.pow 2 127 + s.stamps), default⟩, { s with stamps := s.stamps + 1 })

/-- Writing to stores that are a part of a larger state. -/
def storage {σ : Type} (get : σ → Stores) (set : Stores → σ → σ) : Storage σ where
  insertBatch records s :=
    let (answer, stores) := (get s).insertBatch records
    (answer, set stores s)
  registerIfAbsent master s :=
    let (answer, stores) := (get s).registerIfAbsent master
    (answer, set stores s)
  stamp s :=
    let (stamp, stores) := (get s).stamp
    (stamp, set stores s)

end Stores

end HourlySnapshots
