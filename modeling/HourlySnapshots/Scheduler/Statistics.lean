import HourlySnapshots.Json.Decode

/-!
# Run statistics

How many cycles have run, how they ended, and when the next one is due.
-/

namespace HourlySnapshots

/-- The outcome of each collector by name, in ascending order of the names. -/
abbrev CycleResults := List (String × Bool)

/-- Outcomes as an object. -/
def CycleResults.encode (results : CycleResults) : Json :=
  .ofFields (results.map fun (name, ok) => (name, .bool ok))

/-- What is known of the cycles run so far. -/
structure RunStats where
  totalRuns : Nat
  successfulRuns : Nat
  failedRuns : Nat
  lastRunAt : Option Instant
  lastCollectionAt : Option Instant
  lastRunSuccess : Option Bool
  lastResults : CycleResults
  nextRunAt : Option Instant
deriving DecidableEq, Inhabited

namespace RunStats

/-- The statistics before the first cycle. -/
def empty : RunStats := ⟨0, 0, 0, none, none, none, [], none⟩

/--
The share of successful cycles in percent with one decimal place, half away from zero, worked out
in binary floating point; `none` before the first cycle.
-/
def successRate (s : RunStats) : Option Binary64 :=
  if s.totalRuns = 0 then none
  else do
    let successful ← Binary64.ofNat? s.successfulRuns
    let total ← Binary64.ofNat? s.totalRuns
    let share ← successful.div? total
    let percent ← share.mul? (← Binary64.ofNat? 100)
    let tenths ← percent.mul? (← Binary64.ofNat? 10)
    let rounded ← Binary64.ofNat? tenths.roundMagnitude
    rounded.div? (← Binary64.ofNat? 10)

def encode (s : RunStats) : Json :=
  .ofFields [
    ("total_runs", .ofInt s.totalRuns),
    ("successful_runs", .ofInt s.successfulRuns),
    ("failed_runs", .ofInt s.failedRuns),
    ("last_run_at", .ofOption .ofInstant s.lastRunAt),
    ("last_collection_at", .ofOption .ofInstant s.lastCollectionAt),
    ("last_run_success", .ofOption .bool s.lastRunSuccess),
    ("last_results", s.lastResults.encode),
    ("next_run_at", .ofOption .ofInstant s.nextRunAt)]

end RunStats

end HourlySnapshots
