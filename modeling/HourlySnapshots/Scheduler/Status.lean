import HourlySnapshots.Scheduler.Machine

/-!
# Status reports

What the scheduler tells about itself at any moment, without waiting. A figure that cannot be read
at that moment is reported as unknown, and never keeps the rest from being reported.
-/

namespace HourlySnapshots

namespace Metric

variable {α : Type}

/-- A figure that has been read, or could not be. -/
def ofOption : Option α → Metric α
  | some value => known value
  | none => unknown

def map {β : Type} (f : α → β) : Metric α → Metric β
  | known value => known (f value)
  | unknown => unknown

/-- A figure as a value; an unknown one is the text `unknown`. -/
def encode (encodeValue : α → Json) : Metric α → Json
  | known value => encodeValue value
  | unknown => .string "unknown"

end Metric

/-- A status report. -/
structure SchedulerStatus where
  state : SchedulerState
  collectors : Metric (List CollectorInfo)
  stats : Metric RunStats
deriving DecidableEq

namespace SchedulerStatus

/-- Whether the scheduler is running. -/
def running (s : SchedulerStatus) : Bool := s.state == .running

/-- The figures about the cycles, and how many collectors there are. -/
def encodeStats (s : SchedulerStatus) : Json :=
  let figure := fun (part : RunStats → Json) => (s.stats.map part).encode id
  .ofFields [
    ("total_runs", figure fun t => .ofInt t.totalRuns),
    ("successful_runs", figure fun t => .ofInt t.successfulRuns),
    ("failed_runs", figure fun t => .ofInt t.failedRuns),
    ("success_rate", figure fun t => .ofOption (fun x => .number (.float x)) t.successRate),
    ("last_run_at", figure fun t => .ofOption .ofInstant t.lastRunAt),
    ("last_collection_at", figure fun t => .ofOption .ofInstant t.lastCollectionAt),
    ("last_run_success", figure fun t => .ofOption .bool t.lastRunSuccess),
    ("last_results", figure fun t => t.lastResults.encode),
    ("next_run_at", figure fun t => .ofOption .ofInstant t.nextRunAt),
    ("collectors_count", s.collectors.encode fun infos => .ofInt infos.length)]

def encode (s : SchedulerStatus) : Json :=
  let summary := fun (i : CollectorInfo) =>
    Json.ofFields [("name", .string i.name), ("type", .string i.kind)]
  .ofFields [
    ("running", .bool s.running),
    ("state", .string s.state.name),
    ("collectors", s.collectors.encode fun infos => .array (infos.map summary)),
    ("stats", s.encodeStats)]

end SchedulerStatus

namespace InitializeReport

def encode (r : InitializeReport) : Json :=
  .ofFields [
    ("already_initialized", .bool r.alreadyInitialized),
    ("collectors_count", .ofInt r.collectorsCount)]

end InitializeReport

namespace Machine

variable {σ : Type}

/-- The status report of a machine. -/
def status (m : Machine σ) : SchedulerStatus :=
  ⟨m.state, .known (Registry.describe m.registry), .known m.stats⟩

end Machine

end HourlySnapshots
