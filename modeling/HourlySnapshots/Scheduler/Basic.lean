import HourlySnapshots.Calendar.Hour
import HourlySnapshots.Scheduler.Registry
import HourlySnapshots.Scheduler.Statistics

/-!
# States, settings and errors of the scheduler
-/

namespace HourlySnapshots

/-- The life cycle of the scheduler. -/
inductive SchedulerState where
  | stopped
  | starting
  | running
  | stopping
deriving DecidableEq, Inhabited

namespace SchedulerState

def name : SchedulerState → String
  | stopped => "stopped"
  | starting => "starting"
  | running => "running"
  | stopping => "stopping"

end SchedulerState

/-- The spans that govern the scheduler. -/
structure SchedulerConfig where
  /-- How long after each whole hour a cycle is due; shorter than an hour. -/
  offset : Span
  /-- How long the loop waits after an error. -/
  retryBackoff : Span
  /-- How long stopping waits for a cycle in flight. -/
  shutdownTimeout : Span
  /-- The longest single sleep; after each the wall clock is read again. -/
  maxSleepSlice : Span
deriving DecidableEq, Inhabited

namespace SchedulerConfig

/-- Cycles five minutes after the hour, checked every minute. -/
def default : SchedulerConfig := ⟨300 * second, 300 * second, 120 * second, 60 * second⟩

end SchedulerConfig

/-- Whether the collectors of a cycle run one after the other or side by side. -/
inductive FanOut where
  | sequential
  | parallel
deriving DecidableEq, Inhabited

/-- Why the scheduler could not do what it was asked. -/
inductive SchedulerError where
  | initialization (detail : String)
  | registry (error : RegistryError)
  | clock (detail : String)
  | cycleAborted
deriving DecidableEq

namespace SchedulerError

/-- The wording of an error; an aborted cycle is described by what aborted it. -/
def message (abortedBy : String) : SchedulerError → String
  | initialization detail => s!"collector initialization failed: {detail}"
  | registry error => error.message
  | clock detail => s!"cannot compute next boundary: {detail}"
  | cycleAborted => s!"collection cycle aborted: {abortedBy}"

/-- The error of a chain of causes, the outermost first. -/
def ofCauses (causes : List String) : SchedulerError :=
  .initialization (": ".intercalate causes)

end SchedulerError

/-- What initializing reports. -/
structure InitializeReport where
  alreadyInitialized : Bool
  collectorsCount : Nat
deriving DecidableEq

/-- A figure of a status report, which may be unknown at the moment. -/
inductive Metric (α : Type) where
  | known (value : α)
  | unknown
deriving DecidableEq

namespace Metric

variable {α : Type}

/-- The value of a known figure. -/
def known? : Metric α → Option α
  | known value => some value
  | unknown => none

def isUnknown : Metric α → Bool
  | known _ => false
  | unknown => true

end Metric

end HourlySnapshots
