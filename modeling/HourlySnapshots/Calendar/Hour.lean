import HourlySnapshots.Calendar.Instant

/-!
# Whole hours

Every snapshot belongs to a whole UTC hour. A cycle is due a fixed offset after each hour; the
next one due is strictly later than the present instant.
-/

namespace HourlySnapshots

namespace Instant

/-- The first representable second starts an hour, so that the start of every hour is in range. -/
theorem secs_ge_hourStart (t : Instant) : -8334601228800 ≤ t.secs - t.secs % 3600 := by
  have h := t.secs_ge
  omega

theorem hourStart_secs_le (t : Instant) : t.secs - t.secs % 3600 ≤ 8210266876799 := by
  have h := t.secs_le
  omega

/-- The whole hour that an instant lies in. -/
def truncateToHour (t : Instant) : Instant :=
  ⟨t.secs - t.secs % 3600, 0, secs_ge_hourStart t, hourStart_secs_le t,
    Nat.zero_lt_succ 1999999999, fun h => absurd h (Nat.not_succ_le_zero 999999999)⟩

/-- Whether an instant is a whole hour. -/
def isHourAligned (t : Instant) : Bool :=
  t.nanos == 0 && t.secs % 3600 == 0

end Instant

/-- Why no next boundary can be given. -/
inductive BoundaryError where
  /-- The offset is beyond the range of spans. -/
  | offsetOutOfRange
  /-- The offset is an hour or more. -/
  | offsetTooLong (offset : Span)
  /-- The boundary is later than the last instant. -/
  | overflow
deriving DecidableEq

namespace BoundaryError

def message : BoundaryError → String
  | offsetOutOfRange => "invalid offset: Source duration value is out of range for the target type"
  | offsetTooLong offset => s!"offset {offset / second}s must be shorter than an hour"
  | overflow => "boundary overflow"

end BoundaryError

/-- The longest span that times can be moved by: the milliseconds of 63 bits. -/
def longestSpan : Span := (Nat.pow 2 63 - 1) * millisecond

/-- The first instant strictly after `now` that is a whole hour plus `offset`. -/
def nextBoundary (now : Instant) (offset : Span) : Except BoundaryError Instant :=
  if longestSpan < offset then .error .offsetOutOfRange
  else if hour ≤ offset then .error (.offsetTooLong offset)
  else
    match now.truncateToHour.add? offset with
    | none => .error .overflow
    | some candidate =>
      if now < candidate then .ok candidate
      else
        match candidate.add? hour with
        | none => .error .overflow
        | some later => .ok later

end HourlySnapshots
