/-!
# Instants

An instant is a UTC second and the nanoseconds passed in it. A second that ends with a leap second
holds up to two thousand million nanoseconds; leap seconds end a minute.
-/

namespace HourlySnapshots

/-- Nanoseconds in a second. -/
abbrev second : Nat := 1000000000

/-- A span of time in nanoseconds. -/
abbrev Span := Nat

/-- An hour in nanoseconds. -/
abbrev hour : Span := 3600 * second

/-- A millisecond in nanoseconds. -/
abbrev millisecond : Span := 1000000

/-- An instant of the UTC time scale, between the years -262143 and 262142. -/
structure Instant where
  /-- Seconds since 1970-01-01T00:00:00Z. -/
  secs : Int
  /-- Nanoseconds since that second began. -/
  nanos : Nat
  secs_ge : -8334601228800 ≤ secs
  secs_le : secs ≤ 8210266876799
  nanos_lt : nanos < 2 * second
  leap_at_minute : second ≤ nanos → secs % 60 = 59
deriving DecidableEq

namespace Instant

/-- The start of the year 1970. -/
def epoch : Instant := ⟨0, 0, by decide, by decide, by decide, by decide⟩

instance : Inhabited Instant := ⟨epoch⟩

/-- The instant with these parts, if there is one. -/
def ofParts? (secs : Int) (nanos : Nat) : Option Instant :=
  if h : -8334601228800 ≤ secs ∧ secs ≤ 8210266876799 ∧ nanos < 2 * second ∧
      (second ≤ nanos → secs % 60 = 59) then
    some ⟨secs, nanos, h.1, h.2.1, h.2.2.1, h.2.2.2⟩
  else none

/-- Whether one instant comes before another. -/
protected def lt (a b : Instant) : Prop :=
  a.secs < b.secs ∨ (a.secs = b.secs ∧ a.nanos < b.nanos)

/-- Whether one instant comes before another or is the same. -/
protected def le (a b : Instant) : Prop :=
  a.secs < b.secs ∨ (a.secs = b.secs ∧ a.nanos ≤ b.nanos)

instance : LT Instant := ⟨Instant.lt⟩
instance : LE Instant := ⟨Instant.le⟩

instance (a b : Instant) : Decidable (a < b) :=
  inferInstanceAs (Decidable (a.secs < b.secs ∨ (a.secs = b.secs ∧ a.nanos < b.nanos)))

instance (a b : Instant) : Decidable (a ≤ b) :=
  inferInstanceAs (Decidable (a.secs < b.secs ∨ (a.secs = b.secs ∧ a.nanos ≤ b.nanos)))

/-- The instant with this count of nanoseconds since 1970, leap seconds not counted. -/
def ofNanos? (total : Int) : Option Instant :=
  ofParts? (total / second) (total % second).toNat

/--
The instant a signed number of nanoseconds later. Time within a leap second is counted; a span
that leaves the leap second forward starts from the second before it, one that leaves it backward
from the second after it.
-/
def add? (t : Instant) (span : Int) : Option Instant :=
  let whole := span.tdiv second
  let part := span.tmod second
  if t.nanos < second then ofNanos? (t.secs * second + t.nanos + span)
  else if 0 < whole ∨ 2 * second ≤ t.nanos + part then
    ofNanos? (t.secs * second + (t.nanos - second : Nat) + span)
  else if whole < 0 then
    ofNanos? ((t.secs + 1) * second + (t.nanos - second : Nat) + span)
  else ofParts? t.secs (t.nanos + part).toNat

/--
The nanoseconds from `b` to `a`. A leap second is counted between two instants of one day, for the
one of them that lies in it when it is the earlier in the day.
-/
def since (a b : Instant) : Int :=
  let inDay := fun t : Instant => t.secs % 86400
  let leap : Int :=
    if inDay b < inDay a then (if second ≤ b.nanos then 1 else 0)
    else if inDay a < inDay b then (if second ≤ a.nanos then -1 else 0)
    else 0
  (a.secs - b.secs + leap) * second + ((a.nanos : Int) - b.nanos)

end Instant

end HourlySnapshots
