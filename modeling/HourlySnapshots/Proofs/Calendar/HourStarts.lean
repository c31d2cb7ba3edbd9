import HourlySnapshots.Proofs.Calendar.Boundary
import Mathlib.Order.Bounds.Basic

/-!
# The starts of hours

Truncation takes a time to the last whole hour that is not after it. From this alone it follows that
it leaves whole hours as they are, and nothing else, that truncating again changes nothing, and that
later times are never taken to earlier hours.

The calendar begins with a whole hour, so that it has the start of the hour of each of its seconds,
whatever the nanoseconds are. Instants have leap seconds only where a minute of UTC ends. A leap
second that ends a minute of a clock which is not whole minutes away from UTC may follow any second;
timestamps admit that, and what is said of truncation holds of them as well.
-/

namespace HourlySnapshots

/-! ## Rounding down -/

section

variable {α : Type} [PartialOrder α] {marks : Set α} {round : α → α}

/--
A function takes everything to the greatest of the marks that are not above it; so the marks alone
stay as they are, rounding again changes nothing, and the order is kept.
-/
structure RoundsDown (marks : Set α) (round : α → α) : Prop where
  greatest : ∀ a, IsGreatest {b | b ∈ marks ∧ b ≤ a} (round a)
  fixed_iff : ∀ a, round a = a ↔ a ∈ marks
  idempotent : ∀ a, round (round a) = round a
  monotone : ∀ a b, a ≤ b → round a ≤ round b

/-- That the greatest marks are taken is enough for all the rest. -/
theorem RoundsDown.of_greatest
    (greatest : ∀ a, IsGreatest {b | b ∈ marks ∧ b ≤ a} (round a)) : RoundsDown marks round := by
  have hmem : ∀ a, round a ∈ marks := fun a => (greatest a).1.1
  have hle : ∀ a, round a ≤ a := fun a => (greatest a).1.2
  have hfixed : ∀ a ∈ marks, round a = a := by
    intro a ha
    exact le_antisymm (hle a) ((greatest a).2 ⟨ha, le_rfl⟩)
  refine ⟨greatest, ?_, ?_, ?_⟩
  · intro a
    refine ⟨fun h => ?_, hfixed a⟩
    rw [← h]
    exact hmem a
  · intro a
    exact hfixed (round a) (hmem a)
  · intro a b hab
    exact (greatest b).2 ⟨hmem a, (hle a).trans hab⟩

end

/-! ## Leap seconds after any second -/

/--
A second of the calendar and the nanoseconds since it began, which run on through a leap second that
may follow any second.
-/
@[ext]
structure Timestamp where
  secs : Int
  nanos : Nat
  secs_ge : -8334601228800 ≤ secs
  secs_le : secs ≤ 8210266876799
  nanos_lt : nanos < 2 * second

/-- An instant by its second and nanoseconds. -/
def Instant.timestamp (t : Instant) : Timestamp :=
  ⟨t.secs, t.nanos, t.secs_ge, t.secs_le, t.nanos_lt⟩

namespace Timestamp

/-- Timestamps are ordered by second, then by nanosecond. -/
instance : LE Timestamp :=
  ⟨fun a b => a.secs < b.secs ∨ (a.secs = b.secs ∧ a.nanos ≤ b.nanos)⟩

theorem le_def (a b : Timestamp) :
    a ≤ b ↔ a.secs < b.secs ∨ (a.secs = b.secs ∧ a.nanos ≤ b.nanos) :=
  Iff.rfl

instance : PartialOrder Timestamp where
  le_refl a := by
    rw [le_def]
    omega
  le_trans a b c hab hbc := by
    rw [le_def] at *
    omega
  le_antisymm a b hab hba := by
    rw [le_def] at *
    exact Timestamp.ext (by omega) (by omega)

/-- Whether a timestamp is a whole hour. -/
def isHourAligned (t : Timestamp) : Bool :=
  t.nanos == 0 && t.secs % 3600 == 0

/-- The start of the hour of a timestamp, if the calendar has it. -/
def hour? (t : Timestamp) : Option Instant :=
  Instant.ofParts? (t.secs - t.secs % 3600) 0

/-- The start of the hour of a timestamp; without one, the timestamp itself. -/
def truncateToHour (t : Timestamp) : Timestamp :=
  (t.hour?.map Instant.timestamp).getD t

/-- The calendar has the start of the hour of each of its seconds. -/
theorem exists_hour (t : Timestamp) :
    ∃ h : Instant, t.hour? = some h ∧ h.secs = t.secs - t.secs % 3600 ∧ h.nanos = 0 := by
  have hge := t.secs_ge
  have hle := t.secs_le
  -- the first second of the calendar is a multiple of an hour, so that no hour begins before it
  have hfits : -8334601228800 ≤ t.secs - t.secs % 3600 ∧ t.secs - t.secs % 3600 ≤ 8210266876799 ∧
      0 < 2 * second ∧ (second ≤ 0 → (t.secs - t.secs % 3600) % 60 = 59) := by
    simp only [second]
    omega
  exact ⟨_, dif_pos hfits, rfl, rfl⟩

theorem truncateToHour_of_hour? {t : Timestamp} {h : Instant} (hhour : t.hour? = some h) :
    t.truncateToHour = h.timestamp := by
  rw [truncateToHour, hhour]
  rfl

/-- Truncation always finds the start of the hour, and never keeps the timestamp in its place. -/
theorem exists_truncateToHour (t : Timestamp) :
    ∃ h : Instant, t.hour? = some h ∧ t.truncateToHour = h.timestamp := by
  obtain ⟨h, hhour, -, -⟩ := t.exists_hour
  exact ⟨h, hhour, truncateToHour_of_hour? hhour⟩

theorem parts_truncateToHour (t : Timestamp) :
    t.truncateToHour.secs = t.secs - t.secs % 3600 ∧ t.truncateToHour.nanos = 0 := by
  obtain ⟨h, hhour, hsecs, hnanos⟩ := t.exists_hour
  rw [truncateToHour_of_hour? hhour]
  exact ⟨hsecs, hnanos⟩

theorem isHourAligned_iff {t : Timestamp} :
    t.isHourAligned = true ↔ t.nanos = 0 ∧ t.secs % 3600 = 0 := by
  simp only [isHourAligned, Bool.and_eq_true, beq_iff_eq]

theorem roundsDown_truncateToHour :
    RoundsDown {t : Timestamp | t.isHourAligned = true} truncateToHour := by
  apply RoundsDown.of_greatest
  intro t
  obtain ⟨hsecs, hnanos⟩ := t.parts_truncateToHour
  refine ⟨⟨?_, ?_⟩, ?_⟩
  · apply isHourAligned_iff.mpr
    omega
  · rw [le_def]
    omega
  · rintro other ⟨haligned, hle⟩
    obtain ⟨hwhole, hmod⟩ := isHourAligned_iff.mp haligned
    rw [le_def] at hle ⊢
    omega

end Timestamp

/-! ## Instants -/

namespace Instant

theorem timestamp_le_iff (a b : Instant) : a.timestamp ≤ b.timestamp ↔ a ≤ b := by
  rw [Timestamp.le_def, le_def]
  rfl

/-- The start of the hour of an instant is what its seconds and no nanoseconds give. -/
theorem hour?_timestamp (t : Instant) : t.timestamp.hour? = some t.truncateToHour := by
  obtain ⟨h, hhour, hsecs, hnanos⟩ := t.timestamp.exists_hour
  rw [hhour]
  exact congrArg some (ext_parts hsecs hnanos)

/-- An instant and its timestamp have the same hour. -/
theorem truncateToHour_timestamp (t : Instant) :
    t.timestamp.truncateToHour = t.truncateToHour.timestamp :=
  Timestamp.truncateToHour_of_hour? t.hour?_timestamp

theorem roundsDown_truncateToHour :
    RoundsDown {t : Instant | t.isHourAligned = true} truncateToHour := by
  apply RoundsDown.of_greatest
  intro t
  have hlast := isLastHour_truncateToHour t
  refine ⟨⟨hlast.aligned, hlast.le⟩, ?_⟩
  rintro other ⟨haligned, hle⟩
  exact hlast.greatest other haligned hle

end Instant

/-! ## The start of every hour -/

/--
The calendar has the start of the hour of every time, from its first second to the nanoseconds of a
leap second after its last, and truncation gives it: the greatest of the whole hours that are not
after the time. Just the whole hours stay as they are, truncating again changes nothing, and a later
time has no earlier hour. All this holds of instants, and of timestamps, which are instants but for
leap seconds that follow any second.
-/
theorem truncated_to_last_hour :
    (∀ t : Instant, Instant.ofParts? (t.secs - t.secs % 3600) 0 = some t.truncateToHour) ∧
      RoundsDown {t : Instant | t.isHourAligned = true} Instant.truncateToHour ∧
      (∀ t : Timestamp, ∃ h : Instant,
        Instant.ofParts? (t.secs - t.secs % 3600) 0 = some h ∧ t.truncateToHour = h.timestamp) ∧
      RoundsDown {t : Timestamp | t.isHourAligned = true} Timestamp.truncateToHour ∧
      (∀ a b : Instant, a.timestamp ≤ b.timestamp ↔ a ≤ b) ∧
      ∀ t : Instant, t.timestamp.truncateToHour = t.truncateToHour.timestamp ∧
        t.timestamp.isHourAligned = t.isHourAligned := by
  refine ⟨Instant.hour?_timestamp, Instant.roundsDown_truncateToHour, ?_⟩
  refine ⟨Timestamp.exists_truncateToHour, Timestamp.roundsDown_truncateToHour, ?_⟩
  refine ⟨Instant.timestamp_le_iff, fun t => ?_⟩
  exact ⟨t.truncateToHour_timestamp, rfl⟩

/-- The leap second at the end of the calendar lies in its last hour. -/
example :
    let last : Instant := ⟨8210266876799, 1999999999, by decide, by decide, by decide, by decide⟩
    let lastHour : Instant := ⟨8210266873200, 0, by decide, by decide, by decide, by decide⟩
    last.truncateToHour = lastHour ∧ lastHour < last := by
  decide

end HourlySnapshots
