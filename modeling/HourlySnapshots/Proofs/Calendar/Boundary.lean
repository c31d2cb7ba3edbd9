import HourlySnapshots.Calendar.Hour
import Mathlib.Order.Defs.LinearOrder
import Mathlib.Tactic.Common

/-!
# Boundaries

The boundaries of an offset are the instants that lie the offset after a whole hour. The next
boundary is the first of them that is later than the present instant, and there is none only when
the calendar has ended.

Instants are ordered by second and nanosecond, so that an instant in a leap second comes before the
second that follows, although as many nanoseconds may have passed. Boundaries are in no leap second.
-/

namespace HourlySnapshots

namespace Instant

/-! ## Order -/

theorem lt_def (a b : Instant) : a < b ↔ a.secs < b.secs ∨ (a.secs = b.secs ∧ a.nanos < b.nanos) :=
  Iff.rfl

theorem le_def (a b : Instant) : a ≤ b ↔ a.secs < b.secs ∨ (a.secs = b.secs ∧ a.nanos ≤ b.nanos) :=
  Iff.rfl

theorem ext_parts {a b : Instant} (hsecs : a.secs = b.secs) (hnanos : a.nanos = b.nanos) :
    a = b := by
  cases a
  cases b
  simp_all

instance : LinearOrder Instant where
  le_refl a := by
    rw [le_def]
    omega
  le_trans a b c hab hbc := by
    rw [le_def] at *
    omega
  lt_iff_le_not_ge a b := by
    rw [le_def, le_def, lt_def]
    omega
  le_antisymm a b hab hba := by
    rw [le_def] at *
    exact ext_parts (by omega) (by omega)
  le_total a b := by
    rw [le_def, le_def]
    omega
  toDecidableLE := inferInstance
  toDecidableEq := inferInstance
  toDecidableLT := inferInstance

/-! ## Nanoseconds -/

/-- The nanoseconds from 1970 to an instant, leap seconds before it not counted. -/
def position (t : Instant) : Int := t.secs * second + t.nanos

/-- The instant has no part in a leap second. -/
def Plain (t : Instant) : Prop := t.nanos < second

instance (t : Instant) : Decidable t.Plain := inferInstanceAs (Decidable (t.nanos < second))

theorem plain_truncateToHour (t : Instant) : t.truncateToHour.Plain := Nat.zero_lt_succ 999999999

theorem plain_epoch : epoch.Plain := Nat.zero_lt_succ 999999999

/-- Outside of leap seconds, instants are ordered as their positions are. -/
theorem lt_iff_position {a b : Instant} (ha : a.Plain) (hb : b.Plain) :
    a < b ↔ a.position < b.position := by
  simp only [lt_def, position, Plain, second] at *
  omega

/-- Outside of leap seconds, a position belongs to one instant. -/
theorem eq_of_position {a b : Instant} (ha : a.Plain) (hb : b.Plain)
    (h : a.position = b.position) : a = b := by
  simp only [position, Plain, second] at *
  exact ext_parts (by omega) (by omega)

theorem secs_eq_position {t : Instant} (h : t.Plain) : t.secs = t.position / second := by
  simp only [position, Plain, second] at *
  omega

/-- A count of nanoseconds gives the one instant at that position, if it is in range. -/
theorem ofNanos?_eq_some {total : Int} {t : Instant} :
    ofNanos? total = some t ↔ t.Plain ∧ t.position = total := by
  have hge := t.secs_ge
  have hle := t.secs_le
  unfold ofNanos? ofParts?
  simp only [position, Plain, second] at *
  constructor
  · intro h
    split at h
    · obtain rfl := Option.some.inj h
      simp only
      omega
    · cases h
  · rintro ⟨hplain, rfl⟩
    rw [dif_pos (by omega)]
    refine congrArg some (ext_parts ?_ ?_) <;> simp only <;> omega

/-- Outside of leap seconds, the time between two instants is that between their positions. -/
theorem since_of_plain {a b : Instant} (ha : a.Plain) (hb : b.Plain) :
    a.since b = a.position - b.position := by
  simp only [since, position, Plain, second] at *
  split_ifs <;> omega

/-- Between two instants, every count of nanoseconds gives one. -/
theorem ofNanos?_between {a b : Instant} {total : Int} (ha : a.secs * second ≤ total)
    (hb : b.Plain) (hab : total ≤ b.position) : ∃ t, ofNanos? total = some t := by
  have hge := a.secs_ge
  have hle := b.secs_le
  simp only [position, Plain, second] at *
  unfold ofNanos? ofParts?
  simp only [second]
  rw [dif_pos (by omega)]
  exact ⟨_, rfl⟩

theorem add?_of_plain {t : Instant} (h : t.Plain) (span : Int) :
    t.add? span = ofNanos? (t.position + span) := by
  have hnanos : t.nanos < second := h
  simp only [add?, if_pos hnanos]
  rfl

/-! ## Whole hours -/

theorem isHourAligned_iff {t : Instant} :
    t.isHourAligned = true ↔ t.Plain ∧ t.position % hour = 0 := by
  simp only [isHourAligned, Bool.and_eq_true, beq_iff_eq, position, Plain, hour, second]
  omega

theorem isHourAligned_truncateToHour (t : Instant) : t.truncateToHour.isHourAligned = true := by
  simp [isHourAligned, truncateToHour]

/--
The hour of an instant is counted in seconds, so that a leap second belongs to the hour it ends.
-/
theorem position_truncateToHour (t : Instant) :
    t.truncateToHour.position = t.secs / 3600 * hour := by
  simp only [truncateToHour, position, hour, second]
  omega

/-- An hour is its own hour. -/
theorem truncateToHour_truncateToHour (t : Instant) :
    t.truncateToHour.truncateToHour = t.truncateToHour := by
  simp only [truncateToHour, Instant.mk.injEq, and_true]
  omega

/-- The latest whole hour that is not after an instant. -/
structure IsLastHour (h t : Instant) : Prop where
  aligned : h.isHourAligned = true
  le : h ≤ t
  greatest : ∀ other : Instant, other.isHourAligned = true → other ≤ t → other ≤ h

theorem isLastHour_truncateToHour (t : Instant) : IsLastHour t.truncateToHour t where
  aligned := isHourAligned_truncateToHour t
  le := by
    rw [le_def]
    simp only [truncateToHour]
    omega
  greatest other haligned hle := by
    simp only [isHourAligned, Bool.and_eq_true, beq_iff_eq] at haligned
    rw [le_def] at hle ⊢
    simp only [truncateToHour]
    omega

/-- An instant has one last hour. -/
theorem IsLastHour.unique {h h' t : Instant} (hlast : IsLastHour h t) (hlast' : IsLastHour h' t) :
    h = h' :=
  le_antisymm (hlast'.greatest h hlast.aligned hlast.le)
    (hlast.greatest h' hlast'.aligned hlast'.le)

end Instant

/-! ## Boundaries -/

/-- An instant that lies an offset after a whole hour. -/
def IsBoundary (offset : Span) (t : Instant) : Prop :=
  t.Plain ∧ (t.position - offset) % hour = 0

namespace IsBoundary

variable {offset : Span} {a b t : Instant}

/-- The offset after the hour of any instant lies a boundary. -/
theorem of_position_eq (ht : t.Plain)
    (hposition : t.position = a.truncateToHour.position + offset) :
    IsBoundary offset t := by
  refine ⟨ht, ?_⟩
  have haligned : a.truncateToHour.position % hour = 0 := by
    rw [Instant.position_truncateToHour]
    exact Int.mul_emod_left _ _
  rw [hposition]
  simpa using haligned

/-- A boundary lies the offset after the hour it is in. -/
theorem position_eq (ht : IsBoundary offset t) (hoffset : offset < hour) :
    t.position = t.truncateToHour.position + offset := by
  obtain ⟨hplain, hmod⟩ := ht
  have hcast : (offset : Int) < 3600000000000 := Int.ofNat_lt.mpr hoffset
  rw [Instant.position_truncateToHour, Instant.secs_eq_position hplain]
  simp only [hour, second, Int.cast_ofNat_Int] at *
  omega

/-- A boundary is its hour plus the offset. -/
theorem truncateToHour_add? (ht : IsBoundary offset t) (hoffset : offset < hour) :
    t.truncateToHour.add? offset = some t := by
  rw [Instant.add?_of_plain t.plain_truncateToHour, Instant.ofNanos?_eq_some]
  exact ⟨ht.1, ht.position_eq hoffset⟩

/-- The offset after a whole hour there is a boundary, and the hour is its own. -/
theorem of_add? {h : Instant} (haligned : h.isHourAligned = true) (hoffset : offset < hour)
    (hadd : h.add? offset = some t) : IsBoundary offset t ∧ t.truncateToHour = h := by
  obtain ⟨hplain, hmod⟩ := Instant.isHourAligned_iff.mp haligned
  rw [Instant.add?_of_plain hplain, Instant.ofNanos?_eq_some] at hadd
  have hboundary : IsBoundary offset t := ⟨hadd.1, by rw [hadd.2]; simpa using hmod⟩
  refine ⟨hboundary, Instant.eq_of_position t.plain_truncateToHour hplain ?_⟩
  have hposition := hboundary.position_eq hoffset
  omega

/-- Boundaries with one offset are ordered as their hours are. -/
theorem lt_iff_truncateToHour (ha : IsBoundary offset a) (hb : IsBoundary offset b)
    (hoffset : offset < hour) : a < b ↔ a.truncateToHour < b.truncateToHour := by
  rw [Instant.lt_iff_position ha.1 hb.1,
    Instant.lt_iff_position a.plain_truncateToHour b.plain_truncateToHour,
    ha.position_eq hoffset, hb.position_eq hoffset]
  omega

/-- From one boundary to a later one it is an hour at least. -/
theorem hour_le_of_lt (ha : IsBoundary offset a) (hb : IsBoundary offset b) (hab : a < b) :
    a.position + hour ≤ b.position := by
  rw [Instant.lt_iff_position ha.1 hb.1] at hab
  have hmod := ha.2
  have hmod' := hb.2
  simp only [hour, second] at *
  omega

/-- A boundary later than an instant is not before the offset after the hour of the instant. -/
theorem le_position_of_lt (ht : IsBoundary offset t) (hoffset : offset < hour) (hlt : a < t) :
    a.truncateToHour.position + offset ≤ t.position := by
  have hsecs : a.secs ≤ t.secs := by
    rw [Instant.lt_def] at hlt
    omega
  rw [ht.position_eq hoffset, Instant.position_truncateToHour, Instant.position_truncateToHour]
  have hhours : a.secs / 3600 ≤ t.secs / 3600 := Int.ediv_le_ediv (by decide) hsecs
  simp only [hour, second]
  omega

end IsBoundary

/-- An offset below an hour is never beyond the range of spans. -/
theorem offset_le_longestSpan {offset : Span} (h : offset < hour) : ¬ longestSpan < offset := by
  have hlong : hour ≤ longestSpan := by decide
  exact Nat.not_lt.mpr (Nat.le_trans (Nat.le_of_lt h) hlong)

/--
The offset after the hour of the present instant, or else an hour later, lies the first boundary
after the instant.
-/
theorem nextBoundary_eq {now : Instant} {offset : Span} (hoffset : offset < hour) :
    nextBoundary now offset =
      match Instant.ofNanos? (now.truncateToHour.position + offset) with
      | none => .error .overflow
      | some candidate =>
        if now < candidate then .ok candidate
        else
          match Instant.ofNanos? (now.truncateToHour.position + offset + hour) with
          | none => .error .overflow
          | some later => .ok later := by
  unfold nextBoundary
  rw [if_neg (offset_le_longestSpan hoffset), if_neg (Nat.not_le.mpr hoffset),
    Instant.add?_of_plain now.plain_truncateToHour]
  cases hfirst : Instant.ofNanos? (now.truncateToHour.position + offset) with
  | none => rfl
  | some candidate =>
    obtain ⟨hplain, hposition⟩ := Instant.ofNanos?_eq_some.mp hfirst
    have hlater : candidate.add? hour =
        Instant.ofNanos? (now.truncateToHour.position + offset + hour) := by
      rw [Instant.add?_of_plain hplain, hposition]
    exact hlater ▸ rfl

/-- An instant comes before the boundary an hour after the offset in its own hour. -/
theorem lt_of_position_eq {now t : Instant} {offset : Span}
    (hposition : t.position = now.truncateToHour.position + offset + hour) (ht : t.Plain) :
    now < t := by
  rw [Instant.position_truncateToHour] at hposition
  rw [Instant.lt_def]
  simp only [Instant.position, Instant.Plain, hour, second, Int.cast_ofNat_Int] at *
  omega

/-- The next boundary is the first boundary after the present instant. -/
theorem nextBoundary_ok {now target : Instant} {offset : Span} (hoffset : offset < hour)
    (h : nextBoundary now offset = .ok target) :
    IsBoundary offset target ∧ now < target ∧ ∀ t, IsBoundary offset t → now < t → target ≤ t := by
  have hfirst : ∀ t, IsBoundary offset t → now < t →
      now.truncateToHour.position + offset ≤ t.position :=
    fun t ht hlt => ht.le_position_of_lt hoffset hlt
  rw [nextBoundary_eq hoffset] at h
  split at h
  · cases h
  · next candidate hcandidate =>
    obtain ⟨hplain, hposition⟩ := Instant.ofNanos?_eq_some.mp hcandidate
    have hboundary := IsBoundary.of_position_eq hplain hposition
    split at h
    · next hlt =>
      obtain rfl := Except.ok.inj h
      refine ⟨hboundary, hlt, fun t ht hnow => ?_⟩
      rw [← not_lt, Instant.lt_iff_position ht.1 hplain, hposition]
      exact Int.not_lt.mpr (hfirst t ht hnow)
    · next hge =>
      split at h
      · cases h
      · next later hlater =>
        obtain rfl := Except.ok.inj h
        obtain ⟨hplain', hposition'⟩ := Instant.ofNanos?_eq_some.mp hlater
        have hboundary' : IsBoundary offset later := by
          refine ⟨hplain', ?_⟩
          rw [hposition', ← hposition]
          have hmod := hboundary.2
          simp only [hour, second] at *
          omega
        refine ⟨hboundary', lt_of_position_eq hposition' hplain', fun t ht hnow => ?_⟩
        -- a boundary after the instant is not the candidate, so it is an hour later at least
        have hafter : candidate < t := lt_of_le_of_lt (not_lt.mp hge) hnow
        have hhour := hboundary.hour_le_of_lt ht hafter
        rw [← not_lt, Instant.lt_iff_position ht.1 hplain', hposition', ← hposition]
        exact Int.not_lt.mpr hhour

/-- There is no next boundary only when the calendar ends before. -/
theorem nextBoundary_error {now : Instant} {offset : Span} {e : BoundaryError}
    (hoffset : offset < hour) (h : nextBoundary now offset = .error e) :
    ∀ t, IsBoundary offset t → ¬ now < t := by
  intro t ht hnow
  have hfirst := ht.le_position_of_lt hoffset hnow
  -- between the hour of the instant and the boundary, everything is in the calendar
  have hinRange : ∀ total, now.truncateToHour.position ≤ total → total ≤ t.position →
      Instant.ofNanos? total ≠ none := by
    intro total hge hle hnone
    have hsecs : now.truncateToHour.secs * second ≤ total := by
      simp only [Instant.position] at hge
      omega
    obtain ⟨u, hu⟩ := Instant.ofNanos?_between hsecs ht.1 hle
    simp [hu] at hnone
  rw [nextBoundary_eq hoffset] at h
  split at h
  · next hnone => exact hinRange _ (by omega) hfirst hnone
  · next candidate hcandidate =>
    obtain ⟨hplain, hposition⟩ := Instant.ofNanos?_eq_some.mp hcandidate
    split at h
    · cases h
    · next hge =>
      split at h
      · next hnone =>
        have hafter : candidate < t := lt_of_le_of_lt (not_lt.mp hge) hnow
        -- as above, and now the hour later is beyond the calendar
        have hboundary := IsBoundary.of_position_eq hplain hposition
        have hhour := hboundary.hour_le_of_lt ht hafter
        rw [hposition] at hhour
        exact hinRange _ (by omega) hhour hnone
      · cases h

/-- After 1970 has begun there is a next boundary. -/
theorem exists_nextBoundary {offset : Span} (hoffset : offset < hour) :
    ∃ target, nextBoundary .epoch offset = .ok target := by
  have hcast : (offset : Int) < 3600000000000 := Int.ofNat_lt.mpr hoffset
  -- a day later is still in the calendar
  let nextDay : Instant := ⟨86400, 0, by decide, by decide, by decide, by decide⟩
  obtain ⟨t, ht⟩ : ∃ t, Instant.ofNanos? (hour + offset) = some t := by
    refine Instant.ofNanos?_between (a := .epoch) (b := nextDay) ?_ ?_ ?_
    · simp only [Instant.epoch, hour, second]
      omega
    · exact Nat.zero_lt_succ 999999999
    · simp only [Instant.position, nextDay, hour, second]
      omega
  obtain ⟨hplain, hposition⟩ := Instant.ofNanos?_eq_some.mp ht
  cases hnext : nextBoundary .epoch offset with
  | ok target => exact ⟨target, rfl⟩
  | error e =>
    have hboundary : IsBoundary offset t := ⟨hplain, by rw [hposition]; simp⟩
    refine absurd ?_ (nextBoundary_error hoffset hnext t hboundary)
    rw [Instant.lt_iff_position Instant.plain_epoch hplain, hposition]
    simp only [Instant.position, Instant.epoch, hour, second]
    omega

/-- Only an offset below an hour has boundaries. -/
theorem offset_lt_hour_of_nextBoundary {now target : Instant} {offset : Span}
    (h : nextBoundary now offset = .ok target) : offset < hour := by
  unfold nextBoundary at h
  split at h
  · cases h
  · split at h
    · cases h
    · next hoffset => exact Nat.not_le.mp hoffset

/-! ## The first boundary after an instant -/

/-- The earliest of the boundaries after an instant. -/
structure IsFirstAfter (offset : Span) (now t : Instant) : Prop where
  boundary : IsBoundary offset t
  after : now < t
  least : ∀ other, IsBoundary offset other → now < other → t ≤ other

/-- The boundary that is computed is the first one after the instant. -/
theorem isFirstAfter_of_nextBoundary {offset : Span} {now t : Instant}
    (h : nextBoundary now offset = .ok t) : IsFirstAfter offset now t := by
  obtain ⟨hboundary, hafter, hleast⟩ := nextBoundary_ok (offset_lt_hour_of_nextBoundary h) h
  exact ⟨hboundary, hafter, hleast⟩

namespace IsFirstAfter

variable {offset : Span} {now chosen t : Instant}

/-- From an instant to the first boundary after it, no more than an hour passes. -/
theorem position_le (h : IsFirstAfter offset now t) : t.position ≤ now.position + hour := by
  by_contra hfar
  have hfar' : now.position < t.position - hour := by omega
  -- an hour before, there would be another boundary after the instant
  have hsecs : now.secs * second ≤ t.position - hour := by
    simp only [Instant.position] at *
    omega
  obtain ⟨earlier, hearlier⟩ := Instant.ofNanos?_between hsecs h.boundary.1 (by omega)
  obtain ⟨hplain, hposition⟩ := Instant.ofNanos?_eq_some.mp hearlier
  have hboundary : IsBoundary offset earlier := by
    refine ⟨hplain, ?_⟩
    have hmod := h.boundary.2
    rw [hposition]
    simp only [hour, second] at *
    omega
  have hafter : now < earlier := by
    rw [Instant.lt_def]
    simp only [Instant.position, Instant.Plain, second] at *
    omega
  have hleast := h.least earlier hboundary hafter
  rw [← not_lt, Instant.lt_iff_position hplain h.boundary.1, hposition] at hleast
  simp only [hour, second] at hleast
  omega

/-- A boundary that is not the first one after an instant is more than an hour away. -/
theorem position_lt_of_not (hboundary : IsBoundary offset t) (hafter : now < t)
    (hplain : now.Plain) (h : ¬ IsFirstAfter offset now t) :
    now.position + hour < t.position := by
  obtain ⟨other, hother, hlt, hbefore⟩ :
      ∃ other, IsBoundary offset other ∧ now < other ∧ other < t := by
    by_contra hnone
    simp only [not_exists, not_and, not_lt] at hnone
    exact h ⟨hboundary, hafter, hnone⟩
  have hhour := hother.hour_le_of_lt hboundary hbefore
  rw [Instant.lt_iff_position hplain hother.1] at hlt
  omega

/-- Outside of leap seconds, the first boundary after an instant is the one within an hour. -/
theorem iff_since_le (hboundary : IsBoundary offset t) (hafter : now < t) (hplain : now.Plain) :
    IsFirstAfter offset now t ↔ t.since now ≤ hour := by
  rw [Instant.since_of_plain hboundary.1 hplain]
  refine ⟨fun h => ?_, fun hsoon => ?_⟩
  · have hle := h.position_le
    omega
  · by_contra h
    have hlt := position_lt_of_not hboundary hafter hplain h
    omega

/--
The first boundary after one instant is the first one after another that is before it, just when no
boundary lies after the other and not after the one.
-/
theorem iff_none_between (h : IsFirstAfter offset chosen t) (hafter : now < t) :
    IsFirstAfter offset now t ↔ ∀ other, IsBoundary offset other → now < other → chosen < other := by
  refine ⟨fun hnow other hother hlt => ?_, fun hnone => ?_⟩
  · exact lt_of_lt_of_le h.after (hnow.least other hother hlt)
  · exact ⟨h.boundary, hafter, fun other hother hlt => h.least other hother (hnone other hother hlt)⟩

end IsFirstAfter

end HourlySnapshots
