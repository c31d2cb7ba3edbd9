import HourlySnapshots.Proofs.Calendar.Boundary
import HourlySnapshots.Settings

/-!
# When a boundary is due

The calendar ends, and a boundary may be due only after its end. Due times are therefore told as
counts of nanoseconds since 1970, which do not end: every instant and every offset have one, and a
next boundary is given just when the calendar still reaches it.

From an instant to its next boundary it is at most an hour. Only from within a leap second can more
time pass than that, since the hour is counted from the second that the leap second belongs to. What
is more is below a second, and nothing is more for an offset of whole seconds.
-/

namespace HourlySnapshots

/-! ## Times beyond the calendar -/

namespace Instant

variable {a t now : Instant} {time : Int}

/-- An instant comes before the time that lies so many nanoseconds after 1970. -/
def Before (t : Instant) (time : Int) : Prop :=
  t.secs < time / second ∨ (t.secs = time / second ∧ (t.nanos : Int) < time % second)

theorem before_position (ht : t.Plain) : a.Before t.position ↔ a < t := by
  have hnanos := a.nanos_lt
  simp only [Before, lt_def, position, Plain, second] at *
  omega

/-- A later time is one that an earlier one is not. -/
theorem Before.lt {earlier : Int} (h : now.Before time) (hnot : ¬ now.Before earlier) :
    earlier < time := by
  simp only [Before, second] at *
  omega

theorem Before.secs_le (h : now.Before time) : now.secs * second ≤ time := by
  simp only [Before, second] at *
  omega

/-- A time that the calendar has begun before, and that some instant is not before, is in it. -/
theorem Before.exists_instant (h : now.Before time) (hreached : ¬ t.Before time) :
    ∃ u : Instant, u.Plain ∧ u.position = time := by
  have hge := now.secs_ge
  have hle := t.secs_le
  obtain ⟨u, hu⟩ : ∃ u, ofNanos? time = some u := by
    apply Exists.intro
    unfold ofNanos? ofParts?
    apply dif_pos
    simp only [Before, second] at *
    omega
  exact ⟨u, ofNanos?_eq_some.mp hu⟩

end Instant

/-! ## Due times -/

/-- The first time after an instant that is an offset after a whole hour, in the calendar or not. -/
structure IsDue (offset : Span) (now : Instant) (due : Int) : Prop where
  aligned : (due - offset) % hour = 0
  after : now.Before due
  least : ∀ time : Int, (time - offset) % hour = 0 → now.Before time → due ≤ time

variable {offset : Span} {now t : Instant} {due : Int}

/-- The times after an instant are not before the offset in the hour of the instant. -/
theorem first_le_of_before {time : Int} (hoffset : offset < hour)
    (haligned : (time - offset) % hour = 0) (hafter : now.Before time) :
    now.truncateToHour.position + offset ≤ time := by
  have hcast : (offset : Int) < 3600000000000 := Int.ofNat_lt.mpr hoffset
  have hsecs := hafter.secs_le
  rw [Instant.position_truncateToHour]
  simp only [hour, second] at *
  omega

/-- A boundary is due after every instant: in the hour of the instant or in the next. -/
theorem exists_isDue (now : Instant) (hoffset : offset < hour) : ∃ due, IsDue offset now due := by
  let first := now.truncateToHour.position + offset
  have hfirst : (first - offset) % hour = 0 := by
    show (now.truncateToHour.position + offset - offset) % hour = 0
    rw [Instant.position_truncateToHour]
    simp
  by_cases hbefore : now.Before first
  · exact ⟨first, hfirst, hbefore, fun time => first_le_of_before hoffset⟩
  · refine ⟨first + hour, ?_, ?_, ?_⟩
    · simp only [hour, second] at *
      omega
    · show now.Before (now.truncateToHour.position + offset + hour)
      rw [Instant.position_truncateToHour]
      simp only [Instant.Before, hour, second]
      omega
    · intro time haligned hafter
      -- the first time is over, and between two times lies an hour
      have hlt := hafter.lt hbefore
      simp only [hour, second] at *
      omega

/-- The next boundary is at the due time. -/
theorem IsFirstAfter.position_eq (h : IsFirstAfter offset now t) (hdue : IsDue offset now due) :
    t.position = due := by
  have hafter : now.Before t.position := (Instant.before_position h.boundary.1).mpr h.after
  have hle : due ≤ t.position := hdue.least t.position h.boundary.2 hafter
  have hreached : ¬ t.Before due := by
    have hplain : t.Plain := h.boundary.1
    simp only [Instant.Before, Instant.position, Instant.Plain, second] at *
    omega
  -- so the due time is an instant, and a boundary after the present one
  obtain ⟨u, hplain, rfl⟩ := hdue.after.exists_instant hreached
  have hle' : t ≤ u :=
    h.least u ⟨hplain, hdue.aligned⟩ ((Instant.before_position hplain).mp hdue.after)
  rw [← not_lt, Instant.lt_iff_position hplain h.boundary.1] at hle'
  omega

/-- There is no next boundary for an offset of an hour, or when it is due after every instant. -/
theorem exists_error_iff (now : Instant) (offset : Span) :
    (∃ e, nextBoundary now offset = .error e) ↔
      hour ≤ offset ∨ ∃ due, IsDue offset now due ∧ ∀ t : Instant, t.Before due := by
  constructor
  · rintro ⟨e, he⟩
    by_cases hoffset : hour ≤ offset
    · exact .inl hoffset
    · have hlt : offset < hour := Nat.not_le.mp hoffset
      obtain ⟨due, hdue⟩ := exists_isDue now hlt
      refine .inr ⟨due, hdue, fun t => ?_⟩
      by_contra hreached
      obtain ⟨u, hplain, rfl⟩ := hdue.after.exists_instant hreached
      apply nextBoundary_error hlt he u ⟨hplain, hdue.aligned⟩
      exact (Instant.before_position hplain).mp hdue.after
  · rintro (hoffset | ⟨due, hdue, hbeyond⟩)
    · unfold nextBoundary
      rw [if_pos hoffset]
      split <;> exact ⟨_, rfl⟩
    · cases hnext : nextBoundary now offset with
      | error e => exact ⟨e, rfl⟩
      | ok t =>
        have hfirst := isFirstAfter_of_nextBoundary hnext
        have hafter := hbeyond t
        rw [← hfirst.position_eq hdue, Instant.before_position hfirst.boundary.1] at hafter
        exact absurd hafter (lt_irrefl t)

/-! ## How far away the next boundary is -/

/-- What passes of the leap second of an instant until later on the same day. -/
def Instant.leapUntil (now t : Instant) : Int :=
  if second ≤ now.nanos ∧ now.secs % 86400 < t.secs % 86400 then second else 0

/-- The time that passes is what lies between the positions, and the leap second besides. -/
theorem Instant.since_eq (ht : t.Plain) :
    t.since now = t.position - now.position + now.leapUntil t := by
  have hplain : ¬ second ≤ t.nanos := Nat.not_le.mpr ht
  simp only [Instant.since, Instant.position, Instant.leapUntil, second] at *
  split_ifs <;> omega

namespace IsFirstAfter

/-- An hour before the next boundary, the present instant was not yet to come. -/
theorem not_before_hour (hoffset : offset < hour) (h : IsFirstAfter offset now t) :
    ¬ now.Before (t.position - hour) := by
  intro hbefore
  obtain ⟨due, hdue⟩ := exists_isDue now hoffset
  rw [h.position_eq hdue] at hbefore
  have haligned : (due - hour - offset) % hour = 0 := by
    have haligned' := hdue.aligned
    simp only [hour, second] at *
    omega
  have hle := hdue.least (due - hour) haligned hbefore
  simp only [hour, second] at hle
  omega

/-- A boundary has the parts of a second that its offset has. -/
theorem nanos_eq (h : IsFirstAfter offset now t) : t.nanos = offset % second := by
  obtain ⟨hplain, haligned⟩ := h.boundary
  simp only [Instant.position, Instant.Plain, hour, second] at *
  omega

/-- Even with a leap second, less than a second more than an hour passes to the next boundary. -/
theorem since_lt (hoffset : offset < hour) (h : IsFirstAfter offset now t) :
    t.since now < hour + second := by
  have hplain : t.Plain := h.boundary.1
  have hnot := h.not_before_hour hoffset
  rw [Instant.since_eq hplain]
  simp only [Instant.Before, Instant.position, Instant.Plain, Instant.leapUntil, hour,
    second] at *
  split_ifs <;> omega

/--
More than an hour passes just from within a leap second of which less has passed than the parts of a
second that the offset has, when the boundary is due a full hour after that second and the day has
not ended in between.
-/
theorem hour_lt_since_iff (hoffset : offset < hour) (h : IsFirstAfter offset now t) :
    hour < t.since now ↔
      second ≤ now.nanos ∧ now.nanos < offset % second + second ∧
        t.secs = now.secs + 3600 ∧ now.secs % 86400 < t.secs % 86400 := by
  have hplain : t.Plain := h.boundary.1
  have hnot := h.not_before_hour hoffset
  rw [Instant.since_eq hplain, ← h.nanos_eq]
  simp only [Instant.Before, Instant.position, Instant.Plain, Instant.leapUntil, hour,
    second] at *
  split_ifs <;> omega

end IsFirstAfter

/-! ## Offsets that are configured -/

namespace Settings

/-- Settings have an offset below an hour. -/
theorem offset_lt_of_ofEnvironment {env : Environment} {s : Settings}
    (h : ofEnvironment env = .ok s) : s.offset < 3600 := by
  unfold ofEnvironment at h
  simp only [bind, Except.bind, pure, Except.pure] at h
  split at h
  · cases h
  · next hbelow =>
    split at h
    · cases hlisten : listenAt? env with
      | error fault =>
        rw [hlisten] at h
        cases h
      | ok n =>
        rw [hlisten] at h
        obtain rfl := Except.ok.inj h
        exact Nat.not_le.mp hbelow
    · cases h

theorem scheduler_offset_lt {env : Environment} {s : Settings}
    (h : ofEnvironment env = .ok s) : s.scheduler.offset < hour :=
  Nat.mul_lt_mul_of_pos_right (offset_lt_of_ofEnvironment h) (by decide)

end Settings

/-- For an offset below an hour, only the end of the calendar keeps a next boundary from being. -/
theorem eq_overflow_of_error {e : BoundaryError} (hoffset : offset < hour)
    (h : nextBoundary now offset = .error e) : e = .overflow := by
  rw [nextBoundary_eq hoffset] at h
  split at h
  · exact (Except.error.inj h).symm
  · split at h
    · cases h
    · split at h
      · exact (Except.error.inj h).symm
      · cases h

/-! ## The next boundary, if the calendar has one -/

/--
Whatever the instant and the offset, there is no next boundary just when the offset is an hour or
more, or when the boundary is due after every instant. Otherwise it is the first boundary after the
instant. Its position is at most an hour further; more time than an hour passes until then only from
within a leap second, and never a second more. The offset of the settings that an environment gives
is never too long, and for such an offset the boundary is an hour away at most.
-/
theorem next_boundary_unless_calendar_ends (now : Instant) (offset : Span) :
    ((∃ e, nextBoundary now offset = .error e) ↔
      hour ≤ offset ∨ ∃ due, IsDue offset now due ∧ ∀ t : Instant, t.Before due) ∧
    (∀ t, nextBoundary now offset = .ok t →
      IsFirstAfter offset now t ∧ t.position ≤ now.position + hour ∧
        t.since now < hour + second ∧
        (hour < t.since now ↔
          second ≤ now.nanos ∧ now.nanos < offset % second + second ∧
            t.secs = now.secs + 3600 ∧ now.secs % 86400 < t.secs % 86400)) ∧
    ∀ env s, Settings.ofEnvironment env = .ok s →
      s.scheduler.offset < hour ∧
      (∀ e, nextBoundary now s.scheduler.offset = .error e → e = .overflow) ∧
      ∀ t, nextBoundary now s.scheduler.offset = .ok t → t.since now ≤ hour := by
  refine ⟨exists_error_iff now offset, ?_, ?_⟩
  · intro t ht
    have hoffset := offset_lt_hour_of_nextBoundary ht
    have hfirst := isFirstAfter_of_nextBoundary ht
    exact ⟨hfirst, hfirst.position_le, hfirst.since_lt hoffset, hfirst.hour_lt_since_iff hoffset⟩
  · intro env s henv
    have hoffset := Settings.scheduler_offset_lt henv
    refine ⟨hoffset, fun e => eq_overflow_of_error hoffset, ?_⟩
    intro t ht
    have hfirst := isFirstAfter_of_nextBoundary ht
    by_contra hfar
    -- the settings are in whole seconds, so that no leap second is over for less than that
    obtain ⟨hleap, hparts, -, -⟩ := (hfirst.hour_lt_since_iff hoffset).mp (Int.not_le.mp hfar)
    have hwhole : s.scheduler.offset % second = 0 := Nat.mul_mod_left s.offset second
    rw [hwhole, Nat.zero_add] at hparts
    exact absurd hleap (Nat.not_le.mpr hparts)

/-- With the standard settings, five past ten is next even from within the leap second at ten. -/
theorem next_boundary_in_leap_second :
    let now : Instant := ⟨1714557599, 1500000000, by decide, by decide, by decide, by decide⟩
    let five : Instant := ⟨1714557900, 0, by decide, by decide, by decide, by decide⟩
    let env : Environment := [("DATABASE_URL", "sqlite::memory:"), ("PORT", "8081")]
    ∃ s, Settings.ofEnvironment env = .ok s ∧ nextBoundary now s.scheduler.offset = .ok five ∧
      IsFirstAfter s.scheduler.offset now five ∧ s.scheduler.offset < hour ∧
      five.since now ≤ hour := by
  intro now five env
  have hoffset : (Settings.ofEnvironment env).toOption.map (·.offset) = some 300 := by
    decide +kernel
  cases henv : Settings.ofEnvironment env with
  | error e =>
    rw [henv] at hoffset
    cases hoffset
  | ok s =>
    have hseconds : s.offset = 300 := by
      rw [henv] at hoffset
      exact Option.some.inj hoffset
    have hnext : nextBoundary now s.scheduler.offset = .ok five := by
      show nextBoundary now (s.offset * second) = .ok five
      rw [hseconds]
      decide +kernel
    obtain ⟨-, hok, hsettings⟩ := next_boundary_unless_calendar_ends now s.scheduler.offset
    obtain ⟨hbelow, -, hnear⟩ := hsettings env s henv
    exact ⟨s, rfl, hnext, (hok five hnext).1, hbelow, hnear five hnext⟩

/--
From the beginning of the leap second at ten, the next boundary of an offset of a tenth of a second
less than an hour is more than an hour away, and later than the instant an hour after.
-/
theorem more_than_an_hour_from_leap_second :
    let now : Instant := ⟨1714557599, 1000000000, by decide, by decide, by decide, by decide⟩
    let next : Instant := ⟨1714561199, 900000000, by decide, by decide, by decide, by decide⟩
    let hourLater : Instant := ⟨1714561199, 0, by decide, by decide, by decide, by decide⟩
    nextBoundary now 3599900000000 = .ok next ∧ hour < next.since now ∧
      now.add? hour = some hourLater ∧ hourLater < next := by
  decide +kernel

end HourlySnapshots
