import HourlySnapshots.Proofs.Calendar.Boundary

/-!
# A clock that keeps step

What a clock shows that has gone on evenly from an instant. Only a clock that was started in a leap
second shows instants of one; it shows them in order, and then goes on from the second after.
-/

namespace HourlySnapshots

namespace Instant

variable {t e boundary : Instant} {span : Nat}

/-- The nanoseconds from 1970 to an instant, where a leap second repeats the second before it. -/
def civil (t : Instant) : Int := t.secs * second + (t.nanos % second : Nat)

theorem civil_of_plain (h : t.Plain) : t.civil = t.position := by
  unfold Plain at h
  rw [civil, position, Nat.mod_eq_of_lt h]

/-- A later instant in no leap second lies further from 1970. -/
theorem civil_lt_of_lt (hboundary : boundary.Plain) (h : t < boundary) :
    t.civil < boundary.position := by
  have hnanos := t.nanos_lt
  rw [lt_def] at h
  simp only [civil, position, Plain, second] at *
  omega

/-- In a leap second, a span leads to a later second once it fills the leap second up. -/
theorem add?_leap (hleap : second ≤ t.nanos) (span : Nat) :
    t.add? span =
      if 2 * second ≤ t.nanos + span then ofNanos? (t.civil + span)
      else ofParts? t.secs (t.nanos + span) := by
  have hnanos := t.nanos_lt
  have hwhole : (span : Int).tdiv second = (span / second : Nat) :=
    Int.tdiv_eq_ediv_of_nonneg (Int.natCast_nonneg span)
  have hpart : (span : Int).tmod second = (span % second : Nat) :=
    Int.tmod_eq_emod_of_nonneg (Int.natCast_nonneg span)
  have hcivil : t.secs * second + (t.nanos - second : Nat) = t.civil := by
    simp only [civil, second] at *
    omega
  simp only [add?, if_neg (Nat.not_lt.mpr hleap), hwhole, hpart, hcivil]
  -- the whole seconds and the rest of the span are added apart
  by_cases hleaves : 2 * second ≤ t.nanos + span
  · rw [if_pos hleaves, if_pos]
    simp only [second] at *
    omega
  · rw [if_neg hleaves, if_neg, if_neg (Int.not_lt.mpr (Int.natCast_nonneg _))]
    · refine congrArg (ofParts? t.secs) ?_
      simp only [second] at *
      omega
    · simp only [second] at *
      omega

/-- Some time after an instant, a clock is in no leap second, or still in the one it was in. -/
theorem add?_span (h : t.add? span = some e) :
    (e.Plain ∧ e.position = t.civil + span ∧ (t.Plain ∨ t.secs < e.secs)) ∨
      (second ≤ t.nanos ∧ e.secs = t.secs ∧ e.nanos = t.nanos + span) := by
  have hnanos := t.nanos_lt
  by_cases hplain : t.Plain
  · rw [add?_of_plain hplain, ofNanos?_eq_some] at h
    exact .inl ⟨h.1, by rw [civil_of_plain hplain]; exact h.2, .inl hplain⟩
  · have hleap : second ≤ t.nanos := Nat.not_lt.mp hplain
    rw [add?_leap hleap] at h
    split at h
    · next hleaves =>
      obtain ⟨hplain', hposition⟩ := ofNanos?_eq_some.mp h
      refine .inl ⟨hplain', hposition, .inr ?_⟩
      simp only [civil, position, Plain, second] at *
      omega
    · unfold ofParts? at h
      split at h
      · obtain rfl := Option.some.inj h
        exact .inr ⟨hleap, rfl, rfl⟩
      · cases h

/-- A clock that can be read at some time could be read before. -/
theorem exists_add?_of_le {earlier : Nat} (h : t.add? span = some e) (hle : earlier ≤ span) :
    ∃ e', t.add? earlier = some e' := by
  have hsecs : t.secs * second ≤ t.civil + earlier := by
    simp only [civil]
    omega
  have hbetween (hplain : e.Plain) (hposition : e.position = t.civil + span) :
      ∃ e', ofNanos? (t.civil + earlier) = some e' :=
    ofNanos?_between hsecs hplain (by rw [hposition]; omega)
  by_cases hplain : t.Plain
  · rw [add?_of_plain hplain, ofNanos?_eq_some, ← civil_of_plain hplain] at h
    rw [add?_of_plain hplain, ← civil_of_plain hplain]
    exact hbetween h.1 h.2
  · have hleap : second ≤ t.nanos := Nat.not_lt.mp hplain
    rw [add?_leap hleap]
    split
    · next hleaves =>
      rw [add?_leap hleap, if_pos (by omega)] at h
      obtain ⟨hplain', hposition⟩ := ofNanos?_eq_some.mp h
      exact hbetween hplain' hposition
    · next hstays =>
      -- within the leap second itself, every instant exists
      have hge := t.secs_ge
      have hle := t.secs_le
      have hminute := t.leap_at_minute hleap
      exact ⟨_, dif_pos ⟨hge, hle, Nat.not_le.mp hstays, fun _ => hminute⟩⟩

/-- A clock that keeps step does not go back. -/
theorem le_of_add? (h : t.add? span = some e) : t ≤ e := by
  rw [le_def]
  rcases add?_span h with ⟨hplain, hposition, hbefore⟩ | ⟨-, hsecs, hnanos⟩
  · simp only [civil, position, Plain, second] at *
    omega
  · omega

/-- A clock has not reached a later boundary as long as not enough time has passed. -/
theorem lt_boundary_iff (h : t.add? span = some e) (hboundary : boundary.Plain)
    (hlater : t < boundary) : e < boundary ↔ t.civil + span < boundary.position := by
  have hnanos := t.nanos_lt
  have hnanos' := e.nanos_lt
  rw [lt_def] at hlater ⊢
  rcases add?_span h with ⟨hplain, hposition, -⟩ | ⟨hleap, hsecs, hsame⟩
  · rw [← hposition]
    simp only [position, Plain, second] at *
    omega
  · simp only [civil, position, Plain, second] at *
    omega

/-- Before a boundary, a clock does not overstate the time that is left. -/
theorem since_le (h : t.add? span = some e) (hboundary : boundary.Plain) :
    boundary.since e ≤ boundary.position - (t.civil + span) := by
  have hnanos := t.nanos_lt
  rcases add?_span h with ⟨hplain, hposition, -⟩ | ⟨hleap, hsecs, hsame⟩
  · rw [← hposition]
    simp only [since, position, Plain, second] at *
    split_ifs <;> omega
  · simp only [since, civil, position, Plain, second] at *
    split_ifs <;> omega

/-- From a boundary on, a clock tells how long the boundary is over. -/
theorem since_boundary (h : t.add? span = some e) (hboundary : boundary.Plain)
    (hlater : t < boundary) (hover : ¬ e < boundary) :
    e.since boundary = t.civil + span - boundary.position := by
  rw [lt_def] at hlater hover
  rcases add?_span h with ⟨hplain, hposition, -⟩ | ⟨hleap, hsecs, hsame⟩
  · rw [← hposition]
    simp only [since, position, Plain, second] at *
    split_ifs <;> omega
  · simp only [Plain, second] at *
    omega

end Instant

end HourlySnapshots
