import HourlySnapshots.Proofs.Scheduler.LeftAlone
import HourlySnapshots.Proofs.Scheduler.Ledger

/-!
# The cycle that the statistics tell of

A cycle that is over is counted first, and then the clock is read for the rest of what is noted of
it. Where the reading breaks off, the rest stays as it was, and tells of an earlier cycle or of
none. So the statistics are whole exactly when the last cycle that is over has found a clock that
could be read.
-/

namespace HourlySnapshots

/-- The last cycle that is over and has found a clock that could be read, and what it read. -/
def lastNoted (history : List Happening) : Option (Nat × Instant) :=
  (cyclesEnded history).findSome? fun (id, reading) => reading.map fun now => (id, now)

namespace RunStats

variable {s s' : RunStats}

/-- All that the statistics tell of the last cycle: when it was over, what time it was for, whether
all its calls ended well, and how each of them ended. -/
def last (s : RunStats) : Option Instant × Option Instant × Option Bool × CycleResults :=
  (s.lastRunAt, s.lastCollectionAt, s.lastRunSuccess, s.lastResults)

theorem last_of_past (h : s'.past = s.past) : s'.last = s.last := by
  obtain ⟨-, -, -, hrunAt, hcollectionAt, hsuccess, hresults, -⟩ := RunStats.mk.inj h
  simp only [last, hrunAt, hcollectionAt, hsuccess, hresults]

end RunStats

namespace Machine

variable {σ : Type} {m : Machine σ}

/-- The statistics tell of a cycle that is over, and that was counted at a reading of the clock. -/
structure TellsOf (m : Machine σ) (id : Nat) (now : Instant) : Prop where
  counted : (id, some now) ∈ cyclesEnded m.history
  last : ∃ time, Begun m.history id time ∧
    m.stats.last =
      (some now, some time, some (allWell m.history id), resultsOf (entriesOf id m.history))

/-- The statistics are never half of one cycle and half of another. -/
structure Whole (m : Machine σ) : Prop where
  blank_iff : m.stats.totalRuns = 0 ↔ m.stats.lastRunAt = none ∧
    m.stats.lastCollectionAt = none ∧ m.stats.lastRunSuccess = none
  /-- What they tell is of the cycle that was counted last. -/
  latest : ∀ cycle ∈ (cyclesEnded m.history).head?, ∃ now, m.TellsOf cycle.1 now

/-! ## What a move makes of the last cycle -/

theorem begun_control (m : Machine σ) (id : Nat) (time : Instant) :
    Begun m.control.history id time ↔ Begun m.history id time := by
  simp [Begun, control, Happening.isCall]

theorem begun_fans (m : Machine σ) (id : Nat) (time : Instant) :
    Begun m.fans.history id time ↔ Begun m.history id time := by
  simp [Begun, fans, Happening.isFanned]

/-- A fan-out has begun for good. -/
theorem Reachable.begun_after (hm : m.Reachable) {id : Nat} {time : Instant}
    (h : Begun m.history id time) (move : Move σ) : Begun (m.after move).history id time := by
  rw [← begun_control] at h ⊢
  obtain ⟨purpose, released, hmem⟩ := h
  exact ⟨purpose, released, (hm.step move).history.subset hmem⟩

/-- What is told of a cycle stays true of it until something else is told. -/
theorem TellsOf.after {id : Nat} {now : Instant} (h : m.TellsOf id now) (hm : m.Reachable)
    (move : Move σ)
    (hended : ∀ cycle ∈ cyclesEnded m.history, cycle ∈ cyclesEnded (m.after move).history)
    (hlast : (m.after move).stats.last = m.stats.last) : (m.after move).TellsOf id now where
  counted := hended _ h.counted
  last := by
    obtain ⟨time, hbegun, htold⟩ := h.last
    refine ⟨time, hm.begun_after hbegun move, ?_⟩
    rw [hlast, htold, allWell, allWell, hm.entries_after (List.mem_map_of_mem h.counted) move]

/-- A cycle that is over is told of as soon as the clock has been read. -/
theorem Reachable.tellsOf_over (hm : m.Reachable) {r : Round σ} (hr : r ∈ m.rounds)
    (hpurpose : r.purpose ≠ .direct) {move : Move σ}
    (hover : m.after move = m.finish { r with turn := none }) {now : Instant}
    (hreading : m.control.reading = some now) : (m.after move).TellsOf r.id now := by
  obtain ⟨hstats, hended⟩ := hm.finish_cycle hr hpurpose
  rw [← hover, hreading] at hstats hended
  refine ⟨hended ▸ List.mem_cons_self, r.time, ?_, ?_⟩
  · exact hm.begun_after ((begun_fans m _ _).mp (hm.served.rounds_begun r hr)) move
  · rw [RunStats.last_of_past hstats, allWell, hover, hm.entries_finish hr, ← all_resultsOf]
    rfl

/-- The statistics tell of the last cycle that could be noted, if there is one. -/
theorem Reachable.last_noted (hm : m.Reachable) :
    (lastNoted m.history = none → m.stats.last = (none, none, none, [])) ∧
      ∀ id now, lastNoted m.history = some (id, now) → m.TellsOf id now := by
  refine hm.induction (P := fun m =>
    (lastNoted m.history = none → m.stats.last = (none, none, none, [])) ∧
      ∀ id now, lastNoted m.history = some (id, now) → m.TellsOf id now)
    (fun config fanOut factory clock world => ⟨fun _ => rfl, fun id now h => nomatch h⟩)
    fun {m move} hm ⟨hnone, hsome⟩ => ?_
  have hsame (hnoted : lastNoted (m.after move).history = lastNoted m.history)
      (hended : ∀ cycle ∈ cyclesEnded m.history, cycle ∈ cyclesEnded (m.after move).history)
      (hlast : (m.after move).stats.last = m.stats.last) :
      (lastNoted (m.after move).history = none →
          (m.after move).stats.last = (none, none, none, [])) ∧
        ∀ id now, lastNoted (m.after move).history = some (id, now) →
          (m.after move).TellsOf id now := by
    rw [hnoted]
    exact ⟨fun h => hlast.trans (hnone h),
      fun id now h => (hsome id now h).after hm move hended hlast⟩
  rcases hm.booked_after move with ⟨hended, hstats⟩ | ⟨r, hr, hpurpose, hover⟩
  · exact hsame (by rw [lastNoted, hended, lastNoted]) (fun _ => hended ▸ id)
      (RunStats.last_of_past hstats)
  · obtain ⟨hstats, hended⟩ := hm.finish_cycle hr hpurpose
    rw [← hover] at hstats hended
    cases hreading : m.control.reading with
    | none =>
      -- the cycle is counted, and nothing else is noted of it
      rw [hreading] at hstats hended
      exact hsame (by rw [lastNoted, hended]; rfl) (fun _ => hended ▸ List.mem_cons_of_mem _)
        (.trans (RunStats.last_of_past hstats) rfl)
    | some reading =>
      have hnoted : lastNoted (m.after move).history = some (r.id, reading) := by
        rw [lastNoted, hended, hreading]
        rfl
      rw [hnoted]
      refine ⟨fun h => (nomatch h), fun id now h => ?_⟩
      cases h
      exact hm.tellsOf_over hr hpurpose hover hreading

/-! ## Whole statistics -/

/-- The statistics are whole exactly when the last cycle could be noted. -/
theorem Reachable.whole_iff (hm : m.Reachable) :
    m.Whole ↔ ∀ cycle ∈ (cyclesEnded m.history).head?, cycle.2 ≠ none := by
  have htotal : m.stats.totalRuns = (cyclesEnded m.history).length := by
    rw [← cyclesEnded_control]
    exact hm.balanced.total
  constructor
  · rintro hwhole ⟨id, reading⟩ hlatest rfl
    obtain ⟨now, htells⟩ := hwhole.latest _ hlatest
    -- no cycle is over twice
    have honce : ((cyclesEnded m.history).map Prod.fst).Nodup := by
      have hsplit := hm.balanced.accounted.nodup_iff.mp hm.balanced.started_once
      rw [cyclesEnded_control] at hsplit
      exact (List.nodup_append.mp hsplit).1
    have heq := List.inj_on_of_nodup_map honce htells.counted (List.mem_of_mem_head? hlatest) rfl
    exact nomatch (Prod.mk.inj heq).2
  · intro hlatest
    obtain ⟨hblank, htells⟩ := hm.last_noted
    cases hended : cyclesEnded m.history with
    | nil =>
      have hlast := hblank (by rw [lastNoted, hended]; rfl)
      rw [hended] at htotal
      obtain ⟨hrunAt, hrest⟩ := Prod.mk.inj hlast
      obtain ⟨hcollectionAt, hrest⟩ := Prod.mk.inj hrest
      refine ⟨?_, by simp [hended]⟩
      simp [htotal, hrunAt, hcollectionAt, (Prod.mk.inj hrest).1]
    | cons cycle older =>
      obtain ⟨id, reading⟩ := cycle
      rw [hended] at htotal hlatest
      obtain ⟨now, rfl⟩ := Option.ne_none_iff_exists'.mp (hlatest _ rfl)
      have htold := htells id now (by rw [lastNoted, hended]; rfl)
      refine ⟨?_, fun cycle hcycle => ?_⟩
      · obtain ⟨time, -, hlast⟩ := htold.last
        simp [htotal, (Prod.mk.inj hlast).1]
      · rw [hended, List.head?_cons, Option.mem_some_iff] at hcycle
        exact ⟨now, hcycle ▸ htold⟩

/--
In every state that any run leads to: what the statistics tell of the last cycle is blank if no
cycle has been over while the clock could be read, and else is all of the last cycle for which it
could. They are whole just when that is the cycle counted last, or none has been counted.
-/
theorem last_cycle_told (hm : m.Reachable) :
    (lastNoted m.history = none → m.stats.last = (none, none, none, [])) ∧
      (∀ id now, lastNoted m.history = some (id, now) → m.TellsOf id now) ∧
      m.stats.totalRuns = (cyclesEnded m.history).length ∧
      (m.Whole ↔ ∀ cycle ∈ (cyclesEnded m.history).head?, cycle.2 ≠ none) := by
  refine ⟨hm.last_noted.1, hm.last_noted.2, ?_, hm.whole_iff⟩
  rw [← cyclesEnded_control]
  exact hm.balanced.total

/-- The clock breaks off on the second of two cycles; the statistics go on telling of the first. -/
theorem last_cycle_told_of_first :
    let quick : Registered Unit := ⟨⟨"quick", "", ""⟩, fun _ => 0, fun _ w => (some true, w)⟩
    let ten : Instant := ⟨1719828000, 0, by decide, by decide, by decide, by decide⟩
    let eleven : Instant := ⟨1719831600, 0, by decide, by decide, by decide, by decide⟩
    let m := (init .default .sequential (fun w => (.ok [quick], w))
        (fun _ reading => if reading = 0 then some eleven else none) ()).afterAll
      [.trigger (some ten), .work (.turn 0), .work (.call 0 1), .work (.turn 0),
        .trigger (some eleven), .work (.turn 1), .work (.call 1 4), .work (.turn 1)]
    m.stats.totalRuns = 2 ∧ m.TellsOf 0 eleven ∧ ¬ m.Whole := by
  intro quick ten eleven m
  have hm : m.Reachable := ⟨_, _, _, _, _, _, rfl⟩
  obtain ⟨-, htells, htotal, hwhole⟩ := last_cycle_told hm
  refine ⟨htotal.trans (by decide +kernel), htells 0 eleven (by decide +kernel), ?_⟩
  rw [hwhole]
  decide +kernel

/--
A clock that breaks off when the first cycle has been counted: its caller is told that the cycle
was aborted, one run is counted, and nothing is told of it.
-/
theorem counted_but_not_told :
    let quick : Registered Unit := ⟨⟨"quick", "", ""⟩, fun _ => 0, fun _ w => (some true, w)⟩
    let ten : Instant := ⟨1719828000, 0, by decide, by decide, by decide, by decide⟩
    let m := init .default .sequential (fun w => (.ok [quick], w))
      (fun _ reading => if reading = 0 then none else some ten) ()
    (m.runCycle (some ten)).1 = .error .cycleAborted ∧
      (m.runCycle (some ten)).2.stats =
        { RunStats.empty with totalRuns := 1, successfulRuns := 1 } ∧
      ¬ (m.runCycle (some ten)).2.Whole := by
  intro quick ten m
  have hanswer : (m.runCycle (some ten)).1 = .error .cycleAborted := by decide +kernel
  have hstats : (m.runCycle (some ten)).2.stats =
      { RunStats.empty with totalRuns := 1, successfulRuns := 1 } := by decide +kernel
  refine ⟨hanswer, hstats, fun hwhole => ?_⟩
  have hblank := hwhole.blank_iff
  rw [hstats] at hblank
  exact absurd hblank (by decide)

end Machine

end HourlySnapshots
