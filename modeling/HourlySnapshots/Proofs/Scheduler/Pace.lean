import HourlySnapshots.Proofs.Calendar.Boundary
import HourlySnapshots.Proofs.Scheduler.Calls
import HourlySnapshots.Proofs.Scheduler.Driving

/-!
# Time goes on

As long as the clock can be read, sleeps and back-offs last some time, and what is due at one
millisecond is worked off in finitely many steps: no loop turns on the spot. Each step makes what is
left for this millisecond less, which is what is left of the fan-outs and a rank for each loop.
-/

namespace HourlySnapshots

/--
What a loop can still do at a millisecond, while the clock shows an instant: the cycle of a boundary
that is reached counts with all its calls.
-/
def Loop.rank (now : Nat) (reading : Instant) (collectors : Nat) (l : Loop) : Nat :=
  match l.phase with
  | .beginning _ | .collecting _ => 2
  | .waiting target wake =>
    if now < wake.due then 0 else if reading < target then 1 else 3 * collectors + 4
  | .backingOff wake => if now < wake.due then 0 else 3
  | .ended => 0

/-- The ranks of some loops when one of them has moved on. -/
theorem sum_rank_setPhase {loops : List Loop} (hids : (loops.map Loop.id).Nodup) {l : Loop}
    (hl : l ∈ loops) (phase : LoopPhase) (rank : Loop → Nat) :
    ((loops.map fun l' => if l'.id = l.id then { l' with phase := phase } else l').map rank).sum +
      rank l = (loops.map rank).sum + rank { l with phase := phase } := by
  induction loops with
  | nil => cases hl
  | cons first rest ih =>
    rw [List.map_cons, List.nodup_cons] at hids
    simp only [List.map_cons, List.sum_cons]
    rcases List.mem_cons.mp hl with rfl | hrest
    · -- the others have other ids
      have hothers : ∀ l' ∈ rest,
          (if l'.id = l.id then { l' with phase := phase } else l') = l' :=
        fun l' hl' => if_neg fun (hid : l'.id = l.id) => hids.1 (hid ▸ List.mem_map_of_mem hl')
      rw [List.map_congr_left hothers, List.map_id', if_pos rfl]
      omega
    · have hne : first.id ≠ l.id := fun hid => hids.1 (hid ▸ List.mem_map_of_mem hrest)
      have hsum := ih hids.2 hrest
      rw [if_neg hne]
      omega

namespace Machine

variable {σ : Type} {m : Machine σ}

/-- At the present millisecond the clock always shows the same instant, and waits last. -/
structure Paced (m : Machine σ) (reading : Instant) : Prop where
  clock : ∀ k, m.clock m.now k = some reading
  plain : reading.Plain
  slice : 0 < m.config.maxSleepSlice
  backoff : 0 < m.config.retryBackoff

/-- How much is left to do at the present millisecond. -/
def left (m : Machine σ) (reading : Instant) : Nat :=
  m.fans.left + (m.loops.map (Loop.rank m.now reading m.registry.length)).sum

/-! ## What loops do -/

/-- Reading the clock leaves as much to do as before. -/
theorem Paced.readClock {reading : Instant} (hm : m.Paced reading) :
    ∃ next : Machine σ, m.readClock = (some reading, next) ∧ next.loops = m.loops ∧
      next.now = m.now ∧ next.config = m.config ∧ next.registry = m.registry ∧
      next.left reading = m.left reading :=
  ⟨m.readClock.2, Prod.ext (hm.clock _) rfl, rfl, rfl, rfl, rfl,
    congrArg (· + _) (congrArg Fans.left (fans_readClock m))⟩

/-- A fan-out that goes on does not touch the loops, unless it ends. -/
theorem control_fanned (hm : m.Reachable) {job : Job} (hjob : job.isFanned = true)
    (hpending : m.pending job = true) :
    (m.work job).control = m.control ∨
      ∃ r ∈ m.rounds, m.work job = m.finish { r with turn := none } := by
  obtain ⟨wake, hwait⟩ := pending_iff.mp hpending
  have hids := hm.wellFormed.ids
  cases job with
  | loop id => cases hjob
  | turn round =>
    obtain ⟨r, hr, -, rfl⟩ := mem_waits_turn.mp hwait
    rw [work_turn]
    by_cases hmore : (m.fans.turned m.now r).atWork = []
    · obtain ⟨hqueued, hnone⟩ := Fans.turned_atWork_eq_nil.mp hmore
      exact .inr ⟨r, hr, takeTurn_over m hids hr hqueued hnone⟩
    · exact .inl (takeTurn_more m hids hr hmore).2
  | call round order =>
    rw [work_call]
    exact .inl (control_resume m hm.coherent.round_ids round order)

/-- A fan-out that ends sends the loop of its cycle, if there is one, to its next boundary. -/
theorem loops_finish {reading : Instant} (hclock : m.clock m.now m.readings = some reading)
    (r : Round σ) :
    (m.finish r).loops = m.loops ∨ ∃ loop, r.purpose = .automatic loop ∧
      (m.finish r).loops = (m.setPhase loop (.beginning ⟨m.now, false, m.nextOrder⟩)).loops := by
  have hread : m.control.reading = some reading := hclock
  have hloops := congrArg Control.loops (control_finish m r)
  unfold Control.finish at hloops
  cases hpurpose : r.info.purpose with
  | direct =>
    rw [hpurpose] at hloops
    exact .inl hloops
  | manual =>
    rw [hpurpose] at hloops
    exact .inl hloops
  | automatic loop =>
    simp only [hpurpose, hread] at hloops
    exact .inr ⟨loop, hpurpose, hloops⟩

/-- A fan-out that goes on leaves the loops alone, or its loop may look for its next boundary. -/
theorem loops_fanned {job : Job} {reading : Instant} (hm : m.Reachable)
    (hclock : m.clock m.now m.readings = some reading) (hjob : job.isFanned = true)
    (hpending : m.pending job = true) :
    (m.work job).loops = m.loops ∨ ∃ l ∈ m.loops, ∃ cycle order, l.phase = .collecting cycle ∧
      (m.work job).loops = (m.setPhase l.id (.beginning ⟨m.now, false, order⟩)).loops := by
  rcases control_fanned hm hjob hpending with hsame | ⟨r, hr, hfinish⟩
  · exact .inl (congrArg Control.loops hsame)
  · rw [hfinish]
    rcases loops_finish hclock { r with turn := none } with hsame | ⟨loop, hpurpose, hmoved⟩
    · exact .inl hsame
    · obtain ⟨l, hl, hphase⟩ := (hm.coherent.collecting_iff loop r.id).mpr
        ⟨r.info, List.mem_map_of_mem hr, rfl, hpurpose⟩
      obtain rfl := Control.loop?_id hl
      exact .inr ⟨l, Control.mem_of_loop? hl, r.id, _, hphase, hmoved⟩

/-- What acts takes no time and changes neither the clock nor the settings. -/
theorem Paced.work {reading : Instant} (hpaced : m.Paced reading) (hm : m.Reachable) (job : Job) :
    (m.work job).Paced reading := by
  have step := step_work m hm.coherent.round_ids job
  have hclock : (m.work job).clock = m.clock := step.clock (by simp)
  have hnow : (m.work job).now = m.now := step.now (by simp)
  have hconfig : (m.work job).config = m.config := step.config
  exact ⟨by rw [hclock, hnow]; exact hpaced.clock, hpaced.plain, hconfig ▸ hpaced.slice,
    hconfig ▸ hpaced.backoff⟩

end Machine

end HourlySnapshots
