import HourlySnapshots.Proofs.Calendar.Boundary
import HourlySnapshots.Proofs.Scheduler.Loops

/-!
# The order of the hours

As long as the clock does not go back, the hours of the automatic cycles increase strictly, over all
the loops there ever were. Only one loop at a time has not been told to shut down; the boundary it
waits for is later than all hours collected before, since each of those was over at some reading of
the clock and the boundary was found after a later one.
-/

namespace HourlySnapshots

/-- The automatic cycles by id and hour, the latest first. -/
def cycleStarts (history : List Happening) : List (Nat × Instant) :=
  history.filterMap fun
    | .roundStarted round (.automatic _) time _ => some (round, time)
    | _ => none

@[simp] theorem cycleStarts_cons (h : Happening) (history : List Happening) :
    cycleStarts (h :: history) =
      match h with
      | .roundStarted round (.automatic _) time _ => (round, time) :: cycleStarts history
      | _ => cycleStarts history := by
  rcases h with - | - | - | - | - | - | - | ⟨_, _ | _ | _, _, _⟩ | - | - | - | - <;> rfl

/-- The hours of the automatic cycles, the latest first. -/
def cycleHours (history : List Happening) : List Instant :=
  history.filterMap fun
    | .roundStarted _ (.automatic _) time _ => some time
    | _ => none

/-- What the clock gave when it was read, the latest first. -/
def clockReadings (history : List Happening) : List Instant :=
  history.filterMap fun
    | .clockRead reading => reading
    | _ => none

@[simp] theorem cycleHours_cons (h : Happening) (history : List Happening) :
    cycleHours (h :: history) =
      match h with
      | .roundStarted _ (.automatic _) time _ => time :: cycleHours history
      | _ => cycleHours history := by
  rcases h with - | - | - | - | - | - | - | ⟨_, _ | _ | _, _, _⟩ | - | - | - | - <;> rfl

theorem cycleHours_eq (history : List Happening) :
    cycleHours history = (cycleStarts history).map Prod.snd := by
  induction history with
  | nil => rfl
  | cons h rest ih =>
    rw [cycleHours_cons, cycleStarts_cons]
    split <;> simp [ih]

@[simp] theorem clockReadings_cons (h : Happening) (history : List Happening) :
    clockReadings (h :: history) =
      match h with
      | .clockRead (some now) => now :: clockReadings history
      | _ => clockReadings history := by
  rcases h with - | ⟨_ | _⟩ | - | - | - | - | - | - | - | - | - | - <;> rfl

namespace Control

variable {c c' : Control}

/-- A loop that goes on waits for a boundary. -/
def WaitsFor (c : Control) (target : Instant) : Prop :=
  ∃ id l wake, c.loop? id = some l ∧ l.shutdown = false ∧ l.phase = .waiting target wake

/-- What keeps the hours in order. -/
structure Ordered (c : Control) : Prop where
  hours : (cycleHours c.history).Pairwise (· > ·)
  /-- Each hour collected belongs to a boundary that some reading has reached. -/
  reached : ∀ h ∈ cycleHours c.history, ∃ t, IsBoundary c.config.offset t ∧ t.truncateToHour = h ∧
    ∃ reading ∈ clockReadings c.history, t ≤ reading
  /-- The boundary that is waited for belongs to an hour later than all collected ones. -/
  ahead : ∀ target, c.WaitsFor target → c.config.offset < hour ∧ IsBoundary c.config.offset target ∧
    ∀ h ∈ cycleHours c.history, h < target.truncateToHour

theorem waitsFor_setPhase {id : Nat} {phase : LoopPhase} {target : Instant}
    (h : (c.setPhase id phase).WaitsFor target) :
    (∃ wake, phase = .waiting target wake) ∨ c.WaitsFor target := by
  obtain ⟨id', l, wake, hl, hrunning, hphase⟩ := h
  obtain ⟨l₀, hl₀, hshutdown, hl_phase⟩ := exists_of_loop?_setPhase hl
  rw [hshutdown] at hrunning
  split at hl_phase
  · exact .inl ⟨wake, hl_phase.symm.trans hphase⟩
  · exact .inr ⟨id', l₀, wake, hl₀, hrunning, hl_phase.symm.trans hphase⟩

theorem waitsFor_dismiss {loop : Nat} {target : Instant}
    (h : (c.dismiss loop).WaitsFor target) : c.WaitsFor target := by
  obtain ⟨id, l, wake, hl, hrunning, hphase⟩ := h
  obtain ⟨l₀, hl₀, hsame, hbefore⟩ := exists_of_loop?_dismiss hl
  exact ⟨id, l₀, wake, hl₀, hbefore hrunning, hsame ▸ hphase⟩

namespace Ordered

/-- Hours stay in order while no cycle starts and no other boundary is waited for. -/
theorem congr (h : Ordered c) (hconfig : c'.config = c.config)
    (hhours : cycleHours c'.history = cycleHours c.history)
    (hreadings : ∀ reading ∈ clockReadings c.history, reading ∈ clockReadings c'.history)
    (hwaits : ∀ target, c'.WaitsFor target → c.WaitsFor target) : Ordered c' where
  hours := hhours ▸ h.hours
  reached hour hmem := by
    rw [hhours] at hmem
    obtain ⟨t, ht, hsame, reading, hreading, hle⟩ := h.reached hour hmem
    exact ⟨t, hconfig ▸ ht, hsame, reading, hreadings reading hreading, hle⟩
  ahead target htarget := by
    rw [hconfig, hhours]
    exact h.ahead target (hwaits target htarget)

/-- A loop finds the first boundary after a reading that is not before any other. -/
theorem announce (h : Ordered c) {now target : Instant} (hreading : c.reading = some now)
    (hlatest : ∀ reading ∈ clockReadings c.history, reading ≤ now)
    (hnext : nextBoundary now c.config.offset = .ok target) (loop : Nat) (turn : Wake) :
    Ordered (c.read.announce loop turn target) := by
  have hoffset := offset_lt_hour_of_nextBoundary hnext
  obtain ⟨hboundary, hlt, -⟩ := nextBoundary_ok hoffset hnext
  constructor
  · simpa using h.hours
  · intro hour hmem
    simp only [announce_history, read_history, cycleHours_cons] at hmem
    obtain ⟨t, ht, hsame, reading, hmem', hle⟩ := h.reached hour hmem
    refine ⟨t, ht, hsame, reading, ?_, hle⟩
    simp [hreading, hmem']
  · intro target' htarget
    have hcases : (∃ wake, LoopPhase.waiting target turn = .waiting target' wake) ∨
        c.WaitsFor target' := waitsFor_setPhase (c := c) htarget
    rcases hcases with ⟨wake, hsame⟩ | hbefore
    · obtain ⟨rfl, -⟩ := LoopPhase.waiting.inj hsame
      refine ⟨hoffset, hboundary, fun hour hmem => ?_⟩
      simp only [announce_history, read_history, cycleHours_cons] at hmem
      -- a reading has reached the boundary of this hour, and this one is not before it
      obtain ⟨t, ht, rfl, reading, hmem', hle⟩ := h.reached hour hmem
      have hbefore : t < target := lt_of_le_of_lt (le_trans hle (hlatest reading hmem')) hlt
      exact (ht.lt_iff_truncateToHour hboundary hoffset).mp hbefore
    · simpa using h.ahead target' hbefore

/-- The one loop that goes on starts the cycle of the boundary it waited for. -/
theorem release (h : Ordered c) (hcoherent : c.Coherent) {l : Loop} {turn : Wake}
    {now target : Instant} (hl : c.loop? l.id = some l) (hphase : l.phase = .waiting target turn)
    (hrunning : l.shutdown = false) (hreading : c.reading = some now) (hdue : ¬ now < target) :
    Ordered ((c.read.setPhase l.id (.collecting c.nextId)).startRound (.automatic l.id)
      target.truncateToHour (some now)) := by
  obtain ⟨hoffset, hboundary, hahead⟩ := h.ahead target ⟨l.id, l, turn, hl, hrunning, hphase⟩
  constructor
  · simpa using ⟨hahead, h.hours⟩
  · intro hour hmem
    simp only [startRound_history, setPhase_history, read_history, cycleHours_cons,
      List.mem_cons] at hmem
    rcases hmem with rfl | hmem
    · refine ⟨target, hboundary, rfl, now, ?_, not_lt.mp hdue⟩
      simp [hreading]
    · obtain ⟨t, ht, hsame, reading, hmem', hle⟩ := h.reached hour hmem
      refine ⟨t, ht, hsame, reading, ?_, hle⟩
      simp [hreading, hmem']
  · -- no other loop goes on
    rintro target' ⟨id, l', wake, hl', hrunning', hphase'⟩
    have hl'' : (c.setPhase l.id (.collecting c.nextId)).loop? id = some l' := hl'
    obtain ⟨l₀, hl₀, hshutdown, hl_phase⟩ := exists_of_loop?_setPhase hl''
    rw [hshutdown] at hrunning'
    have hworker := hcoherent.worker_of_running hl hrunning
    have hid := (hcoherent.worker_iff id).mpr ⟨l₀, hl₀, hrunning'⟩
    rw [hworker, Option.some.injEq] at hid
    simp [hid, hphase'] at hl_phase

end Ordered

/-- A loop that backs off or ends waits for no boundary. -/
theorem ordered_backOff (h : Ordered c) (loop order : Nat) : Ordered (c.backOff loop order) := by
  refine backOff_cases (fun _ => ?_) (fun _ => ?_)
  · exact h.congr rfl (by simp) (by simp) fun target htarget =>
      (waitsFor_setPhase (c := c) htarget).resolve_left (by simp)
  · exact h.congr rfl rfl (fun _ hmem => hmem) fun target htarget =>
      (waitsFor_setPhase htarget).resolve_left (by simp)

/-- Every step keeps the hours in order while the clock does not go back. -/
theorem Step.ordered {cause : Cause} (step : Step c cause c') (hcoherent : c.Coherent)
    (hreadings : (clockReadings c'.history).Pairwise (· ≥ ·)) (h : Ordered c) : Ordered c' := by
  have hread : Ordered c.read := by
    refine h.congr rfl (by simp) (fun reading hmem => ?_) fun target htarget => htarget
    cases hreading : c.reading <;> simp [hreading, hmem]
  cases step with
  | idle => exact h
  | elapsed limit => exact h.congr rfl rfl (fun _ hmem => hmem) fun target htarget => htarget
  | clockSet clock => exact h.congr rfl rfl (fun _ hmem => hmem) fun target htarget => htarget
  | lost hl hphase hreading =>
    exact hread.congr rfl (by simp) (by simp) fun target htarget =>
      (waitsFor_setPhase (c := c) htarget).resolve_left (by simp)
  | found hl hphase hreading hnext =>
    have hlatest : ∀ reading ∈ clockReadings c.history, reading ≤ _ :=
      (by simpa [hreading] using hreadings : _ ∧ _).1
    exact h.announce hreading hlatest hnext _ _
  | unbounded order hl hphase hreading hnext => exact ordered_backOff hread _ order
  | @slept l turn now target order hl hphase hrunning hreading hearly =>
    refine hread.congr rfl (by simp) (by simp) fun target' htarget => ?_
    -- the loop sleeps again, for the boundary that it waited for before
    rcases waitsFor_setPhase (c := c) htarget with ⟨wake, hsame⟩ | hbefore
    · obtain ⟨rfl, -⟩ := LoopPhase.waiting.inj hsame
      exact ⟨l.id, l, turn, hl, hrunning, hphase⟩
    · exact hbefore
  | released hl hphase hrunning hreading hdue hsoon =>
    exact h.release hcoherent hl hphase hrunning hreading hdue
  | missed hl hphase hrunning hreading hdue hlate hnext =>
    have hlatest : ∀ reading ∈ clockReadings c.history, reading ≤ _ :=
      (by simpa [hreading] using hreadings : _ ∧ _).1
    exact h.announce hreading hlatest hnext _ _
  | missedLast order hl hphase hrunning hreading hdue hlate hnext =>
    exact ordered_backOff hread _ order
  | closed hl hphase htold =>
    exact h.congr rfl (by simp) (by simp) fun target htarget =>
      (waitsFor_setPhase (c := c) htarget).resolve_left (by simp)
  | resumed hl hphase hrunning =>
    exact h.congr rfl (by simp) (by simp) fun target htarget =>
      (waitsFor_setPhase (c := c) htarget).resolve_left (by simp)
  | triggered time => exact h.congr rfl (by simp) (by simp) fun target htarget => htarget
  | triggeredNow hreading => exact hread.congr rfl (by simp) (by simp) fun target htarget => htarget
  | triggerLost hreading => exact hread
  | allRun time => exact h.congr rfl (by simp) (by simp) fun target htarget => htarget
  | directEnded results hr hpurpose =>
    exact h.congr rfl (by simp) (by simp) fun target htarget => htarget
  | manualEnded results hr hpurpose =>
    exact hread.congr rfl (by simp) (by simp) fun target htarget => htarget
  | automaticEnded results order hr hpurpose hreading =>
    exact hread.congr rfl (by simp) (by simp) fun target htarget =>
      (waitsFor_setPhase (c := c) htarget).resolve_left (by simp)
  | automaticAborted results order hr hpurpose hreading =>
    refine ordered_backOff ?_ _ order
    exact hread.congr rfl (by simp) (by simp) fun target htarget => htarget
  | started order hworker hstate =>
    refine h.congr rfl (by simp) (by simp) ?_
    rintro target ⟨id, l, wake, hl, hrunning, hphase⟩
    rw [hcoherent.loop?_start] at hl
    -- the new loop has yet to look for its boundary
    split at hl
    · obtain rfl := Option.some.inj hl
      cases hphase
    · exact ⟨id, l, wake, hl, hrunning, hphase⟩
  | startFailed hworker hstate =>
    exact h.congr rfl (by simp) (by simp) fun target htarget => htarget
  | dismissed hworker hstate hawake =>
    exact h.congr rfl (by simp) (by simp) fun target => waitsFor_dismiss
  | @stoppedAsleep l hworker hstate hl hphase =>
    refine h.congr rfl (by simp) (by simp) fun target htarget => ?_
    have hbefore : (c.dismiss l.id).WaitsFor target :=
      (waitsFor_setPhase (c := c.dismiss l.id) htarget).resolve_left (by simp)
    exact waitsFor_dismiss hbefore
  | stopFinished hstate =>
    exact h.congr rfl (by simp) (by simp) fun target htarget => htarget

end Control

namespace Machine

variable {σ : Type}

/-- The hours of the automatic cycles, in the order in which the cycles started. -/
def automaticHours (m : Machine σ) : List Instant := (cycleHours m.history).reverse

/-- What the clock gave each time it could be read, in that order. -/
def instantsRead (m : Machine σ) : List Instant := (clockReadings m.history).reverse

theorem cycleStarts_control (m : Machine σ) :
    cycleStarts m.control.history = cycleStarts m.history :=
  filterMap_apart_from_calls (fun h => by cases h <;> simp [Happening.isCall]) m.history

theorem automaticHours_eq (m : Machine σ) :
    m.automaticHours = (cycleHours m.control.history).reverse :=
  congrArg List.reverse (filterMap_apart_from_calls
    (fun h => by cases h <;> simp [Happening.isCall]) m.history).symm

theorem instantsRead_eq (m : Machine σ) :
    m.instantsRead = (clockReadings m.control.history).reverse :=
  congrArg List.reverse (filterMap_apart_from_calls
    (fun h => by cases h <;> simp [Happening.isCall]) m.history).symm

/-- While the clock does not go back, every run keeps the hours in order. -/
theorem ordered_control {m : Machine σ} (hm : m.Reachable)
    (hreadings : (clockReadings m.control.history).Pairwise (· ≥ ·)) : m.control.Ordered := by
  refine hm.induction (P := fun m =>
    (clockReadings m.control.history).Pairwise (· ≥ ·) → m.control.Ordered)
    (fun config fanOut factory clock world _ => ?_)
    (fun {m move} hm hordered hreadings' => ?_) hreadings
  · constructor
    · exact List.Pairwise.nil
    · intro h hmem
      cases hmem
    · rintro target ⟨id, l, wake, hl, -, -⟩
      cases hl
  · have step := hm.step move
    -- the readings before a step are among those after it
    have hbefore : (clockReadings m.control.history).Pairwise (· ≥ ·) :=
      hreadings'.sublist (step.history.sublist.filterMap _)
    exact step.ordered hm.coherent hreadings' (hordered hbefore)

/--
Whatever is started, stopped, triggered and waited for: while no reading of the clock is before an
earlier one, the hours of the automatic cycles increase strictly.
-/
theorem automaticHours_increasing {m : Machine σ} (hm : m.Reachable)
    (hclock : m.instantsRead.Pairwise (· ≤ ·)) : m.automaticHours.Pairwise (· < ·) := by
  rw [instantsRead_eq, List.pairwise_reverse] at hclock
  rw [automaticHours_eq, List.pairwise_reverse]
  exact (ordered_control hm hclock).hours

/--
The hour of ten is collected by a loop that is stopped and left behind in its cycle, and the hour of
eleven by the next loop, after the clock has jumped ahead.
-/
theorem automaticHours_increasing_over_restart :
    let slow : Registered Unit := ⟨⟨"slow", "", ""⟩, fun _ => 10000, fun _ w => (some true, w)⟩
    let start : Instant := ⟨1719828299, 0, by decide, by decide, by decide, by decide⟩
    let m := (init .default .sequential (fun w => (.ok [slow], w))
      (fun now _ => start.add? (now * millisecond)) ()).afterAll
        [.start, .work (.loop 0), .work (.loop 0), .elapse 1000, .work (.loop 0), .requestStop,
          .finishStop, .start, .work (.loop 2), .work (.loop 2),
          .setClock fun now _ => start.add? (now * millisecond + hour), .work (.loop 2)]
    m.automaticHours.map Instant.secs = [1719828000, 1719831600] ∧
      m.automaticHours.Pairwise (· < ·) := by
  intro slow start m
  have hm : m.Reachable := ⟨_, _, _, _, _, _, rfl⟩
  exact ⟨by decide +kernel, automaticHours_increasing hm (by decide +kernel)⟩

end Machine

end HourlySnapshots
