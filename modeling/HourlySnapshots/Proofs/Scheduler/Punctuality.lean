import HourlySnapshots.Proofs.Calendar.Boundary
import HourlySnapshots.Proofs.Scheduler.Ledger

/-!
# Cycles are punctual

Whatever the clock shows from one reading to the next, a loop waits for boundaries only, and starts
the cycle of a boundary at a reading that has reached it and is less than an hour late. So no hour
is collected before its boundary, nor an hour or more after it.
-/

namespace HourlySnapshots

/-- The cycle of an hour is due at a reading: its boundary is reached, and not for an hour yet. -/
structure Timely (offset : Span) (time now : Instant) : Prop where
  aligned : time.isHourAligned = true
  reached : ∃ t, time.add? offset = some t ∧ t ≤ now ∧ now.since t < hour

/-- Outside of leap seconds, a reading at which a cycle is due comes before the next boundary. -/
theorem Timely.lt_next {offset : Span} {time now next : Instant} (h : Timely offset time now)
    (hplain : now.Plain) (hnext : time.add? (offset + hour : Nat) = some next) : now < next := by
  obtain ⟨htime, -⟩ := Instant.isHourAligned_iff.mp h.aligned
  obtain ⟨t, ht, -, hsoon⟩ := h.reached
  rw [Instant.add?_of_plain htime, Instant.ofNanos?_eq_some] at ht hnext
  have hlater : next.position = t.position + hour := by
    rw [hnext.2, ht.2]
    omega
  have hbefore : now.since t = now.position - t.position := Instant.since_of_plain hplain ht.1
  rw [Instant.lt_iff_position hplain hnext.1]
  omega

namespace Control

variable {c c' : Control}

/-- Loops wait for boundaries, and their cycles have been started in time. -/
structure Punctual (c : Control) : Prop where
  targets : ∀ id l target wake, c.loop? id = some l → l.phase = .waiting target wake →
    c.config.offset < hour ∧ IsBoundary c.config.offset target
  /-- A cycle is released by the reading that was made last before. -/
  releases : ∀ id loop time released older,
    .roundStarted id (.automatic loop) time released :: older <:+ c.history →
      ∃ now, released = some now ∧ lastReading older = some now ∧ Timely c.config.offset time now

namespace Punctual

/-- Being punctual is a matter of the loops, the offset and the history. -/
theorem congr (h : Punctual c) (hloops : c'.loops = c.loops) (hconfig : c'.config = c.config)
    (hhistory : c'.history = c.history) : Punctual c' := by
  have hloop : ∀ id, c'.loop? id = c.loop? id := fun id => by rw [loop?, loop?, hloops]
  constructor
  · simp only [hloop, hconfig]
    exact h.targets
  · rw [hconfig, hhistory]
    exact h.releases

theorem note (h : Punctual c) {happening : Happening}
    (hnew : ∀ id loop time released, happening ≠ .roundStarted id (.automatic loop) time released) :
    Punctual (c.note happening) where
  targets := h.targets
  releases id loop time released older hsuffix := by
    rcases List.suffix_cons_iff.mp hsuffix with hsame | hbefore
    · exact absurd (List.cons.inj hsame).1.symm (hnew id loop time released)
    · exact h.releases id loop time released older hbefore

theorem read (h : Punctual c) : Punctual c.read := by
  have hcounted : Punctual { c with readings := c.readings + 1 } := h.congr rfl rfl rfl
  exact hcounted.note (by simp)

/-- A loop may do anything but wait for what is no boundary. -/
theorem setPhase (h : Punctual c) (loop : Nat) {phase : LoopPhase}
    (hphase : ∀ target wake, phase = .waiting target wake →
      c.config.offset < hour ∧ IsBoundary c.config.offset target) :
    Punctual (c.setPhase loop phase) where
  targets id l target wake hl hwaits := by
    obtain ⟨l₀, hl₀, -, hl_phase⟩ := exists_of_loop?_setPhase hl
    split at hl_phase
    · exact hphase target wake (hl_phase.symm.trans hwaits)
    · exact h.targets id l₀ target wake hl₀ (hl_phase.symm.trans hwaits)
  releases := h.releases

theorem endLoop (h : Punctual c) (loop : Nat) : Punctual (c.endLoop loop) :=
  (h.setPhase loop (by simp)).note (by simp)

theorem backOff (h : Punctual c) (loop order : Nat) : Punctual (c.backOff loop order) :=
  backOff_cases (fun _ => h.endLoop loop) (fun _ => h.setPhase loop (by simp))

/-- The boundary that a loop finds is one. -/
theorem announce (h : Punctual c) {now target : Instant}
    (hnext : nextBoundary now c.config.offset = .ok target) (loop : Nat) (turn : Wake) :
    Punctual (c.announce loop turn target) := by
  have hoffset := offset_lt_hour_of_nextBoundary hnext
  have hphase : ∀ target' wake, LoopPhase.waiting target turn = .waiting target' wake →
      c.config.offset < hour ∧ IsBoundary c.config.offset target' := by
    rintro target' wake ⟨rfl, -⟩
    exact ⟨hoffset, (nextBoundary_ok hoffset hnext).1⟩
  have hpublished : Punctual { c with stats := { c.stats with nextRunAt := some target } } :=
    h.congr rfl rfl rfl
  exact (hpublished.setPhase loop hphase).note (by simp)

/-- A loop that checks its boundary and has reached it, for less than an hour, is in time. -/
theorem release (h : Punctual c) {l : Loop} {turn : Wake} {now target : Instant}
    (hl : c.loop? l.id = some l) (hphase : l.phase = .waiting target turn)
    (hreading : c.reading = some now) (hdue : ¬ now < target) (hsoon : now.since target < hour) :
    Punctual ((c.read.setPhase l.id (.collecting c.nextId)).startRound (.automatic l.id)
      target.truncateToHour (some now)) where
  targets := (h.read.setPhase l.id (by simp)).targets
  releases id loop time released older hsuffix := by
    rcases List.suffix_cons_iff.mp hsuffix with hsame | hbefore
    · obtain ⟨hoffset, hboundary⟩ := h.targets l.id l target turn hl hphase
      obtain ⟨hnew, rfl⟩ := List.cons.inj hsame
      obtain ⟨-, -, rfl, rfl⟩ := Happening.roundStarted.inj hnew
      refine ⟨now, rfl, ?_, target.isHourAligned_truncateToHour, target,
        hboundary.truncateToHour_add? hoffset, not_lt.mp hdue, hsoon⟩
      simp [lastReading, hreading]
    · exact h.read.releases id loop time released older hbefore

theorem startRound (h : Punctual c) {purpose : Purpose}
    (hpurpose : ∀ loop, purpose ≠ .automatic loop) (time : Instant) (released : Option Instant) :
    Punctual (c.startRound purpose time released) := by
  have hbegun : Punctual { c with
      nextId := c.nextId + 1, rounds := c.rounds ++ [RoundInfo.mk c.nextId purpose time] } :=
    h.congr rfl rfl rfl
  refine hbegun.note fun id loop time' released' hsame => ?_
  exact hpurpose loop (Happening.roundStarted.inj hsame).2.1

theorem endRound (h : Punctual c) (r : RoundInfo) (results : Option CycleResults) :
    Punctual (c.endRound r results) := by
  have hover : Punctual { c with rounds := c.rounds.filter fun other => other.id ≠ r.id } :=
    h.congr rfl rfl rfl
  exact hover.note (by simp)

theorem count (h : Punctual c) (time : Instant) (results : CycleResults) :
    Punctual (c.count time results) :=
  h.read.congr rfl rfl rfl

theorem setState (h : Punctual c) (state : SchedulerState) : Punctual (c.setState state) := by
  have hset : Punctual { c with state := state } := h.congr rfl rfl rfl
  exact hset.note (by simp)

/-- A loop that is started has yet to look for its boundary. -/
theorem start (h : Punctual c) (hcoherent : c.Coherent) (order : Nat) :
    Punctual ((c.setState .starting).startLoop order) where
  targets id l target wake hl hphase := by
    rw [hcoherent.loop?_start] at hl
    split at hl
    · obtain rfl := Option.some.inj hl
      cases hphase
    · exact h.targets id l target wake hl hphase
  releases id loop time released older hsuffix := by
    have hbefore : .roundStarted id (.automatic loop) time released :: older <:+ c.history := by
      simpa [List.suffix_cons_iff] using hsuffix
    exact h.releases id loop time released older hbefore

theorem dismiss (h : Punctual c) (loop : Nat) : Punctual (c.dismiss loop) where
  targets id l target wake hl hphase := by
    obtain ⟨l₀, hl₀, hsame, -⟩ := exists_of_loop?_dismiss hl
    exact h.targets id l₀ target wake hl₀ (hsame ▸ hphase)
  releases id loop' time released older hsuffix := by
    have hbefore : .roundStarted id (.automatic loop') time released :: older <:+ c.history := by
      simpa [List.suffix_cons_iff] using hsuffix
    exact h.releases id loop' time released older hbefore

end Punctual

/-- Every step keeps the cycles punctual, whatever the clock shows. -/
theorem Step.punctual {cause : Cause} (step : Step c cause c') (hcoherent : c.Coherent)
    (h : Punctual c) : Punctual c' := by
  cases step with
  | idle => exact h
  | elapsed | clockSet => exact h.congr rfl rfl rfl
  | lost => exact h.read.endLoop _
  | found hl hphase hreading hnext => exact h.read.announce hnext _ _
  | unbounded order | missedLast order => exact h.read.backOff _ order
  | @slept l turn now target order hl hphase =>
    -- the loop sleeps again, for the boundary that it waited for before
    refine (h.read.setPhase l.id ?_).note (by simp)
    rintro target' wake ⟨rfl, -⟩
    exact h.targets l.id l target turn hl hphase
  | released hl hphase hrunning hreading hdue hsoon => exact h.release hl hphase hreading hdue hsoon
  | missed hl hphase hrunning hreading hdue hlate hnext => exact h.read.announce hnext _ _
  | closed => exact h.endLoop _
  | resumed => exact h.setPhase _ (by simp)
  | triggered | allRun => exact h.startRound (by simp) _ _
  | triggeredNow => exact h.read.startRound (by simp) _ _
  | triggerLost => exact h.read
  | directEnded => exact h.endRound _ _
  | manualEnded => exact (h.count _ _).endRound _ _
  | automaticEnded => exact ((h.count _ _).endRound _ _).setPhase _ (by simp)
  | automaticAborted results order => exact ((h.count _ _).endRound _ _).backOff _ order
  | started order => exact h.start hcoherent order
  | startFailed => exact (h.setState _).setState _
  | dismissed => exact h.dismiss _
  | stoppedAsleep => exact (h.dismiss _).endLoop _
  | stopFinished =>
    have hcleared : Punctual { c with stats := { c.stats with nextRunAt := none } } :=
      h.congr rfl rfl rfl
    exact hcleared.setState _

end Control

namespace Machine

variable {σ : Type} {m : Machine σ}

theorem Reachable.punctual (hm : m.Reachable) : m.control.Punctual := by
  refine hm.induction (P := fun m => m.control.Punctual)
    (fun config fanOut factory clock world => ?_)
    fun {m move} hm h => (hm.step move).punctual hm.coherent h
  constructor
  · intro id l target wake hl
    cases hl
  · intro id loop time released older hsuffix
    cases List.suffix_nil.mp hsuffix

/--
Whatever the clock shows, and whatever happens: the cycle of an hour that a loop starts is released
by the last reading of the clock, which has reached the boundary of the hour and is less than an
hour after it, so that it is before the next boundary unless it is in a leap second.
-/
theorem cycles_punctual (hm : m.Reachable) {round loop : Nat} {time : Instant}
    {released : Option Instant} {older : List Happening}
    (hstarted : .roundStarted round (.automatic loop) time released :: older <:+ m.history) :
    ∃ now, released = some now ∧ lastReading older = some now ∧
      time.isHourAligned = true ∧
      (∃ t, time.add? m.config.offset = some t ∧ t ≤ now ∧ now.since t < hour) ∧
      ∀ next, time.add? (m.config.offset + hour : Nat) = some next → now.Plain → now < next := by
  have hsuffix := hstarted.filter fun h => !h.isCall
  obtain ⟨now, hreleased, hlast, htimely⟩ :=
    hm.punctual.releases round loop time released _ hsuffix
  rw [lastReading_filter] at hlast
  exact ⟨now, hreleased, hlast, htimely.aligned, htimely.reached,
    fun next hnext hplain => htimely.lt_next hplain hnext⟩

/--
A loop that waits for five past ten is suspended until five past one, looks for its next boundary,
and sleeps on after the clock has jumped back; it is woken when that boundary is an hour ago but for
a second, and starts its cycle.
-/
theorem cycles_punctual_over_leaps :
    let early : Instant := ⟨1719828299, 0, by decide, by decide, by decide, by decide⟩
    let missed : Instant := ⟨1719839130, 0, by decide, by decide, by decide, by decide⟩
    let two : Instant := ⟨1719842400, 0, by decide, by decide, by decide, by decide⟩
    let late : Instant := ⟨1719846299, 0, by decide, by decide, by decide, by decide⟩
    let m := (init .default .sequential (fun w => (.ok [], w)) (fun _ _ => some early)
      ()).afterAll
        [.start, .work (.loop 0), .work (.loop 0), .setClock fun _ _ => some missed,
          .work (.loop 0), .setClock fun _ _ => some early, .work (.loop 0),
          .setClock fun _ _ => some late, .work (.loop 0)]
    .roundStarted 1 (.automatic 0) two (some late) :: m.history.tail = m.history ∧
      lastReading m.history.tail = some late ∧
      ∃ t, two.add? m.config.offset = some t ∧ t ≤ late ∧ late.since t < hour := by
  intro early missed two late m
  have hm : m.Reachable := ⟨_, _, _, _, _, _, rfl⟩
  have hstarted : .roundStarted 1 (.automatic 0) two (some late) :: m.history.tail = m.history := by
    decide +kernel
  obtain ⟨now, hreleased, hlast, -, hsoon, -⟩ := cycles_punctual hm ⟨[], hstarted⟩
  obtain rfl : late = now := Option.some.inj hreleased
  exact ⟨hstarted, hlast, hsoon⟩

end Machine

end HourlySnapshots
