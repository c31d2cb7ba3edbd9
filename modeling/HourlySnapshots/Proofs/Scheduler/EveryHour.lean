import HourlySnapshots.Proofs.Calendar.SteadyClock
import HourlySnapshots.Proofs.Scheduler.HourOrder

/-!
# Every hour once

A loop that is left alone, with a clock that keeps step with virtual time, starts one cycle for each
boundary that the clock has reached since the start. While it waits for a boundary, the hours of all
earlier ones have been collected, and its sleep ends at the first millisecond that is not before the
boundary; while it collects, so has the hour of the boundary itself, and the next is yet to come.
-/

namespace HourlySnapshots

/-- What a loop has to do that was started at a millisecond, when the clock showed an instant. -/
structure Duty where
  loop : Nat
  base : Nat
  start : Instant
  offset : Span
  /-- The automatic cycles before the start, the latest first. -/
  before : List (Nat × Instant)

namespace Duty

variable (d : Duty)

/-- A boundary that the loop has to wait for. -/
def Due (t : Instant) : Prop := IsBoundary d.offset t ∧ d.start < t

/-- The nanoseconds passed since the start. -/
def passed (now : Nat) : Nat := (now - d.base) * millisecond

/-- How far the clock has come, in nanoseconds from 1970. -/
def shown (now : Nat) : Int := d.start.civil + d.passed now

/-- The clock keeps step with virtual time. -/
def Steady (clock : Clock) : Prop :=
  ∀ now reading, d.base ≤ now → clock now reading = d.start.add? (d.passed now)

/-- The cycles since the start are those of the boundaries up to a position, each once. -/
def CollectedTo (history : List Happening) (upTo : Int) : Prop :=
  ∃ fresh : List (Nat × Instant), cycleStarts history = fresh ++ d.before ∧
    (fresh.map Prod.snd).Pairwise (· > ·) ∧
    ∀ h, h ∈ fresh.map Prod.snd ↔ ∃ t, d.Due t ∧ t.position ≤ upTo ∧ t.truncateToHour = h

/-- No boundary is left to wait for. -/
def Over (now : Nat) : Prop := ∀ t, d.Due t → t.position ≤ d.shown now

/-- What the phases of the loop stand for. -/
inductive Phase (c : Control) : LoopPhase → Prop where
  | beginning {wake : Wake} (hnow : c.now ≤ wake.due)
      (hcollected : d.CollectedTo c.history (d.shown c.now))
      (hwake : wake.due = c.now ∨ d.Over c.now) : Phase c (.beginning wake)
  | waiting {target : Instant} {wake : Wake} (hnow : c.now ≤ wake.due) (htarget : d.Due target)
      (hcollected : d.CollectedTo c.history (target.position - 1))
      (hnext : ∀ t, d.Due t → t < target → t.position ≤ d.shown c.now)
      (hwake : d.shown wake.due < target.position + millisecond) : Phase c (.waiting target wake)
  | collecting {target : Instant} {cycle : Nat} (htarget : d.Due target)
      (htime : ∀ r ∈ c.rounds, r.purpose = .automatic d.loop → r.time = target.truncateToHour)
      (hcollected : d.CollectedTo c.history target.position)
      (hreached : target.position ≤ d.shown c.now) : Phase c (.collecting cycle)
  | backingOff {wake : Wake} (hnow : c.now ≤ wake.due)
      (hcollected : d.CollectedTo c.history (d.shown c.now)) (hover : d.Over c.now) :
      Phase c (.backingOff wake)

/-- The loop does what it has to. -/
structure Kept (c : Control) : Prop where
  base_le : d.base ≤ c.now
  offset_eq : c.config.offset = d.offset
  clock : d.Steady c.clock
  worker : c.worker = some d.loop
  phase : ∃ l, c.loop? d.loop = some l ∧ d.Phase c l.phase

/-- Each cycle of the loop that is going on began less than an hour after its boundary. -/
def InTime (c : Control) : Prop :=
  ∀ r ∈ c.rounds, r.purpose = .automatic d.loop →
    ∀ next now, r.time.add? (d.offset + hour : Nat) = some next → c.reading = some now → now < next

variable {d} {c c' : Control} {a b : Int} {history history' : List Happening}

/-! ## Boundaries and time -/

theorem shown_mono {now now' : Nat} (h : now ≤ now') : d.shown now ≤ d.shown now' := by
  have hle : d.passed now ≤ d.passed now' := Nat.mul_le_mul_right _ (Nat.sub_le_sub_right h _)
  unfold shown
  omega

theorem shown_add {now : Nat} (h : d.base ≤ now) (ms : Nat) :
    d.shown (now + ms) = d.shown now + (ms * millisecond : Nat) := by
  have hsum : d.passed (now + ms) = d.passed now + ms * millisecond := by
    rw [passed, passed, Nat.sub_add_comm h, Nat.add_mul]
  rw [shown, shown, hsum, Int.natCast_add, Int.add_assoc]

theorem Over.mono {now now' : Nat} (h : d.Over now) (hle : now ≤ now') : d.Over now' :=
  fun t ht => Int.le_trans (h t ht) (shown_mono hle)

theorem CollectedTo.congr (h : d.CollectedTo history a)
    (hstarts : cycleStarts history' = cycleStarts history) : d.CollectedTo history' a := by
  unfold CollectedTo
  rw [hstarts]
  exact h

/-- Positions without a boundary between them make no difference. -/
theorem CollectedTo.move (h : d.CollectedTo history a)
    (hbetween : ∀ t, d.Due t → (t.position ≤ a ↔ t.position ≤ b)) : d.CollectedTo history b := by
  obtain ⟨fresh, hsplit, hsorted, hmem⟩ := h
  refine ⟨fresh, hsplit, hsorted, fun h => (hmem h).trans ?_⟩
  constructor
  · rintro ⟨t, ht, hle, hhour⟩
    exact ⟨t, ht, (hbetween t ht).mp hle, hhour⟩
  · rintro ⟨t, ht, hle, hhour⟩
    exact ⟨t, ht, (hbetween t ht).mpr hle, hhour⟩

/-- The cycle of a boundary is the next one after those of all earlier boundaries. -/
theorem CollectedTo.release {target : Instant} {round : Nat} (hoffset : d.offset < hour)
    (h : d.CollectedTo history (target.position - 1)) (htarget : d.Due target)
    (hstarts : cycleStarts history' = (round, target.truncateToHour) :: cycleStarts history) :
    d.CollectedTo history' target.position := by
  obtain ⟨fresh, hsplit, hsorted, hmem⟩ := h
  refine ⟨(round, target.truncateToHour) :: fresh, by rw [hstarts, hsplit]; rfl, ?_, fun h => ?_⟩
  · rw [List.map_cons, List.pairwise_cons]
    -- an earlier boundary belongs to an earlier hour
    refine ⟨fun h hh => ?_, hsorted⟩
    obtain ⟨t, ht, hle, rfl⟩ := (hmem h).mp hh
    refine (ht.1.lt_iff_truncateToHour htarget.1 hoffset).mp ?_
    rw [Instant.lt_iff_position ht.1.1 htarget.1.1]
    omega
  · rw [List.map_cons, List.mem_cons, hmem]
    constructor
    · rintro (rfl | ⟨t, ht, hle, rfl⟩)
      · exact ⟨target, htarget, Int.le_refl _, rfl⟩
      · exact ⟨t, ht, by omega, rfl⟩
    · rintro ⟨t, ht, hle, rfl⟩
      by_cases hsame : t.position = target.position
      · rw [Instant.eq_of_position ht.1.1 htarget.1.1 hsame]
        exact .inl rfl
      · exact .inr ⟨t, ht, by omega, rfl⟩

/-! ## What the clock shows -/

theorem Kept.reading_eq (h : d.Kept c) {now : Instant} (hreading : c.reading = some now) :
    d.start.add? (d.passed c.now) = some now := by
  rw [← h.clock c.now c.readings h.base_le]
  exact hreading

/-- The clock is before a boundary just when it has not come as far. -/
theorem Kept.lt_iff (h : d.Kept c) {now t : Instant} (hreading : c.reading = some now)
    (ht : d.Due t) : now < t ↔ d.shown c.now < t.position :=
  Instant.lt_boundary_iff (h.reading_eq hreading) ht.1.1 ht.2

theorem Kept.due_of_lt (h : d.Kept c) {now t : Instant} (hreading : c.reading = some now)
    (ht : IsBoundary d.offset t) (hlt : now < t) : d.Due t :=
  ⟨ht, lt_of_le_of_lt (Instant.le_of_add? (h.reading_eq hreading)) hlt⟩

/-! ## Steps -/

/-- A phase stands for the same as long as time, cycles and boundaries collected are the same. -/
theorem Phase.congr {phase : LoopPhase} (h : d.Phase c phase) (hnow : c'.now = c.now)
    (hstarts : cycleStarts c'.history = cycleStarts c.history)
    (hrounds : ∀ r ∈ c'.rounds, r.purpose = .automatic d.loop → r ∈ c.rounds) :
    d.Phase c' phase := by
  cases h with
  | beginning hdue hcollected hwake =>
    rw [← hnow] at hdue hcollected hwake
    exact .beginning hdue (hcollected.congr hstarts) hwake
  | waiting hdue htarget hcollected hnext hwake =>
    rw [← hnow] at hdue hnext
    exact .waiting hdue htarget (hcollected.congr hstarts) hnext hwake
  | collecting htarget htime hcollected hreached =>
    rw [← hnow] at hreached
    exact .collecting htarget (fun r hr hauto => htime r (hrounds r hr hauto) hauto)
      (hcollected.congr hstarts) hreached
  | backingOff hdue hcollected hover =>
    rw [← hnow] at hdue hcollected hover
    exact .backingOff hdue (hcollected.congr hstarts) hover

/-- What other loops, callers and fan-outs do leaves the loop to its duty. -/
theorem Kept.congr (h : d.Kept c) (hnow : c'.now = c.now) (hconfig : c'.config = c.config)
    (hclock : c'.clock = c.clock) (hworker : c'.worker = c.worker)
    (hloop : c'.loop? d.loop = c.loop? d.loop)
    (hstarts : cycleStarts c'.history = cycleStarts c.history)
    (hrounds : ∀ r ∈ c'.rounds, r.purpose = .automatic d.loop → r ∈ c.rounds) : d.Kept c' where
  base_le := hnow ▸ h.base_le
  offset_eq := hconfig ▸ h.offset_eq
  clock := hclock ▸ h.clock
  worker := hworker ▸ h.worker
  phase := by
    obtain ⟨l, hl, hphase⟩ := h.phase
    exact ⟨l, hloop.trans hl, hphase.congr hnow hstarts hrounds⟩

/-- The loop moves on to another phase. -/
theorem Kept.turn (h : d.Kept c) {phase : LoopPhase} (hnow : c'.now = c.now)
    (hconfig : c'.config = c.config) (hclock : c'.clock = c.clock) (hworker : c'.worker = c.worker)
    (hloop : c'.loop? d.loop = (c.setPhase d.loop phase).loop? d.loop) (hphase : d.Phase c' phase) :
    d.Kept c' where
  base_le := hnow ▸ h.base_le
  offset_eq := hconfig ▸ h.offset_eq
  clock := hclock ▸ h.clock
  worker := hworker ▸ h.worker
  phase := by
    obtain ⟨l, hl, -⟩ := h.phase
    refine ⟨{ l with phase := phase }, ?_, hphase⟩
    rw [hloop, Control.loop?_setPhase_self, hl]
    rfl

/-- Time passes as long as nothing is due. -/
theorem Kept.elapse (h : d.Kept c) {now : Nat} (hle : c.now ≤ now)
    (hdue : ∀ l wake, c.loop? d.loop = some l → Machine.wakeOf? l = some wake →
      now ≤ max c.now wake.due) : d.Kept { c with now := now } where
  base_le := Nat.le_trans h.base_le hle
  offset_eq := h.offset_eq
  clock := h.clock
  worker := h.worker
  phase := by
    obtain ⟨⟨id, shutdown, phase⟩, hl, hphase⟩ := h.phase
    refine ⟨_, hl, ?_⟩
    have hmono := shown_mono (d := d) hle
    have hmove (hover : d.Over c.now) (hcollected : d.CollectedTo c.history (d.shown c.now)) :
        d.CollectedTo c.history (d.shown now) :=
      hcollected.move fun t ht => iff_of_true (hover t ht) (hover.mono hle t ht)
    have hearly {wake : Wake} (hwake : Machine.wakeOf? ⟨id, shutdown, phase⟩ = some wake)
        (hnow : c.now ≤ wake.due) : now ≤ wake.due := by
      have hmax := hdue _ wake hl hwake
      omega
    cases hphase with
    | @beginning wake hnow hcollected hwake =>
      have hnow' := hearly rfl hnow
      rcases hwake with hwake | hover
      · have hsame : now = c.now := Nat.le_antisymm (hwake ▸ hnow') hle
        subst hsame
        exact .beginning hnow hcollected (.inl hwake)
      · exact .beginning hnow' (hmove hover hcollected) (.inr (hover.mono hle))
    | @waiting target wake hnow htarget hcollected hnext hwake =>
      exact .waiting (hearly rfl hnow) htarget hcollected
        (fun t ht hlt => Int.le_trans (hnext t ht hlt) hmono) hwake
    | collecting htarget htime hcollected hreached =>
      exact .collecting htarget htime hcollected (Int.le_trans hreached hmono)
    | @backingOff wake hnow hcollected hover =>
      exact .backingOff (hearly rfl hnow) (hmove hover hcollected) (hover.mono hle)

/-- After a reading, the next boundary is the first that the clock has not come to. -/
theorem Kept.found (h : d.Kept c) (hoffset : d.offset < hour) {now target : Instant} {turn : Wake}
    (hphase : d.Phase c (.beginning turn)) (hreading : c.reading = some now)
    (hnext : nextBoundary now c.config.offset = .ok target)
    (hnow : c'.now = c.now) (hstarts : cycleStarts c'.history = cycleStarts c.history) :
    d.Phase c' (.waiting target turn) := by
  rw [h.offset_eq] at hnext
  obtain ⟨hboundary, hlt, hfirst⟩ := nextBoundary_ok hoffset hnext
  have htarget := h.due_of_lt hreading hboundary hlt
  have hbefore := (h.lt_iff hreading htarget).mp hlt
  -- earlier boundaries than the first one ahead are not ahead
  have hpassed : ∀ t, d.Due t → t < target → t.position ≤ d.shown c.now := by
    intro t ht hearlier
    by_contra hahead
    have hle := hfirst t ht.1 ((h.lt_iff hreading ht).mpr (Int.not_le.mp hahead))
    exact absurd hearlier (not_lt.mpr hle)
  cases hphase with
  | beginning hdue hcollected hwake =>
    rcases hwake with hwake | hover
    · rw [← hnow] at hdue hpassed hbefore hwake hcollected
      refine .waiting hdue htarget ((hcollected.congr hstarts).move fun t ht => ?_) hpassed ?_
      · refine ⟨fun hle => by omega, fun hle => hpassed t ht ?_⟩
        rw [Instant.lt_iff_position ht.1.1 htarget.1.1]
        omega
      · rw [hwake]
        omega
    · exact absurd (hover target htarget) (Int.not_le.mpr hbefore)

/-- Where there is no next boundary, none is left to wait for. -/
theorem Kept.over (h : d.Kept c) (hoffset : d.offset < hour) {now : Instant} {e : BoundaryError}
    (hreading : c.reading = some now) (hnext : nextBoundary now c.config.offset = .error e) :
    d.Over c.now := by
  intro t ht
  rw [h.offset_eq] at hnext
  by_contra hahead
  exact nextBoundary_error hoffset hnext t ht.1 ((h.lt_iff hreading ht).mpr (Int.not_le.mp hahead))

theorem toMillis_lt (span : Span) :
    Machine.toMillis span * millisecond < span + millisecond := by
  have hle := Nat.div_mul_le_self (span + (millisecond - 1)) millisecond
  unfold Machine.toMillis
  simp only [millisecond] at *
  omega

/-- A sleep is over by the first millisecond that is not before the boundary. -/
theorem Kept.slept (h : d.Kept c) {now target : Instant} {turn : Wake} {slice order : Nat}
    (hphase : d.Phase c (.waiting target turn)) (hreading : c.reading = some now)
    (hearly : now < target) (hnow : c'.now = c.now)
    (hstarts : cycleStarts c'.history = cycleStarts c.history) :
    d.Phase c' (.waiting target
      ⟨c.now + Machine.toMillis (min (target.since now).toNat slice), false, order⟩) := by
  cases hphase with
  | waiting hdue htarget hcollected hnext hwake =>
    have hbefore := (h.lt_iff hreading htarget).mp hearly
    have hsince : target.since now ≤ target.position - d.shown c.now :=
      Instant.since_le (h.reading_eq hreading) htarget.1.1
    have hshown := shown_add h.base_le (Machine.toMillis (min (target.since now).toNat slice))
    -- the sleep is rounded up to milliseconds, which is less than one too long
    have hmillis := Int.ofNat_lt.mpr (toMillis_lt (min (target.since now).toNat slice))
    have hmin := Nat.min_le_left (target.since now).toNat slice
    rw [← hnow] at hnext
    refine .waiting ?_ htarget (hcollected.congr hstarts) hnext ?_
    · rw [hnow]
      exact Nat.le_add_right _ _
    · rw [hshown]
      simp only [millisecond] at *
      omega

/-- The loop never comes to a boundary as late as an hour after it. -/
theorem Kept.since_lt (h : d.Kept c) {now target : Instant} {turn : Wake}
    (hphase : d.Phase c (.waiting target turn)) (hreading : c.reading = some now)
    (hdue : ¬ now < target) : now.since target < hour := by
  cases hphase with
  | waiting hnow htarget hcollected hnext hwake =>
    have hsince : now.since target = d.shown c.now - target.position :=
      Instant.since_boundary (h.reading_eq hreading) htarget.1.1 htarget.2 hdue
    -- the wait ended within a millisecond of the boundary, and no time has passed since
    have hmono := shown_mono (d := d) hnow
    rw [hsince]
    simp only [hour, second, millisecond] at *
    omega

/-- The cycle of a boundary starts once the clock has come to the boundary. -/
theorem Kept.released (h : d.Kept c) (hcoherent : c.Coherent) (hoffset : d.offset < hour)
    {l : Loop} {now target : Instant} {turn : Wake} (hl : c.loop? d.loop = some l)
    (hloop : l.phase = .waiting target turn) (hphase : d.Phase c (.waiting target turn))
    (hreading : c.reading = some now) (hdue : ¬ now < target) (hnow : c'.now = c.now)
    (hstarts : cycleStarts c'.history =
      (c.nextId, target.truncateToHour) :: cycleStarts c.history)
    (hrounds : c'.rounds =
      c.rounds ++ [RoundInfo.mk c.nextId (.automatic d.loop) target.truncateToHour]) :
    d.Phase c' (.collecting c.nextId) := by
  cases hphase with
  | waiting hwaits htarget hcollected hnext hwake =>
    refine .collecting htarget (fun r hr hauto => ?_)
      (hcollected.release hoffset htarget hstarts) ?_
    · -- while it waits, the loop has no other cycle
      rw [hrounds, List.mem_append, List.mem_singleton] at hr
      rcases hr with hr | rfl
      · obtain ⟨l', hl', hcollecting⟩ :=
          (hcoherent.collecting_iff d.loop r.id).mpr ⟨r, hr, rfl, hauto⟩
        rw [hl, Option.some.injEq] at hl'
        rw [← hl', hloop] at hcollecting
        cases hcollecting
      · rfl
    · rw [hnow]
      exact Int.not_lt.mp fun hbefore => hdue ((h.lt_iff hreading htarget).mpr hbefore)

/-- A cycle that is in time ends before the clock comes to another boundary. -/
theorem Kept.ended (h : d.Kept c) (hoffset : d.offset < hour) (hinTime : d.InTime c)
    {r : RoundInfo} {now : Instant} (hr : r ∈ c.rounds) (hauto : r.purpose = .automatic d.loop)
    (hphase : d.Phase c (.collecting r.id)) (hreading : c.reading = some now) :
    d.CollectedTo c.history (d.shown c.now) := by
  cases hphase with
  | @collecting target _ htarget htime hcollected hreached =>
    refine hcollected.move fun t ht => ⟨fun hle => Int.le_trans hle hreached, fun hle => ?_⟩
    by_contra hlater
    have hhour := htarget.1.hour_le_of_lt ht.1 (by
      rw [Instant.lt_iff_position htarget.1.1 ht.1.1]
      exact Int.not_le.mp hlater)
    -- so the next boundary is an instant, which the clock has come to
    obtain ⟨next, hnext⟩ : ∃ next, Instant.ofNanos? (target.position + hour) = some next :=
      Instant.ofNanos?_between (a := target) (by simp only [Instant.position]; omega) ht.1.1 hhour
    obtain ⟨hplain, hposition⟩ := Instant.ofNanos?_eq_some.mp hnext
    have hadd : r.time.add? (d.offset + hour : Nat) = some next := by
      rw [htime r hr hauto, Instant.add?_of_plain target.plain_truncateToHour, ← hnext,
        htarget.1.position_eq hoffset]
      rw [Int.natCast_add, Int.add_assoc]
    have hstart : d.start < next := by
      refine lt_trans htarget.2 ?_
      rw [Instant.lt_iff_position htarget.1.1 hplain, hposition]
      simp only [hour, second]
      omega
    have hbefore := (Instant.lt_boundary_iff (h.reading_eq hreading) hplain hstart).mp
      (hinTime r hr hauto next now hadd hreading)
    unfold shown at hle
    omega

/-- A loop that goes on waits when it backs off. -/
theorem backOff_running (hcoherent : c.Coherent) {l : Loop} {order : Nat}
    (hl : c.loop? l.id = some l) (hrunning : l.shutdown = false) :
    c.backOff l.id order = c.setPhase l.id
      (.backingOff ⟨c.now + Machine.toMillis c.config.retryBackoff, false, order⟩) := by
  have htold : c.toldToShutDown l.id = false := by
    refine List.any_eq_false.mpr fun other hother => ?_
    have hloop := hcoherent.loop?_of_mem hother
    by_cases hid : other.id = l.id
    · rw [hid, hl, Option.some.injEq] at hloop
      simp [← hloop, hrunning]
    · simp [hid]
  rw [Control.backOff, htold]
  rfl

/-- A loop that goes on is the one on duty. -/
theorem Kept.id_of_running (h : d.Kept c) (hcoherent : c.Coherent) {l : Loop}
    (hl : c.loop? l.id = some l) (hrunning : l.shutdown = false) : l.id = d.loop := by
  have hworker := hcoherent.worker_of_running hl hrunning
  rw [h.worker, Option.some.injEq] at hworker
  exact hworker.symm

theorem Kept.running (h : d.Kept c) (hcoherent : c.Coherent) {l : Loop}
    (hl : c.loop? l.id = some l) (hid : l.id = d.loop) : l.shutdown = false := by
  obtain ⟨own, hown, hrunning⟩ := (hcoherent.worker_iff d.loop).mp h.worker
  rw [hid, hown, Option.some.injEq] at hl
  exact hl ▸ hrunning

/-- The phase of the loop on duty stands for what has been collected. -/
theorem Kept.stands (h : d.Kept c) {l : Loop} {phase : LoopPhase} (hl : c.loop? d.loop = some l)
    (hphase : l.phase = phase) : d.Phase c phase := by
  obtain ⟨own, hown, hstands⟩ := h.phase
  rw [hown, Option.some.injEq] at hl
  rw [← hphase, ← hl]
  exact hstands

/-- What another loop goes on to is nothing to the loop on duty. -/
theorem Kept.other (h : d.Kept c) {loop : Nat} {phase : LoopPhase} (hother : loop ≠ d.loop)
    (hnow : c'.now = c.now) (hconfig : c'.config = c.config) (hclock : c'.clock = c.clock)
    (hworker : c'.worker = c.worker)
    (hloop : c'.loop? d.loop = (c.setPhase loop phase).loop? d.loop)
    (hstarts : cycleStarts c'.history = cycleStarts c.history)
    (hrounds : ∀ r ∈ c'.rounds, r.purpose = .automatic d.loop → r ∈ c.rounds) : d.Kept c' := by
  have hsame : (c.setPhase loop phase).loop? d.loop = c.loop? d.loop :=
    Control.loop?_setPhase_ne (Ne.symm hother) phase
  exact h.congr hnow hconfig hclock hworker (hloop.trans hsame) hstarts hrounds

/-- A loop finds no boundary; if it is the one on duty, it has none left to wait for. -/
theorem Kept.unbounded (h : d.Kept c) (hcoherent : c.Coherent) (hoffset : d.offset < hour)
    {l : Loop} {turn : Wake} {now : Instant} {e : BoundaryError} (order : Nat)
    (hl : c.loop? l.id = some l) (hphase : l.phase = .beginning turn)
    (hreading : c.reading = some now) (hnext : nextBoundary now c.config.offset = .error e) :
    d.Kept (c.read.backOff l.id order) := by
  by_cases hid : l.id = d.loop
  · have hover := h.over hoffset hreading hnext
    have hread : c.read.Coherent := hcoherent.congr rfl rfl rfl rfl rfl
    have hl' : c.read.loop? l.id = some l := hl
    rw [backOff_running hread hl' (h.running hcoherent hl hid)]
    cases h.stands (hid ▸ hl) hphase with
    | beginning hwaits hcollected hwake =>
      exact h.turn rfl rfl rfl rfl (by rw [hid]; rfl)
        (.backingOff (Nat.le_add_right _ _) (hcollected.congr (by simp)) hover)
  · refine Control.backOff_cases (P := fun c' => d.Kept c') (fun _ => ?_) (fun _ => ?_)
    all_goals exact h.other hid rfl rfl rfl rfl rfl (by simp) fun _ hr _ => hr

/-- A cycle ends; if it is one of the loop on duty, it was in time. -/
theorem Kept.endCycle (h : d.Kept c) (hcoherent : c.Coherent) (hoffset : d.offset < hour)
    (hinTime : d.InTime c) {r : RoundInfo} {loop order : Nat} {now : Instant} (hr : r ∈ c.rounds)
    (hpurpose : r.purpose = .automatic loop) (hreading : c.reading = some now)
    (hnow : c'.now = c.now) (hconfig : c'.config = c.config) (hclock : c'.clock = c.clock)
    (hworker : c'.worker = c.worker)
    (hloops : c'.loops = (c.setPhase loop (.beginning ⟨c.now, false, order⟩)).loops)
    (hstarts : cycleStarts c'.history = cycleStarts c.history)
    (hrounds : ∀ r ∈ c'.rounds, r ∈ c.rounds) : d.Kept c' := by
  have hloop : c'.loop? d.loop =
      (c.setPhase loop (.beginning ⟨c.now, false, order⟩)).loop? d.loop := by
    rw [Control.loop?, Control.loop?, hloops]
  by_cases hid : loop = d.loop
  · subst hid
    obtain ⟨l, hl, hcollecting⟩ := (hcoherent.collecting_iff d.loop r.id).mpr
      ⟨r, hr, rfl, hpurpose⟩
    have hcollected := h.ended hoffset hinTime hr hpurpose (h.stands hl hcollecting) hreading
    refine h.turn hnow hconfig hclock hworker hloop (.beginning ?_ ?_ (.inl hnow.symm))
    · exact Nat.le_of_eq hnow
    · rw [hnow]
      exact hcollected.congr hstarts
  · exact h.other hid hnow hconfig hclock hworker hloop hstarts fun r hr _ => hrounds r hr

/-- Whatever happens, the loop does what it has to. -/
theorem Kept.step (h : d.Kept c) {cause : Control.Cause} (step : Control.Step c cause c')
    (hcoherent : c.Coherent) (hoffset : d.offset < hour) (hstop : cause ≠ .requestStop)
    (hclock : cause ≠ .setClock) (hreads : ∃ now, c.reading = some now) (hinTime : d.InTime c)
    (hdue : ∀ l wake, c.loop? d.loop = some l → Machine.wakeOf? l = some wake →
      c'.now ≤ max c.now wake.due) : d.Kept c' := by
  obtain ⟨reading, hreads⟩ := hreads
  have hsameRounds : ∀ r ∈ c.rounds, r.purpose = .automatic d.loop → r ∈ c.rounds :=
    fun _ hr _ => hr
  have hfewerRounds (p : RoundInfo → Bool) :
      ∀ r ∈ c.rounds.filter p, r.purpose = .automatic d.loop → r ∈ c.rounds :=
    fun _ hr _ => List.mem_of_mem_filter hr
  -- fan-outs that no loop has asked for are not the loop's
  have hotherRound {purpose : Purpose} (time : Instant)
      (hpurpose : ∀ loop, purpose ≠ .automatic loop) :
      ∀ r ∈ c.rounds ++ [RoundInfo.mk c.nextId purpose time],
        r.purpose = .automatic d.loop → r ∈ c.rounds := by
    intro r hr hauto
    rcases List.mem_append.mp hr with hr | hr
    · exact hr
    · rw [List.mem_singleton.mp hr] at hauto
      exact absurd hauto (hpurpose d.loop)
  cases step with
  | idle => exact h
  | elapsed limit => exact h.elapse (Nat.le_max_left _ _) hdue
  | clockSet clock => exact absurd rfl hclock
  | lost hl hphase hnone => simp [hreads] at hnone
  | @found l turn now target hl hphase hreading hnext =>
    by_cases hid : l.id = d.loop
    · exact h.turn rfl rfl rfl rfl (by rw [hid]; rfl)
        (h.found hoffset (h.stands (hid ▸ hl) hphase) hreading hnext rfl (by simp))
    · exact h.other hid rfl rfl rfl rfl rfl (by simp) hsameRounds
  | unbounded order hl hphase hreading hnext =>
    exact h.unbounded hcoherent hoffset order hl hphase hreading hnext
  | slept order hl hphase hgoes hreading hearly =>
    have hid := h.id_of_running hcoherent hl hgoes
    exact h.turn rfl rfl rfl rfl (by rw [hid]; rfl)
      (h.slept (h.stands (hid ▸ hl) hphase) hreading hearly rfl (by simp))
  | released hl hphase hgoes hreading hreached hsoon =>
    have hid := h.id_of_running hcoherent hl hgoes
    exact h.turn rfl rfl rfl rfl (by rw [hid]; rfl)
      (h.released hcoherent hoffset (hid ▸ hl) hphase (h.stands (hid ▸ hl) hphase) hreading
        hreached rfl (by simp) (by rw [← hid]; rfl))
  | missed hl hphase hgoes hreading hreached hlate hnext =>
    have hid := h.id_of_running hcoherent hl hgoes
    exact absurd (h.since_lt (h.stands (hid ▸ hl) hphase) hreading hreached) hlate
  | missedLast order hl hphase hgoes hreading hreached hlate hnext =>
    have hid := h.id_of_running hcoherent hl hgoes
    exact absurd (h.since_lt (h.stands (hid ▸ hl) hphase) hreading hreached) hlate
  | @closed l hl hphase htold =>
    have hother : l.id ≠ d.loop := by
      intro hid
      rw [h.running hcoherent hl hid] at htold
      cases htold
    exact h.other hother rfl rfl rfl rfl rfl (by simp) hsameRounds
  | resumed hl hphase hgoes =>
    have hid := h.id_of_running hcoherent hl hgoes
    cases h.stands (hid ▸ hl) hphase with
    | backingOff hwaits hcollected hover =>
      exact h.turn rfl rfl rfl rfl (by rw [hid]) (.beginning hwaits hcollected (.inr hover))
  | triggered time =>
    exact h.congr rfl rfl rfl rfl rfl (by simp) (hotherRound _ (by simp))
  | triggeredNow hreading =>
    exact h.congr rfl rfl rfl rfl rfl (by simp) (hotherRound _ (by simp))
  | triggerLost hreading => exact h.congr rfl rfl rfl rfl rfl (by simp) hsameRounds
  | allRun time => exact h.congr rfl rfl rfl rfl rfl (by simp) (hotherRound _ (by simp))
  | directEnded results hr hpurpose =>
    exact h.congr rfl rfl rfl rfl rfl (by simp) (hfewerRounds _)
  | manualEnded results hr hpurpose =>
    exact h.congr rfl rfl rfl rfl rfl (by simp) (hfewerRounds _)
  | automaticEnded results order hr hpurpose hreading =>
    exact h.endCycle hcoherent hoffset hinTime hr hpurpose hreading rfl rfl rfl rfl rfl (by simp)
      fun _ hr => List.mem_of_mem_filter hr
  | automaticAborted results order hr hpurpose hnone => simp [hreads] at hnone
  | started order hworker hstate => simp [h.worker] at hworker
  | startFailed hworker hstate => simp [h.worker] at hworker
  | dismissed hworker hstate hawake => exact absurd rfl hstop
  | stoppedAsleep hworker hstate hl hphase => exact absurd rfl hstop
  | stopFinished hstate =>
    have hstopped := hcoherent.running_iff
    rw [hstate, h.worker] at hstopped
    simp at hstopped

/-! ## The beginning and the end -/

/-- A loop that has just been started has collected nothing, and has missed nothing. -/
theorem Kept.startLoop (hcoherent : c.Coherent) {start : Instant} (order : Nat)
    (hclock : Steady ⟨c.nextId, c.now, start, c.config.offset, cycleStarts c.history⟩ c.clock) :
    Kept ⟨c.nextId, c.now, start, c.config.offset, cycleStarts c.history⟩
      ((c.setState .starting).startLoop order) where
  base_le := Nat.le_refl _
  offset_eq := rfl
  clock := hclock
  worker := rfl
  phase := by
    have hloop : ((c.setState .starting).startLoop order).loop? c.nextId =
        some ⟨c.nextId, false, .beginning ⟨c.now, false, order⟩⟩ :=
      (hcoherent.loop?_startLoop order c.nextId).trans (if_pos rfl)
    refine ⟨_, hloop, .beginning (Nat.le_refl _) ⟨[], by simp, List.Pairwise.nil, fun h => ?_⟩
      (.inl rfl)⟩
    -- no boundary lies between the start and the start
    refine iff_of_false List.not_mem_nil ?_
    rintro ⟨t, ht, hle, -⟩
    have hlater : start.civil < t.position := Instant.civil_lt_of_lt ht.1.1 ht.2
    have hnone : (c.now - c.now) * millisecond = 0 := by rw [Nat.sub_self, Nat.zero_mul]
    have hle' : t.position ≤ start.civil + ((c.now - c.now) * millisecond : Nat) := hle
    rw [hnone] at hle'
    omega

/-- When nothing is due for the loop, the hours of all boundaries have been collected. -/
theorem Kept.settled (h : d.Kept c) (hcoherent : c.Coherent) (hoffset : d.offset < hour)
    (hinTime : d.InTime c) {now : Instant} (hreading : c.reading = some now)
    (hsettled : ∀ l wake, c.loop? d.loop = some l → Machine.wakeOf? l = some wake →
      c.now < wake.due) : d.CollectedTo c.history (d.shown c.now) := by
  obtain ⟨⟨id, shutdown, phase⟩, hl, hphase⟩ := h.phase
  cases hphase with
  | beginning hnow hcollected hwake => exact hcollected
  | @waiting target wake hnow htarget hcollected hnext hwake =>
    -- the loop still sleeps a millisecond from now, so the boundary is yet to come
    have hdue : c.now + 1 ≤ wake.due := hsettled _ wake hl rfl
    have hmono := shown_mono (d := d) hdue
    rw [shown_add h.base_le] at hmono
    refine hcollected.move fun t ht => ⟨fun hle => hnext t ht ?_, fun hle => ?_⟩
    · rw [Instant.lt_iff_position ht.1.1 htarget.1.1]
      omega
    · simp only [millisecond] at *
      omega
  | @collecting target cycle htarget htime hcollected hreached =>
    obtain ⟨r, hr, rfl, hauto⟩ := (hcoherent.collecting_iff d.loop cycle).mp ⟨_, hl, rfl⟩
    exact h.ended hoffset hinTime hr hauto (.collecting htarget htime hcollected hreached) hreading
  | backingOff hnow hcollected hover => exact hcollected

/-- The boundaries that the clock has come to lie the offset after whole hours. -/
theorem hour_iff (hoffset : d.offset < hour) {now : Nat} {finish : Instant}
    (hfinish : d.start.add? (d.passed now) = some finish) (h : Instant) :
    (∃ t, d.Due t ∧ t.position ≤ d.shown now ∧ t.truncateToHour = h) ↔
      h.isHourAligned = true ∧ ∃ t, h.add? d.offset = some t ∧ d.start < t ∧ t ≤ finish := by
  have hcome {t : Instant} (ht : d.Due t) : t ≤ finish ↔ t.position ≤ d.shown now := by
    rw [← not_lt, Instant.lt_boundary_iff hfinish ht.1.1 ht.2, Int.not_lt]
    rfl
  constructor
  · rintro ⟨t, ht, hle, rfl⟩
    exact ⟨t.isHourAligned_truncateToHour, t, ht.1.truncateToHour_add? hoffset, ht.2,
      (hcome ht).mpr hle⟩
  · rintro ⟨haligned, t, hadd, hlater, hle⟩
    obtain ⟨hboundary, hhour⟩ := IsBoundary.of_add? haligned hoffset hadd
    exact ⟨t, ⟨hboundary, hlater⟩, (hcome ⟨hboundary, hlater⟩).mp hle, hhour⟩

end Duty

end HourlySnapshots
