import HourlySnapshots.Proofs.Calendar.Boundary
import HourlySnapshots.Proofs.Scheduler.Calls

/-!
# The next run of a stopped scheduler

Stopping takes the announced boundary away once. A loop that was not asleep then has not heard of
it: when its cycle is over it publishes its next boundary before it looks whether it is to shut
down. While the scheduler stays stopped, the next run is what these loops have published last.
-/

namespace HourlySnapshots

/-- The boundaries that loops have published, the latest first. -/
def announcements (history : List Happening) : List (Nat × Instant) :=
  history.filterMap fun
    | .announced loop target => some (loop, target)
    | _ => none

/-- Whether a loop will publish a boundary before it looks whether it is to shut down. -/
def Loop.busy (l : Loop) : Bool :=
  match l.phase with
  | .beginning _ | .collecting _ => true
  | _ => false

@[simp] theorem announcements_cons (h : Happening) (history : List Happening) :
    announcements (h :: history) =
      match h with
      | .announced loop target => (loop, target) :: announcements history
      | _ => announcements history := by
  cases h <;> rfl

@[simp] theorem RunStats.afterCycle_nextRunAt (s : RunStats) (time : Instant)
    (results : CycleResults) (reading : Option Instant) :
    (s.afterCycle time results reading).nextRunAt = s.nextRunAt := by
  cases reading <;> rfl

namespace Control

variable {c c' : Control}

/-- Whether a loop has yet to publish a boundary. -/
def Busy (c : Control) (id : Nat) : Prop := ∃ l, c.loop? id = some l ∧ l.busy = true

/-- What has come of the next run since the scheduler was stopped in `s`. -/
structure Stopped (s c : Control) (fresh : List (Nat × Instant)) : Prop where
  config : c.config = s.config
  state : c.state = .stopped
  published : announcements c.history = fresh ++ announcements s.history
  /-- The next run is the boundary that was published last. -/
  next : c.stats.nextRunAt = (fresh.head?.map Prod.snd).or s.stats.nextRunAt
  busy_before : ∀ id, c.Busy id → s.Busy id
  /-- A boundary was published by a loop that was busy then and no more is. -/
  by_busy : ∀ a ∈ fresh, s.Busy a.1 ∧ ¬ c.Busy a.1
  once : (fresh.map Prod.fst).Nodup
  /-- Only an offset below an hour has boundaries to publish. -/
  offset : fresh ≠ [] → s.config.offset < hour

theorem busy_setPhase {loop id : Nat} {phase : LoopPhase}
    (hphase : (Loop.mk loop true phase).busy = true → c.Busy loop)
    (h : (c.setPhase loop phase).Busy id) : c.Busy id := by
  obtain ⟨l, hl, hbusy⟩ := h
  obtain ⟨l₀, hl₀, -, hl_phase⟩ := exists_of_loop?_setPhase hl
  by_cases hid : id = loop
  · subst hid
    rw [if_pos rfl] at hl_phase
    exact hphase (by simpa [Loop.busy, hl_phase] using hbusy)
  · rw [if_neg hid] at hl_phase
    exact ⟨l₀, hl₀, by simpa [Loop.busy, hl_phase] using hbusy⟩

namespace Stopped

variable {s : Control} {fresh : List (Nat × Instant)}

/-- Nothing has been published yet when the stop returns. -/
theorem refl (h : s.state = .stopped) : Stopped s s [] where
  config := rfl
  state := h
  published := rfl
  next := by simp
  busy_before _ hid := hid
  by_busy := by simp
  once := by simp
  offset hnil := absurd rfl hnil

/-- What publishes nothing and makes no loop busy leaves the next run alone. -/
theorem congr (h : Stopped s c fresh) (hconfig : c'.config = c.config) (hstate : c'.state = c.state)
    (hpublished : announcements c'.history = announcements c.history)
    (hnext : c'.stats.nextRunAt = c.stats.nextRunAt) (hbusy : ∀ id, c'.Busy id → c.Busy id) :
    Stopped s c' fresh where
  config := hconfig.trans h.config
  state := hstate.trans h.state
  published := hpublished.trans h.published
  next := hnext.trans h.next
  busy_before id hid := h.busy_before id (hbusy id hid)
  by_busy a ha := ⟨(h.by_busy a ha).1, fun hid => (h.by_busy a ha).2 (hbusy a.1 hid)⟩
  once := h.once
  offset := h.offset

/-- A busy loop publishes its boundary, and will not do so again. -/
theorem announce (h : Stopped s c fresh) {l : Loop} {turn : Wake} (hl : c.loop? l.id = some l)
    (hphase : l.phase = .beginning turn) {now target : Instant}
    (hnext : nextBoundary now c.config.offset = .ok target) :
    Stopped s (c.read.announce l.id turn target) ((l.id, target) :: fresh) := by
  have hbusy : c.Busy l.id := ⟨l, hl, by simp [Loop.busy, hphase]⟩
  -- the loop waits from now on, and waiting is not being busy
  have hquiet : ∀ id, (c.read.announce l.id turn target).Busy id → c.Busy id ∧ id ≠ l.id := by
    intro id hid
    refine ⟨busy_setPhase (c := c) (by simp [Loop.busy]) hid, fun hsame => ?_⟩
    subst hsame
    obtain ⟨l', hl', hbusy'⟩ := hid
    have hl'' : (c.setPhase l.id (.waiting target turn)).loop? l.id = some l' := hl'
    rw [loop?_setPhase_self, hl] at hl''
    obtain rfl := Option.some.inj hl''
    simp [Loop.busy] at hbusy'
  constructor
  · exact h.config
  · exact h.state
  · simpa using h.published
  · simp
  · exact fun id hid => h.busy_before id (hquiet id hid).1
  · intro a ha
    rcases List.mem_cons.mp ha with rfl | ha
    · exact ⟨h.busy_before _ hbusy, fun hid => (hquiet _ hid).2 rfl⟩
    · exact ⟨(h.by_busy a ha).1, fun hid => (h.by_busy a ha).2 (hquiet _ hid).1⟩
  · refine List.nodup_cons.mpr ⟨fun hmem => ?_, h.once⟩
    obtain ⟨a, ha, hid⟩ := List.mem_map.mp hmem
    exact (h.by_busy a ha).2 (hid ▸ hbusy)
  · intro _
    exact h.config ▸ offset_lt_hour_of_nextBoundary hnext

end Stopped

/-- A step other than a start keeps a stopped scheduler stopped. -/
theorem Step.stopped {s : Control} {fresh : List (Nat × Instant)} {cause : Cause}
    (step : Step c cause c') (hcause : cause ≠ .start) (hcoherent : c.Coherent)
    (h : Stopped s c fresh) : ∃ fresh', Stopped s c' fresh' := by
  have hworker : c.worker = none := hcoherent.worker_eq_none (by simp [h.state])
  -- all loops have been told to shut down, so none checks its boundary or starts a cycle
  have hnotRunning {l : Loop} (hl : c.loop? l.id = some l) : l.shutdown ≠ false := by
    rw [hcoherent.shutdown_of_none hworker hl]
    decide
  cases step with
  | idle => exact ⟨fresh, h⟩
  | elapsed limit => exact ⟨fresh, h.congr rfl rfl rfl rfl fun _ hid => hid⟩
  | clockSet clock => exact ⟨fresh, h.congr rfl rfl rfl rfl fun _ hid => hid⟩
  | lost hl hphase hreading =>
    exact ⟨fresh, h.congr rfl rfl (by simp) rfl fun _ => busy_setPhase (by simp [Loop.busy])⟩
  | found hl hphase hreading hnext => exact ⟨_, h.announce hl hphase hnext⟩
  | unbounded order hl hphase hreading hnext =>
    refine ⟨fresh, backOff_cases (P := fun c' => Stopped s c' fresh) (fun _ => ?_) (fun _ => ?_)⟩
    all_goals exact h.congr rfl rfl (by simp) rfl fun _ => busy_setPhase (by simp [Loop.busy])
  | closed hl hphase htold =>
    exact ⟨fresh, h.congr rfl rfl (by simp) rfl fun _ => busy_setPhase (by simp [Loop.busy])⟩
  | slept order hl hphase hrunning hreading hearly => exact absurd hrunning (hnotRunning hl)
  | released hl hphase hrunning hreading hdue hsoon => exact absurd hrunning (hnotRunning hl)
  | missed hl hphase hrunning hreading hdue hlate hnext => exact absurd hrunning (hnotRunning hl)
  | missedLast order hl hphase hrunning hreading hdue hlate hnext =>
    exact absurd hrunning (hnotRunning hl)
  | resumed hl hphase hrunning => exact absurd hrunning (hnotRunning hl)
  | triggered time => exact ⟨fresh, h.congr rfl rfl (by simp) rfl fun _ hid => hid⟩
  | triggeredNow hreading => exact ⟨fresh, h.congr rfl rfl (by simp) rfl fun _ hid => hid⟩
  | triggerLost hreading => exact ⟨fresh, h.congr rfl rfl (by simp) rfl fun _ hid => hid⟩
  | allRun time => exact ⟨fresh, h.congr rfl rfl (by simp) rfl fun _ hid => hid⟩
  | directEnded results hr hpurpose =>
    exact ⟨fresh, h.congr rfl rfl (by simp) rfl fun _ hid => hid⟩
  | manualEnded results hr hpurpose =>
    exact ⟨fresh, h.congr rfl rfl (by simp) (by simp) fun _ hid => hid⟩
  | @automaticEnded r loop now results order hr hpurpose hreading =>
    obtain ⟨l, hl, hphase⟩ := (hcoherent.collecting_iff loop r.id).mpr ⟨r, hr, rfl, hpurpose⟩
    have hbusy : c.Busy loop := ⟨l, hl, by simp [Loop.busy, hphase]⟩
    exact ⟨fresh, h.congr rfl rfl (by simp) (by simp) fun _ => busy_setPhase fun _ => hbusy⟩
  | automaticAborted results order hr hpurpose hreading =>
    refine ⟨fresh, backOff_cases (P := fun c' => Stopped s c' fresh) (fun _ => ?_) (fun _ => ?_)⟩
    all_goals
      exact h.congr rfl rfl (by simp) (by simp) fun _ => busy_setPhase (by simp [Loop.busy])
  | started order hnone hstate => exact absurd rfl hcause
  | startFailed hnone hstate => exact absurd rfl hcause
  | dismissed hsome hstate hawake => simp [hworker] at hsome
  | stoppedAsleep hsome hstate hl hphase => simp [hworker] at hsome
  | stopFinished hstate => simp [h.state] at hstate

/-- While the clock can be read, a loop that waits for its cycle goes on when the cycle is over. -/
theorem Step.collecting {cause : Cause} (step : Step c cause c') (hcoherent : c.Coherent)
    {now : Instant} (hreading : c.reading = some now) {id cycle : Nat} {l : Loop}
    (hl : c.loop? id = some l) (hphase : l.phase = .collecting cycle) :
    ∃ l', c'.loop? id = some l' ∧
      (l'.phase = .collecting cycle ∨ ∃ turn, l'.phase = .beginning turn) := by
  have hsame : ∃ l', c.loop? id = some l' ∧
      (l'.phase = .collecting cycle ∨ ∃ turn, l'.phase = .beginning turn) := ⟨l, hl, .inl hphase⟩
  -- what another loop does leaves this one alone
  have hne {l' : Loop} (hl' : c.loop? l'.id = some l') (hphase' : l'.phase ≠ .collecting cycle) :
      id ≠ l'.id := by
    rintro rfl
    rw [hl', Option.some.injEq] at hl
    exact hphase' (hl ▸ hphase)
  have hother {l' : Loop} {phase : LoopPhase} (hl' : c.loop? l'.id = some l')
      (hphase' : l'.phase ≠ .collecting cycle) : (c.setPhase l'.id phase).loop? id = some l :=
    (loop?_setPhase_ne (hne hl' hphase') phase).trans hl
  have hflagged (loop : Nat) : ∃ l', (c.flag loop).loop? id = some l' ∧
      l'.phase = .collecting cycle := by
    rw [loop?_flag, hl]
    refine ⟨_, rfl, ?_⟩
    simp only
    split <;> exact hphase
  cases step with
  | idle | elapsed | clockSet | triggered | triggeredNow | triggerLost | allRun | directEnded
  | manualEnded | startFailed | stopFinished => exact hsame
  | lost hl' hphase' hnone => simp [hreading] at hnone
  | found hl' hphase' => exact ⟨l, hother hl' (by simp [hphase']), .inl hphase⟩
  | unbounded order hl' hphase' =>
    have hkept := loop?_backOff_ne (c := c.read) (hne hl' (by simp [hphase'])) order
    exact ⟨l, hkept.trans hl, .inl hphase⟩
  | slept order hl' hphase' => exact ⟨l, hother hl' (by simp [hphase']), .inl hphase⟩
  | released hl' hphase' => exact ⟨l, hother hl' (by simp [hphase']), .inl hphase⟩
  | missed hl' hphase' => exact ⟨l, hother hl' (by simp [hphase']), .inl hphase⟩
  | missedLast order hl' hphase' =>
    have hkept := loop?_backOff_ne (c := c.read) (hne hl' (by simp [hphase'])) order
    exact ⟨l, hkept.trans hl, .inl hphase⟩
  | closed hl' hphase' =>
    exact ⟨l, hother hl' (Loop.asleep_not_collecting hphase' cycle), .inl hphase⟩
  | resumed hl' hphase' => exact ⟨l, hother hl' (by simp [hphase']), .inl hphase⟩
  | @automaticEnded r loop now' results order hr hpurpose =>
    by_cases hid : id = loop
    · subst hid
      have hbegun : (c.setPhase id (.beginning ⟨c.now, false, order⟩)).loop? id =
          some { l with phase := .beginning ⟨c.now, false, order⟩ } := by
        rw [loop?_setPhase_self, hl]
        rfl
      exact ⟨_, hbegun, .inr ⟨_, rfl⟩⟩
    · exact ⟨l, (loop?_setPhase_ne (c := c) hid _).trans hl, .inl hphase⟩
  | automaticAborted results order hr hpurpose hnone => simp [hreading] at hnone
  | started order hworker hstate =>
    have hold : id ≠ c.nextId := by
      rintro rfl
      rw [hcoherent.loop?_nextId] at hl
      cases hl
    have hkept : (c.startLoop order).loop? id = some l := by
      rw [hcoherent.loop?_startLoop, if_neg hold]
      exact hl
    exact ⟨l, hkept, .inl hphase⟩
  | dismissed hworker hstate hawake =>
    obtain ⟨l', hl', hphase'⟩ := hflagged _
    exact ⟨l', hl', .inl hphase'⟩
  | @stoppedAsleep asleep hworker hstate hl' hphase' =>
    have hid := hne hl' (Loop.asleep_not_collecting hphase' cycle)
    obtain ⟨l'', hl'', hphase''⟩ := hflagged asleep.id
    exact ⟨l'', (loop?_setPhase_ne (c := c.dismiss asleep.id) hid _).trans hl'', .inl hphase''⟩

end Control

namespace Machine

variable {σ : Type}

/-- The boundaries that the loops of a machine have published, the latest first. -/
def announced (m : Machine σ) : List (Nat × Instant) := announcements m.history

theorem announced_eq (m : Machine σ) : m.announced = announcements m.control.history :=
  (filterMap_apart_from_calls (fun h => by cases h <;> simp [Happening.isCall]) m.history).symm

/-- What has come of the next run after some moves, none of which starts the scheduler. -/
theorem stopped_afterAll {s : Machine σ} (hs : s.Reachable) (hstate : s.state = .stopped)
    {moves : List (Move σ)} (hstart : ∀ move ∈ moves, move ≠ .start) :
    ∃ fresh, Control.Stopped s.control (s.afterAll moves).control fresh := by
  refine hs.control_induction (P := fun c => ∃ fresh, Control.Stopped s.control c fresh)
    (Q := fun cause => cause ≠ .start) ?_ ⟨[], .refl hstate⟩ ?_
  · intro move hmove
    have hne := hstart move hmove
    cases move <;> simp [Move.cause] at hne ⊢
  · rintro c c' cause hcoherent hcause step ⟨fresh, h⟩
    exact step.stopped hcause hcoherent h

/-- Working off the fan-outs brings every cycle to its end, and its loop to its next boundary. -/
theorem exists_beginning {m : Machine σ} (hm : m.Reachable) {now : Instant}
    (hclock : m.clock = fun _ _ => some now) {id cycle : Nat} {l : Loop}
    (hl : m.control.loop? id = some l) (hphase : l.phase = .collecting cycle) :
    ∃ jobs : List Job, (m.afterAll (jobs.map .work)).clock = m.clock ∧
      ∃ l' turn, (m.afterAll (jobs.map .work)).control.loop? id = some l' ∧
        l'.phase = .beginning turn := by
  induction hleft : m.fans.left using Nat.strong_induction_on generalizing m l with
  | _ left ih =>
    obtain ⟨r, hr, -, -⟩ := (hm.coherent.collecting_iff id cycle).mp ⟨l, hl, hphase⟩
    obtain ⟨round, hround, -⟩ := List.mem_map.mp hr
    -- some job of the fan-outs can be done, and leaves less of them
    obtain ⟨job, hjob, hpending⟩ := exists_pending hm.wellFormed hround
    have hwork : m.after (.work job) = m.work job := by rw [after_work, if_pos hpending]
    have hless := left_work_lt hm.wellFormed (Job.isFanned_of_isOf hjob) hpending
    have step := hm.step (.work job)
    rw [hwork] at step
    have hsame : (m.work job).clock = m.clock := step.clock (by simp [Move.cause])
    have hreading : m.control.reading = some now := congrFun (congrFun hclock _) _
    obtain ⟨l', hl', hcases⟩ := step.collecting hm.coherent hreading hl hphase
    rcases hcases with hphase' | ⟨turn, hphase'⟩
    · have hnext : (m.work job).Reachable := hwork ▸ hm.after (.work job)
      obtain ⟨jobs, hclock', hdone⟩ :=
        ih _ (hleft ▸ hless) hnext (hsame.trans hclock) hl' hphase' rfl
      refine ⟨job :: jobs, ?_, ?_⟩
      · rw [List.map_cons, afterAll_cons, hwork]
        exact hclock'.trans hsame
      · rw [List.map_cons, afterAll_cons, hwork]
        exact hdone
    · refine ⟨[job], ?_, l', turn, ?_, hphase'⟩
      · rw [List.map_cons, List.map_nil, afterAll_cons, afterAll_nil, hwork]
        exact hsame
      · rw [List.map_cons, List.map_nil, afterAll_cons, afterAll_nil, hwork]
        exact hl'

/-- A loop that begins to wait publishes the boundary that it finds. -/
theorem nextRunAt_of_beginning {m : Machine σ} {id : Nat} {l : Loop} {turn : Wake}
    {now target : Instant} (hl : m.control.loop? id = some l) (hphase : l.phase = .beginning turn)
    (hclock : m.clock = fun _ _ => some now)
    (hnext : nextBoundary now m.config.offset = .ok target) :
    (m.after (.work (.loop id))).stats.nextRunAt = some target := by
  have hpending : m.pending (.loop id) = true := by
    refine pending_iff.mpr ⟨turn, mem_waits_loop.mpr ⟨l, Control.mem_of_loop? hl, ?_, ?_⟩⟩
    · simp [wakeOf?, hphase]
    · exact Control.loop?_id hl
  have hfind : (m.loops.find? fun l => l.id == id) = some l := hl
  rw [after_work, if_pos hpending, work_loop, hfind]
  simp [wakeLoop, hphase, beginWaiting, readClock, hclock, note, hnext, announce, setPhase]

/-- A loop that is busy when the scheduler has been stopped can still publish a boundary. -/
theorem exists_next_run {s : Machine σ} (hs : s.Reachable) (hoffset : s.config.offset < hour)
    {l : Loop} (hl : l ∈ s.loops) (hbusy : l.busy = true) :
    ∃ moves : List (Move σ), (∀ move ∈ moves, move ≠ .start) ∧
      (s.afterAll moves).stats.nextRunAt ≠ none := by
  -- a clock that stands still at the epoch can always be read, and has a boundary ahead
  set clocked := s.after (.setClock fun _ _ => some .epoch) with hclocked
  have hreachable : clocked.Reachable := hs.after _
  have hclock : clocked.clock = fun _ _ => some .epoch := rfl
  have hloop : clocked.control.loop? l.id = some l := hs.coherent.loop?_of_mem hl
  -- the loop is about to begin, or its cycle can be brought to its end
  obtain ⟨jobs, hsame, l', turn, hl', hphase'⟩ : ∃ jobs : List Job,
      (clocked.afterAll (jobs.map .work)).clock = clocked.clock ∧
        ∃ l' turn, (clocked.afterAll (jobs.map .work)).control.loop? l.id = some l' ∧
          l'.phase = .beginning turn := by
    cases hphase : l.phase with
    | beginning turn => exact ⟨[], rfl, l, turn, hloop, hphase⟩
    | collecting cycle => exact exists_beginning hreachable hclock hloop hphase
    | waiting target wake => simp [Loop.busy, hphase] at hbusy
    | backingOff wake => simp [Loop.busy, hphase] at hbusy
    | ended => simp [Loop.busy, hphase] at hbusy
  have hconfig : (clocked.afterAll (jobs.map .work)).config = s.config :=
    hreachable.config_afterAll _
  obtain ⟨target, hnext⟩ := exists_nextBoundary hoffset
  have hrun := nextRunAt_of_beginning hl' hphase' (hsame.trans hclock) (hconfig ▸ hnext)
  refine ⟨.setClock (fun _ _ => some .epoch) :: (jobs.map .work ++ [.work (.loop l.id)]), ?_, ?_⟩
  · intro move hmove
    simp only [List.mem_cons, List.mem_append, List.mem_map, List.not_mem_nil, or_false] at hmove
    rcases hmove with rfl | ⟨job, -, rfl⟩ | rfl <;> simp
  · rw [afterAll_cons, afterAll_concat, ← hclocked, hrun]
    simp

/-- A stop returns: it has waited for the loop for as long as it does, or had none to stop. -/
inductive StopReturns (m : Machine σ) : Machine σ → Prop where
  | finished (hstate : m.state = .stopping) : m.StopReturns (m.after .finishStop)
  | idle (hstate : m.state ≠ .stopping) (hworker : m.worker = none) :
      m.StopReturns (m.after .requestStop)

/-- A stop that returns leaves the scheduler stopped. -/
theorem StopReturns.stopped {m s : Machine σ} (h : m.StopReturns s) (hm : m.Reachable) :
    s.state = .stopped := by
  cases h with
  | finished hstate =>
    rw [after_finishStop, if_pos hstate]
    rfl
  | idle hstate hworker =>
    have hsame : m.after .requestStop = m := by
      rw [after_requestStop, if_neg hstate]
      simp [requestStop, hworker]
    have hrunning : m.control.state ≠ .running := by
      rw [ne_eq, hm.coherent.running_iff, show m.control.worker = none from hworker]
      decide
    have hsettled := hm.coherent.settled
    rw [hsame]
    show m.control.state = .stopped
    cases hcases : m.control.state with
    | stopped => rfl
    | starting => exact absurd hcases hsettled
    | running => exact absurd hcases hrunning
    | stopping => exact absurd hcases hstate

theorem StopReturns.reachable {m s : Machine σ} (h : m.StopReturns s) (hm : m.Reachable) :
    s.Reachable := by
  cases h with
  | finished => exact hm.after _
  | idle => exact hm.after _

/-- A stop that had a loop to stop leaves no next run. -/
theorem StopReturns.nextRunAt {m s : Machine σ} (h : m.StopReturns s)
    (hstate : m.state = .stopping) : s.stats.nextRunAt = none := by
  cases h with
  | finished =>
    rw [after_finishStop, if_pos hstate]
    rfl
  | idle hother => exact absurd hstate hother

/-- The next run after some moves is the boundary that was published last, if there is one. -/
theorem nextRunAt_of_stopped {s e : Machine σ} {fresh : List (Nat × Instant)}
    (h : Control.Stopped s.control e.control fresh) :
    e.stats.nextRunAt = (fresh.head?.map Prod.snd).or s.stats.nextRunAt := h.next

/-- A stopped scheduler has no next run ever after when no loop can publish one. -/
theorem nextRunAt_eq_none {s : Machine σ} (hs : s.Reachable) (hstate : s.state = .stopped)
    (hnone : s.stats.nextRunAt = none)
    (hsafe : hour ≤ s.config.offset ∨ ∀ l ∈ s.loops, l.busy = false) {moves : List (Move σ)}
    (hmoves : ∀ move ∈ moves, move ≠ .start) : (s.afterAll moves).stats.nextRunAt = none := by
  obtain ⟨fresh, h⟩ := stopped_afterAll hs hstate hmoves
  rw [nextRunAt_of_stopped h, hnone, Option.or_none]
  cases fresh with
  | nil => rfl
  | cons a rest =>
    rcases hsafe with hlong | hquiet
    · have hoffset : s.config.offset < hour := h.offset (by simp)
      exact absurd hoffset (Nat.not_lt.mpr hlong)
    · obtain ⟨l, hl, hbusy⟩ := (h.by_busy a (by simp)).1
      rw [hquiet l (Control.mem_of_loop? hl)] at hbusy
      cases hbusy

/--
From when a stop returns to the next start, the scheduler is stopped, and its next run is the
boundary published last since, each of them by a loop that was busy when the stop returned and once
at most. It is sure to have no next run just when none was left by the stop, and there was no such
loop or no boundary to publish.
-/
theorem next_run_while_stopped {m s : Machine σ} (hm : m.Reachable) (hreturns : m.StopReturns s) :
    (m.state = .stopping → s.stats.nextRunAt = none) ∧
    (∀ moves : List (Move σ), (∀ move ∈ moves, move ≠ .start) →
      (s.afterAll moves).state = .stopped ∧
      ∃ fresh, (s.afterAll moves).announced = fresh ++ s.announced ∧
        (s.afterAll moves).stats.nextRunAt =
          (fresh.head?.map Prod.snd).or s.stats.nextRunAt ∧
        (∀ a ∈ fresh, ∃ l ∈ s.loops, l.id = a.1 ∧ l.busy = true) ∧
        (fresh.map Prod.fst).Nodup) ∧
    ((∀ moves : List (Move σ), (∀ move ∈ moves, move ≠ .start) →
        (s.afterAll moves).stats.nextRunAt = none) ↔
      s.stats.nextRunAt = none ∧
        (hour ≤ s.config.offset ∨ ∀ l ∈ s.loops, l.busy = false)) := by
  have hs := hreturns.reachable hm
  have hstopped := hreturns.stopped hm
  refine ⟨hreturns.nextRunAt, fun moves hmoves => ?_, fun hall => ⟨?_, ?_⟩, ?_⟩
  · obtain ⟨fresh, h⟩ := stopped_afterAll hs hstopped hmoves
    refine ⟨h.state, fresh, ?_, nextRunAt_of_stopped h, ?_, h.once⟩
    · rw [announced_eq, announced_eq]
      exact h.published
    · intro a ha
      obtain ⟨l, hl, hbusy⟩ := (h.by_busy a ha).1
      exact ⟨l, Control.mem_of_loop? hl, Control.loop?_id hl, hbusy⟩
  · exact hall [] (by simp)
  · -- a busy loop and a boundary are enough for a run that ends with a next run
    by_contra hunsafe
    simp only [not_or, not_forall, Nat.not_le, Bool.not_eq_false] at hunsafe
    obtain ⟨hoffset, l, hl, hbusy⟩ := hunsafe
    obtain ⟨moves, hmoves, hsome⟩ := exists_next_run hs hoffset hl hbusy
    exact hsome (hall moves hmoves)
  · rintro ⟨hnone, hsafe⟩ moves hmoves
    exact nextRunAt_eq_none hs hstopped hnone hsafe hmoves

/-- A loop stopped in its sleep stays silent; one stopped before its first look does not. -/
theorem next_run_after_sleep_or_before :
    let fresh : Machine Unit :=
      init .default .parallel (fun w => (.ok [], w)) (fun _ _ => some .epoch) ()
    let asleep := fresh.afterAll [.start, .work (.loop 0), .requestStop]
    let early := fresh.afterAll [.start, .requestStop]
    (∀ moves : List (Move Unit), (∀ move ∈ moves, move ≠ .start) →
        ((asleep.after .finishStop).afterAll moves).stats.nextRunAt = none) ∧
      ¬ ∀ moves : List (Move Unit), (∀ move ∈ moves, move ≠ .start) →
        ((early.after .finishStop).afterAll moves).stats.nextRunAt = none := by
  intro fresh asleep early
  have hasleep : asleep.Reachable := ⟨_, _, _, _, _, _, rfl⟩
  have hearly : early.Reachable := ⟨_, _, _, _, _, _, rfl⟩
  constructor
  · refine (next_run_while_stopped hasleep (.finished (by decide))).2.2.mpr ⟨by decide, .inr ?_⟩
    decide
  · rw [(next_run_while_stopped hearly (.finished (by decide))).2.2]
    decide

/--
A stop that gives up on a cycle of ten seconds after one, and returns with no next run announced;
once the cycle is over, the stopped scheduler announces the next hour.
-/
theorem stopped_announces_next_run :
    let slow : Registered Unit := ⟨⟨"slow", "", ""⟩, fun _ => 10000, fun _ w => (some true, w)⟩
    let start : Instant := ⟨1719828299, 0, by decide, by decide, by decide, by decide⟩
    let next : Instant := ⟨1719831900, 0, by decide, by decide, by decide, by decide⟩
    let running := (init ⟨300 * second, 300 * second, second, 60 * second⟩ .sequential
      (fun w => (.ok [slow], w)) (fun now _ => start.add? (now * millisecond)) ()).start.2.advance 2000
    running.stop.state = .stopped ∧ running.stop.stats.nextRunAt = none ∧
      (running.stop.advance 10000).state = .stopped ∧
      (running.stop.advance 10000).stats.nextRunAt = some next := by
  decide +kernel

end Machine

end HourlySnapshots
