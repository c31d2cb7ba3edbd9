import HourlySnapshots.Proofs.Scheduler.Awaited
import HourlySnapshots.Proofs.Scheduler.Pace

/-!
# Winding down

Once the worker is taken away, all loops have been told to shut down, and none of them starts a
cycle again. What is left to do is what is left of the fan-outs, and two steps at most for each
loop; all of it is done if time lapses, and no cycle is cut short by it. A loop whose wait is over
ends before any more time passes.
-/

namespace HourlySnapshots

/-- How many steps a loop takes at most that has been told to shut down. -/
def Loop.stepsLeft (l : Loop) : Nat :=
  match l.phase with
  | .beginning _ | .collecting _ => 2
  | .waiting .. | .backingOff _ => 1
  | .ended => 0

/-- What a loop that has been told to shut down does when a job is done at some time. -/
inductive Loop.Leaves (l : Loop) (now : Nat) : Machine.Job → LoopPhase → Prop where
  /-- Its cycle is over. -/
  | begins {job : Machine.Job} {cycle order : Nat} (hjob : job.isFanned = true)
      (hphase : l.phase = .collecting cycle) : Leaves l now job (.beginning ⟨now, false, order⟩)
  /-- It publishes a boundary before it looks whether it is to shut down. -/
  | announces {turn : Wake} {target : Instant} (hphase : l.phase = .beginning turn) :
      Leaves l now (.loop l.id) (.waiting target turn)
  | ends {wake : Wake} (hwake : Machine.wakeOf? l = some wake) : Leaves l now (.loop l.id) .ended

/-- Each step of a loop is one that it has no longer left. -/
theorem Loop.Leaves.stepsLeft {l : Loop} {now : Nat} {job : Machine.Job} {phase : LoopPhase}
    (h : l.Leaves now job phase) :
    ({ l with phase := phase } : Loop).stepsLeft ≤ l.stepsLeft ∧
      (job.isFanned = false → ({ l with phase := phase } : Loop).stepsLeft < l.stepsLeft) := by
  cases h with
  | begins hjob hphase => simp [Loop.stepsLeft, hphase, hjob]
  | announces hphase => simp [Loop.stepsLeft, hphase]
  | ends hwake =>
    have hpos : 0 < l.stepsLeft := by
      unfold Machine.wakeOf? at hwake
      unfold Loop.stepsLeft
      split at hwake <;> simp_all
    exact ⟨Nat.zero_le _, fun _ => hpos⟩

namespace Machine

variable {σ : Type} {m : Machine σ}

/-! ## Machines that wind down -/

/-- All loops have been told to shut down, and the clock can always be read. -/
structure WindsDown (m : Machine σ) : Prop where
  reachable : m.Reachable
  worker : m.worker = none
  clock : ∀ now k, m.clock now k ≠ none

/-- How many jobs are left at most. -/
def stepsLeft (m : Machine σ) : Nat := m.fans.left + (m.loops.map Loop.stepsLeft).sum

namespace WindsDown

theorem told (h : m.WindsDown) {l : Loop} (hl : l ∈ m.loops) : l.shutdown = true :=
  h.reachable.coherent.shutdown_of_none h.worker (h.reachable.coherent.loop?_of_mem hl)

theorem elapsed (h : m.WindsDown) (limit : Nat) :
    ({ m with now := max m.now limit } : Machine σ).WindsDown :=
  ⟨h.reachable.after (.elapse limit), h.worker, h.clock⟩

theorem work (h : m.WindsDown) {job : Job} (hpending : m.pending job = true) :
    (m.work job).WindsDown := by
  have step := step_work m h.reachable.coherent.round_ids job
  have hreachable : (m.work job).Reachable := by
    have hafter := h.reachable.after (.work job)
    rwa [after_work, if_pos hpending] at hafter
  have hstate : m.control.state ≠ .running := by
    rw [ne_eq, h.reachable.coherent.running_iff, show m.control.worker = none from h.worker]
    decide
  have hclock : (m.work job).clock = m.clock := step.clock (by simp)
  refine ⟨hreachable, hreachable.coherent.worker_eq_none ?_, ?_⟩
  · rw [step.state (.inl rfl)]
    exact hstate
  · rw [hclock]
    exact h.clock

/-- A loop that has been told to shut down does not wait after an error. -/
theorem backOff_eq (h : m.WindsDown) {l : Loop} (hl : l ∈ m.loops) :
    m.readClock.2.backOff l.id = m.readClock.2.endLoop l.id := by
  have htold : m.readClock.2.toldToShutDown l.id = true :=
    List.any_eq_true.mpr ⟨l, hl, by simp [h.told hl]⟩
  rw [backOff, if_pos htold]

/-- What a job of a loop does to the loops. -/
theorem wakeLoop_eq (h : m.WindsDown) {l : Loop} {wake : Wake} (hl : l ∈ m.loops)
    (hwake : wakeOf? l = some wake) :
    (m.wakeLoop l).rounds = m.rounds ∧ ∃ phase, l.Leaves m.now (.loop l.id) phase ∧
      (m.wakeLoop l).loops = (m.setPhase l.id phase).loops := by
  unfold wakeLoop
  cases hphase : l.phase with
  | beginning turn =>
    obtain ⟨reading, hreading⟩ := Option.ne_none_iff_exists'.mp (h.clock m.now m.readings)
    have hread : m.readClock = (some reading, m.readClock.2) := Prod.ext hreading rfl
    show (m.beginWaiting l.id turn).rounds = m.rounds ∧ _
    unfold beginWaiting
    rw [hread]
    dsimp only
    split
    · exact ⟨rfl, _, .announces hphase, rfl⟩
    · rw [h.backOff_eq hl]
      exact ⟨rfl, _, .ends hwake, rfl⟩
  | waiting target turn =>
    dsimp only
    rw [if_pos (h.told hl)]
    exact ⟨rfl, _, .ends hwake, rfl⟩
  | collecting cycle => simp [wakeOf?, hphase] at hwake
  | backingOff turn =>
    dsimp only
    rw [if_pos (h.told hl)]
    exact ⟨rfl, _, .ends hwake, rfl⟩
  | ended => simp [wakeOf?, hphase] at hwake

/-- What a job does to the loops: nothing, or one of them takes a step. -/
theorem loops_work (h : m.WindsDown) {wake : Wake} {job : Job} (hwait : (wake, job) ∈ m.waits) :
    job.isFanned = true ∧ (m.work job).loops = m.loops ∨
      (job.isFanned = false → (m.work job).rounds = m.rounds) ∧
        ∃ l ∈ m.loops, ∃ phase, l.Leaves m.now job phase ∧
          (m.work job).loops = (m.setPhase l.id phase).loops := by
  have hpending : m.pending job = true := pending_iff.mpr ⟨wake, hwait⟩
  cases hjob : job.isFanned with
  | true =>
    -- the loop of the cycle, if it has one, goes on
    obtain ⟨reading, hreading⟩ := Option.ne_none_iff_exists'.mp (h.clock m.now m.readings)
    rcases loops_fanned h.reachable hreading hjob hpending with
      hsame | ⟨l, hl, cycle, order, hphase, hmoved⟩
    · exact .inl ⟨rfl, hsame⟩
    · exact .inr ⟨Bool.noConfusion, l, hl, _, .begins hjob hphase, hmoved⟩
  | false =>
    cases job with
    | loop id =>
      obtain ⟨l, hl, hwake, rfl⟩ := mem_waits_loop.mp hwait
      have hfind : (m.loops.find? fun other => other.id == l.id) = some l :=
        h.reachable.coherent.loop?_of_mem hl
      obtain ⟨hrounds, phase, hleaves, hloops⟩ := h.wakeLoop_eq hl hwake
      rw [work_loop, hfind]
      exact .inr ⟨fun _ => hrounds, l, hl, phase, hleaves, hloops⟩
    | turn round => cases hjob
    | call round order => cases hjob

/-- Whatever is done leaves fewer jobs. -/
theorem stepsLeft_lt (h : m.WindsDown) {wake : Wake} {job : Job} (hwait : (wake, job) ∈ m.waits) :
    (m.work job).stepsLeft < m.stepsLeft := by
  have hpending : m.pending job = true := pending_iff.mpr ⟨wake, hwait⟩
  have hfanned (hjob : job.isFanned = true) : (m.work job).fans.left < m.fans.left :=
    left_work_lt h.reachable.wellFormed hjob hpending
  unfold stepsLeft
  rcases h.loops_work hwait with ⟨hjob, hsame⟩ | ⟨hrounds, l, hl, phase, hleaves, hloops⟩
  · rw [hsame]
    exact Nat.add_lt_add_right (hfanned hjob) _
  · have hmoved : ((m.work job).loops.map Loop.stepsLeft).sum + l.stepsLeft =
        (m.loops.map Loop.stepsLeft).sum + ({ l with phase := phase } : Loop).stepsLeft := by
      rw [hloops]
      exact sum_rank_setPhase h.reachable.coherent.loop_ids hl phase Loop.stepsLeft
    obtain ⟨hle, hlt⟩ := hleaves.stepsLeft
    cases hjob : job.isFanned with
    | true =>
      have hless := hfanned hjob
      omega
    | false =>
      have hfewer := hlt hjob
      have hsame : (m.work job).fans.left = m.fans.left :=
        congrArg (fun rounds : List (Round σ) => (rounds.map Round.left).sum) (hrounds hjob)
      omega

theorem perform (h : m.WindsDown) {wake : Wake} {job : Job}
    (hnext : m.nextWait? = some (wake, job)) :
    (m.perform wake job).WindsDown ∧ (m.perform wake job).stepsLeft < m.stepsLeft := by
  have hlater := h.elapsed wake.due
  have hwait : (wake, job) ∈ ({ m with now := max m.now wake.due } : Machine σ).waits :=
    (nextWait?_eq_some hnext).1
  rw [perform_eq_work]
  exact ⟨hlater.work (pending_iff.mpr ⟨wake, hwait⟩), hlater.stepsLeft_lt hwait⟩

/-- If time lapses, everything is done in the end. -/
theorem exists_idle (h : m.WindsDown) : ∃ e : Machine σ, m.Lapses e ∧ e.waits = [] := by
  induction hleft : m.stepsLeft using Nat.strong_induction_on generalizing m with
  | _ left ih =>
    rcases hnext : m.nextWait? with - | ⟨wake, job⟩
    · exact ⟨m, .refl m, nextWait?_eq_none hnext⟩
    · obtain ⟨hdown, hless⟩ := h.perform hnext
      obtain ⟨e, hlapses, hidle⟩ := ih _ (hleft ▸ hless) hdown rfl
      exact ⟨e, .act hnext hlapses, hidle⟩

/-- More moves are allowed for than there are jobs left. -/
theorem stepsLeft_lt_movesFor {limit : Nat} (hle : m.now ≤ limit) :
    m.stepsLeft < m.movesFor limit := by
  have hfans : m.fans.left ≤ (m.rounds.map movesOf).foldl (· + ·) 0 := by
    rw [← List.sum_eq_foldl]
    exact List.sum_le_sum fun r _ => r.left_le_movesOf
  have hloops : (m.loops.map Loop.stepsLeft).sum ≤ m.loops.length * 2 := by
    have htwo : ∀ steps ∈ m.loops.map Loop.stepsLeft, steps ≤ 2 := by
      intro steps hsteps
      obtain ⟨l, -, rfl⟩ := List.mem_map.mp hsteps
      unfold Loop.stepsLeft
      split <;> decide
    have hsum := List.sum_le_card_nsmul _ 2 htwo
    rwa [List.length_map] at hsum
  have hspan : (m.loops.length + 1) * 1000000 ≤
      (limit + 1 - m.now) * (m.loops.length + 1) * (3 * m.registry.length + 1000000) := by
    apply Nat.mul_le_mul
    · exact Nat.le_mul_of_pos_left _ (by omega)
    · exact Nat.le_add_left _ _
  unfold stepsLeft movesFor
  omega

end WindsDown

/-! ## Loops that are about to end -/

/-- A loop is about to end: it has ended, or what it waits for is due. -/
def Closing (m : Machine σ) (id : Nat) : Prop :=
  ∃ l, m.control.loop? id = some l ∧
    (l.phase = .ended ∨ ∃ wake, wakeOf? l = some wake ∧ wake.due ≤ m.now)

theorem loopOver_iff (hm : m.Reachable) {id : Nat} {l : Loop} (hl : m.control.loop? id = some l) :
    m.loopOver id = true ↔ l.phase = .ended := by
  have hids := hm.coherent
  unfold loopOver
  rw [List.any_eq_true]
  constructor
  · rintro ⟨other, hother, hended⟩
    obtain ⟨hid, hphase⟩ := Bool.and_eq_true_iff.mp hended
    obtain rfl : other.id = id := beq_iff_eq.mp hid
    have hsame := (hids.loop?_of_mem hother).symm.trans hl
    rw [← Option.some.inj hsame]
    exact beq_iff_eq.mp hphase
  · intro hphase
    exact ⟨l, Control.mem_of_loop? hl, by simp [Control.loop?_id hl, hphase]⟩

namespace WindsDown

/-- What a job does to a loop: nothing, or the loop takes a step. -/
theorem loop?_work (h : m.WindsDown) {wake : Wake} {job : Job} (hwait : (wake, job) ∈ m.waits)
    {id : Nat} {l : Loop} (hl : m.control.loop? id = some l) :
    (m.work job).control.loop? id = some l ∨
      ∃ phase, l.Leaves m.now job phase ∧
        (m.work job).control.loop? id = some { l with phase := phase } := by
  have hloop {loops : List Loop} (hloops : (m.work job).loops = loops) :
      (m.work job).control.loop? id = loops.find? fun other => other.id == id :=
    congrArg (List.find? fun other : Loop => other.id == id) hloops
  rcases h.loops_work hwait with ⟨-, hsame⟩ | ⟨-, l', hl', phase, hleaves, hloops⟩
  · exact .inl ((hloop hsame).trans hl)
  · have hmoved : (m.work job).control.loop? id = (m.control.setPhase l'.id phase).loop? id :=
      hloop hloops
    by_cases hid : id = l'.id
    · subst hid
      obtain rfl : l' = l := Option.some.inj ((h.reachable.coherent.loop?_of_mem hl').symm.trans hl)
      rw [Control.loop?_setPhase_self, hl] at hmoved
      exact .inr ⟨phase, hleaves, hmoved⟩
    · rw [Control.loop?_setPhase_ne hid, hl] at hmoved
      exact .inl hmoved

/-- Whatever is done, a loop that is about to end stays so, or ends. -/
theorem closing_work (h : m.WindsDown) {wake : Wake} {job : Job} (hwait : (wake, job) ∈ m.waits)
    {id : Nat} (hclosing : m.Closing id) : (m.work job).Closing id := by
  obtain ⟨l, hl, hends⟩ := hclosing
  have hnow := now_work h.reachable.coherent job
  rcases h.loop?_work hwait hl with hkept | ⟨phase, hleaves, hmoved⟩
  · exact ⟨l, hkept, hnow ▸ hends⟩
  · refine ⟨_, hmoved, ?_⟩
    cases hleaves with
    | begins hjob hphase => simp [hphase, wakeOf?] at hends
    | announces hphase => simpa [hphase, wakeOf?, hnow] using hends
    | ends hwake => exact .inl rfl

/-- The cycle of a loop is over as soon as the loop no longer waits for it. -/
theorem roundOver_work (h : m.WindsDown) {job : Job} (hpending : m.pending job = true)
    {id cycle : Nat} {l : Loop} (hl : m.control.loop? id = some l)
    (hphase : l.phase = .collecting cycle)
    (hnot : ∀ l', (m.work job).control.loop? id = some l' → l'.phase ≠ .collecting cycle) :
    (m.work job).roundOver cycle = true := by
  obtain ⟨info, hinfo, rfl, hpurpose⟩ :=
    (h.reachable.coherent.collecting_iff id cycle).mp ⟨l, hl, hphase⟩
  obtain ⟨r, hr, rfl⟩ := List.mem_map.mp hinfo
  -- as long as the cycle is under way, its loop waits for it
  have hgone {r' : Round σ} (hr' : r' ∈ (m.work job).rounds) : r'.info ≠ r.info := by
    intro hsame
    obtain ⟨l', hl', hphase'⟩ := ((h.work hpending).reachable.coherent.collecting_iff id r.id).mpr
      ⟨r'.info, List.mem_map_of_mem hr', congrArg RoundInfo.id hsame, hsame ▸ hpurpose⟩
    exact hnot l' hl' hphase'
  have hafter := round_after h.reachable.wellFormed hr (.work job)
  rw [show m.after (.work job) = m.work job by rw [after_work, if_pos hpending]] at hafter
  rcases hafter with ⟨hstill, -⟩ | ⟨r', hr', hgoes⟩ | ⟨-, -, -, hfinished⟩
  · exact absurd rfl (hgone hstill)
  · exact absurd hgoes.info (hgone hr')
  · rw [hfinished, roundOver_eq_true]
    intro other hother
    rw [rounds_finish] at hother
    exact of_decide_eq_true (List.mem_filter.mp hother).2

/-- A loop that waits for its cycle goes on waiting, or the cycle is over and it is about to end. -/
theorem collecting_work (h : m.WindsDown) {wake : Wake} {job : Job}
    (hwait : (wake, job) ∈ m.waits) {id cycle : Nat} {l : Loop}
    (hl : m.control.loop? id = some l) (hphase : l.phase = .collecting cycle) :
    (m.work job).control.loop? id = some l ∨
      (m.work job).roundOver cycle = true ∧ (m.work job).Closing id := by
  rcases h.loop?_work hwait hl with hkept | ⟨phase, hleaves, hmoved⟩
  · exact .inl hkept
  · cases hleaves with
    | begins hjob hphase' =>
      refine .inr ⟨?_, _, hmoved, .inr ⟨_, rfl, ?_⟩⟩
      · apply h.roundOver_work (pending_iff.mpr ⟨wake, hwait⟩) hl hphase
        intro other hother
        obtain rfl := Option.some.inj (hmoved.symm.trans hother)
        exact LoopPhase.noConfusion
      · exact Nat.le_of_eq (now_work h.reachable.coherent job).symm
    | announces hphase' =>
      rw [hphase] at hphase'
      cases hphase'
    | ends hwake => simp [wakeOf?, hphase] at hwake

theorem closing_perform (h : m.WindsDown) {wake : Wake} {job : Job}
    (hnext : m.nextWait? = some (wake, job)) {id : Nat} (hclosing : m.Closing id) :
    (m.perform wake job).Closing id := by
  obtain ⟨l, hl, hends⟩ := hclosing
  rw [perform_eq_work]
  apply (h.elapsed wake.due).closing_work (nextWait?_eq_some hnext).1
  refine ⟨l, hl, hends.imp_right ?_⟩
  rintro ⟨due, hdue, hle⟩
  exact ⟨due, hdue, Nat.le_trans hle (Nat.le_max_left _ _)⟩

theorem collecting_perform (h : m.WindsDown) {wake : Wake} {job : Job}
    (hnext : m.nextWait? = some (wake, job)) {id cycle : Nat} {l : Loop}
    (hl : m.control.loop? id = some l) (hphase : l.phase = .collecting cycle) :
    (m.perform wake job).control.loop? id = some l ∨
      (m.perform wake job).roundOver cycle = true ∧ (m.perform wake job).Closing id := by
  rw [perform_eq_work]
  exact (h.elapsed wake.due).collecting_work (nextWait?_eq_some hnext).1 hl hphase

/-- What is due before a loop ends that is about to takes no time. -/
theorem now_passUntil (h : m.WindsDown) {id : Nat} (hclosing : m.Closing id) (limit fuel : Nat) :
    (passUntil (fun x => x.loopOver id) limit fuel m).now = m.now := by
  induction fuel generalizing m with
  | zero => rfl
  | succ fuel ih =>
    unfold passUntil
    cases hover : m.loopOver id with
    | true => rw [if_pos rfl]
    | false =>
      rw [if_neg Bool.false_ne_true]
      -- what the loop waits for is due, and so is what is waited for before that
      obtain ⟨l, hl, hends⟩ := hclosing
      have hnot : l.phase ≠ .ended := by
        rw [ne_eq, ← loopOver_iff h.reachable hl, hover]
        exact Bool.false_ne_true
      obtain ⟨due, hdue, hle⟩ := hends.resolve_left hnot
      have hwait : (due, Job.loop l.id) ∈ m.waits :=
        mem_waits_loop.mpr ⟨l, Control.mem_of_loop? hl, hdue, rfl⟩
      rcases hnext : m.nextWait? with - | ⟨wake, job⟩
      · rw [nextWait?_eq_none hnext] at hwait
        cases hwait
      · have hfirst : wake.due ≤ due.due := (nextWait?_eq_some hnext).2 _ hwait
        dsimp only
        split
        · rw [ih (h.perform hnext).1 (h.closing_perform hnext ⟨l, hl, hends⟩),
            now_perform h.reachable hnext]
          omega
        · show max m.now limit = m.now
          omega

end WindsDown

end Machine

end HourlySnapshots
