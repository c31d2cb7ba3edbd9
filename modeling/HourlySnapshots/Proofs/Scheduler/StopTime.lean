import HourlySnapshots.Proofs.Scheduler.Initialization
import HourlySnapshots.Proofs.Scheduler.Ledger
import HourlySnapshots.Proofs.Scheduler.LifeCycle
import HourlySnapshots.Proofs.Scheduler.Told

/-!
# How long a stop takes

A stop tells the worker's loop to shut down and waits until it is over, but not longer than
configured. Unless the loop is in a cycle, it is over before any time passes; in a cycle, it is over
when the cycle is. The stop cuts no cycle short: whatever is left of a cycle in flight goes on, also
when nobody waits for it any more, and the cycle is counted when it is over.
-/

namespace HourlySnapshots

/-! ## Loops that are ready -/

namespace Control

variable {c c' : Control}

/-- Every loop that is about to look for its next boundary may do so at once. -/
def Ready (c : Control) : Prop :=
  ∀ l ∈ c.loops, ∀ turn, l.phase = .beginning turn → turn.due ≤ c.now

namespace Ready

theorem congr (h : Ready c) (hloops : c'.loops = c.loops) (hnow : c.now ≤ c'.now) : Ready c' := by
  intro l hl turn hphase
  rw [hloops] at hl
  exact Nat.le_trans (h l hl turn hphase) hnow

theorem setPhase (h : Ready c) (loop : Nat) {phase : LoopPhase}
    (hphase : ∀ turn, phase = .beginning turn → turn.due ≤ c.now) :
    Ready (c.setPhase loop phase) := by
  intro l hl turn hbeginning
  obtain ⟨l₀, hl₀, rfl⟩ := List.mem_map.mp hl
  split at hbeginning
  · exact hphase turn hbeginning
  · exact h l₀ hl₀ turn hbeginning

theorem endLoop (h : Ready c) (loop : Nat) : Ready (c.endLoop loop) :=
  h.setPhase loop fun _ => LoopPhase.noConfusion

theorem backOff (h : Ready c) (loop order : Nat) : Ready (c.backOff loop order) :=
  backOff_cases (fun _ => h.endLoop loop) fun _ => h.setPhase loop fun _ => LoopPhase.noConfusion

theorem announce (h : Ready c) (loop : Nat) (turn : Wake) (target : Instant) :
    Ready (c.announce loop turn target) :=
  h.setPhase loop fun _ => LoopPhase.noConfusion

theorem dismiss (h : Ready c) (loop : Nat) : Ready (c.dismiss loop) := by
  intro l hl turn hphase
  obtain ⟨l₀, hl₀, rfl⟩ := List.mem_map.mp hl
  have hsame : l₀.phase = .beginning turn := by
    rw [← hphase]
    split <;> rfl
  exact h l₀ hl₀ turn hsame

/-- A loop that is started may look for its first boundary at once. -/
theorem startLoop (h : Ready c) (order : Nat) : Ready (c.startLoop order) := by
  intro l hl turn hphase
  rcases List.mem_append.mp hl with hold | hnew
  · exact h l hold turn hphase
  · obtain rfl := List.mem_singleton.mp hnew
    cases hphase
    exact Nat.le_refl _

/-- So may a loop whose cycle is over. -/
theorem finish (h : Ready c) (r : RoundInfo) (results : CycleResults) (order : Nat) :
    Ready (c.finish r results order) := by
  have hcounted (counted : Option CycleResults) :
      Ready ((c.count r.time results).endRound r counted) := h
  unfold Control.finish
  cases r.purpose with
  | direct => exact h
  | manual => exact hcounted _
  | automatic loop =>
    dsimp only
    split
    · apply (hcounted _).setPhase
      intro turn hturn
      cases hturn
      exact Nat.le_refl _
    · exact (hcounted none).backOff loop order

end Ready

end Control

namespace Machine

variable {σ : Type} {m : Machine σ}

/-! ### Moves that come in time -/

/-- Nothing acts before its wait is over. -/
def NotEarly (m : Machine σ) : Move σ → Prop
  | .work job => ∃ w ∈ m.waits, w.2 = job ∧ w.1.due ≤ m.now
  | _ => True

instance (m : Machine σ) : (move : Move σ) → Decidable (m.NotEarly move)
  | .work job => inferInstanceAs (Decidable (∃ w ∈ m.waits, w.2 = job ∧ w.1.due ≤ m.now))
  | .elapse _ | .setClock _ | .change _ | .prepare | .register _ | .start | .requestStop
  | .finishStop | .trigger _ | .runAll _ | .runAlone .. => inferInstanceAs (Decidable True)

/-- A machine that a run has led to in which nothing has acted before its wait was over. -/
def Unhurried (m : Machine σ) : Prop :=
  ∃ config fanOut factory clock world moves,
    (init config fanOut factory clock world).Along NotEarly moves ∧
      m = (init config fanOut factory clock world).afterAll moves

theorem Unhurried.reachable (h : m.Unhurried) : m.Reachable := by
  obtain ⟨config, fanOut, factory, clock, world, moves, -, rfl⟩ := h
  exact ⟨config, fanOut, factory, clock, world, moves, rfl⟩

theorem ready_beginWaiting (h : m.control.Ready) (loop : Nat) (turn : Wake) :
    (m.beginWaiting loop turn).control.Ready := by
  have hread : m.readClock.2.control.Ready := control_readClock m ▸ h
  unfold beginWaiting
  split
  · next hclock =>
    rw [hclock] at hread
    rw [control_endLoop]
    exact hread.endLoop loop
  · next hclock =>
    rw [hclock] at hread
    split
    · rw [control_announce]
      exact hread.announce loop turn _
    · rw [control_backOff]
      exact hread.backOff loop _

theorem ready_checkBoundary (h : m.control.Ready) (loop : Nat) (turn : Wake) (target : Instant) :
    (m.checkBoundary loop turn target).control.Ready := by
  have hread : m.readClock.2.control.Ready := control_readClock m ▸ h
  unfold checkBoundary
  split
  · next hclock =>
    rw [hclock] at hread
    rw [control_endLoop]
    exact hread.endLoop loop
  · next next hclock =>
    rw [hclock] at hread
    have hmoved {x : Machine σ} (hx : x.control.Ready) {phase : LoopPhase}
        (hphase : ∀ turn, phase ≠ .beginning turn) : (x.setPhase loop phase).control.Ready := by
      rw [control_setPhase]
      exact hx.setPhase loop fun turn hturn => absurd hturn (hphase turn)
    split
    · rw [control_note]
      exact hmoved hread fun _ => LoopPhase.noConfusion
    · split
      · rw [control_startRound]
        exact hmoved hread fun _ => LoopPhase.noConfusion
      · split
        · rw [control_announce]
          exact hread.announce loop turn _
        · rw [control_backOff]
          exact hread.backOff loop _

/-- A loop that goes on after an error has waited for its turn. -/
theorem ready_wakeLoop (h : m.control.Ready) {l : Loop} {wake : Wake}
    (hwake : wakeOf? l = some wake) (hdue : wake.due ≤ m.now) :
    (m.wakeLoop l).control.Ready := by
  unfold wakeLoop
  cases hphase : l.phase with
  | beginning turn => exact ready_beginWaiting h l.id turn
  | waiting target turn =>
    dsimp only
    split
    · rw [control_endLoop]
      exact h.endLoop l.id
    · exact ready_checkBoundary h l.id turn target
  | collecting cycle => exact h
  | backingOff turn =>
    dsimp only
    split
    · rw [control_endLoop]
      exact h.endLoop l.id
    · rw [control_setPhase]
      apply h.setPhase
      intro turn' hturn
      cases hturn
      simp only [wakeOf?, hphase, Option.some.injEq] at hwake
      exact hwake ▸ hdue
  | ended => exact h

theorem loops_trigger (m : Machine σ) (time : Option Instant) :
    (m.trigger time).2.loops = m.loops := by
  have hready := congrArg Control.loops (control_ensureInitialized m)
  unfold trigger
  rcases hbuilt : m.ensureInitialized with ⟨answer, next⟩
  rw [hbuilt] at hready
  have hstarted (x : Machine σ) (time : Instant) :
      (x.startRound .manual time x.registry none).2.loops = x.loops :=
    congrArg Control.loops (control_startRound x .manual time x.registry none)
  cases answer with
  | error e => exact hready
  | ok report =>
    cases time with
    | some time => exact (hstarted next _).trans hready
    | none =>
      rcases hclock : next.readClock with ⟨reading, read⟩
      have hread : read.loops = next.loops := by
        rw [show read = next.readClock.2 by rw [hclock]]
        rfl
      simp only [hclock]
      cases reading with
      | none => exact hread.trans hready
      | some now => exact ((hstarted read _).trans hread).trans hready

/-- What comes in time leaves every loop ready that is about to look for its next boundary. -/
theorem ready_after (hm : m.Reachable) (h : m.control.Ready) {move : Move σ}
    (hmove : m.NotEarly move) : (m.after move).control.Ready := by
  cases move with
  | elapse limit => exact h.congr rfl (Nat.le_max_left _ _)
  | setClock | change | runAlone => exact h
  | work job =>
    obtain ⟨⟨wake, job⟩, hwait, rfl, hdue⟩ := hmove
    have hpending : m.pending job = true := pending_iff.mpr ⟨wake, hwait⟩
    rw [after_work, if_pos hpending]
    cases hjob : job.isFanned with
    | true =>
      rcases control_fanned hm hjob hpending with hsame | ⟨r, -, hfinish⟩
      · exact hsame ▸ h
      · rw [hfinish, control_finish]
        exact h.finish _ _ _
    | false =>
      cases job with
      | loop id =>
        obtain ⟨l, hl, hwake, rfl⟩ := mem_waits_loop.mp hwait
        rw [work_loop, show (m.loops.find? fun other => other.id == l.id) = some l from
          hm.coherent.loop?_of_mem hl]
        exact ready_wakeLoop h hwake hdue
      | turn round => cases hjob
      | call round order => cases hjob
  | prepare => exact (control_ensureInitialized m).symm ▸ h
  | register c => exact (control_register m c).symm ▸ h
  | start =>
    rw [after_start]
    split
    · exact h
    · cases hworker : m.worker with
      | some loop => simpa [Machine.start, hworker] using h
      | none =>
        rcases control_start m hworker with ⟨-, order, hstarted⟩ | ⟨-, hfailed⟩
        · have hstarting : (m.control.setState .starting).Ready := h
          exact hstarted ▸ hstarting.startLoop order
        · exact hfailed ▸ h
  | requestStop =>
    rw [after_requestStop]
    split
    · exact h
    · cases hworker : m.worker with
      | none => simpa [requestStop, hworker] using h
      | some loop =>
        rw [(control_requestStop m hworker).2]
        split
        · exact (h.dismiss loop).endLoop loop
        · exact h.dismiss loop
  | finishStop =>
    rw [after_finishStop]
    split
    · exact h
    · exact h
  | trigger time =>
    have hnow := (step_trigger m time).now Control.Cause.noConfusion
    exact h.congr (loops_trigger m time) (Nat.le_of_eq hnow.symm)
  | runAll time =>
    have hstarted := control_startRound m .direct time m.registry none
    exact (show (m.after (.runAll time)).control = _ from hstarted) ▸ h

theorem Unhurried.ready (h : m.Unhurried) : m.control.Ready := by
  obtain ⟨config, fanOut, factory, clock, world, moves, halong, rfl⟩ := h
  refine (reachable_init config fanOut factory clock world).along_induction
    (P := fun x => x.control.Ready) halong ?_ fun hx hmove h => ready_after hx h hmove
  intro l hl
  cases hl

/-! ## The loop that is waited for -/

/-- How long a loop in its cycle is waited for: until the cycle is over, or up to the limit. -/
theorem WindsDown.now_passUntil_of_overAt {id cycle t limit fuel : Nat} {l : Loop}
    (h : m.WindsDown) (hl : m.control.loop? id = some l) (hphase : l.phase = .collecting cycle)
    (hover : m.OverAt cycle t) (hle : m.now ≤ limit) (hfuel : m.stepsLeft < fuel) :
    (passUntil (fun x => x.loopOver id) limit fuel m).now = min t limit := by
  induction hover generalizing fuel with
  | @ended m hover =>
    -- the loop would not wait for its cycle any more
    obtain ⟨info, hinfo, rfl, -⟩ :=
      (h.reachable.coherent.collecting_iff id cycle).mp ⟨l, hl, hphase⟩
    obtain ⟨r, hr, rfl⟩ := List.mem_map.mp hinfo
    exact absurd rfl (roundOver_eq_true.mp hover r hr)
  | @act m wake job t hnot hnext hrest ih =>
    have hwaits : m.loopOver id = false := by
      rw [Bool.eq_false_iff, ne_eq, loopOver_iff h.reachable hl, hphase]
      exact LoopPhase.noConfusion
    obtain ⟨hdown, hless⟩ := h.perform hnext
    have hnow := now_perform h.reachable hnext
    obtain ⟨fuel, rfl⟩ := Nat.exists_eq_add_one_of_ne_zero (Nat.ne_of_gt (Nat.zero_lt_of_lt hfuel))
    unfold passUntil
    rw [hwaits, if_neg Bool.false_ne_true, hnext]
    dsimp only
    by_cases hdue : wake.due < limit
    · rw [if_pos hdue]
      rcases h.collecting_perform hnext hl hphase with hkept | ⟨hover, hclosing⟩
      · apply ih hdown hkept
        · omega
        · omega
      · rw [hdown.now_passUntil hclosing, hrest.eq_now hover]
        omega
    · -- the limit is reached before anything else is done for the cycle
      have hlate := hrest.now_le hdown.reachable
      rw [if_neg hdue]
      show max m.now limit = min t limit
      omega

/-! ## The request to stop -/

section

variable {loop : Nat}

/-- Telling the worker's loop to shut down takes the worker away, and no time. -/
theorem requestStop_spares (hworker : m.worker = some loop) :
    m.requestStop.2.worker = none ∧ m.requestStop.2.now = m.now ∧
      m.requestStop.2.clock = m.clock ∧ m.requestStop.2.config = m.config := by
  have hcontrol := (control_requestStop m hworker).2
  show m.requestStop.2.control.worker = none ∧ m.requestStop.2.control.now = m.now ∧
    m.requestStop.2.control.clock = m.clock ∧ m.requestStop.2.control.config = m.config
  rw [hcontrol]
  split <;> exact ⟨rfl, rfl, rfl, rfl⟩

/-- Once its worker has been told to shut down, a scheduler winds down. -/
theorem windsDown_requestStop (hm : m.Reachable) (hclock : ∀ now k, m.clock now k ≠ none)
    (hworker : m.worker = some loop) : m.requestStop.2.WindsDown := by
  obtain ⟨hnone, -, hsame, -⟩ := requestStop_spares hworker
  have hrunning : m.state = .running := hm.coherent.running_of_worker hworker
  have hreachable := hm.after .requestStop
  rw [after_requestStop, if_neg (by simp [hrunning])] at hreachable
  exact ⟨hreachable, hnone, hsame ▸ hclock⟩

/-- A stop that has a loop to stop waits for it, and is done. -/
theorem stop_of_worker (hworker : m.worker = some loop) :
    m.stop = (m.requestStop.2.await (fun x => x.loopOver loop)
      (m.now + toMillis m.config.shutdownTimeout)).finishStop := by
  have hrequest : m.requestStop = (some loop, m.requestStop.2) :=
    Prod.ext (control_requestStop m hworker).1 rfl
  obtain ⟨-, hnow, -, hconfig⟩ := requestStop_spares hworker
  rw [stop, hrequest]
  dsimp only
  rw [hnow, hconfig]

theorem now_finishStop (m : Machine σ) : m.finishStop.now = m.now := rfl

theorem clock_finishStop (m : Machine σ) : m.finishStop.clock = m.clock := rfl

theorem state_finishStop (m : Machine σ) : m.finishStop.state = .stopped := rfl

/-- A loop that is not in a cycle is about to end as soon as it has been told. -/
theorem closing_requestStop {l : Loop} (hready : m.control.Ready) (hworker : m.worker = some loop)
    (hl : m.control.loop? loop = some l) (hphase : ∀ cycle, l.phase ≠ .collecting cycle) :
    m.requestStop.2.Closing loop := by
  have hcontrol := (control_requestStop m hworker).2
  obtain ⟨-, hnow, -, -⟩ := requestStop_spares hworker
  rw [hl, Option.any_some] at hcontrol
  have htold : (m.control.dismiss loop).loop? loop = some { l with shutdown := true } := by
    show (m.control.flag loop).loop? loop = _
    rw [Control.loop?_flag_self, hl]
    rfl
  have hended (hasleep : l.asleep = true) : m.requestStop.2.Closing loop := by
    refine ⟨{ l with shutdown := true, phase := .ended }, ?_, .inl rfl⟩
    rw [hcontrol, if_pos hasleep]
    show ((m.control.dismiss loop).setPhase loop .ended).loop? loop = _
    rw [Control.loop?_setPhase_self, htold]
    rfl
  have hawake (hawake : l.asleep = false) : m.requestStop.2.control.loop? loop =
      some { l with shutdown := true } := by
    rw [hcontrol, hawake, if_neg Bool.false_ne_true, htold]
  cases hcases : l.phase with
  | beginning turn =>
    refine ⟨_, hawake (by rw [Loop.asleep, hcases]), .inr ⟨turn, ?_, ?_⟩⟩
    · simp only [wakeOf?, hcases]
    · rw [hnow]
      exact hready l (Control.mem_of_loop? hl) turn hcases
  | waiting target turn => exact hended (by rw [Loop.asleep, hcases])
  | collecting cycle => exact absurd hcases (hphase cycle)
  | backingOff turn => exact hended (by rw [Loop.asleep, hcases])
  | ended => exact ⟨_, hawake (by rw [Loop.asleep, hcases]), .inl hcases⟩

/-- A loop in a cycle goes on with it when it has been told. -/
theorem told_requestStop {l : Loop} {cycle : Nat} (hworker : m.worker = some loop)
    (hl : m.control.loop? loop = some l) (hphase : l.phase = .collecting cycle) :
    Told loop m m.requestStop.2 ∧
      m.requestStop.2.control.loop? loop = some { l with shutdown := true } := by
  have hfind : ((m.loops.map fun (l : Loop) =>
      if l.id = loop then { l with shutdown := true } else l).find? fun l => l.id == loop) =
        some { l with shutdown := true } := by
    have hflag := Control.loop?_flag_self (c := m.control) loop
    rw [hl] at hflag
    exact hflag
  have hrequest : m.requestStop = (some loop, ({ m with
      loops := m.loops.map fun (l : Loop) => if l.id = loop then { l with shutdown := true } else l
      state := .stopping, worker := none
      history := .shutdownSent loop :: .stateChanged .stopping :: m.history } : Machine σ)) := by
    obtain ⟨id, shutdown, phase⟩ := l
    obtain rfl : phase = .collecting cycle := hphase
    simp only [requestStop, hworker, sendShutdown, setState, note, hfind]
  rw [hrequest]
  exact ⟨⟨_, _, _, _, rfl⟩, hfind⟩

end

/-- A stop lasts no time unless the worker's loop is in a cycle. -/
theorem Unhurried.now_stop {l : Loop} (hm : m.Unhurried)
    (hclock : ∀ now k, m.clock now k ≠ none) (hworker : m.worker = some l.id)
    (hl : m.control.loop? l.id = some l) (hphase : ∀ cycle, l.phase ≠ .collecting cycle) :
    m.stop.now = m.now := by
  have hdown := windsDown_requestStop hm.reachable hclock hworker
  have hclosing := closing_requestStop hm.ready hworker hl hphase
  rw [stop_of_worker hworker, now_finishStop]
  unfold await
  rw [hdown.now_passUntil hclosing]
  exact (requestStop_spares hworker).2.1

/-- While the loop is in a cycle, a stop lasts until the cycle is over, or as long as configured. -/
theorem Reachable.now_stop {l : Loop} {cycle : Nat} (hm : m.Reachable)
    (hclock : ∀ now k, m.clock now k ≠ none) (hworker : m.worker = some l.id)
    (hl : m.control.loop? l.id = some l) (hphase : l.phase = .collecting cycle) :
    ∃ t, m.OverAt cycle t ∧ m.stop.now = min t (m.now + toMillis m.config.shutdownTimeout) := by
  have hdown := windsDown_requestStop hm hclock hworker
  obtain ⟨-, hnow, -, -⟩ := requestStop_spares hworker
  obtain ⟨htold, hloop⟩ := told_requestStop hworker hl hphase
  obtain ⟨t, hover⟩ := hdown.exists_overAt cycle
  -- the cycle lasts as long as it would have without the stop
  refine ⟨t, htold.overAt hdown hloop hphase hover, ?_⟩
  have hle : m.requestStop.2.now ≤ m.now + toMillis m.config.shutdownTimeout := by omega
  rw [stop_of_worker hworker, now_finishStop]
  unfold await
  exact hdown.now_passUntil_of_overAt hloop hphase hover hle (WindsDown.stepsLeft_lt_movesFor hle)

/-! ## After the stop -/

theorem state_stop {loop : Nat} (hworker : m.worker = some loop) : m.stop.state = .stopped := by
  rw [stop_of_worker hworker, state_finishStop]

/-- A stopped scheduler winds down. -/
theorem windsDown_stop {loop : Nat} (hm : m.Reachable) (hclock : ∀ now k, m.clock now k ≠ none)
    (hworker : m.worker = some loop) : m.stop.WindsDown := by
  have hdown := windsDown_requestStop hm hclock hworker
  have hrunning : m.state = .running := hm.coherent.running_of_worker hworker
  have hreachable : m.stop.Reachable := hm.stop (by simp [hrunning])
  refine ⟨hreachable, hreachable.coherent.worker_eq_none ?_, ?_⟩
  · rw [show m.stop.control.state = .stopped from state_stop hworker]
    decide
  · have hwaited := await_passes hdown.reachable (fun x => x.loopOver loop)
      (m.now + toMillis m.config.shutdownTimeout)
    have hsame : m.stop.clock = m.requestStop.2.clock := by
      rw [stop_of_worker hworker, clock_finishStop]
      exact hwaited.clock_eq hdown.reachable
    rw [hsame]
    exact hdown.clock

/-- Once the collectors are built, a scheduler without a worker can be started. -/
theorem start_of_initialized (hworker : m.worker = none) (hbuilt : m.initialized = true) :
    m.start.1 = .ok () ∧ m.start.2.state = .running ∧
      ∃ l turn, m.start.2.loops = m.loops ++ [l] ∧ m.start.2.worker = some l.id ∧
        l.shutdown = false ∧ l.phase = .beginning turn ∧ turn.due = m.now := by
  rcases control_start m hworker with ⟨hok, order, hstarted⟩ | ⟨⟨e, hfailed⟩, -⟩
  · refine ⟨hok, congrArg Control.state hstarted,
      ⟨m.nextId, false, .beginning ⟨m.now, false, order⟩⟩, ⟨m.now, false, order⟩,
      ?_, ?_, rfl, rfl, rfl⟩
    · exact congrArg Control.loops hstarted
    · exact congrArg Control.worker hstarted
  · have hagain := ensureInitialized_again (m := m.setState .starting) hbuilt
    simp [start, hworker, hagain] at hfailed

/-- A scheduler that runs has built its collectors, also after it has been stopped. -/
theorem initialized_stop (hm : m.Reachable) (hrunning : m.state = .running) :
    m.stop.initialized = true := by
  have hbuilt : m.initialized = true := by
    by_contra hnot
    have hstopped := hm.stopped_of_not_initialized (by simpa using hnot)
    rw [show m.control.state = .running from hrunning] at hstopped
    cases hstopped
  obtain ⟨moves, -, hstop⟩ := stop_afterAll hm (by simp [hrunning])
  have hsetup := setup_afterAll hbuilt (.requestStop :: moves)
  rw [afterAll_cons, ← hstop] at hsetup
  exact (congrArg Prod.fst hsetup).trans hbuilt

/-! ## Cycles in flight -/

/-- A cycle that was under way is over: all its collectors were called, and it was counted once. -/
structure Counted (e : Machine σ) (r : Round σ) : Prop where
  ended : e.roundOver r.id = true
  complete : ((entriesOf r.id e.history).map Prod.fst).Perm r.names
  once : ((cyclesEnded e.history).map Prod.fst).count r.id = 1
  total : e.stats.totalRuns = (cyclesEnded e.history).length

/-- A cycle that is over in the end has been counted. -/
theorem Reachable.counted_of_over (hm : m.Reachable) {r : Round σ} (hr : r ∈ m.rounds)
    (hpurpose : r.purpose ≠ .direct) {moves : List (Move σ)}
    (hover : (m.afterAll moves).roundOver r.id = true) : (m.afterAll moves).Counted r := by
  have hafter := (hm.afterAll moves).balanced
  have hunder : r.id ∈ m.control.cycles := by
    rw [cycles_control]
    exact List.mem_map_of_mem (List.mem_filter.mpr ⟨hr, by simpa using hpurpose⟩)
  have hstarted : r.id ∈ cyclesStarted m.control.history :=
    hm.balanced.accounted.mem_iff.mpr (List.mem_append_right _ hunder)
  have hstill : r.id ∈ cyclesStarted (m.afterAll moves).control.history :=
    ((hm.history_suffix moves).filterMap _).mem hstarted
  -- it was started and is not under way, so it has ended
  have hgone : r.id ∉ (m.afterAll moves).control.cycles := by
    rw [cycles_control]
    intro hmem
    obtain ⟨other, hother, hid⟩ := List.mem_map.mp hmem
    exact roundOver_eq_true.mp hover other (List.mem_of_mem_filter hother) hid
  have hended : r.id ∈ (cyclesEnded (m.afterAll moves).control.history).map Prod.fst :=
    (List.mem_append.mp (hafter.accounted.mem_iff.mp hstill)).resolve_right hgone
  have hnodup := (hafter.accounted.nodup_iff.mp hafter.started_once).of_append_left
  refine ⟨hover, hm.names_afterAll hr moves hover, ?_, ?_⟩
  · rw [← cyclesEnded_control]
    exact List.count_eq_one_of_mem hnodup hended
  · rw [← cyclesEnded_control]
    exact hafter.total

/-- Whatever happens, a cycle goes on with all its collectors until it is over and counted. -/
theorem Reachable.cycle_afterAll (hm : m.Reachable) {r : Round σ} (hr : r ∈ m.rounds)
    (hpurpose : r.purpose ≠ .direct) (moves : List (Move σ)) :
    (∃ r' ∈ (m.afterAll moves).rounds, r'.info = r.info ∧ r'.names.Perm r.names) ∨
      (m.afterAll moves).Counted r := by
  rcases hm.follow (keeps_names r) hr rfl (.refl _) (along_true m moves) with hgoes | ⟨x, r', hended, -⟩
  · exact .inl hgoes
  · exact .inr (hm.counted_of_over hr hpurpose (roundOver_eq_true.mpr hended.gone.gone))

/-! ## Stopping -/

/--
While the clock can be read, a stop of a running scheduler takes no time unless the worker's loop is
in a cycle, and then the smaller of the time left until the cycle is over and the timeout. The
scheduler is stopped then and can be started again. Every cycle that was in flight keeps all its
collectors until it is over and counted, whatever is done after the stop; and if time lapses, all of
them are.
-/
theorem stop_waits_for_cycle (hm : m.Unhurried) (hclock : ∀ now k, m.clock now k ≠ none)
    (hrunning : m.state = .running) :
    (∃ l ∈ m.loops, m.worker = some l.id ∧
      ((∀ cycle, l.phase ≠ .collecting cycle) → m.stop.now = m.now) ∧
      ∀ cycle, l.phase = .collecting cycle →
        (∃ r ∈ m.rounds, r.id = cycle ∧ r.purpose = .automatic l.id) ∧
        ∃ t, m.OverAt cycle t ∧
          m.stop.now = m.now + min (t - m.now) (toMillis m.config.shutdownTimeout)) ∧
    (m.stop.state = .stopped ∧ m.stop.worker = none ∧
      m.stop.start.1 = .ok () ∧ m.stop.start.2.state = .running ∧
      ∃ l turn, m.stop.start.2.loops = m.stop.loops ++ [l] ∧ m.stop.start.2.worker = some l.id ∧
        l.shutdown = false ∧ l.phase = .beginning turn ∧ turn.due = m.stop.now) ∧
    (∀ r ∈ m.rounds, r.purpose ≠ .direct → ∀ moves : List (Move σ),
      (∃ r' ∈ (m.stop.afterAll moves).rounds, r'.info = r.info ∧ r'.names.Perm r.names) ∨
        (m.stop.afterAll moves).Counted r) ∧
    ∃ e, m.stop.Lapses e ∧ e.rounds = [] ∧
      ∀ r ∈ m.rounds, r.purpose ≠ .direct → e.Counted r := by
  have hreachable := hm.reachable
  have hcoherent := hreachable.coherent
  obtain ⟨loop, hworker⟩ : ∃ loop, m.worker = some loop :=
    Option.isSome_iff_exists.mp (hcoherent.running_iff.mp hrunning)
  obtain ⟨l, hl, -⟩ := (hcoherent.worker_iff loop).mp hworker
  obtain rfl := Control.loop?_id hl
  have hdown := windsDown_stop hreachable hclock hworker
  obtain ⟨moves, -, hstop⟩ := stop_afterAll hreachable (by simp [hrunning])
  -- what is done after the stop is done after the moves that the stop has made
  have hsince (after : List (Move σ)) :
      m.stop.afterAll after = m.afterAll (.requestStop :: moves ++ after) := by
    rw [hstop, afterAll_append, afterAll_cons]
  refine ⟨⟨l, Control.mem_of_loop? hl, hworker, ?_, ?_⟩, ⟨state_stop hworker, hdown.worker, ?_⟩,
    ?_, ?_⟩
  · intro hphase
    exact hm.now_stop hclock hworker hl hphase
  · intro cycle hphase
    obtain ⟨info, hinfo, hid, hpurpose⟩ := (hcoherent.collecting_iff l.id cycle).mp ⟨l, hl, hphase⟩
    obtain ⟨r, hr, rfl⟩ := List.mem_map.mp hinfo
    obtain ⟨t, hover, hnow⟩ := hreachable.now_stop hclock hworker hl hphase
    have hle := hover.now_le hreachable
    refine ⟨⟨r, hr, hid, hpurpose⟩, t, hover, ?_⟩
    omega
  · exact start_of_initialized hdown.worker (initialized_stop hreachable hrunning)
  · intro r hr hpurpose after
    rw [hsince]
    exact hreachable.cycle_afterAll hr hpurpose _
  · obtain ⟨e, hlapses, hidle⟩ := hdown.exists_idle
    have hnone := rounds_eq_nil (hlapses.reachable hdown.reachable) hidle
    refine ⟨e, hlapses, hnone, fun r hr hpurpose => ?_⟩
    obtain ⟨after, -, -, rfl⟩ := hlapses.passes hdown.reachable
    rw [hsince] at hnone ⊢
    apply hreachable.counted_of_over hr hpurpose
    rw [roundOver_eq_true, hnone]
    intro other hother
    cases hother

/--
A stop that gives up after one second on a cycle with nine seconds left; the cycle calls its
collector to the end and is counted, and the scheduler could be started again meanwhile.
-/
theorem stop_gives_up_on_slow_cycle :
    let slow : Registered Unit := ⟨⟨"slow", "", ""⟩, fun _ => 10000, fun _ w => (some true, w)⟩
    let start : Instant := ⟨1719828299, 0, by decide, by decide, by decide, by decide⟩
    let m := (init ⟨300 * second, 300 * second, second, 60 * second⟩ .sequential
        (fun w => (.ok [slow], w))
        (fun now _ => some ((start.add? (now * millisecond)).getD start)) ()).afterAll
      [.start, .work (.loop 0), .work (.loop 0), .elapse 1000, .work (.loop 0), .work (.turn 1),
        .work (.call 1 3), .elapse 2000]
    m.now = 2000 ∧ m.stop.now = 3000 ∧ (∃ t, 3000 ≤ t ∧ m.OverAt 1 t) ∧
      m.stop.start.1 = .ok () ∧ ∃ e, m.stop.Lapses e ∧
        (entriesOf 1 e.history).map Prod.fst = ["slow"] ∧ 0 < e.stats.totalRuns := by
  intro slow start m
  have hm : m.Unhurried := ⟨_, _, _, _, _, _, by decide +kernel, rfl⟩
  have hclock : ∀ now k, m.clock now k ≠ none := by
    rw [(reachable_init _ _ _ _ _).clock_afterAll (by simp [Move.cause])]
    exact fun _ _ => Option.some_ne_none _
  have hnow : m.now = 2000 := by decide +kernel
  have htimeout : toMillis m.config.shutdownTimeout = 1000 := by decide +kernel
  have hphase : ∀ l ∈ m.loops, l.phase = .collecting 1 := by decide +kernel
  have hstop : m.stop.now = 3000 := by decide +kernel
  obtain ⟨⟨l, hl, -, -, hcycle⟩, ⟨-, -, hagain, -⟩, -, e, hlapses, -, hcounted⟩ :=
    stop_waits_for_cycle hm hclock (by decide +kernel)
  obtain ⟨⟨r, hr, hid, hpurpose⟩, t, hover, hend⟩ := hcycle 1 (hphase l hl)
  have hnames : ∀ r ∈ m.rounds, r.names = ["slow"] := by decide +kernel
  obtain ⟨-, hcomplete, honce, htotal⟩ := hcounted r hr (by simp [hpurpose])
  rw [hid] at hcomplete honce
  rw [hnames r hr] at hcomplete
  refine ⟨hnow, hstop, ⟨t, by omega, hover⟩, hagain, e, hlapses, ?_, ?_⟩
  · exact List.perm_singleton.mp hcomplete
  · have hmem : 1 ∈ (cyclesEnded e.history).map Prod.fst := List.count_pos_iff.mp (by omega)
    have hpos := List.length_pos_of_mem hmem
    rw [List.length_map] at hpos
    omega

end Machine

end HourlySnapshots
