import HourlySnapshots.Proofs.Scheduler.Control

/-!
# Loops, their worker and their cycles

What every reachable control has in common: ids are given once, the worker is the one loop that
has not been told to shut down, and a loop waits for the end of a cycle exactly while the cycle it
started goes on. The loops that a stop has left behind therefore never start a cycle again.
-/

namespace HourlySnapshots

namespace Control

variable {c c' : Control}

/-! ## Loops after a change of phase -/

/-- A loop of a changed control is a loop of the control before, with another phase at most. -/
theorem exists_of_loop?_setPhase {loop id : Nat} {phase : LoopPhase} {l : Loop}
    (h : (c.setPhase loop phase).loop? id = some l) :
    ∃ l₀, c.loop? id = some l₀ ∧ l.shutdown = l₀.shutdown ∧
      l.phase = if id = loop then phase else l₀.phase := by
  by_cases hid : id = loop
  · subst hid
    rw [loop?_setPhase_self] at h
    obtain ⟨l₀, hl₀, rfl⟩ := Option.map_eq_some_iff.mp h
    exact ⟨l₀, hl₀, rfl, by simp⟩
  · rw [loop?_setPhase_ne hid] at h
    exact ⟨l, h, rfl, by simp [hid]⟩

/-- Taking the worker away leaves every loop its phase, and tells at most one to shut down. -/
theorem exists_of_loop?_dismiss {loop id : Nat} {l : Loop}
    (h : (c.dismiss loop).loop? id = some l) :
    ∃ l₀, c.loop? id = some l₀ ∧ l.phase = l₀.phase ∧
      (l.shutdown = false → l₀.shutdown = false) := by
  have hflagged : (c.flag loop).loop? id = some l := h
  rw [loop?_flag] at hflagged
  obtain ⟨l₀, hl₀, rfl⟩ := Option.map_eq_some_iff.mp hflagged
  refine ⟨l₀, hl₀, ?_, fun hrunning => ?_⟩
  · split <;> rfl
  · split at hrunning
    · cases hrunning
    · exact hrunning

theorem map_id_setPhase (loops : List Loop) (loop : Nat) (phase : LoopPhase) :
    (loops.map fun l => if l.id = loop then { l with phase := phase } else l).map Loop.id =
      loops.map Loop.id := by
  rw [List.map_map]
  refine List.map_congr_left fun l _ => ?_
  simp only [Function.comp]
  split <;> rfl

theorem lt_setPhase {loop bound : Nat} {phase : LoopPhase} (h : ∀ l ∈ c.loops, l.id < bound) :
    ∀ l ∈ (c.setPhase loop phase).loops, l.id < bound := by
  intro l hl
  obtain ⟨l₀, hl₀, rfl⟩ := List.mem_map.mp hl
  have hlt := h l₀ hl₀
  split <;> exact hlt

/-- What a loop does changes nothing in whether it has been told to shut down. -/
theorem running_setPhase_iff (loop : Nat) (phase : LoopPhase) (id : Nat) :
    (∃ l, (c.setPhase loop phase).loop? id = some l ∧ l.shutdown = false) ↔
      ∃ l, c.loop? id = some l ∧ l.shutdown = false := by
  by_cases hid : id = loop
  · subst hid
    simp
  · rw [loop?_setPhase_ne hid]

/-- What has an id is found by it, as ids differ. -/
theorem find?_of_nodup {α : Type} {id : α → Nat} {xs : List α} (hids : (xs.map id).Nodup) {x : α}
    (hx : x ∈ xs) : (xs.find? fun other => id other == id x) = some x := by
  cases hfind : xs.find? fun other => id other == id x with
  | none => simpa using List.find?_eq_none.mp hfind x hx
  | some other =>
    have hid : id other = id x := by simpa using List.find?_some hfind
    rw [List.inj_on_of_nodup_map hids (List.mem_of_find?_eq_some hfind) hx hid]

/-! ## Coherence -/

/-- What the loops, the worker, the fan-outs and the state have to do with each other. -/
structure Coherent (c : Control) : Prop where
  loop_ids : (c.loops.map Loop.id).Nodup
  loop_lt : ∀ l ∈ c.loops, l.id < c.nextId
  round_ids : (c.rounds.map RoundInfo.id).Nodup
  round_lt : ∀ r ∈ c.rounds, r.id < c.nextId
  /-- The worker is the one loop that has not been told to shut down. -/
  worker_iff : ∀ id, c.worker = some id ↔ ∃ l, c.loop? id = some l ∧ l.shutdown = false
  /-- A loop waits for the end of a cycle exactly while the cycle goes on. -/
  collecting_iff : ∀ id cycle, (∃ l, c.loop? id = some l ∧ l.phase = .collecting cycle) ↔
    ∃ r ∈ c.rounds, r.id = cycle ∧ r.purpose = .automatic id
  running_iff : c.state = .running ↔ c.worker.isSome
  settled : c.state ≠ .starting

namespace Coherent

/-- Coherence is a matter of the loops, the fan-outs, the worker, the state and the ids. -/
theorem congr (h : Coherent c) (hloops : c'.loops = c.loops) (hrounds : c'.rounds = c.rounds)
    (hworker : c'.worker = c.worker) (hstate : c'.state = c.state)
    (hnext : c'.nextId = c.nextId) : Coherent c' := by
  have hloop : ∀ id, c'.loop? id = c.loop? id := fun id => by rw [loop?, loop?, hloops]
  constructor
  · rw [hloops]; exact h.loop_ids
  · rw [hloops, hnext]; exact h.loop_lt
  · rw [hrounds]; exact h.round_ids
  · rw [hrounds, hnext]; exact h.round_lt
  · simp only [hworker, hloop]; exact h.worker_iff
  · simp only [hrounds, hloop]; exact h.collecting_iff
  · rw [hstate, hworker]; exact h.running_iff
  · rw [hstate]; exact h.settled

/-- Without a worker, the scheduler may be stopped. -/
theorem stop (h : Coherent c) (hnone : c.worker = none) (hloops : c'.loops = c.loops)
    (hrounds : c'.rounds = c.rounds) (hworker : c'.worker = c.worker)
    (hstate : c'.state = .stopped) (hnext : c'.nextId = c.nextId) : Coherent c' := by
  have hsame : Coherent { c' with state := c.state } := h.congr hloops hrounds hworker rfl hnext
  constructor
  · exact hsame.loop_ids
  · exact hsame.loop_lt
  · exact hsame.round_ids
  · exact hsame.round_lt
  · exact hsame.worker_iff
  · exact hsame.collecting_iff
  · simp [hstate, hworker, hnone]
  · simp [hstate]

/-- The loop of an id is the only one with that id. -/
theorem loop?_of_mem (h : Coherent c) {l : Loop} (hl : l ∈ c.loops) : c.loop? l.id = some l :=
  find?_of_nodup h.loop_ids hl

theorem loop?_nextId (h : Coherent c) : c.loop? c.nextId = none := by
  refine List.find?_eq_none.mpr fun l hl => ?_
  have hlt := h.loop_lt l hl
  simp
  omega

/-- A scheduler that is not running has no worker. -/
theorem worker_eq_none (h : Coherent c) (hstate : c.state ≠ .running) : c.worker = none := by
  rw [ne_eq, h.running_iff] at hstate
  simpa using hstate

/-! ## What keeps controls coherent -/

theorem init (h₁ : c.loops = []) (h₂ : c.rounds = []) (h₃ : c.worker = none)
    (h₄ : c.state = .stopped) : Coherent c := by
  constructor <;> simp [loop?, h₁, h₂, h₃, h₄]

/-- A loop that does not wait for a cycle may do anything but wait for one. -/
theorem setPhase (h : Coherent c) {l : Loop} {phase : LoopPhase} (hl : c.loop? l.id = some l)
    (hbefore : ∀ cycle, l.phase ≠ .collecting cycle) (hafter : ∀ cycle, phase ≠ .collecting cycle) :
    Coherent (c.setPhase l.id phase) where
  loop_ids := by
    rw [setPhase_loops, map_id_setPhase]
    exact h.loop_ids
  loop_lt := lt_setPhase h.loop_lt
  round_ids := h.round_ids
  round_lt := h.round_lt
  worker_iff id := (h.worker_iff id).trans (running_setPhase_iff _ _ _).symm
  collecting_iff id cycle := by
    refine Iff.trans ?_ (h.collecting_iff id cycle)
    by_cases hid : id = l.id
    · subst hid
      simp [hl, hbefore, hafter]
    · rw [loop?_setPhase_ne hid]
  running_iff := h.running_iff
  settled := h.settled

/-- The id of a new fan-out is not taken. -/
theorem round_ids_append (h : Coherent c) (purpose : Purpose) (time : Instant) :
    ((c.rounds ++ [RoundInfo.mk c.nextId purpose time]).map RoundInfo.id).Nodup := by
  have hfresh : ∀ r ∈ c.rounds, r.id ≠ c.nextId := fun r hr => Nat.ne_of_lt (h.round_lt r hr)
  rw [List.map_append, List.nodup_append]
  refine ⟨h.round_ids, by simp, ?_⟩
  simpa using hfresh

theorem round_lt_append (h : Coherent c) (purpose : Purpose) (time : Instant) :
    ∀ r ∈ c.rounds ++ [RoundInfo.mk c.nextId purpose time], r.id < c.nextId + 1 := by
  intro r hr
  rcases List.mem_append.mp hr with hr | hr
  · exact Nat.lt_succ_of_lt (h.round_lt r hr)
  · rw [List.mem_singleton.mp hr]
    exact Nat.lt_succ_self c.nextId

/-- A fan-out that no loop waits for begins. -/
theorem startRound (h : Coherent c) {purpose : Purpose}
    (hpurpose : ∀ loop, purpose ≠ .automatic loop)
    (time : Instant) (released : Option Instant) :
    Coherent (c.startRound purpose time released) where
  loop_ids := h.loop_ids
  loop_lt l hl := Nat.lt_succ_of_lt (h.loop_lt l hl)
  round_ids := h.round_ids_append purpose time
  round_lt := h.round_lt_append purpose time
  worker_iff := h.worker_iff
  collecting_iff id cycle := by
    refine (h.collecting_iff id cycle).trans ?_
    simp [or_and_right, exists_or, hpurpose]
  running_iff := h.running_iff
  settled := h.settled

/-- A loop that does not wait for a cycle starts its own. -/
theorem release (h : Coherent c) {l : Loop} (hl : c.loop? l.id = some l)
    (hbefore : ∀ cycle, l.phase ≠ .collecting cycle) (time : Instant) (released : Option Instant) :
    Coherent ((c.setPhase l.id (.collecting c.nextId)).startRound (.automatic l.id) time
      released) where
  loop_ids := by
    show ((c.loops.map _).map Loop.id).Nodup
    rw [map_id_setPhase]
    exact h.loop_ids
  loop_lt other hother := Nat.lt_succ_of_lt (lt_setPhase h.loop_lt other hother)
  round_ids := h.round_ids_append _ time
  round_lt := h.round_lt_append _ time
  worker_iff id := (h.worker_iff id).trans (running_setPhase_iff _ _ _).symm
  collecting_iff id cycle := by
    show (∃ other, (c.setPhase l.id (.collecting c.nextId)).loop? id = some other ∧ _) ↔
      ∃ r ∈ c.rounds ++ [RoundInfo.mk c.nextId (.automatic l.id) time], _
    have hold := h.collecting_iff id cycle
    by_cases hid : id = l.id
    · subst hid
      -- the loop had no cycle before, so the new one is all it waits for
      have hnone : ¬ ∃ r ∈ c.rounds, r.id = cycle ∧ r.purpose = .automatic l.id := by
        rw [← hold, hl]
        simpa using hbefore cycle
      rw [loop?_setPhase_self, hl]
      simp only [List.mem_append, or_and_right, exists_or, hnone, false_or]
      simp
    · rw [loop?_setPhase_ne hid, hold]
      simp [or_and_right, exists_or, Ne.symm hid]
  running_iff := h.running_iff
  settled := h.settled

/-- A fan-out that no loop waits for ends. -/
theorem endRound (h : Coherent c) {r : RoundInfo} (hr : r ∈ c.rounds)
    (hpurpose : ∀ loop, r.purpose ≠ .automatic loop) (results : Option CycleResults) :
    Coherent (c.endRound r results) where
  loop_ids := h.loop_ids
  loop_lt := h.loop_lt
  round_ids := (List.filter_sublist.map RoundInfo.id).nodup h.round_ids
  round_lt other hother := h.round_lt other (List.mem_of_mem_filter hother)
  worker_iff := h.worker_iff
  collecting_iff id cycle := by
    refine (h.collecting_iff id cycle).trans ?_
    -- the fan-out that is dropped is no cycle
    have hother : ∀ other ∈ c.rounds, other.purpose = .automatic id → other.id ≠ r.id := by
      intro other hmem hauto hsame
      rw [List.inj_on_of_nodup_map h.round_ids hmem hr hsame] at hauto
      exact hpurpose id hauto
    simp only [endRound_rounds, List.mem_filter]
    grind
  running_iff := h.running_iff
  settled := h.settled

/-- A cycle ends and its loop goes on. -/
theorem endCycle (h : Coherent c) {r : RoundInfo} {loop : Nat} (hr : r ∈ c.rounds)
    (hpurpose : r.purpose = .automatic loop) {phase : LoopPhase}
    (hafter : ∀ cycle, phase ≠ .collecting cycle) (results : Option CycleResults) :
    Coherent ((c.endRound r results).setPhase loop phase) where
  loop_ids := by
    show ((c.loops.map _).map Loop.id).Nodup
    rw [map_id_setPhase]
    exact h.loop_ids
  loop_lt := lt_setPhase h.loop_lt
  round_ids := (List.filter_sublist.map RoundInfo.id).nodup h.round_ids
  round_lt other hother := h.round_lt other (List.mem_of_mem_filter hother)
  worker_iff id := (h.worker_iff id).trans (running_setPhase_iff _ _ _).symm
  collecting_iff id cycle := by
    show (∃ l, (c.setPhase loop phase).loop? id = some l ∧ _) ↔
      ∃ other ∈ c.rounds.filter fun other => other.id ≠ r.id, _
    simp only [List.mem_filter, decide_eq_true_eq]
    obtain ⟨l, hl, hphase⟩ := (h.collecting_iff loop r.id).mpr ⟨r, hr, rfl, hpurpose⟩
    by_cases hid : id = loop
    · -- the loop waited for this cycle and no other
      subst hid
      have honly : ∀ other ∈ c.rounds, other.purpose = .automatic id → other.id = r.id := by
        intro other hmem hauto
        obtain ⟨l', hl', hphase'⟩ := (h.collecting_iff id other.id).mpr ⟨other, hmem, rfl, hauto⟩
        rw [hl, Option.some.injEq] at hl'
        rw [← hl', hphase, LoopPhase.collecting.injEq] at hphase'
        exact hphase'.symm
      rw [loop?_setPhase_self, hl]
      simp only [Option.map_some, Option.some.injEq, exists_eq_left', hafter, false_iff]
      grind
    · -- the cycle that is dropped is not one of another loop
      rw [loop?_setPhase_ne hid, h.collecting_iff id cycle]
      have hother : ∀ other ∈ c.rounds, other.purpose = .automatic id → other.id ≠ r.id := by
        intro other hmem hauto hsame
        rw [List.inj_on_of_nodup_map h.round_ids hmem hr hsame, hpurpose] at hauto
        exact hid (Purpose.automatic.inj hauto).symm
      grind
  running_iff := h.running_iff
  settled := h.settled

/-- A new loop is known by its id, and the others stay what they are. -/
theorem loop?_startLoop (h : Coherent c) (order id : Nat) :
    (c.startLoop order).loop? id =
      if id = c.nextId then some ⟨c.nextId, false, .beginning ⟨c.now, false, order⟩⟩
      else c.loop? id := by
  show (c.loops ++ [_]).find? _ = _
  rw [List.find?_append]
  split
  · next hid =>
    subst hid
    show (c.loop? c.nextId).or _ = _
    rw [h.loop?_nextId]
    simp
  · next hid =>
    show (c.loop? id).or _ = _
    simp [Ne.symm hid]

/-- The same loop is new after a start. -/
theorem loop?_start (h : Coherent c) (order id : Nat) :
    ((c.setState .starting).startLoop order).loop? id =
      if id = c.nextId then some ⟨c.nextId, false, .beginning ⟨c.now, false, order⟩⟩
      else c.loop? id := h.loop?_startLoop order id

theorem startLoop (h : Coherent c) (hworker : c.worker = none) (order : Nat) :
    Coherent (c.startLoop order) where
  loop_ids := by
    rw [startLoop_loops, List.map_append, List.nodup_append]
    refine ⟨h.loop_ids, by simp, ?_⟩
    simpa using fun l hl => Nat.ne_of_lt (h.loop_lt l hl)
  loop_lt l hl := by
    rw [startLoop_loops, List.mem_append, List.mem_singleton] at hl
    rcases hl with hl | rfl
    · exact Nat.lt_succ_of_lt (h.loop_lt l hl)
    · exact Nat.lt_succ_self c.nextId
  round_ids := h.round_ids
  round_lt r hr := Nat.lt_succ_of_lt (h.round_lt r hr)
  worker_iff id := by
    rw [h.loop?_startLoop, startLoop_worker]
    split
    · next hid => simp [hid]
    · next hid =>
      have hnone := h.worker_iff id
      rw [hworker] at hnone
      simpa [Ne.symm hid] using hnone
  collecting_iff id cycle := by
    rw [h.loop?_startLoop]
    refine Iff.trans ?_ (h.collecting_iff id cycle)
    split
    · next hid =>
      rw [hid, h.loop?_nextId]
      simp
    · rfl
  running_iff := by simp
  settled := by simp

/-- Without a worker, all loops have been told to shut down. -/
theorem shutdown_of_none (h : Coherent c) (hworker : c.worker = none) {id : Nat} {l : Loop}
    (hl : c.loop? id = some l) : l.shutdown = true := by
  by_contra hrunning
  have hsome := (h.worker_iff id).mpr ⟨l, hl, by simpa using hrunning⟩
  simp [hworker] at hsome

/-- A loop that goes on is the worker's. -/
theorem worker_of_running (h : Coherent c) {l : Loop} (hl : c.loop? l.id = some l)
    (hrunning : l.shutdown = false) : c.worker = some l.id :=
  (h.worker_iff l.id).mpr ⟨l, hl, hrunning⟩

theorem dismiss (h : Coherent c) {loop : Nat} (hworker : c.worker = some loop) :
    Coherent (c.dismiss loop) where
  loop_ids := by
    rw [dismiss_loops, List.map_map]
    have hids : (Loop.id ∘ fun l : Loop => if l.id = loop then ⟨l.id, true, l.phase⟩ else l) =
        Loop.id := by
      funext l
      simp only [Function.comp]
      split <;> rfl
    rw [hids]
    exact h.loop_ids
  loop_lt l hl := by
    obtain ⟨l₀, hl₀, rfl⟩ := List.mem_map.mp hl
    have hlt := h.loop_lt l₀ hl₀
    split <;> exact hlt
  round_ids := h.round_ids
  round_lt := h.round_lt
  worker_iff id := by
    show none = some id ↔ ∃ l, (c.flag loop).loop? id = some l ∧ l.shutdown = false
    have hothers := h.worker_iff id
    rw [hworker] at hothers
    -- the worker's loop was the last one that went on
    rw [loop?_flag]
    cases hl : c.loop? id with
    | none => simp
    | some l =>
      have hid := loop?_id hl
      by_cases hsame : id = loop
      · simp [hid, hsame]
      · rw [hl] at hothers
        simpa [hid, hsame, Ne.symm hsame] using hothers
  collecting_iff id cycle := by
    refine Iff.trans ?_ (h.collecting_iff id cycle)
    show (∃ l, (c.flag loop).loop? id = some l ∧ _) ↔ _
    rw [loop?_flag]
    cases c.loop? id with
    | none => simp
    | some l =>
      by_cases hid : l.id = loop <;> simp [hid]
  running_iff := by simp
  settled := by simp

end Coherent

theorem Loop.asleep_not_collecting {l : Loop} (h : l.asleep = true) (cycle : Nat) :
    l.phase ≠ .collecting cycle := by
  intro hphase
  simp [Loop.asleep, hphase] at h

/-- A loop that backs off or ends waits for no cycle. -/
theorem backOff_cases {P : Control → Prop} {loop order : Nat}
    (hend : c.toldToShutDown loop = true → P (c.endLoop loop))
    (hwait : c.toldToShutDown loop = false → P (c.setPhase loop
      (.backingOff ⟨c.now + Machine.toMillis c.config.retryBackoff, false, order⟩))) :
    P (c.backOff loop order) := by
  unfold backOff
  split
  · next htold => exact hend htold
  · next htold => exact hwait (by simpa using htold)

theorem loop?_backOff_ne {loop id : Nat} (hne : id ≠ loop) (order : Nat) :
    (c.backOff loop order).loop? id = c.loop? id :=
  backOff_cases (P := fun c' => c'.loop? id = c.loop? id) (fun _ => loop?_setPhase_ne hne _)
    (fun _ => loop?_setPhase_ne hne _)

theorem backOff_history (loop order : Nat) : c.history <:+ (c.backOff loop order).history := by
  refine backOff_cases (P := fun c' => c.history <:+ c'.history) (fun _ => ?_) (fun _ => ?_)
  · simp
  · simp

/-- A step only adds to the history. -/
theorem Step.history {cause : Cause} (step : Step c cause c') : c.history <:+ c'.history := by
  cases step with
  | unbounded order | missedLast order | automaticAborted results order =>
    exact List.IsSuffix.trans (by simp [List.suffix_cons_iff]) (backOff_history _ order)
  | _ => simp [List.suffix_cons_iff]

theorem backOff_config (loop order : Nat) : (c.backOff loop order).config = c.config :=
  backOff_cases (P := fun c' => c'.config = c.config) (fun _ => rfl) (fun _ => rfl)

theorem Step.config {cause : Cause} (step : Step c cause c') : c'.config = c.config := by
  cases step with
  | unbounded order | missedLast order | automaticAborted results order =>
    exact backOff_config _ order
  | _ => rfl

theorem backOff_clock (loop order : Nat) :
    (c.backOff loop order).clock = c.clock ∧ (c.backOff loop order).now = c.now :=
  backOff_cases (P := fun c' => c'.clock = c.clock ∧ c'.now = c.now) (fun _ => ⟨rfl, rfl⟩)
    (fun _ => ⟨rfl, rfl⟩)

/-- The clock stays the same unless another one is set. -/
theorem Step.clock {cause : Cause} (step : Step c cause c') (hcause : cause ≠ .setClock) :
    c'.clock = c.clock := by
  cases step with
  | unbounded order | missedLast order | automaticAborted results order =>
    exact (backOff_clock _ order).1
  | clockSet clock => exact absurd rfl hcause
  | _ => rfl

/-- Only time that elapses changes the time. -/
theorem Step.now {cause : Cause} (step : Step c cause c') (hcause : cause ≠ .elapse) :
    c'.now = c.now := by
  cases step with
  | unbounded order | missedLast order | automaticAborted results order =>
    exact (backOff_clock _ order).2
  | elapsed limit => exact absurd rfl hcause
  | _ => rfl

theorem backOff_state (loop order : Nat) : (c.backOff loop order).state = c.state :=
  backOff_cases (P := fun c' => c'.state = c.state) (fun _ => rfl) (fun _ => rfl)

/-- The state changes by starts and stops alone. -/
theorem Step.state {cause : Cause} (step : Step c cause c')
    (hcause : cause = .none ∨ cause = .elapse) : c'.state = c.state := by
  cases step with
  | unbounded order | missedLast order | automaticAborted results order =>
    exact backOff_state _ order
  | started | startFailed | dismissed | stoppedAsleep | stopFinished => simp at hcause
  | _ => rfl

/-- Only a start changes the state of a stopped scheduler. -/
theorem Step.stays_stopped {cause : Cause} (step : Step c cause c') (hcause : cause ≠ .start)
    (hcoherent : c.Coherent) (hstate : c.state = .stopped) : c'.state = .stopped := by
  have hnone : c.worker = none := hcoherent.worker_eq_none (by simp [hstate])
  cases step with
  | unbounded order | missedLast order | automaticAborted results order =>
    exact (backOff_state _ order).trans hstate
  | started | startFailed => exact absurd rfl hcause
  | dismissed hworker | stoppedAsleep hworker =>
    rw [hnone] at hworker
    cases hworker
  | stopFinished => rfl
  | _ => exact hstate

/-- Every step keeps controls coherent. -/
theorem Step.coherent {cause : Cause} (step : Step c cause c') (h : Coherent c) : Coherent c' := by
  have hmoves {l : Loop} {phase : LoopPhase} (hl : c.loop? l.id = some l)
      (hbefore : ∀ cycle, l.phase ≠ .collecting cycle)
      (hafter : ∀ cycle, phase ≠ .collecting cycle) : Coherent (c.setPhase l.id phase) :=
    h.setPhase hl hbefore hafter
  cases step with
  | idle => exact h
  | elapsed limit => exact h.congr rfl rfl rfl rfl rfl
  | clockSet clock => exact h.congr rfl rfl rfl rfl rfl
  | @lost l hl hphase hreading =>
    have hbefore : ∀ cycle, l.phase ≠ .collecting cycle := by
      rcases hphase with ⟨turn, hphase⟩ | ⟨-, target, turn, hphase⟩ <;> simp [hphase]
    exact (hmoves hl hbefore (by simp)).congr rfl rfl rfl rfl rfl
  | found hl hphase hreading hnext =>
    exact (hmoves hl (by simp [hphase]) (by simp)).congr rfl rfl rfl rfl rfl
  | unbounded order hl hphase hreading hnext =>
    refine backOff_cases (fun _ => ?_) (fun _ => ?_)
    all_goals exact (hmoves hl (by simp [hphase]) (by simp)).congr rfl rfl rfl rfl rfl
  | slept order hl hphase hrunning hreading hearly =>
    exact (hmoves hl (by simp [hphase]) (by simp)).congr rfl rfl rfl rfl rfl
  | released hl hphase hrunning hreading hdue hsoon =>
    exact (h.release hl (by simp [hphase]) _ none).congr rfl rfl rfl rfl rfl
  | missed hl hphase hrunning hreading hdue hlate hnext =>
    exact (hmoves hl (by simp [hphase]) (by simp)).congr rfl rfl rfl rfl rfl
  | missedLast order hl hphase hrunning hreading hdue hlate hnext =>
    refine backOff_cases (fun _ => ?_) (fun _ => ?_)
    all_goals exact (hmoves hl (by simp [hphase]) (by simp)).congr rfl rfl rfl rfl rfl
  | closed hl hphase htold =>
    exact (hmoves hl (Loop.asleep_not_collecting hphase) (by simp)).congr rfl rfl rfl rfl rfl
  | resumed hl hphase hrunning =>
    exact hmoves hl (by simp [hphase]) (by simp)
  | triggered time => exact h.startRound (by simp) _ _
  | triggeredNow hreading =>
    exact (h.startRound (by simp) _ none).congr rfl rfl rfl rfl rfl
  | triggerLost hreading => exact h.congr rfl rfl rfl rfl rfl
  | allRun time => exact h.startRound (by simp) _ _
  | directEnded results hr hpurpose => exact h.endRound hr (by simp [hpurpose]) _
  | manualEnded results hr hpurpose =>
    exact (h.endRound hr (by simp [hpurpose]) none).congr rfl rfl rfl rfl rfl
  | automaticEnded results order hr hpurpose hreading =>
    exact (h.endCycle hr hpurpose (by simp) none).congr rfl rfl rfl rfl rfl
  | automaticAborted results order hr hpurpose hreading =>
    refine backOff_cases (fun _ => ?_) (fun _ => ?_)
    all_goals exact (h.endCycle hr hpurpose (by simp) none).congr rfl rfl rfl rfl rfl
  | started order hworker hstate =>
    exact (h.startLoop hworker order).congr rfl rfl rfl rfl rfl
  | startFailed hworker hstate => exact h.stop hworker rfl rfl rfl rfl rfl
  | dismissed hworker hstate hawake => exact h.dismiss hworker
  | @stoppedAsleep l hworker hstate hl hphase =>
    have htold : (c.dismiss l.id).loop? l.id = some { l with shutdown := true } := by
      show (c.flag l.id).loop? l.id = _
      rw [loop?_flag_self, hl]
      rfl
    exact ((h.dismiss hworker).setPhase (l := { l with shutdown := true }) htold
      (Loop.asleep_not_collecting hphase) (by simp)).congr rfl rfl rfl rfl rfl
  | stopFinished hstate =>
    exact h.stop (h.worker_eq_none (by simp [hstate])) rfl rfl rfl rfl rfl

end Control

namespace Machine

variable {σ : Type}

/-! ## Runs -/

/-- A machine that some moves have led to, from a machine that nothing has happened to. -/
def Reachable (m : Machine σ) : Prop :=
  ∃ config fanOut factory clock world moves,
    m = (init config fanOut factory clock world).afterAll moves

theorem Reachable.afterAll {m : Machine σ} (h : m.Reachable) (moves : List (Move σ)) :
    (m.afterAll moves).Reachable := by
  obtain ⟨config, fanOut, factory, clock, world, first, rfl⟩ := h
  exact ⟨config, fanOut, factory, clock, world, first ++ moves, (afterAll_append _ _ _).symm⟩

theorem Reachable.after {m : Machine σ} (h : m.Reachable) (move : Move σ) :
    (m.after move).Reachable := h.afterAll [move]

theorem reachable_init (config : SchedulerConfig) (fanOut : FanOut)
    (factory : σ → Except (List String) (List (Registered σ)) × σ) (clock : Clock) (world : σ) :
    (init config fanOut factory clock world).Reachable :=
  ⟨config, fanOut, factory, clock, world, [], rfl⟩

/-- What every move of a reachable machine keeps, every run of it keeps. -/
theorem Reachable.afterAll_induction {P : Machine σ → Prop} {Q : Move σ → Prop} {m : Machine σ}
    {moves : List (Move σ)} (hm : m.Reachable) (hmoves : ∀ move ∈ moves, Q move) (hfirst : P m)
    (hstep : ∀ {x : Machine σ} {move : Move σ}, x.Reachable → Q move → P x → P (x.after move)) :
    P (m.afterAll moves) := by
  refine (Machine.afterAll_induction (P := fun x => x.Reachable ∧ P x) hmoves ⟨hm, hfirst⟩ ?_).2
  rintro x move hallowed ⟨hx, h⟩
  exact ⟨hx.after move, hstep hx hallowed h⟩

/-- What the moves of a run keep where they are made, the run keeps. -/
theorem Reachable.along_induction {P : Machine σ → Prop} {Q : Machine σ → Move σ → Prop}
    {m : Machine σ} {moves : List (Move σ)} (hm : m.Reachable) (halong : m.Along Q moves)
    (hfirst : P m)
    (hstep : ∀ {x : Machine σ} {move : Move σ}, x.Reachable → Q x move → P x → P (x.after move)) :
    P (m.afterAll moves) := by
  induction moves generalizing m with
  | nil => exact hfirst
  | cons move rest ih => exact ih (hm.after move) halong.2 (hstep hm halong.1 hfirst)

/-- What holds before anything has happened, and is kept by every move, holds whenever. -/
theorem Reachable.induction {P : Machine σ → Prop} {m : Machine σ} (hm : m.Reachable)
    (hinit : ∀ config fanOut factory clock world, P (init config fanOut factory clock world))
    (hstep : ∀ {x : Machine σ} {move : Move σ}, x.Reachable → P x → P (x.after move)) : P m := by
  obtain ⟨config, fanOut, factory, clock, world, moves, rfl⟩ := hm
  exact (reachable_init config fanOut factory clock world).afterAll_induction
    (Q := fun _ => True) (fun _ _ => trivial) (hinit _ _ _ _ _) fun hx _ h => hstep hx h

/-- Every reachable control is coherent. -/
theorem Reachable.coherent {m : Machine σ} (h : m.Reachable) : m.control.Coherent :=
  h.induction (P := fun m => m.control.Coherent) (fun _ _ _ _ _ => .init rfl rfl rfl rfl)
    fun {x move} _ hx => (control_after x hx.round_ids move).coherent hx

/-- Every move of a reachable machine is one step of its control. -/
theorem Reachable.step {m : Machine σ} (h : m.Reachable) (move : Move σ) :
    Control.Step m.control move.cause (m.after move).control :=
  control_after m h.coherent.round_ids move

/-- What every step from a coherent control keeps, every run keeps. -/
theorem Reachable.control_induction {P : Control → Prop} {Q : Control.Cause → Prop}
    {m : Machine σ} {moves : List (Move σ)} (hm : m.Reachable)
    (hmoves : ∀ move ∈ moves, Q move.cause) (hfirst : P m.control)
    (hstep : ∀ {c c' : Control} {cause : Control.Cause}, c.Coherent → Q cause →
      Control.Step c cause c' → P c → P c') : P (m.afterAll moves).control :=
  hm.afterAll_induction (P := fun m => P m.control) (Q := fun move => Q move.cause) hmoves hfirst
    fun {_ move} hx hallowed h => hstep hx.coherent hallowed (hx.step move) h

/-- No run changes the configuration. -/
theorem Reachable.config_afterAll {m : Machine σ} (h : m.Reachable) (moves : List (Move σ)) :
    (m.afterAll moves).config = m.config :=
  h.control_induction (P := fun c => c.config = m.config) (Q := fun _ => True) (fun _ _ => trivial)
    rfl fun _ _ step hsame => step.config.trans hsame

/-- Only a move that replaces the clock does. -/
theorem Reachable.clock_afterAll {m : Machine σ} (h : m.Reachable) {moves : List (Move σ)}
    (hmoves : ∀ move ∈ moves, move.cause ≠ .setClock) : (m.afterAll moves).clock = m.clock :=
  h.control_induction (P := fun c => c.clock = m.clock) (Q := fun cause => cause ≠ .setClock)
    hmoves rfl fun _ hcause step hsame => (step.clock hcause).trans hsame

/-- What has happened stays in the history. -/
theorem Reachable.history_suffix {m : Machine σ} (h : m.Reachable) (moves : List (Move σ)) :
    m.control.history <:+ (m.afterAll moves).control.history :=
  h.control_induction (P := fun c => m.control.history <:+ c.history) (Q := fun _ => True)
    (fun _ _ => trivial) List.suffix_rfl fun _ _ step hsuffix => hsuffix.trans step.history

end Machine

end HourlySnapshots
