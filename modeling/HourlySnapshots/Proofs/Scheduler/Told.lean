import HourlySnapshots.Proofs.Scheduler.WindingDown

/-!
# A loop that is told in its cycle

A request to stop that reaches a loop in its cycle changes nothing in what happens until the cycle
is over: with the request and without it, the same jobs are done at the same times, and with the
same outcomes. So the time that is left of the cycle is the same.
-/

namespace HourlySnapshots

namespace Machine

variable {σ : Type} {loop : Nat} {m m' : Machine σ}

/-- The same machine once a loop has been told to shut down, but for what no job depends on. -/
def Told (loop : Nat) (m m' : Machine σ) : Prop :=
  ∃ state worker stats history, m' =
    { m with
      loops := m.loops.map fun (l : Loop) => if l.id = loop then { l with shutdown := true } else l
      state := state, worker := worker, stats := stats, history := history }

namespace Told

/-! ## What is the same -/

/-- The loops are the same but for the one that has been told. -/
theorem loops (h : Told loop m m') : m'.loops =
    m.loops.map fun (l : Loop) => if l.id = loop then { l with shutdown := true } else l := by
  obtain ⟨_, _, _, _, rfl⟩ := h
  rfl

/-- The same fan-outs are open. -/
theorem rounds (h : Told loop m m') : m'.rounds = m.rounds := by
  obtain ⟨_, _, _, _, rfl⟩ := h
  rfl

/-- Collectors find the same world. -/
theorem world (h : Told loop m m') : m'.world = m.world := by
  obtain ⟨_, _, _, _, rfl⟩ := h
  rfl

theorem config (h : Told loop m m') : m'.config = m.config := by
  obtain ⟨_, _, _, _, rfl⟩ := h
  rfl

theorem now (h : Told loop m m') : m'.now = m.now := by
  obtain ⟨_, _, _, _, rfl⟩ := h
  rfl

/-- The clock of both gives the same readings. -/
theorem clock (h : Told loop m m') : m'.clock = m.clock := by
  obtain ⟨_, _, _, _, rfl⟩ := h
  rfl

/-- The same fan-outs are over. -/
theorem roundOver (h : Told loop m m') (round : Nat) : m'.roundOver round = m.roundOver round := by
  unfold Machine.roundOver
  rw [h.rounds]

/-- The same is waited for. -/
theorem nextWait? (h : Told loop m m') : m'.nextWait? = m.nextWait? := by
  have hwaits : m'.waits = m.waits := by
    unfold waits
    rw [h.rounds, h.loops, List.filterMap_map]
    congr 2
    funext l
    simp only [Function.comp]
    split <;> rfl
  unfold Machine.nextWait?
  rw [hwaits]

/-! ## What is done the same way -/

/-- Time passes for both. -/
theorem elapsed (h : Told loop m m') (now : Nat) :
    Told loop { m with now := now } { m' with now := now } := by
  obtain ⟨_, _, _, _, rfl⟩ := h
  exact ⟨_, _, _, _, rfl⟩

theorem setWorld (h : Told loop m m') (world : σ) :
    Told loop { m with world := world } { m' with world := world } := by
  obtain ⟨_, _, _, _, rfl⟩ := h
  exact ⟨_, _, _, _, rfl⟩

theorem setRounds (h : Told loop m m') (rounds : List (Round σ)) :
    Told loop { m with rounds := rounds } { m' with rounds := rounds } := by
  obtain ⟨_, _, _, _, rfl⟩ := h
  exact ⟨_, _, _, _, rfl⟩

/-- Statistics may change differently, as no job depends on them. -/
theorem setStats (h : Told loop m m') (stats stats' : RunStats) :
    Told loop { m with stats := stats } { m' with stats := stats' } := by
  obtain ⟨_, _, _, _, rfl⟩ := h
  exact ⟨_, _, _, _, rfl⟩

/-- What happened before may differ, and both note what happens now. -/
theorem note (h : Told loop m m') (happening : Happening) :
    Told loop (m.note happening) (m'.note happening) := by
  obtain ⟨_, _, _, _, rfl⟩ := h
  exact ⟨_, _, _, _, rfl⟩

/-- Both read the same instant. -/
theorem readClock (h : Told loop m m') :
    m'.readClock.1 = m.readClock.1 ∧ Told loop m.readClock.2 m'.readClock.2 := by
  obtain ⟨_, _, _, _, rfl⟩ := h
  exact ⟨rfl, _, _, _, _, rfl⟩

/-- Both give a wait the same end and the same place in the order. -/
theorem beginWait (h : Told loop m m') (ms : Nat) :
    (m'.beginWait ms).1 = (m.beginWait ms).1 ∧
      Told loop (m.beginWait ms).2 (m'.beginWait ms).2 := by
  obtain ⟨_, _, _, _, rfl⟩ := h
  exact ⟨rfl, _, _, _, _, rfl⟩

/-- Being told and moving on to another phase do not get in each other's way. -/
theorem setPhase (h : Told loop m m') (id : Nat) (phase : LoopPhase) :
    Told loop (m.setPhase id phase) (m'.setPhase id phase) := by
  obtain ⟨state, worker, stats, history, rfl⟩ := h
  refine ⟨state, worker, stats, history, ?_⟩
  unfold Machine.setPhase
  simp only [List.map_map]
  congr 1
  apply List.map_congr_left
  intro l _
  simp only [Function.comp]
  split_ifs <;> rfl

theorem endLoop (h : Told loop m m') (id : Nat) : Told loop (m.endLoop id) (m'.endLoop id) :=
  (h.setPhase id .ended).note _

/-- A loop announces the same boundary. -/
theorem announce (h : Told loop m m') (id : Nat) (turn : Wake) (target : Instant) :
    Told loop (m.announce id turn target) (m'.announce id turn target) :=
  ((h.setStats _ _).setPhase id _).note _

/-! ## Fan-outs -/

theorem keep (h : Told loop m m') (r : Round σ) : Told loop (m.keep r) (m'.keep r) := by
  unfold Machine.keep
  rw [h.rounds]
  exact h.setRounds _

/-- A fan-out waits for its turn in the same way. -/
theorem beginTurn (h : Told loop m m') (r : Round σ) :
    (m'.beginTurn r).1 = (m.beginTurn r).1 ∧
      Told loop (m.beginTurn r).2 (m'.beginTurn r).2 := by
  obtain ⟨hwake, hbegun⟩ := h.beginWait 0
  unfold Machine.beginTurn
  split
  · exact ⟨rfl, h⟩
  · dsimp only
    rw [hwake]
    exact ⟨rfl, hbegun⟩

/-- A collector that acts finds the same and has the same outcome. -/
theorem act (h : Told loop m m') (r : Round σ) (c : Registered σ) :
    (m'.act r c).1 = (m.act r c).1 ∧ Told loop (m.act r c).2 (m'.act r c).2 := by
  unfold Machine.act
  rw [h.world]
  exact ((h.setWorld _).note _).beginTurn _

/-- A call begins with the same delay, or acts at once. -/
theorem beginCall (h : Told loop m m') (r : Round σ) (c : Registered σ) :
    (m'.beginCall r c).1 = (m.beginCall r c).1 ∧
      Told loop (m.beginCall r c).2 (m'.beginCall r c).2 := by
  have hcalled := h.note (.called r.id c.name r.time)
  obtain ⟨hwake, hbegun⟩ := hcalled.beginWait (c.delay m.world)
  rw [beginCall_eq, beginCall_eq, h.world]
  split
  · exact hcalled.act r c
  · dsimp only
    rw [hwake]
    exact ⟨rfl, hbegun⟩

/-- The calls of a turn begin with the same waits. -/
theorem makeCalls (h : Told loop m m') (r : Round σ) (calls : List (Registered σ)) :
    (m'.makeCalls r calls).1 = (m.makeCalls r calls).1 ∧
      Told loop (m.makeCalls r calls).2 (m'.makeCalls r calls).2 := by
  induction calls generalizing m m' r with
  | nil => exact ⟨rfl, h⟩
  | cons c rest ih =>
    obtain ⟨hwake, hbegun⟩ := h.beginWait 0
    unfold Machine.makeCalls
    dsimp only
    rw [hwake]
    exact ih hbegun _

/-- Counting a cycle succeeds for both or for none of them. -/
theorem count (h : Told loop m m') (time : Instant) (results : CycleResults) :
    (m'.count time results).1 = (m.count time results).1 ∧
      Told loop (m.count time results).2 (m'.count time results).2 := by
  obtain ⟨state, worker, stats, history, rfl⟩ := h
  unfold Machine.count Machine.readClock
  dsimp only
  cases m.clock m.now m.readings with
  | none => exact ⟨rfl, _, _, _, _, rfl⟩
  | some now => exact ⟨rfl, _, _, _, _, rfl⟩

/-- As long as the clock can be read, a fan-out ends in the same way. -/
theorem finish (h : Told loop m m') (hclock : ∀ now k, m.clock now k ≠ none) (r : Round σ) :
    Told loop (m.finish r) (m'.finish r) := by
  have hdropped := h.setRounds (m.rounds.filter fun other => other.id ≠ r.id)
  obtain ⟨hcounted, hcount⟩ := hdropped.count r.time (resultsOf r.outcomes)
  unfold Machine.finish
  rw [h.rounds]
  cases r.purpose with
  | direct => exact hdropped.note _
  | manual =>
    dsimp only
    rw [hcounted]
    exact hcount.note _
  | automatic id =>
    obtain ⟨now, hnow⟩ := Option.ne_none_iff_exists'.mp (hclock m.now m.readings)
    have hsome : (({ m with rounds := m.rounds.filter fun other => other.id ≠ r.id } :
        Machine σ).count r.time (resultsOf r.outcomes)).1 = some (resultsOf r.outcomes) := by
      rw [count_fst]
      exact congrArg (Option.map fun _ => resultsOf r.outcomes) hnow
    dsimp only
    rw [hcounted, hsome]
    dsimp only
    obtain ⟨hwake, hwaited⟩ := (hcount.note (.roundEnded r.id (.automatic id)
      (some (resultsOf r.outcomes)))).beginWait 0
    rw [hwake]
    exact hwaited.setPhase id _

/-- A turn makes the same calls, and ends the fan-out in both or in none. -/
theorem takeTurn (h : Told loop m m') (hclock : ∀ now k, m.clock now k ≠ none) (round : Nat) :
    Told loop (m.takeTurn round) (m'.takeTurn round) := by
  unfold Machine.takeTurn
  rw [h.rounds]
  split
  · exact h
  · next r _ =>
    obtain ⟨hround, hcalled⟩ := h.makeCalls
      { r with turn := none, queued := r.queued.drop (nextCalls r).length } (nextCalls r)
    have hsame := congrArg Control.clock (control_makeCalls m
      { r with turn := none, queued := r.queued.drop (nextCalls r).length } (nextCalls r))
    dsimp only
    rw [hround]
    split
    · apply hcalled.finish
      intro now k
      rw [show Machine.clock _ = m.clock from hsame]
      exact hclock now k
    · exact hcalled.keep _

/-- A call whose wait is over acts or begins in the same way. -/
theorem resume (h : Told loop m m') (round order : Nat) :
    Told loop (m.resume round order) (m'.resume round order) := by
  unfold Machine.resume
  rw [h.rounds]
  split
  · exact h
  · split
    · exact h
    · next r _ _ call _ =>
      dsimp only
      split
      · obtain ⟨hround, hacted⟩ := h.act _ call.collector
        rw [hround]
        exact hacted.keep _
      · obtain ⟨hround, hcalled⟩ := h.beginCall _ call.collector
        rw [hround]
        exact hcalled.keep _

/-! ## Loops -/

/-- A loop that has been told is the same in both. -/
theorem mem (h : Told loop m m') {l : Loop} (hl : l ∈ m.loops) (htold : l.shutdown = true) :
    l ∈ m'.loops := by
  rw [h.loops]
  refine List.mem_map.mpr ⟨l, hl, ?_⟩
  split
  · rw [← htold]
  · rfl

/-- Instead of backing off, a loop that has been told ends. -/
theorem backOff (h : Told loop m m') {l : Loop} (hl : l ∈ m.loops) (htold : l.shutdown = true) :
    Told loop (m.backOff l.id) (m'.backOff l.id) := by
  have hends {x : Machine σ} (hx : l ∈ x.loops) : x.backOff l.id = x.endLoop l.id :=
    if_pos (List.any_eq_true.mpr ⟨l, hx, by simp [htold]⟩)
  rw [hends hl, hends (h.mem hl htold)]
  exact h.endLoop l.id

/-- A loop that has been told chooses the same boundary, or ends. -/
theorem beginWaiting (h : Told loop m m') {l : Loop} (hl : l ∈ m.loops)
    (htold : l.shutdown = true) (turn : Wake) :
    Told loop (m.beginWaiting l.id turn) (m'.beginWaiting l.id turn) := by
  obtain ⟨hreading, hread⟩ := h.readClock
  have hloops : m.readClock.2.loops = m.loops := rfl
  unfold Machine.beginWaiting
  rcases hclock : m.readClock with ⟨reading, next⟩
  rcases hclock' : m'.readClock with ⟨reading', next'⟩
  rw [hclock, hclock'] at hreading hread
  rw [hclock] at hloops
  obtain rfl : reading' = reading := hreading
  have hconfig : next'.config = next.config := hread.config
  cases reading' with
  | none => exact hread.endLoop l.id
  | some now =>
    dsimp only at hread hloops ⊢
    rw [hconfig]
    split
    · exact hread.announce l.id turn _
    · exact hread.backOff (hloops ▸ hl) htold

/-- Whatever it waits for, a loop that has been told wakes in the same way. -/
theorem wakeLoop (h : Told loop m m') {l : Loop} (hl : l ∈ m.loops) (htold : l.shutdown = true) :
    Told loop (m.wakeLoop l) (m'.wakeLoop l) := by
  unfold Machine.wakeLoop
  split
  · exact h.beginWaiting hl htold _
  · rw [if_pos htold, if_pos htold]
    exact h.endLoop l.id
  · rw [if_pos htold, if_pos htold]
    exact h.endLoop l.id
  · exact h
  · exact h

/-- As long as the loop is in its cycle and all others have been told, the same is done. -/
theorem work (h : Told loop m m') (hclock : ∀ now k, m.clock now k ≠ none)
    (hothers : ∀ l ∈ m.loops, l.id ≠ loop → l.shutdown = true)
    (hbusy : ∀ l ∈ m.loops, l.id = loop → ∃ cycle, l.phase = .collecting cycle) (job : Job) :
    Told loop (m.work job) (m'.work job) := by
  cases job with
  | turn round =>
    rw [work_turn, work_turn]
    exact h.takeTurn hclock round
  | call round order =>
    rw [work_call, work_call]
    exact h.resume round order
  | loop id =>
    have hfind : (m'.loops.find? fun l => l.id == id) = (m.loops.find? fun l => l.id == id).map
        fun l => if l.id = loop then { l with shutdown := true } else l := by
      rw [h.loops]
      apply Control.find?_map_loop
      intro l
      split <;> rfl
    rw [work_loop, work_loop, hfind]
    cases hfound : m.loops.find? fun l => l.id == id with
    | none => exact h
    | some l =>
      have hl := List.mem_of_find?_eq_some hfound
      rw [Option.map_some]
      dsimp only
      by_cases hid : l.id = loop
      · -- a loop that waits for its cycle does nothing
        obtain ⟨cycle, hphase⟩ := hbusy l hl hid
        rw [if_pos hid]
        simp only [Machine.wakeLoop, hphase]
        exact h
      · rw [if_neg hid]
        exact h.wakeLoop hl (hothers l hl hid)

end Told

/-! ## When a fan-out is over -/

/-- When a fan-out is over if time lapses. -/
inductive OverAt (round : Nat) : Machine σ → Nat → Prop where
  | ended {m : Machine σ} (hover : m.roundOver round = true) : OverAt round m m.now
  | act {m : Machine σ} {wake : Wake} {job : Job} {t : Nat} (hnot : m.roundOver round = false)
      (hnext : m.nextWait? = some (wake, job)) (h : OverAt round (m.perform wake job) t) :
      OverAt round m t

/-- A fan-out is over at one time only. -/
theorem OverAt.unique {round t t' : Nat} (h : m.OverAt round t) (h' : m.OverAt round t') :
    t = t' := by
  induction h with
  | ended hover =>
    cases h' with
    | ended => rfl
    | act hnot => rw [hover] at hnot; cases hnot
  | act hnot hnext _ ih =>
    cases h' with
    | ended hover => rw [hover] at hnot; cases hnot
    | act _ hnext' hrest =>
      obtain ⟨rfl, rfl⟩ := Prod.mk.inj (Option.some.inj (hnext.symm.trans hnext'))
      exact ih hrest

/-- A fan-out that is over is over now. -/
theorem OverAt.eq_now {round t : Nat} (h : m.OverAt round t) (hover : m.roundOver round = true) :
    t = m.now := h.unique (.ended hover)

/-- No fan-out is over before the present time. -/
theorem OverAt.now_le {round t : Nat} (h : m.OverAt round t) (hm : m.Reachable) : m.now ≤ t := by
  induction h with
  | ended => exact Nat.le_refl _
  | act _ hnext _ ih =>
    have hle := ih ((passes_perform hm hnext).reachable hm)
    rw [now_perform hm hnext] at hle
    exact Nat.le_trans (Nat.le_max_left _ _) hle

/-- Every fan-out is over at some time, once the scheduler winds down. -/
theorem WindsDown.exists_overAt (h : m.WindsDown) (round : Nat) : ∃ t, m.OverAt round t := by
  induction hleft : m.stepsLeft using Nat.strong_induction_on generalizing m with
  | _ left ih =>
    cases hover : m.roundOver round with
    | true => exact ⟨m.now, .ended hover⟩
    | false =>
      -- the fan-out waits for something, so there is a first wait
      obtain ⟨r, hr, -⟩ := roundOver_eq_false.mp hover
      obtain ⟨job, -, hpending⟩ := exists_pending h.reachable.wellFormed hr
      obtain ⟨wake, hwait⟩ := pending_iff.mp hpending
      rcases hnext : m.nextWait? with - | ⟨first, job'⟩
      · rw [nextWait?_eq_none hnext] at hwait
        cases hwait
      · obtain ⟨hdown, hless⟩ := h.perform hnext
        obtain ⟨t, ht⟩ := ih _ (hleft ▸ hless) hdown rfl
        exact ⟨t, .act hover hnext ht⟩

/-- While the loop that was told is in its cycle, the same wait brings about the same. -/
theorem Told.perform (h : Told loop m m') (hdown : m'.WindsDown) {l : Loop} {cycle : Nat}
    (hl : m'.control.loop? loop = some l) (hphase : l.phase = .collecting cycle) (wake : Wake)
    (job : Job) : Told loop (m.perform wake job) (m'.perform wake job) := by
  have hmem {l' : Loop} (hl' : l' ∈ m.loops) :
      (if l'.id = loop then { l' with shutdown := true } else l') ∈ m'.loops := by
    rw [h.loops]
    exact List.mem_map_of_mem hl'
  rw [perform_eq_work, perform_eq_work, h.now]
  apply (h.elapsed (max m.now wake.due)).work
  · exact h.clock ▸ hdown.clock
  · intro l' hl' hid
    have hkept := hmem hl'
    rw [if_neg hid] at hkept
    exact hdown.told hkept
  · intro l' hl' hid
    have htold := hmem hl'
    rw [if_pos hid] at htold
    have hsame := hdown.reachable.coherent.loop?_of_mem htold
    rw [show ({ l' with shutdown := true } : Loop).id = loop from hid, hl] at hsame
    exact ⟨cycle, (congrArg Loop.phase (Option.some.inj hsame)).symm.trans hphase⟩

/-- The cycle of a loop is over at the same time whether the loop has been told or not. -/
theorem Told.overAt (h : Told loop m m') (hdown : m'.WindsDown) {l : Loop} {cycle t : Nat}
    (hl : m'.control.loop? loop = some l) (hphase : l.phase = .collecting cycle)
    (hover : m'.OverAt cycle t) : m.OverAt cycle t := by
  induction hover generalizing m with
  | ended hover =>
    rw [h.roundOver] at hover
    rw [h.now]
    exact .ended hover
  | @act m' wake job t hnot hnext hrest ih =>
    have hperformed := h.perform hdown hl hphase wake job
    apply OverAt.act (h.roundOver cycle ▸ hnot) (h.nextWait? ▸ hnext)
    rcases hdown.collecting_perform hnext hl hphase with hkept | ⟨hover, -⟩
    · exact ih hperformed (hdown.perform hnext).1 hkept
    · rw [hrest.eq_now hover, hperformed.now]
      rw [hperformed.roundOver] at hover
      exact .ended hover

end Machine

end HourlySnapshots
