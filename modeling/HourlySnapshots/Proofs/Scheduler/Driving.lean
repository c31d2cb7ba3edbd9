import HourlySnapshots.Proofs.Scheduler.Loops

/-!
# Driving is running

Letting time pass, waiting for a fan-out and stopping are runs, like all that is asked of a machine:
what holds after every list of moves holds of whatever a caller gets. Time that passes in this way
goes past no wait.
-/

namespace HourlySnapshots

/-- Whether a move is time that passes, or something that waited for it. -/
def Move.isPassing {σ : Type} : Move σ → Bool
  | .elapse _ | .work _ => true
  | _ => false

namespace Machine

variable {σ : Type} {m : Machine σ}

/-- Time does not go past the end of a wait. -/
def OnTime (m : Machine σ) (move : Move σ) : Prop :=
  ∀ w ∈ m.waits, (m.after move).now ≤ max m.now w.1.due

/-- All that is due has acted. -/
def Settled (m : Machine σ) : Prop := ∀ w ∈ m.waits, m.now < w.1.due

instance (m : Machine σ) (move : Move σ) : Decidable (m.OnTime move) :=
  inferInstanceAs (Decidable (∀ w ∈ m.waits, _))

instance (m : Machine σ) : Decidable m.Settled :=
  inferInstanceAs (Decidable (∀ w ∈ m.waits, _))

theorem along_append {P : Machine σ → Move σ → Prop} (first second : List (Move σ)) :
    m.Along P (first ++ second) ↔ m.Along P first ∧ (m.afterAll first).Along P second := by
  induction first generalizing m with
  | nil => simp [Along]
  | cons move rest ih => simp [Along, ih, and_assoc]

/-- Time does not go back. -/
theorem now_le_after (hm : m.Reachable) (move : Move σ) : m.now ≤ (m.after move).now := by
  have step := hm.step move
  cases move with
  | elapse limit => exact Nat.le_max_left _ _
  | _ => exact Nat.le_of_eq (step.now (by simp [Move.cause])).symm

theorem now_le_afterAll (hm : m.Reachable) (moves : List (Move σ)) :
    m.now ≤ (m.afterAll moves).now :=
  hm.afterAll_induction (P := fun x => m.now ≤ x.now) (Q := fun _ => True) (fun _ _ => trivial)
    (Nat.le_refl _) fun {_ move} hx _ hle => Nat.le_trans hle (now_le_after hx move)

/-! ## The first wait -/

/-- The earlier of two waits is due no later than both. -/
theorem due_earlier_le (a b : Wake × Job) :
    (earlier a b).1.due ≤ a.1.due ∧ (earlier a b).1.due ≤ b.1.due := by
  unfold earlier Wake.before
  split
  · next h =>
    simp only [Bool.or_eq_true, Bool.and_eq_true, decide_eq_true_eq, beq_iff_eq] at h
    omega
  · next h =>
    simp only [Bool.or_eq_true, Bool.and_eq_true, decide_eq_true_eq, beq_iff_eq] at h
    omega

/-- The wait that is picked is one of all, and none of them is due before it. -/
theorem foldl_earlier (first : Wake × Job) (rest : List (Wake × Job)) :
    rest.foldl earlier first ∈ first :: rest ∧
      ∀ w ∈ first :: rest, (rest.foldl earlier first).1.due ≤ w.1.due := by
  induction rest generalizing first with
  | nil => simp
  | cons second rest ih =>
    obtain ⟨hmem, hle⟩ := ih (earlier first second)
    obtain ⟨hfirst, hsecond⟩ := due_earlier_le first second
    have hearlier := hle _ List.mem_cons_self
    rw [List.foldl_cons]
    refine ⟨?_, fun w hw => ?_⟩
    · rcases List.mem_cons.mp hmem with hsame | hrest
      · rw [hsame]
        unfold earlier
        split <;> simp
      · simp [hrest]
    · simp only [List.mem_cons] at hw
      rcases hw with rfl | rfl | hw
      · exact Nat.le_trans hearlier hfirst
      · exact Nat.le_trans hearlier hsecond
      · exact hle w (List.mem_cons_of_mem _ hw)

/-- The first wait is one of all, and none is over before. -/
theorem nextWait?_eq_some {wake : Wake} {job : Job} (h : m.nextWait? = some (wake, job)) :
    (wake, job) ∈ m.waits ∧ ∀ w ∈ m.waits, wake.due ≤ w.1.due := by
  unfold nextWait? at h
  split at h
  · cases h
  · next first rest hwaits =>
    obtain ⟨hmem, hle⟩ := foldl_earlier first rest
    rw [Option.some.inj h] at hmem hle
    rw [hwaits]
    exact ⟨hmem, hle⟩

/-- Nothing comes next only when nothing waits. -/
theorem nextWait?_eq_none (h : m.nextWait? = none) : m.waits = [] := by
  unfold nextWait? at h
  split at h
  · assumption
  · cases h

/-- A run of passing time from one machine to another that goes past no wait. -/
def Passes (m m' : Machine σ) : Prop :=
  ∃ moves : List (Move σ), (∀ move ∈ moves, move.isPassing = true) ∧ m.Along OnTime moves ∧
    m' = m.afterAll moves

theorem Passes.refl (m : Machine σ) : m.Passes m := ⟨[], by simp, trivial, rfl⟩

/-- Passing time can be put together. -/
theorem Passes.trans {m₁ m₂ m₃ : Machine σ} (h₁ : m₁.Passes m₂) (h₂ : m₂.Passes m₃) :
    m₁.Passes m₃ := by
  obtain ⟨first, hfirst, hontime, rfl⟩ := h₁
  obtain ⟨second, hsecond, hontime', rfl⟩ := h₂
  refine ⟨first ++ second, fun move hmove => ?_, (along_append _ _).mpr ⟨hontime, hontime'⟩,
    (afterAll_append _ _ _).symm⟩
  exact (List.mem_append.mp hmove).elim (hfirst move) (hsecond move)

/-- Time that passes is a run. -/
theorem Passes.reachable {m' : Machine σ} (h : m.Passes m') (hm : m.Reachable) :
    m'.Reachable := by
  obtain ⟨moves, -, -, rfl⟩ := h
  exact hm.afterAll moves

/-- Time may pass to a point that no wait is over before. -/
theorem passes_elapse {limit : Nat} (h : ∀ w ∈ m.waits, limit ≤ w.1.due) :
    m.Passes { m with now := max m.now limit } := by
  refine ⟨[.elapse limit], by simp [Move.isPassing], ⟨fun w hw => ?_, trivial⟩, rfl⟩
  have hle := h w hw
  show max m.now limit ≤ max m.now w.1.due
  omega

/-- What is waited for takes no time. -/
theorem now_work (hm : m.control.Coherent) (job : Job) : (m.work job).now = m.now :=
  (step_work m hm.round_ids job).now (by simp)

/-- Performing the first job lets time pass to the end of its wait. -/
theorem passes_perform (hm : m.Reachable) {wake : Wake} {job : Job}
    (h : m.nextWait? = some (wake, job)) : m.Passes (m.perform wake job) := by
  obtain ⟨hmem, hfirst⟩ := nextWait?_eq_some h
  have helapsed := passes_elapse hfirst
  refine helapsed.trans ?_
  set later : Machine σ := { m with now := max m.now wake.due }
  -- the job is still waited for when its wait is over, and takes no time
  have hcoherent := (helapsed.reachable hm).coherent
  have hpending : later.pending job = true := pending_iff.mpr ⟨wake, hmem⟩
  have hwork : later.after (.work job) = later.work job := by rw [after_work, if_pos hpending]
  refine ⟨[.work job], by simp [Move.isPassing], ⟨fun w _ => ?_, trivial⟩, ?_⟩
  · rw [hwork, now_work hcoherent]
    exact Nat.le_max_left _ _
  · rw [perform_eq_work]
    exact hwork.symm

/-- Acting for a wait takes the time until it is due, and none when it is overdue. -/
theorem now_perform (hm : m.Reachable) {wake : Wake} {job : Job}
    (h : m.nextWait? = some (wake, job)) : (m.perform wake job).now = max m.now wake.due := by
  have helapsed := (passes_elapse (nextWait?_eq_some h).2).reachable hm
  rw [perform_eq_work]
  exact now_work helapsed.coherent job

/-- Time that lapses: what is due first acts first, and a rest ends before anything else is due. -/
inductive Lapses : Machine σ → Machine σ → Prop where
  | refl (m : Machine σ) : Lapses m m
  | act {m m' : Machine σ} {wake : Wake} {job : Job} (hnext : m.nextWait? = some (wake, job))
      (h : Lapses (m.perform wake job) m') : Lapses m m'
  | rest {m m' : Machine σ} {limit : Nat} (hdue : ∀ w ∈ m.waits, limit ≤ w.1.due)
      (h : Lapses { m with now := max m.now limit } m') : Lapses m m'

/-- Lapsing time can be put together. -/
theorem Lapses.trans {m₁ m₂ m₃ : Machine σ} (h₁ : m₁.Lapses m₂) (h₂ : m₂.Lapses m₃) :
    m₁.Lapses m₃ := by
  induction h₁ with
  | refl => exact h₂
  | act hnext _ ih => exact .act hnext (ih h₂)
  | rest hdue _ ih => exact .rest hdue (ih h₂)

theorem lapses_elapse {limit : Nat} (h : ∀ w ∈ m.waits, limit ≤ w.1.due) :
    m.Lapses { m with now := max m.now limit } := .rest h (.refl _)

/-- Time that lapses goes past no wait. -/
theorem Lapses.passes {m' : Machine σ} (h : m.Lapses m') (hm : m.Reachable) : m.Passes m' := by
  induction h with
  | refl m => exact .refl m
  | act hnext _ ih =>
    have hperformed := passes_perform hm hnext
    exact hperformed.trans (ih (hperformed.reachable hm))
  | rest hdue _ ih =>
    have helapsed := passes_elapse hdue
    exact helapsed.trans (ih (helapsed.reachable hm))

theorem Lapses.reachable {m' : Machine σ} (h : m.Lapses m') (hm : m.Reachable) : m'.Reachable :=
  (h.passes hm).reachable hm

/--
Letting time pass up to a limit performs what is due before the limit; unless it was cut short, the
limit is reached with nothing left that is due before.
-/
theorem passUntil_lapses (done : Machine σ → Bool) (limit fuel : Nat) (hm : m.Reachable) :
    ∃ m', m.Lapses m' ∧ (m.now < limit → m'.now < limit) ∧
      (passUntil done limit fuel m = m' ∨
        passUntil done limit fuel m = { m' with now := max m'.now limit } ∧
          ∀ w ∈ m'.waits, limit ≤ w.1.due) := by
  induction fuel generalizing m with
  | zero => exact ⟨m, .refl m, id, .inl rfl⟩
  | succ fuel ih =>
    unfold passUntil
    split
    · exact ⟨m, .refl m, id, .inl rfl⟩
    · split
      · next wake job hnext =>
        split
        · next hdue =>
          obtain ⟨m', hlapses, hnow, hcases⟩ := ih ((passes_perform hm hnext).reachable hm)
          refine ⟨m', .act hnext hlapses, fun hlt => hnow ?_, hcases⟩
          rw [now_perform hm hnext]
          exact Nat.max_lt.mpr ⟨hlt, hdue⟩
        · next hdue =>
          refine ⟨m, .refl m, id, .inr ⟨rfl, fun w hw => ?_⟩⟩
          exact Nat.le_trans (Nat.not_lt.mp hdue) ((nextWait?_eq_some hnext).2 w hw)
      · next hnone =>
        refine ⟨m, .refl m, id, .inr ⟨rfl, ?_⟩⟩
        simp [nextWait?_eq_none hnone]

/-- Waiting for something is letting time lapse, no further than to the limit. -/
theorem await_lapses (hm : m.Reachable) (done : Machine σ → Bool) (limit : Nat) :
    m.Lapses (m.await done limit) := by
  obtain ⟨m', hlapses, -, hsame | ⟨hsame, hdue⟩⟩ :=
    passUntil_lapses done limit (m.movesFor limit) hm
  · exact (show m.await done limit = m' from hsame) ▸ hlapses
  · exact (show m.await done limit = _ from hsame) ▸ hlapses.trans (lapses_elapse hdue)

theorem await_passes (hm : m.Reachable) (done : Machine σ → Bool) (limit : Nat) :
    m.Passes (m.await done limit) := (await_lapses hm done limit).passes hm

/-- Passing time does not go back. -/
theorem Passes.now_le {m' : Machine σ} (h : m.Passes m') (hm : m.Reachable) : m.now ≤ m'.now := by
  obtain ⟨moves, -, -, rfl⟩ := h
  exact now_le_afterAll hm moves

/-- Letting everything act that is due takes no time. -/
theorem settle_lapses (hm : m.Reachable) : m.Lapses m.settle := by
  obtain ⟨m', hlapses, hnow, hcases⟩ := passUntil_lapses (fun _ => false) (m.now + 1)
    (m.movesFor (m.now + 1)) hm
  -- nothing acts at the limit, which is the next millisecond
  have hsame : m'.now = m.now := by
    have hlt := hnow (Nat.lt_succ_self _)
    have hle := (hlapses.passes hm).now_le hm
    omega
  have hsettled : m.settle = m' := by
    unfold settle
    rcases hcases with h | ⟨h, -⟩
    · rw [h, ← hsame]
    · rw [h, ← hsame]
  exact hsettled ▸ hlapses

/-- Waiting some milliseconds lets time lapse. -/
theorem advance_lapses (hm : m.Reachable) (ms : Nat) : m.Lapses (m.advance ms) := by
  have hawaited := await_lapses hm (fun _ => false) (m.now + ms)
  exact hawaited.trans (settle_lapses (hawaited.reachable hm))

/-- Waiting for a fan-out lets time lapse. -/
theorem awaitRound_lapses (hm : m.Reachable) (round rests : Nat) :
    m.Lapses (m.awaitRound round rests) := by
  induction rests generalizing m with
  | zero => exact .refl m
  | succ rests ih =>
    unfold awaitRound
    split
    · exact .refl m
    · next r _ =>
      have hawaited := await_lapses hm (fun m => m.roundOver round) (m.lastDue r + 1)
      exact hawaited.trans (ih (hawaited.reachable hm))

theorem awaitRound_passes (hm : m.Reachable) (round rests : Nat) :
    m.Passes (m.awaitRound round rests) := (awaitRound_lapses hm round rests).passes hm

/-! ## Requests -/

/-- Letting time pass by hand is a run. -/
theorem Reachable.advance (hm : m.Reachable) (ms : Nat) : (m.advance ms).Reachable :=
  (advance_lapses hm ms).reachable hm

/-- Triggering a cycle and waiting for its results is a run. -/
theorem Reachable.runCycle (hm : m.Reachable) (time : Option Instant) :
    (m.runCycle time).2.Reachable := by
  have htriggered : (m.trigger time).2.Reachable := hm.after (.trigger time)
  unfold Machine.runCycle
  rcases htrigger : m.trigger time with ⟨answer, next⟩
  rw [htrigger] at htriggered
  cases answer with
  | error e => exact htriggered
  | ok round =>
    have hwaited := awaitRound_passes htriggered round (next.registry.length + 1)
    have hreachable := hwaited.reachable htriggered
    simp only
    split <;> exact hreachable

/-- A call outside of all fan-outs is a run. -/
theorem Reachable.callAlone (hm : m.Reachable) (c : Registered σ) (time : Instant) :
    (m.callAlone c time).2.Reachable :=
  ((await_passes hm (fun _ => false) (m.now + c.delay m.world)).reachable hm).after
    (.runAlone c time)

/-- Passing time does not change the state of the scheduler. -/
theorem Passes.state_eq {m' : Machine σ} (h : m.Passes m') (hm : m.Reachable) :
    m'.state = m.state := by
  obtain ⟨moves, hmoves, -, rfl⟩ := h
  refine hm.control_induction (P := fun c => c.state = m.state)
    (Q := fun cause => cause = .none ∨ cause = .elapse) (fun move hmove => ?_) rfl
    fun _ hcause step hsame => (step.state hcause).trans hsame
  have hpassing := hmoves move hmove
  cases move <;> simp [Move.isPassing, Move.cause] at hpassing ⊢

/-- Nor does it replace the clock. -/
theorem Passes.clock_eq {m' : Machine σ} (h : m.Passes m') (hm : m.Reachable) :
    m'.clock = m.clock := by
  obtain ⟨moves, hmoves, -, rfl⟩ := h
  apply hm.clock_afterAll
  intro move hmove
  have hpassing := hmoves move hmove
  cases move <;> simp [Move.isPassing, Move.cause] at hpassing ⊢

/-- A stop tells the loop, waits for it, and is done; nobody else stops the scheduler meanwhile. -/
theorem stop_eq (hm : m.Reachable) (hstate : m.state ≠ .stopping) :
    (m.after .requestStop = m ∧ m.stop = m) ∨
      ∃ told, (m.after .requestStop).Passes told ∧ told.state = .stopping ∧
        m.stop = told.after .finishStop := by
  have htold : m.after .requestStop = m.requestStop.2 := by
    rw [after_requestStop, if_neg hstate]
  have hreachable := hm.after .requestStop
  rw [htold] at hreachable ⊢
  cases hworker : m.worker with
  | none =>
    left
    simp [Machine.stop, requestStop, hworker]
  | some loop =>
    right
    have hrequest : m.requestStop = (some loop, m.requestStop.2) := by simp [requestStop, hworker]
    have hstopping : m.requestStop.2.state = .stopping := by
      simp only [requestStop, hworker, sendShutdown]
      split <;> rfl
    have hwaited := await_passes hreachable (fun m => m.loopOver loop)
      (m.requestStop.2.now + toMillis m.requestStop.2.config.shutdownTimeout)
    -- while it waits for the loop, nobody starts or stops the scheduler
    have hstill := (hwaited.state_eq hreachable).trans hstopping
    refine ⟨_, hwaited, hstill, ?_⟩
    rw [after_finishStop, if_pos hstill, Machine.stop, hrequest]

/-- Stopping is a run, unless the scheduler is being stopped already. -/
theorem Reachable.stop (hm : m.Reachable) (hstate : m.state ≠ .stopping) : m.stop.Reachable := by
  rcases stop_eq hm hstate with ⟨-, hsame⟩ | ⟨told, hpasses, -, hdone⟩
  · rw [hsame]
    exact hm
  · rw [hdone]
    exact (hpasses.reachable (hm.after .requestStop)).after .finishStop

end Machine

end HourlySnapshots
