import HourlySnapshots.Proofs.Scheduler.Driving
import HourlySnapshots.Proofs.Scheduler.EveryHour
import HourlySnapshots.Proofs.Scheduler.Served

/-!
# A scheduler left alone

A scheduler is left alone when it is not stopped, its clock is not replaced, whatever is due acts
before time goes on, and each cycle of its loop is over before the next boundary. Collectors may be
registered, cycles triggered and loops of earlier starts be at work meanwhile. Once all that is due
has acted, it has started one cycle for each boundary since the start, in their order.
-/

namespace HourlySnapshots

namespace Machine

variable {σ : Type} {m : Machine σ}

/-- Each cycle of the worker that goes on is before the boundary that follows its own. -/
def InTime (m : Machine σ) : Prop :=
  ∀ r ∈ m.rounds, ∀ loop ∈ m.worker, r.purpose = .automatic loop →
    ∀ next ∈ r.time.add? (m.config.offset + hour : Nat), ∀ now ∈ m.clock m.now m.readings,
      now < next

/-- A move that leaves the scheduler alone. -/
structure LeftAlone (m : Machine σ) (move : Move σ) : Prop where
  notStopped : move.cause ≠ .requestStop
  sameClock : move.cause ≠ .setClock
  onTime : m.OnTime move
  inTime : (m.after move).InTime

instance (m : Machine σ) : Decidable m.InTime :=
  inferInstanceAs (Decidable (∀ r ∈ m.rounds, _))

instance (m : Machine σ) (move : Move σ) : Decidable (m.LeftAlone move) :=
  decidable_of_iff (move.cause ≠ .requestStop ∧ move.cause ≠ .setClock ∧ m.OnTime move ∧
    (m.after move).InTime)
    ⟨fun ⟨h₁, h₂, h₃, h₄⟩ => ⟨h₁, h₂, h₃, h₄⟩, fun ⟨h₁, h₂, h₃, h₄⟩ => ⟨h₁, h₂, h₃, h₄⟩⟩

/-- The automatic cycles by id and hour, in the order in which they started. -/
def automaticCycles (m : Machine σ) : List (Nat × Instant) := (cycleStarts m.history).reverse

theorem automaticHours_eq_map (m : Machine σ) :
    m.automaticHours = m.automaticCycles.map Prod.snd := by
  rw [automaticHours, cycleHours_eq, automaticCycles, List.map_reverse]

theorem cycleStarts_fans (m : Machine σ) : cycleStarts m.fans.history = cycleStarts m.history :=
  filterMap_filter_happenings (fun h => by cases h <;> simp [Happening.isFanned]) m.history

/-! ## Runs -/

/-- What is due for a loop is among all that waits. -/
theorem mem_waits_of_loop? {id : Nat} {l : Loop} {wake : Wake} (hl : m.control.loop? id = some l)
    (hwake : wakeOf? l = some wake) : (wake, Job.loop id) ∈ m.waits :=
  mem_waits_loop.mpr ⟨l, Control.mem_of_loop? hl, hwake, Control.loop?_id hl⟩

/-- Cycles in time are in time for the loop on duty. -/
theorem InTime.control (h : m.InTime) {d : Duty} (hd : d.Kept m.control) :
    d.InTime m.control := by
  intro info hinfo hauto next now hnext hnow
  obtain ⟨r, hr, rfl⟩ := List.mem_map.mp hinfo
  rw [← hd.offset_eq] at hnext
  exact h r hr d.loop hd.worker hauto next hnext now hnow

/-- A loop that has just been started has no cycle. -/
theorem inTime_start (hm : m.control.Coherent) {order : Nat}
    (hcontrol : m.start.2.control = (m.control.setState .starting).startLoop order) :
    m.start.2.InTime := by
  intro r hr loop hloop hauto
  have hid : m.control.nextId = loop :=
    Option.some.inj ((congrArg Control.worker hcontrol).symm.trans hloop)
  have hrounds : m.start.2.control.rounds = m.control.rounds := by rw [hcontrol]; rfl
  have hinfo : r.info ∈ m.control.rounds := hrounds ▸ List.mem_map_of_mem hr
  obtain ⟨l, hl, -⟩ := (hm.collecting_iff loop r.id).mpr ⟨r.info, hinfo, rfl, hauto⟩
  rw [← hid, hm.loop?_nextId] at hl
  cases hl

/-- A loop that is left alone does what it has to, as long as the clock can be read. -/
theorem kept_afterAll {d : Duty} {moves : List (Move σ)} (hoffset : d.offset < hour)
    (hm : m.Reachable) (hkept : d.Kept m.control) (hinTime : m.InTime)
    (hrun : m.Along LeftAlone moves) {finish : Instant}
    (hfinish : d.start.add? (d.passed (m.afterAll moves).now) = some finish) :
    d.Kept (m.afterAll moves).control ∧ (m.afterAll moves).InTime := by
  induction moves generalizing m with
  | nil => exact ⟨hkept, hinTime⟩
  | cons move rest ih =>
    obtain ⟨hmove, hrest⟩ := hrun
    -- the clock can be read now, as it can be read at the end
    have hreads : ∃ now, m.control.reading = some now := by
      obtain ⟨now, hnow⟩ := Instant.exists_add?_of_le hfinish
        (Nat.mul_le_mul_right _ (Nat.sub_le_sub_right
          (now_le_afterAll hm (move :: rest)) d.base))
      exact ⟨now, (hkept.clock m.now m.readings hkept.base_le).trans hnow⟩
    have hkept' : d.Kept (m.after move).control :=
      hkept.step (hm.step move) hm.coherent hoffset hmove.notStopped hmove.sameClock hreads
        (hinTime.control hkept) fun l wake hl hwake =>
          hmove.onTime _ (mem_waits_of_loop? hl hwake)
    exact ih (hm.after move) hkept' hmove.inTime hrest hfinish

/-! ## Who is called -/

/-- Calls belong to their fan-outs after every run. -/
theorem Reachable.served (hm : m.Reachable) : m.fans.Served [] 0 [] := by
  refine hm.induction (P := fun m => m.fans.Served [] 0 [])
    (fun config fanOut factory clock world => ?_) fun {m move} hm hserved => ?_
  · constructor <;> simp [init, fans, Begun, cycleStarts]
  · exact (fans_after m hm.wellFormed.ids move).served hm.wellFormed hserved

/-- What every fan-out since some moment has called, or has yet to call, it keeps in every run. -/
theorem Reachable.served_run {base : Registry σ} {first : Nat} {before : List (Nat × Instant)}
    (hm : m.Reachable) (h : m.fans.Served base first before) (moves : List (Move σ)) :
    (m.afterAll moves).fans.Served base first before :=
  hm.afterAll_induction (P := fun other => other.fans.Served base first before)
    (Q := fun _ => True) (fun _ _ => trivial) h fun {other move} hother _ hserved =>
      (fans_after other hother.wellFormed.ids move).served hother.wellFormed hserved

/-- No fan-out has begun since the present moment. -/
theorem Reachable.served_now (hm : m.Reachable) :
    m.fans.Served m.registry m.nextId (cycleStarts m.history) := by
  have h := hm.served
  refine ⟨fun _ hc => hc, Nat.le_refl _, h.begun_lt, h.begun_once, h.rounds_begun,
    h.called_begun, ⟨[], cycleStarts_fans m, by simp⟩, fun id time hbegun hfirst => ?_⟩
  exact absurd (h.begun_lt id time hbegun) (Nat.not_lt.mpr hfirst)

/-- From some moment on, everyone registered then is called by every fan-out. -/
theorem served_afterAll (hm : m.Reachable) (moves : List (Move σ)) :
    (m.afterAll moves).fans.Served m.registry m.nextId (cycleStarts m.history) :=
  hm.served_run hm.served_now moves

theorem called_fans (m : Machine σ) (id : Nat) (name : String) (time : Instant) :
    .called id name time ∈ m.fans.history ↔ .called id name time ∈ m.history := by
  simp [fans, Happening.isFanned]

/-! ## Every hour -/

/-- The duty of the loop that a start begins. -/
def duty (m : Machine σ) (start : Instant) : Duty :=
  ⟨m.nextId, m.now, start, m.config.offset, cycleStarts m.control.history⟩

/-- A stopped scheduler that was started successfully has a new loop. -/
theorem Reachable.started (hm : m.Reachable) (hstopped : m.state = .stopped)
    (hstarted : m.start.1 = .ok ()) : m.start.2.Reachable ∧
      ∃ order, m.start.2.control = (m.control.setState .starting).startLoop order := by
  have hworker : m.control.worker = none := by
    have hrunning := hm.coherent.running_iff
    rw [show m.control.state = .stopped from hstopped] at hrunning
    simpa using hrunning
  have hafter : m.after .start = m.start.2 := by rw [after_start, if_neg (by simp [hstopped])]
  refine ⟨hafter ▸ hm.after .start, ?_⟩
  rcases control_start m hworker with ⟨-, hcontrol⟩ | ⟨⟨e, hfailed⟩, -⟩
  · exact hcontrol
  · simp [hstarted] at hfailed

/-- A scheduler that is left alone and settled has collected what the clock has come to. -/
theorem collectedTo_of_settled {s e : Machine σ} {d : Duty} {moves : List (Move σ)}
    (hs : s.Reachable) (hoffset : d.offset < hour) (hkept : d.Kept s.control) (hinTime : s.InTime)
    (hrun : s.Along LeftAlone moves) (he : e = s.afterAll moves) (hsettled : e.Settled)
    {finish : Instant} (hfinish : d.start.add? (d.passed e.now) = some finish) :
    d.CollectedTo e.control.history (d.shown e.now) := by
  subst he
  obtain ⟨hdone, hinTime'⟩ := kept_afterAll hoffset hs hkept hinTime hrun hfinish
  have hreading : (s.afterAll moves).control.reading = some finish :=
    (hdone.clock _ _ hdone.base_le).trans hfinish
  exact hdone.settled (hs.afterAll moves).coherent hoffset (hinTime'.control hdone) hreading
    fun l wake hl hwake => hsettled _ (mem_waits_of_loop? hl hwake)

/-- The cycles since the start are those that began since then; they call for their hours. -/
theorem calls_of_cycles {s : Machine σ} (hs : s.Reachable) (moves : List (Move σ))
    {fresh : List (Nat × Instant)}
    (hfresh : cycleStarts (s.afterAll moves).history = fresh ++ cycleStarts s.history) :
    ∀ cycle ∈ fresh,
      (∀ name time, .called cycle.1 name time ∈ (s.afterAll moves).history → time = cycle.2) ∧
      ∀ c ∈ s.registry, .called cycle.1 c.name cycle.2 ∈ (s.afterAll moves).history ∨
        ∃ r ∈ (s.afterAll moves).rounds, r.id = cycle.1 ∧ c ∈ r.awaited := by
  have hserved := served_afterAll hs moves
  obtain ⟨later, hsplit, hlater⟩ := hserved.cycles
  -- both split the same list of cycles at those before the start
  have hsame : later = fresh := by
    rw [cycleStarts_fans, hfresh] at hsplit
    exact (List.append_cancel_right hsplit).symm
  subst hsame
  intro cycle hcycle
  obtain ⟨hfirst, hbegun⟩ := hlater cycle hcycle
  refine ⟨fun name time hcalled => ?_, fun c hc => ?_⟩
  · have hbegun' := hserved.called_begun _ name time ((called_fans _ _ _ _).mpr hcalled)
    exact hserved.begun_once _ _ _ hbegun' hbegun
  · exact (hserved.served _ _ hbegun hfirst c hc).imp_left (called_fans _ _ _ _).mp

/--
A scheduler that was started and left alone has started, for each whole hour whose boundary lies
after the start and not after the present instant, one cycle, in the order of the hours. Each of
these cycles calls for its hour only, and has called every collector or goes on and has yet to.
-/
theorem every_hour_once {m e : Machine σ} {start finish : Instant} {moves : List (Move σ)}
    (hm : m.Reachable) (hstopped : m.state = .stopped) (hstarted : m.start.1 = .ok ())
    (hoffset : m.config.offset < hour)
    (hclock : ∀ now reading, m.now ≤ now →
      m.clock now reading = start.add? ((now - m.now) * millisecond : Nat))
    (hrun : m.start.2.Along LeftAlone moves) (he : e = m.start.2.afterAll moves)
    (hsettled : e.Settled) (hfinish : m.clock e.now 0 = some finish) :
    ∃ fresh, e.automaticCycles = m.automaticCycles ++ fresh ∧
      (fresh.map Prod.snd).Pairwise (· < ·) ∧
      (∀ h, h ∈ fresh.map Prod.snd ↔ h.isHourAligned = true ∧
        ∃ t, h.add? m.config.offset = some t ∧ start < t ∧ t ≤ finish) ∧
      ∀ cycle ∈ fresh,
        (∀ name time, .called cycle.1 name time ∈ e.history → time = cycle.2) ∧
        ∀ c ∈ m.start.2.registry, .called cycle.1 c.name cycle.2 ∈ e.history ∨
          ∃ r ∈ e.rounds, r.id = cycle.1 ∧ c ∈ r.awaited := by
  obtain ⟨hs, order, hcontrol⟩ := hm.started hstopped hstarted
  -- the new loop takes its duty up at the start, and keeps it through the run
  have hkept : (m.duty start).Kept m.start.2.control :=
    hcontrol ▸ Duty.Kept.startLoop hm.coherent order hclock
  have hnow : m.start.2.control.now = m.now := by
    rw [hcontrol]
    rfl
  have hpassed : m.now ≤ e.now := by
    rw [he, ← hnow]
    exact now_le_afterAll hs moves
  have hfinish' : (m.duty start).start.add? ((m.duty start).passed e.now) = some finish :=
    (hclock e.now 0 hpassed).symm.trans hfinish
  obtain ⟨fresh, hsplit, hsorted, hmem⟩ := collectedTo_of_settled hs hoffset hkept
    (inTime_start hm.coherent hcontrol) hrun he hsettled hfinish'
  have hbefore : cycleStarts m.start.2.history = (m.duty start).before := by
    rw [← cycleStarts_control, hcontrol]
    simp [duty]
  rw [cycleStarts_control] at hsplit
  -- the history has the latest cycle first
  refine ⟨fresh.reverse, ?_, ?_, fun h => ?_, fun cycle hcycle => ?_⟩
  · rw [automaticCycles, hsplit, List.reverse_append, duty, cycleStarts_control, automaticCycles]
  · rw [List.map_reverse, List.pairwise_reverse]
    exact hsorted
  · rw [List.map_reverse, List.mem_reverse, hmem]
    exact Duty.hour_iff hoffset hfinish' h
  · subst he
    rw [← hbefore] at hsplit
    exact calls_of_cycles hs moves hsplit cycle (List.mem_reverse.mp hcycle)

/-- Started a second before a boundary and left alone for an hour and a second: two cycles. -/
theorem two_hours_once :
    let quick : Registered Unit := ⟨⟨"quick", "", ""⟩, fun _ => 0, fun _ w => (some true, w)⟩
    let start : Instant := ⟨1719828299, 0, by decide, by decide, by decide, by decide⟩
    let finish : Instant := ⟨1719831900, 0, by decide, by decide, by decide, by decide⟩
    let m := init ⟨300 * second, 300 * second, 120 * second, hour⟩ .sequential
      (fun w => (.ok [quick], w)) (fun now _ => start.add? (now * millisecond : Nat)) ()
    let e := m.start.2.afterAll
      [.work (.loop 0), .work (.loop 0), .elapse 1000, .work (.loop 0), .work (.turn 1),
        .work (.call 1 3), .work (.turn 1), .work (.loop 0), .work (.loop 0), .elapse 3601000,
        .work (.loop 0), .work (.turn 2), .work (.call 2 8), .work (.turn 2), .work (.loop 0),
        .work (.loop 0)]
    e.automaticHours.map Instant.secs = [1719828000, 1719831600] ∧
      ∀ h, h ∈ e.automaticHours ↔ h.isHourAligned = true ∧
        ∃ t, h.add? (300 * second : Nat) = some t ∧ start < t ∧ t ≤ finish := by
  intro quick start finish m e
  have hm : m.Reachable := ⟨_, _, _, _, _, [], rfl⟩
  have hclock : ∀ now reading, m.now ≤ now →
      m.clock now reading = start.add? ((now - m.now) * millisecond : Nat) := fun _ _ _ => rfl
  obtain ⟨fresh, hcycles, -, hhours, -⟩ := every_hour_once hm rfl rfl (by decide) hclock
    (by decide +kernel) (rfl : e = _) (by decide +kernel)
    (by decide +kernel : m.clock e.now 0 = some finish)
  refine ⟨by decide +kernel, fun h => ?_⟩
  rw [automaticHours_eq_map, hcycles]
  exact hhours h

end Machine

end HourlySnapshots
