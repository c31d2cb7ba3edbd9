import HourlySnapshots.Proofs.Scheduler.Driving
import HourlySnapshots.Proofs.Scheduler.HourOrder
import Mathlib.Data.List.Chain

/-!
# The life cycle of the scheduler

The state of the scheduler, its worker, the loops and what they have been told are kept apart from
each other, and a stop may leave loops behind that are still at work. All the same the state moves
along the life cycle only and tells whether there is a worker, the loop of the worker is alive, and
no other loop starts a cycle. The clock must not break off: it would end the worker's loop.
-/

namespace HourlySnapshots

/-- Whether the life cycle leads from one state to another. -/
def SchedulerState.leadsTo : SchedulerState → SchedulerState → Bool
  | .stopped, .starting | .starting, .running | .starting, .stopped => true
  | .running, .stopping | .stopping, .stopped => true
  | _, _ => false

/-- The states that a scheduler has been in, the present one first; it was stopped at first. -/
def statesOf (history : List Happening) : List SchedulerState :=
  (history.filterMap fun
    | .stateChanged state => some state
    | _ => none) ++ [.stopped]

@[simp] theorem statesOf_cons (h : Happening) (older : List Happening) :
    statesOf (h :: older) =
      match h with
      | .stateChanged state => state :: statesOf older
      | _ => statesOf older := by
  cases h <;> rfl

/-- The cycles that a loop has started, the latest first. -/
def startsOf (loop : Nat) (history : List Happening) : List Nat :=
  history.filterMap fun
    | .roundStarted round (.automatic starter) _ _ => if starter = loop then some round else none
    | _ => none

@[simp] theorem startsOf_cons (loop : Nat) (h : Happening) (older : List Happening) :
    startsOf loop (h :: older) =
      match h with
      | .roundStarted round (.automatic starter) _ _ =>
        if starter = loop then round :: startsOf loop older else startsOf loop older
      | _ => startsOf loop older := by
  rcases h with - | - | - | - | - | - | - | ⟨_, _ | _ | _, _, _⟩ | - | - | - | -
  case roundStarted.automatic starter =>
    by_cases hsame : starter = loop <;> simp [startsOf, hsame]
  all_goals rfl

namespace Control

variable {c c' : Control}

/-! ## The states -/

/-- The state has moved along the life cycle. -/
structure Legal (c : Control) : Prop where
  chain : (statesOf c.history).IsChain fun next state => state.leadsTo next = true
  latest : (statesOf c.history).head? = some c.state

namespace Legal

theorem congr (h : Legal c) (hstate : c'.state = c.state)
    (hstates : statesOf c'.history = statesOf c.history) : Legal c' where
  chain := hstates ▸ h.chain
  latest := by rw [hstates, hstate, h.latest]

/-- The state may be followed by the next one of the life cycle. -/
theorem next (h : Legal c) {state : SchedulerState} (hleads : c.state.leadsTo state = true)
    (hstate : c'.state = state) (hstates : statesOf c'.history = state :: statesOf c.history) :
    Legal c' where
  chain := by
    rw [hstates, List.isChain_cons]
    refine ⟨fun before hbefore => ?_, h.chain⟩
    rw [h.latest, Option.mem_some_iff] at hbefore
    exact hbefore ▸ hleads
  latest := by rw [hstates, hstate, List.head?_cons]

/-- A change of state that is allowed keeps the chain legal. -/
theorem setState (h : Legal c) {state : SchedulerState} (hleads : c.state.leadsTo state = true) :
    Legal (c.setState state) :=
  h.next hleads rfl (by simp)

theorem backOff (h : Legal c) (loop order : Nat) : Legal (c.backOff loop order) :=
  backOff_cases (fun _ => h.congr rfl (by simp)) (fun _ => h.congr rfl rfl)

end Legal

/-- Without a worker, the scheduler is stopped unless it is being stopped. -/
theorem Coherent.stopped_of_none (h : Coherent c) (hworker : c.worker = none)
    (hstate : c.state ≠ .stopping) : c.state = .stopped := by
  have hrunning : c.state ≠ .running := by
    rw [ne_eq, h.running_iff, hworker]
    simp
  have hsettled := h.settled
  cases hcases : c.state <;> simp_all

/-- Only a running scheduler has a worker. -/
theorem Coherent.running_of_worker (h : Coherent c) {loop : Nat} (hworker : c.worker = some loop) :
    c.state = .running := by
  rw [h.running_iff, hworker]
  rfl

/-- Every step moves the state along the life cycle. -/
theorem Step.legal {cause : Cause} (step : Step c cause c') (hcoherent : c.Coherent)
    (h : Legal c) : Legal c' := by
  have hread : Legal c.read := h.congr rfl (by simp)
  cases step with
  | started order hworker hstate =>
    have hstopped := hcoherent.stopped_of_none hworker hstate
    have hstarting : Legal (c.setState .starting) := h.setState (by rw [hstopped]; rfl)
    exact hstarting.next rfl rfl (by simp)
  | startFailed hworker hstate =>
    have hstopped := hcoherent.stopped_of_none hworker hstate
    have hstarting : Legal (c.setState .starting) := h.setState (by rw [hstopped]; rfl)
    exact hstarting.setState rfl
  | dismissed hworker | stoppedAsleep hworker =>
    have hrunning := hcoherent.running_of_worker hworker
    exact h.next (by rw [hrunning]; rfl) rfl (by simp)
  | stopFinished hstate => exact h.next (by rw [hstate]; rfl) rfl (by simp)
  | unbounded order | missedLast order => exact hread.backOff _ order
  | automaticAborted results order =>
    refine Legal.backOff ?_ _ order
    exact h.congr rfl (by simp)
  | _ => exact h.congr rfl (by simp)

/-! ## The loop of the worker -/

/-- Loops are alive until they are told to shut down. -/
def Alive (c : Control) : Prop :=
  ∀ id l, c.loop? id = some l → l.shutdown = false → l.phase ≠ .ended

/-- The loop under an id that has been told to shut down has been told itself. -/
theorem Coherent.shutdown_of_told (h : Coherent c) {loop : Nat}
    (htold : c.toldToShutDown loop = true) {l : Loop} (hl : c.loop? loop = some l) :
    l.shutdown = true := by
  obtain ⟨other, hmem, hother⟩ := List.any_eq_true.mp htold
  obtain ⟨hid, hshutdown⟩ : other.id = loop ∧ other.shutdown = true := by simpa using hother
  have hsame := h.loop?_of_mem hmem
  rw [hid, hl] at hsame
  exact Option.some.inj hsame ▸ hshutdown

namespace Alive

theorem congr (h : Alive c) (hloops : c'.loops = c.loops) : Alive c' := by
  intro id l hl
  rw [loop?, hloops] at hl
  exact h id l hl

/-- Only a loop that has been told to shut down may end. -/
theorem setPhase (h : Alive c) {loop : Nat} {phase : LoopPhase}
    (hphase : phase = .ended → ∀ l, c.loop? loop = some l → l.shutdown = true) :
    Alive (c.setPhase loop phase) := by
  intro id l hl hrunning hended
  obtain ⟨l₀, hl₀, hshutdown, hl_phase⟩ := exists_of_loop?_setPhase hl
  rw [hshutdown] at hrunning
  rw [hended] at hl_phase
  split at hl_phase
  · next hid =>
    rw [hphase hl_phase.symm l₀ (hid ▸ hl₀)] at hrunning
    cases hrunning
  · exact h id l₀ hl₀ hrunning hl_phase.symm

theorem backOff (h : Alive c) (hcoherent : c.Coherent) (loop order : Nat) :
    Alive (c.backOff loop order) :=
  backOff_cases
    (fun htold => h.setPhase fun _ l hl => hcoherent.shutdown_of_told htold hl)
    (fun _ => h.setPhase (by simp))

/-- Being told ends no loop by itself. -/
theorem dismiss (h : Alive c) (loop : Nat) : Alive (c.dismiss loop) := by
  intro id l hl hrunning
  obtain ⟨l₀, hl₀, hsame, hbefore⟩ := exists_of_loop?_dismiss hl
  rw [hsame]
  exact h id l₀ hl₀ (hbefore hrunning)

end Alive

/-- While the clock does not break off, every step keeps the loops alive. -/
theorem Step.alive {cause : Cause} (step : Step c cause c') (hcoherent : c.Coherent)
    (hclock : .clockRead none ∉ c'.history) (h : Alive c) : Alive c' := by
  cases step with
  | lost hl hphase hreading => simp [hreading] at hclock
  | automaticAborted results order hr hpurpose hreading =>
    refine absurd ((backOff_history _ order).mem ?_) hclock
    simp [hreading]
  | found | missed => exact h.setPhase (c := c) (by simp)
  | slept | released | automaticEnded | resumed => exact h.setPhase (c := c) (by simp)
  | unbounded order | missedLast order =>
    have hread : Alive c.read := h.congr rfl
    exact hread.backOff (hcoherent.congr rfl rfl rfl rfl rfl) _ order
  | closed hl hphase htold =>
    refine h.setPhase (c := c) fun _ l hl' => ?_
    rw [hl, Option.some.injEq] at hl'
    exact hl' ▸ htold
  | started order =>
    intro id l hl hrunning
    rw [hcoherent.loop?_start] at hl
    split at hl
    · obtain rfl := Option.some.inj hl
      simp
    · exact h id l hl hrunning
  | dismissed => exact h.dismiss _
  | @stoppedAsleep l hworker hstate hl =>
    refine (h.dismiss l.id).setPhase fun _ l' hl' => ?_
    have hflagged : (c.flag l.id).loop? l.id = some l' := hl'
    rw [loop?_flag_self, hl] at hflagged
    exact Option.some.inj hflagged ▸ rfl
  | _ => exact h.congr rfl

/-! ## Loops that are to shut down -/

/-- A loop has been told to shut down, and has started these cycles. -/
structure Dismissed (c : Control) (loop : Nat) (cycles : List Nat) : Prop where
  told : ∃ l, c.loop? loop = some l ∧ l.shutdown = true
  started : startsOf loop c.history = cycles

namespace Dismissed

variable {loop : Nat} {cycles : List Nat}

theorem congr (h : Dismissed c loop cycles) (hloops : c'.loops = c.loops)
    (hstarts : startsOf loop c'.history = startsOf loop c.history) : Dismissed c' loop cycles where
  told := by
    rw [loop?, hloops]
    exact h.told
  started := hstarts.trans h.started

/-- Whatever phase a loop goes to, one that has been told stays so. -/
theorem setPhase (h : Dismissed c loop cycles) (other : Nat) (phase : LoopPhase) :
    Dismissed (c.setPhase other phase) loop cycles where
  told := by
    obtain ⟨l, hl, htold⟩ := h.told
    rw [loop?_setPhase, hl]
    refine ⟨_, rfl, ?_⟩
    simp only
    split <;> exact htold
  started := h.started

theorem endLoop (h : Dismissed c loop cycles) (other : Nat) :
    Dismissed (c.endLoop other) loop cycles :=
  (h.setPhase other .ended).congr rfl (by simp)

theorem backOff (h : Dismissed c loop cycles) (other order : Nat) :
    Dismissed (c.backOff other order) loop cycles :=
  backOff_cases (P := fun c' => Dismissed c' loop cycles) (fun _ => h.endLoop other)
    (fun _ => h.setPhase other _)

/-- A loop that has been told stays so when any loop is dismissed. -/
theorem dismiss (h : Dismissed c loop cycles) (other : Nat) :
    Dismissed (c.dismiss other) loop cycles where
  told := by
    obtain ⟨l, hl, htold⟩ := h.told
    show ∃ l, (c.flag other).loop? loop = some l ∧ l.shutdown = true
    rw [loop?_flag, hl]
    refine ⟨_, rfl, ?_⟩
    simp only
    split
    · rfl
    · exact htold
  started := by simpa using h.started

end Dismissed

/-- A loop that has been told to shut down starts no further cycle. -/
theorem Step.dismissed_loop {cause : Cause} (step : Step c cause c') (hcoherent : c.Coherent)
    {loop : Nat} {cycles : List Nat} (h : Dismissed c loop cycles) :
    Dismissed c' loop cycles := by
  have hread : Dismissed c.read loop cycles := h.congr rfl (by simp)
  cases step with
  | lost => exact hread.endLoop _
  | found | missed => exact (hread.setPhase _ _).congr rfl (by simp)
  | unbounded order | missedLast order => exact hread.backOff _ order
  | slept => exact (hread.setPhase _ _).congr rfl (by simp)
  | @released l turn now target hl hphase hrunning =>
    -- the loop that starts a cycle has not been told to shut down
    have hother : l.id ≠ loop := by
      rintro rfl
      obtain ⟨l', hl', htold⟩ := h.told
      rw [hl, Option.some.injEq] at hl'
      rw [hl', htold] at hrunning
      cases hrunning
    exact (hread.setPhase _ _).congr rfl (by simp [hother])
  | closed => exact h.endLoop _
  | resumed => exact h.setPhase _ _
  | automaticEnded =>
    refine Dismissed.setPhase ?_ _ _
    exact h.congr rfl (by simp)
  | automaticAborted results order =>
    refine Dismissed.backOff ?_ _ order
    exact h.congr rfl (by simp)
  | started order =>
    constructor
    · obtain ⟨l, hl, htold⟩ := h.told
      have hold : loop ≠ c.nextId := by
        rintro rfl
        rw [hcoherent.loop?_nextId] at hl
        cases hl
      exact ⟨l, by rw [hcoherent.loop?_start, if_neg hold, hl], htold⟩
    · simpa using h.started
  | dismissed => exact h.dismiss _
  | stoppedAsleep => exact (h.dismiss _).endLoop _
  | _ => exact h.congr rfl (by simp)

/-! ## Without a worker -/

/-- There is no worker, and the loops have started these cycles. -/
structure Unmanned (c : Control) (cycles : List (Nat × Instant)) : Prop where
  worker : c.worker = none
  started : cycleStarts c.history = cycles

theorem Unmanned.congr {cycles : List (Nat × Instant)} (h : Unmanned c cycles)
    (hworker : c'.worker = c.worker) (hstarts : cycleStarts c'.history = cycleStarts c.history) :
    Unmanned c' cycles :=
  ⟨hworker.trans h.worker, hstarts.trans h.started⟩

theorem Unmanned.backOff {cycles : List (Nat × Instant)} (h : Unmanned c cycles)
    (loop order : Nat) : Unmanned (c.backOff loop order) cycles :=
  backOff_cases (P := fun c' => Unmanned c' cycles) (fun _ => h.congr rfl (by simp))
    (fun _ => h.congr rfl rfl)

/-- Asking for a stop starts no cycle. -/
theorem Step.starts_requestStop (step : Step c .requestStop c') :
    cycleStarts c'.history = cycleStarts c.history := by
  cases step <;> simp

/-- Until a start there is no worker, and no cycle starts by itself. -/
theorem Step.unmanned {cause : Cause} (step : Step c cause c') (hcause : cause ≠ .start)
    (hcoherent : c.Coherent) {cycles : List (Nat × Instant)} (h : Unmanned c cycles) :
    Unmanned c' cycles := by
  cases step with
  | released hl hphase hrunning =>
    rw [hcoherent.shutdown_of_none h.worker hl] at hrunning
    cases hrunning
  | unbounded order | missedLast order | automaticAborted results order =>
    refine Unmanned.backOff ?_ _ order
    exact h.congr rfl (by simp)
  | started => exact absurd rfl hcause
  | dismissed hworker | stoppedAsleep hworker =>
    rw [h.worker] at hworker
    cases hworker
  | _ => exact h.congr rfl (by simp)

end Control

namespace Machine

variable {σ : Type} {m : Machine σ}

/-- The states that the scheduler has been in, the first one first. -/
def states (m : Machine σ) : List SchedulerState := (statesOf m.history).reverse

theorem statesOf_control (m : Machine σ) : statesOf m.control.history = statesOf m.history := by
  unfold statesOf
  rw [show m.control.history = m.history.filter fun h => !h.isCall from rfl,
    filterMap_apart_from_calls (fun h => by cases h <;> simp [Happening.isCall])]

theorem startsOf_control (m : Machine σ) (loop : Nat) :
    startsOf loop m.control.history = startsOf loop m.history :=
  filterMap_apart_from_calls (fun h => by cases h <;> simp [Happening.isCall]) m.history

theorem Reachable.legal (hm : m.Reachable) : m.control.Legal := by
  refine hm.induction (P := fun m => m.control.Legal) (fun config fanOut factory clock world => ?_)
    fun {m move} hm h => (hm.step move).legal hm.coherent h
  exact ⟨List.isChain_singleton _, rfl⟩

/-- While the clock does not break off, loops are alive until they are told to shut down. -/
theorem Reachable.alive (hm : m.Reachable) (hclock : .clockRead none ∉ m.history) :
    m.control.Alive := by
  have hbefore : .clockRead none ∉ m.control.history :=
    fun hmem => hclock (List.mem_of_mem_filter hmem)
  refine hm.induction (P := fun m => .clockRead none ∉ m.control.history → m.control.Alive)
    (fun config fanOut factory clock world _ => ?_) (fun {m move} hm h hclock => ?_) hbefore
  · intro id l hl
    cases hl
  · have step := hm.step move
    exact step.alive hm.coherent hclock (h fun hmem => hclock (step.history.mem hmem))

/-- A loop that has been told to shut down starts no cycle, whatever happens. -/
theorem startsOf_afterAll (hm : m.Reachable) {l : Loop} (hl : l ∈ m.loops)
    (htold : l.shutdown = true) (moves : List (Move σ)) :
    startsOf l.id (m.afterAll moves).history = startsOf l.id m.history := by
  have hdismissed : m.control.Dismissed l.id (startsOf l.id m.history) :=
    ⟨⟨l, hm.coherent.loop?_of_mem hl, htold⟩, startsOf_control m l.id⟩
  have hafter : (m.afterAll moves).control.Dismissed l.id (startsOf l.id m.history) :=
    hm.control_induction (P := fun c => c.Dismissed l.id (startsOf l.id m.history))
      (Q := fun _ => True) (fun _ _ => trivial) hdismissed
      fun hcoherent _ step h => step.dismissed_loop hcoherent h
  rw [← startsOf_control]
  exact hafter.started

/-- A stop takes the worker away before it waits for its loop, and starts no cycle. -/
theorem unmanned_requestStop (hm : m.Reachable) :
    (m.after .requestStop).control.Unmanned (cycleStarts m.control.history) where
  worker := by
    show (m.after .requestStop).worker = none
    rw [after_requestStop]
    split
    · next hstate =>
      have hstopping : m.control.state = .stopping := hstate
      exact hm.coherent.worker_eq_none (by simp [hstopping])
    · cases hworker : m.worker with
      | none => simp [requestStop, hworker]
      | some loop =>
        simp only [requestStop, hworker, sendShutdown]
        split <;> rfl
  started := (hm.step .requestStop).starts_requestStop

/-- Until the next start, no cycle starts by itself once a stop was asked for. -/
theorem cycleStarts_after_requestStop (hm : m.Reachable) {moves : List (Move σ)}
    (hmoves : ∀ move ∈ moves, move ≠ .start) :
    cycleStarts ((m.after .requestStop).afterAll moves).history = cycleStarts m.history := by
  have hcauses : ∀ move ∈ moves, move.cause ≠ .start := by
    intro move hmove
    have hne := hmoves move hmove
    cases move <;> simp [Move.cause] at hne ⊢
  have hunmanned := (hm.after .requestStop).control_induction
    (P := fun c => c.Unmanned (cycleStarts m.control.history)) (Q := fun cause => cause ≠ .start)
    hcauses (unmanned_requestStop hm)
    fun hcoherent hcause step h => step.unmanned hcause hcoherent h
  rw [← cycleStarts_control, ← cycleStarts_control]
  exact hunmanned.started

/-- A stop starts nothing: it asks for the loop's end, waits and is done. -/
theorem stop_afterAll (hm : m.Reachable) (hstate : m.state ≠ .stopping) :
    ∃ moves : List (Move σ), (∀ move ∈ moves, move ≠ .start) ∧
      m.stop = (m.after .requestStop).afterAll moves := by
  rcases stop_eq hm hstate with ⟨hasked, hstopped⟩ | ⟨told, ⟨moves, hpassing, -, htold⟩, -, hdone⟩
  · exact ⟨[], by simp, by rw [hstopped, afterAll_nil, hasked]⟩
  · refine ⟨moves ++ [.finishStop], fun move hmove => ?_, ?_⟩
    · rcases List.mem_append.mp hmove with hmove | hlast
      · rintro rfl
        cases hpassing _ hmove
      · rw [List.mem_singleton.mp hlast]
        simp
    · rw [afterAll_concat, ← htold, hdone]

/--
Whatever is started, stopped, triggered and waited for, while the clock does not break off: the
state moves along the life cycle; it is running exactly when there is a worker, whose loop is then
alive and goes on; no two loops go on; and a loop that has been told to shut down starts no cycle
any more, so that no cycle starts by itself between a stop and the next start.
-/
theorem life_cycle (hm : m.Reachable) (hclock : .clockRead none ∉ m.history) :
    (m.states.IsChain (fun state next => state.leadsTo next = true) ∧
      m.states.head? = some .stopped ∧ m.states.getLast? = some m.state) ∧
    (m.state = .running ↔ m.worker.isSome = true) ∧
    (∀ id, m.worker = some id →
      ∃ l ∈ m.loops, l.id = id ∧ l.phase ≠ .ended ∧ l.shutdown = false) ∧
    (∀ l₁ ∈ m.loops, ∀ l₂ ∈ m.loops, l₁.shutdown = false → l₂.shutdown = false → l₁ = l₂) ∧
    (∀ l ∈ m.loops, l.shutdown = true → ∀ moves,
      startsOf l.id (m.afterAll moves).history = startsOf l.id m.history) ∧
    ∀ moves : List (Move σ), (∀ move ∈ moves, move ≠ .start) →
      cycleStarts ((m.after .requestStop).afterAll moves).history = cycleStarts m.history ∧
        (m.state ≠ .stopping →
          cycleStarts (m.stop.afterAll moves).history = cycleStarts m.history) := by
  have hcoherent := hm.coherent
  refine ⟨⟨?_, ?_, ?_⟩, hcoherent.running_iff, fun id hworker => ?_,
    fun l₁ hl₁ l₂ hl₂ hrunning₁ hrunning₂ => ?_, fun l hl htold => startsOf_afterAll hm hl htold,
    fun moves hmoves => ⟨cycleStarts_after_requestStop hm hmoves, fun hstate => ?_⟩⟩
  · rw [states, List.isChain_reverse, ← statesOf_control]
    exact hm.legal.chain
  · rw [states, List.head?_reverse, statesOf, List.getLast?_concat]
  · rw [states, List.getLast?_reverse, ← statesOf_control]
    exact hm.legal.latest
  · obtain ⟨l, hl, hrunning⟩ := (hcoherent.worker_iff id).mp hworker
    exact ⟨l, Control.mem_of_loop? hl, Control.loop?_id hl, hm.alive hclock id l hl hrunning,
      hrunning⟩
  · -- both loops are the worker's
    have hworker₁ := hcoherent.worker_of_running (hcoherent.loop?_of_mem hl₁) hrunning₁
    have hworker₂ := hcoherent.worker_of_running (hcoherent.loop?_of_mem hl₂) hrunning₂
    rw [hworker₁, Option.some.injEq] at hworker₂
    have hsame := hcoherent.loop?_of_mem hl₁
    rw [hworker₂, hcoherent.loop?_of_mem hl₂] at hsame
    exact (Option.some.inj hsame).symm
  · obtain ⟨stopping, hstopping, hstop⟩ := stop_afterAll hm hstate
    rw [hstop, ← afterAll_append]
    refine cycleStarts_after_requestStop hm fun move hmove => ?_
    exact (List.mem_append.mp hmove).elim (hstopping move) (hmoves move)

/--
A start fails, as there are no collectors yet; the next loop is left behind in its cycle by a stop
that gives up on it, and a third start begins a loop while the cycle of the second goes on.
-/
theorem life_cycle_of_three_starts :
    let slow : Registered Bool := ⟨⟨"slow", "", ""⟩, fun _ => 10000, fun _ w => (some true, w)⟩
    let due : Instant := ⟨1719828300, 0, by decide, by decide, by decide, by decide⟩
    let build (ready : Bool) : Except (List String) (List (Registered Bool)) × Bool :=
      (if ready then .ok [slow] else .error ["no collectors yet"], ready)
    let m := (init .default .sequential build (fun _ readings => due.add? readings) false).afterAll
      [.start, .change fun _ => true, .start, .work (.loop 0), .setClock fun _ _ => due.add? hour,
        .work (.loop 0), .requestStop, .finishStop, .start]
    m.states.map SchedulerState.name = ["stopped", "starting", "stopped", "starting", "running",
        "stopping", "stopped", "starting", "running"] ∧
      m.loops.map (fun l => (l.id, l.shutdown)) = [(0, true), (2, false)] ∧
      m.states.IsChain (fun state next => state.leadsTo next = true) ∧
      ∀ moves, startsOf 0 (m.afterAll moves).history = [1] := by
  intro slow due build m
  have hm : m.Reachable := ⟨_, _, _, _, _, _, rfl⟩
  have hclock : .clockRead none ∉ m.history := by decide +kernel
  obtain ⟨⟨hlegal, -, -⟩, -, -, -, hdismissed, -⟩ := life_cycle hm hclock
  refine ⟨by decide +kernel, by decide +kernel, hlegal, fun moves => ?_⟩
  -- the loop of the second start has been told to shut down in its first cycle
  have hloop : (⟨0, true, .collecting 1⟩ : Loop) ∈ m.loops := by decide +kernel
  have hstarted : startsOf 0 m.history = [1] := by decide +kernel
  exact (hdismissed _ hloop rfl moves).trans hstarted

end Machine

end HourlySnapshots
