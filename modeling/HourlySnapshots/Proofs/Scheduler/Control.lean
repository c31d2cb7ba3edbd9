import HourlySnapshots.Proofs.Scheduler.Move
import Mathlib.Data.List.Nodup
import Mathlib.Tactic.Simps.Basic

/-!
# What moves do to the loops

The control of a machine is what its loops, its life cycle and its statistics depend on, without
the calls of the collectors. `Control.Step` says once what a move can do to it, and
`control_after` that every move does one of these things; what the later modules prove about loops
and cycles is proved along these steps and never looks into a move again.
-/

namespace HourlySnapshots

/-- A fan-out without its calls. -/
structure RoundInfo where
  id : Nat
  purpose : Purpose
  time : Instant
deriving DecidableEq

def Round.info {σ : Type} (r : Round σ) : RoundInfo := ⟨r.id, r.purpose, r.time⟩

/-- Whether something that happened is a call of a collector or of the factory. -/
def Happening.isCall : Happening → Bool
  | .called .. | .settled .. | .factoryCalled => true
  | _ => false

/-- What is made of some happenings alone is made of them whatever else happened. -/
theorem filterMap_filter_happenings {β : Type} {p : Happening → Bool} {f : Happening → Option β}
    (hf : ∀ h, p h = false → f h = none) (history : List Happening) :
    (history.filter p).filterMap f = history.filterMap f := by
  rw [List.filterMap_filter]
  refine congrArg (fun g => history.filterMap g) (funext fun h => ?_)
  cases hp : p h with
  | true => simp
  | false => simp [hf h hp]

/-- What is made of a history without looking at calls is made of the rest alone. -/
theorem filterMap_apart_from_calls {β : Type} {f : Happening → Option β}
    (hf : ∀ h, h.isCall = true → f h = none) (history : List Happening) :
    (history.filter fun h => !h.isCall).filterMap f = history.filterMap f :=
  filterMap_filter_happenings (fun h hcall => hf h (by simpa using hcall)) history

/-- Whether a loop sleeps or backs off, so that it hears at once that it is to shut down. -/
def Loop.asleep (l : Loop) : Bool :=
  match l.phase with
  | .waiting .. | .backingOff _ => true
  | _ => false

/-- The statistics after a cycle; the clock reading may break off once the cycle is counted. -/
def RunStats.afterCycle (s : RunStats) (time : Instant) (results : CycleResults)
    (reading : Option Instant) : RunStats :=
  let success := results.all (·.2)
  let counted := { s with
    totalRuns := s.totalRuns + 1
    successfulRuns := s.successfulRuns + (if success then 1 else 0)
    failedRuns := s.failedRuns + (if success then 0 else 1) }
  match reading with
  | none => counted
  | some now =>
    { counted with
      lastRunAt := some now
      lastCollectionAt := some time
      lastRunSuccess := some success
      lastResults := results }

/-- The part of a machine that its loops, its life cycle and its statistics depend on. -/
structure Control where
  config : SchedulerConfig
  clock : Clock
  readings : Nat
  now : Nat
  nextId : Nat
  state : SchedulerState
  worker : Option Nat
  loops : List Loop
  rounds : List RoundInfo
  stats : RunStats
  /-- What happened apart from calls, the latest first. -/
  history : List Happening

/-- The control of a machine. -/
def Machine.control {σ : Type} (m : Machine σ) : Control where
  config := m.config
  clock := m.clock
  readings := m.readings
  now := m.now
  nextId := m.nextId
  state := m.state
  worker := m.worker
  loops := m.loops
  rounds := m.rounds.map Round.info
  stats := m.stats
  history := m.history.filter fun h => !h.isCall

@[simp] theorem Machine.control_round_ids {σ : Type} (m : Machine σ) :
    m.control.rounds.map RoundInfo.id = m.rounds.map Round.id := by
  simp only [control, List.map_map]
  rfl

namespace Control

variable (c : Control)

/-! ## Small moves -/

@[simps!]
def note (h : Happening) : Control := { c with history := h :: c.history }

@[simps!]
def setState (state : SchedulerState) : Control :=
  { c with state := state }.note (.stateChanged state)

/-- What the next reading of the clock gives. -/
def reading : Option Instant := c.clock c.now c.readings

@[simps!]
def read : Control :=
  { c with readings := c.readings + 1 }.note (.clockRead c.reading)

/-- The loop with a given id. -/
def loop? (id : Nat) : Option Loop := c.loops.find? fun l => l.id == id

@[simps!]
def setPhase (loop : Nat) (phase : LoopPhase) : Control :=
  { c with
    loops := c.loops.map fun (l : Loop) => if l.id = loop then { l with phase := phase } else l }

@[simps!]
def flag (loop : Nat) : Control :=
  { c with
    loops := c.loops.map fun (l : Loop) => if l.id = loop then { l with shutdown := true } else l }

@[simps!]
def endLoop (loop : Nat) : Control := (c.setPhase loop .ended).note (.loopEnded loop)

def toldToShutDown (loop : Nat) : Bool := c.loops.any fun l => l.id == loop && l.shutdown

/-- Lets a loop wait after an error; `order` numbers the wait. -/
def backOff (loop order : Nat) : Control :=
  if c.toldToShutDown loop then c.endLoop loop
  else
    c.setPhase loop
      (.backingOff ⟨c.now + Machine.toMillis c.config.retryBackoff, false, order⟩)

@[simps!]
def announce (loop : Nat) (turn : Wake) (target : Instant) : Control :=
  (({ c with stats := { c.stats with nextRunAt := some target } } : Control).setPhase loop
    (.waiting target turn)).note (.announced loop target)

@[simps!]
def startRound (purpose : Purpose) (time : Instant) (released : Option Instant) : Control :=
  { c with nextId := c.nextId + 1, rounds := c.rounds ++ [RoundInfo.mk c.nextId purpose time] }.note
    (.roundStarted c.nextId purpose time released)

@[simps!]
def endRound (r : RoundInfo) (results : Option CycleResults) : Control :=
  { c with rounds := c.rounds.filter fun other => other.id ≠ r.id }.note
    (.roundEnded r.id r.purpose results)

/-- Counts a cycle with its results. -/
@[simps!]
def count (time : Instant) (results : CycleResults) : Control :=
  { c.read with stats := c.stats.afterCycle time results c.reading }

/-- Ends a fan-out with its results; `order` numbers what the loop of its cycle waits for next. -/
def finish (r : RoundInfo) (results : CycleResults) (order : Nat) : Control :=
  match r.purpose with
  | .direct => c.endRound r (some results)
  | .manual => (c.count r.time results).endRound r (c.reading.map fun _ => results)
  | .automatic loop =>
    match c.reading with
    | some _ =>
      ((c.count r.time results).endRound r (some results)).setPhase loop
        (.beginning ⟨c.now, false, order⟩)
    | none => ((c.count r.time results).endRound r none).backOff loop order

/-- Begins a loop, whose first wait has the number `order`. -/
@[simps!]
def startLoop (order : Nat) : Control :=
  (({ c with
      nextId := c.nextId + 1
      loops := c.loops ++ [Loop.mk c.nextId false (.beginning ⟨c.now, false, order⟩)]
      worker := some c.nextId } : Control).note (.loopStarted c.nextId)).setState .running

/-- Takes the worker away and tells its loop to shut down. -/
@[simps!]
def dismiss (loop : Nat) : Control :=
  ((({ c with worker := none } : Control).setState .stopping).flag loop).note (.shutdownSent loop)

/-! ## Loops by id -/

section

variable {c}

theorem loop?_id {id : Nat} {l : Loop} (h : c.loop? id = some l) : l.id = id := by
  simpa using List.find?_some h

theorem mem_of_loop? {id : Nat} {l : Loop} (h : c.loop? id = some l) : l ∈ c.loops :=
  List.mem_of_find?_eq_some h

/-- A change of loops that keeps their ids changes the loop of an id. -/
theorem find?_map_loop {loops : List Loop} {f : Loop → Loop} (hf : ∀ l, (f l).id = l.id)
    (id : Nat) :
    ((loops.map f).find? fun l => l.id == id) = (loops.find? fun l => l.id == id).map f := by
  have hcomp : ((fun l : Loop => l.id == id) ∘ f) = fun l => l.id == id := by
    funext l
    simp only [Function.comp, hf]
  rw [List.find?_map, hcomp]

theorem loop?_setPhase (loop : Nat) (phase : LoopPhase) (id : Nat) :
    (c.setPhase loop phase).loop? id =
      (c.loop? id).map fun l => if l.id = loop then { l with phase := phase } else l := by
  refine find?_map_loop (fun l => ?_) id
  split <;> rfl

theorem loop?_flag (loop id : Nat) :
    (c.flag loop).loop? id =
      (c.loop? id).map fun l => if l.id = loop then { l with shutdown := true } else l := by
  refine find?_map_loop (fun l => ?_) id
  split <;> rfl

@[simp] theorem loop?_setPhase_self (loop : Nat) (phase : LoopPhase) :
    (c.setPhase loop phase).loop? loop =
      (c.loop? loop).map fun l => { l with phase := phase } := by
  rw [loop?_setPhase]
  cases h : c.loop? loop with
  | none => rfl
  | some l => simp [loop?_id h]

theorem loop?_setPhase_ne {loop id : Nat} (hne : id ≠ loop) (phase : LoopPhase) :
    (c.setPhase loop phase).loop? id = c.loop? id := by
  rw [loop?_setPhase]
  cases h : c.loop? id with
  | none => rfl
  | some l => simp [loop?_id h, hne]

@[simp] theorem loop?_flag_self (loop : Nat) :
    (c.flag loop).loop? loop = (c.loop? loop).map fun l => { l with shutdown := true } := by
  rw [loop?_flag]
  cases h : c.loop? loop with
  | none => rfl
  | some l => simp [loop?_id h]

end

/-! ## Steps -/

/-- What a step is taken for: time, the clock, a call that begins or ends a loop, or none of it. -/
inductive Cause where
  | none
  | elapse
  | setClock
  | start
  | requestStop
  | finishStop
deriving DecidableEq

/-- What one move can do to the control. -/
inductive Step : Cause → Control → Prop where
  | idle (cause : Cause) : Step cause c
  | elapsed (limit : Nat) : Step .elapse { c with now := max c.now limit }
  | clockSet (clock : Clock) : Step .setClock { c with clock := clock }
  /-- The clock breaks off while a loop looks for its boundary. -/
  | lost {l : Loop} (hl : c.loop? l.id = some l)
      (hphase : (∃ turn, l.phase = .beginning turn) ∨
        l.shutdown = false ∧ ∃ target turn, l.phase = .waiting target turn)
      (hreading : c.reading = none) : Step .none (c.read.endLoop l.id)
  /-- A loop finds the boundary it will wait for. -/
  | found {l : Loop} {turn : Wake} {now target : Instant} (hl : c.loop? l.id = some l)
      (hphase : l.phase = .beginning turn) (hreading : c.reading = some now)
      (hnext : nextBoundary now c.config.offset = .ok target) :
      Step .none (c.read.announce l.id turn target)
  /-- A loop finds no boundary. -/
  | unbounded {l : Loop} {turn : Wake} {now : Instant} {e : BoundaryError} (order : Nat)
      (hl : c.loop? l.id = some l) (hphase : l.phase = .beginning turn)
      (hreading : c.reading = some now) (hnext : nextBoundary now c.config.offset = .error e) :
      Step .none (c.read.backOff l.id order)
  /-- A loop sleeps on before its boundary. -/
  | slept {l : Loop} {turn : Wake} {now target : Instant} (order : Nat)
      (hl : c.loop? l.id = some l) (hphase : l.phase = .waiting target turn)
      (hrunning : l.shutdown = false) (hreading : c.reading = some now) (hearly : now < target) :
      Step .none ((c.read.setPhase l.id (.waiting target
        ⟨c.now + Machine.toMillis (min (target.since now).toNat c.config.maxSleepSlice), false,
          order⟩)).note (.slept l.id target now))
  /-- A loop starts the cycle of the boundary it waited for. -/
  | released {l : Loop} {turn : Wake} {now target : Instant} (hl : c.loop? l.id = some l)
      (hphase : l.phase = .waiting target turn) (hrunning : l.shutdown = false)
      (hreading : c.reading = some now) (hdue : ¬ now < target) (hsoon : now.since target < hour) :
      Step .none ((c.read.setPhase l.id (.collecting c.nextId)).startRound (.automatic l.id)
        target.truncateToHour (some now))
  /-- A loop that has missed its boundary by an hour or more waits for the next one instead. -/
  | missed {l : Loop} {turn : Wake} {now target next : Instant} (hl : c.loop? l.id = some l)
      (hphase : l.phase = .waiting target turn) (hrunning : l.shutdown = false)
      (hreading : c.reading = some now) (hdue : ¬ now < target)
      (hlate : ¬ now.since target < hour)
      (hnext : nextBoundary now c.config.offset = .ok next) :
      Step .none (c.read.announce l.id turn next)
  | missedLast {l : Loop} {turn : Wake} {now target : Instant} {e : BoundaryError} (order : Nat)
      (hl : c.loop? l.id = some l) (hphase : l.phase = .waiting target turn)
      (hrunning : l.shutdown = false) (hreading : c.reading = some now) (hdue : ¬ now < target)
      (hlate : ¬ now.since target < hour)
      (hnext : nextBoundary now c.config.offset = .error e) :
      Step .none (c.read.backOff l.id order)
  /-- A loop hears that it is to shut down when it wakes. -/
  | closed {l : Loop} (hl : c.loop? l.id = some l) (hphase : l.asleep = true)
      (htold : l.shutdown = true) : Step .none (c.endLoop l.id)
  /-- A loop goes on after it has backed off. -/
  | resumed {l : Loop} {turn : Wake} (hl : c.loop? l.id = some l)
      (hphase : l.phase = .backingOff turn) (hrunning : l.shutdown = false) :
      Step .none (c.setPhase l.id (.beginning turn))
  /-- A cycle is triggered for an instant. -/
  | triggered (time : Instant) : Step .none (c.startRound .manual time.truncateToHour none)
  /-- A cycle is triggered for the present instant. -/
  | triggeredNow {now : Instant} (hreading : c.reading = some now) :
      Step .none (c.read.startRound .manual now.truncateToHour none)
  | triggerLost (hreading : c.reading = none) : Step .none c.read
  | allRun (time : Instant) : Step .none (c.startRound .direct time none)
  | directEnded {r : RoundInfo} (results : CycleResults) (hr : r ∈ c.rounds)
      (hpurpose : r.purpose = .direct) : Step .none (c.endRound r (some results))
  | manualEnded {r : RoundInfo} (results : CycleResults) (hr : r ∈ c.rounds)
      (hpurpose : r.purpose = .manual) :
      Step .none ((c.count r.time results).endRound r (c.reading.map fun _ => results))
  | automaticEnded {r : RoundInfo} {loop : Nat} {now : Instant} (results : CycleResults)
      (order : Nat) (hr : r ∈ c.rounds) (hpurpose : r.purpose = .automatic loop)
      (hreading : c.reading = some now) :
      Step .none (((c.count r.time results).endRound r (some results)).setPhase loop
        (.beginning ⟨c.now, false, order⟩))
  /-- The clock breaks off while an automatic cycle is counted. -/
  | automaticAborted {r : RoundInfo} {loop : Nat} (results : CycleResults) (order : Nat)
      (hr : r ∈ c.rounds) (hpurpose : r.purpose = .automatic loop) (hreading : c.reading = none) :
      Step .none (((c.count r.time results).endRound r none).backOff loop order)
  | started (order : Nat) (hworker : c.worker = none) (hstate : c.state ≠ .stopping) :
      Step .start ((c.setState .starting).startLoop order)
  | startFailed (hworker : c.worker = none) (hstate : c.state ≠ .stopping) :
      Step .start ((c.setState .starting).setState .stopped)
  /-- A loop that does not sleep is told to shut down. -/
  | dismissed {loop : Nat} (hworker : c.worker = some loop) (hstate : c.state ≠ .stopping)
      (hawake : ∀ l, c.loop? loop = some l → l.asleep = false) : Step .requestStop (c.dismiss loop)
  /-- A loop that sleeps or backs off is told to shut down, and ends at once. -/
  | stoppedAsleep {l : Loop} (hworker : c.worker = some l.id) (hstate : c.state ≠ .stopping)
      (hl : c.loop? l.id = some l) (hphase : l.asleep = true) :
      Step .requestStop ((c.dismiss l.id).endLoop l.id)
  | stopFinished (hstate : c.state = .stopping) :
      Step .finishStop
        (({ c with stats := { c.stats with nextRunAt := Option.none } } : Control).setState
          .stopped)

end Control

/-- What a move is made for. -/
def Move.cause {σ : Type} : Move σ → Control.Cause
  | .elapse _ => .elapse
  | .setClock _ => .setClock
  | .start => .start
  | .requestStop => .requestStop
  | .finishStop => .finishStop
  | _ => .none

namespace Machine

variable {σ : Type}

/-! ## The control of small moves -/

section

variable (m : Machine σ)

@[simp] theorem control_note (h : Happening) :
    (m.note h).control = if h.isCall then m.control else m.control.note h := by
  cases hcall : h.isCall <;> simp [note, control, Control.note, hcall]

@[simp] theorem control_setState (s : SchedulerState) :
    (m.setState s).control = m.control.setState s := by
  simp [setState, control, Control.setState, Control.note, note, Happening.isCall]

@[simp] theorem control_readClock : m.readClock.2.control = m.control.read := by
  simp [readClock, control, Control.read, Control.reading, Control.note, note, Happening.isCall]

@[simp] theorem readClock_fst : m.readClock.1 = m.control.reading := rfl

@[simp] theorem control_beginWait (ms : Nat) : (m.beginWait ms).2.control = m.control := rfl

theorem beginWait_fst (ms : Nat) :
    (m.beginWait ms).1 = ⟨m.control.now + ms, false, m.nextOrder⟩ := rfl

@[simp] theorem control_setPhase (loop : Nat) (phase : LoopPhase) :
    (m.setPhase loop phase).control = m.control.setPhase loop phase := rfl

@[simp] theorem control_endLoop (loop : Nat) :
    (m.endLoop loop).control = m.control.endLoop loop := by
  simp [endLoop, Control.endLoop, Happening.isCall]

theorem control_toldToShutDown (loop : Nat) :
    m.toldToShutDown loop = m.control.toldToShutDown loop := rfl

theorem control_backOff (loop : Nat) :
    (m.backOff loop).control = m.control.backOff loop m.nextOrder := by
  unfold backOff Control.backOff
  rw [← control_toldToShutDown]
  split
  · exact control_endLoop m loop
  · rfl

@[simp] theorem control_announce (loop : Nat) (turn : Wake) (target : Instant) :
    (m.announce loop turn target).control = m.control.announce loop turn target := by
  simp [announce, Control.announce, Happening.isCall]
  rfl

end

/-! ## The control of fan-outs -/

section

variable (m : Machine σ) (r : Round σ)

@[simp] theorem control_beginTurn : (m.beginTurn r).2.control = m.control := by
  unfold beginTurn
  split <;> rfl

@[simp] theorem info_beginTurn : (m.beginTurn r).1.info = r.info := by
  unfold beginTurn
  split <;> rfl

@[simp] theorem control_act (c : Registered σ) : (m.act r c).2.control = m.control := by
  unfold act
  rw [control_beginTurn, control_note]
  rfl

@[simp] theorem info_act (c : Registered σ) : (m.act r c).1.info = r.info := by
  unfold act
  rw [info_beginTurn]
  rfl

/-- A call without a delay acts at once; any other begins to wait. -/
theorem beginCall_eq (c : Registered σ) :
    m.beginCall r c =
      if c.delay m.world = 0 then (m.note (.called r.id c.name r.time)).act r c
      else
        let (wake, m') := (m.note (.called r.id c.name r.time)).beginWait (c.delay m.world)
        ({ r with atWork := r.atWork ++ [⟨c, true, wake⟩] }, m') := by
  have hworld : (m.note (.called r.id c.name r.time)).world = m.world := rfl
  simp only [beginCall, hworld]
  cases c.delay m.world <;> rfl

@[simp] theorem control_beginCall (c : Registered σ) :
    (m.beginCall r c).2.control = m.control := by
  have hcalled : (m.note (.called r.id c.name r.time)).control = m.control := control_note m _
  rw [beginCall_eq]
  split
  · rw [control_act, hcalled]
  · exact hcalled

@[simp] theorem info_beginCall (c : Registered σ) : (m.beginCall r c).1.info = r.info := by
  rw [beginCall_eq]
  split
  · exact info_act _ r c
  · rfl

@[simp] theorem control_makeCalls (calls : List (Registered σ)) :
    (m.makeCalls r calls).2.control = m.control := by
  induction calls generalizing m r with
  | nil => rfl
  | cons c rest ih =>
    rw [makeCalls, ih]
    rfl

@[simp] theorem info_makeCalls (calls : List (Registered σ)) :
    (m.makeCalls r calls).1.info = r.info := by
  induction calls generalizing m r with
  | nil => rfl
  | cons c rest ih =>
    rw [makeCalls, ih]
    rfl

@[simp] theorem control_startRound (purpose : Purpose) (time : Instant)
    (collectors : List (Registered σ)) (released : Option Instant) :
    (m.startRound purpose time collectors released).2.control =
      m.control.startRound purpose time released := by
  simp [startRound, beginTurn, control, Control.startRound, Control.note, note, beginWait,
    Happening.isCall, Round.info]

@[simp] theorem control_count (time : Instant) (results : CycleResults) :
    (m.count time results).2.control = m.control.count time results := by
  unfold count Control.count RunStats.afterCycle
  simp only [readClock, Control.reading, control]
  cases hread : m.clock m.now m.readings <;>
    simp [note, Control.read, Control.note, Control.reading, Happening.isCall, hread]

theorem nextOrder_count (time : Instant) (results : CycleResults) :
    (m.count time results).2.nextOrder = m.nextOrder := by
  simp only [count, readClock]
  cases m.clock m.now m.readings <;> rfl

theorem count_fst (time : Instant) (results : CycleResults) :
    (m.count time results).1 = m.control.reading.map fun _ => results := by
  simp only [count, readClock, Control.reading, control]
  cases m.clock m.now m.readings <;> rfl

end

/-! ## The step that a move takes -/

section

variable (m : Machine σ)

/-- A fan-out that keeps its outline is put back without a trace, once ids differ. -/
theorem control_keep {r : Round σ} (hids : (m.control.rounds.map RoundInfo.id).Nodup)
    (hr : r.info ∈ m.control.rounds) : (m.keep r).control = m.control := by
  have hsame : ∀ other ∈ m.rounds, (if other.id = r.id then r else other).info = other.info := by
    intro other hother
    split
    · next hid =>
      exact List.inj_on_of_nodup_map hids hr (List.mem_map_of_mem hother) hid.symm
    · rfl
  have hrounds : (m.keep r).rounds.map Round.info = m.rounds.map Round.info := by
    simp only [keep, List.map_map]
    exact List.map_congr_left hsame
  show ({ m.control with rounds := (m.keep r).rounds.map Round.info } : Control) = m.control
  rw [hrounds]
  rfl

theorem control_drop (r : Round σ) :
    ({ m with rounds := m.rounds.filter fun other => other.id ≠ r.id } : Machine σ).control =
      { m.control with rounds := m.control.rounds.filter fun other => other.id ≠ r.info.id } := by
  simp only [control, List.filter_map]
  rfl

/-- The end of a fan-out counts the results that it has gathered, unless it is no cycle. -/
theorem control_finish (r : Round σ) :
    (m.finish r).control = m.control.finish r.info (resultsOf r.outcomes) m.nextOrder := by
  unfold finish Control.finish
  set results := resultsOf r.outcomes
  set dropped : Machine σ := { m with rounds := m.rounds.filter fun other => other.id ≠ r.id }
    with hdropped
  have hcontrol : dropped.control =
      { m.control with rounds := m.control.rounds.filter fun other => other.id ≠ r.info.id } :=
    control_drop m r
  have hreading : dropped.control.reading = m.control.reading := by rw [hcontrol]; rfl
  have hfst := count_fst dropped r.time results
  have hsnd := control_count dropped r.time results
  have horder : (dropped.count r.time results).2.nextOrder = m.nextOrder :=
    nextOrder_count dropped r.time results
  rw [hreading] at hfst
  -- counting comes before the note of the end, whatever was counted
  have hended : ∀ counted, ((dropped.count r.time results).2.note
      (.roundEnded r.id r.purpose counted)).control =
        (m.control.count r.time results).endRound r.info counted := by
    intro counted
    rw [control_note, hsnd, hcontrol]
    rfl
  have hinfo : r.info.purpose = r.purpose := rfl
  rw [hinfo]
  cases hpurpose : r.purpose with
  | direct =>
    simp only
    rw [control_note, hcontrol]
    simp only [Control.endRound, Round.info, hpurpose]
    rfl
  | manual =>
    have hmanual := hended (m.control.reading.map fun _ => results)
    rw [← hfst, hpurpose] at hmanual
    simp only
    rw [hmanual, hfst]
    rfl
  | automatic loop =>
    cases hread : m.control.reading with
    | none =>
      have haborted := hended none
      rw [hread, Option.map_none] at hfst
      rw [hpurpose] at haborted
      simp only [hfst]
      rw [control_backOff, haborted]
      exact congrArg _ horder
    | some now =>
      have hdone := hended (some results)
      rw [hread, Option.map_some] at hfst
      rw [hpurpose] at hdone
      simp only [hfst]
      rw [control_setPhase, control_beginWait, beginWait_fst, hdone]
      exact congrArg
        (fun order => Control.setPhase _ loop (.beginning ⟨m.control.now, false, order⟩))
        horder

/-- The end of a fan-out, by what the fan-out was for. -/
theorem step_finish {r : Round σ} (hr : r.info ∈ m.control.rounds) :
    Control.Step m.control .none (m.finish r).control := by
  rw [control_finish]
  unfold Control.finish
  cases hpurpose : r.info.purpose with
  | direct => exact .directEnded _ hr hpurpose
  | manual => exact .manualEnded _ hr hpurpose
  | automatic loop =>
    cases hread : m.control.reading with
    | none => exact .automaticAborted _ _ hr hpurpose hread
    | some now => exact .automaticEnded _ _ hr hpurpose hread

/-- The turn of a fan-out makes calls, or ends it. -/
theorem step_takeTurn (hids : (m.control.rounds.map RoundInfo.id).Nodup) (round : Nat) :
    Control.Step m.control .none (m.takeTurn round).control := by
  unfold takeTurn
  split
  · exact .idle .none
  · next r hfind =>
    set begun := m.makeCalls { r with turn := none, queued := r.queued.drop (nextCalls r).length }
      (nextCalls r)
    have hcontrol : begun.2.control = m.control := control_makeCalls m _ _
    have hinfo : begun.1.info = r.info := info_makeCalls m _ _
    have hmem : begun.1.info ∈ begun.2.control.rounds := by
      rw [hcontrol, hinfo]
      exact List.mem_map_of_mem (List.mem_of_find?_eq_some hfind)
    -- calls that are made do not show, so only the end of the fan-out is a step
    rw [← hcontrol] at hids ⊢
    simp only
    split
    · exact step_finish begun.2 hmem
    · rw [control_keep begun.2 hids hmem]
      exact .idle .none

/-- A call that goes on leaves the control alone. -/
theorem control_resume (hids : (m.control.rounds.map RoundInfo.id).Nodup) (round order : Nat) :
    (m.resume round order).control = m.control := by
  unfold resume
  split
  · rfl
  · next r hfind =>
    split
    · rfl
    · next call _ =>
      set rest : Round σ := { r with
        atWork := r.atWork.filter fun other => other.wake.order ≠ order }
      set next := if call.begun then m.act rest call.collector else m.beginCall rest call.collector
        with hnext
      have hcontrol : next.2.control = m.control := by
        rw [hnext]
        split
        · exact control_act m rest call.collector
        · exact control_beginCall m rest call.collector
      have hinfo : next.1.info = r.info := by
        rw [hnext]
        split
        · exact info_act m rest call.collector
        · exact info_beginCall m rest call.collector
      have hmem : next.1.info ∈ next.2.control.rounds := by
        rw [hcontrol, hinfo]
        exact List.mem_map_of_mem (List.mem_of_find?_eq_some hfind)
      rw [← hcontrol] at hids
      rw [← hcontrol]
      exact control_keep next.2 hids hmem

/-- A loop that looks for its boundary finds one, backs off, or is lost with the clock. -/
theorem step_beginWaiting {l : Loop} {turn : Wake} (hl : m.control.loop? l.id = some l)
    (hphase : l.phase = .beginning turn) :
    Control.Step m.control .none (m.beginWaiting l.id turn).control := by
  have hconfig : m.readClock.2.config = m.control.config := rfl
  unfold beginWaiting
  cases hread : m.control.reading with
  | none =>
    have hm : m.readClock = (none, m.readClock.2) := Prod.ext hread rfl
    rw [hm]
    simp only
    rw [control_endLoop, control_readClock]
    exact .lost hl (.inl ⟨turn, hphase⟩) hread
  | some now =>
    have hm : m.readClock = (some now, m.readClock.2) := Prod.ext hread rfl
    rw [hm]
    simp only [hconfig]
    cases hnext : nextBoundary now m.control.config.offset with
    | ok target =>
      simp only
      rw [control_announce, control_readClock]
      exact .found hl hphase hread hnext
    | error e =>
      simp only
      rw [control_backOff, control_readClock]
      exact .unbounded _ hl hphase hread hnext

/-- A loop that checks its boundary sleeps on, starts its cycle or waits for another boundary. -/
theorem step_checkBoundary {l : Loop} {turn : Wake} {target : Instant}
    (hl : m.control.loop? l.id = some l) (hphase : l.phase = .waiting target turn)
    (hrunning : l.shutdown = false) :
    Control.Step m.control .none (m.checkBoundary l.id turn target).control := by
  have hconfig : m.readClock.2.config = m.control.config := rfl
  unfold checkBoundary
  cases hread : m.control.reading with
  | none =>
    have hm : m.readClock = (none, m.readClock.2) := Prod.ext hread rfl
    rw [hm]
    simp only
    rw [control_endLoop, control_readClock]
    exact .lost hl (.inr ⟨hrunning, target, turn, hphase⟩) hread
  | some now =>
    have hm : m.readClock = (some now, m.readClock.2) := Prod.ext hread rfl
    rw [hm]
    simp only [hconfig]
    split
    · next hearly =>
      rw [control_note, control_setPhase, control_beginWait, beginWait_fst, control_readClock]
      exact .slept _ hl hphase hrunning hread hearly
    · next hdue =>
      split
      · next hsoon =>
        rw [control_startRound, control_setPhase, control_readClock]
        exact .released hl hphase hrunning hread hdue hsoon
      · next hlate =>
        cases hnext : nextBoundary now m.control.config.offset with
        | ok next =>
          simp only
          rw [control_announce, control_readClock]
          exact .missed hl hphase hrunning hread hdue hlate hnext
        | error e =>
          simp only
          rw [control_backOff, control_readClock]
          exact .missedLast _ hl hphase hrunning hread hdue hlate hnext

/-- A loop whose wait is over does what its phase asks for. -/
theorem step_wakeLoop {l : Loop} (hl : m.control.loop? l.id = some l) :
    Control.Step m.control .none (m.wakeLoop l).control := by
  unfold wakeLoop
  cases hphase : l.phase with
  | beginning turn => exact step_beginWaiting m hl hphase
  | waiting target turn =>
    simp only
    split
    · next htold =>
      rw [control_endLoop]
      exact .closed hl (by rw [Loop.asleep, hphase]) htold
    · next hrunning => exact step_checkBoundary m hl hphase (by simpa using hrunning)
  | collecting cycle => exact .idle .none
  | backingOff turn =>
    simp only
    split
    · next htold =>
      rw [control_endLoop]
      exact .closed hl (by rw [Loop.asleep, hphase]) htold
    · next hrunning =>
      rw [control_setPhase]
      exact .resumed hl hphase (by simpa using hrunning)
  | ended => exact .idle .none

/-- What waits takes one step when it acts. -/
theorem step_work (hids : (m.control.rounds.map RoundInfo.id).Nodup) (job : Job) :
    Control.Step m.control .none (m.work job).control := by
  cases job with
  | loop id =>
    rw [work_loop]
    split
    · next l hfind =>
      have hid : l.id = id := by simpa using List.find?_some hfind
      exact step_wakeLoop m (by rw [hid]; exact hfind)
    · exact .idle .none
  | turn round =>
    rw [work_turn]
    exact step_takeTurn m hids round
  | call round order =>
    rw [work_call, control_resume m hids round order]
    exact .idle .none

/-! ### Requests -/

theorem control_ensureInitialized : m.ensureInitialized.2.control = m.control := by
  unfold ensureInitialized
  split
  · rfl
  · have hcalled (world : σ) :
        (({ m with world := world } : Machine σ).note .factoryCalled).control = m.control :=
      control_note _ _
    simp only
    split
    · exact hcalled _
    · split <;> exact hcalled _

theorem control_register (c : Registered σ) : (m.register c).2.control = m.control := by
  unfold register
  split <;> rfl

theorem step_trigger (time : Option Instant) :
    Control.Step m.control .none (m.trigger time).2.control := by
  have hcontrol := control_ensureInitialized m
  unfold trigger
  rcases hready : m.ensureInitialized with ⟨answer, ready⟩
  rw [hready] at hcontrol
  cases answer with
  | error e =>
    simp only
    rw [hcontrol]
    exact .idle .none
  | ok report =>
    cases time with
    | some time =>
      simp only
      rw [control_startRound, hcontrol]
      exact .triggered time
    | none =>
      obtain ⟨next, hread, hnext⟩ : ∃ next : Machine σ,
          ready.readClock = (m.control.reading, next) ∧ next.control = m.control.read := by
        refine ⟨ready.readClock.2, Prod.ext ?_ rfl, ?_⟩
        · rw [readClock_fst, hcontrol]
        · rw [control_readClock, hcontrol]
      cases hreading : m.control.reading with
      | none =>
        rw [hreading] at hread
        simp only [hread]
        rw [hnext]
        exact .triggerLost hreading
      | some now =>
        rw [hreading] at hread
        simp only [hread]
        rw [control_startRound, hnext]
        exact .triggeredNow hreading

/-- Without a worker, a start begins a loop unless the collectors cannot be built. -/
theorem control_start (hworker : m.worker = none) :
    (m.start.1 = .ok () ∧
        ∃ order, m.start.2.control = (m.control.setState .starting).startLoop order) ∨
      ((∃ e, m.start.1 = .error e) ∧
        m.start.2.control = (m.control.setState .starting).setState .stopped) := by
  have hcontrol := control_ensureInitialized (m.setState .starting)
  unfold start
  rw [hworker]
  rcases hready : (m.setState .starting).ensureInitialized with ⟨answer, ready⟩
  rw [hready, control_setState] at hcontrol
  cases answer with
  | error e =>
    refine .inr ⟨⟨e, rfl⟩, ?_⟩
    simp only
    rw [control_setState, hcontrol]
  | ok report =>
    refine .inl ⟨rfl, ready.nextOrder, ?_⟩
    simp only
    rw [control_setState, control_note]
    show ready.control.startLoop ready.nextOrder = _
    rw [hcontrol]

theorem step_start (hstate : m.state ≠ .stopping) :
    Control.Step m.control .start m.start.2.control := by
  cases hworker : m.worker with
  | some loop =>
    have hsame : m.start.2 = m := by simp [start, hworker]
    rw [hsame]
    exact .idle .start
  | none =>
    rcases control_start m hworker with ⟨-, order, hstarted⟩ | ⟨-, hfailed⟩
    · rw [hstarted]
      exact .started order hworker hstate
    · rw [hfailed]
      exact .startFailed hworker hstate

/-- Only a loop that sleeps hears at once that it is told to shut down. -/
theorem control_sendShutdown (loop : Nat) :
    (m.sendShutdown loop).control =
      if (m.control.loop? loop).any Loop.asleep then
        ((m.control.flag loop).note (.shutdownSent loop)).endLoop loop
      else (m.control.flag loop).note (.shutdownSent loop) := by
  set flagged : List Loop :=
    m.loops.map fun l => if l.id = loop then { l with shutdown := true } else l with hflagged
  have hsent : (({ m with loops := flagged } : Machine σ).note (.shutdownSent loop)).control =
      (m.control.flag loop).note (.shutdownSent loop) := by
    rw [control_note]
    rfl
  have hfind : (flagged.find? fun l => l.id == loop) =
      (m.control.loop? loop).map fun l => { l with shutdown := true } :=
    Control.loop?_flag_self (c := m.control) loop
  have hloops : (({ m with loops := flagged } : Machine σ).note (.shutdownSent loop)).loops =
      flagged := rfl
  unfold sendShutdown
  simp only
  rw [hloops, hfind]
  cases m.control.loop? loop with
  | none => exact hsent
  | some l =>
    obtain ⟨id, shutdown, phase⟩ := l
    cases phase with
    | beginning wake => exact hsent
    | waiting target wake => exact (control_endLoop _ loop).trans (congrArg (·.endLoop loop) hsent)
    | collecting cycle => exact hsent
    | backingOff wake => exact (control_endLoop _ loop).trans (congrArg (·.endLoop loop) hsent)
    | ended => exact hsent

/-- The loop of the worker is told to shut down; if it sleeps, it ends. -/
theorem control_requestStop {loop : Nat} (hworker : m.worker = some loop) :
    m.requestStop.1 = some loop ∧ m.requestStop.2.control =
      if (m.control.loop? loop).any Loop.asleep then (m.control.dismiss loop).endLoop loop
      else m.control.dismiss loop := by
  set told := ({ m with worker := none } : Machine σ).setState .stopping with htold
  have hloop : told.control.loop? loop = m.control.loop? loop := by
    rw [htold, control_setState]
    rfl
  have hdismiss :
      (told.control.flag loop).note (.shutdownSent loop) = m.control.dismiss loop := by
    rw [htold, control_setState]
    rfl
  have hrequest : m.requestStop = (some loop, told.sendShutdown loop) := by
    simp [requestStop, hworker, htold]
  rw [hrequest, ← hdismiss, ← hloop]
  exact ⟨rfl, control_sendShutdown told loop⟩

theorem step_requestStop (hstate : m.state ≠ .stopping) :
    Control.Step m.control .requestStop m.requestStop.2.control := by
  cases hworker : m.worker with
  | none =>
    have hsame : m.requestStop.2 = m := by simp [requestStop, hworker]
    rw [hsame]
    exact .idle .requestStop
  | some loop =>
    rw [(control_requestStop m hworker).2]
    split
    · next hasleep =>
      obtain ⟨l, hl, hphase⟩ : ∃ l, m.control.loop? loop = some l ∧ l.asleep = true := by
        simpa [Option.any_eq_true] using hasleep
      have hid := Control.loop?_id hl
      subst hid
      exact .stoppedAsleep hworker hstate hl hphase
    · next hawake =>
      refine .dismissed hworker hstate fun l hl => ?_
      simpa [hl] using hawake

theorem step_finishStop (hstate : m.state = .stopping) :
    Control.Step m.control .finishStop m.finishStop.control := by
  unfold finishStop
  rw [control_setState]
  exact .stopFinished hstate

/-- Every move takes one of the steps. -/
theorem control_after (hids : (m.control.rounds.map RoundInfo.id).Nodup) (move : Move σ) :
    Control.Step m.control move.cause (m.after move).control := by
  cases move with
  | elapse limit => exact .elapsed limit
  | work job =>
    rw [after_work]
    split
    · exact step_work m hids job
    · exact .idle .none
  | setClock clock => exact .clockSet clock
  | change f => exact .idle .none
  | prepare => exact (control_ensureInitialized m).symm ▸ .idle .none
  | register c => exact (control_register m c).symm ▸ .idle .none
  | start =>
    rw [after_start]
    split
    · exact .idle .start
    · next hstate => exact step_start m hstate
  | requestStop =>
    rw [after_requestStop]
    split
    · exact .idle .requestStop
    · next hstate => exact step_requestStop m hstate
  | finishStop =>
    rw [after_finishStop]
    split
    · next hstate => exact step_finishStop m hstate
    · exact .idle .finishStop
  | trigger time => exact step_trigger m time
  | runAll time => exact (control_startRound m .direct time m.registry none).symm ▸ .allRun time
  | runAlone c time => exact .idle .none

end

end Machine

end HourlySnapshots
