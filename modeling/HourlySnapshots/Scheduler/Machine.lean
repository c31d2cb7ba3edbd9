import HourlySnapshots.Scheduler.Basic

/-!
# The scheduler as a machine

Loops wait for the next boundary and start a cycle when it is due; cycles may also be triggered by
hand. Everything that waits, waits for a point of virtual time, counted in milliseconds. The
machine makes one move at a time, each at most one reading of the wall clock, and keeps a history
of what it did.

A wait is ordered by the time it is due and, among waits due at once, by when it began. Each step
of a fan-out is a move of its own, so that cycles which overlap take turns.
-/

namespace HourlySnapshots

/-- When a wait is over. -/
structure Wake where
  /-- The virtual millisecond. -/
  due : Nat
  /-- Whether all other waits that are due at the same time go first. -/
  late : Bool
  /-- The number of the wait among all waits. -/
  order : Nat
deriving DecidableEq, Inhabited

/-- Whether one wait is over before another. -/
def Wake.before (a b : Wake) : Bool :=
  a.due < b.due ||
    (a.due == b.due && ((b.late && !a.late) || (a.late == b.late && a.order < b.order)))

/-- The wall clock by virtual time and number of the reading; `none` where reading it breaks off. -/
abbrev Clock := Nat → Nat → Option Instant

/-- What a loop is doing. -/
inductive LoopPhase where
  /-- About to look for its next boundary. -/
  | beginning (wake : Wake)
  /-- Waiting for a boundary; the clock is read again after each sleep. -/
  | waiting (target : Instant) (wake : Wake)
  /-- Waiting for the end of the cycle it started. -/
  | collecting (cycle : Nat)
  /-- Waiting after an error. -/
  | backingOff (wake : Wake)
  /-- Over. -/
  | ended
deriving DecidableEq, Inhabited

/-- A loop that starts a cycle after each hour until it is told to shut down. -/
structure Loop where
  id : Nat
  shutdown : Bool
  phase : LoopPhase
deriving DecidableEq, Inhabited

/-- Who a fan-out over the collectors is for. -/
inductive Purpose where
  /-- A cycle started by a loop. -/
  | automatic (loop : Nat)
  /-- A cycle triggered by hand. -/
  | manual
  /-- A run outside of any cycle, which is not counted. -/
  | direct
deriving DecidableEq, Inhabited

/-- A call of a collector that is not over yet. -/
structure Call (σ : Type) where
  collector : Registered σ
  /-- Whether the call has begun, so that it waits for its delay to pass. -/
  begun : Bool
  wake : Wake

/-- A fan-out over collectors that is not over yet. -/
structure Round (σ : Type) where
  id : Nat
  purpose : Purpose
  time : Instant
  fanOut : FanOut
  /-- Collectors that have not been called yet. -/
  queued : List (Registered σ)
  /-- The calls that are not over yet. -/
  atWork : List (Call σ)
  /-- When the fan-out goes on, if it is about to. -/
  turn : Option Wake
  /-- How the calls that are over ended, in that order. -/
  outcomes : List (String × Bool)

/-- Something that the machine did. -/
inductive Happening where
  /-- The state changed. -/
  | stateChanged (state : SchedulerState)
  /-- The clock was read. -/
  | clockRead (reading : Option Instant)
  /-- A loop was started. -/
  | loopStarted (loop : Nat)
  /-- A loop published the boundary it waits for. -/
  | announced (loop : Nat) (target : Instant)
  /-- A loop went to sleep at a clock reading. -/
  | slept (loop : Nat) (target reading : Instant)
  /-- A loop was told to shut down. -/
  | shutdownSent (loop : Nat)
  /-- A loop is over. -/
  | loopEnded (loop : Nat)
  /-- A fan-out began; an automatic one was released by a clock reading. -/
  | roundStarted (round : Nat) (purpose : Purpose) (time : Instant) (released : Option Instant)
  /-- A collector was called. -/
  | called (round : Nat) (name : String) (time : Instant)
  /-- A call ended. -/
  | settled (round : Nat) (name : String) (ok : Bool)
  /-- A fan-out ended; `none` when its cycle broke off while being counted. -/
  | roundEnded (round : Nat) (purpose : Purpose) (results : Option CycleResults)
  /-- The factory was asked for collectors. -/
  | factoryCalled
deriving DecidableEq

/-- The scheduler with everything it works on. -/
structure Machine (σ : Type) where
  config : SchedulerConfig
  fanOut : FanOut
  /-- Builds the collectors, or fails with a chain of causes. -/
  factory : σ → Except (List String) (List (Registered σ)) × σ
  clock : Clock
  /-- How often the clock was read. -/
  readings : Nat
  /-- The virtual time in milliseconds. -/
  now : Nat
  /-- The number of the next wait. -/
  nextOrder : Nat
  /-- The id of the next loop or fan-out. -/
  nextId : Nat
  /-- What the collectors work on. -/
  world : σ
  registry : Registry σ
  initialized : Bool
  state : SchedulerState
  /-- The loop that was started last and not stopped. -/
  worker : Option Nat
  /-- All loops ever started. -/
  loops : List Loop
  /-- The fan-outs that are not over yet. -/
  rounds : List (Round σ)
  stats : RunStats
  /-- What happened, the latest first. -/
  history : List Happening

namespace Machine

variable {σ : Type}

/-- A machine that nothing has happened to yet. -/
def init (config : SchedulerConfig) (fanOut : FanOut)
    (factory : σ → Except (List String) (List (Registered σ)) × σ) (clock : Clock) (world : σ) :
    Machine σ :=
  { config, fanOut, factory, clock, world
    readings := 0, now := 0, nextOrder := 0, nextId := 0
    registry := [], initialized := false, state := .stopped, worker := none
    loops := [], rounds := [], stats := .empty, history := [] }

/-! ## Small moves -/

/-- Notes something in the history. -/
def note (m : Machine σ) (h : Happening) : Machine σ := { m with history := h :: m.history }

/-- Moves to a state. -/
def setState (m : Machine σ) (state : SchedulerState) : Machine σ :=
  { m with state := state }.note (.stateChanged state)

/-- Reads the wall clock. -/
def readClock (m : Machine σ) : Option Instant × Machine σ :=
  let reading := m.clock m.now m.readings
  (reading, { m with readings := m.readings + 1 }.note (.clockRead reading))

/-- Begins a wait of some milliseconds. -/
def beginWait (m : Machine σ) (ms : Nat) : Wake × Machine σ :=
  (⟨m.now + ms, false, m.nextOrder⟩, { m with nextOrder := m.nextOrder + 1 })

/-- A span in milliseconds, rounded up. -/
def toMillis (span : Span) : Nat := (span + (millisecond - 1)) / millisecond

/-- Changes the phase of a loop. -/
def setPhase (m : Machine σ) (loop : Nat) (phase : LoopPhase) : Machine σ :=
  { m with
    loops := m.loops.map fun (l : Loop) => if l.id = loop then { l with phase := phase } else l }

/-- Ends a loop. -/
def endLoop (m : Machine σ) (loop : Nat) : Machine σ :=
  (m.setPhase loop .ended).note (.loopEnded loop)

/-- Whether a loop has been told to shut down. -/
def toldToShutDown (m : Machine σ) (loop : Nat) : Bool :=
  m.loops.any fun l => l.id == loop && l.shutdown

/-- Lets a loop wait after an error, unless it has been told to shut down. -/
def backOff (m : Machine σ) (loop : Nat) : Machine σ :=
  if m.toldToShutDown loop then m.endLoop loop
  else
    let (wake, m) := m.beginWait (toMillis m.config.retryBackoff)
    m.setPhase loop (.backingOff wake)

/-- Publishes the boundary a loop waits for; the loop reads the clock next, in the same turn. -/
def announce (m : Machine σ) (loop : Nat) (turn : Wake) (target : Instant) : Machine σ :=
  let m := { m with stats := { m.stats with nextRunAt := some target } }
  (m.setPhase loop (.waiting target turn)).note (.announced loop target)

/-! ## Fan-outs -/

/-- The outcomes of a fan-out by name, in ascending order. -/
def resultsOf (outcomes : List (String × Bool)) : CycleResults :=
  outcomes.mergeSort fun a b => a.1 ≤ b.1

/-- Replaces a fan-out by what has become of it. -/
def keep (m : Machine σ) (r : Round σ) : Machine σ :=
  { m with
    rounds := m.rounds.map fun (other : Round σ) => if other.id = r.id then r else other }

/--
Lets a fan-out go on as soon as it is its turn. One that is outside of any cycle belongs to a caller
who lets everything else go first.
-/
def beginTurn (m : Machine σ) (r : Round σ) : Round σ × Machine σ :=
  match r.turn with
  | some _ => (r, m)
  | none =>
    let (wake, m) := m.beginWait 0
    ({ r with turn := some { wake with late := r.purpose == .direct } }, m)

/-- Lets a call act, and its fan-out go on. A call that breaks off counts as failed. -/
def act (m : Machine σ) (r : Round σ) (c : Registered σ) : Round σ × Machine σ :=
  let (outcome, world) := c.act r.time m.world
  let ok := outcome.getD false
  let m := { m with world := world }.note (.settled r.id c.name ok)
  m.beginTurn { r with outcomes := r.outcomes ++ [(c.name, ok)] }

/-- Begins a call that was made: it acts at once, or waits for its delay to pass. -/
def beginCall (m : Machine σ) (r : Round σ) (c : Registered σ) : Round σ × Machine σ :=
  let m := m.note (.called r.id c.name r.time)
  match c.delay m.world with
  | 0 => m.act r c
  | ms =>
    let (wake, m) := m.beginWait ms
    ({ r with atWork := r.atWork ++ [⟨c, true, wake⟩] }, m)

/-- Makes calls, which begin one after the other. -/
def makeCalls (m : Machine σ) (r : Round σ) : List (Registered σ) → Round σ × Machine σ
  | [] => (r, m)
  | c :: rest =>
    let (wake, m) := m.beginWait 0
    m.makeCalls { r with atWork := r.atWork ++ [⟨c, false, wake⟩] } rest

/-- Counts a cycle that is over; `none` when the clock breaks off before all is noted. -/
def count (m : Machine σ) (time : Instant) (results : CycleResults) :
    Option CycleResults × Machine σ :=
  let success := results.all (·.2)
  let stats := { m.stats with
    totalRuns := m.stats.totalRuns + 1
    successfulRuns := m.stats.successfulRuns + (if success then 1 else 0)
    failedRuns := m.stats.failedRuns + (if success then 0 else 1) }
  match { m with stats := stats }.readClock with
  | (none, m) => (none, m)
  | (some now, m) =>
    (some results, { m with stats := { m.stats with
      lastRunAt := some now
      lastCollectionAt := some time
      lastRunSuccess := some success
      lastResults := results } })

/-- Ends a fan-out whose calls are all over. -/
def finish (m : Machine σ) (r : Round σ) : Machine σ :=
  let results := resultsOf r.outcomes
  let m := { m with rounds := m.rounds.filter fun other => other.id ≠ r.id }
  match r.purpose with
  | .direct => m.note (.roundEnded r.id r.purpose (some results))
  | .manual =>
    let (counted, m) := m.count r.time results
    m.note (.roundEnded r.id r.purpose counted)
  | .automatic loop =>
    let (counted, m) := m.count r.time results
    let m := m.note (.roundEnded r.id r.purpose counted)
    match counted with
    | some _ =>
      let (wake, m) := m.beginWait 0
      m.setPhase loop (.beginning wake)
    | none => m.backOff loop

/-- The collectors that a fan-out calls when it goes on: the next one, or all of them. -/
def nextCalls (r : Round σ) : List (Registered σ) :=
  match r.fanOut with
  | .sequential => r.queued.take 1
  | .parallel => r.queued

/-- A fan-out whose turn it is calls what it can call, and ends when there is nothing left. -/
def takeTurn (m : Machine σ) (round : Nat) : Machine σ :=
  match m.rounds.find? fun r => r.id == round with
  | none => m
  | some r =>
    let calls := nextCalls r
    let (r, m) := m.makeCalls { r with turn := none, queued := r.queued.drop calls.length } calls
    if r.atWork.isEmpty then m.finish r else m.keep r

/-- Begins a fan-out over some collectors; returns its id. -/
def startRound (m : Machine σ) (purpose : Purpose) (time : Instant)
    (collectors : List (Registered σ)) (released : Option Instant) : Nat × Machine σ :=
  let id := m.nextId
  let m := { m with nextId := id + 1 }.note (.roundStarted id purpose time released)
  let (r, m) := m.beginTurn ⟨id, purpose, time, m.fanOut, collectors, [], none, []⟩
  (id, { m with rounds := m.rounds ++ [r] })

/-- Goes on with a call of a fan-out whose wait is over. -/
def resume (m : Machine σ) (round order : Nat) : Machine σ :=
  match m.rounds.find? fun r => r.id == round with
  | none => m
  | some r =>
    match r.atWork.find? fun call => call.wake.order == order with
    | none => m
    | some call =>
      let r := { r with atWork := r.atWork.filter fun other => other.wake.order ≠ order }
      let (r, m) := if call.begun then m.act r call.collector else m.beginCall r call.collector
      m.keep r

/-! ## Loops -/

/-- A loop whose turn it is looks for the boundary after the present instant. -/
def beginWaiting (m : Machine σ) (loop : Nat) (turn : Wake) : Machine σ :=
  match m.readClock with
  | (none, m) => m.endLoop loop
  | (some now, m) =>
    match nextBoundary now m.config.offset with
    | .ok target => m.announce loop turn target
    | .error _ => m.backOff loop

/--
A loop that waits for a boundary reads the clock. It sleeps on before the boundary, starts the
cycle of its hour less than an hour after it, and else waits for the next boundary instead.
-/
def checkBoundary (m : Machine σ) (loop : Nat) (turn : Wake) (target : Instant) : Machine σ :=
  match m.readClock with
  | (none, m) => m.endLoop loop
  | (some now, m) =>
    if now < target then
      let remaining := min (target.since now).toNat m.config.maxSleepSlice
      let (wake, m) := m.beginWait (toMillis remaining)
      (m.setPhase loop (.waiting target wake)).note (.slept loop target now)
    else if now.since target < hour then
      let m := m.setPhase loop (.collecting m.nextId)
      (m.startRound (.automatic loop) target.truncateToHour m.registry (some now)).2
    else
      match nextBoundary now m.config.offset with
      | .ok target => m.announce loop turn target
      | .error _ => m.backOff loop

/-- What a loop does when its wait is over. -/
def wakeLoop (m : Machine σ) (l : Loop) : Machine σ :=
  match l.phase with
  | .beginning turn => m.beginWaiting l.id turn
  | .waiting target turn =>
    if l.shutdown then m.endLoop l.id else m.checkBoundary l.id turn target
  | .backingOff turn =>
    if l.shutdown then m.endLoop l.id else m.setPhase l.id (.beginning turn)
  | .collecting _ | .ended => m

/-! ## Time -/

/-- What is waited for. -/
inductive Job where
  | loop (id : Nat)
  | turn (round : Nat)
  | call (round order : Nat)
deriving DecidableEq

/-- When the wait of a loop is over. -/
def wakeOf? (l : Loop) : Option Wake :=
  match l.phase with
  | .beginning wake | .waiting _ wake | .backingOff wake => some wake
  | .collecting _ | .ended => none

/-- What waits in a fan-out. -/
def waitsOf (r : Round σ) : List (Wake × Job) :=
  r.turn.toList.map (fun wake => (wake, .turn r.id)) ++
    r.atWork.map fun call => (call.wake, .call r.id call.wake.order)

/-- Everything that waits. -/
def waits (m : Machine σ) : List (Wake × Job) :=
  m.loops.filterMap (fun l => (wakeOf? l).map fun wake => (wake, .loop l.id)) ++
    m.rounds.flatMap waitsOf

/-- The earlier of two waits. -/
def earlier (a b : Wake × Job) : Wake × Job := if b.1.before a.1 then b else a

/-- The wait that is over first. -/
def nextWait? (m : Machine σ) : Option (Wake × Job) :=
  match m.waits with
  | [] => none
  | first :: rest => some (rest.foldl earlier first)

/-- Lets virtual time pass up to the end of a wait, and does what was waited for. -/
def perform (m : Machine σ) (wake : Wake) (job : Job) : Machine σ :=
  let m := { m with now := max m.now wake.due }
  match job with
  | .loop id =>
    match m.loops.find? fun l => l.id == id with
    | some l => m.wakeLoop l
    | none => m
  | .turn round => m.takeTurn round
  | .call round order => m.resume round order

/--
Lets virtual time pass, move by move, until a condition holds or nothing is due before `limit`;
then it is `limit`. The moves are bounded by `fuel`.
-/
def passUntil (done : Machine σ → Bool) (limit : Nat) : (fuel : Nat) → Machine σ → Machine σ
  | 0, m => m
  | fuel + 1, m =>
    if done m then m
    else
      match m.nextWait? with
      | some (wake, job) =>
        if wake.due < limit then passUntil done limit fuel (m.perform wake job)
        else { m with now := max m.now limit }
      | none => { m with now := max m.now limit }

/--
How many moves a fan-out makes at most until it is over: for each call one to begin it, one to end
it and a turn, and before that the first turn.
-/
def movesOf (r : Round σ) : Nat := 3 * (r.queued.length + r.atWork.length) + 1

/--
How many moves are allowed for: those of the fan-outs, and for each loop and millisecond more than a
loop makes while the wall clock keeps step, with every collector called in between.
-/
def movesFor (m : Machine σ) (limit : Nat) : Nat :=
  (m.rounds.map movesOf).foldl (· + ·) 0 +
    (limit + 1 - m.now) * (m.loops.length + 1) * (3 * m.registry.length + 1000000)

/-- Lets everything happen that is due by now. -/
def settle (m : Machine σ) : Machine σ :=
  let due := m.passUntil (fun _ => false) (m.now + 1) (m.movesFor (m.now + 1))
  { due with now := m.now }

/-- Lets virtual time pass until a condition holds, but not beyond `limit`. -/
def await (m : Machine σ) (done : Machine σ → Bool) (limit : Nat) : Machine σ :=
  m.passUntil done limit (m.movesFor limit)

/-- Lets some milliseconds pass. -/
def advance (m : Machine σ) (ms : Nat) : Machine σ :=
  (m.await (fun _ => false) (m.now + ms)).settle

/-! ## Requests -/

/-- Builds and registers the collectors unless that has been done before. -/
def ensureInitialized (m : Machine σ) : Except SchedulerError InitializeReport × Machine σ :=
  if m.initialized then (.ok ⟨true, m.registry.length⟩, m)
  else
    let (built, world) := m.factory m.world
    let m := { m with world := world }.note .factoryCalled
    match built with
    | .error causes => (.error (.ofCauses causes), m)
    | .ok batch =>
      match Registry.registerAll m.registry batch with
      | .error e => (.error (.registry e), m)
      | .ok registry =>
        (.ok ⟨false, registry.length⟩, { m with registry := registry, initialized := true })

/-- Registers one collector from outside. -/
def register (m : Machine σ) (c : Registered σ) : Except RegistryError Nat × Machine σ :=
  match Registry.register m.registry c with
  | .error e => (.error e, m)
  | .ok registry => (.ok registry.length, { m with registry := registry })

/-- Starts a loop, unless one was started and not stopped. -/
def start (m : Machine σ) : Except SchedulerError Unit × Machine σ :=
  match m.worker with
  | some _ => (.ok (), m)
  | none =>
    match (m.setState .starting).ensureInitialized with
    | (.error e, m) => (.error e, m.setState .stopped)
    | (.ok _, m) =>
      let id := m.nextId
      let (wake, m) := { m with nextId := id + 1 }.beginWait 0
      let m := { m with
        loops := m.loops ++ [Loop.mk id false (.beginning wake)]
        worker := some id }
      (.ok (), (m.note (.loopStarted id)).setState .running)

/-- Tells the worker's loop to shut down. One that sleeps or backs off ends at once. -/
def sendShutdown (m : Machine σ) (loop : Nat) : Machine σ :=
  let m := { m with
    loops := m.loops.map fun (l : Loop) => if l.id = loop then { l with shutdown := true } else l }
  let m := m.note (.shutdownSent loop)
  match m.loops.find? fun (l : Loop) => l.id == loop with
  | some ⟨_, _, .waiting _ _⟩ | some ⟨_, _, .backingOff _⟩ => m.endLoop loop
  | _ => m

/-- The first half of stopping: the loop is told; returns which loop is waited for. -/
def requestStop (m : Machine σ) : Option Nat × Machine σ :=
  match m.worker with
  | none => (none, m)
  | some loop =>
    (some loop, ({ m with worker := none }.setState .stopping).sendShutdown loop)

/-- Whether a loop is over. -/
def loopOver (m : Machine σ) (loop : Nat) : Bool :=
  m.loops.any fun l => l.id == loop && l.phase == .ended

/-- The second half of stopping: no next run is announced any more. -/
def finishStop (m : Machine σ) : Machine σ :=
  { m with stats := { m.stats with nextRunAt := none } }.setState .stopped

/-- Stops the scheduler; waits for a cycle in flight, but not longer than configured. -/
def stop (m : Machine σ) : Machine σ :=
  match m.requestStop with
  | (none, m) => m
  | (some loop, m) =>
    (m.await (fun m => m.loopOver loop) (m.now + toMillis m.config.shutdownTimeout)).finishStop

/--
Triggers a cycle by hand for an instant, or for the present one; returns the id of the fan-out. The
present instant is read in the call itself: where the clock breaks off there, the call breaks off
with it and no cycle is begun. That has no outcome of its own here: it is told as `cycleAborted`,
like a cycle that has been begun and breaks off.
-/
def trigger (m : Machine σ) (time : Option Instant) : Except SchedulerError Nat × Machine σ :=
  match m.ensureInitialized with
  | (.error e, m) => (.error e, m)
  | (.ok _, m) =>
    let (time, m) := match time with
      | some time => (some time, m)
      | none => m.readClock
    match time with
    | none => (.error .cycleAborted, m)
    | some time =>
      let (id, m) := m.startRound .manual time.truncateToHour m.registry none
      (.ok id, m)

/-- Whether a fan-out is over. -/
def roundOver (m : Machine σ) (round : Nat) : Bool :=
  !m.rounds.any fun r => r.id == round

/-- The results of a fan-out that is over; `none` when its cycle broke off. -/
def resultsOf? (m : Machine σ) (round : Nat) : Option CycleResults :=
  m.history.findSome? fun
    | .roundEnded id _ results => if id = round then results else none
    | _ => none

/-- When the last of the waits is over that a fan-out has at present. -/
def lastDue (m : Machine σ) (r : Round σ) : Nat :=
  (waitsOf r).foldl (fun due (wake, _) => max due wake.due) m.now

/--
Waits for a fan-out with fewer than `rests` calls that have a delay: time and again for all that it
waits for at present, and for what follows without delay.
-/
def awaitRound (m : Machine σ) (round : Nat) : (rests : Nat) → Machine σ
  | 0 => m
  | rests + 1 =>
    match m.rounds.find? fun r => r.id == round with
    | none => m
    | some r =>
      (m.await (fun m => m.roundOver round) (m.lastDue r + 1)).awaitRound round rests

/-- Triggers a cycle by hand and waits for its results. -/
def runCycle (m : Machine σ) (time : Option Instant) :
    Except SchedulerError CycleResults × Machine σ :=
  match m.trigger time with
  | (.error e, m) => (.error e, m)
  | (.ok round, m) =>
    let m := m.awaitRound round (m.registry.length + 1)
    match m.resultsOf? round with
    | some results => (.ok results, m)
    | none => (.error .cycleAborted, m)

/--
Calls a collector outside of any fan-out, and waits for it. The wait of the caller is over before
all others that are due at the same time.
-/
def callAlone (m : Machine σ) (c : Registered σ) (time : Instant) : Option Bool × Machine σ :=
  let m := m.await (fun _ => false) (m.now + c.delay m.world)
  let (outcome, world) := c.act time m.world
  (outcome, { m with world := world })

end Machine

end HourlySnapshots
