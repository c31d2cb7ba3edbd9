import HourlySnapshots.Rehearsal.World
import HourlySnapshots.Scheduler.Status

/-!
# Rehearsals

A rehearsal is a cast of parts, a scheduler that runs them, and a wall clock that follows virtual
time but can be moved. It is played by steps, each of which gives an answer; after a step,
everything that is due at its moment happens before the next one.
-/

namespace HourlySnapshots

/-- A rehearsal under way. -/
structure Rehearsal where
  parts : List Part
  machine : Machine World
  /-- The wall clock at the beginning. -/
  start : Instant
  /-- How many milliseconds the wall clock has been moved forward. -/
  moved : Int
  /-- The number of the clock reading that will break off, if any. -/
  broken : Option Nat

/-- A store of a rehearsal. -/
inductive Target where
  | store
  | directory
deriving DecidableEq

/-- A step of a rehearsal. Parts are named by their places in the cast. -/
inductive Step where
  /-- A part collects and saves nothing. -/
  | collect (place : Nat) (time : Instant)
  /-- A part collects and saves. -/
  | run (place : Nat) (time : Instant)
  /-- All registered collectors run, outside of any cycle. -/
  | runAll (time : Instant)
  | register (place : Nat)
  | find (name : String)
  | registry
  | pairCount (place : Nat)
  | setUp
  | start
  | stop
  /-- A cycle is triggered by hand; the caller may give up after some milliseconds. -/
  | trigger (time : Option Instant) (giveUp : Option Nat)
  | status
  | list
  | state
  | stats
  | builds
  /-- Virtual time passes. -/
  | advance (ms : Nat)
  /-- The wall clock is moved. -/
  | moveClock (ms : Int)
  | clock
  /-- The clock reading this many readings ahead will break off; with zero none will. -/
  | breakClock (ahead : Nat)
  | failWrites (target : Target) (fail : Bool)
  /-- The services behind a part answer differently from now on. -/
  | reply (place : Nat) (replies : Replies)
  | plan (plan : FactoryPlan)
  /-- What a part has noted. -/
  | noted (place : Nat)
  | insert (records : List SnapshotRecord)
  | registerPortfolio (master : PortfolioMaster)
  | records
  | portfolios

/-- The answer to a step. -/
inductive StepAnswer where
  | nothing
  | done
  | report (report : Part.Report)
  | flag (value : Bool)
  | results (results : CycleResults)
  | count (n : Nat)
  /-- How many collectors are registered after one more was. -/
  | registered (count : Nat)
  | kind (kind : Option String)
  | registry (infos : List CollectorInfo)
  | setUp (report : InitializeReport)
  | gaveUp
  | failed (error : SchedulerError)
  | refused (error : StoreError)
  | status (status : SchedulerStatus)
  | collectors (infos : List CollectorInfo)
  | state (state : SchedulerState)
  | stats (stats : RunStats)
  | instant (time : Option Instant)
  | noted (notes : List Noted)
  | ids (ids : List Nat)
  | records (records : List (Nat × SnapshotRecord))
  | portfolios (masters : List PortfolioMaster)

namespace Rehearsal

/-- A wall clock that follows virtual time from a moved start. -/
def wallClock (start : Instant) (moved : Int) (now : Nat) : Option Instant :=
  start.add? ((now + moved) * millisecond)

/-- The clock of the scheduler: the wall clock, but for a reading that breaks off. -/
def schedulerClock (r : Rehearsal) : Clock := fun now reading =>
  if r.broken = some reading then none else wallClock r.start r.moved now

/-- Lets the scheduler see the present clock. -/
def withClock (r : Rehearsal) : Rehearsal :=
  { r with machine := { r.machine with clock := r.schedulerClock } }

/-- A rehearsal before its first step. -/
def begin (parts : List Part) (config : SchedulerConfig) (fanOut : FanOut) (start : Instant)
    (world : World) : Rehearsal :=
  let factory := World.build (castOf parts)
  let clock : Clock := fun now _ => wallClock start 0 now
  ⟨parts, .init config fanOut factory clock world, start, 0, none⟩

/-- Replaces the machine. -/
def setMachine (r : Rehearsal) (m : Machine World) : Rehearsal := { r with machine := m }

/-- Changes the world. -/
def modifyWorld (r : Rehearsal) (f : World → World) : Rehearsal :=
  r.setMachine { r.machine with world := f r.machine.world }

/-- Changes the stores. -/
def modifyStores (r : Rehearsal) (f : Stores → Stores) : Rehearsal :=
  r.modifyWorld fun w => { w with stores := f w.stores }

/-- The part at a place as the scheduler sees it. -/
def collectorAt? (r : Rehearsal) (place : Nat) : Option (Registered World) :=
  (r.parts[place]?).map (·.registered place)

/-- Runs all registered collectors outside of any cycle and waits for them. -/
def runAll (r : Rehearsal) (time : Instant) : CycleResults × Rehearsal :=
  let (round, m) := r.machine.startRound .direct time r.machine.registry none
  let m := m.awaitRound round (m.registry.length + 1)
  ((m.resultsOf? round).getD [], r.setMachine m)

/-- The answer to a trigger whose caller waits for the results. -/
def triggerAnswer : Except SchedulerError CycleResults → StepAnswer
  | .ok results => .results results
  | .error e => .failed e

/-- Triggers a cycle and waits for it, but the caller gives up after some milliseconds. -/
def triggerBriefly (r : Rehearsal) (time : Option Instant) (patience : Nat) :
    StepAnswer × Rehearsal :=
  match r.machine.trigger time with
  | (.error e, m) => (.failed e, r.setMachine m)
  | (.ok round, m) =>
    -- the call is begun before it is given up, even without any patience
    if patience = 0 then (.gaveUp, r.setMachine m)
    else
      let m := m.await (fun m => m.roundOver round) (m.now + patience)
      let answer :=
        if m.roundOver round then
          triggerAnswer ((m.resultsOf? round).elim (.error .cycleAborted) .ok)
        else .gaveUp
      (answer, r.setMachine m)

/-- Performs a step, up to the moment its answer is there. -/
def perform (r : Rehearsal) : Step → StepAnswer × Rehearsal
  | .collect place time =>
    match r.parts[place]? with
    | some part =>
      let (report, world) := part.collect place time r.machine.world
      (.report report, r.modifyWorld fun _ => world)
    | none => (.nothing, r)
  | .run place time =>
    match r.collectorAt? place with
    | some c =>
      let (outcome, m) := r.machine.callAlone c time
      (.flag (outcome.getD false), r.setMachine m)
    | none => (.nothing, r)
  | .runAll time =>
    let (results, r) := r.runAll time
    (.results results, r)
  | .register place =>
    match r.collectorAt? place with
    | some c =>
      match r.machine.register c with
      | (.ok count, m) => (.registered count, r.setMachine m)
      | (.error e, m) => (.failed (.registry e), r.setMachine m)
    | none => (.nothing, r)
  | .find name => (.kind ((Registry.get? r.machine.registry name).map (·.info.kind)), r)
  | .registry => (.registry (Registry.describe r.machine.registry), r)
  | .pairCount place => (.count ((r.parts[place]?).elim 0 (·.pairCount place)), r)
  | .setUp =>
    match r.machine.ensureInitialized with
    | (.ok report, m) => (.setUp report, r.setMachine m)
    | (.error e, m) => (.failed e, r.setMachine m)
  | .start =>
    match r.machine.start with
    | (.ok _, m) => (.done, r.setMachine m)
    | (.error e, m) => (.failed e, r.setMachine m)
  | .stop => (.done, r.setMachine r.machine.stop)
  | .trigger time none =>
    let (answer, m) := r.machine.runCycle time
    (triggerAnswer answer, r.setMachine m)
  | .trigger time (some patience) => r.triggerBriefly time patience
  | .status => (.status r.machine.status, r)
  | .list => (.collectors (Registry.describe r.machine.registry), r)
  | .state => (.state r.machine.state, r)
  | .stats => (.stats r.machine.stats, r)
  | .builds => (.count r.machine.world.builds, r)
  | .advance ms => (.nothing, r.setMachine (r.machine.advance ms))
  | .moveClock ms =>
    let r := { r with moved := r.moved + ms }.withClock
    (.instant (wallClock r.start r.moved r.machine.now), r)
  | .clock => (.instant (wallClock r.start r.moved r.machine.now), r)
  | .breakClock ahead =>
    let broken := if ahead = 0 then none else some (r.machine.readings + ahead - 1)
    (.nothing, { r with broken := broken }.withClock)
  | .failWrites .store fail =>
    (.nothing, r.modifyStores fun s => { s with store := s.store.setFailWrites fail })
  | .failWrites .directory fail =>
    (.nothing, r.modifyStores fun s => s.setDirectory (s.directoryStore.setFailWrites fail))
  | .reply place replies =>
    (.nothing, r.modifyWorld fun w => { w with replies := w.replies.set place replies })
  | .plan plan => (.nothing, r.modifyWorld fun w => { w with plan := plan })
  | .noted place => (.noted (r.machine.world.notedBy place), r)
  | .insert records =>
    match r.machine.world.stores.insertBatch records with
    | (.ok ids, stores) => (.ids ids, r.modifyStores fun _ => stores)
    | (.error e, stores) => (.refused e, r.modifyStores fun _ => stores)
  | .registerPortfolio master =>
    match r.machine.world.stores.registerIfAbsent master with
    | (.ok kept, stores) => (.flag kept, r.modifyStores fun _ => stores)
    | (.error e, stores) => (.refused e, r.modifyStores fun _ => stores)
  | .records => (.records r.machine.world.stores.store.batchedRecords, r)
  | .portfolios => (.portfolios r.machine.world.stores.directoryStore.sortedPortfolios, r)

/-- Plays a step; returns its answer and the virtual time after it. -/
def play (r : Rehearsal) (step : Step) : (StepAnswer × Nat) × Rehearsal :=
  let (answer, r) := r.perform step
  let m := r.machine.settle
  ((answer, m.now), r.setMachine m)

/-- Plays the steps in order. -/
def playAll (r : Rehearsal) : List Step → List (StepAnswer × Nat)
  | [] => []
  | step :: rest =>
    let (answer, r) := r.play step
    answer :: r.playAll rest

end Rehearsal

end HourlySnapshots
