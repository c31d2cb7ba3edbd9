import HourlySnapshots.Scheduler.Machine
import Mathlib.Tactic.Common

/-!
# The moves of a scheduler

A move is whatever may happen next to a machine: virtual time passes, something that waits acts,
the surroundings change, or somebody asks for something. A run is a list of moves in any order, so
that what holds after every run holds for every way in which loops, fan-outs, callers and the
surroundings can take turns, and for every length of the waits in between.
-/

namespace HourlySnapshots

/-- What may happen next to a machine. -/
inductive Move (σ : Type) where
  /-- Virtual time passes up to a millisecond. -/
  | elapse (limit : Nat)
  /-- Something that waits acts. -/
  | work (job : Machine.Job)
  /-- The wall clock is replaced by another one. -/
  | setClock (clock : Clock)
  /-- What the collectors work on is changed from outside. -/
  | change (f : σ → σ)
  /-- The collectors are asked for, unless there are some already. -/
  | prepare
  | register (c : Registered σ)
  | start
  /-- The first half of stopping: the worker's loop is told to shut down. -/
  | requestStop
  /-- The second half of stopping, however long the wait for the loop has been. -/
  | finishStop
  | trigger (time : Option Instant)
  /-- All registered collectors are run outside of any cycle. -/
  | runAll (time : Instant)
  /-- One collector is run outside of any fan-out. -/
  | runAlone (c : Registered σ) (time : Instant)

namespace Machine

variable {σ : Type}

/-- Does what a wait was for, at the present time. -/
def work (m : Machine σ) (job : Job) : Machine σ := m.perform ⟨m.now, false, 0⟩ job

/-- Whether something waits for its turn to do a job. -/
def pending (m : Machine σ) (job : Job) : Bool := m.waits.any fun w => w.2 = job

/--
The machine after a move. Only one call at a time starts or stops the scheduler, so that starting
and stopping are put off while it is being stopped.
-/
def after (m : Machine σ) : Move σ → Machine σ
  | .elapse limit => { m with now := max m.now limit }
  | .work job => if m.pending job then m.work job else m
  | .setClock clock => { m with clock := clock }
  | .change f => { m with world := f m.world }
  | .prepare => m.ensureInitialized.2
  | .register c => (m.register c).2
  | .start => if m.state = .stopping then m else m.start.2
  | .requestStop => if m.state = .stopping then m else m.requestStop.2
  | .finishStop => if m.state = .stopping then m.finishStop else m
  | .trigger time => (m.trigger time).2
  | .runAll time => (m.startRound .direct time m.registry none).2
  | .runAlone c time => { m with world := (c.act time m.world).2 }

theorem after_work (m : Machine σ) (job : Job) :
    m.after (.work job) = if m.pending job then m.work job else m := rfl

theorem after_start (m : Machine σ) :
    m.after .start = if m.state = .stopping then m else m.start.2 := rfl

theorem after_requestStop (m : Machine σ) :
    m.after .requestStop = if m.state = .stopping then m else m.requestStop.2 := rfl

theorem after_finishStop (m : Machine σ) :
    m.after .finishStop = if m.state = .stopping then m.finishStop else m := rfl

/-- The machine after some moves, one after the other. -/
def afterAll (m : Machine σ) (moves : List (Move σ)) : Machine σ := moves.foldl after m

@[simp] theorem afterAll_nil (m : Machine σ) : m.afterAll [] = m := rfl

@[simp] theorem afterAll_cons (m : Machine σ) (move : Move σ) (moves : List (Move σ)) :
    m.afterAll (move :: moves) = (m.after move).afterAll moves := rfl

theorem afterAll_append (m : Machine σ) (first second : List (Move σ)) :
    m.afterAll (first ++ second) = (m.afterAll first).afterAll second :=
  List.foldl_append

theorem afterAll_concat (m : Machine σ) (moves : List (Move σ)) (move : Move σ) :
    m.afterAll (moves ++ [move]) = (m.afterAll moves).after move := by
  rw [afterAll_append, afterAll_cons, afterAll_nil]

/-- What holds at first and is kept by every move of a run holds after the run. -/
theorem afterAll_induction {P : Machine σ → Prop} {Q : Move σ → Prop} {m : Machine σ}
    {moves : List (Move σ)} (hmoves : ∀ move ∈ moves, Q move) (hfirst : P m)
    (hstep : ∀ m move, Q move → P m → P (m.after move)) : P (m.afterAll moves) := by
  induction moves generalizing m with
  | nil => exact hfirst
  | cons move rest ih =>
    rw [afterAll_cons]
    have hnext : P (m.after move) := hstep m move (hmoves move (by simp)) hfirst
    exact ih (fun other hother => hmoves other (by simp [hother])) hnext

/-- A property of the moves of a run, each together with the machine that makes it. -/
def Along (P : Machine σ → Move σ → Prop) : Machine σ → List (Move σ) → Prop
  | _, [] => True
  | m, move :: rest => P m move ∧ Along P (m.after move) rest

instance decidableAlong {P : Machine σ → Move σ → Prop} [∀ m move, Decidable (P m move)] :
    (m : Machine σ) → (moves : List (Move σ)) → Decidable (m.Along P moves)
  | _, [] => inferInstanceAs (Decidable True)
  | m, move :: rest =>
    have := decidableAlong (P := P) (m.after move) rest
    inferInstanceAs (Decidable (P m move ∧ (m.after move).Along P rest))

theorem along_true (m : Machine σ) (moves : List (Move σ)) : m.Along (fun _ _ => True) moves := by
  induction moves generalizing m with
  | nil => trivial
  | cons move rest ih => exact ⟨trivial, ih (m.after move)⟩

theorem Along.imp {P Q : Machine σ → Move σ → Prop} {m : Machine σ} {moves : List (Move σ)}
    (h : m.Along P moves) (himp : ∀ x move, P x move → Q x move) : m.Along Q moves := by
  induction moves generalizing m with
  | nil => trivial
  | cons move rest ih => exact ⟨himp m move h.1, ih h.2⟩

/-! ## Jobs -/

/-- Performing a job is letting time pass to the end of its wait, and doing it then. -/
theorem perform_eq_work (m : Machine σ) (wake : Wake) (job : Job) :
    m.perform wake job = ({ m with now := max m.now wake.due } : Machine σ).work job := by
  simp [work, perform]

theorem passed_none (m : Machine σ) : ({ m with now := max m.now m.now } : Machine σ) = m := by
  rw [Nat.max_self]

theorem work_loop (m : Machine σ) (id : Nat) :
    m.work (.loop id) =
      match m.loops.find? fun l => l.id == id with
      | some l => m.wakeLoop l
      | none => m := by
  unfold work perform
  rw [passed_none]
  rfl

theorem work_turn (m : Machine σ) (round : Nat) : m.work (.turn round) = m.takeTurn round := by
  unfold work perform
  rw [passed_none]

theorem work_call (m : Machine σ) (round order : Nat) :
    m.work (.call round order) = m.resume round order := by
  unfold work perform
  rw [passed_none]

theorem pending_iff {m : Machine σ} {job : Job} :
    m.pending job = true ↔ ∃ wake, (wake, job) ∈ m.waits := by
  simp [pending]

theorem mem_waits_loop {m : Machine σ} {wake : Wake} {id : Nat} :
    (wake, Job.loop id) ∈ m.waits ↔ ∃ l ∈ m.loops, wakeOf? l = some wake ∧ l.id = id := by
  simp [waits, waitsOf]

theorem mem_waits_turn {m : Machine σ} {wake : Wake} {round : Nat} :
    (wake, Job.turn round) ∈ m.waits ↔ ∃ r ∈ m.rounds, r.turn = some wake ∧ r.id = round := by
  simp [waits, waitsOf]

theorem mem_waits_call {m : Machine σ} {wake : Wake} {round order : Nat} :
    (wake, Job.call round order) ∈ m.waits ↔
      ∃ r ∈ m.rounds, r.id = round ∧ ∃ call ∈ r.atWork, call.wake = wake ∧ wake.order = order := by
  simp [waits, waitsOf]
  grind

end Machine

end HourlySnapshots
