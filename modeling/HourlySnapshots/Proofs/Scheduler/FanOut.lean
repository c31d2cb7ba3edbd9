import HourlySnapshots.Proofs.Scheduler.Loops
import Mathlib.Logic.Relation

/-!
# What moves do to the fan-outs

The fan-outs of a machine, the collectors and what they work on, without the loops and the clock.
`Fans.Step` says once what can happen to them, and `fans_after` that every move does some of these
things, one after the other. What is called and what is left to be called, and what the collectors
may have done to the world, is proved along these steps.
-/

namespace HourlySnapshots

/-- Whether something that happened is the beginning of a fan-out or belongs to a call. -/
def Happening.isFanned : Happening → Bool
  | .roundStarted .. | .called .. | .settled .. => true
  | _ => false

/-- A batch that is registered is appended. -/
theorem Registry.eq_of_registerAll {σ : Type} {r r' : Registry σ} {batch : List (Registered σ)}
    (h : Registry.registerAll r batch = .ok r') : r' = r ++ batch := by
  unfold Registry.registerAll at h
  split at h
  · cases h
  · exact (Except.ok.inj h).symm

/-- The part of a machine that its fan-outs depend on. -/
structure Fans (σ : Type) where
  factory : σ → Except (List String) (List (Registered σ)) × σ
  fanOut : FanOut
  registry : Registry σ
  world : σ
  nextOrder : Nat
  nextId : Nat
  rounds : List (Round σ)
  /-- What happened in fan-outs, the latest first. -/
  history : List Happening

/-- The fan-outs of a machine. -/
def Machine.fans {σ : Type} (m : Machine σ) : Fans σ where
  factory := m.factory
  fanOut := m.fanOut
  registry := m.registry
  world := m.world
  nextOrder := m.nextOrder
  nextId := m.nextId
  rounds := m.rounds
  history := m.history.filter Happening.isFanned

namespace Fans

variable {σ : Type}

section

variable (f : Fans σ)

@[simps!]
def note (h : Happening) : Fans σ := { f with history := h :: f.history }

/-- Puts a fan-out in the place of the one with its id. -/
@[simps!]
def put (r : Round σ) : Fans σ :=
  { f with rounds := f.rounds.map fun (other : Round σ) => if other.id = r.id then r else other }

/-- Numbers of waits and ids are given away. -/
@[simps!]
def later (order id : Nat) : Fans σ := { f with nextOrder := order, nextId := id }

/-- Begins a fan-out over the registered collectors. -/
@[simps!]
def begin (purpose : Purpose) (time : Instant) (released : Option Instant) (turn : Wake)
    (order : Nat) : Fans σ :=
  { f with
    rounds := f.rounds ++
      [Round.mk f.nextId purpose time f.fanOut f.registry [] (some turn) []]
    nextId := f.nextId + 1
    nextOrder := order
    history := .roundStarted f.nextId purpose time released :: f.history }

/-- The calls of some collectors before they begin; they are numbered in turn. -/
def callsOf (now : Nat) : (order : Nat) → List (Registered σ) → List (Call σ)
  | _, [] => []
  | order, c :: rest => ⟨c, false, ⟨now, false, order⟩⟩ :: callsOf now (order + 1) rest

/-- A fan-out makes the calls it can make. -/
def turned (now : Nat) (r : Round σ) : Round σ :=
  { r with
    turn := none
    queued := r.queued.drop (Machine.nextCalls r).length
    atWork := r.atWork ++ callsOf now f.nextOrder (Machine.nextCalls r) }

/-- The fan-out without a call. -/
def without (r : Round σ) (call : Call σ) : Round σ :=
  { r with atWork := r.atWork.filter fun other => other.wake.order ≠ call.wake.order }

/-- A call has acted, and its fan-out goes on. -/
def acted (r : Round σ) (call : Call σ) (turn : Wake) (order : Nat) : Fans σ :=
  let done := call.collector.act r.time f.world
  ({ f with world := done.2, nextOrder := order }.note
    (.settled r.id call.collector.name (done.1.getD false))).put
      { without r call with
        outcomes := r.outcomes ++ [(call.collector.name, done.1.getD false)]
        turn := some turn }

/-! ## Steps -/

/-- What a fan-out does when it goes on. -/
inductive Turn : Fans σ → Prop where
  /-- A fan-out makes the calls it can make. -/
  | turned (now : Nat) {r : Round σ} (hr : r ∈ f.rounds) (hturn : r.turn.isSome)
      (hmore : (f.turned now r).atWork ≠ []) :
      Turn ((f.put (f.turned now r)).later (f.nextOrder + (Machine.nextCalls r).length)
        f.nextId)
  /-- A fan-out is over. -/
  | ended {r : Round σ} (hr : r ∈ f.rounds) (hturn : r.turn.isSome) (hqueued : r.queued = [])
      (hnone : r.atWork = []) :
      Turn { f with rounds := f.rounds.filter fun other => other.id ≠ r.id }
  /-- A call that has waited acts. -/
  | acted {r : Round σ} (hr : r ∈ f.rounds) {call : Call σ} (hcall : call ∈ r.atWork)
      (hbegun : call.begun = true) (turn : Wake) {order : Nat} (horder : f.nextOrder ≤ order) :
      Turn (f.acted r call turn order)
  /-- A call begins and acts at once. -/
  | calledAtOnce {r : Round σ} (hr : r ∈ f.rounds) {call : Call σ} (hcall : call ∈ r.atWork)
      (hbegun : call.begun = false) (turn : Wake) {order : Nat} (horder : f.nextOrder ≤ order) :
      Turn ((f.note (.called r.id call.collector.name r.time)).acted r call turn order)
  /-- A call begins and waits for its delay to pass. -/
  | called {r : Round σ} (hr : r ∈ f.rounds) {call : Call σ} (hcall : call ∈ r.atWork)
      (hbegun : call.begun = false) (due : Nat) :
      Turn (((f.note (.called r.id call.collector.name r.time)).put
        { without r call with
          atWork := (without r call).atWork ++
            [⟨call.collector, true, ⟨due, false, f.nextOrder⟩⟩] }).later (f.nextOrder + 1) f.nextId)

/-- What can happen to the fan-outs in a move. -/
inductive Step (move : Move σ) : Fans σ → Prop where
  | later {order id : Nat} (horder : f.nextOrder ≤ order) (hid : f.nextId ≤ id) :
      Step move (f.later order id)
  | changed (g : σ → σ) (hmove : move = .change g) : Step move { f with world := g f.world }
  | ranAlone (c : Registered σ) (time : Instant) (hmove : move = .runAlone c time) :
      Step move { f with world := (c.act time f.world).2 }
  | registered (c : Registered σ) (hmove : move = .register c)
      (hnew : Registry.register f.registry c = .ok (f.registry ++ [c])) :
      Step move { f with registry := f.registry ++ [c] }
  | built {batch : List (Registered σ)} (hbatch : (f.factory f.world).1 = .ok batch)
      (hnew : Registry.registerAll f.registry batch = .ok (f.registry ++ batch)) :
      Step move { f with world := (f.factory f.world).2, registry := f.registry ++ batch }
  /-- The collectors could not be built or registered. -/
  | failed : Step move { f with world := (f.factory f.world).2 }
  | begun (purpose : Purpose) (time : Instant) (released : Option Instant) (turn : Wake)
      {order : Nat} (horder : f.nextOrder ≤ order) :
      Step move (f.begin purpose time released turn order)
  /-- A fan-out goes on. -/
  | fanned {f' : Fans σ} (hturn : Turn f f') : Step move f'

end

/-- A fan-out after a change is the changed one or was there before. -/
theorem mem_put {f : Fans σ} {r other : Round σ} (h : other ∈ (f.put r).rounds) :
    other = r ∨ other ∈ f.rounds := by
  obtain ⟨before, hbefore, rfl⟩ := List.mem_map.mp h
  split
  · exact .inl rfl
  · exact .inr hbefore

theorem Turn.registry_eq {f f' : Fans σ} (hturn : Turn f f') : f'.registry = f.registry := by
  cases hturn <;> rfl

/-- What a fan-out makes, it makes of the collectors at the head of its queue. -/
theorem nextCalls_append_drop (r : Round σ) :
    Machine.nextCalls r ++ r.queued.drop (Machine.nextCalls r).length = r.queued := by
  unfold Machine.nextCalls
  cases r.fanOut with
  | sequential => cases r.queued <;> simp
  | parallel => simp

theorem nextCalls_eq_nil {r : Round σ} : Machine.nextCalls r = [] ↔ r.queued = [] := by
  unfold Machine.nextCalls
  cases r.fanOut <;> simp

/-- A fan-out has no call at work after its turn when there was nothing left to call. -/
theorem turned_atWork_eq_nil {f : Fans σ} {now : Nat} {r : Round σ} :
    (f.turned now r).atWork = [] ↔ r.queued = [] ∧ r.atWork = [] := by
  have hcalls (calls : List (Registered σ)) : callsOf now f.nextOrder calls = [] ↔ calls = [] := by
    cases calls <;> simp [callsOf]
  simp only [turned, List.append_eq_nil_iff, hcalls, nextCalls_eq_nil, and_comm]

theorem map_collector_callsOf (now order : Nat) (calls : List (Registered σ)) :
    (callsOf now order calls).map Call.collector = calls := by
  induction calls generalizing order with
  | nil => rfl
  | cons c rest ih => simp [callsOf, ih]

/-- What happens to the fan-outs in a move, one thing after the other. -/
abbrev Steps (move : Move σ) : Fans σ → Fans σ → Prop :=
  Relation.ReflTransGen fun f f' => Step f move f'

end Fans

namespace Machine

variable {σ : Type}

/-! ## The fan-outs after small moves -/

section

variable (m : Machine σ)

theorem fans_note (h : Happening) :
    (m.note h).fans = if h.isFanned then m.fans.note h else m.fans := by
  cases hfanned : h.isFanned <;> simp [note, fans, Fans.note, hfanned]

@[simp] theorem fans_readClock : m.readClock.2.fans = m.fans := rfl

theorem fans_beginWait (ms : Nat) :
    (m.beginWait ms).2.fans = m.fans.later (m.nextOrder + 1) m.nextId := rfl

@[simp] theorem fans_setPhase (loop : Nat) (phase : LoopPhase) :
    (m.setPhase loop phase).fans = m.fans := rfl

theorem fans_backOff (loop : Nat) :
    ∃ order ≥ m.nextOrder, (m.backOff loop).fans = m.fans.later order m.nextId := by
  unfold backOff
  split
  · exact ⟨m.nextOrder, Nat.le_refl _, rfl⟩
  · exact ⟨m.nextOrder + 1, Nat.le_succ _, rfl⟩

@[simp] theorem fans_count (time : Instant) (results : CycleResults) :
    (m.count time results).2.fans = m.fans := by
  unfold count
  simp only [readClock]
  cases m.clock m.now m.readings <;> rfl

theorem fans_keep (r : Round σ) : (m.keep r).fans = m.fans.put r := rfl

theorem beginTurn_spec (r : Round σ) :
    ∃ turn, (r.turn = some turn ∨ turn.due = m.now) ∧ ∃ order ≥ m.nextOrder,
      (m.beginTurn r).1 = { r with turn := some turn } ∧
      (m.beginTurn r).2.fans = m.fans.later order m.nextId := by
  unfold beginTurn
  split
  · next turn hturn =>
    refine ⟨turn, .inl hturn, m.nextOrder, Nat.le_refl _, ?_, rfl⟩
    rw [← hturn]
  · exact ⟨_, .inr rfl, m.nextOrder + 1, Nat.le_succ _, rfl, rfl⟩

theorem makeCalls_spec (r : Round σ) (calls : List (Registered σ)) :
    (m.makeCalls r calls).1 =
        { r with atWork := r.atWork ++ Fans.callsOf m.now m.nextOrder calls } ∧
      (m.makeCalls r calls).2.fans = m.fans.later (m.nextOrder + calls.length) m.nextId := by
  induction calls generalizing m r with
  | nil => exact ⟨by simp [makeCalls, Fans.callsOf], rfl⟩
  | cons c rest ih =>
    obtain ⟨hround, hfans⟩ := ih (m.beginWait 0).2
      { r with atWork := r.atWork ++ [⟨c, false, (m.beginWait 0).1⟩] }
    rw [makeCalls]
    refine ⟨hround.trans ?_, hfans.trans ?_⟩
    · simp [Fans.callsOf, beginWait]
    · simp only [beginWait, fans, Fans.later, List.length_cons]
      congr 1
      omega

theorem act_spec (r : Round σ) (c : Registered σ) :
    ∃ turn, (r.turn = some turn ∨ turn.due = m.now) ∧ ∃ order ≥ m.nextOrder,
      (m.act r c).1 = { r with
        outcomes := r.outcomes ++ [(c.name, (c.act r.time m.world).1.getD false)]
        turn := some turn } ∧
      (m.act r c).2.fans = (({ m.fans with world := (c.act r.time m.world).2 } : Fans σ).note
        (.settled r.id c.name ((c.act r.time m.world).1.getD false))).later order m.nextId := by
  unfold act
  set acted : Machine σ := ({ m with world := (c.act r.time m.world).2 } : Machine σ).note
    (.settled r.id c.name ((c.act r.time m.world).1.getD false)) with hacted
  have hfans : acted.fans = ({ m.fans with world := (c.act r.time m.world).2 } : Fans σ).note
      (.settled r.id c.name ((c.act r.time m.world).1.getD false)) := by
    rw [hacted, fans_note]
    rfl
  obtain ⟨turn, hturn, order, horder, hround, hlater⟩ := beginTurn_spec acted
    { r with outcomes := r.outcomes ++ [(c.name, (c.act r.time m.world).1.getD false)] }
  rw [hfans] at hlater
  exact ⟨turn, hturn, order, horder, hround, hlater⟩

theorem startRound_spec (purpose : Purpose) (time : Instant) (released : Option Instant) :
    ∃ turn, ∃ order ≥ m.nextOrder,
      (m.startRound purpose time m.registry released).2.fans =
        m.fans.begin purpose time released turn order := by
  exact ⟨⟨m.now, purpose == .direct, m.nextOrder⟩, m.nextOrder + 1, Nat.le_succ _, rfl⟩

/-- Counting and ending a fan-out only takes it away. -/
theorem fans_finish (r : Round σ) :
    ∃ order ≥ m.nextOrder, (m.finish r).fans =
      ({ m.fans with rounds := m.rounds.filter fun other => other.id ≠ r.id } : Fans σ).later order
        m.nextId := by
  unfold finish
  set results := resultsOf r.outcomes
  set dropped : Machine σ := { m with rounds := m.rounds.filter fun other => other.id ≠ r.id }
    with hdropped
  -- reading the clock and counting are not seen here
  have hcounted : ∀ counted, ((dropped.count r.time results).2.note
      (.roundEnded r.id r.purpose counted)).fans = dropped.fans := by
    intro counted
    rw [fans_note, fans_count]
    rfl
  cases hpurpose : r.purpose with
  | direct => exact ⟨m.nextOrder, Nat.le_refl _, rfl⟩
  | manual =>
    have hfans := hcounted (dropped.count r.time results).1
    rw [hpurpose] at hfans
    exact ⟨m.nextOrder, Nat.le_refl _, hfans⟩
  | automatic loop =>
    rcases hcount : dropped.count r.time results with ⟨counted, rest⟩
    have hfans := hcounted counted
    rw [hpurpose, hcount] at hfans
    have horder : (rest.note (.roundEnded r.id (.automatic loop) counted)).nextOrder =
      m.nextOrder := congrArg Fans.nextOrder hfans
    have hid : (rest.note (.roundEnded r.id (.automatic loop) counted)).nextId = m.nextId :=
      congrArg Fans.nextId hfans
    cases counted with
    | some results =>
      refine ⟨m.nextOrder + 1, Nat.le_succ _, ?_⟩
      simp only [hcount]
      rw [fans_setPhase, fans_beginWait, hfans, horder, hid]
      rfl
    | none =>
      obtain ⟨order, hle, hback⟩ :=
        fans_backOff (rest.note (.roundEnded r.id (.automatic loop) none)) loop
      rw [horder] at hle
      refine ⟨order, hle, ?_⟩
      simp only [hcount]
      rw [hback, hfans, hid]
      rfl

end

/-! ## The steps that a move takes -/

section

variable (m : Machine σ)

open Relation

theorem steps_later {move : Move σ} {order : Nat} (horder : m.nextOrder ≤ order) :
    Fans.Steps move m.fans (m.fans.later order m.nextId) :=
  .single (.later horder (Nat.le_refl _))

/-- A fan-out is found by its id, as ids differ. -/
theorem find?_round (hids : (m.rounds.map Round.id).Nodup) {r : Round σ} (hr : r ∈ m.rounds) :
    (m.rounds.find? fun other => other.id == r.id) = some r :=
  Control.find?_of_nodup hids hr

/-- A fan-out with nobody left to call, and nobody at work, ends with its turn. -/
theorem takeTurn_over (hids : (m.rounds.map Round.id).Nodup) {r : Round σ} (hr : r ∈ m.rounds)
    (hqueued : r.queued = []) (hnone : r.atWork = []) :
    m.takeTurn r.id = m.finish { r with turn := none } := by
  have hcalls : nextCalls r = [] := Fans.nextCalls_eq_nil.mpr hqueued
  unfold takeTurn
  rw [find?_round m hids hr]
  simp [hcalls, makeCalls, hnone, hqueued]

/-- Any other fan-out makes the calls it can make. -/
theorem takeTurn_more (hids : (m.rounds.map Round.id).Nodup) {r : Round σ} (hr : r ∈ m.rounds)
    (hmore : (m.fans.turned m.now r).atWork ≠ []) :
    (m.takeTurn r.id).fans = (m.fans.put (m.fans.turned m.now r)).later
        (m.nextOrder + (nextCalls r).length) m.nextId ∧
      (m.takeTurn r.id).control = m.control := by
  unfold takeTurn
  rw [find?_round m hids hr]
  simp only
  set rest : Round σ := { r with turn := none, queued := r.queued.drop (nextCalls r).length }
  obtain ⟨hround, hfans⟩ := makeCalls_spec m rest (nextCalls r)
  have hcontrol : (m.makeCalls rest (nextCalls r)).2.control = m.control :=
    control_makeCalls m rest _
  have hturned : (m.makeCalls rest (nextCalls r)).1 = m.fans.turned m.now r := hround
  have hbusy : (m.fans.turned m.now r).atWork.isEmpty = false := by simpa using hmore
  rw [hturned, hbusy]
  simp only [Bool.false_eq_true, if_false]
  refine ⟨by rw [fans_keep, hfans]; rfl, ?_⟩
  rw [← hcontrol]
  refine control_keep _ ?_ ?_
  · rw [hcontrol, control_round_ids]
    exact hids
  · rw [hcontrol]
    exact List.mem_map.mpr ⟨r, hr, rfl⟩

/-- The fan-out whose turn it is makes calls, or is over. -/
theorem turn_takeTurn (hids : (m.rounds.map Round.id).Nodup) {r : Round σ}
    (hr : r ∈ m.rounds) (hturn : r.turn.isSome) :
    ∃ f', m.fans.Turn f' ∧ ∃ order ≥ f'.nextOrder,
      (m.takeTurn r.id).fans = f'.later order f'.nextId := by
  by_cases hmore : (m.fans.turned m.now r).atWork = []
  · obtain ⟨hqueued, hnone⟩ := Fans.turned_atWork_eq_nil.mp hmore
    obtain ⟨order, horder, hfinish⟩ := fans_finish m { r with turn := none }
    rw [takeTurn_over m hids hr hqueued hnone, hfinish]
    exact ⟨_, .ended (r := r) hr hturn hqueued hnone, order, horder, rfl⟩
  · rw [(takeTurn_more m hids hr hmore).1]
    exact ⟨_, .turned m.now hr hturn hmore, _, Nat.le_refl _, rfl⟩

/--
A call that goes on acts if it had begun; else it begins, and either acts at once or waits for its
delay to pass. That it is the only call with its number is not needed here.
-/
theorem resume_spec (hids : (m.rounds.map Round.id).Nodup) {r : Round σ}
    (hr : r ∈ m.rounds) {call : Call σ} (hcall : call ∈ r.atWork) :
    ∃ found ∈ r.atWork, found.wake.order = call.wake.order ∧
      ((found.begun = true ∧ ∃ turn, (r.turn = some turn ∨ turn.due = m.now) ∧
          ∃ order ≥ m.nextOrder,
          (m.resume r.id call.wake.order).fans = m.fans.acted r found turn order) ∨
        (found.begun = false ∧ ∃ turn, (r.turn = some turn ∨ turn.due = m.now) ∧
          ∃ order ≥ m.nextOrder, (m.resume r.id call.wake.order).fans =
            (m.fans.note (.called r.id found.collector.name r.time)).acted r found turn order) ∨
        (found.begun = false ∧ ∃ due, (m.resume r.id call.wake.order).fans =
          ((m.fans.note (.called r.id found.collector.name r.time)).put
            { Fans.without r found with
              atWork := (Fans.without r found).atWork ++
                [⟨found.collector, true, ⟨due, false, m.nextOrder⟩⟩] }).later (m.nextOrder + 1)
                  m.nextId)) := by
  obtain ⟨found, hfound⟩ : ∃ found,
      (r.atWork.find? fun other => other.wake.order == call.wake.order) = some found :=
    Option.isSome_iff_exists.mp (List.find?_isSome.mpr ⟨call, hcall, by simp⟩)
  have hmem : found ∈ r.atWork := List.mem_of_find?_eq_some hfound
  have horder : found.wake.order = call.wake.order := by simpa using List.find?_some hfound
  have hwithout : ({ r with
      atWork := r.atWork.filter fun other => other.wake.order ≠ call.wake.order } : Round σ) =
        Fans.without r found := by
    rw [Fans.without, horder]
  refine ⟨found, hmem, horder, ?_⟩
  unfold resume
  rw [find?_round m hids hr]
  simp only [hfound, hwithout]
  cases hbegun : found.begun with
  | true =>
    obtain ⟨turn, hturn, order, hle, hround, hfans⟩ :=
      act_spec m (Fans.without r found) found.collector
    simp only [if_true]
    rw [fans_keep, hround, hfans]
    exact .inl ⟨trivial, turn, hturn, order, hle, rfl⟩
  | false =>
    simp only [Bool.false_eq_true, if_false]
    rw [beginCall_eq]
    split
    · set called := m.note (.called r.id found.collector.name r.time)
      have hcalled : called.fans = m.fans.note (.called r.id found.collector.name r.time) :=
        fans_note m _
      obtain ⟨turn, hturn, order, hle, hround, hfans⟩ :=
        act_spec called (Fans.without r found) found.collector
      rw [hcalled] at hfans
      have hacted : ((called.act (Fans.without r found) found.collector).2.keep
          (called.act (Fans.without r found) found.collector).1).fans =
            (m.fans.note (.called r.id found.collector.name r.time)).acted r found turn order := by
        rw [fans_keep, hround, hfans]
        rfl
      exact .inr (.inl ⟨trivial, turn, hturn, order, hle, hacted⟩)
    · exact .inr (.inr ⟨trivial, m.now + found.collector.delay m.world, rfl⟩)

/-- A call goes on: it begins, acts, or both. -/
theorem turn_resume (hids : (m.rounds.map Round.id).Nodup) {r : Round σ}
    (hr : r ∈ m.rounds) {call : Call σ} (hcall : call ∈ r.atWork) :
    m.fans.Turn (m.resume r.id call.wake.order).fans := by
  obtain ⟨found, hmem, -, ⟨hbegun, turn, -, order, hle, hfans⟩ |
    ⟨hbegun, turn, -, order, hle, hfans⟩ | ⟨hbegun, due, hfans⟩⟩ := resume_spec m hids hr hcall
  · rw [hfans]
    exact .acted hr hmem hbegun turn hle
  · rw [hfans]
    exact .calledAtOnce hr hmem hbegun turn hle
  · rw [hfans]
    exact .called hr hmem hbegun due

/-- Whether a job belongs to a fan-out. -/
def Job.isFanned : Job → Bool
  | .loop _ => false
  | .turn _ | .call _ _ => true

/-- A job of a fan-out that is waited for makes the fan-out go on. -/
theorem turn_work (hids : (m.rounds.map Round.id).Nodup) {job : Job} (hjob : job.isFanned = true)
    (hpending : m.pending job = true) :
    ∃ f', m.fans.Turn f' ∧ ∃ order ≥ f'.nextOrder,
      (m.work job).fans = f'.later order f'.nextId := by
  obtain ⟨wake, hwake⟩ := pending_iff.mp hpending
  cases job with
  | loop id => cases hjob
  | turn round =>
    obtain ⟨r, hr, hturn, rfl⟩ := mem_waits_turn.mp hwake
    rw [work_turn]
    exact turn_takeTurn m hids hr (by simp [hturn])
  | call round order =>
    obtain ⟨r, hr, rfl, call, hcall, rfl, rfl⟩ := mem_waits_call.mp hwake
    rw [work_call]
    exact ⟨_, turn_resume m hids hr hcall, _, Nat.le_refl _, rfl⟩

/-! ### Loops -/

theorem steps_of_eq {move : Move σ} {m m' : Machine σ} (h : m'.fans = m.fans) :
    Fans.Steps move m.fans m'.fans := h ▸ .refl

theorem steps_backOff (move : Move σ) (loop : Nat) :
    Fans.Steps move m.fans (m.backOff loop).fans := by
  obtain ⟨order, horder, hfans⟩ := fans_backOff m loop
  rw [hfans]
  exact steps_later m horder

theorem steps_startRound (move : Move σ) (purpose : Purpose) (time : Instant)
    (released : Option Instant) :
    Fans.Steps move m.fans (m.startRound purpose time m.registry released).2.fans := by
  obtain ⟨turn, order, horder, hfans⟩ := startRound_spec m purpose time released
  rw [hfans]
  exact .single (.begun purpose time released turn horder)

theorem steps_beginWaiting (move : Move σ) (loop : Nat) (turn : Wake) :
    Fans.Steps move m.fans (m.beginWaiting loop turn).fans := by
  unfold beginWaiting
  rcases hread : m.readClock with ⟨reading, next⟩
  have hnext : next.fans = m.fans := congrArg (fun read => read.2.fans) hread.symm
  cases reading with
  | none => exact steps_of_eq hnext
  | some now =>
    simp only
    split
    · exact steps_of_eq hnext
    · exact hnext ▸ steps_backOff next move loop

theorem steps_checkBoundary (move : Move σ) (loop : Nat) (turn : Wake) (target : Instant) :
    Fans.Steps move m.fans (m.checkBoundary loop turn target).fans := by
  unfold checkBoundary
  rcases hread : m.readClock with ⟨reading, next⟩
  have hnext : next.fans = m.fans := congrArg (fun read => read.2.fans) hread.symm
  cases reading with
  | none => exact steps_of_eq hnext
  | some now =>
    simp only
    rw [← hnext]
    split
    · exact steps_later next (Nat.le_succ _)
    · split
      · exact steps_startRound (next.setPhase loop (.collecting next.nextId)) move _ _ _
      · split
        · exact .refl
        · exact steps_backOff next move loop

theorem steps_wakeLoop (move : Move σ) (l : Loop) :
    Fans.Steps move m.fans (m.wakeLoop l).fans := by
  unfold wakeLoop
  split
  · exact steps_beginWaiting m move l.id _
  · split
    · exact .refl
    · exact steps_checkBoundary m move l.id _ _
  · split <;> exact .refl
  · exact .refl
  · exact .refl

/-- What waits for its turn takes its steps when it acts. -/
theorem steps_work (move : Move σ) (hids : (m.rounds.map Round.id).Nodup) {job : Job}
    (hpending : m.pending job = true) : Fans.Steps move m.fans (m.work job).fans := by
  cases hjob : job.isFanned with
  | true =>
    obtain ⟨f', hturn, order, horder, hfans⟩ := turn_work m hids hjob hpending
    rw [hfans]
    exact (ReflTransGen.single (.fanned hturn)).tail (.later horder (Nat.le_refl _))
  | false =>
    cases job with
    | loop id =>
      rw [work_loop]
      split
      · exact steps_wakeLoop m move _
      · exact .refl
    | turn round => cases hjob
    | call round order => cases hjob

/-! ### Requests -/

theorem steps_ensureInitialized (move : Move σ) :
    Fans.Steps move m.fans m.ensureInitialized.2.fans := by
  unfold ensureInitialized
  split
  · exact .refl
  · rcases hbuilt : m.factory m.world with ⟨built, world⟩
    have hworld : world = (m.fans.factory m.fans.world).2 := congrArg Prod.snd hbuilt.symm
    have hfailed : Fans.Steps move m.fans { m.fans with world := world } :=
      hworld ▸ .single .failed
    cases built with
    | error causes => exact hfailed
    | ok batch =>
      have hbatch : (m.fans.factory m.fans.world).1 = .ok batch := congrArg Prod.fst hbuilt
      simp only [note]
      -- a batch with a name twice is turned down as a whole
      cases hregister : Registry.registerAll m.registry batch with
      | error e => exact hfailed
      | ok registry =>
        obtain rfl := Registry.eq_of_registerAll hregister
        subst hworld
        exact .single (.built hbatch hregister)

theorem steps_start (move : Move σ) : Fans.Steps move m.fans m.start.2.fans := by
  have hready := steps_ensureInitialized (m.setState .starting) move
  unfold start
  split
  · exact .refl
  · rcases hinit : (m.setState .starting).ensureInitialized with ⟨answer, ready⟩
    rw [hinit] at hready
    cases answer with
    | error e => exact hready
    | ok report => exact hready.tail (.later (Nat.le_succ _) (Nat.le_succ _))

theorem steps_trigger (move : Move σ) (time : Option Instant) :
    Fans.Steps move m.fans (m.trigger time).2.fans := by
  have hready := steps_ensureInitialized m move
  unfold trigger
  rcases hinit : m.ensureInitialized with ⟨answer, ready⟩
  rw [hinit] at hready
  cases answer with
  | error e => exact hready
  | ok report =>
    cases time with
    | some time => exact hready.trans (steps_startRound ready move .manual _ none)
    | none =>
      rcases hread : ready.readClock with ⟨reading, next⟩
      have hnext : next.fans = ready.fans := congrArg (fun read => read.2.fans) hread.symm
      simp only [hread]
      cases reading with
      | none => exact hready.trans (steps_of_eq hnext)
      | some now =>
        rw [← hnext] at hready
        exact hready.trans (steps_startRound next move .manual _ none)

theorem fans_requestStop : m.requestStop.2.fans = m.fans := by
  unfold requestStop sendShutdown
  split
  · rfl
  · simp only
    split <;> rfl

theorem steps_register (c : Registered σ) :
    Fans.Steps (.register c) m.fans (m.register c).2.fans := by
  unfold register
  split
  · exact .refl
  · next registry hregister =>
    obtain rfl := Registry.eq_of_registerAll hregister
    exact .single (.registered c rfl hregister)

/-- Every move takes some of the steps, one after the other. -/
theorem fans_after (hids : (m.rounds.map Round.id).Nodup) (move : Move σ) :
    Fans.Steps move m.fans (m.after move).fans := by
  cases move with
  | elapse limit => exact .refl
  | work job =>
    rw [after_work]
    split
    · next hpending => exact steps_work m _ hids hpending
    · exact .refl
  | setClock clock => exact .refl
  | change g => exact .single (.changed g rfl)
  | prepare => exact steps_ensureInitialized m _
  | register c => exact steps_register m c
  | start =>
    rw [after_start]
    split
    · exact .refl
    · exact steps_start m _
  | requestStop =>
    rw [after_requestStop]
    split
    · exact .refl
    · exact steps_of_eq (fans_requestStop m)
  | finishStop =>
    rw [after_finishStop]
    split <;> exact .refl
  | trigger time => exact steps_trigger m _ time
  | runAll time => exact steps_startRound m _ .direct time none
  | runAlone c time => exact .single (.ranAlone c time rfl)

end

end Machine

end HourlySnapshots
