import HourlySnapshots.Proofs.Scheduler.Calls

/-!
# One fan-out among others

What a move makes of a fan-out under way. A move that is not for it leaves it as it is, whatever
else there is in the machine; `Round.Goes` says once what its own moves make of it, of its calls and
of the world, and `round_after` that nothing else can happen to it.
-/

namespace HourlySnapshots

variable {σ : Type}

/-! ## Fan-outs that are left alone -/

/-- Whether a move lets the fan-out with an id go on: a job of it that is waited for. -/
def Machine.goesOn (m : Machine σ) (id : Nat) : Move σ → Bool
  | .work job => job.isOf id && m.pending job
  | _ => false

theorem Machine.exists_of_goesOn {m : Machine σ} {id : Nat} {move : Move σ}
    (h : m.goesOn id move = true) : ∃ r ∈ m.rounds, r.id = id := by
  cases move with
  | work job =>
    obtain ⟨hof, hpending⟩ := Bool.and_eq_true_iff.mp h
    obtain ⟨wake, hwake⟩ := pending_iff.mp hpending
    cases job with
    | loop => cases hof
    | turn round =>
      obtain ⟨r, hr, -, rfl⟩ := mem_waits_turn.mp hwake
      exact ⟨r, hr, beq_iff_eq.mp hof⟩
    | call round order =>
      obtain ⟨r, hr, rfl, -⟩ := mem_waits_call.mp hwake
      exact ⟨r, hr, beq_iff_eq.mp hof⟩
  | _ => cases h

namespace Round

/-- The fan-out after one of its calls has begun to wait for its delay to pass. -/
def holding (r : Round σ) (call : Call σ) (due order : Nat) : Round σ :=
  { Fans.without r call with
    atWork := (Fans.without r call).atWork ++ [⟨call.collector, true, ⟨due, false, order⟩⟩] }

/-- The fan-out after one of its calls has acted in a world, and asked for a turn. -/
def settling (r : Round σ) (call : Call σ) (world : σ) (turn : Wake) : Round σ :=
  { Fans.without r call with
    outcomes := r.outcomes ++
      [(call.collector.name, (call.collector.act r.time world).1.getD false)]
    turn := some turn }

end Round

namespace Fans

theorem mem_put_of_ne {f : Fans σ} {r other : Round σ} (hother : other ∈ f.rounds)
    (hne : other.id ≠ r.id) : other ∈ (f.put r).rounds :=
  List.mem_map.mpr ⟨other, hother, if_neg hne⟩

theorem mem_put_cases {f : Fans σ} {r other : Round σ} (h : other ∈ (f.put r).rounds) :
    other = r ∨ (other ∈ f.rounds ∧ other.id ≠ r.id) := by
  obtain ⟨before, hbefore, rfl⟩ := List.mem_map.mp h
  split
  · exact .inl rfl
  · next hne => exact .inr ⟨hbefore, hne⟩

theorem mem_put_self {f : Fans σ} {r r' : Round σ} (hr : r ∈ f.rounds) (hid : r.id = r'.id) :
    r' ∈ (f.put r').rounds :=
  List.mem_map.mpr ⟨r, hr, if_pos hid⟩

theorem Turn.exists_of_mem {f f' : Fans σ} (hturn : Turn f f') {r : Round σ}
    (hr : r ∈ f'.rounds) : ∃ r₀ ∈ f.rounds, r₀.id = r.id := by
  have hput {r₀ : Round σ} (r' : Round σ) (hr₀ : r₀ ∈ f.rounds) (hid : r₀.id = r'.id)
      (hmem : r ∈ (f.put r').rounds) : ∃ r₀ ∈ f.rounds, r₀.id = r.id := by
    rcases mem_put hmem with rfl | hold
    · exact ⟨r₀, hr₀, hid⟩
    · exact ⟨r, hold, rfl⟩
  cases hturn with
  | turned now hr₀ hturn hmore => exact hput (f.turned now _) hr₀ rfl hr
  | ended hr₀ hturn hqueued hnone => exact ⟨r, List.mem_of_mem_filter hr, rfl⟩
  | acted hr₀ hcall hbegun turn horder | calledAtOnce hr₀ hcall hbegun turn horder =>
    exact hput (Round.settling _ _ f.world turn) hr₀ rfl hr
  | called hr₀ hcall hbegun due =>
    exact hput (Round.holding _ _ due f.nextOrder) hr₀ rfl hr

end Fans

/-- A fan-out that has just begun has all the collectors in its queue. -/
structure Round.Fresh (r : Round σ) (registry : Registry σ) : Prop where
  queued : r.queued = registry
  atWork : r.atWork = []
  outcomes : r.outcomes = []

namespace Machine

/-- All fan-outs are as they were, but for one that may have begun. -/
def MayBegin (m m' : Machine σ) : Prop :=
  m'.rounds = m.rounds ∨ ∃ r : Round σ, m'.rounds = m.rounds ++ [r] ∧ r.Fresh m'.registry

section

variable (m : Machine σ)

theorem mayBegin_startRound (purpose : Purpose) (time : Instant) (released : Option Instant) :
    m.MayBegin (m.startRound purpose time m.registry released).2 :=
  .inr ⟨_, rfl, rfl, rfl, rfl⟩

theorem rounds_backOff (loop : Nat) : (m.backOff loop).rounds = m.rounds := by
  obtain ⟨order, -, hfans⟩ := fans_backOff m loop
  exact congrArg Fans.rounds hfans

/-- A loop that acts begins a fan-out at most. -/
theorem mayBegin_wakeLoop (l : Loop) : m.MayBegin (m.wakeLoop l) := by
  have hwaiting (turn : Wake) : (m.beginWaiting l.id turn).rounds = m.rounds := by
    unfold beginWaiting
    rcases hread : m.readClock with ⟨reading, next⟩
    have hnext : next.rounds = m.rounds := congrArg (fun read => read.2.rounds) hread.symm
    cases reading with
    | none => exact hnext
    | some now =>
      simp only
      split
      · exact hnext
      · exact (rounds_backOff next l.id).trans hnext
  have hchecked (turn : Wake) (target : Instant) :
      m.MayBegin (m.checkBoundary l.id turn target) := by
    unfold checkBoundary
    rcases hread : m.readClock with ⟨reading, next⟩
    have hnext : next.rounds = m.rounds := congrArg (fun read => read.2.rounds) hread.symm
    cases reading with
    | none => exact .inl hnext
    | some now =>
      simp only
      split
      · exact .inl hnext
      · split
        · unfold MayBegin
          rw [← hnext]
          exact mayBegin_startRound (next.setPhase l.id (.collecting next.nextId)) _ _ _
        · split
          · exact .inl hnext
          · exact .inl ((rounds_backOff next l.id).trans hnext)
  unfold wakeLoop
  split
  · exact .inl (hwaiting _)
  · split
    · exact .inl rfl
    · exact hchecked _ _
  · split <;> exact .inl rfl
  · exact .inl rfl
  · exact .inl rfl

theorem rounds_ensureInitialized : m.ensureInitialized.2.rounds = m.rounds := by
  unfold ensureInitialized
  split
  · rfl
  · simp only
    split
    · rfl
    · split <;> rfl

theorem rounds_start : m.start.2.rounds = m.rounds := by
  have hready := rounds_ensureInitialized (m.setState .starting)
  unfold start
  split
  · rfl
  · rcases hinit : (m.setState .starting).ensureInitialized with ⟨answer, ready⟩
    rw [hinit] at hready
    cases answer <;> exact hready

theorem mayBegin_trigger (time : Option Instant) : m.MayBegin (m.trigger time).2 := by
  have hready := rounds_ensureInitialized m
  unfold trigger
  rcases hinit : m.ensureInitialized with ⟨answer, ready⟩
  rw [hinit] at hready
  unfold MayBegin
  rw [← hready]
  cases answer with
  | error e => exact .inl rfl
  | ok report =>
    cases time with
    | some time => exact mayBegin_startRound ready _ _ _
    | none =>
      rcases hread : ready.readClock with ⟨reading, next⟩
      have hnext : next.rounds = ready.rounds := congrArg (fun read => read.2.rounds) hread.symm
      simp only [hread]
      rw [← hnext]
      cases reading with
      | none => exact .inl rfl
      | some now => exact mayBegin_startRound next _ _ _

/-- What is asked of a machine begins a fan-out at most; so does time, and so does a loop. -/
theorem mayBegin_after {move : Move σ}
    (hmove : ∀ job, move = .work job → job.isFanned = false) : m.MayBegin (m.after move) := by
  cases move with
  | elapse | setClock | change | runAlone => exact .inl rfl
  | work job =>
    rw [after_work]
    split
    · cases job with
      | loop id =>
        rw [work_loop]
        split
        · exact mayBegin_wakeLoop m _
        · exact .inl rfl
      | turn round => exact absurd (hmove _ rfl) (by simp [Job.isFanned])
      | call round order => exact absurd (hmove _ rfl) (by simp [Job.isFanned])
    · exact .inl rfl
  | prepare => exact .inl (rounds_ensureInitialized m)
  | register c =>
    show m.MayBegin (m.register c).2
    unfold register
    split <;> exact .inl rfl
  | start =>
    rw [after_start]
    split
    · exact .inl rfl
    · exact .inl (rounds_start m)
  | requestStop =>
    rw [after_requestStop]
    split
    · exact .inl rfl
    · exact .inl (congrArg Fans.rounds (fans_requestStop m))
  | finishStop =>
    rw [after_finishStop]
    split <;> exact .inl rfl
  | trigger time => exact mayBegin_trigger m time
  | runAll time => exact mayBegin_startRound m _ _ _

theorem MayBegin.mem {m m' : Machine σ} (h : m.MayBegin m') {r : Round σ} (hr : r ∈ m.rounds) :
    r ∈ m'.rounds := by
  rcases h with hsame | ⟨other, hrounds, -⟩
  · exact hsame ▸ hr
  · exact hrounds ▸ List.mem_append_left _ hr

end

end Machine

/-! ## What becomes of a fan-out -/

/-- One item is taken out of a list by what tells it from all others. -/
theorem perm_cons_filter {α β : Type} [DecidableEq β] {key : α → β} {xs : List α}
    (hkeys : (xs.map key).Nodup) {x : α} (hx : x ∈ xs) :
    xs.Perm (x :: xs.filter fun other => key other ≠ key x) := by
  induction xs with
  | nil => cases hx
  | cons y rest ih =>
    rw [List.map_cons, List.nodup_cons] at hkeys
    by_cases hsame : key y = key x
    · -- the first item is the one, as no other has its key
      have hnot : ∀ other ∈ rest, key other ≠ key x := fun other hother heq =>
        hkeys.1 (hsame ▸ heq ▸ List.mem_map_of_mem hother)
      have hrest : x ∉ rest := fun hmem => hnot x hmem rfl
      obtain rfl : x = y := (List.mem_cons.mp hx).resolve_right hrest
      rw [List.filter_cons_of_neg (by simp), List.filter_eq_self.mpr (by simpa using hnot)]
    · have hrest : x ∈ rest := (List.mem_cons.mp hx).resolve_left fun heq => hsame (heq ▸ rfl)
      rw [List.filter_cons_of_pos (by simpa using hsame)]
      exact ((ih hkeys.2 hrest).cons y).trans (.swap x y _)

namespace Round

/-- The collectors whose calls are not over yet. -/
def remaining (r : Round σ) : List (Registered σ) := r.atWork.map Call.collector ++ r.queued

/--
What a fan-out and the world become when the fan-out goes on and is not over: it makes the calls it
can make, one of its calls begins to wait, or one acts.
-/
inductive Goes (r : Round σ) (now : Nat) (world : σ) : Round σ → σ → Prop where
  | turned (f : Fans σ) (hturn : r.turn.isSome) : Goes r now world (f.turned now r) world
  | called {call : Call σ} (hcall : call ∈ r.atWork) (hbegun : call.begun = false)
      (due order : Nat) : Goes r now world (r.holding call due order) world
  /-- The next turn is at once, unless there is to be one already. -/
  | acted {call : Call σ} (hcall : call ∈ r.atWork) (turn : Wake)
      (hturn : r.turn = some turn ∨ turn.due = now) :
      Goes r now world (r.settling call world turn) (call.collector.act r.time world).2

variable {r r' : Round σ} {now order : Nat} {world world' : σ}

/-- A fan-out stays the same but for its calls. -/
theorem Goes.info (h : r.Goes now world r' world') : r'.info = r.info := by
  cases h <;> rfl

theorem Goes.id (h : r.Goes now world r' world') : r'.id = r.id := congrArg RoundInfo.id h.info

/-- Going on leaves less to do. -/
theorem Goes.left_lt (h : r.Goes now world r' world') : r'.left < r.left := by
  cases h with
  | turned f hturn => exact Fans.left_turned_lt now hturn
  | called hcall hbegun due order => exact Fans.left_held_lt hcall hbegun _
  | acted hcall turn hturn => exact Fans.left_settled_lt hcall turn _

theorem remaining_without (hr : r.UnderWay order) {call : Call σ} (hcall : call ∈ r.atWork) :
    r.remaining.Perm (call.collector :: (Fans.without r call).remaining) :=
  ((perm_cons_filter hr.orders hcall).map Call.collector).append_right r.queued

/--
Going on, a fan-out has the same collectors left as before, or one of them less: the one that has
acted, whose outcome is noted under its name.
-/
theorem Goes.calls (hr : r.UnderWay order) (h : r.Goes now world r' world') :
    (r.remaining.Perm r'.remaining ∧ r'.outcomes = r.outcomes ∧ world' = world) ∨
      ∃ c, r.remaining.Perm (c :: r'.remaining) ∧
        r'.outcomes = r.outcomes ++ [(c.name, (c.act r.time world).1.getD false)] ∧
        world' = (c.act r.time world).2 := by
  cases h with
  | turned f hturn =>
    refine .inl ⟨.of_eq ?_, rfl, rfl⟩
    simp only [remaining, Fans.turned, List.map_append, Fans.map_collector_callsOf,
      List.append_assoc, Fans.nextCalls_append_drop]
  | @called call hcall hbegun due order =>
    refine .inl ⟨(remaining_without hr hcall).trans ?_, rfl, rfl⟩
    have hheld : (r.holding call due order).remaining =
        (Fans.without r call).atWork.map Call.collector ++ call.collector :: r.queued := by
      simp [remaining, holding, Fans.without]
    rw [hheld]
    exact List.perm_middle.symm
  | @acted call hcall turn hturn =>
    exact .inr ⟨call.collector, remaining_without hr hcall, rfl, rfl⟩

end Round

namespace Machine

variable {m : Machine σ}

theorem world_finish (m : Machine σ) (r : Round σ) : (m.finish r).world = m.world := by
  obtain ⟨order, -, hfans⟩ := fans_finish m r
  exact congrArg Fans.world hfans

theorem rounds_finish (m : Machine σ) (r : Round σ) :
    (m.finish r).rounds = m.rounds.filter fun other => other.id ≠ r.id := by
  obtain ⟨order, -, hfans⟩ := fans_finish m r
  exact congrArg Fans.rounds hfans

/-- The turn of a fan-out. -/
theorem round_takeTurn (hm : m.fans.WellFormed) {r : Round σ} (hr : r ∈ m.rounds)
    (hturn : r.turn.isSome) :
    (∃ r', r.Goes m.now m.world r' (m.takeTurn r.id).world ∧
        (m.takeTurn r.id).rounds = (m.fans.put r').rounds) ∨
      (r.queued = [] ∧ r.atWork = [] ∧ m.takeTurn r.id = m.finish { r with turn := none }) := by
  by_cases hmore : (m.fans.turned m.now r).atWork = []
  · obtain ⟨hqueued, hnone⟩ := Fans.turned_atWork_eq_nil.mp hmore
    exact .inr ⟨hqueued, hnone, takeTurn_over m hm.ids hr hqueued hnone⟩
  · have hfans := (takeTurn_more m hm.ids hr hmore).1
    have hworld : (m.takeTurn r.id).world = m.world := congrArg Fans.world hfans
    rw [hworld]
    exact .inl ⟨_, .turned m.fans hturn, congrArg Fans.rounds hfans⟩

/-- A call of a fan-out goes on. -/
theorem round_resume (hm : m.fans.WellFormed) {r : Round σ} (hr : r ∈ m.rounds) {call : Call σ}
    (hcall : call ∈ r.atWork) :
    ∃ r', r.Goes m.now m.world r' (m.resume r.id call.wake.order).world ∧
      (m.resume r.id call.wake.order).rounds = (m.fans.put r').rounds := by
  obtain ⟨found, hmem, -, ⟨-, turn, hturn, order, -, hfans⟩ | ⟨-, turn, hturn, order, -, hfans⟩ |
    ⟨hbegun, due, hfans⟩⟩ := resume_spec m hm.ids hr hcall
  · have hworld : (m.resume r.id call.wake.order).world = _ := congrArg Fans.world hfans
    refine ⟨r.settling found m.world turn, ?_, congrArg Fans.rounds hfans⟩
    rw [hworld]
    exact .acted hmem turn hturn
  · have hworld : (m.resume r.id call.wake.order).world = _ := congrArg Fans.world hfans
    refine ⟨r.settling found m.world turn, ?_, congrArg Fans.rounds hfans⟩
    rw [hworld]
    exact .acted hmem turn hturn
  · have hworld : (m.resume r.id call.wake.order).world = _ := congrArg Fans.world hfans
    refine ⟨r.holding found due m.nextOrder, ?_, congrArg Fans.rounds hfans⟩
    rw [hworld]
    exact .called hmem hbegun due m.nextOrder

/--
What a move makes of a fan-out under way: nothing, or one of the things that it does when it goes
on.
-/
theorem round_after (hm : m.fans.WellFormed) {r : Round σ} (hr : r ∈ m.rounds) (move : Move σ) :
    (r ∈ (m.after move).rounds ∧ m.goesOn r.id move = false) ∨
      (∃ r' ∈ (m.after move).rounds,
        r.Goes m.now m.world r' (m.after move).world) ∨
      (r.queued = [] ∧ r.atWork = [] ∧ move = .work (.turn r.id) ∧
        m.after move = m.finish { r with turn := none }) := by
  by_cases hfanned : ∀ job, move = .work job → job.isFanned = false
  · refine .inl ⟨(mayBegin_after m hfanned).mem hr, ?_⟩
    cases move with
    | work job =>
      have hnot := hfanned job rfl
      cases job with
      | loop => rfl
      | turn | call => cases hnot
    | _ => rfl
  · obtain ⟨job, rfl, hjob⟩ : ∃ job, move = .work job ∧ job.isFanned = true := by
      simpa using hfanned
    rw [after_work]
    by_cases hpending : m.pending job = true
    · rw [if_pos hpending]
      obtain ⟨wake, hwake⟩ := pending_iff.mp hpending
      -- a job of another fan-out takes it away or puts it back, and leaves this one
      have hother {r₂ r' : Round σ} (hgoes : r'.id = r₂.id) (hne : r.id ≠ r₂.id) :
          r ∈ (m.fans.put r').rounds := Fans.mem_put_of_ne hr (by rwa [hgoes])
      cases job with
      | loop id => cases hjob
      | turn round =>
        obtain ⟨r₂, hr₂, hturn, rfl⟩ := mem_waits_turn.mp hwake
        have hsome : r₂.turn.isSome := Option.isSome_iff_exists.mpr ⟨wake, hturn⟩
        rw [work_turn]
        by_cases hsame : r.id = r₂.id
        · obtain rfl := List.inj_on_of_nodup_map hm.ids hr hr₂ hsame
          rcases round_takeTurn hm hr hsome with ⟨r', hgoes, hrounds⟩ | ⟨hqueued, hnone, hover⟩
          · rw [hrounds]
            exact .inr (.inl ⟨r', Fans.mem_put_self hr hgoes.id.symm, hgoes⟩)
          · exact .inr (.inr ⟨hqueued, hnone, rfl, hover⟩)
        · refine .inl ⟨?_, by simp [goesOn, Job.isOf, Ne.symm hsame]⟩
          rcases round_takeTurn hm hr₂ hsome with ⟨r', hgoes, hrounds⟩ | ⟨-, -, hover⟩
          · rw [hrounds]
            exact hother hgoes.id hsame
          · rw [hover, rounds_finish]
            exact List.mem_filter.mpr ⟨hr, by simpa using hsame⟩
      | call round order =>
        obtain ⟨r₂, hr₂, rfl, call, hcall, rfl, rfl⟩ := mem_waits_call.mp hwake
        obtain ⟨r', hgoes, hrounds⟩ := round_resume hm hr₂ hcall
        rw [work_call, hrounds]
        by_cases hsame : r.id = r₂.id
        · obtain rfl := List.inj_on_of_nodup_map hm.ids hr hr₂ hsame
          exact .inr (.inl ⟨r', Fans.mem_put_self hr hgoes.id.symm, hgoes⟩)
        · exact .inl ⟨hother hgoes.id hsame, by simp [goesOn, Job.isOf, Ne.symm hsame]⟩
    · rw [if_neg hpending]
      exact .inl ⟨hr, by simp [goesOn, hpending]⟩

/-- A fan-out after a move was there before, or has just begun over all registered collectors. -/
theorem fresh_after (hm : m.fans.WellFormed) {r : Round σ} {move : Move σ}
    (hr : r ∈ (m.after move).rounds) :
    (∃ r₀ ∈ m.rounds, r₀.id = r.id) ∨ r.Fresh (m.after move).registry := by
  by_cases hfanned : ∀ job, move = .work job → job.isFanned = false
  · rcases mayBegin_after m hfanned with hsame | ⟨other, hrounds, hfresh⟩
    · exact .inl ⟨r, hsame ▸ hr, rfl⟩
    · rw [hrounds] at hr
      rcases List.mem_append.mp hr with hold | hnew
      · exact .inl ⟨r, hold, rfl⟩
      · rw [List.mem_singleton.mp hnew]
        exact .inr hfresh
  · obtain ⟨job, rfl, hjob⟩ : ∃ job, move = .work job ∧ job.isFanned = true := by
      simpa using hfanned
    rw [after_work] at hr
    split at hr
    · next hpending =>
      -- a job of a fan-out begins no other
      obtain ⟨f', hturn, order, -, hfans⟩ := turn_work m hm.ids hjob hpending
      have hrounds : (m.work job).rounds = f'.rounds := congrArg Fans.rounds hfans
      rw [hrounds] at hr
      exact .inl (hturn.exists_of_mem hr)
    · exact .inl ⟨r, hr, rfl⟩

end Machine

end HourlySnapshots
