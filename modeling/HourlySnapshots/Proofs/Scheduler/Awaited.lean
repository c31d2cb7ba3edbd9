import HourlySnapshots.Proofs.Scheduler.Driving
import HourlySnapshots.Proofs.Scheduler.Entries

/-!
# Waiting for a fan-out

A caller who waits for a fan-out while nothing else waits gets to its end. Each of his rests goes
past all that the fan-out waits for when it begins, so what it waits for after a rest is delays that
have begun since; each rest but the first sees such a delay pass, and with it the end of a call. So
one rest more than there are collectors is enough.
-/

namespace HourlySnapshots

variable {σ : Type}

namespace Round

/-- A fan-out waits for no longer than now, except for delays. -/
structure Prompt (r : Round σ) (now : Nat) : Prop where
  turn : ∀ wake, r.turn = some wake → wake.due ≤ now
  calls : ∀ call ∈ r.atWork, call.begun = false → call.wake.due ≤ now

/-- A fan-out waits for nothing but delays. -/
structure Delayed (r : Round σ) : Prop where
  turn : r.turn = none
  calls : ∀ call ∈ r.atWork, call.begun = true

variable {r r' : Round σ} {now later order : Nat} {world world' : σ}

theorem Prompt.mono (h : r.Prompt now) (hle : now ≤ later) : r.Prompt later :=
  ⟨fun wake hwake => Nat.le_trans (h.turn wake hwake) hle,
    fun call hcall hbegun => Nat.le_trans (h.calls call hcall hbegun) hle⟩

theorem due_of_mem_callsOf {call : Call σ} {calls : List (Registered σ)}
    (h : call ∈ Fans.callsOf now order calls) : call.wake.due = now := by
  induction calls generalizing order with
  | nil => cases h
  | cons c rest ih =>
    rcases List.mem_cons.mp h with rfl | h
    · rfl
    · exact ih h

/-- What a fan-out asks for when it goes on is to be at once, but for delays. -/
theorem Goes.prompt (h : r.Goes now world r' world') (hprompt : r.Prompt now) : r'.Prompt now := by
  have hwithout (call : Call σ) : ∀ other ∈ (Fans.without r call).atWork, other.begun = false →
      other.wake.due ≤ now :=
    fun other hother => hprompt.calls other (List.mem_of_mem_filter hother)
  cases h with
  | turned f hturn =>
    refine ⟨fun wake hwake => (nomatch hwake), fun call hcall hbegun => ?_⟩
    rcases List.mem_append.mp hcall with hold | hnew
    · exact hprompt.calls call hold hbegun
    · exact Nat.le_of_eq (due_of_mem_callsOf hnew)
  | @called call hcall hbegun due order =>
    refine ⟨hprompt.turn, fun other hother hnot => ?_⟩
    rcases List.mem_append.mp hother with hold | hnew
    · exact hwithout call other hold hnot
    · rw [List.mem_singleton.mp hnew] at hnot
      cases hnot
  | @acted call hcall turn hturn =>
    refine ⟨fun wake hwake => ?_, hwithout call⟩
    obtain rfl := Option.some.inj hwake
    rcases hturn with hold | hnew
    · exact hprompt.turn turn hold
    · exact Nat.le_of_eq hnew

/-- The collectors that are left become no more when a fan-out goes on. -/
theorem Goes.remaining_le (h : r.Goes now world r' world') (hr : r.UnderWay order) :
    r'.remaining.length ≤ r.remaining.length := by
  rcases h.calls hr with ⟨hremaining, -⟩ | ⟨c, hremaining, -⟩
  · exact Nat.le_of_eq hremaining.length_eq.symm
  · rw [hremaining.length_eq]
    exact Nat.le_succ _

/-- Where there are only delays, a fan-out goes on with the end of a call. -/
theorem Goes.remaining_lt (h : r.Goes now world r' world') (hr : r.UnderWay order)
    (hdelayed : r.Delayed) : r'.remaining.length < r.remaining.length := by
  cases h with
  | turned f hturn =>
    rw [hdelayed.turn] at hturn
    cases hturn
  | called hcall hbegun =>
    rw [hdelayed.calls _ hcall] at hbegun
    cases hbegun
  | @acted call hcall turn hturn =>
    rw [(remaining_without hr hcall).length_eq]
    exact Nat.lt_succ_self _

theorem Delayed.remaining_pos (h : r.Delayed) (hr : r.UnderWay order) :
    0 < r.remaining.length := by
  have hwaits : r.atWork ≠ [] := hr.waits.resolve_left (by simp [h.turn])
  have hpos := List.length_pos_iff.mpr hwaits
  rw [remaining, List.length_append, List.length_map]
  omega

theorem left_pos (hr : r.UnderWay order) : 0 < r.left := by
  unfold left
  rcases hr.waits with hturn | hcalls
  · simp [hturn]
  · obtain ⟨call, rest, hatWork⟩ := List.exists_cons_of_ne_nil hcalls
    have hpos : 0 < call.left := by
      unfold Call.left
      split <;> decide
    rw [hatWork, List.map_cons, List.sum_cons]
    omega

/-- No more is left of a fan-out than the moves that are allowed for. -/
theorem left_le_movesOf (r : Round σ) : r.left ≤ Machine.movesOf r := by
  have hcalls (calls : List (Call σ)) : (calls.map Call.left).sum ≤ 3 * calls.length := by
    induction calls with
    | nil => exact Nat.le_refl _
    | cons call rest ih =>
      have hone : call.left ≤ 3 := by
        unfold Call.left
        split <;> decide
      rw [List.map_cons, List.sum_cons, List.length_cons]
      omega
  have hatWork := hcalls r.atWork
  unfold left Machine.movesOf
  split <;> omega

end Round

namespace Machine

variable {m : Machine σ} {r : Round σ}

/-! ## The only fan-out -/

/-- Nothing waits but one fan-out, and it is none of a loop. -/
structure WaitsFor (m : Machine σ) (r : Round σ) : Prop where
  reachable : m.Reachable
  mem : r ∈ m.rounds
  only : ∀ other ∈ m.rounds, other.id = r.id
  loops : ∀ l ∈ m.loops, wakeOf? l = none
  purpose : ∀ loop, r.purpose ≠ .automatic loop
  prompt : r.Prompt m.now

theorem WaitsFor.eq_of_mem (h : m.WaitsFor r) {other : Round σ} (hother : other ∈ m.rounds) :
    other = r :=
  List.inj_on_of_nodup_map h.reachable.wellFormed.ids hother h.mem (h.only other hother)

theorem WaitsFor.underWay (h : m.WaitsFor r) : r.UnderWay m.nextOrder :=
  h.reachable.wellFormed.underWay r h.mem

/-- All that waits is of the fan-out. -/
theorem WaitsFor.isOf (h : m.WaitsFor r) {wake : Wake} {job : Job} (hwait : (wake, job) ∈ m.waits) :
    (wake, job) ∈ waitsOf r ∧ job.isOf r.id = true := by
  have hloop : ∀ id, job ≠ .loop id := by
    rintro id rfl
    obtain ⟨l, hl, hwake, -⟩ := mem_waits_loop.mp hwait
    rw [h.loops l hl] at hwake
    cases hwake
  cases job with
  | loop id => exact absurd rfl (hloop id)
  | turn round =>
    obtain ⟨other, hother, hturn, rfl⟩ := mem_waits_turn.mp hwait
    obtain rfl := h.eq_of_mem hother
    exact ⟨by simp [waitsOf, hturn], beq_self_eq_true _⟩
  | call round order =>
    obtain ⟨other, hother, rfl, call, hcall, rfl, rfl⟩ := mem_waits_call.mp hwait
    obtain rfl := h.eq_of_mem hother
    exact ⟨by simpa [waitsOf] using ⟨call, hcall, rfl, rfl⟩, beq_self_eq_true _⟩

theorem WaitsFor.later (h : m.WaitsFor r) {now : Nat} (hle : m.now ≤ now)
    (hreachable : ({ m with now := now } : Machine σ).Reachable) :
    ({ m with now := now } : Machine σ).WaitsFor r :=
  ⟨hreachable, h.mem, h.only, h.loops, h.purpose, h.prompt.mono hle⟩

/-- The end of a fan-out that is none of a loop leaves all loops as they are. -/
theorem loops_finish_of_caller (r : Round σ) (hpurpose : ∀ loop, r.purpose ≠ .automatic loop) :
    (m.finish r).loops = m.loops := by
  refine (congrArg Control.loops (control_finish m r)).trans ?_
  unfold Control.finish
  cases hcaller : r.info.purpose with
  | automatic loop => exact absurd hcaller (hpurpose loop)
  | direct | manual => rfl

theorem WaitsFor.loops_work (h : m.WaitsFor r) {job : Job} (hpending : m.pending job = true) :
    (m.work job).loops = m.loops := by
  obtain ⟨wake, hwait⟩ := pending_iff.mp hpending
  obtain ⟨-, hof⟩ := h.isOf hwait
  have hids := h.reachable.wellFormed.ids
  cases job with
  | loop id => cases hof
  | turn round =>
    obtain rfl := beq_iff_eq.mp hof
    rw [work_turn]
    by_cases hmore : (m.fans.turned m.now r).atWork = []
    · obtain ⟨hqueued, hnone⟩ := Fans.turned_atWork_eq_nil.mp hmore
      rw [takeTurn_over m hids h.mem hqueued hnone]
      exact loops_finish_of_caller _ h.purpose
    · exact congrArg Control.loops (takeTurn_more m hids h.mem hmore).2
  | call round order =>
    rw [work_call]
    exact congrArg Control.loops (control_resume m h.reachable.coherent.round_ids round order)

/-- What waits, does: the fan-out goes on, or it is over and nothing waits any more. -/
theorem WaitsFor.work (h : m.WaitsFor r) {job : Job} (hpending : m.pending job = true) :
    (∃ r', (m.work job).WaitsFor r' ∧ r.Goes m.now m.world r' (m.work job).world) ∨
      ((m.work job).waits = [] ∧ (m.work job).roundOver r.id = true) := by
  obtain ⟨wake, hwait⟩ := pending_iff.mp hpending
  obtain ⟨-, hof⟩ := h.isOf hwait
  have hwork : m.after (.work job) = m.work job := by rw [after_work, if_pos hpending]
  have hreachable : (m.work job).Reachable := hwork ▸ h.reachable.after _
  have hloops : ∀ l ∈ (m.work job).loops, wakeOf? l = none := by
    rw [h.loops_work hpending]
    exact h.loops
  -- no fan-out begins
  have hold : ∀ other ∈ (m.work job).rounds, other.id = r.id := by
    intro other hother
    obtain ⟨f', hturn, order, -, hfans⟩ :=
      turn_work m h.reachable.wellFormed.ids (Job.isFanned_of_isOf hof) hpending
    have hrounds : (m.work job).rounds = f'.rounds := congrArg Fans.rounds hfans
    obtain ⟨before, hbefore, hid⟩ := hturn.exists_of_mem (hrounds ▸ hother)
    rw [← hid]
    exact h.only before hbefore
  rcases round_after h.reachable.wellFormed h.mem (.work job) with
    ⟨-, hnot⟩ | ⟨r', hr', hgoes⟩ | ⟨-, -, -, hfinished⟩
  · simp [goesOn, hof, hpending] at hnot
  · rw [hwork] at hr' hgoes
    have hnow : (m.work job).now = m.now := now_work h.reachable.coherent job
    have hpurpose : r'.purpose = r.purpose := congrArg RoundInfo.purpose hgoes.info
    refine .inl ⟨r', ⟨hreachable, hr', fun other hother => ?_, hloops, ?_, ?_⟩, hgoes⟩
    · rw [hgoes.id]
      exact hold other hother
    · rw [hpurpose]
      exact h.purpose
    · rw [hnow]
      exact hgoes.prompt h.prompt
  · rw [hwork] at hfinished
    have hrounds : (m.work job).rounds = [] := by
      rw [hfinished, rounds_finish]
      exact List.filter_eq_nil_iff.mpr fun other hother => by simp [h.only other hother]
    refine .inr ⟨?_, by simp [roundOver, hrounds]⟩
    rw [waits, hrounds, List.flatMap_nil, List.append_nil, List.filterMap_eq_nil_iff]
    intro l hl
    rw [hloops l hl]
    rfl

/-! ## One rest -/

theorem passUntil_of_done {done : Machine σ → Bool} (hdone : done m = true) (limit fuel : Nat) :
    passUntil done limit fuel m = m := by
  cases fuel with
  | zero => rfl
  | succ fuel => rw [passUntil, if_pos hdone]

/-- What is due later than now is delays. -/
theorem WaitsFor.delayed (h : m.WaitsFor r) (hlate : ∀ w ∈ m.waits, m.now < w.1.due) :
    r.Delayed where
  turn := by
    by_contra hturn
    obtain ⟨turn, hturn⟩ := Option.ne_none_iff_exists'.mp hturn
    have hlate := hlate _ (mem_waits_turn.mpr ⟨r, h.mem, hturn, rfl⟩)
    exact absurd (h.prompt.turn turn hturn) (Nat.not_le.mpr hlate)
  calls call hcall := by
    by_contra hbegun
    have hlate := hlate _ (mem_waits_call.mpr ⟨r, h.mem, rfl, call, hcall, rfl, rfl⟩)
    exact absurd (h.prompt.calls call hcall (eq_false_of_ne_true hbegun)) (Nat.not_le.mpr hlate)

/-- A rest ends with the fan-out, or with delays that have begun meanwhile. -/
theorem WaitsFor.rest (h : m.WaitsFor r) {limit fuel : Nat} (hnow : m.now < limit)
    (hfuel : r.left ≤ fuel) :
    (passUntil (fun x => x.roundOver r.id) limit fuel m).roundOver r.id = true ∨
      ∃ r', (passUntil (fun x => x.roundOver r.id) limit fuel m).WaitsFor r' ∧ r'.id = r.id ∧
        r'.Delayed ∧ r'.remaining.length ≤ r.remaining.length ∧
        (r.Delayed → (∃ w ∈ m.waits, w.1.due < limit) →
          r'.remaining.length < r.remaining.length) := by
  induction fuel generalizing m r with
  | zero => exact absurd hfuel (Nat.not_le.mpr (Round.left_pos h.underWay))
  | succ fuel ih =>
    have hunderWay : m.roundOver r.id = false := roundOver_eq_false.mpr ⟨r, h.mem, rfl⟩
    unfold passUntil
    simp only [hunderWay, Bool.false_eq_true, if_false]
    split
    · next wake job hnext =>
      obtain ⟨hwait, hfirst⟩ := nextWait?_eq_some hnext
      split
      · next hdue =>
        rw [perform_eq_work]
        set now : Machine σ := { m with now := max m.now wake.due }
        have hwaits : now.WaitsFor r :=
          h.later (Nat.le_max_left _ _) ((passes_elapse hfirst).reachable h.reachable)
        rcases hwaits.work (pending_iff.mpr ⟨wake, hwait⟩) with ⟨r', hr', hgoes⟩ | ⟨-, hover⟩
        · -- the rest goes on with less to do
          have hbefore : (now.work job).now < limit := by
            rw [now_work hwaits.reachable.coherent]
            exact Nat.max_lt.mpr ⟨hnow, hdue⟩
          have hleft : r'.left ≤ fuel := by
            have hless := hgoes.left_lt
            omega
          have hle := hgoes.remaining_le hwaits.underWay
          have hrest := ih hr' hbefore hleft
          rw [hgoes.id] at hrest
          rcases hrest with hover | ⟨r'', hr'', hid, hdelayed, hle', -⟩
          · exact .inl hover
          · refine .inr ⟨r'', hr'', hid, hdelayed, Nat.le_trans hle' hle, fun hfirst' _ => ?_⟩
            exact Nat.lt_of_le_of_lt hle' (hgoes.remaining_lt hwaits.underWay hfirst')
        · left
          rw [passUntil_of_done hover]
          exact hover
      · next hdue =>
        -- nothing is due before the limit, so the rest is over
        have hlate : ∀ w ∈ m.waits, limit ≤ w.1.due := fun w hw =>
          Nat.le_trans (Nat.not_lt.mp hdue) (hfirst w hw)
        refine .inr ⟨r, h.later (Nat.le_max_left _ _)
          ((passes_elapse hlate).reachable h.reachable), rfl,
          h.delayed fun w hw => Nat.lt_of_lt_of_le hnow (hlate w hw), Nat.le_refl _, ?_⟩
        rintro - ⟨w, hw, hlt⟩
        exact absurd (hlate w hw) (Nat.not_le.mpr hlt)
    · next hnone =>
      obtain ⟨job, -, hpending⟩ := exists_pending h.reachable.wellFormed h.mem
      obtain ⟨wake, hwait⟩ := pending_iff.mp hpending
      rw [nextWait?_eq_none hnone] at hwait
      cases hwait

/-! ## All rests -/

/-- A rest goes past all that is waited for when it begins. -/
theorem due_le_lastDue (m : Machine σ) (r : Round σ) :
    m.now ≤ m.lastDue r ∧ ∀ w ∈ waitsOf r, w.1.due ≤ m.lastDue r := by
  have hfold (waits : List (Wake × Job)) (first : Nat) :
      first ≤ waits.foldl (fun due w => max due w.1.due) first ∧
        ∀ w ∈ waits, w.1.due ≤ waits.foldl (fun due w => max due w.1.due) first := by
    induction waits generalizing first with
    | nil => simp
    | cons w rest ih =>
      obtain ⟨hfirst, hrest⟩ := ih (max first w.1.due)
      rw [List.foldl_cons]
      refine ⟨Nat.le_trans (Nat.le_max_left _ _) hfirst, fun other hother => ?_⟩
      rcases List.mem_cons.mp hother with rfl | hother
      · exact Nat.le_trans (Nat.le_max_right _ _) hfirst
      · exact hrest other hother
  exact hfold (waitsOf r) m.now

theorem WaitsFor.left_le_movesFor (h : m.WaitsFor r) (limit : Nat) : r.left ≤ m.movesFor limit := by
  have hmoves : movesOf r ≤ (m.rounds.map movesOf).foldl (· + ·) 0 := by
    rw [← List.sum_eq_foldl]
    exact List.single_le_sum (fun _ _ => Nat.zero_le _) _ (List.mem_map_of_mem h.mem)
  exact Nat.le_trans r.left_le_movesOf (Nat.le_trans hmoves (Nat.le_add_right _ _))

theorem awaitRound_of_over {id : Nat} (hover : m.roundOver id = true) (rests : Nat) :
    m.awaitRound id rests = m := by
  have hnone : (m.rounds.find? fun r => r.id == id) = none :=
    List.find?_eq_none.mpr fun r hr => by simpa using roundOver_eq_true.mp hover r hr
  cases rests with
  | zero => rfl
  | succ rests =>
    unfold awaitRound
    rw [hnone]

/-- With a rest for each collector that is left, and one more at first, a fan-out is over. -/
theorem WaitsFor.awaitRound (h : m.WaitsFor r) {rests : Nat}
    (hrests : r.remaining.length < rests ∨ r.Delayed ∧ r.remaining.length ≤ rests) :
    (m.awaitRound r.id rests).roundOver r.id = true := by
  induction rests generalizing m r with
  | zero =>
    obtain ⟨hdelayed, hnone⟩ := hrests.resolve_left (Nat.not_lt_zero _)
    exact absurd hnone (Nat.not_le.mpr (hdelayed.remaining_pos h.underWay))
  | succ rests ih =>
    -- a rest that does not see the end leaves only delays, and after the first one fewer calls
    have hfound : (m.rounds.find? fun other => other.id == r.id) = some r :=
      find?_round m h.reachable.wellFormed.ids h.mem
    unfold Machine.awaitRound
    rw [hfound]
    simp only
    obtain ⟨hnow, hdue⟩ := due_le_lastDue m r
    rcases h.rest (Nat.lt_succ_of_le hnow) (h.left_le_movesFor (m.lastDue r + 1)) with
      hover | ⟨r', hr', hid, hdelayed, hle, hlt⟩
    · rw [await, awaitRound_of_over hover]
      exact hover
    · have hfewer : r'.remaining.length ≤ rests := by
        rcases hrests with hless | ⟨hfirst, hless⟩
        · omega
        · -- there is a delay that has passed
          obtain ⟨job, -, hpending⟩ := exists_pending h.reachable.wellFormed h.mem
          obtain ⟨wake, hwait⟩ := pending_iff.mp hpending
          have hpassed := hlt hfirst ⟨_, hwait, Nat.lt_succ_of_le (hdue _ (h.isOf hwait).1)⟩
          omega
      rw [← hid] at hr' ⊢
      exact ih hr' (.inr ⟨hdelayed, hfewer⟩)

/-! ## A run of all collectors -/

/-- A fan-out under way waits, so there is none where nothing waits. -/
theorem rounds_eq_nil (hm : m.Reachable) (hidle : m.waits = []) : m.rounds = [] := by
  refine List.eq_nil_iff_forall_not_mem.mpr fun r hr => ?_
  obtain ⟨job, -, hpending⟩ := exists_pending hm.wellFormed hr
  obtain ⟨wake, hwait⟩ := pending_iff.mp hpending
  rw [hidle] at hwait
  cases hwait

/-- Where nothing waits, a run of all collectors is the only thing that will. -/
theorem waitsFor_runAll (hm : m.Reachable) (hidle : m.waits = []) (time : Instant) :
    ∃ r, (m.after (.runAll time)).WaitsFor r ∧ r.id = m.nextId ∧
      r.remaining = m.registry := by
  have hloops : ∀ l ∈ m.loops, wakeOf? l = none := by
    intro l hl
    by_contra hwake
    obtain ⟨wake, hwake⟩ := Option.ne_none_iff_exists'.mp hwake
    have hwait := mem_waits_loop.mpr ⟨l, hl, hwake, rfl⟩
    rw [hidle] at hwait
    cases hwait
  let r : Round σ :=
    ⟨m.nextId, .direct, time, m.fanOut, m.registry, [], some ⟨m.now, true, m.nextOrder⟩, []⟩
  have hrounds : (m.after (.runAll time)).rounds = [r] := by
    show m.rounds ++ [r] = [r]
    rw [rounds_eq_nil hm hidle, List.nil_append]
  have hprompt : r.Prompt m.now := by
    refine ⟨fun wake hwake => ?_, fun call hcall => nomatch hcall⟩
    obtain rfl := Option.some.inj hwake
    exact Nat.le_refl m.now
  exact ⟨r, ⟨hm.after _, by simp [hrounds], by simp [hrounds], hloops, by simp [r], hprompt⟩, rfl,
    rfl⟩

/-- Waiting for the only fan-out lets nobody act but its collectors. -/
theorem alone_of_passing {id : Nat} (h : m.waits = [] ∨ ∃ r, m.WaitsFor r ∧ r.id = id)
    {moves : List (Move σ)} (hmoves : ∀ move ∈ moves, move.isPassing = true) :
    m.Along (fun x move => x.goesOn id move = true ∨ (x.after move).world = x.world) moves := by
  induction moves generalizing m with
  | nil => trivial
  | cons move rest ih =>
    have hrest : ∀ other ∈ rest, other.isPassing = true := fun other hother =>
      hmoves other (List.mem_cons_of_mem _ hother)
    have hpassing := hmoves move List.mem_cons_self
    cases move with
    | elapse limit =>
      refine ⟨.inr rfl, ih ?_ hrest⟩
      rcases h with hidle | ⟨r, hr, hid⟩
      · exact .inl hidle
      · exact .inr ⟨r, hr.later (Nat.le_max_left _ _) (hr.reachable.after (.elapse limit)), hid⟩
    | work job =>
      by_cases hpending : m.pending job = true
      · obtain ⟨wake, hwait⟩ := pending_iff.mp hpending
        rcases h with hidle | ⟨r, hr, rfl⟩
        · rw [hidle] at hwait
          cases hwait
        · have hwork : m.after (.work job) = m.work job := by rw [after_work, if_pos hpending]
          refine ⟨.inl (by simp [goesOn, (hr.isOf hwait).2, hpending]), ih ?_ hrest⟩
          rw [hwork]
          rcases hr.work hpending with ⟨r', hr', hgoes⟩ | ⟨hidle, -⟩
          · exact .inr ⟨r', hr', hgoes.id⟩
          · exact .inl hidle
      · have hsame : m.after (.work job) = m := by rw [after_work, if_neg hpending]
        refine ⟨.inr (by rw [hsame]), ?_⟩
        rw [hsame]
        exact ih h hrest
    | _ => cases hpassing

/--
A caller who waits for a run of all collectors, while nothing else waits, gets to its end, and
meanwhile nobody acts but the collectors.
-/
theorem awaitRound_runAll (hm : m.Reachable) (hidle : m.waits = []) (time : Instant) :
    ((m.after (.runAll time)).awaitRound m.nextId (m.registry.length + 1)).roundOver m.nextId =
        true ∧
      ∃ moves, (m.after (.runAll time)).Along
          (fun x move => x.goesOn m.nextId move = true ∨ (x.after move).world = x.world) moves ∧
        (m.after (.runAll time)).awaitRound m.nextId (m.registry.length + 1) =
          (m.after (.runAll time)).afterAll moves := by
  obtain ⟨r, hr, hid, hremaining⟩ := waitsFor_runAll hm hidle time
  obtain ⟨moves, hpassing, -, hmoves⟩ :=
    awaitRound_passes (hm.after (.runAll time)) m.nextId (m.registry.length + 1)
  refine ⟨?_, moves, alone_of_passing (.inr ⟨r, hr, hid⟩) hpassing, hmoves⟩
  rw [← hid, ← hremaining]
  exact hr.awaitRound (.inl (Nat.lt_succ_self _))

end Machine

end HourlySnapshots
