import HourlySnapshots.Proofs.Scheduler.Entries

/-!
# The ledger of cycles

The history tells which cycles were started and which are over. The statistics keep count of them:
each cycle is counted once, when it is over, and counts as successful exactly when all its calls
ended well. So the counts agree with the history whoever started the cycles, however they overlap,
and whether anybody still waits for them.
-/

namespace HourlySnapshots

/-! ## Cycles in the history -/

/-- The cycles that were started, the latest first. -/
def cyclesStarted (history : List Happening) : List Nat :=
  history.filterMap fun
    | .roundStarted id purpose _ _ => if purpose = .direct then none else some id
    | _ => none

/-- What the clock gave when it was read last; nothing if it broke off then. -/
def lastReading (history : List Happening) : Option Instant :=
  (history.findSome? fun
    | .clockRead reading => some reading
    | _ => none).join

/-- The cycles that are over, the latest first, each with the reading that it was counted at. -/
def cyclesEnded : List Happening → List (Nat × Option Instant)
  | [] => []
  | .roundEnded id purpose _ :: older =>
    if purpose = .direct then cyclesEnded older else (id, lastReading older) :: cyclesEnded older
  | _ :: older => cyclesEnded older

/-- The cycles that are not over yet. -/
def Control.cycles (c : Control) : List Nat :=
  (c.rounds.filter fun r => r.purpose ≠ .direct).map RoundInfo.id

/-- All statistics but the next run that is announced. -/
def RunStats.past (s : RunStats) : RunStats := { s with nextRunAt := none }

namespace Control

variable {c c' : Control}

/-! ## What a step does to the ledger -/

/-- What can happen to the cycles and their counts: nothing, or a cycle begins, or it is over. -/
inductive Booked (c c' : Control) : Prop where
  | kept (hstarted : cyclesStarted c'.history = cyclesStarted c.history)
      (hended : cyclesEnded c'.history = cyclesEnded c.history) (hcycles : c'.cycles = c.cycles)
      (hstats : c'.stats.past = c.stats.past)
      (hrounds : ∀ r ∈ c'.rounds, r ∈ c.rounds ∨ c.nextId ≤ r.id) (hid : c.nextId ≤ c'.nextId)
  | begun (hstarted : cyclesStarted c'.history = c.nextId :: cyclesStarted c.history)
      (hended : cyclesEnded c'.history = cyclesEnded c.history)
      (hcycles : c'.cycles = c.cycles ++ [c.nextId]) (hstats : c'.stats.past = c.stats.past)
      (hrounds : ∀ r ∈ c'.rounds, r ∈ c.rounds ∨ c.nextId ≤ r.id) (hid : c'.nextId = c.nextId + 1)
  | ended {r : RoundInfo} (hr : r ∈ c.rounds) (hpurpose : r.purpose ≠ .direct)
      (results : CycleResults) (hstarted : cyclesStarted c'.history = cyclesStarted c.history)
      (hended : cyclesEnded c'.history = (r.id, c.reading) :: cyclesEnded c.history)
      (hrounds : c'.rounds = c.rounds.filter fun other => other.id ≠ r.id)
      (hstats : c'.stats.past = (c.stats.afterCycle r.time results c.reading).past)
      (hid : c'.nextId = c.nextId)

/-- What a loop does afterwards is not in the books. -/
theorem Booked.congr {c'' : Control} (h : Booked c c') (hrounds : c''.rounds = c'.rounds)
    (hstats : c''.stats = c'.stats) (hid : c''.nextId = c'.nextId)
    (hstarted : cyclesStarted c''.history = cyclesStarted c'.history)
    (hended : cyclesEnded c''.history = cyclesEnded c'.history) : Booked c c'' := by
  have hcycles : c''.cycles = c'.cycles := by rw [cycles, hrounds, cycles]
  cases h with
  | kept hstarted' hended' hcycles' hstats' hrounds' hid' =>
    exact .kept (hstarted.trans hstarted') (hended.trans hended') (hcycles.trans hcycles')
      (hstats ▸ hstats') (hrounds ▸ hrounds') (hid ▸ hid')
  | begun hstarted' hended' hcycles' hstats' hrounds' hid' =>
    exact .begun (hstarted.trans hstarted') (hended.trans hended') (hcycles.trans hcycles')
      (hstats ▸ hstats') (hrounds ▸ hrounds') (hid.trans hid')
  | ended hr hpurpose results hstarted' hended' hrounds' hstats' hid' =>
    exact .ended hr hpurpose results (hstarted.trans hstarted') (hended.trans hended')
      (hrounds.trans hrounds') (hstats ▸ hstats') (hid.trans hid')

theorem booked_backOff (h : Booked c c') (loop order : Nat) : Booked c (c'.backOff loop order) :=
  backOff_cases (P := Booked c) (fun _ => h.congr rfl rfl rfl rfl rfl)
    (fun _ => h.congr rfl rfl rfl rfl rfl)

theorem booked_read (c : Control) : Booked c c.read :=
  .kept rfl rfl rfl rfl (fun _ => .inl) (Nat.le_refl _)

theorem mem_rounds_append {id : Nat} {purpose : Purpose} {time : Instant} :
    ∀ r ∈ c.rounds ++ [RoundInfo.mk id purpose time], r ∈ c.rounds ∨ id ≤ r.id := by
  intro r hr
  rcases List.mem_append.mp hr with hold | hnew
  · exact .inl hold
  · rw [List.mem_singleton.mp hnew]
    exact .inr (Nat.le_refl _)

/-- The end of a fan-out is counted unless it is no cycle. -/
theorem booked_endRound {r : RoundInfo} (hr : r ∈ c.rounds) (hpurpose : r.purpose ≠ .direct)
    (results : CycleResults) (counted : Option CycleResults) :
    Booked c ((c.count r.time results).endRound r counted) := by
  refine .ended hr hpurpose results ?_ ?_ rfl rfl rfl
  · simp [cyclesStarted]
  · simp [cyclesEnded, hpurpose, lastReading]

/-- A fan-out that is no cycle ends without a trace. -/
theorem cycles_filter (hids : (c.rounds.map RoundInfo.id).Nodup) {r : RoundInfo}
    (hr : r ∈ c.rounds) (hpurpose : r.purpose = .direct) :
    (c.rounds.filter fun other => other.id ≠ r.id).filter (fun other => other.purpose ≠ .direct) =
      c.rounds.filter fun other => other.purpose ≠ .direct := by
  rw [List.filter_filter]
  refine List.filter_congr fun other hother => ?_
  by_cases hdirect : other.purpose = .direct
  · simp [hdirect]
  · -- another purpose is another fan-out, and has another id
    have hne : other.id ≠ r.id := fun hid =>
      hdirect (List.inj_on_of_nodup_map hids hother hr hid ▸ hpurpose)
    simp [hdirect, hne]

/-- Every step does at most one thing to the ledger. -/
theorem Step.booked {cause : Cause} (step : Step c cause c') (h : c.Coherent) : Booked c c' := by
  cases step with
  | triggered | triggeredNow | released =>
    exact .begun rfl rfl (by simp [cycles]) rfl mem_rounds_append rfl
  | allRun time =>
    exact .kept rfl rfl (by simp [cycles]) rfl mem_rounds_append (Nat.le_succ _)
  | unbounded order | missedLast order => exact booked_backOff (booked_read c) _ order
  | started => exact .kept rfl rfl rfl rfl (fun _ => .inl) (Nat.le_succ _)
  | directEnded results hr hpurpose =>
    exact .kept rfl (by simp [cyclesEnded, hpurpose])
      (congrArg (List.map RoundInfo.id) (cycles_filter h.round_ids hr hpurpose)) rfl
      (fun _ hother => .inl (List.mem_of_mem_filter hother)) (Nat.le_refl _)
  | manualEnded results hr hpurpose => exact booked_endRound hr (by simp [hpurpose]) results _
  | automaticEnded results order hr hpurpose hreading =>
    exact (booked_endRound hr (by simp [hpurpose]) results (some results)).congr rfl rfl rfl rfl rfl
  | automaticAborted results order hr hpurpose hreading =>
    exact booked_backOff (booked_endRound hr (by simp [hpurpose]) results none) _ order
  | _ => exact .kept rfl rfl rfl rfl (fun _ => .inl) (Nat.le_refl _)

/-! ## The balance -/

/-- What the counts have to do with the cycles that were started and those that are over. -/
structure Balanced (c : Control) : Prop where
  split : c.stats.totalRuns = c.stats.successfulRuns + c.stats.failedRuns
  total : c.stats.totalRuns = (cyclesEnded c.history).length
  started_lt : ∀ id ∈ cyclesStarted c.history, id < c.nextId
  started_once : (cyclesStarted c.history).Nodup
  /-- Every cycle that was started is over or under way, and none is both. -/
  accounted : (cyclesStarted c.history).Perm ((cyclesEnded c.history).map Prod.fst ++ c.cycles)
  ended_gone : ∀ id ∈ (cyclesEnded c.history).map Prod.fst, ∀ r ∈ c.rounds, r.id ≠ id

theorem afterCycle_counts (s : RunStats) (time : Instant) (results : CycleResults)
    (reading : Option Instant) :
    (s.afterCycle time results reading).totalRuns = s.totalRuns + 1 ∧
      (s.afterCycle time results reading).successfulRuns =
        s.successfulRuns + (if results.all (·.2) then 1 else 0) ∧
      (s.afterCycle time results reading).failedRuns =
        s.failedRuns + (if results.all (·.2) then 0 else 1) := by
  cases reading <;> exact ⟨rfl, rfl, rfl⟩

theorem counts_of_past {s s' : RunStats} (h : s'.past = s.past) :
    s'.totalRuns = s.totalRuns ∧ s'.successfulRuns = s.successfulRuns ∧
      s'.failedRuns = s.failedRuns := by
  obtain ⟨htotal, hsuccessful, hfailed, -⟩ := RunStats.mk.inj h
  exact ⟨htotal, hsuccessful, hfailed⟩

/-- A cycle that is over is one less under way. -/
theorem cycles_perm (hids : (c.rounds.map RoundInfo.id).Nodup) {r : RoundInfo} (hr : r ∈ c.rounds)
    (hpurpose : r.purpose ≠ .direct)
    (hrounds : c'.rounds = c.rounds.filter fun other => other.id ≠ r.id) :
    c.cycles.Perm (r.id :: c'.cycles) := by
  have hmem : r ∈ c.rounds.filter fun other => other.purpose ≠ .direct :=
    List.mem_filter.mpr ⟨hr, by simpa using hpurpose⟩
  have hperm := perm_cons_filter ((List.filter_sublist.map _).nodup hids) hmem
  rw [List.filter_filter] at hperm
  unfold cycles
  rw [hrounds, List.filter_filter]
  simpa [Bool.and_comm] using hperm.map RoundInfo.id

theorem Booked.balanced (h : Booked c c') (hc : c.Coherent) (hbalanced : c.Balanced) :
    c'.Balanced := by
  obtain ⟨hsplit, htotal, hlt, honce, haccounted, hover⟩ := hbalanced
  have hended_lt : ∀ id ∈ (cyclesEnded c.history).map Prod.fst, id < c.nextId := fun id hmem =>
    hlt id (haccounted.mem_iff.mpr (List.mem_append_left _ hmem))
  -- a fan-out that is new has another id than all that are over
  have hstill (hended : cyclesEnded c'.history = cyclesEnded c.history)
      (hrounds : ∀ r ∈ c'.rounds, r ∈ c.rounds ∨ c.nextId ≤ r.id) :
      ∀ id ∈ (cyclesEnded c'.history).map Prod.fst, ∀ r ∈ c'.rounds, r.id ≠ id := by
    intro id hmem r hr
    rw [hended] at hmem
    rcases hrounds r hr with hold | hnew
    · exact hover id hmem r hold
    · exact Nat.ne_of_gt (Nat.lt_of_lt_of_le (hended_lt id hmem) hnew)
  cases h with
  | kept hstarted hended hcycles hstats hrounds hid =>
    obtain ⟨hruns, hsuccessful, hfailed⟩ := counts_of_past hstats
    refine ⟨by rw [hruns, hsuccessful, hfailed, hsplit], by rw [hruns, hended, htotal],
      fun id hmem => ?_, by rwa [hstarted], by rwa [hstarted, hended, hcycles],
      hstill hended hrounds⟩
    rw [hstarted] at hmem
    exact Nat.lt_of_lt_of_le (hlt id hmem) hid
  | begun hstarted hended hcycles hstats hrounds hid =>
    obtain ⟨hruns, hsuccessful, hfailed⟩ := counts_of_past hstats
    refine ⟨by rw [hruns, hsuccessful, hfailed, hsplit], by rw [hruns, hended, htotal],
      fun id hmem => ?_, ?_, ?_, hstill hended hrounds⟩
    · rw [hstarted] at hmem
      rw [hid]
      rcases List.mem_cons.mp hmem with rfl | hmem
      · exact Nat.lt_succ_self _
      · exact Nat.lt_succ_of_lt (hlt id hmem)
    · rw [hstarted, List.nodup_cons]
      exact ⟨fun hmem => Nat.lt_irrefl _ (hlt _ hmem), honce⟩
    · rw [hstarted, hended, hcycles, ← List.append_assoc]
      exact (haccounted.cons _).trans (List.perm_append_singleton _ _).symm
  | @ended r hr hpurpose results hstarted hended hrounds hstats hid =>
    obtain ⟨hruns, hsuccessful, hfailed⟩ := counts_of_past hstats
    obtain ⟨hruns', hsuccessful', hfailed'⟩ :=
      afterCycle_counts c.stats r.time results c.reading
    refine ⟨?_, ?_, fun id hmem => ?_, by rwa [hstarted], ?_, fun id hmem other hother => ?_⟩
    · rw [hruns, hsuccessful, hfailed, hruns', hsuccessful', hfailed', hsplit]
      split <;> omega
    · rw [hruns, hruns', hended, htotal, List.length_cons]
    · rw [hstarted] at hmem
      rw [hid]
      exact hlt id hmem
    · rw [hstarted, hended, List.map_cons, List.cons_append]
      exact haccounted.trans (((cycles_perm hc.round_ids hr hpurpose hrounds).append_left _).trans
        List.perm_middle)
    · rw [hrounds] at hother
      obtain ⟨hother, hne⟩ := List.mem_filter.mp hother
      rw [hended, List.map_cons] at hmem
      rcases List.mem_cons.mp hmem with rfl | hmem
      · simpa using hne
      · exact hover id hmem other hother

/-! ## The end of a cycle -/

/-- The end of a cycle counts its results, and notes the reading that it was counted at. -/
theorem finish_cycle {r : RoundInfo} (hpurpose : r.purpose ≠ .direct) (results : CycleResults)
    (order : Nat) :
    (c.finish r results order).stats.past = (c.stats.afterCycle r.time results c.reading).past ∧
      cyclesEnded (c.finish r results order).history =
        (r.id, c.reading) :: cyclesEnded c.history := by
  have hended (counted : Option CycleResults) :
      cyclesEnded ((c.count r.time results).endRound r counted).history =
        (r.id, c.reading) :: cyclesEnded c.history := by
    simp [cyclesEnded, hpurpose, lastReading]
  unfold finish
  cases hpurpose' : r.purpose with
  | direct => exact absurd hpurpose' hpurpose
  | manual => exact ⟨rfl, hended _⟩
  | automatic loop =>
    simp only
    split
    · exact ⟨rfl, hended _⟩
    · exact backOff_cases (c := (c.count r.time results).endRound r none) (P := fun c' =>
          c'.stats.past = (c.stats.afterCycle r.time results c.reading).past ∧
            cyclesEnded c'.history = (r.id, c.reading) :: cyclesEnded c.history)
        (fun _ => ⟨rfl, hended none⟩) (fun _ => ⟨rfl, hended none⟩)

end Control

/-! ## The ledger of a machine -/

theorem lastReading_filter (history : List Happening) :
    lastReading (history.filter fun h => !h.isCall) = lastReading history := by
  induction history with
  | nil => rfl
  | cons h older ih =>
    cases h with
    | called | settled | factoryCalled => exact ih
    | clockRead reading => rfl
    | _ => exact ih

/-- Calls are not in the books. -/
theorem cyclesEnded_filter (history : List Happening) :
    cyclesEnded (history.filter fun h => !h.isCall) = cyclesEnded history := by
  induction history with
  | nil => rfl
  | cons h older ih =>
    cases h with
    | called | settled | factoryCalled => exact ih
    | roundEnded id purpose results =>
      show (if purpose = .direct then cyclesEnded (older.filter fun h => !h.isCall) else
        (id, lastReading (older.filter fun h => !h.isCall)) ::
          cyclesEnded (older.filter fun h => !h.isCall)) = _
      rw [ih, lastReading_filter]
      rfl
    | _ => exact ih

namespace Machine

variable {σ : Type} {m : Machine σ}

theorem cyclesEnded_control (m : Machine σ) :
    cyclesEnded m.control.history = cyclesEnded m.history := cyclesEnded_filter m.history

theorem cyclesStarted_control (m : Machine σ) :
    cyclesStarted m.control.history = cyclesStarted m.history :=
  filterMap_apart_from_calls (fun h hcall => by cases h <;> simp [Happening.isCall] at hcall ⊢) _

/-- The cycles that are not over yet. -/
def cyclesUnderWay (m : Machine σ) : List Nat :=
  (m.rounds.filter fun r => r.purpose ≠ .direct).map Round.id

theorem cycles_control (m : Machine σ) : m.control.cycles = m.cyclesUnderWay := by
  simp only [Control.cycles, control, cyclesUnderWay, List.filter_map, List.map_map]
  rfl

theorem Reachable.balanced (hm : m.Reachable) : m.control.Balanced := by
  refine hm.induction (P := fun m => m.control.Balanced)
    (fun config fanOut factory clock world => ?_)
    fun {m move} hm h => ?_
  · constructor <;> simp [init, control, RunStats.empty, cyclesStarted, cyclesEnded, Control.cycles]
  · exact ((hm.step move).booked hm.coherent).balanced hm.coherent h

/-- A move leaves the past alone, unless it ends a cycle. -/
theorem Reachable.booked_after (hm : m.Reachable) (move : Move σ) :
    (cyclesEnded (m.after move).history = cyclesEnded m.history ∧
        (m.after move).stats.past = m.stats.past) ∨
      ∃ r ∈ m.rounds, r.purpose ≠ .direct ∧ m.after move = m.finish { r with turn := none } := by
  cases (hm.step move).booked hm.coherent with
  | kept hstarted hended hcycles hstats hrounds hid =>
    rw [cyclesEnded_control, cyclesEnded_control] at hended
    exact .inl ⟨hended, hstats⟩
  | begun hstarted hended hcycles hstats hrounds hid =>
    rw [cyclesEnded_control, cyclesEnded_control] at hended
    exact .inl ⟨hended, hstats⟩
  | @ended info hr hpurpose results hstarted hended hrounds hstats hid =>
    obtain ⟨r, hmem, rfl⟩ := List.mem_map.mp hr
    -- the fan-out is no longer there, so this is its end
    have hgone : ∀ r' ∈ (m.after move).rounds, r'.id ≠ r.id := by
      intro r' hr'
      have hkept : r'.info ∈ (m.after move).control.rounds := List.mem_map_of_mem hr'
      rw [hrounds] at hkept
      exact of_decide_eq_true (List.mem_filter.mp hkept).2
    rcases round_after hm.wellFormed hmem move with
      ⟨hstill, -⟩ | ⟨r', hr', hgoes⟩ | ⟨-, -, -, hover⟩
    · exact absurd rfl (hgone r hstill)
    · exact absurd hgoes.id (hgone r' hr')
    · exact .inr ⟨r, hmem, hpurpose, hover⟩

/-- The end of a cycle counts its entries. -/
theorem Reachable.finish_cycle (hm : m.Reachable) {r : Round σ} (hr : r ∈ m.rounds)
    (hpurpose : r.purpose ≠ .direct) :
    (m.finish { r with turn := none }).stats.past = (m.stats.afterCycle r.time
        (resultsOf (entriesOf r.id m.history)) m.control.reading).past ∧
      cyclesEnded (m.finish { r with turn := none }).history =
        (r.id, m.control.reading) :: cyclesEnded m.history := by
  have hcontrol := control_finish m { r with turn := none }
  have hfinish := m.control.finish_cycle (r := r.info) hpurpose (resultsOf r.outcomes) m.nextOrder
  rw [hm.outcomes_eq hr] at hfinish
  rw [← cyclesEnded_control, ← cyclesEnded_control, show (m.finish _).stats = _ from
    congrArg Control.stats hcontrol, hcontrol, hm.outcomes_eq hr]
  exact hfinish

/-! ## Successful cycles -/

/-- A cycle that is over is gone, with the entries that the history holds for it. -/
theorem Reachable.gone_of_ended (hm : m.Reachable) {id : Nat}
    (hid : id ∈ (cyclesEnded m.history).map Prod.fst) :
    m.fans.Gone id (entriesOf id m.history) where
  entries_eq := entriesOf_fans id m
  gone r hr := by
    rw [← cyclesEnded_control] at hid
    exact hm.balanced.ended_gone id hid r.info (List.mem_map_of_mem hr)
  id_lt := by
    rw [← cyclesEnded_control] at hid
    exact hm.balanced.started_lt id
      (hm.balanced.accounted.mem_iff.mpr (List.mem_append_left _ hid))

/-- Nothing is noted any more for a cycle that is over. -/
theorem Reachable.entries_after (hm : m.Reachable) {id : Nat}
    (hid : id ∈ (cyclesEnded m.history).map Prod.fst) (move : Move σ) :
    entriesOf id (m.after move).history = entriesOf id m.history := by
  have hgone := (hm.gone_after (hm.gone_of_ended hid) move).entries_eq
  rwa [entriesOf_fans] at hgone

/-- Sorting by name does not change whether all calls ended well. -/
theorem all_resultsOf (entries : List (String × Bool)) :
    (resultsOf entries).all (·.2) = entries.all (·.2) :=
  (resultsOf_perm entries).all_eq

/-- Whether all calls of a fan-out ended well. -/
def allWell (history : List Happening) (id : Nat) : Bool := (entriesOf id history).all (·.2)

/-- The cycles that count as successful are those all of whose calls ended well. -/
theorem Reachable.successfulRuns_eq (hm : m.Reachable) :
    m.stats.successfulRuns = ((cyclesEnded m.history).map Prod.fst).countP (allWell m.history) := by
  refine hm.induction (P := fun m => m.stats.successfulRuns =
    ((cyclesEnded m.history).map Prod.fst).countP (allWell m.history))
    (fun config fanOut factory clock world => rfl) fun {m move} hm h => ?_
  -- the cycles that were over before keep their entries
  have hbefore : ((cyclesEnded m.history).map Prod.fst).countP (allWell (m.after move).history) =
      m.stats.successfulRuns := by
    rw [h]
    refine List.countP_congr fun id hid => ?_
    rw [allWell, allWell, hm.entries_after hid move]
  rcases hm.booked_after move with ⟨hended, hstats⟩ | ⟨r, hr, hpurpose, hover⟩
  · rw [hended, hbefore, (Control.counts_of_past hstats).2.1]
  · obtain ⟨hstats, hended⟩ := hm.finish_cycle hr hpurpose
    rw [← hover] at hstats hended
    rw [hended, List.map_cons, List.countP_cons, hbefore, (Control.counts_of_past hstats).2.1,
      (Control.afterCycle_counts _ _ _ _).2.1, all_resultsOf, allWell, hover, hm.entries_finish hr]

/-! ## Where a cycle began -/

/-- A moment of the past when a fan-out has just begun. -/
structure BeganIn (m : Machine σ) (id : Nat) (s : Machine σ) (move : Move σ) : Prop where
  reachable : s.Reachable
  before : s.roundOver id = true
  since : (s.after move).roundOver id = false
  past : ∃ moves, m = (s.after move).afterAll moves

theorem BeganIn.after {id : Nat} {s : Machine σ} {move : Move σ} (h : m.BeganIn id s move)
    (next : Move σ) : (m.after next).BeganIn id s move where
  reachable := h.reachable
  before := h.before
  since := h.since
  past := by
    obtain ⟨moves, hmoves⟩ := h.past
    exact ⟨moves ++ [next], by rw [afterAll_concat, ← hmoves]⟩

/-- Every cycle that was started has begun with some move. -/
theorem Reachable.began (hm : m.Reachable) :
    ∀ id ∈ cyclesStarted m.history, ∃ s move, m.BeganIn id s move := by
  refine hm.induction (P := fun m => ∀ id ∈ cyclesStarted m.history, ∃ s move, m.BeganIn id s move)
    (fun config fanOut factory clock world id hid => nomatch hid) fun {m move} hm h id hid => ?_
  have hkept (hmem : id ∈ cyclesStarted m.history) :
      ∃ s first, (m.after move).BeganIn id s first := by
    obtain ⟨s, first, hbegan⟩ := h id hmem
    exact ⟨s, first, hbegan.after move⟩
  rw [← cyclesStarted_control] at hid
  cases (hm.step move).booked hm.coherent with
  | kept hstarted | ended hr hpurpose results hstarted =>
    rw [hstarted, cyclesStarted_control] at hid
    exact hkept hid
  | begun hstarted hended hcycles =>
    rw [hstarted] at hid
    rcases List.mem_cons.mp hid with rfl | hid
    · -- this move is the one
      refine ⟨m, move, hm, roundOver_eq_true.mpr fun r hr => Nat.ne_of_lt ?_,
        roundOver_eq_false.mpr ?_, [], rfl⟩
      · exact hm.wellFormed.ids_lt r hr
      · have hmem : m.control.nextId ∈ (m.after move).cyclesUnderWay := by
          rw [← cycles_control, hcycles]
          simp
        obtain ⟨r, hr, hrid⟩ := List.mem_map.mp hmem
        exact ⟨r, List.mem_of_mem_filter hr, hrid⟩
    · rw [cyclesStarted_control] at hid
      exact hkept hid

/-- A cycle that is over has one entry for each collector that was registered when it began. -/
theorem Reachable.entries_of_ended (hm : m.Reachable) {id : Nat}
    (hid : id ∈ (cyclesEnded m.history).map Prod.fst) :
    ∃ s move, m.BeganIn id s move ∧
      ((entriesOf id m.history).map Prod.fst).Perm (s.after move).registry.names := by
  have hstarted : id ∈ cyclesStarted m.history := by
    rw [← cyclesEnded_control] at hid
    rw [← cyclesStarted_control]
    exact hm.balanced.accounted.mem_iff.mpr (List.mem_append_left _ hid)
  obtain ⟨s, move, hbegan⟩ := hm.began id hstarted
  refine ⟨s, move, hbegan, ?_⟩
  obtain ⟨moves, rfl⟩ := hbegan.past
  exact hbegan.reachable.entries_of_begun hbegan.before hbegan.since
    (roundOver_eq_true.mpr (hm.gone_of_ended hid).gone)

/-! ## The balance of a machine -/

/--
In every state that any run leads to, each cycle that was started is either over and counted or
still under way, every count is of the cycles that are over, and those that count as successful are
the ones with only good entries, one for each collector that was registered when the cycle began.
-/
theorem cycles_balance (hm : m.Reachable) :
    m.stats.totalRuns = m.stats.successfulRuns + m.stats.failedRuns ∧
      m.stats.totalRuns = (cyclesEnded m.history).length ∧
      (cyclesStarted m.history).length = m.stats.totalRuns + m.cyclesUnderWay.length ∧
      (cyclesStarted m.history).Nodup ∧
      (cyclesStarted m.history).Perm
        ((cyclesEnded m.history).map Prod.fst ++ m.cyclesUnderWay) ∧
      m.stats.successfulRuns =
        ((cyclesEnded m.history).map Prod.fst).countP (allWell m.history) ∧
      ∀ id ∈ (cyclesEnded m.history).map Prod.fst, ∃ s move, m.BeganIn id s move ∧
        ((entriesOf id m.history).map Prod.fst).Perm (s.after move).registry.names := by
  obtain ⟨hsplit, htotal, -, honce, haccounted, -⟩ := hm.balanced
  rw [cyclesEnded_control] at htotal haccounted
  rw [cyclesStarted_control] at honce haccounted
  rw [cycles_control] at haccounted
  refine ⟨hsplit, htotal, ?_, honce, haccounted, hm.successfulRuns_eq,
    fun id hid => hm.entries_of_ended hid⟩
  calc (cyclesStarted m.history).length
      = ((cyclesEnded m.history).map Prod.fst ++ m.cyclesUnderWay).length := haccounted.length_eq
    _ = (cyclesEnded m.history).length + m.cyclesUnderWay.length := by
        rw [List.length_append, List.length_map]
    _ = m.stats.totalRuns + m.cyclesUnderWay.length := congrArg (· + _) htotal.symm

/-- Three cycles overlap: the second ends first and fails, the first succeeds, the last goes on. -/
theorem cycles_balance_of_three :
    let even : Registered Unit :=
      ⟨⟨"even", "", ""⟩, fun _ => 0, fun time w => (some (time.secs % 7200 == 0), w)⟩
    let ten : Instant := ⟨1719828000, 0, by decide, by decide, by decide, by decide⟩
    let eleven : Instant := ⟨1719831600, 0, by decide, by decide, by decide, by decide⟩
    let m := (init ⟨300 * second, 300 * second, 120 * second, hour⟩ .parallel
        (fun w => (.ok [even], w)) (fun _ _ => some eleven) ()).afterAll
      [.trigger (some ten), .trigger (some eleven), .trigger (some ten), .work (.turn 1),
        .work (.call 1 3), .work (.turn 1), .work (.turn 0), .work (.call 0 5), .work (.turn 0)]
    cyclesStarted m.history = [2, 1, 0] ∧ (cyclesEnded m.history).map Prod.fst = [0, 1] ∧
      m.cyclesUnderWay = [2] ∧ m.stats.totalRuns = 2 ∧ m.stats.successfulRuns = 1 ∧
      m.stats.failedRuns = 1 := by
  intro even ten eleven m
  have hm : m.Reachable := ⟨_, _, _, _, _, _, rfl⟩
  have hstarted : cyclesStarted m.history = [2, 1, 0] := by decide +kernel
  have hended : (cyclesEnded m.history).map Prod.fst = [0, 1] := by decide +kernel
  have hunder : m.cyclesUnderWay = [2] := by decide +kernel
  obtain ⟨hsplit, -, htotal, -, -, hsuccessful, -⟩ := cycles_balance hm
  rw [hstarted, hunder] at htotal
  rw [hended] at hsuccessful
  have hone : m.stats.successfulRuns = 1 := hsuccessful.trans (by decide +kernel)
  simp only [List.length_cons, List.length_nil] at htotal
  exact ⟨hstarted, hended, hunder, by omega, hone, by omega⟩

end Machine

end HourlySnapshots
