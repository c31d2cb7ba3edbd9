import HourlySnapshots.Proofs.Collection.Separation
import HourlySnapshots.Proofs.Scheduler.Awaited
import HourlySnapshots.Proofs.Scheduler.Initialization
import HourlySnapshots.Proofs.Scheduler.Isolation

/-!
# Running all collectors

A run of all registered collectors is over after a few steps of its own, whatever happens in
between. If the collectors share nothing but the stores, its results are what each would have
answered alone, and so are the records that it leaves; the kind of the fan-out does not matter, nor
what becomes of the calls of any other collector.
-/

namespace HourlySnapshots

variable {σ : Type}

/-! ## Results -/

namespace Machine

/-- Entries with distinct names give the same results in whatever order they are made. -/
theorem resultsOf_eq_of_perm {entries entries' : List (String × Bool)}
    (hperm : entries.Perm entries') (hnames : (entries.map Prod.fst).Nodup) :
    resultsOf entries = resultsOf entries' := by
  have hsorted (xs : List (String × Bool)) :
      (resultsOf xs).Pairwise fun a b => decide (a.1 ≤ b.1) = true := by
    have htrans (a b c : String × Bool) (hab : decide (a.1 ≤ b.1) = true)
        (hbc : decide (b.1 ≤ c.1) = true) : decide (a.1 ≤ c.1) = true :=
      decide_eq_true (String.le_trans (of_decide_eq_true hab) (of_decide_eq_true hbc))
    have htotal (a b : String × Bool) : (decide (a.1 ≤ b.1) || decide (b.1 ≤ a.1)) = true := by
      simp [String.le_total a.1 b.1]
    exact List.pairwise_mergeSort htrans htotal xs
  -- with distinct names there is only one way to sort
  refine List.Perm.eq_of_pairwise (fun a b ha hb hle hge => ?_) (hsorted entries)
    (hsorted entries') ?_
  · -- two entries with one name are the same
    have hname : a.1 = b.1 := String.le_antisymm (of_decide_eq_true hle) (of_decide_eq_true hge)
    exact List.inj_on_of_nodup_map hnames (mem_resultsOf.mp ha)
      (hperm.mem_iff.mpr (mem_resultsOf.mp hb)) hname
  · exact (resultsOf_perm entries).trans (hperm.trans (resultsOf_perm entries').symm)

end Machine

/-- The results that a history holds for a fan-out. -/
def resultsIn (id : Nat) (history : List Happening) : Option CycleResults :=
  history.findSome? fun
    | .roundEnded other _ results => if other = id then results else none
    | _ => none

theorem resultsIn_ended (id other : Nat) (purpose : Purpose) (results : Option CycleResults)
    (history : List Happening) :
    resultsIn id (.roundEnded other purpose results :: history) =
      (if other = id then results else none).or (resultsIn id history) := by
  unfold resultsIn
  rw [List.findSome?_cons]
  split <;> simp_all

theorem resultsIn_filter (id : Nat) (history : List Happening) :
    resultsIn id (history.filter fun h => !h.isCall) = resultsIn id history := by
  induction history with
  | nil => rfl
  | cons h older ih =>
    cases h with
    | called | settled | factoryCalled => exact ih
    | roundEnded other purpose results =>
      rw [List.filter_cons_of_pos rfl, resultsIn_ended, resultsIn_ended, ih]
    | _ => exact ih

namespace Control

variable {c c' : Control} {id : Nat}

theorem resultsIn_backOff (loop order : Nat) :
    resultsIn id (c.backOff loop order).history = resultsIn id c.history :=
  backOff_cases (P := fun c' => resultsIn id c'.history = resultsIn id c.history)
    (fun _ => rfl) (fun _ => rfl)

/-- A fan-out that is not under way ends no more. -/
theorem Step.resultsIn_eq {cause : Cause} (step : Step c cause c')
    (hgone : ∀ r ∈ c.rounds, r.id ≠ id) :
    resultsIn id c'.history = resultsIn id c.history := by
  have hended {r : RoundInfo} (hr : r ∈ c.rounds) (results : Option CycleResults)
      (history : List Happening) :
      resultsIn id (.roundEnded r.id r.purpose results :: history) = resultsIn id history := by
    rw [resultsIn_ended, if_neg (hgone r hr), Option.none_or]
  cases step with
  | unbounded order | missedLast order => exact resultsIn_backOff _ order
  | directEnded results hr | manualEnded results hr | automaticEnded results order hr =>
    exact hended hr _ _
  | automaticAborted results order hr =>
    exact (resultsIn_backOff _ order).trans (hended hr none _)
  | _ => rfl

end Control

namespace Machine

variable {m : Machine σ}

theorem resultsOf?_eq (m : Machine σ) (id : Nat) :
    m.resultsOf? id = resultsIn id m.control.history := (resultsIn_filter id m.history).symm

/-- The results of a fan-out that is over stay what they are. -/
theorem Reachable.resultsOf?_after (hm : m.Reachable) {id : Nat}
    (hgone : ∀ r ∈ m.rounds, r.id ≠ id) (move : Move σ) :
    (m.after move).resultsOf? id = m.resultsOf? id := by
  rw [resultsOf?_eq, resultsOf?_eq]
  refine (hm.step move).resultsIn_eq fun info hinfo => ?_
  obtain ⟨r, hr, rfl⟩ := List.mem_map.mp hinfo
  exact hgone r hr

theorem Reachable.resultsOf?_afterAll (hm : m.Reachable) {id : Nat}
    {entries : List (String × Bool)} (hgone : m.fans.Gone id entries) (moves : List (Move σ)) :
    (m.afterAll moves).resultsOf? id = m.resultsOf? id := by
  refine (hm.afterAll_induction (Q := fun _ => True)
    (P := fun x => x.fans.Gone id entries ∧ x.resultsOf? id = m.resultsOf? id) (fun _ _ => trivial)
    ⟨hgone, rfl⟩ fun {x move} hx _ h => ⟨hx.gone_after h.1 move, ?_⟩).2
  exact (hx.resultsOf?_after h.1.gone move).trans h.2

/-! ## A few steps -/

/-- How many moves of a run let the fan-out with an id go on. -/
def stepsOf (id : Nat) : Machine σ → List (Move σ) → Nat
  | _, [] => 0
  | m, move :: rest => (if m.goesOn id move then 1 else 0) + stepsOf id (m.after move) rest

/-- A fan-out takes no more steps than it has left. -/
theorem stepsOf_le (hm : m.Reachable) {r : Round σ} (hr : r ∈ m.rounds) (moves : List (Move σ)) :
    stepsOf r.id m moves ≤ r.left := by
  -- nothing goes on once the fan-out is over
  have hover {m : Machine σ} {id : Nat} (hm : m.Reachable) {entries : List (String × Bool)}
      (hgone : m.fans.Gone id entries) (moves : List (Move σ)) : stepsOf id m moves = 0 := by
    induction moves generalizing m with
    | nil => rfl
    | cons move rest ih =>
      have hnot : m.goesOn id move = false := by
        by_contra hgoes
        obtain ⟨r, hr, hid⟩ := exists_of_goesOn (Bool.not_eq_false _ ▸ hgoes)
        exact hgone.gone r hr hid
      rw [stepsOf, hnot, ih (hm.after move) (hm.gone_after hgone move)]
      rfl
  induction moves generalizing m r with
  | nil => exact Nat.zero_le _
  | cons move rest ih =>
    have hone : (if m.goesOn r.id move then 1 else 0) ≤ 1 := by split <;> decide
    rcases round_after hm.wellFormed hr move with
      ⟨hstill, hnot⟩ | ⟨r', hr', hgoes⟩ | ⟨hqueued, hnone, -, hended⟩
    · have hrest := ih (hm.after move) hstill
      rw [stepsOf, hnot]
      simpa using hrest
    · have hrest := ih (hm.after move) hr'
      have hless := hgoes.left_lt
      rw [hgoes.id] at hrest
      rw [stepsOf]
      omega
    · have hgone := hm.gone_finish hr
      rw [← hended] at hgone
      have hturn : r.turn.isSome :=
        ((hm.wellFormed.underWay r hr).waits).resolve_right fun hcalls => hcalls hnone
      have hpos : 0 < r.left := by simp [Round.left, hturn]
      rw [stepsOf, hover (hm.after move) hgone]
      omega

/-- As long as a fan-out is under way, its own jobs can bring it to its end. -/
theorem exists_over (hm : m.Reachable) {r : Round σ} (hr : r ∈ m.rounds) :
    ∃ jobs : List Job, (∀ job ∈ jobs, job.isOf r.id = true) ∧
      m.Along (fun m move => m.goesOn r.id move = true) (jobs.map .work) ∧
      (m.afterAll (jobs.map .work)).roundOver r.id = true := by
  induction hleft : r.left using Nat.strong_induction_on generalizing m r with
  | _ left ih =>
    obtain ⟨job, hjob, hpending⟩ := exists_pending hm.wellFormed hr
    have hgoesOn : m.goesOn r.id (.work job) = true := by simp [goesOn, hjob, hpending]
    rcases round_after hm.wellFormed hr (.work job) with
      ⟨-, hnot⟩ | ⟨r', hr', hgoes⟩ | ⟨-, -, -, hended⟩
    · exact absurd hgoesOn (by simp [hnot])
    · obtain ⟨jobs, hjobs, halong, hover⟩ :=
        ih r'.left (hleft ▸ hgoes.left_lt) (hm.after (.work job)) hr' rfl
      rw [hgoes.id] at hjobs halong hover
      exact ⟨job :: jobs, by simpa [hjob] using hjobs, ⟨hgoesOn, halong⟩, hover⟩
    · refine ⟨[job], by simpa using hjob, ⟨hgoesOn, trivial⟩, ?_⟩
      have hgone := (hm.gone_finish hr).gone
      rw [← hended] at hgone
      exact roundOver_eq_true.mpr hgone

/-- The results of a run outside of any cycle are the entries that its calls have made. -/
theorem Reachable.results_of_direct (hm : m.Reachable) {r : Round σ} (hr : r ∈ m.rounds)
    (hdirect : r.purpose = .direct) {moves : List (Move σ)}
    (hover : (m.afterAll moves).roundOver r.id = true) :
    (m.afterAll moves).resultsOf? r.id =
      some (resultsOf (entriesOf r.id (m.afterAll moves).history)) := by
  have hkeeps : Keeps r.info (fun (_ : Machine σ) _ => True) fun _ _ => True :=
    ⟨fun _ _ _ _ _ => trivial, fun _ _ _ _ _ => trivial⟩
  rcases hm.follow hkeeps hr rfl trivial (along_true m moves) with
    ⟨r', hr', hinfo, -⟩ | ⟨x, r', hended, -⟩
  · exact absurd (congrArg RoundInfo.id hinfo) (roundOver_eq_true.mp hover r' hr')
  · have hid : r'.id = r.id := congrArg RoundInfo.id hended.info
    have hpurpose : r'.purpose = .direct := (congrArg RoundInfo.purpose hended.info).trans hdirect
    -- the end is where the results are noted
    have hnoted : (x.finish { r' with turn := none }).resultsOf? r.id =
        some (resultsOf r'.outcomes) := by
      unfold finish
      rw [show ({ r' with turn := none } : Round σ).purpose = .direct from hpurpose]
      exact (resultsIn_ended r.id r'.id .direct _ _).trans (by simp [hid])
    have hentries : entriesOf r.id (m.afterAll moves).fans.history = r'.outcomes :=
      hended.gone.entries_eq
    obtain ⟨later, -, hsince⟩ := hended.since
    rw [← entriesOf_fans, hentries, ← hnoted, hsince]
    exact hended.reachable_finish.resultsOf?_afterAll hended.gone_finish later

end Machine

/-! ## Undisturbed fan-outs -/

namespace Sharing

variable {S : Sharing σ} {m e : Machine σ} {time : Instant}

/-- A move lets a fan-out go on, or else touches nothing that collectors work on. -/
def LeavesAlone (S : Sharing σ) (id : Nat) (m : Machine σ) (move : Move σ) : Prop :=
  m.goesOn id move = true ∨ S.Untouched m.world (m.after move).world

/-- A fan-out of which nothing but the own jobs are done is left alone. -/
theorem leavesAlone_of_goesOn {id : Nat} {moves : List (Move σ)}
    (h : m.Along (fun x move => x.goesOn id move = true) moves) :
    m.Along (S.LeavesAlone id) moves := h.imp fun _ _ => .inl

/-- Nothing of a fan-out that is over is left that could go on, so no record is added any more. -/
theorem contents_of_gone {id : Nat} {entries : List (String × Bool)} (hm : m.Reachable)
    (hgone : m.fans.Gone id entries) {moves : List (Move σ)}
    (halone : m.Along (S.LeavesAlone id) moves) :
    S.contents (m.afterAll moves).world = S.contents m.world := by
  refine (hm.along_induction
    (P := fun x => x.fans.Gone id entries ∧ S.contents x.world = S.contents m.world)
    halone ⟨hgone, rfl⟩ fun {x move} hx hmove h => ⟨hx.gone_after h.1 move, ?_⟩).2
  have huntouched := hmove.resolve_left fun hgoes => by
    obtain ⟨r, hr, hid⟩ := Machine.exists_of_goesOn hgoes
    exact h.1.gone r hr hid
  exact huntouched.contents.trans h.2

/-- A fan-out that is left alone comes as far as its collectors would without each other. -/
theorem keeps_progress {registry : Registry σ} (hnames : registry.names.Nodup)
    (hseparate : ∀ c ∈ registry, S.Separate c) (info : RoundInfo) (start : σ) :
    Machine.Keeps info (S.LeavesAlone info.id) fun r x => S.Progress registry start r x.world where
  still hx hinfo hmove hnot h := by
    subst hinfo
    exact h.untouched (hmove.resolve_left (ne_true_of_eq_false hnot))
  goes hx hr _ hgoes h := h.goes hnames hseparate (hx.wellFormed.underWay _ hr) hgoes

/--
The entries of a fan-out over collectors that share nothing but the stores, and the records that it
leaves, are those that each collector makes alone in the world that the fan-out began in.
-/
theorem entries_of_separate (hm : m.Reachable) {r : Round σ} (hr : r ∈ m.rounds)
    (hfresh : r.Fresh m.registry) (hseparate : ∀ c ∈ m.registry, S.Separate c)
    {moves : List (Move σ)} (halone : m.Along (S.LeavesAlone r.id) moves)
    (hover : (m.afterAll moves).roundOver r.id = true) :
    (entriesOf r.id (m.afterAll moves).history).Perm
        (m.registry.map (Registered.entry r.time m.world)) ∧
      (S.contents (m.afterAll moves).world).Perm
        (S.contents m.world ++ m.registry.flatMap (S.written r.time m.world)) := by
  rcases hm.follow (keeps_progress hm.names_nodup hseparate r.info m.world) hr rfl
    (.of_fresh hfresh m.world) halone with ⟨r', hr', hinfo, -⟩ | ⟨x, r', hended, hprogress⟩
  · exact absurd (congrArg RoundInfo.id hinfo) (Machine.roundOver_eq_true.mp hover r' hr')
  · -- all have acted by then, and nobody afterwards
    have htime : r'.time = r.time := congrArg RoundInfo.time hended.info
    obtain ⟨hentries, hcontents⟩ := hprogress.complete hended.queued hended.atWork
    have houtcomes : entriesOf r.id (m.afterAll moves).fans.history = r'.outcomes :=
      hended.gone.entries_eq
    obtain ⟨later, hlater, hsince⟩ := hended.since
    rw [htime] at hentries hcontents
    refine ⟨?_, ?_⟩
    · rw [← entriesOf_fans, houtcomes]
      exact hentries
    · rw [hsince, contents_of_gone hended.reachable_finish hended.gone_finish hlater,
        Machine.world_finish]
      exact hcontents

/--
A run of all registered collectors, which share nothing but the stores, from a machine to the one
that it is over in, while nobody else touches what the collectors work on.
-/
structure RunsAll (S : Sharing σ) (m : Machine σ) (time : Instant) (e : Machine σ) : Prop where
  reachable : m.Reachable
  separate : ∀ c ∈ m.registry, S.Separate c
  alone : ∃ moves, (m.after (.runAll time)).Along (S.LeavesAlone m.nextId) moves ∧
    e = (m.after (.runAll time)).afterAll moves
  ended : e.roundOver m.nextId = true

/-- The results of a run of all collectors are what its calls have noted. -/
theorem RunsAll.noted (h : S.RunsAll m time e) :
    e.resultsOf? m.nextId = some (Machine.resultsOf (entriesOf m.nextId e.history)) ∧
      (entriesOf m.nextId e.history).Perm (m.registry.map (Registered.entry time m.world)) ∧
      (S.contents e.world).Perm
        (S.contents m.world ++ m.registry.flatMap (S.written time m.world)) := by
  obtain ⟨hm, hseparate, ⟨moves, halone, rfl⟩, hover⟩ := h
  have hstart := hm.after (.runAll time)
  obtain ⟨r, hr, hinfo, hfresh⟩ : ∃ r ∈ (m.after (.runAll time)).rounds,
      r.info = ⟨m.nextId, .direct, time⟩ ∧ r.Fresh m.registry :=
    ⟨_, List.mem_append_right _ (List.mem_singleton_self _), rfl, rfl, rfl, rfl⟩
  obtain ⟨hid, hdirect, htime⟩ := RoundInfo.mk.inj hinfo
  rw [← hid] at halone hover ⊢
  have hentries := entries_of_separate hstart hr hfresh hseparate halone hover
  rw [htime] at hentries
  exact ⟨hstart.results_of_direct hr hdirect hover, hentries⟩

/-- As long as nobody else touches what the collectors work on, a run of them can be finished. -/
theorem exists_runsAll (hm : m.Reachable) (hseparate : ∀ c ∈ m.registry, S.Separate c)
    {moves : List (Move σ)}
    (halone : (m.after (.runAll time)).Along (S.LeavesAlone m.nextId) moves) :
    ∃ jobs : List Machine.Job, (∀ job ∈ jobs, job.isOf m.nextId = true) ∧
      S.RunsAll m time (((m.after (.runAll time)).afterAll moves).afterAll (jobs.map .work)) := by
  set x := (m.after (.runAll time)).afterAll moves
  have hx : x.Reachable := (hm.after _).afterAll moves
  cases hover : x.roundOver m.nextId with
  | true => exact ⟨[], by simp, hm, hseparate, ⟨moves, halone, rfl⟩, hover⟩
  | false =>
    obtain ⟨r, hr, hid⟩ := Machine.roundOver_eq_false.mp hover
    obtain ⟨jobs, hjobs, hgoes, hended⟩ := Machine.exists_over hx hr
    rw [hid] at hjobs hgoes hended
    refine ⟨jobs, hjobs, hm, hseparate, ⟨moves ++ jobs.map .work, ?_, ?_⟩, hended⟩
    · exact (Machine.along_append _ _).mpr ⟨halone, leavesAlone_of_goesOn hgoes⟩
    · exact (Machine.afterAll_append _ _ _).symm

/-- A caller who waits for such a run, while nothing else waits, gets its results. -/
theorem runsAll_awaitRound (hm : m.Reachable) (hseparate : ∀ c ∈ m.registry, S.Separate c)
    (hidle : m.waits = []) :
    S.RunsAll m time
      ((m.after (.runAll time)).awaitRound m.nextId (m.registry.length + 1)) := by
  obtain ⟨hover, moves, halone, hmoves⟩ := Machine.awaitRound_runAll hm hidle time
  refine ⟨hm, hseparate, ⟨moves, halone.imp fun x move h => h.imp_right fun hworld => ?_, hmoves⟩,
    hover⟩
  rw [hworld]
  exact .refl x.world

end Sharing

/-! ## Outcomes -/

namespace Sharing

variable {S : Sharing σ} {m m' e e' : Machine σ} {time : Instant} {results : CycleResults}

/--
What a run of all registered collectors comes to: each answers for itself under its own name, and
appends to the stores what it would append alone.
-/
structure Outcome (S : Sharing σ) (m : Machine σ) (time : Instant) (e : Machine σ)
    (results : CycleResults) : Prop where
  told : e.resultsOf? m.nextId = some results
  noted : results.Perm (entriesOf m.nextId e.history)
  names : (results.map Prod.fst).Perm m.registry.names
  names_nodup : (results.map Prod.fst).Nodup
  /-- A collector that breaks off has failed. -/
  entry : ∀ c ∈ m.registry, (c.name, (c.act time m.world).1.getD false) ∈ results
  records : (S.contents e.world).Perm
    (S.contents m.world ++ m.registry.flatMap (S.written time m.world))

/-- Every run of all collectors that is over has results. -/
theorem RunsAll.exists_outcome (h : S.RunsAll m time e) :
    ∃ results, S.Outcome m time e results := by
  obtain ⟨htold, hentries, hrecords⟩ := h.noted
  have hperm := Machine.resultsOf_perm (entriesOf m.nextId e.history)
  have hnames : ((Machine.resultsOf (entriesOf m.nextId e.history)).map Prod.fst).Perm
      m.registry.names := by
    refine ((hperm.trans hentries).map Prod.fst).trans (.of_eq ?_)
    rw [List.map_map]
    rfl
  refine ⟨_, htold, hperm, hnames, hnames.nodup_iff.mpr h.reachable.names_nodup, ?_, hrecords⟩
  exact fun c hc => (hperm.trans hentries).mem_iff.mpr (List.mem_map_of_mem hc)

/-- Results are determined by the collectors and the world that they are run in. -/
theorem RunsAll.results_eq (h : S.RunsAll m time e) (h' : S.RunsAll m' time e')
    (hregistry : m'.registry = m.registry) (hworld : m'.world = m.world) :
    e'.resultsOf? m'.nextId = e.resultsOf? m.nextId ∧
      (S.contents e'.world).Perm (S.contents e.world) := by
  obtain ⟨htold, hentries, hrecords⟩ := h.noted
  obtain ⟨htold', hentries', hrecords'⟩ := h'.noted
  rw [hregistry, hworld] at hentries' hrecords'
  refine ⟨?_, hrecords'.trans hrecords.symm⟩
  rw [htold, htold']
  refine congrArg some (Machine.resultsOf_eq_of_perm (hentries'.trans hentries.symm) ?_)
  rw [(hentries'.map Prod.fst).nodup_iff, List.map_map]
  exact h.reachable.names_nodup

end Sharing

/-! ## Replacing a collector -/

namespace Registry

variable {r : Registry σ} {d : Registered σ}

/-- The registry with a collector in the place of the one that has its name. -/
def replace (r : Registry σ) (d : Registered σ) : Registry σ :=
  r.map fun c => if c.name = d.name then d else c

/-- The collectors with other names than a collector. -/
def others (r : Registry σ) (d : Registered σ) : Registry σ := r.filter fun c => c.name ≠ d.name

/-- The collectors with the name of a collector. -/
def namesakes (r : Registry σ) (d : Registered σ) : Registry σ := r.filter fun c => c.name = d.name

theorem others_replace : (r.replace d).others d = r.others d := by
  unfold others replace
  induction r with
  | nil => rfl
  | cons c rest ih =>
    by_cases hname : c.name = d.name
    · simpa [hname] using ih
    · simpa [hname] using ih

theorem others_append_namesakes : (r.others d ++ r.namesakes d).Perm r := by
  simpa [others, namesakes] using
    List.filter_append_perm (fun c : Registered σ => decide (c.name ≠ d.name)) r

end Registry

namespace Sharing

variable {S : Sharing σ} {m m' e e' : Machine σ} {time : Instant} {d : Registered σ}
  {results results' : CycleResults}

/-- Two runs in which nobody but the collector of one name may have done anything else. -/
structure SameForOthers (S : Sharing σ) (time : Instant) (d : Registered σ) (m e m' e' : Machine σ)
    (results results' : CycleResults) : Prop where
  entries : ∀ entry, entry.1 ≠ d.name → (entry ∈ results' ↔ entry ∈ results)
  /-- The collectors of other names append the same in both runs. -/
  records : (S.contents e.world).Perm (S.contents m.world ++
      ((m.registry.others d).flatMap (S.written time m.world) ++
        (m.registry.namesakes d).flatMap (S.written time m.world))) ∧
    (S.contents e'.world).Perm (S.contents m'.world ++
      ((m.registry.others d).flatMap (S.written time m.world) ++
        (m'.registry.namesakes d).flatMap (S.written time m'.world)))

/-- An entry of another name than a collector has is one that the others make. -/
theorem RunsAll.mem_results (h : S.RunsAll m time e) (hresults : S.Outcome m time e results)
    {entry : String × Bool} (hname : entry.1 ≠ d.name) :
    entry ∈ results ↔ ∃ c ∈ m.registry.others d, c.entry time m.world = entry := by
  rw [(hresults.noted.trans h.noted.2.1).mem_iff, List.mem_map]
  refine ⟨fun ⟨c, hc, heq⟩ => ⟨c, List.mem_filter.mpr ⟨hc, ?_⟩, heq⟩,
    fun ⟨c, hc, heq⟩ => ⟨c, List.mem_of_mem_filter hc, heq⟩⟩
  subst heq
  exact decide_eq_true hname

/-- The records of a run are those of the others and those of a collector's namesakes. -/
theorem Outcome.records_split (h : S.Outcome m time e results) (d : Registered σ) :
    (S.contents e.world).Perm (S.contents m.world ++
      ((m.registry.others d).flatMap (S.written time m.world) ++
        (m.registry.namesakes d).flatMap (S.written time m.world))) := by
  refine h.records.trans (List.Perm.append_left _ ?_)
  rw [← List.flatMap_append]
  exact Registry.others_append_namesakes.symm.flatMap_right _

/-- Whatever takes the place of a collector, the others do not notice. -/
theorem RunsAll.sameForOthers (h : S.RunsAll m time e) (h' : S.RunsAll m' time e')
    (hregistry : m'.registry = m.registry.replace d)
    (halike : ∀ name, name ≠ d.name → S.Alike name m.world m'.world)
    (hresults : S.Outcome m time e results) (hresults' : S.Outcome m' time e' results') :
    S.SameForOthers time d m e m' e' results results' := by
  have hothers : m'.registry.others d = m.registry.others d := by
    rw [hregistry, Registry.others_replace]
  have hother {c : Registered σ} (hc : c ∈ m.registry.others d) :
      S.Separate c ∧ S.Alike c.name m.world m'.world := by
    obtain ⟨hmem, hname⟩ := List.mem_filter.mp hc
    exact ⟨h.separate c hmem, halike c.name (of_decide_eq_true hname)⟩
  refine ⟨fun entry hname => ?_, hresults.records_split d, ?_⟩
  · rw [h.mem_results hresults hname, h'.mem_results hresults' hname, hothers]
    refine exists_congr fun c => and_congr_right fun hc => ?_
    rw [(hother hc).1.entry_eq (hother hc).2]
  · have hsame : (m.registry.others d).flatMap (S.written time m'.world) =
        (m.registry.others d).flatMap (S.written time m.world) :=
      List.flatMap_congr fun c hc => (hother hc).1.written_eq (hother hc).2
    rw [← hsame, ← hothers]
    exact hresults'.records_split d

/-! ## Running all collectors -/

/--
A run of all registered collectors, which share nothing but the stores, is over after a few steps of
its own, can always be finished, and is so if its caller waits and nothing else does. Its results
have one entry for each name that was registered when it began: what the collector of that name
answers, or `false` if it breaks off. The kind of the fan-out changes neither the results nor the
records that are left, and another collector in the place of one changes neither the entries of all
others nor the records that they leave.
-/
theorem run_all_isolated (hm : m.Reachable) (hseparate : ∀ c ∈ m.registry, S.Separate c)
    (time : Instant) :
    (∀ moves, (m.after (.runAll time)).Along (S.LeavesAlone m.nextId) moves →
        Machine.stepsOf m.nextId (m.after (.runAll time)) moves ≤ 3 * m.registry.length + 1 ∧
        ∃ jobs : List Machine.Job, (∀ job ∈ jobs, job.isOf m.nextId = true) ∧
          S.RunsAll m time
            (((m.after (.runAll time)).afterAll moves).afterAll (jobs.map .work))) ∧
      (m.waits = [] → S.RunsAll m time
        ((m.after (.runAll time)).awaitRound m.nextId (m.registry.length + 1))) ∧
      ∀ e, S.RunsAll m time e → ∃ results, S.Outcome m time e results ∧
        (∀ m' e', S.RunsAll m' time e' → m'.registry = m.registry → m'.world = m.world →
          e'.resultsOf? m'.nextId = some results ∧
            (S.contents e'.world).Perm (S.contents e.world)) ∧
        ∀ m' e' d, S.RunsAll m' time e' → m'.registry = m.registry.replace d →
          (∀ name, name ≠ d.name → S.Alike name m.world m'.world) →
          ∃ results', S.Outcome m' time e' results' ∧
            S.SameForOthers time d m e m' e' results results' := by
  refine ⟨fun moves halone => ⟨?_, exists_runsAll hm hseparate halone⟩,
    runsAll_awaitRound hm hseparate, fun e he => ?_⟩
  · have hstart := hm.after (.runAll time)
    obtain ⟨r, hr, hid, hleft⟩ : ∃ r ∈ (m.after (.runAll time)).rounds,
        r.id = m.nextId ∧ r.left = 3 * m.registry.length + 1 :=
      ⟨_, List.mem_append_right _ (List.mem_singleton_self _), rfl, rfl⟩
    rw [← hid, ← hleft]
    exact Machine.stepsOf_le hstart hr moves
  · obtain ⟨results, hresults⟩ := he.exists_outcome
    refine ⟨results, hresults, fun m' e' he' hregistry hworld => ?_,
      fun m' e' d he' hregistry halike => ?_⟩
    · rw [← hresults.told]
      exact he.results_eq he' hregistry hworld
    · obtain ⟨results', hresults'⟩ := he'.exists_outcome
      exact ⟨results', hresults', he.sameForOthers he' hregistry halike hresults hresults'⟩

/--
A stand-in waits and breaks off, while the other collector stores a rate. Its entry fails in both
kinds of fan-out, whether they are waited for or their calls are made in another order; when a
collector of rates takes its place, there is one more record, and the other entry is the same.
-/
theorem run_all_isolated_of_stand_in :
    let rate (name : String) : Part := .rate name [("bank", [⟨"USD", "TWD", none, .literal 32 0⟩])]
    let world : World := ⟨.single, [.rates [], .standIn 20 none], [], .everything, 0⟩
    let prepared (fanOut : FanOut) (second : Part) : Machine World :=
      (Machine.init .default fanOut (World.build (castOf [rate "rate", second]))
        (fun _ _ => none) world).after .prepare
    let S := World.sharing ["rate", "second"].idxOf
    let e := ((prepared .sequential (.standIn "second")).after (.runAll .epoch)).awaitRound 0 3
    let e' := ((prepared .parallel (.standIn "second")).after (.runAll .epoch)).afterAll
      [.work (.turn 0), .work (.call 0 2), .work (.call 0 3), .work (.call 0 1), .work (.turn 0)]
    let e'' := ((prepared .parallel (rate "second")).after (.runAll .epoch)).awaitRound 0 3
    (∃ results, e.resultsOf? 0 = some results ∧ e'.resultsOf? 0 = some results ∧
        ("rate", true) ∈ results ∧ ("second", false) ∈ results ∧
        ∃ results'', e''.resultsOf? 0 = some results'' ∧ ("rate", true) ∈ results'') ∧
      (S.contents e'.world).Perm (S.contents e.world) ∧ (S.contents e.world).length = 1 ∧
      (S.contents e''.world).length = 2 := by
  intro rate world prepared S e e' e''
  have hm (fanOut : FanOut) (second : Part) : (prepared fanOut second).Reachable :=
    ⟨_, _, _, _, _, [.prepare], rfl⟩
  have hstandIn : ∀ c ∈ castOf [rate "rate", .standIn "second"], S.Separate c :=
    castOf_separate (by decide +kernel) (by decide)
  have hrate : ∀ c ∈ castOf [rate "rate", rate "second"], S.Separate c :=
    castOf_separate (by decide +kernel) (by decide)
  obtain ⟨-, hawaited, hall⟩ :=
    run_all_isolated (hm .sequential (.standIn "second")) hstandIn .epoch
  obtain ⟨results, hresults, hsame, hreplaced⟩ := hall e (hawaited rfl)
  -- the same collectors with their calls in another order
  have he' : S.RunsAll (prepared .parallel (.standIn "second")) .epoch e' :=
    ⟨hm _ _, hstandIn, ⟨_, leavesAlone_of_goesOn (by decide +kernel), rfl⟩, by decide +kernel⟩
  obtain ⟨htold', hcontents⟩ := hsame _ _ he' rfl rfl
  -- another collector of the same name
  obtain ⟨-, hawaited'', -⟩ := run_all_isolated (hm .parallel (rate "second")) hrate .epoch
  obtain ⟨results'', hresults'', hothers⟩ :=
    hreplaced _ _ ((rate "second").registered 1) (hawaited'' rfl) rfl fun _ _ => .refl _ _
  have hfirst : ("rate", true) ∈ results := hresults.entry _ List.mem_cons_self
  have hsecond : ("second", false) ∈ results :=
    hresults.entry _ (List.mem_cons_of_mem _ List.mem_cons_self)
  have hstill : ("rate", true) ∈ results'' :=
    (hothers.entries _ (by decide +kernel)).mpr hfirst
  exact ⟨⟨results, hresults.told, htold', hfirst, hsecond, results'', hresults''.told, hstill⟩,
    hcontents, by decide +kernel, by decide +kernel⟩

end Sharing

end HourlySnapshots
