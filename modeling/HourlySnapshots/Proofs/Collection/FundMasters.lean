import HourlySnapshots.Proofs.Collection.StoredRecords
import HourlySnapshots.Proofs.Scheduler.StoreHistory

/-!
# Masters of funds

A run of a portfolio collector writes its records first, as one batch, and registers the funds of
the batch afterwards, as far as the directory takes them. So the directory never knows of a fund
that has no record, and every run that can write makes up for what was refused before, as far as its
own funds are concerned.
-/

namespace HourlySnapshots

/-! ## Registering -/

namespace Stores

/-- Funds have been registered under their names, if the directory takes writes. -/
structure Registers (names : List String) (s s' : Stores) : Prop where
  refuses : s'.directoryStore.failWrites = s.directoryStore.failWrites
  kept : s.directoryStore.portfolios <+: s'.directoryStore.portfolios
  sound : ∀ m ∈ s'.directoryStore.portfolios,
    m ∈ s.directoryStore.portfolios ∨ m.fundName ∈ names
  distinct : (s.directoryStore.portfolios.map PortfolioMaster.fundName).Nodup →
    (s'.directoryStore.portfolios.map PortfolioMaster.fundName).Nodup
  complete : s.directoryStore.failWrites = false →
    ∀ name ∈ names, ∃ m ∈ s'.directoryStore.portfolios, m.fundName = name

namespace Registers

variable {names rest : List String} {s s' s'' : Stores}

/-- Nothing needs to be done for funds that are registered, and nothing can be if writes fail. -/
theorem of_same (h : s.directoryStore.failWrites = false →
    ∀ name ∈ names, ∃ m ∈ s.directoryStore.portfolios, m.fundName = name)
    (hrefuses : s'.directoryStore.failWrites = s.directoryStore.failWrites)
    (hsame : s'.directoryStore.portfolios = s.directoryStore.portfolios) :
    Registers names s s' where
  refuses := hrefuses
  kept := hsame ▸ List.prefix_rfl
  sound m hm := .inl (hsame ▸ hm)
  distinct hdistinct := by rwa [hsame]
  complete hopen := by rw [hsame]; exact h hopen

/-- Nothing but the directory before counts. -/
theorem of_before (h : Registers names s' s'')
    (hrefuses : s'.directoryStore.failWrites = s.directoryStore.failWrites)
    (hsame : s'.directoryStore.portfolios = s.directoryStore.portfolios) :
    Registers names s s'' where
  refuses := h.refuses.trans hrefuses
  kept := hsame ▸ h.kept
  sound := hsame ▸ h.sound
  distinct := hsame ▸ h.distinct
  complete := hrefuses ▸ h.complete

theorem trans (h : Registers names s s') (h' : Registers rest s' s'') :
    Registers (names ++ rest) s s'' where
  refuses := h'.refuses.trans h.refuses
  kept := h.kept.trans h'.kept
  sound m hm := by
    rcases h'.sound m hm with hm' | hname
    · rcases h.sound m hm' with hold | hname
      · exact .inl hold
      · exact .inr (List.mem_append_left _ hname)
    · exact .inr (List.mem_append_right _ hname)
  distinct hdistinct := h'.distinct (h.distinct hdistinct)
  complete hopen name hname := by
    rcases List.mem_append.mp hname with hfirst | hlast
    · obtain ⟨m, hm, hmaster⟩ := h.complete hopen name hfirst
      exact ⟨m, h'.kept.subset hm, hmaster⟩
    · exact h'.complete (h.refuses.trans hopen) name hlast

theorem registerIfAbsent (hopen : s.directoryStore.failWrites = false) (master : PortfolioMaster) :
    Registers [master.fundName] s (s.registerIfAbsent master).2 := by
  have hrefuses := congrArg Prod.snd (refused_registerIfAbsent s master)
  obtain ⟨-, hportfolios⟩ := registerIfAbsent_open hopen master
  split at hportfolios
  · next hknown =>
    obtain ⟨m, hm, hname⟩ := List.any_eq_true.mp hknown
    refine of_same (fun _ name hmem => ⟨m, hm, ?_⟩) hrefuses hportfolios
    rw [List.mem_singleton.mp hmem, beq_iff_eq.mp hname]
  · next hnew =>
    have hfresh : master.fundName ∉ s.directoryStore.portfolios.map PortfolioMaster.fundName := by
      intro hold
      obtain ⟨m, hm, hname⟩ := List.mem_map.mp hold
      exact hnew (List.any_eq_true.mpr ⟨m, hm, beq_iff_eq.mpr hname⟩)
    constructor
    · exact hrefuses
    · rw [hportfolios]
      exact List.prefix_append _ _
    · intro m hm
      rw [hportfolios] at hm
      rcases List.mem_append.mp hm with hold | hm
      · exact .inl hold
      · rw [List.mem_singleton.mp hm]
        exact .inr (List.mem_singleton_self _)
    · intro hdistinct
      rw [hportfolios, List.map_append]
      exact hdistinct.append (List.nodup_singleton _)
        (List.disjoint_singleton.mpr hfresh)
    · intro _ name hname
      rw [List.mem_singleton.mp hname, hportfolios]
      exact ⟨master, List.mem_append_right _ (List.mem_singleton_self _), rfl⟩

/-- Registering goes on until the directory fails, so it is done for all funds or for none. -/
theorem registerAll {σ : Type} {get : σ → Stores} {set : Stores → σ → σ}
    (hget : ∀ stores x, get (set stores x) = stores) (points : List PortfolioPoint) (x : σ) :
    Registers (points.map PortfolioPoint.fundName) (get x)
        (get (PortfolioCollector.registerAll (Stores.storage get set) points x)) ∧
      (get (PortfolioCollector.registerAll (Stores.storage get set) points x)).store.records =
        (get x).store.records := by
  induction points generalizing x with
  | nil => exact ⟨of_same (fun _ _ h => by cases h) rfl rfl, rfl⟩
  | cons point rest ih =>
    have hanswer : (Stores.storage get set).registerIfAbsent point.toMaster x =
        (((get x).registerIfAbsent point.toMaster).1,
          set ((get x).registerIfAbsent point.toMaster).2 x) := rfl
    unfold PortfolioCollector.registerAll
    rw [hanswer]
    cases hrefuse : (get x).directoryStore.failWrites with
    | true =>
      rw [registerIfAbsent_closed hrefuse]
      simp only
      rw [hget]
      refine ⟨of_same (fun hopen => ?_) rfl rfl, rfl⟩
      rw [hrefuse] at hopen
      cases hopen
    | false =>
      obtain ⟨⟨kept, hkept⟩, -⟩ := registerIfAbsent_open hrefuse point.toMaster
      have hfirst := registerIfAbsent hrefuse point.toMaster
      obtain ⟨hrest, hrecords⟩ := ih (set ((get x).registerIfAbsent point.toMaster).2 x)
      rw [hget] at hrest hrecords
      rw [hkept]
      exact ⟨hfirst.trans hrest, hrecords.trans (records_registerIfAbsent _ _)⟩

end Registers

/-- Neither store has changed. -/
structure Untouched (s s' : Stores) : Prop where
  store : s'.store = s.store
  directory : s'.directory = s.directory

theorem portfolios_insertBatch (s : Stores) (batch : List SnapshotRecord) :
    (s.insertBatch batch).2.directoryStore.portfolios = s.directoryStore.portfolios := by
  have hkept : (s.store.insertBatch batch).2.portfolios = s.store.portfolios := by
    unfold Store.insertBatch
    split <;> rfl
  unfold Stores.insertBatch Stores.directoryStore
  cases s.directory <;> simp [hkept]

end Stores

/-! ## Runs -/

/-- Every valid point makes a record, and the record is about its fund. -/
theorem PortfolioPoint.subjects_of_valid {points : List PortfolioPoint}
    (h : ∀ p ∈ points, p.validate = none) (sourceTag : String) (stamp : Stamp) :
    (points.filterMap (toRecord? sourceTag stamp)).map SnapshotRecord.subjectKey =
      points.map fundName := by
  induction points with
  | nil => rfl
  | cons p rest ih =>
    have hvalid := h p List.mem_cons_self
    obtain ⟨profit, hprofit⟩ : ∃ profit, p.accProfit = some profit := by
      refine Option.ne_none_iff_exists'.mp fun hnone => ?_
      simp only [validate, hnone, Option.isNone_none, if_true] at hvalid
      split at hvalid <;> cases hvalid
    have hrest := ih fun other hother => h other (List.mem_cons_of_mem p hother)
    rw [List.filterMap_cons_some (by rw [toRecord?, hprofit, Option.map_some]), List.map_cons,
      hrest, List.map_cons]

namespace PortfolioCollector

variable {σ : Type} {get : σ → Stores} {set : Stores → σ → σ} {c : PortfolioCollector σ}
  {time : Instant} {x : σ}

/-- The collector writes to the stores of a larger state, and its service leaves them alone. -/
structure Over (get : σ → Stores) (set : Stores → σ → σ) (c : PortfolioCollector σ) : Prop where
  storage : c.storage = Stores.storage get set
  list : ∀ x, get (c.api.list x).2 = get x
  detail : ∀ name x, get (c.api.detail name x).2 = get x

theorem Over.collect (hc : c.Over get set) (time : Instant) (x : σ) :
    get (c.collect time x).2 = get x := by
  have hkept : get x = get (c.collect time x).2 :=
    collect_keeps (R := fun x y => get x = get y) (fun _ => rfl) Eq.trans
      (fun x => (hc.list x).symm) (fun name x => (hc.detail name x).symm) time x
  exact hkept.symm

/-- The records that a run has to write. -/
def batch (c : PortfolioCollector σ) (time : Instant) (x : σ) : List SnapshotRecord :=
  (c.toCollector.gathered time x).items.filterMap
    (PortfolioPoint.toRecord? c.sourceTag (c.storage.stamp (c.collect time x).2).1)

theorem subjects_batch : (c.batch time x).map SnapshotRecord.subjectKey =
    (c.toCollector.gathered time x).items.map PortfolioPoint.fundName :=
  PortfolioPoint.subjects_of_valid (fun _ hp => (Collector.mem_gathered.mp hp).2) _ _

theorem batch_eq_nil : c.batch time x = [] ↔ (c.toCollector.gathered time x).items = [] := by
  rw [← List.map_eq_nil_iff (f := SnapshotRecord.subjectKey), subjects_batch, List.map_eq_nil_iff]

theorem kind_of_mem_batch {r : SnapshotRecord} (hr : r ∈ c.batch time x) :
    r.kind = .portfolioProfit := by
  obtain ⟨p, -, hrecord⟩ := List.mem_filterMap.mp hr
  obtain ⟨profit, -, rfl⟩ := Option.map_eq_some_iff.mp hrecord
  rfl

/--
What a run can leave behind: whether it succeeds, and the state after it. The directory has no say
in which case it is.
-/
inductive Leaves (c : PortfolioCollector σ) (get : σ → Stores) (time : Instant) (x : σ) :
    Bool × σ → Prop where
  | idle {ok : Bool} {y : σ} (hnone : c.batch time x = [])
      (hok : ok = true ↔ (c.collect time x).1.outcome = .ok [])
      (h : (get x).Untouched (get y)) : Leaves c get time x (ok, y)
  | refused {y : σ} (hsome : c.batch time x ≠ []) (hclosed : (get x).store.failWrites = true)
      (h : (get x).Untouched (get y)) : Leaves c get time x (false, y)
  | stored {y : σ} (hsome : c.batch time x ≠ []) (hopen : (get x).store.failWrites = false)
      (hrecords : (get y).store.records = (get x).store.records ++ c.batch time x)
      (h : Stores.Registers ((c.batch time x).map SnapshotRecord.subjectKey) (get x) (get y)) :
      Leaves c get time x (true, y)

/-- Saving is the writing of the batch, and then the registering of its funds. -/
theorem save_eq (hsome : c.batch time x ≠ []) :
    c.save (c.toCollector.gathered time x) (c.collect time x).2 =
      match c.storage.insertBatch (c.batch time x) (c.storage.stamp (c.collect time x).2).2 with
      | (.ok ids, y) =>
        (.ok ids.length, registerAll c.storage (c.toCollector.gathered time x).items y)
      | (.error e, y) => (.error e, y) := by
  have hempty : ¬ (c.batch time x).isEmpty = true := by simpa using hsome
  exact if_neg hempty

/-- What comes of saving, if there is something to save. -/
theorem Over.save (hget : ∀ stores x, get (set stores x) = stores) (hc : c.Over get set)
    {time : Instant} {x : σ} (hsome : c.batch time x ≠ []) :
    ((get x).store.failWrites = true → ∃ y,
      c.save (c.toCollector.gathered time x) (c.collect time x).2 = (.error Store.offline, y) ∧
        (get x).Untouched (get y)) ∧
    ((get x).store.failWrites = false → ∃ y,
      c.save (c.toCollector.gathered time x) (c.collect time x).2 =
          (.ok (c.batch time x).length, y) ∧
        (get y).store.records = (get x).store.records ++ c.batch time x ∧
        Stores.Registers ((c.batch time x).map SnapshotRecord.subjectKey) (get x) (get y)) := by
  -- the stores once the batch is stamped
  let s := (get x).stamp.2
  let stamped := set s (c.collect time x).2
  have hstamped : (c.storage.stamp (c.collect time x).2).2 = stamped := by
    rw [hc.storage]
    show set (get (c.collect time x).2).stamp.2 (c.collect time x).2 = stamped
    rw [hc.collect]
  have hinsert : c.storage.insertBatch (c.batch time x) (c.storage.stamp (c.collect time x).2).2 =
      ((s.insertBatch (c.batch time x)).1, set (s.insertBatch (c.batch time x)).2 stamped) := by
    rw [hstamped, hc.storage]
    show (((get stamped).insertBatch (c.batch time x)).1,
      set ((get stamped).insertBatch (c.batch time x)).2 stamped) = _
    rw [hget]
  have hsaved := save_eq hsome
  rw [hinsert] at hsaved
  constructor
  · intro hclosed
    have hfail : s.store.failWrites = true := hclosed
    rw [Stores.insertBatch_closed hfail] at hsaved
    refine ⟨_, hsaved, ?_⟩
    rw [hget]
    exact ⟨rfl, rfl⟩
  · intro hopen
    have hfail : s.store.failWrites = false := hopen
    obtain ⟨hlength, hrecords⟩ := Stores.insertBatch_open hfail (c.batch time x)
    obtain ⟨ids, hids, hcount⟩ := exists_of_map_eq_ok hlength
    rw [hids, hc.storage] at hsaved
    obtain ⟨hregisters, hkept⟩ := Stores.Registers.registerAll hget
      (c.toCollector.gathered time x).items (set (s.insertBatch (c.batch time x)).2 stamped)
    rw [hget, ← subjects_batch] at hregisters
    rw [hget] at hkept
    refine ⟨_, hcount ▸ hsaved, hkept.trans hrecords, ?_⟩
    have hrefuses := congrArg Prod.snd (Stores.refused_insertBatch s (c.batch time x))
    have hportfolios := Stores.portfolios_insertBatch s (c.batch time x)
    exact hregisters.of_before hrefuses hportfolios

theorem Over.leaves (hget : ∀ stores x, get (set stores x) = stores) (hc : c.Over get set)
    (time : Instant) (x : σ) : c.Leaves get time x (c.toCollector.run time x) := by
  have hcollected := hc.collect time x
  have hidle : (get x).Untouched (get (c.collect time x).2) := by
    rw [hcollected]
    exact ⟨rfl, rfl⟩
  have hnone (h : (c.collect time x).1.items = []) : c.batch time x = [] := by
    refine batch_eq_nil.mpr (List.eq_nil_iff_forall_not_mem.mpr fun p hp => ?_)
    have hitem : p ∈ (c.collect time x).1.items := (Collector.mem_gathered.mp hp).1
    rw [h] at hitem
    cases hitem
  have hran := c.toCollector.ran time x
  generalize c.toCollector.run time x = answer at hran ⊢
  cases hran with
  | failed h =>
    have houtcome : (c.collect time x).1.outcome = .error _ := h
    refine .idle (hnone ?_) ?_ hidle
    · rw [CollectionResult.items, houtcome]
    · simp [houtcome]
  | nothing h =>
    have houtcome : (c.collect time x).1.outcome = .ok [] := h
    refine .idle (hnone ?_) ?_ hidle
    · rw [CollectionResult.items, houtcome]
    · simp [houtcome]
  | invalid hitems hnovalid =>
    refine .idle (batch_eq_nil.mpr hnovalid) ?_ hidle
    have hitems' : (c.collect time x).1.items ≠ [] := hitems
    constructor
    · intro h
      cases h
    · intro h
      rw [CollectionResult.items, h] at hitems'
      exact absurd rfl hitems'
  | saved hsome hsave =>
    have hsave' : c.save (c.toCollector.gathered time x) (c.collect time x).2 = _ := hsave
    have hbatch := mt batch_eq_nil.mp hsome
    obtain ⟨hclosed, hopen⟩ := hc.save hget hbatch
    cases hfail : (get x).store.failWrites with
    | true =>
      obtain ⟨y, hy, -⟩ := hclosed hfail
      cases hsave'.symm.trans hy
    | false =>
      obtain ⟨y, hy, hrecords, hregisters⟩ := hopen hfail
      cases hsave'.symm.trans hy
      rw [decide_eq_true (List.length_pos_iff.mpr hbatch)]
      exact .stored hbatch hfail hrecords hregisters
  | unsaved hsome hsave =>
    have hsave' : c.save (c.toCollector.gathered time x) (c.collect time x).2 = _ := hsave
    have hbatch := mt batch_eq_nil.mp hsome
    obtain ⟨hclosed, hopen⟩ := hc.save hget hbatch
    cases hfail : (get x).store.failWrites with
    | true =>
      obtain ⟨y, hy, huntouched⟩ := hclosed hfail
      cases hsave'.symm.trans hy
      exact .refused hbatch hfail huntouched
    | false =>
      obtain ⟨y, hy, -⟩ := hopen hfail
      cases hsave'.symm.trans hy

end PortfolioCollector

/-! ## Histories -/

namespace Stores

/-- The same stores with writes to them failing from now on, or not. -/
def switched (fails directoryFails : Bool) (s : Stores) : Stores :=
  { s with
    store := s.store.setFailWrites fails
    directory := s.directory.map (Store.setFailWrites directoryFails) }

/-- Every master is the only one of its fund, and there is a record of the fund. -/
structure Backed (s : Stores) : Prop where
  recorded : ∀ m ∈ s.directoryStore.portfolios, ∃ r ∈ s.store.records,
    r.kind = .portfolioProfit ∧ r.subjectKey = m.fundName
  distinct : (s.directoryStore.portfolios.map PortfolioMaster.fundName).Nodup

/-- Records and masters have been added behind those there were, and none of those has changed. -/
structure KeptIn (s s' : Stores) : Prop where
  records : s.store.records <+: s'.store.records
  masters : s.directoryStore.portfolios <+: s'.directoryStore.portfolios

theorem KeptIn.trans {s s' s'' : Stores} (h : s.KeptIn s') (h' : s'.KeptIn s'') : s.KeptIn s'' :=
  ⟨h.records.trans h'.records, h.masters.trans h'.masters⟩

/-- Stores with the same contents. -/
theorem KeptIn.of_eq {s s' : Stores} (hrecords : s'.store.records = s.store.records)
    (hmasters : s'.directoryStore.portfolios = s.directoryStore.portfolios) : s.KeptIn s' :=
  ⟨hrecords ▸ List.prefix_rfl, hmasters ▸ List.prefix_rfl⟩

theorem Backed.of_eq {s s' : Stores} (h : s.Backed)
    (hrecords : s'.store.records = s.store.records)
    (hmasters : s'.directoryStore.portfolios = s.directoryStore.portfolios) : s'.Backed :=
  ⟨by rw [hrecords, hmasters]; exact h.recorded, by rw [hmasters]; exact h.distinct⟩

theorem portfolios_switched (fails directoryFails : Bool) (s : Stores) :
    (s.switched fails directoryFails).directoryStore.portfolios =
      s.directoryStore.portfolios := by
  obtain ⟨store, _ | directory, stamps⟩ := s <;> rfl

theorem Untouched.portfolios {s s' : Stores} (h : s.Untouched s') :
    s'.directoryStore.portfolios = s.directoryStore.portfolios := by
  rw [directoryStore, h.store, h.directory, directoryStore]

end Stores

section

variable {σ : Type} {get : σ → Stores} {set : Stores → σ → σ}

namespace PortfolioCollector.Leaves

variable {c : PortfolioCollector σ} {time : Instant} {x y : σ} {ok : Bool}

/-- No run takes anything away. -/
theorem keptIn (h : c.Leaves get time x (ok, y)) : (get x).KeptIn (get y) := by
  cases h with
  | idle _ _ h | refused _ _ h => exact .of_eq (by rw [h.store]) h.portfolios
  | stored _ _ hrecords h => exact ⟨hrecords ▸ List.prefix_append _ _, h.kept⟩

/-- A run leaves no master behind without a record. -/
theorem backed (h : c.Leaves get time x (ok, y)) (hx : (get x).Backed) : (get y).Backed := by
  cases h with
  | idle _ _ h | refused _ _ h => exact hx.of_eq (by rw [h.store]) h.portfolios
  | stored _ _ hrecords h =>
    refine ⟨fun m hm => ?_, h.distinct hx.distinct⟩
    rw [hrecords]
    rcases h.sound m hm with hold | hnew
    · obtain ⟨r, hr, hfund⟩ := hx.recorded m hold
      exact ⟨r, List.mem_append_left _ hr, hfund⟩
    · obtain ⟨r, hr, hname⟩ := List.mem_map.mp hnew
      exact ⟨r, List.mem_append_right _ hr, kind_of_mem_batch hr, hname⟩

end PortfolioCollector.Leaves

/--
What runs of portfolio collectors make of a state as long as nobody else writes to its stores.
Between the runs writes may be made to fail or to succeed again, and services may be changed.
-/
inductive PortfolioRuns (get : σ → Stores) (set : Stores → σ → σ) (x : σ) : σ → Prop where
  | start : PortfolioRuns get set x x
  | run {y : σ} (h : PortfolioRuns get set x y) {c : PortfolioCollector σ} (hc : c.Over get set)
      (time : Instant) : PortfolioRuns get set x (c.toCollector.run time y).2
  | switch {y z : σ} (h : PortfolioRuns get set x y) {fails directoryFails : Bool}
      (hz : get z = (get y).switched fails directoryFails) : PortfolioRuns get set x z

namespace PortfolioRuns

variable (hget : ∀ stores x, get (set stores x) = stores) {x y : σ}

include hget

theorem keptIn (h : PortfolioRuns get set x y) : (get x).KeptIn (get y) := by
  induction h with
  | start => exact .of_eq rfl rfl
  | @run y _ c hc time ih => exact ih.trans (hc.leaves hget time y).keptIn
  | switch _ hz ih =>
    refine ih.trans (.of_eq ?_ ?_) <;> rw [hz]
    · rfl
    · exact Stores.portfolios_switched _ _ _

theorem backed (h : PortfolioRuns get set x y) (hx : (get x).Backed) : (get y).Backed := by
  induction h with
  | start => exact hx
  | @run y _ c hc time ih => exact (hc.leaves hget time y).backed ih
  | switch _ hz ih =>
    refine ih.of_eq ?_ ?_ <;> rw [hz]
    · rfl
    · exact Stores.portfolios_switched _ _ _

/--
From an empty directory on, that only portfolio collectors write to, apart from the store or in it: a
fund has one master at most, and none without a record of it; neither records nor masters are ever
changed; and a run changes nothing when its records cannot be written, does not mind a directory
that fails, and else leaves a master for each fund that it has a record of.
-/
theorem masters_follow_records (hempty : (get x).directoryStore.portfolios = [])
    (h : PortfolioRuns get set x y) :
    (get y).Backed ∧ (∀ z, PortfolioRuns get set y z → (get y).KeptIn (get z)) ∧
      ∀ c : PortfolioCollector σ, c.Over get set → ∀ time,
        c.Leaves get time y (c.toCollector.run time y) := by
  have hx : (get x).Backed := by
    refine ⟨fun m hm => ?_, by rw [hempty]; exact List.nodup_nil⟩
    rw [hempty] at hm
    cases hm
  exact ⟨h.backed hget hx, fun z hz => hz.keptIn hget, fun c hc time => hc.leaves hget time y⟩

end PortfolioRuns

end

/--
While the directory fails, a run stores a record of a fund that gets no master; the next run makes
up for that.
-/
theorem PortfolioRuns.master_made_up_for :
    let c := Part.portfolioCollector 0 "portfolio" "1token"
    let start : World :=
      { stores := .split
        replies := [.portfolio (.ok [⟨"Alpha", none, none⟩])
          [("Alpha", .ok (.ofFields [("pnl", .number (.whole 7))]))]]
        log := [], plan := .everything, builds := 0 }
    let closed := start.setStores (start.stores.switched false true)
    let first := c.toCollector.run .epoch closed
    let opened := first.2.setStores (first.2.stores.switched false false)
    let second := c.toCollector.run .epoch opened
    (first.1 = true ∧ first.2.stores.store.records.map SnapshotRecord.subjectKey = ["Alpha"] ∧
      first.2.stores.directoryStore.portfolios = []) ∧
    second.1 = true ∧ first.2.stores.KeptIn second.2.stores ∧ second.2.stores.Backed ∧
      ∃ m ∈ second.2.stores.directoryStore.portfolios, m.fundName = "Alpha" := by
  intro c start closed first opened second
  have hget (stores : Stores) (w : World) : World.stores (World.setStores stores w) = stores := rfl
  have hc : c.Over World.stores World.setStores := ⟨rfl, fun _ => rfl, fun _ _ => rfl⟩
  have hclosed : PortfolioRuns World.stores World.setStores start closed :=
    .switch .start (hget _ _)
  have hfirst : PortfolioRuns World.stores World.setStores start first.2 := hclosed.run hc .epoch
  have hopened : PortfolioRuns World.stores World.setStores start opened :=
    hfirst.switch (hget _ _)
  have hlater : PortfolioRuns World.stores World.setStores first.2 second.2 :=
    (PortfolioRuns.start.switch (hget _ _)).run hc .epoch
  obtain ⟨-, hkept, -⟩ := masters_follow_records hget rfl hfirst
  obtain ⟨hbacked, -, -⟩ := masters_follow_records hget rfl (hopened.run hc .epoch)
  obtain ⟨-, -, hleaves⟩ := masters_follow_records hget rfl hopened
  have hsubjects : (c.batch .epoch opened).map SnapshotRecord.subjectKey = ["Alpha"] := by
    decide +kernel
  -- what the second run has to write, it can write
  have hmaster : ∃ m ∈ second.2.stores.directoryStore.portfolios, m.fundName = "Alpha" := by
    have hsecond : c.Leaves World.stores .epoch opened second := hleaves c hc .epoch
    clear_value second
    cases hsecond with
    | idle hnone =>
      rw [hnone] at hsubjects
      cases hsubjects
    | refused _ hfails => cases hfails
    | stored _ _ _ h =>
      rw [hsubjects] at h
      exact h.complete (by decide +kernel) "Alpha" (List.mem_singleton_self _)
  exact ⟨by decide +kernel, by decide +kernel, hkept second.2 hlater, hbacked, hmaster⟩

end HourlySnapshots
