import HourlySnapshots.Proofs.Calendar.Boundary
import HourlySnapshots.Proofs.Collection.Runs
import HourlySnapshots.Rehearsal.Stores

/-!
# What collectors store

The records of each kind keep what the checks of their collector have let through, and a run of a
collector does nothing to the store but append such records, whatever its services answer.
-/

namespace HourlySnapshots

/-- What holds of every stored record, by its kind. -/
structure SnapshotRecord.Sound (r : SnapshotRecord) : Prop where
  aligned : r.snapshotAt.isHourAligned = true
  profit : r.kind = .portfolioProfit →
    Text.allBlank r.subjectKey = false ∧ r.usdValue = none ∧
      ∀ nav ∈ r.secondaryValue, nav.isNegative = false
  asset : r.kind = .walletAsset →
    r.value.isNegative = false ∧ (∀ custody ∈ r.secondaryValue, custody.isNegative = false) ∧
      ∀ usd ∈ r.usdValue, usd.isNegative = false
  rate : r.kind = .exchangeRate → r.value.isPositive = true

/-! ## Records of valid items -/

/-- The rate of a checked point is greater than zero, and so is the value of its record. -/
theorem RatePoint.sound_toRecord {p : RatePoint} (h : p.validate = none) (stamp : Stamp) :
    (p.toRecord stamp).Sound := by
  have hpositive : p.rate.isPositive = true := by
    by_contra hrate
    simp [RatePoint.validate, hrate] at h
    split at h
    · cases h
    · split at h <;> cases h
  constructor
  · exact Instant.isHourAligned_truncateToHour p.snapshotAt
  · intro hkind
    cases hkind
  · intro hkind
    cases hkind
  · intro _
    exact hpositive

/-- The record of a checked point names its fund and has no negative net asset value. -/
theorem PortfolioPoint.sound_of_toRecord? {p : PortfolioPoint} {r : SnapshotRecord}
    {sourceTag : String} {stamp : Stamp} (h : p.validate = none)
    (hr : p.toRecord? sourceTag stamp = some r) : r.Sound := by
  obtain ⟨profit, -, rfl⟩ := Option.map_eq_some_iff.mp hr
  unfold PortfolioPoint.validate at h
  split at h
  · cases h
  · next hname =>
    split at h
    · cases h
    · constructor
      · exact Instant.isHourAligned_truncateToHour p.snapshotAt
      · intro _
        refine ⟨by simpa using hname, rfl, ?_⟩
        intro nav hnav
        have hsome : p.nav = some nav := hnav
        rw [hsome] at h
        simpa using h
      · intro hkind
        cases hkind
      · intro hkind
        cases hkind

/-- An amount passes the check just when it is not negative. -/
theorem WalletAssetPoint.nonNegative_eq_none {field : String} {amount : Decimal} :
    nonNegative field amount = none ↔ amount.isNegative = false := by
  unfold nonNegative
  split <;> simp_all

/-- Neither the amounts in the record of a checked balance nor their values are negative. -/
theorem WalletAssetPoint.sound_of_toRecord? {p : WalletAssetPoint} {r : SnapshotRecord}
    {sourceTag : String} {stamp : Stamp} (h : p.validate = none)
    (hr : p.toRecord? sourceTag stamp = some r) : r.Sound := by
  obtain ⟨balance, hbalance, rfl⟩ := Option.map_eq_some_iff.mp hr
  unfold WalletAssetPoint.validate at h
  split at h
  · cases h
  · split at h
    · cases h
    · rw [hbalance] at h
      simp only [Option.or_eq_none_iff, Option.bind_eq_none_iff, nonNegative_eq_none] at h
      constructor
      · exact Instant.isHourAligned_truncateToHour p.snapshotAt
      · intro hkind
        cases hkind
      · intro _
        exact ⟨h.1.1, h.1.2, h.2⟩
      · intro hkind
        cases hkind

/-! ## Records of an hour -/

/-- What holds of every record that a collector makes of a valid point of an hour. -/
structure SnapshotRecord.HoldsAt (time : Instant) (P : SnapshotRecord → Prop) : Prop where
  profit : ∀ {p : PortfolioPoint} {r : SnapshotRecord} {sourceTag : String} {stamp : Stamp},
    p.validate = none → p.snapshotAt = time.truncateToHour →
      p.toRecord? sourceTag stamp = some r → P r
  asset : ∀ {p : WalletAssetPoint} {r : SnapshotRecord} {sourceTag : String} {stamp : Stamp},
    p.validate = none → p.snapshotAt = time.truncateToHour →
      p.toRecord? sourceTag stamp = some r → P r
  rate : ∀ {p : RatePoint} {stamp : Stamp},
    p.validate = none → p.snapshotAt = time.truncateToHour → P (p.toRecord stamp)

/-- What makes a record sound is checked of its point, whatever the hour. -/
theorem SnapshotRecord.holdsAt_sound (time : Instant) : HoldsAt time Sound where
  profit hvalid _ hr := PortfolioPoint.sound_of_toRecord? hvalid hr
  asset hvalid _ hr := WalletAssetPoint.sound_of_toRecord? hvalid hr
  rate hvalid _ := RatePoint.sound_toRecord hvalid _

/-- A record is for the hour that its point is for. -/
theorem SnapshotRecord.holdsAt_snapshotAt (time : Instant) :
    HoldsAt time fun r => r.snapshotAt = time.truncateToHour where
  profit _ hhour hr := by
    obtain ⟨profit, -, rfl⟩ := Option.map_eq_some_iff.mp hr
    simp only [hhour, Instant.truncateToHour_truncateToHour]
  asset _ hhour hr := by
    obtain ⟨balance, -, rfl⟩ := Option.map_eq_some_iff.mp hr
    simp only [hhour, Instant.truncateToHour_truncateToHour]
  rate _ hhour := by
    simp only [RatePoint.toRecord, hhour, Instant.truncateToHour_truncateToHour]

/-! ## Batches -/

/-- An open store takes a batch as a whole and answers as many ids as the batch has records. -/
theorem Stores.insertBatch_open {s : Stores} (hopen : s.store.failWrites = false)
    (batch : List SnapshotRecord) :
    (s.insertBatch batch).1.map List.length = .ok batch.length ∧
      (s.insertBatch batch).2.store.records = s.store.records ++ batch := by
  have hids : (Store.number s.store.lastId batch).length = batch.length := by
    rw [← List.length_map (f := (·.2)), Store.map_snd_number]
  simp [Stores.insertBatch, Store.insertBatch, hopen, Store.records, Store.map_snd_number, hids,
    Except.map]

/-- A closed store refuses a batch and stays as it is. -/
theorem Stores.insertBatch_closed {s : Stores} (hclosed : s.store.failWrites = true)
    (batch : List SnapshotRecord) : s.insertBatch batch = (.error Store.offline, s) := by
  simp [Stores.insertBatch, Store.insertBatch, hclosed]

/-- Writing a batch neither opens nor closes the stores. -/
theorem Stores.refused_insertBatch (s : Stores) (batch : List SnapshotRecord) :
    ((s.insertBatch batch).2.store.failWrites, (s.insertBatch batch).2.directoryStore.failWrites) =
      (s.store.failWrites, s.directoryStore.failWrites) := by
  have hkept : (s.store.insertBatch batch).2.failWrites = s.store.failWrites := by
    unfold Store.insertBatch
    split <;> rfl
  unfold Stores.insertBatch Stores.directoryStore
  cases s.directory <;> simp [hkept]

/-! ## The directory -/

namespace Stores

@[simp] theorem directoryStore_setDirectory (s : Stores) (changed : Store) :
    (s.setDirectory changed).directoryStore = changed := by
  unfold setDirectory directoryStore
  split <;> rename_i h <;> simp [h]

@[simp] theorem setDirectory_directoryStore (s : Stores) :
    s.setDirectory s.directoryStore = s := by
  obtain ⟨store, _ | directory, stamps⟩ := s <;> rfl

/-- Registering a portfolio neither opens nor closes the stores. -/
theorem refused_registerIfAbsent (s : Stores) (master : PortfolioMaster) :
    ((s.registerIfAbsent master).2.store.failWrites,
        (s.registerIfAbsent master).2.directoryStore.failWrites) =
      (s.store.failWrites, s.directoryStore.failWrites) := by
  have hkept (store : Store) : (store.registerIfAbsent master).2.failWrites = store.failWrites := by
    unfold Store.registerIfAbsent
    split
    · rfl
    · split <;> rfl
  unfold registerIfAbsent setDirectory directoryStore
  cases s.directory <;> simp [hkept]

/-- It leaves the records as they are. -/
theorem records_registerIfAbsent (s : Stores) (master : PortfolioMaster) :
    (s.registerIfAbsent master).2.store.records = s.store.records := by
  have hkept (store : Store) : (store.registerIfAbsent master).2.records = store.records := by
    unfold Store.registerIfAbsent
    split
    · rfl
    · split <;> rfl
  unfold registerIfAbsent setDirectory directoryStore
  cases s.directory <;> simp [hkept]

/-- A closed directory refuses an entry and stays as it is. -/
theorem registerIfAbsent_closed {s : Stores} (hclosed : s.directoryStore.failWrites = true)
    (master : PortfolioMaster) : s.registerIfAbsent master = (.error Store.offline, s) := by
  simp [registerIfAbsent, Store.registerIfAbsent, hclosed]

/-- An open directory takes an entry unless it has one of the same fund. -/
theorem registerIfAbsent_open {s : Stores} (hopen : s.directoryStore.failWrites = false)
    (master : PortfolioMaster) :
    (∃ kept, (s.registerIfAbsent master).1 = .ok kept) ∧
      (s.registerIfAbsent master).2.directoryStore.portfolios =
        if s.directoryStore.portfolios.any fun kept => kept.fundName == master.fundName then
          s.directoryStore.portfolios
        else s.directoryStore.portfolios ++ [master] := by
  unfold registerIfAbsent Store.registerIfAbsent
  simp only [hopen, Bool.false_eq_true, if_false, directoryStore_setDirectory]
  split
  · exact ⟨⟨false, rfl⟩, rfl⟩
  · exact ⟨⟨true, rfl⟩, rfl⟩

end Stores

/-! ## The store grows -/

/-- Records with a property have been appended to those of a store, and nothing else was done. -/
def Stores.ExtendsBy (P : SnapshotRecord → Prop) (s s' : Stores) : Prop :=
  ∃ batch, s'.store.records = s.store.records ++ batch ∧ ∀ r ∈ batch, P r

/-- Sound records have been appended to those of a store, and nothing else has changed them. -/
def Stores.Extends (s s' : Stores) : Prop :=
  ∃ batch, s'.store.records = s.store.records ++ batch ∧ ∀ r ∈ batch, r.Sound

namespace Stores.ExtendsBy

variable {P : SnapshotRecord → Prop} {s s' s'' : Stores}

/-- Stores whose records stay the same have grown by nothing. -/
theorem of_eq (h : s'.store.records = s.store.records) : s.ExtendsBy P s' :=
  ⟨[], by simp [h], by simp⟩

theorem refl (s : Stores) : s.ExtendsBy P s := of_eq rfl

/-- What is appended step by step has been appended. -/
theorem trans (h : s.ExtendsBy P s') (h' : s'.ExtendsBy P s'') : s.ExtendsBy P s'' := by
  obtain ⟨batch, hbatch, hgood⟩ := h
  obtain ⟨batch', hbatch', hgood'⟩ := h'
  refine ⟨batch ++ batch', by rw [hbatch', hbatch, List.append_assoc], fun r hr => ?_⟩
  exact (List.mem_append.mp hr).elim (hgood r) (hgood' r)

/-- A batch is appended as a whole, or nothing when the store is closed. -/
theorem insertBatch {records : List SnapshotRecord} (h : ∀ r ∈ records, P r) :
    s.ExtendsBy P (s.insertBatch records).2 := by
  cases hfail : s.store.failWrites with
  | true => exact of_eq (by rw [Stores.insertBatch_closed hfail])
  | false => exact ⟨records, (Stores.insertBatch_open hfail records).2, h⟩

/-- Registering a portfolio appends no record. -/
theorem registerIfAbsent (master : PortfolioMaster) :
    s.ExtendsBy P (s.registerIfAbsent master).2 := of_eq (records_registerIfAbsent s master)

/-- Taking a stamp appends no record. -/
theorem stamp : s.ExtendsBy P s.stamp.2 := of_eq rfl

end Stores.ExtendsBy

theorem Stores.Extends.of_eq {s s' : Stores} (h : s'.store.records = s.store.records) :
    s.Extends s' := ExtendsBy.of_eq h

theorem Stores.Extends.refl (s : Stores) : s.Extends s := ExtendsBy.refl s

section

variable {σ : Type} {P : SnapshotRecord → Prop} {get : σ → Stores} {set : Stores → σ → σ}

/-- The stores that are a part of a larger state grow by records with a property. -/
def Stores.GrowBy (P : SnapshotRecord → Prop) (get : σ → Stores) (x x' : σ) : Prop :=
  (get x).ExtendsBy P (get x')

/-- The stores that are a part of a larger state grow. -/
def Stores.Grow (get : σ → Stores) (x x' : σ) : Prop := (get x).Extends (get x')

/-- Writing to an open store appends all that there is to write, and counts it. -/
theorem saveRecords_open (hget : ∀ stores x, get (set stores x) = stores) {x : σ}
    (hopen : (get x).store.failWrites = false) (records : List SnapshotRecord) :
    (saveRecords (Stores.storage get set) records x).1 = .ok records.length ∧
      (get (saveRecords (Stores.storage get set) records x).2).store.records =
        (get x).store.records ++ records := by
  unfold saveRecords
  cases records with
  | nil => simp
  | cons record rest =>
    obtain ⟨hrows, happended⟩ := Stores.insertBatch_open hopen (record :: rest)
    simp only [List.isEmpty_cons, Bool.false_eq_true, if_false, Stores.storage, hget]
    exact ⟨hrows, happended⟩

namespace Stores.GrowBy

variable {x x' x'' : σ}

theorem refl (x : σ) : GrowBy P get x x := ExtendsBy.refl (get x)

theorem trans (h : GrowBy P get x x') (h' : GrowBy P get x' x'') : GrowBy P get x x'' :=
  ExtendsBy.trans h h'

/-! ### What storage does -/

/-- Storage writes a batch to the stores it is made over. -/
theorem insertBatch (hget : ∀ stores x, get (set stores x) = stores)
    {records : List SnapshotRecord} (h : ∀ r ∈ records, P r) (x : σ) :
    GrowBy P get x ((Stores.storage get set).insertBatch records x).2 := by
  show (get x).ExtendsBy P (get (set ((get x).insertBatch records).2 x))
  rw [hget]
  exact .insertBatch h

theorem registerIfAbsent (hget : ∀ stores x, get (set stores x) = stores)
    (master : PortfolioMaster) (x : σ) :
    GrowBy P get x ((Stores.storage get set).registerIfAbsent master x).2 := by
  show (get x).ExtendsBy P (get (set ((get x).registerIfAbsent master).2 x))
  rw [hget]
  exact .registerIfAbsent master

theorem stamp (hget : ∀ stores x, get (set stores x) = stores) (x : σ) :
    GrowBy P get x ((Stores.storage get set).stamp x).2 := by
  show (get x).ExtendsBy P (get (set (get x).stamp.2 x))
  rw [hget]
  exact .stamp

/-- Saving records appends them, or nothing. -/
theorem saveRecords (hget : ∀ stores x, get (set stores x) = stores)
    {records : List SnapshotRecord} (h : ∀ r ∈ records, P r) (x : σ) :
    GrowBy P get x (saveRecords (Stores.storage get set) records x).2 := by
  unfold HourlySnapshots.saveRecords
  split
  · exact refl x
  · exact insertBatch hget h x

/-- Registering portfolios appends no record, also when it ends at a refusal. -/
theorem registerAll (hget : ∀ stores x, get (set stores x) = stores)
    (points : List PortfolioPoint) (x : σ) :
    GrowBy P get x (PortfolioCollector.registerAll (Stores.storage get set) points x) := by
  induction points generalizing x with
  | nil => exact refl x
  | cons point rest ih =>
    have hkept := registerIfAbsent (P := P) hget point.toMaster x
    unfold PortfolioCollector.registerAll
    split
    · next heq =>
      rw [heq] at hkept
      exact hkept.trans (ih _)
    · next heq =>
      rw [heq] at hkept
      exact hkept

/-! ### What collectors do -/

/-- A run makes the stores grow when collecting does, and saving what was gathered does. -/
theorem run {α : Type} {c : Collector σ α} {time : Instant} {x : σ}
    (hcollect : GrowBy P get x (c.collect time x).2)
    (hsave : ∀ next, GrowBy P get next (c.save (c.gathered time x) next).2) :
    GrowBy P get x (c.run time x).2 := by
  have hran := c.ran time x
  generalize c.run time x = answer at hran ⊢
  cases hran with
  | failed | nothing | invalid => exact hcollect
  | saved _ hsaved | unsaved _ hsaved =>
    have hgrown := hsave (c.collect time x).2
    rw [hsaved] at hgrown
    exact hcollect.trans hgrown

variable {time : Instant} (hget : ∀ stores x, get (set stores x) = stores)
  (hholds : SnapshotRecord.HoldsAt time P)

include hget hholds

/-- A run of a rate collector makes the stores grow, whatever its sources answer. -/
theorem runRates {c : RateCollector σ} (hstorage : c.storage = Stores.storage get set)
    (hfetch : ∀ portion ∈ c.portions, ∀ pairs x, GrowBy P get x (portion.1.fetch pairs x).2)
    (x : σ) : GrowBy P get x (c.toCollector.run time x).2 := by
  refine run (RateCollector.collectPortions_keeps refl trans hfetch x) fun next => ?_
  show GrowBy P get next (c.save (c.toCollector.gathered time x) next).2
  unfold RateCollector.save
  rw [hstorage]
  refine (stamp hget next).trans (saveRecords hget (fun r hr => ?_) _)
  obtain ⟨p, hp, rfl⟩ := List.mem_map.mp hr
  obtain ⟨hcollected, hvalid⟩ := Collector.mem_gathered.mp hp
  exact hholds.rate hvalid (RateCollector.snapshotAt_of_mem hcollected)

/-- A run of a portfolio collector makes the stores grow, whatever its service answers. -/
theorem runPortfolios {c : PortfolioCollector σ} (hstorage : c.storage = Stores.storage get set)
    (hlist : ∀ x, GrowBy P get x (c.api.list x).2)
    (hdetail : ∀ name x, GrowBy P get x (c.api.detail name x).2) (x : σ) :
    GrowBy P get x (c.toCollector.run time x).2 := by
  refine run (PortfolioCollector.collect_keeps refl trans hlist hdetail time x) fun next => ?_
  show GrowBy P get next (c.save (c.toCollector.gathered time x) next).2
  unfold PortfolioCollector.save
  rw [hstorage]
  have hstamped : GrowBy P get next ((Stores.storage get set).stamp next).2 := stamp hget next
  simp only
  split
  · exact hstamped
  · -- points without a profit are left out, all others have been checked
    have hgood : ∀ r ∈ (c.toCollector.gathered time x).items.filterMap (PortfolioPoint.toRecord?
        c.sourceTag ((Stores.storage get set).stamp next).1), P r := by
      intro r hr
      obtain ⟨p, hp, hrecord⟩ := List.mem_filterMap.mp hr
      obtain ⟨hcollected, hvalid⟩ := Collector.mem_gathered.mp hp
      exact hholds.profit hvalid (PortfolioCollector.snapshotAt_of_mem hcollected) hrecord
    have hinserted := insertBatch hget hgood ((Stores.storage get set).stamp next).2
    split
    · next heq =>
      rw [heq] at hinserted
      exact (hstamped.trans hinserted).trans (registerAll hget _ _)
    · next heq =>
      rw [heq] at hinserted
      exact hstamped.trans hinserted

/-- A run of a wallet collector makes the stores grow, whatever its services answer. -/
theorem runWallets {c : WalletCollector σ} (hstorage : c.storage = Stores.storage get set)
    (hlist : ∀ x, GrowBy P get x (c.api.list x).2)
    (hassets : ∀ wallet x, GrowBy P get x (c.api.assets wallet x).2)
    (hprices : ∀ symbol x, GrowBy P get x (c.prices symbol x).2) (x : σ) :
    GrowBy P get x (c.toCollector.run time x).2 := by
  refine run (WalletCollector.collect_keeps refl trans hlist hassets hprices time x) fun next => ?_
  show GrowBy P get next (c.save (c.toCollector.gathered time x) next).2
  unfold WalletCollector.save
  rw [hstorage]
  refine (stamp hget next).trans (saveRecords hget (fun r hr => ?_) _)
  obtain ⟨p, hp, hrecord⟩ := List.mem_filterMap.mp hr
  obtain ⟨hcollected, hvalid⟩ := Collector.mem_gathered.mp hp
  exact hholds.asset hvalid (WalletCollector.snapshotAt_of_mem hcollected) hrecord

end Stores.GrowBy

namespace Stores.Grow

variable {x x' x'' : σ}

theorem refl (x : σ) : Grow get x x := GrowBy.refl x

theorem trans (h : Grow get x x') (h' : Grow get x' x'') : Grow get x x'' := GrowBy.trans h h'

variable (hget : ∀ stores x, get (set stores x) = stores)

include hget

/-- A run of a rate collector appends sound records only. -/
theorem runRates {c : RateCollector σ} (hstorage : c.storage = Stores.storage get set)
    (hfetch : ∀ portion ∈ c.portions, ∀ pairs x, Grow get x (portion.1.fetch pairs x).2)
    (time : Instant) (x : σ) : Grow get x (c.toCollector.run time x).2 :=
  GrowBy.runRates hget (SnapshotRecord.holdsAt_sound time) hstorage hfetch x

/-- A run of a portfolio collector appends sound records only. -/
theorem runPortfolios {c : PortfolioCollector σ} (hstorage : c.storage = Stores.storage get set)
    (hlist : ∀ x, Grow get x (c.api.list x).2)
    (hdetail : ∀ name x, Grow get x (c.api.detail name x).2) (time : Instant) (x : σ) :
    Grow get x (c.toCollector.run time x).2 :=
  GrowBy.runPortfolios hget (SnapshotRecord.holdsAt_sound time) hstorage hlist hdetail x

/-- A run of a wallet collector appends sound records only. -/
theorem runWallets {c : WalletCollector σ} (hstorage : c.storage = Stores.storage get set)
    (hlist : ∀ x, Grow get x (c.api.list x).2)
    (hassets : ∀ wallet x, Grow get x (c.api.assets wallet x).2)
    (hprices : ∀ symbol x, Grow get x (c.prices symbol x).2) (time : Instant) (x : σ) :
    Grow get x (c.toCollector.run time x).2 :=
  GrowBy.runWallets hget (SnapshotRecord.holdsAt_sound time) hstorage hlist hassets hprices x

end Stores.Grow

end

end HourlySnapshots
