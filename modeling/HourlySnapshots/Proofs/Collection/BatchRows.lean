import HourlySnapshots.Proofs.Collection.FundDetails
import HourlySnapshots.Proofs.Collection.FundMasters
import HourlySnapshots.Proofs.Collection.WalletBalances

/-!
# Rows of a batch

A run writes one batch, with one row for each valid point. No list is searched for repetitions,
neither one that a service answers nor one that is configured: a batch has as many rows about a
subject as valid points were made of entries that name it. Entries with different subjects never
share one.
-/

namespace HourlySnapshots

open Exchange (errors)

/-! ## Batches -/

/-- Rows of one batch about entries that have been collected. -/
structure BatchOf (kind : SnapshotKind) (time : Instant) (entries : List String)
    (batch : List SnapshotRecord) : Prop where
  uniform : ∃ id, ∀ r ∈ batch, r.kind = kind ∧ r.batchId = id ∧ r.snapshotAt = time.truncateToHour
  /-- No entry gets two rows. -/
  sublist : (batch.map SnapshotRecord.subjectKey).Sublist entries
  distinct : entries.Nodup → (batch.map SnapshotRecord.subjectKey).Nodup

theorem BatchOf.of_sublist {kind : SnapshotKind} {time : Instant} {entries : List String}
    {batch : List SnapshotRecord} (stamp : Stamp)
    (huniform : ∀ r ∈ batch, r.kind = kind ∧ r.batchId = stamp.batchId ∧
      r.snapshotAt = time.truncateToHour)
    (hsublist : (batch.map SnapshotRecord.subjectKey).Sublist entries) :
    BatchOf kind time entries batch :=
  ⟨⟨stamp.batchId, huniform⟩, hsublist, hsublist.nodup⟩

theorem BatchOf.nil (kind : SnapshotKind) (time : Instant) (entries : List String) :
    BatchOf kind time entries [] :=
  .of_sublist default (fun r hr => by cases hr) (List.nil_sublist entries)

/--
A batch was appended to the records of a store, with a row for each of its keys in order unless
nothing can be written, and nothing else was done to them.
-/
def WritesBatch (kind : SnapshotKind) (time : Instant) (keys entries : List String)
    (s s' : Stores) : Prop :=
  ∃ batch, s'.store.records = s.store.records ++ batch ∧
    batch.map SnapshotRecord.subjectKey = (if s.store.failWrites then [] else keys) ∧
    BatchOf kind time entries batch

/-! ## Runs -/

section

variable {σ : Type} {get : σ → Stores} {set : Stores → σ → σ} {time : Instant} {x : σ}

/-- Writing the records of a new stamp appends all of them or none. -/
theorem records_saveRecords (hget : ∀ stores x, get (set stores x) = stores)
    (records : Stamp → List SnapshotRecord) (x : σ) :
    let stamped := (Stores.storage get set).stamp x
    let saved := saveRecords (Stores.storage get set) (records stamped.1) stamped.2
    (get saved.2).store.records = (get x).store.records ++
      if (get x).store.failWrites then [] else records stamped.1 := by
  intro stamped saved
  have hstamped : get stamped.2 = (get x).stamp.2 := hget _ _
  have hstore : (get stamped.2).store = (get x).store := by
    rw [hstamped]
    rfl
  rw [← hstore]
  cases hfail : (get stamped.2).store.failWrites with
  | false => exact (saveRecords_open hget hfail (records stamped.1)).2
  | true =>
    unfold saved saveRecords
    split
    · exact (List.append_nil _).symm
    · have hrefused := Stores.insertBatch_closed hfail (records stamped.1)
      simp only [Stores.storage, hrefused, hget, if_true, List.append_nil]

/--
A run writes a batch if collecting leaves the stores alone, saving appends the records of what was
gathered unless nothing can be written, and each item has a record under its key.
-/
theorem Collector.writesBatch {α : Type} {c : Collector σ α} {kind : SnapshotKind}
    {records : Stamp → List SnapshotRecord} {key : α → String} {entries : List String}
    (hcollect : get (c.collect time x).2 = get x)
    (hsave : ∀ y, ∃ stamp, (get (c.save (c.gathered time x) y).2).store.records =
      (get y).store.records ++ if (get y).store.failWrites then [] else records stamp)
    (huniform : ∀ stamp, ∀ r ∈ records stamp, r.kind = kind ∧ r.batchId = stamp.batchId ∧
      r.snapshotAt = time.truncateToHour)
    (hsubjects : ∀ stamp, (records stamp).map SnapshotRecord.subjectKey =
      (c.gathered time x).items.map key)
    (hkeys : ((c.collect time x).1.items.map key).Sublist entries) :
    WritesBatch kind time ((c.gathered time x).items.map key) entries (get x)
      (get (c.run time x).2) := by
  have hgathered : ((c.gathered time x).items.map key).Sublist entries := by
    rw [items_gathered]
    exact (List.filter_sublist.map key).trans hkeys
  -- without a valid item, the state is that after collecting
  have hnothing (h : (c.gathered time x).items = []) :
      WritesBatch kind time ((c.gathered time x).items.map key) entries (get x)
        (get (c.collect time x).2) := by
    rw [h, hcollect]
    exact ⟨[], by rw [List.append_nil], by simp, .nil kind time entries⟩
  have hnone (h : (c.collect time x).1.items = []) : (c.gathered time x).items = [] := by
    rw [items_gathered, h, List.filter_nil]
  have hran := c.ran time x
  generalize c.run time x = answer at hran ⊢
  cases hran with
  | failed h => exact hnothing (hnone (by rw [CollectionResult.items, h]))
  | nothing h => exact hnothing (hnone (by rw [CollectionResult.items, h]))
  | invalid _ h => exact hnothing h
  | saved _ hsaved | unsaved _ hsaved =>
    obtain ⟨stamp, hrecords⟩ := hsave (c.collect time x).2
    rw [hsaved, hcollect] at hrecords
    refine ⟨_, hrecords, ?_⟩
    cases (get x).store.failWrites with
    | true => exact ⟨rfl, .nil kind time entries⟩
    | false =>
      refine ⟨hsubjects stamp, .of_sublist stamp (huniform stamp) ?_⟩
      rw [← hsubjects stamp] at hgathered
      exact hgathered

/-! ### Portfolios -/

namespace PortfolioCollector

/-- The trimmed names of the funds that the service lists under a name. -/
def listed (c : PortfolioCollector σ) (x : σ) : List String :=
  match (c.api.list x).1 with
  | .ok summaries => (named summaries).map fun summary => Text.trimmed summary.fundName
  | .error _ => []

theorem fundNames_pointsOf (time : Instant) (talk : List (Exchange PortfolioSummary Json)) :
    ((pointsOf time talk).map PortfolioPoint.fundName).Sublist
      ((talk.map Exchange.entry).map fun summary => Text.trimmed summary.fundName) := by
  induction talk with
  | nil => exact List.nil_sublist _
  | cons exchange rest ih =>
    obtain ⟨summary, e | detail⟩ := exchange
    · exact ih.cons _
    · exact ih.cons_cons _

/-- The funds of the points are listed, each as often at least as it has points. -/
theorem fundNames_items (c : PortfolioCollector σ) (time : Instant) (x : σ) :
    ((c.collect time x).1.items.map PortfolioPoint.fundName).Sublist (c.listed x) := by
  unfold collect listed
  rcases c.api.list x with ⟨e | summaries, y⟩
  · exact List.nil_sublist _
  · obtain ⟨talk, z, -, hends⟩ := exists_asks c.api time summaries y
    rcases hends with ⟨hall, hharvest⟩ | ⟨e, -, hharvest⟩
    · have hyields := yields_settle talk (pointsOf time talk)
      simp only [hharvest]
      rw [← hall.entries_eq]
      show ((CollectionResult.items ⟨settle (pointsOf time talk, (errors talk).getLast?),
        time⟩).map _).Sublist _
      cases hsettle : settle (pointsOf time talk, (errors talk).getLast?) with
      | error e => exact List.nil_sublist _
      | ok found =>
        rw [hyields.items_eq found hsettle]
        exact fundNames_pointsOf time talk
    · simp only [hharvest]
      exact List.nil_sublist _

theorem Over.writesBatch (hget : ∀ stores x, get (set stores x) = stores)
    {c : PortfolioCollector σ} (hc : c.Over get set) (time : Instant) (x : σ) :
    WritesBatch .portfolioProfit time
      ((c.toCollector.gathered time x).items.map PortfolioPoint.fundName) (c.listed x) (get x)
      (get (c.toCollector.run time x).2) := by
  have hkeys : ((c.toCollector.gathered time x).items.map PortfolioPoint.fundName).Sublist
      (c.listed x) := by
    rw [Collector.items_gathered]
    exact (List.filter_sublist.map _).trans (c.fundNames_items time x)
  have huniform : ∀ r ∈ c.batch time x, r.kind = .portfolioProfit ∧
      r.batchId = (c.storage.stamp (c.collect time x).2).1.batchId ∧
      r.snapshotAt = time.truncateToHour := by
    intro r hr
    obtain ⟨p, hp, hrecord⟩ := List.mem_filterMap.mp hr
    obtain ⟨profit, -, rfl⟩ := Option.map_eq_some_iff.mp hrecord
    have hhour : p.snapshotAt = time.truncateToHour :=
      snapshotAt_of_mem (Collector.mem_gathered.mp hp).1
    refine ⟨rfl, rfl, ?_⟩
    simp only [hhour, Instant.truncateToHour_truncateToHour]
  have hleaves := hc.leaves hget time x
  generalize c.toCollector.run time x = answer at hleaves ⊢
  cases hleaves with
  | idle hnone _ h =>
    rw [batch_eq_nil.mp hnone]
    exact ⟨[], by rw [h.store, List.append_nil], by simp, .nil _ _ _⟩
  | refused _ hclosed h =>
    exact ⟨[], by rw [h.store, List.append_nil], by simp [hclosed], .nil _ _ _⟩
  | stored _ hopen hrecords _ =>
    refine ⟨_, hrecords, ?_, .of_sublist _ huniform (subjects_batch ▸ hkeys)⟩
    rw [hopen, subjects_batch]
    rfl

end PortfolioCollector

/-! ### Balances -/

/-- The key that records of an asset of a wallet are kept under. -/
def CustodyAsset.keyIn (wallet : CustodyWallet) (asset : CustodyAsset) : String :=
  let key := wallet.walletId ++ ":" ++ normalSymbol asset.coinSymbol
  match asset.network with
  | some network => if network.isEmpty then key else key ++ ":" ++ network
  | none => key

namespace WalletAssetPoint

theorem subjectKey_ofAsset (prices : PriceOracle σ) (wallet : CustodyWallet) (time : Instant)
    (asset : CustodyAsset) (x : σ) :
    (ofAsset prices wallet time asset x).1.subjectKey = asset.keyIn wallet := rfl

/-- Every valid point makes a record, and the record is about its asset. -/
theorem subjects_of_valid {points : List WalletAssetPoint} (h : ∀ p ∈ points, p.validate = none)
    (sourceTag : String) (stamp : Stamp) :
    (points.filterMap (toRecord? sourceTag stamp)).map SnapshotRecord.subjectKey =
      points.map subjectKey := by
  induction points with
  | nil => rfl
  | cons p rest ih =>
    obtain ⟨r, hr⟩ := exists_toRecord? (h p List.mem_cons_self) sourceTag stamp
    have hkey : r.subjectKey = p.subjectKey := by
      obtain ⟨balance, -, rfl⟩ := Option.map_eq_some_iff.mp hr
      rfl
    have hrest := ih fun other hother => h other (List.mem_cons_of_mem p hother)
    rw [List.filterMap_cons_some hr, List.map_cons, hkey, hrest, List.map_cons]

end WalletAssetPoint

namespace WalletCollector

/-- The wallets that a collection asks, in order, with their answers; none if none are known. -/
def Visits (c : WalletCollector σ) (time : Instant) (x : σ)
    (talk : List (Exchange CustodyWallet (List CustodyAsset))) : Prop :=
  match c.knownWallets x with
  | (.ok wallets, start) =>
    Asks (c.visit time) talk start (c.collect time x).2 ∧ talk.map Exchange.entry <+: wallets
  | (.error _, _) => talk = []

/-- The keys of the points are those of assets that have been answered. -/
theorem exists_visits (c : WalletCollector σ) (time : Instant) (x : σ) :
    ∃ talk, c.Visits time x talk ∧
      ((c.collect time x).1.items.map WalletAssetPoint.subjectKey).Sublist
        (ofAnswers (fun wallet asset => asset.keyIn wallet) talk) := by
  unfold Visits collect
  rcases c.knownWallets x with ⟨e | wallets, start⟩
  · exact ⟨[], rfl, List.nil_sublist _⟩
  · have hpart (wallet : CustodyWallet) (asset : CustodyAsset) (x : σ) :=
      WalletAssetPoint.subjectKey_ofAsset c.prices wallet time asset x
    obtain ⟨talk, z, hasks, hends⟩ := exists_asks hpart wallets start
    refine ⟨talk, ?_⟩
    rcases hends with ⟨points, hall, hpoints, hharvest⟩ | ⟨e, huntil, hharvest⟩
    · simp only [hharvest]
      refine ⟨⟨hasks, hall.entries_eq ▸ List.prefix_rfl⟩, ?_⟩
      rw [← hpoints]
      refine List.Sublist.map _ ?_
      have hyields := yields_settle hall points
      show (CollectionResult.items ⟨settle wallets.length _, time⟩).Sublist points
      unfold CollectionResult.items
      cases hsettle : settle wallets.length
          ⟨points, (errors talk).length, (errors talk).getLast?⟩ with
      | error e => exact List.nil_sublist _
      | ok found => exact hyields.items_eq found hsettle ▸ List.Sublist.refl _
    · simp only [hharvest]
      exact ⟨⟨hasks, huntil.entries_prefix⟩, List.nil_sublist _⟩

theorem Over.writesBatch (hget : ∀ stores x, get (set stores x) = stores) {c : WalletCollector σ}
    (hc : c.Over get set) (time : Instant) (x : σ) :
    ∃ talk, c.Visits time x talk ∧
      WritesBatch .walletAsset time
        ((c.toCollector.gathered time x).items.map WalletAssetPoint.subjectKey)
        (ofAnswers (fun wallet asset => asset.keyIn wallet) talk) (get x)
        (get (c.toCollector.run time x).2) := by
  obtain ⟨talk, hvisits, hkeys⟩ := c.exists_visits time x
  let records := fun stamp => (c.toCollector.gathered time x).items.filterMap
    (WalletAssetPoint.toRecord? c.sourceTag stamp)
  have hsave (y : σ) : ∃ stamp,
      (get (c.toCollector.save (c.toCollector.gathered time x) y).2).store.records =
        (get y).store.records ++ if (get y).store.failWrites then [] else records stamp := by
    show ∃ stamp, (get (c.save (c.toCollector.gathered time x) y).2).store.records = _
    unfold save
    rw [hc.storage]
    exact ⟨_, records_saveRecords hget records y⟩
  refine ⟨talk, hvisits, Collector.writesBatch (hc.collect time x) hsave ?_ ?_ hkeys⟩
  · intro stamp r hr
    obtain ⟨p, hp, hrecord⟩ := List.mem_filterMap.mp hr
    obtain ⟨balance, -, rfl⟩ := Option.map_eq_some_iff.mp hrecord
    have hhour : p.snapshotAt = time.truncateToHour :=
      snapshotAt_of_mem (Collector.mem_gathered.mp hp).1
    refine ⟨rfl, rfl, ?_⟩
    simp only [hhour, Instant.truncateToHour_truncateToHour]
  · intro stamp
    exact WalletAssetPoint.subjects_of_valid
      (fun _ hp => (Collector.mem_gathered.mp hp).2) c.sourceTag stamp

end WalletCollector

/-! ### Rates -/

namespace RateCollector

/-- The keys of the configured pairs, in order. -/
def pairKeys (c : RateCollector σ) : List String := (c.portions.flatMap (·.2)).map RatePair.key

/-- The collector writes to the stores of a larger state, and its sources leave them alone. -/
structure Over (get : σ → Stores) (set : Stores → σ → σ) (c : RateCollector σ) : Prop where
  storage : c.storage = Stores.storage get set
  fetch : ∀ portion ∈ c.portions, ∀ pairs x, get (portion.1.fetch pairs x).2 = get x

theorem keys_collectPortions (time : Instant) (portions : List (RateSource σ × List RatePair))
    (x : σ) :
    (collectPortions time portions x).1.map RatePoint.key =
      (portions.flatMap (·.2)).map RatePair.key := by
  induction portions generalizing x with
  | nil => rfl
  | cons portion rest ih =>
    unfold collectPortions
    simp only [collectPortion, List.map_append, List.map_map, ih, List.flatMap_cons]
    rfl

theorem Over.writesBatch (hget : ∀ stores x, get (set stores x) = stores) {c : RateCollector σ}
    (hc : c.Over get set) (time : Instant) (x : σ) :
    WritesBatch .exchangeRate time
      ((c.toCollector.gathered time x).items.map RatePoint.key) c.pairKeys (get x)
      (get (c.toCollector.run time x).2) := by
  let records := fun stamp => (c.toCollector.gathered time x).items.map (RatePoint.toRecord stamp)
  have hcollect : get (c.collect time x).2 = get x :=
    (collectPortions_keeps (R := fun x y => get x = get y) (fun _ => rfl) Eq.trans
      (fun portion hportion pairs x => (hc.fetch portion hportion pairs x).symm) x).symm
  have hsave (y : σ) : ∃ stamp,
      (get (c.toCollector.save (c.toCollector.gathered time x) y).2).store.records =
        (get y).store.records ++ if (get y).store.failWrites then [] else records stamp := by
    show ∃ stamp, (get (c.save (c.toCollector.gathered time x) y).2).store.records = _
    unfold save
    rw [hc.storage]
    exact ⟨_, records_saveRecords hget records y⟩
  refine Collector.writesBatch hcollect hsave ?_ ?_ ?_
  · intro stamp r hr
    obtain ⟨p, hp, rfl⟩ := List.mem_map.mp hr
    have hhour : p.snapshotAt = time.truncateToHour :=
      snapshotAt_of_mem (Collector.mem_gathered.mp hp).1
    refine ⟨rfl, rfl, ?_⟩
    simp only [RatePoint.toRecord, hhour, Instant.truncateToHour_truncateToHour]
  · intro stamp
    rw [List.map_map]
    rfl
  · exact (keys_collectPortions time c.portions x) ▸ List.Sublist.refl _

end RateCollector

/-! ### All collectors -/

/--
Whatever the services answer, a run of any collector appends nothing but one batch, with one row for
each valid point unless nothing can be written. The rows are about funds that are listed, about
assets that wallets have answered, or about pairs that are configured; no entry gets two rows, and
neither does a subject if no two entries name the same.
-/
theorem one_row_for_each_entry (hget : ∀ stores x, get (set stores x) = stores) (time : Instant)
    (x : σ) :
    (∀ c : PortfolioCollector σ, c.Over get set →
      WritesBatch .portfolioProfit time
        ((c.toCollector.gathered time x).items.map PortfolioPoint.fundName) (c.listed x) (get x)
        (get (c.toCollector.run time x).2)) ∧
    (∀ c : WalletCollector σ, c.Over get set → ∃ talk, c.Visits time x talk ∧
      WritesBatch .walletAsset time
        ((c.toCollector.gathered time x).items.map WalletAssetPoint.subjectKey)
        (WalletCollector.ofAnswers (fun wallet asset => asset.keyIn wallet) talk) (get x)
        (get (c.toCollector.run time x).2)) ∧
    ∀ c : RateCollector σ, c.Over get set →
      WritesBatch .exchangeRate time
        ((c.toCollector.gathered time x).items.map RatePoint.key) c.pairKeys (get x)
        (get (c.toCollector.run time x).2) :=
  ⟨fun _ hc => hc.writesBatch hget time x, fun _ hc => hc.writesBatch hget time x,
    fun _ hc => hc.writesBatch hget time x⟩

end

/-- Two funds with different names, an asset and a pair: each has a row, and no row is about two. -/
theorem rows_of_different_entries :
    let start : World :=
      { stores := .single
        replies := [
          .portfolio (.ok [⟨"Alpha", none, none⟩, ⟨" Beta ", none, none⟩])
            [("Alpha", .ok (.ofFields [("pnl", .number (.whole 7))])),
              (" Beta ", .ok (.ofFields [("pnl", .number (.whole 8))]))],
          .custody (.ok [⟨"w1", none⟩])
            [("w1", .ok [⟨"usdt", some "ETH", some (.literal 5 0), none, none⟩])] (.table .empty),
          .rates [.ok []]]
        log := [], plan := .everything, builds := 0 }
    let portfolios := Part.portfolioCollector 0 "portfolio" "1token"
    let wallets := Part.walletCollector 1 "wallet" []
    let rates := Part.rateCollector 2 "rate" [("bank", [.of "usd" "twd" (.literal 32 0)])]
    (∀ c ∈ [portfolios.toCollector.run .epoch start, wallets.toCollector.run .epoch start,
        rates.toCollector.run .epoch start], c.1 = true) ∧
      WritesBatch .portfolioProfit .epoch ["Alpha", "Beta"] ["Alpha", "Beta"] start.stores
        (portfolios.toCollector.run .epoch start).2.stores ∧
      (∃ talk, wallets.Visits .epoch start talk ∧
        WritesBatch .walletAsset .epoch ["w1:USDT:ETH"]
          (WalletCollector.ofAnswers (fun wallet asset => asset.keyIn wallet) talk) start.stores
          (wallets.toCollector.run .epoch start).2.stores) ∧
      WritesBatch .exchangeRate .epoch ["USD/TWD"] ["USD/TWD"] start.stores
        (rates.toCollector.run .epoch start).2.stores := by
  intro start portfolios wallets rates
  have hget (stores : Stores) (w : World) : World.stores (World.setStores stores w) = stores := rfl
  have hportfolios : portfolios.Over World.stores World.setStores :=
    ⟨rfl, fun _ => rfl, fun _ _ => rfl⟩
  have hwallets : wallets.Over World.stores World.setStores :=
    ⟨rfl, fun _ => rfl, fun _ _ => rfl,
      fun symbol w => congrArg World.stores (World.prices_snd 1 symbol w)⟩
  have hrates : rates.Over World.stores World.setStores := by
    refine ⟨rfl, fun portion hportion pairs x => ?_⟩
    obtain rfl := List.mem_singleton.mp hportion
    rfl
  obtain ⟨hfunds, hassets, hpairs⟩ := one_row_for_each_entry hget .epoch start
  have hfundKeys : (portfolios.toCollector.gathered .epoch start).items.map
      PortfolioPoint.fundName = ["Alpha", "Beta"] := by decide +kernel
  have hlisted : portfolios.listed start = ["Alpha", "Beta"] := by decide +kernel
  have hassetKeys : (wallets.toCollector.gathered .epoch start).items.map
      WalletAssetPoint.subjectKey = ["w1:USDT:ETH"] := by decide +kernel
  have hpairKeys : (rates.toCollector.gathered .epoch start).items.map RatePoint.key =
      ["USD/TWD"] := by decide +kernel
  have hconfigured : rates.pairKeys = ["USD/TWD"] := by decide +kernel
  have hfunds := hfunds portfolios hportfolios
  have hassets := hassets wallets hwallets
  have hpairs := hpairs rates hrates
  rw [hfundKeys, hlisted] at hfunds
  rw [hassetKeys] at hassets
  rw [hpairKeys, hconfigured] at hpairs
  exact ⟨by decide +kernel, hfunds, hassets, hpairs⟩

/--
A fund that is listed twice has two rows in one batch, and so have an asset that a wallet answers
twice, in one case and the other, and a pair that is configured twice.
-/
theorem rows_of_repeated_entries :
    let start : World :=
      { stores := .single
        replies := [
          .portfolio (.ok [⟨"Alpha", none, none⟩, ⟨"Alpha", none, none⟩])
            [("Alpha", .ok (.ofFields [("pnl", .number (.whole 7))]))],
          .custody (.ok [⟨"w1", none⟩])
            [("w1", .ok [⟨"USDT", none, some (.literal 5 0), none, none⟩,
              ⟨" usdt ", none, some (.literal 5 0), none, none⟩])] (.table .empty),
          .rates [.ok []]]
        log := [], plan := .everything, builds := 0 }
    let pairs : List RatePair := [.of "usd" "twd" (.literal 32 0), .of "USD" "TWD" (.literal 32 0)]
    let portfolios := Part.portfolioCollector 0 "portfolio" "1token"
    let wallets := Part.walletCollector 1 "wallet" []
    let rates := Part.rateCollector 2 "rate" [("bank", pairs)]
    let rows (run : Bool × World) := run.2.stores.store.records.map fun r =>
      (r.batchId, r.kind, r.subjectKey)
    ¬ (rows (portfolios.toCollector.run .epoch start)).Nodup ∧
      ¬ (rows (wallets.toCollector.run .epoch start)).Nodup ∧
      ¬ (rows (rates.toCollector.run .epoch start)).Nodup := by
  decide +kernel

end HourlySnapshots
