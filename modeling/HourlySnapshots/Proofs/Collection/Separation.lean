import HourlySnapshots.Proofs.Scheduler.Isolation
import HourlySnapshots.Proofs.Scheduler.StoreHistory

/-!
# The collectors share nothing but the store

Two runs of a collector from worlds that it cannot tell apart go in step: its services answer the
same, it stores the same records but for their stamps, and in the end it still cannot tell the
worlds apart. So a collector whose services are its own is separate from all others, whatever they
have stored, and so is every part of a rehearsal.
-/

namespace HourlySnapshots

namespace Sharing

variable {σ α β : Type} {S : Sharing σ} {name : String} {x y x' y' x'' y'' : σ}

/-! ## Runs in step -/

/--
Two worlds that a collector cannot tell apart have become two others that it cannot tell apart
either: the same records have been appended, and nothing that is not its own has changed.
-/
structure Follow (S : Sharing σ) (name : String) (x y x' y' : σ) : Prop where
  alike : S.Alike name x' y'
  refused : S.refused x' = S.refused x
  others : ∀ other, other ≠ name → S.own other x' = S.own other x
  append : ∃ batch, S.contents x' = S.contents x ++ batch ∧ S.contents y' = S.contents y ++ batch

theorem Follow.refl (h : S.Alike name x y) : S.Follow name x y x y :=
  ⟨h, rfl, fun _ _ => rfl, [], by simp, by simp⟩

theorem Follow.trans (h : S.Follow name x y x' y') (h' : S.Follow name x' y' x'' y'') :
    S.Follow name x y x'' y'' where
  alike := h'.alike
  refused := h'.refused.trans h.refused
  others other hne := (h'.others other hne).trans (h.others other hne)
  append := by
    obtain ⟨batch, hx, hy⟩ := h.append
    obtain ⟨batch', hx', hy'⟩ := h'.append
    exact ⟨batch ++ batch', by rw [hx', hx, List.append_assoc], by rw [hy', hy, List.append_assoc]⟩

/-- An operation that gives a collector the same answer in worlds that it cannot tell apart. -/
def Alone (S : Sharing σ) (name : String) (f : σ → α × σ) : Prop :=
  ∀ x y, S.Alike name x y → (f y).1 = (f x).1 ∧ S.Follow name x y (f x).2 (f y).2

/-- What such an operation comes to in two worlds. -/
theorem Alone.step {f : σ → α × σ} (h : S.Alone name f) (halike : S.Alike name x y) :
    ∃ a x' y', f x = (a, x') ∧ f y = (a, y') ∧ S.Follow name x y x' y' := by
  obtain ⟨hanswer, hfollow⟩ := h x y halike
  exact ⟨(f x).1, (f x).2, (f y).2, rfl, by rw [← hanswer], hfollow⟩

/-- What only looks at the world can be asked by the collector that it is about. -/
theorem Alone.of_look {f : σ → α × σ} (hsame : ∀ x, (f x).2 = x)
    (hlook : ∀ x y, S.Alike name x y → (f y).1 = (f x).1) : S.Alone name f := by
  intro x y halike
  rw [hsame x, hsame y]
  exact ⟨hlook x y halike, .refl halike⟩

/-- A collector is separate if its runs are in step. -/
theorem Separate.of_alone {c : Registered σ} (h : ∀ time, S.Alone c.name (c.act time)) :
    S.Separate c where
  answer time x y halike := (h time x y halike).1
  append time x y halike := (h time x y halike).2.append
  others time x name hne := (h time x x (.refl c.name x)).2.others name hne
  refused time x := (h time x x (.refl c.name x)).2.refused

/-! ## Writing -/

/-- Changed stores can be put back, and are nobody's own. -/
structure Storing (S : Sharing σ) (set : Stores → σ → σ) : Prop where
  stores_set : ∀ stores x, S.stores (set stores x) = stores
  own_set : ∀ stores x name, S.own name (set stores x) = S.own name x

variable {set : Stores → σ → σ}

/-- Two worlds are still alike when the same has been appended to the stores of both. -/
theorem Follow.put (hset : S.Storing set) (halike : S.Alike name x y) {s t : Stores}
    (batch : List SnapshotRecord)
    (hx : (s.store.failWrites, s.directoryStore.failWrites) = S.refused x)
    (hy : (t.store.failWrites, t.directoryStore.failWrites) = S.refused y)
    (happend : s.store.records.map SnapshotRecord.content = S.contents x ++ batch)
    (happend' : t.store.records.map SnapshotRecord.content = S.contents y ++ batch) :
    S.Follow name x y (set s x) (set t y) where
  alike := by
    refine ⟨by rw [hset.own_set, hset.own_set, halike.own], ?_⟩
    unfold Sharing.refused
    rw [hset.stores_set, hset.stores_set, hx, hy, halike.refused]
  refused := by
    rw [Sharing.refused, hset.stores_set, hx]
  others other _ := hset.own_set s x other
  append := by
    refine ⟨batch, ?_, ?_⟩
    · rw [contents, hset.stores_set]
      exact happend
    · rw [contents, hset.stores_set]
      exact happend'

/-- How many rows are written does not depend on the stamps, and neither does what they hold. -/
theorem follow_insertBatch (hset : S.Storing set) (halike : S.Alike name x y)
    {batch batch' : List SnapshotRecord}
    (hbatch : batch'.map SnapshotRecord.content = batch.map SnapshotRecord.content) :
    ((Stores.storage S.stores set).insertBatch batch' y).1.map List.length =
        ((Stores.storage S.stores set).insertBatch batch x).1.map List.length ∧
      S.Follow name x y ((Stores.storage S.stores set).insertBatch batch x).2
        ((Stores.storage S.stores set).insertBatch batch' y).2 := by
  have hfail : (S.stores y).store.failWrites = (S.stores x).store.failWrites :=
    congrArg Prod.fst halike.refused
  show ((S.stores y).insertBatch batch').1.map List.length =
      ((S.stores x).insertBatch batch).1.map List.length ∧
    S.Follow name x y (set ((S.stores x).insertBatch batch).2 x)
      (set ((S.stores y).insertBatch batch').2 y)
  -- both stores take the batch, or neither does
  cases hrefuse : (S.stores x).store.failWrites with
  | true =>
    rw [Stores.insertBatch_closed hrefuse, Stores.insertBatch_closed (hfail.trans hrefuse)]
    exact ⟨rfl, .put hset halike [] rfl rfl (by simp [contents]) (by simp [contents])⟩
  | false =>
    obtain ⟨hrows, hrecords⟩ := Stores.insertBatch_open hrefuse batch
    obtain ⟨hrows', hrecords'⟩ := Stores.insertBatch_open (hfail.trans hrefuse) batch'
    have hlength : batch'.length = batch.length := by simpa using congrArg List.length hbatch
    refine ⟨by rw [hrows, hrows', hlength], ?_⟩
    refine .put hset halike (batch.map SnapshotRecord.content) (Stores.refused_insertBatch _ _)
      (Stores.refused_insertBatch _ _) ?_ ?_
    · rw [hrecords, List.map_append]
      rfl
    · rw [hrecords', List.map_append, hbatch]
      rfl

theorem follow_stamp (hset : S.Storing set) (halike : S.Alike name x y) :
    S.Follow name x y ((Stores.storage S.stores set).stamp x).2
      ((Stores.storage S.stores set).stamp y).2 :=
  .put hset halike [] rfl rfl (List.append_nil _).symm (List.append_nil _).symm

theorem follow_saveRecords (hset : S.Storing set) (halike : S.Alike name x y)
    {batch batch' : List SnapshotRecord}
    (hbatch : batch'.map SnapshotRecord.content = batch.map SnapshotRecord.content) :
    (saveRecords (Stores.storage S.stores set) batch' y).1 =
        (saveRecords (Stores.storage S.stores set) batch x).1 ∧
      S.Follow name x y (saveRecords (Stores.storage S.stores set) batch x).2
        (saveRecords (Stores.storage S.stores set) batch' y).2 := by
  have hempty : batch'.isEmpty = batch.isEmpty := by
    simpa using congrArg List.isEmpty hbatch
  unfold saveRecords
  rw [hempty]
  split
  · exact ⟨rfl, .refl halike⟩
  · exact follow_insertBatch hset halike hbatch

/-- Registering stops at the first portfolio if the directory refuses writes, and else at none. -/
theorem follow_registerAll (hset : S.Storing set) (points : List PortfolioPoint)
    (halike : S.Alike name x y) :
    S.Follow name x y (PortfolioCollector.registerAll (Stores.storage S.stores set) points x)
      (PortfolioCollector.registerAll (Stores.storage S.stores set) points y) := by
  induction points generalizing x y with
  | nil => exact .refl halike
  | cons point rest ih =>
    have hfail : (S.stores y).directoryStore.failWrites = (S.stores x).directoryStore.failWrites :=
      congrArg Prod.snd halike.refused
    have hfollow : S.Follow name x y
        (set ((S.stores x).registerIfAbsent point.toMaster).2 x)
        (set ((S.stores y).registerIfAbsent point.toMaster).2 y) := by
      refine .put hset halike [] (Stores.refused_registerIfAbsent _ _)
        (Stores.refused_registerIfAbsent _ _) ?_ ?_
      · rw [Stores.records_registerIfAbsent, List.append_nil]
        rfl
      · rw [Stores.records_registerIfAbsent, List.append_nil]
        rfl
    have hanswer (z : σ) : (Stores.storage S.stores set).registerIfAbsent point.toMaster z =
        (((S.stores z).registerIfAbsent point.toMaster).1,
          set ((S.stores z).registerIfAbsent point.toMaster).2 z) := rfl
    unfold PortfolioCollector.registerAll
    rw [hanswer x, hanswer y]
    -- whether a portfolio was known may differ, whether it can be registered may not
    cases hrefuse : (S.stores x).directoryStore.failWrites with
    | true =>
      have hx := congrArg Prod.fst (Stores.registerIfAbsent_closed hrefuse point.toMaster)
      have hy :=
        congrArg Prod.fst (Stores.registerIfAbsent_closed (hfail.trans hrefuse) point.toMaster)
      rw [hx, hy]
      exact hfollow
    | false =>
      obtain ⟨⟨kept, hx⟩, -⟩ := Stores.registerIfAbsent_open hrefuse point.toMaster
      obtain ⟨⟨kept', hy⟩, -⟩ :=
        Stores.registerIfAbsent_open (hfail.trans hrefuse) point.toMaster
      rw [hx, hy]
      exact hfollow.trans (ih hfollow.alike)

/-! ## Collecting and saving -/

/-- Runs are in step when collecting is, and saving is. -/
theorem Alone.run {c : Collector σ α} (hcollect : ∀ time, S.Alone name (c.collect time))
    (hsave : ∀ result, S.Alone name (c.save result)) (time : Instant) :
    S.Alone name (c.run time) := by
  intro x y halike
  obtain ⟨result, x', y', hx, hy, hcollected⟩ := (hcollect time).step halike
  unfold Collector.run
  simp only [hx, hy]
  -- the same result takes the same way in both worlds
  split
  · exact ⟨rfl, hcollected⟩
  · exact ⟨rfl, hcollected⟩
  · split
    · exact ⟨rfl, hcollected⟩
    · obtain ⟨rows, x'', y'', hx', hy', hsaved⟩ :=
        (hsave (result.filterValid c.validate).1).step hcollected.alike
      simp only [hx', hy']
      cases rows <;> exact ⟨rfl, hcollected.trans hsaved⟩

/-- A collector that saves the records of its items has them stamped anew, and nothing else. -/
theorem Alone.save (hset : S.Storing set) (records : Stamp → List SnapshotRecord)
    (hrecords : ∀ a b, (records b).map SnapshotRecord.content =
      (records a).map SnapshotRecord.content) :
    S.Alone name fun z => saveRecords (Stores.storage S.stores set)
      (records ((Stores.storage S.stores set).stamp z).1)
      ((Stores.storage S.stores set).stamp z).2 := by
  intro x y halike
  have hstamped := follow_stamp hset halike
  obtain ⟨hrows, hsaved⟩ := follow_saveRecords hset hstamped.alike (hrecords _ _)
  exact ⟨hrows, hstamped.trans hsaved⟩

/-! ### Exchange rates -/

theorem Alone.collectPortions (time : Instant) {portions : List (RateSource σ × List RatePair)}
    (hfetch : ∀ portion ∈ portions, ∀ pairs, S.Alone name (portion.1.fetch pairs)) :
    S.Alone name (RateCollector.collectPortions time portions) := by
  induction portions with
  | nil => exact .of_look (fun _ => rfl) fun _ _ _ => rfl
  | cons portion rest ih =>
    intro x y halike
    obtain ⟨answer, x', y', hx, hy, hfetched⟩ := (hfetch portion (by simp) portion.2).step halike
    obtain ⟨points, x'', y'', hx', hy', hcollected⟩ :=
      (ih fun other hother => hfetch other (by simp [hother])).step hfetched.alike
    simp only [RateCollector.collectPortions, RateCollector.collectPortion, hx, hy, hx', hy']
    exact ⟨trivial, hfetched.trans hcollected⟩

/-- A rate collector whose sources are its own. -/
theorem Alone.runRates (hset : S.Storing set) {c : RateCollector σ}
    (hstorage : c.storage = Stores.storage S.stores set)
    (hfetch : ∀ portion ∈ c.portions, ∀ pairs, S.Alone name (portion.1.fetch pairs))
    (time : Instant) : S.Alone name (c.toCollector.run time) := by
  refine .run (fun time x y halike => ?_) (fun result => ?_) time
  · obtain ⟨points, x', y', hx, hy, hcollected⟩ :=
      (collectPortions time hfetch).step halike
    show (c.collect time y).1 = (c.collect time x).1 ∧
      S.Follow name x y (c.collect time x).2 (c.collect time y).2
    simp only [RateCollector.collect, hx, hy]
    exact ⟨trivial, hcollected⟩
  · show S.Alone name (c.save result)
    unfold RateCollector.save
    rw [hstorage]
    refine save hset (fun stamp => result.items.map (RatePoint.toRecord stamp)) fun a b => ?_
    rw [List.map_map, List.map_map]
    rfl

/-! ### Portfolios -/

theorem Alone.askDetails {api : PortfolioApi σ} (hdetail : ∀ fund, S.Alone name (api.detail fund))
    (time : Instant) (summaries : List PortfolioSummary) :
    S.Alone name (PortfolioCollector.askDetails api time summaries) := by
  induction summaries with
  | nil => exact .of_look (fun _ => rfl) fun _ _ _ => rfl
  | cons summary rest ih =>
    intro x y halike
    unfold PortfolioCollector.askDetails
    split
    · exact ih x y halike
    · obtain ⟨answer, x', y', hx, hy, hasked⟩ := (hdetail summary.fundName).step halike
      obtain ⟨harvest, x'', y'', hx', hy', hrest⟩ := ih.step hasked.alike
      simp only [hx, hy]
      -- an error may end the asking, and it is the same error in both worlds
      cases answer with
      | ok detail =>
        simp only [hx', hy']
        exact ⟨trivial, hasked.trans hrest⟩
      | error e =>
        simp only [hx', hy']
        split
        · exact ⟨rfl, hasked⟩
        · exact ⟨rfl, hasked.trans hrest⟩

/-- A portfolio collector whose service is its own. -/
theorem Alone.runPortfolios (hset : S.Storing set) {c : PortfolioCollector σ}
    (hstorage : c.storage = Stores.storage S.stores set) (hlist : S.Alone name c.api.list)
    (hdetail : ∀ fund, S.Alone name (c.api.detail fund)) (time : Instant) :
    S.Alone name (c.toCollector.run time) := by
  refine .run (fun time x y halike => ?_) (fun result x y halike => ?_) time
  · show (c.collect time y).1 = (c.collect time x).1 ∧
      S.Follow name x y (c.collect time x).2 (c.collect time y).2
    obtain ⟨answer, x', y', hx, hy, hlisted⟩ := hlist.step halike
    unfold PortfolioCollector.collect
    simp only [hx, hy]
    cases answer with
    | error e => exact ⟨rfl, hlisted⟩
    | ok summaries =>
      obtain ⟨harvest, x'', y'', hx', hy', hasked⟩ :=
        (askDetails hdetail time summaries).step hlisted.alike
      simp only [hx', hy']
      exact ⟨trivial, hlisted.trans hasked⟩
  · have hstamped := follow_stamp hset halike
    have hcontent (a b : Stamp) :
        (result.items.filterMap (PortfolioPoint.toRecord? c.sourceTag b)).map
            SnapshotRecord.content =
          (result.items.filterMap (PortfolioPoint.toRecord? c.sourceTag a)).map
            SnapshotRecord.content := by
      simp only [List.map_filterMap, PortfolioPoint.toRecord?, Option.map_map]
      rfl
    have hempty := congrArg List.isEmpty (hcontent
      ((Stores.storage S.stores set).stamp x).1 ((Stores.storage S.stores set).stamp y).1)
    simp only [List.isEmpty_map] at hempty
    show (c.save result y).1 = (c.save result x).1 ∧
      S.Follow name x y (c.save result x).2 (c.save result y).2
    unfold PortfolioCollector.save
    rw [hstorage]
    simp only [hempty]
    split
    · exact ⟨rfl, hstamped⟩
    · -- the batch is written in both worlds or in none, and then the funds are registered
      obtain ⟨hrows, hsaved⟩ := follow_insertBatch hset hstamped.alike (hcontent
        ((Stores.storage S.stores set).stamp x).1 ((Stores.storage S.stores set).stamp y).1)
      split
      · next hx =>
        split
        · next hy =>
          rw [hx, hy] at hrows hsaved
          exact ⟨hrows, (hstamped.trans hsaved).trans (follow_registerAll hset _ hsaved.alike)⟩
        · next hy =>
          rw [hx, hy] at hrows
          cases hrows
      · next hx =>
        split
        · next hy =>
          rw [hx, hy] at hrows
          cases hrows
        · next hy =>
          rw [hx, hy] at hrows hsaved
          cases hrows
          exact ⟨rfl, hstamped.trans hsaved⟩

/-! ### Wallets -/

theorem Alone.valueInUsd {prices : PriceOracle σ} (hprices : ∀ symbol, S.Alone name (prices symbol))
    (symbol : String) (amount : Decimal) :
    S.Alone name (HourlySnapshots.valueInUsd prices symbol amount) := by
  intro x y halike
  obtain ⟨answer, x', y', hx, hy, hasked⟩ := (hprices symbol).step halike
  unfold HourlySnapshots.valueInUsd
  split
  · exact ⟨rfl, .refl halike⟩
  · split
    · exact ⟨rfl, .refl halike⟩
    · simp only [hx, hy]
      rcases answer with e | (_ | price) <;> exact ⟨rfl, hasked⟩

theorem Alone.ofAssets {prices : PriceOracle σ} (hprices : ∀ symbol, S.Alone name (prices symbol))
    (wallet : CustodyWallet) (time : Instant) (assets : List CustodyAsset) :
    S.Alone name (WalletAssetPoint.ofAssets prices wallet time assets) := by
  have hasset (asset : CustodyAsset) :
      S.Alone name (WalletAssetPoint.ofAsset prices wallet time asset) := by
    intro x y halike
    unfold WalletAssetPoint.ofAsset
    cases asset.effectiveBalance with
    | none => exact ⟨rfl, .refl halike⟩
    | some amount =>
      obtain ⟨usd, x', y', hx, hy, hvalued⟩ :=
        (valueInUsd hprices (normalSymbol asset.coinSymbol) amount).step halike
      simp only [hx, hy]
      exact ⟨trivial, hvalued⟩
  induction assets with
  | nil => exact .of_look (fun _ => rfl) fun _ _ _ => rfl
  | cons asset rest ih =>
    intro x y halike
    obtain ⟨point, x', y', hx, hy, hfirst⟩ := (hasset asset).step halike
    obtain ⟨points, x'', y'', hx', hy', hrest⟩ := ih.step hfirst.alike
    simp only [WalletAssetPoint.ofAssets, hx, hy, hx', hy']
    exact ⟨trivial, hfirst.trans hrest⟩

theorem Alone.askWallets {c : WalletCollector σ}
    (hassets : ∀ wallet, S.Alone name (c.api.assets wallet))
    (hprices : ∀ symbol, S.Alone name (c.prices symbol)) (time : Instant)
    (wallets : List CustodyWallet) : S.Alone name (c.askWallets time wallets) := by
  induction wallets with
  | nil => exact .of_look (fun _ => rfl) fun _ _ _ => rfl
  | cons wallet rest ih =>
    intro x y halike
    unfold WalletCollector.askWallets
    obtain ⟨answer, x', y', hx, hy, hasked⟩ := (hassets wallet.walletId).step halike
    simp only [hx, hy]
    cases answer with
    | ok assets =>
      obtain ⟨points, x₁, y₁, hx₁, hy₁, hvalued⟩ :=
        (ofAssets hprices wallet time assets).step hasked.alike
      obtain ⟨harvest, x₂, y₂, hx₂, hy₂, hrest⟩ := ih.step hvalued.alike
      simp only [hx₁, hy₁, hx₂, hy₂]
      exact ⟨trivial, (hasked.trans hvalued).trans hrest⟩
    | error e =>
      obtain ⟨harvest, x₂, y₂, hx₂, hy₂, hrest⟩ := ih.step hasked.alike
      simp only [hx₂, hy₂]
      split
      · exact ⟨rfl, hasked⟩
      · exact ⟨rfl, hasked.trans hrest⟩

/-- A wallet collector whose service and price oracle are its own. -/
theorem Alone.runWallets (hset : S.Storing set) {c : WalletCollector σ}
    (hstorage : c.storage = Stores.storage S.stores set) (hlist : S.Alone name c.api.list)
    (hassets : ∀ wallet, S.Alone name (c.api.assets wallet))
    (hprices : ∀ symbol, S.Alone name (c.prices symbol)) (time : Instant) :
    S.Alone name (c.toCollector.run time) := by
  refine .run (fun time x y halike => ?_) (fun result => ?_) time
  · show (c.collect time y).1 = (c.collect time x).1 ∧
      S.Follow name x y (c.collect time x).2 (c.collect time y).2
    have hknown : S.Alone name c.knownWallets := by
      intro x y halike
      unfold WalletCollector.knownWallets
      split
      · exact hlist x y halike
      · exact ⟨rfl, .refl halike⟩
    obtain ⟨answer, x', y', hx, hy, hlisted⟩ := hknown.step halike
    unfold WalletCollector.collect
    simp only [hx, hy]
    cases answer with
    | error e => exact ⟨rfl, hlisted⟩
    | ok wallets =>
      obtain ⟨harvest, x'', y'', hx', hy', hasked⟩ :=
        (askWallets hassets hprices time wallets).step hlisted.alike
      simp only [hx', hy']
      exact ⟨trivial, hlisted.trans hasked⟩
  · show S.Alone name (c.save result)
    unfold WalletCollector.save
    rw [hstorage]
    refine save hset
      (fun stamp => result.items.filterMap (WalletAssetPoint.toRecord? c.sourceTag stamp))
      fun a b => ?_
    simp only [List.map_filterMap, WalletAssetPoint.toRecord?, Option.map_map]
    rfl

theorem Alone.ofCollector {c : Collector σ α} (h : ∀ time, S.Alone name (c.run time))
    (time : Instant) : S.Alone name ((Registered.ofCollector c).act time) := by
  intro x y halike
  obtain ⟨ok, x', y', hx, hy, hfollow⟩ := (h time).step halike
  simp only [Registered.ofCollector, hx, hy]
  exact ⟨trivial, hfollow⟩

end Sharing

/-! ## The parts of a rehearsal -/

/-- In a rehearsal each collector has the replies at its place, and all have the stores. -/
def World.sharing (place : String → Nat) : Sharing World :=
  ⟨Option Replies, fun name w => w.replies[place name]?, World.stores⟩

theorem World.storing (place : String → Nat) : (World.sharing place).Storing World.setStores :=
  ⟨fun _ _ => rfl, fun _ _ _ => rfl⟩

/-- Recorded prices are answered whatever the world is. -/
theorem RecordedPrices.oracle_fst {σ : Type} (p : RecordedPrices) (symbol : String) (x y : σ) :
    (p.oracle symbol y).1 = (p.oracle symbol x).1 := by
  induction p with
  | table prices => rfl
  | constant answer => rfl
  | fallback first second ihfirst ihsecond =>
    obtain ⟨answer, hanswer⟩ : ∃ answer, ∀ z : σ, z = x ∨ z = y →
        first.oracle symbol z = (answer, z) := by
      refine ⟨(first.oracle symbol x).1, fun z hz => Prod.ext ?_ (first.oracle_snd symbol z)⟩
      rcases hz with rfl | rfl
      · rfl
      · exact ihfirst
    simp only [oracle, PriceOracle.fallback, hanswer x (.inl rfl), hanswer y (.inr rfl)]
    rcases answer with e | (_ | price)
    · exact ihsecond
    · exact ihsecond
    · simp only
      split
      · rfl
      · exact ihsecond

section

variable {place : String → Nat} {name : String} {number : Nat} {x y : World}

theorem World.replies_eq (hplace : place name = number)
    (halike : (World.sharing place).Alike name x y) : y.replies[number]? = x.replies[number]? := by
  subst hplace
  exact halike.own

/-- Asking a service that answers as recorded leaves the world as it is. -/
theorem World.alone_of_replies {α : Type} (hplace : place name = number) {f : World → α × World}
    (hsame : ∀ w, (f w).2 = w)
    (hanswer : ∀ v w : World, w.replies[number]? = v.replies[number]? → (f w).1 = (f v).1) :
    (World.sharing place).Alone name f :=
  .of_look hsame fun v w halike => hanswer v w (replies_eq hplace halike)

/-- Notes are nobody's own. -/
theorem World.follow_note (halike : (World.sharing place).Alike name x y) (noted noted' : Noted) :
    (World.sharing place).Follow name x y (x.note number noted) (y.note number noted') :=
  ⟨⟨halike.own, halike.refused⟩, rfl, fun _ _ => rfl, [], (List.append_nil _).symm,
    (List.append_nil _).symm⟩

/-- A run of a scripted collector notes what it saves, if it comes to that. -/
theorem Part.run_scriptedCollector (number : Nat) (name : String) (time : Instant)
    (replies : Option Replies) :
    ∃ (ok : Bool) (saved : Option (List Int)), ∀ w : World, w.replies[number]? = replies →
      (scriptedCollector number name).run time w =
        (ok, saved.elim w fun items => w.note number (.saved items)) := by
  have hunscripted (h : ∀ collected save, replies ≠ some (.scripted collected save)) :
      ∀ w : World, w.replies[number]? = replies →
        (scriptedCollector number name).run time w = (true, w) := by
    intro w hw
    unfold Collector.run scriptedCollector
    rcases replies with _ | (_ | _ | _ | _ | ⟨collected, save⟩)
    · simp only [hw]
    · simp only [hw]
    · simp only [hw]
    · simp only [hw]
    · simp only [hw]
    · exact absurd rfl (h collected save)
  rcases replies with _ | (_ | _ | _ | _ | ⟨collected, save⟩)
  · exact ⟨true, none, hunscripted (by simp)⟩
  · exact ⟨true, none, hunscripted (by simp)⟩
  · exact ⟨true, none, hunscripted (by simp)⟩
  · exact ⟨true, none, hunscripted (by simp)⟩
  · exact ⟨true, none, hunscripted (by simp)⟩
  · rcases collected with e | (_ | ⟨item, rest⟩)
    · exact ⟨false, none, fun w hw => by simp only [Collector.run, scriptedCollector, hw]; rfl⟩
    · exact ⟨true, none, fun w hw => by simp only [Collector.run, scriptedCollector, hw]; rfl⟩
    · -- something is saved unless nothing is valid
      let valid := (item :: rest).filter fun n => (checkReading n).isNone
      cases hvalid : valid.isEmpty with
      | true =>
        refine ⟨false, none, fun w hw => ?_⟩
        simp only [Collector.run, scriptedCollector, hw]
        exact if_pos hvalid
      | false =>
        have hsome : valid.isEmpty ≠ true := by simp [hvalid]
        refine ⟨decide (save = .stored), some valid, fun w hw => ?_⟩
        have hpos : 0 < valid.length := List.length_pos_iff.mpr (by simpa using hvalid)
        simp only [Collector.run, scriptedCollector, hw]
        refine (if_neg hsome).trans ?_
        cases save with
        | stored => exact congrArg (·, w.note number (.saved valid)) (decide_eq_true hpos)
        | nothing | failed | brokenOff => rfl

theorem Part.alone_runScripted (hplace : place name = number) (title : String) (time : Instant) :
    (World.sharing place).Alone name (runScripted number title time) := by
  intro x y halike
  have hreplies := World.replies_eq hplace halike
  -- a run breaks off just when it has noted something, in both worlds
  obtain ⟨ok, saved, hrun⟩ := run_scriptedCollector number title time x.replies[number]?
  unfold runScripted
  rw [hrun x rfl, hrun y hreplies, hreplies]
  cases saved with
  | none =>
    simp only [Option.elim_none, Nat.lt_irrefl, if_false]
    split <;> exact ⟨rfl, .refl halike⟩
  | some items =>
    have hgrown (w : World) : w.log.length < (w.note number (.saved items)).log.length := by
      simp [World.note]
    simp only [Option.elim_some, hgrown, if_true]
    split <;> exact ⟨rfl, World.follow_note halike _ _⟩

/-- Every part of a rehearsal shares nothing with the others but the stores. -/
theorem Part.separate (part : Part) (hplace : place (part.registered number).name = number) :
    (World.sharing place).Separate (part.registered number) := by
  refine .of_alone fun time => ?_
  cases part with
  | portfolio name sourceTag =>
    refine .ofCollector (.runPortfolios (World.storing place) rfl ?_ fun fund => ?_) time
    · refine World.alone_of_replies hplace (fun w => rfl) fun v w hsame => ?_
      simp only [portfolioCollector, World.portfolioApi, hsame]
    · refine World.alone_of_replies hplace (fun w => rfl) fun v w hsame => ?_
      simp only [portfolioCollector, World.portfolioApi, hsame]
  | wallet name configuredIds =>
    refine .ofCollector (.runWallets (World.storing place) rfl ?_ (fun wallet => ?_)
      fun symbol => ?_) time
    · refine World.alone_of_replies hplace (fun w => rfl) fun v w hsame => ?_
      simp only [walletCollector, World.custodyApi, hsame]
    · refine World.alone_of_replies hplace (fun w => rfl) fun v w hsame => ?_
      simp only [walletCollector, World.custodyApi, hsame]
    · refine World.alone_of_replies hplace (World.prices_snd number symbol) fun v w hsame => ?_
      simp only [walletCollector, World.prices, hsame]
      split
      · exact RecordedPrices.oracle_fst _ symbol v w
      · rfl
  | rate name sources =>
    obtain ⟨hstorage, hsources⟩ := rateCollector_spec number name sources
    refine .ofCollector (.runRates (World.storing place) hstorage fun portion hportion pairs => ?_)
      time
    obtain ⟨source, tag, hsource⟩ := hsources portion hportion
    rw [hsource]
    refine World.alone_of_replies hplace (fun w => rfl) fun v w hsame => ?_
    simp only [World.rateSource, hsame]
  | standIn name =>
    intro x y halike
    have hreplies := World.replies_eq hplace halike
    simp only [registered, hreplies]
    exact ⟨trivial, World.follow_note halike _ _⟩
  | scripted name => exact alone_runScripted hplace name time

end

/-- Collectors with distinct names find their own at their places in the cast. -/
theorem castOf_separate {parts : List Part} {names : List String}
    (hnames : (castOf parts).map Registered.name = names) (hnodup : names.Nodup) :
    ∀ c ∈ castOf parts, (World.sharing names.idxOf).Separate c := by
  intro c hc
  obtain ⟨place, hplace, rfl⟩ := List.mem_iff_getElem.mp hc
  have hlength : place < parts.length := by simpa [castOf] using hplace
  have hpart : (castOf parts)[place] = parts[place].registered place := by simp [castOf]
  subst hnames
  have hfound := hnodup.idxOf_getElem place (by simpa using hplace)
  rw [List.getElem_map, hpart] at hfound
  rw [hpart]
  exact parts[place].separate hfound

end HourlySnapshots
