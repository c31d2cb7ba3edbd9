import HourlySnapshots.Collection.PortfolioCollector
import HourlySnapshots.Collection.RateCollector
import HourlySnapshots.Collection.WalletCollector
import Mathlib.Tactic.Common

/-!
# Runs of collectors

What a run can come to, by its stages; what collecting keeps, as long as every answer of a service
keeps it; and what hour the points are for that the three kinds of collectors make.
-/

namespace HourlySnapshots

variable {σ α : Type}

/-- Filtering keeps the valid items and nothing else, in their order. -/
theorem CollectionResult.items_filterValid (r : CollectionResult α)
    (check : α → Option ValidationError) :
    (r.filterValid check).1.items = r.items.filter fun item => (check item).isNone := by
  unfold filterValid items
  cases r.outcome <;> rfl

/-! ## Runs by their stages -/

namespace Collector

variable (c : Collector σ α) (time : Instant) (x : σ)

/-- The items that a run finds nothing wrong with. -/
def gathered : CollectionResult α := ((c.collect time x).1.filterValid c.validate).1

/-- What a run can come to. -/
inductive Ran : Bool × σ → Prop where
  | failed {e : ServiceError} (h : (c.collect time x).1.outcome = .error e) :
      Ran (false, (c.collect time x).2)
  | nothing (h : (c.collect time x).1.outcome = .ok []) : Ran (true, (c.collect time x).2)
  /-- There is something wrong with every item. -/
  | invalid (hitems : (c.collect time x).1.items ≠ []) (hnone : (c.gathered time x).items = []) :
      Ran (false, (c.collect time x).2)
  | saved {rows : Nat} {next : σ} (hsome : (c.gathered time x).items ≠ [])
      (hsave : c.save (c.gathered time x) (c.collect time x).2 = (.ok rows, next)) :
      Ran (decide (0 < rows), next)
  | unsaved {e : StoreError} {next : σ} (hsome : (c.gathered time x).items ≠ [])
      (hsave : c.save (c.gathered time x) (c.collect time x).2 = (.error e, next)) :
      Ran (false, next)

theorem ran : c.Ran time x (c.run time x) := by
  unfold run
  rcases hcollect : c.collect time x with ⟨result, next⟩
  have hresult : (c.collect time x).1 = result := congrArg Prod.fst hcollect
  have hnext : (c.collect time x).2 = next := congrArg Prod.snd hcollect
  have hgathered : c.gathered time x = (result.filterValid c.validate).1 := by
    rw [gathered, hresult]
  simp only
  cases houtcome : result.outcome with
  | error e => exact hnext ▸ .failed (hresult.symm ▸ houtcome)
  | ok items =>
    cases items with
    | nil => exact hnext ▸ .nothing (hresult.symm ▸ houtcome)
    | cons item rest =>
      simp only
      rw [← hgathered]
      split
      · next hnone =>
        refine hnext ▸ .invalid ?_ (List.isEmpty_iff.mp hnone)
        simp [hresult, CollectionResult.items, houtcome]
      · next hsome =>
        have hsome' : (c.gathered time x).items ≠ [] := fun h => hsome (List.isEmpty_iff.mpr h)
        split
        · next hsave => exact .saved hsome' (hnext.symm ▸ hsave)
        · next hsave => exact .unsaved hsome' (hnext.symm ▸ hsave)

variable {c time x}

theorem items_gathered : (c.gathered time x).items =
    (c.collect time x).1.items.filter fun item => (c.validate item).isNone :=
  CollectionResult.items_filterValid _ _

/-- What a run saves has been collected, and there is nothing wrong with it. -/
theorem mem_gathered {item : α} :
    item ∈ (c.gathered time x).items ↔
      item ∈ (c.collect time x).1.items ∧ c.validate item = none := by
  rw [items_gathered, List.mem_filter, Option.isNone_iff_eq_none]

end Collector

/-! ## What collecting keeps -/

section

variable {R : σ → σ → Prop} (hrefl : ∀ x, R x x) (htrans : ∀ {x y z}, R x y → R y z → R x z)

include hrefl htrans

/-- Asking for rates keeps what each source keeps. -/
theorem RateCollector.collectPortions_keeps {time : Instant}
    {portions : List (RateSource σ × List RatePair)}
    (hfetch : ∀ portion ∈ portions, ∀ pairs x, R x (portion.1.fetch pairs x).2) (x : σ) :
    R x (collectPortions time portions x).2 := by
  induction portions generalizing x with
  | nil => exact hrefl x
  | cons portion rest ih =>
    have hfirst := hfetch portion (by simp) portion.2 x
    have hrest := ih (fun other hother => hfetch other (by simp [hother]))
      (portion.1.fetch portion.2 x).2
    exact htrans hfirst hrest

theorem PortfolioCollector.askDetails_keeps {api : PortfolioApi σ}
    (hdetail : ∀ name x, R x (api.detail name x).2) (time : Instant)
    (summaries : List PortfolioSummary) (x : σ) : R x (askDetails api time summaries x).2 := by
  induction summaries generalizing x with
  | nil => exact hrefl x
  | cons summary rest ih =>
    have hanswer := hdetail summary.fundName x
    unfold askDetails
    split
    · exact ih x
    · split
      · next heq =>
        rw [heq] at hanswer
        exact htrans hanswer (ih _)
      · next heq =>
        rw [heq] at hanswer
        split
        · exact hanswer
        · exact htrans hanswer (ih _)

/-- Collecting portfolios keeps what each answer of the service keeps. -/
theorem PortfolioCollector.collect_keeps {c : PortfolioCollector σ}
    (hlist : ∀ x, R x (c.api.list x).2) (hdetail : ∀ name x, R x (c.api.detail name x).2)
    (time : Instant) (x : σ) : R x (c.collect time x).2 := by
  have hlisted := hlist x
  unfold collect
  split
  · next heq =>
    rw [heq] at hlisted
    exact hlisted
  · next heq =>
    rw [heq] at hlisted
    exact htrans hlisted (askDetails_keeps hrefl htrans hdetail time _ _)

omit htrans in
theorem WalletAssetPoint.ofAsset_keeps {prices : PriceOracle σ}
    (hprices : ∀ symbol x, R x (prices symbol x).2) (wallet : CustodyWallet) (time : Instant)
    (asset : CustodyAsset) (x : σ) : R x (ofAsset prices wallet time asset x).2 := by
  have hvalue (symbol : String) (amount : Decimal) :
      R x (valueInUsd prices symbol amount x).2 := by
    have hanswer := hprices symbol x
    unfold valueInUsd
    split
    · exact hrefl x
    · split
      · exact hrefl x
      · split
        · next heq =>
          rw [heq] at hanswer
          exact hanswer
        · next heq =>
          rw [heq] at hanswer
          exact hanswer
  unfold ofAsset
  cases asset.effectiveBalance with
  | none => exact hrefl x
  | some amount => exact hvalue _ amount

theorem WalletAssetPoint.ofAssets_keeps {prices : PriceOracle σ}
    (hprices : ∀ symbol x, R x (prices symbol x).2) (wallet : CustodyWallet) (time : Instant)
    (assets : List CustodyAsset) (x : σ) : R x (ofAssets prices wallet time assets x).2 := by
  induction assets generalizing x with
  | nil => exact hrefl x
  | cons asset rest ih =>
    exact htrans (ofAsset_keeps hrefl hprices wallet time asset x) (ih _)

theorem WalletCollector.askWallets_keeps {c : WalletCollector σ}
    (hassets : ∀ wallet x, R x (c.api.assets wallet x).2)
    (hprices : ∀ symbol x, R x (c.prices symbol x).2) (time : Instant)
    (wallets : List CustodyWallet) (x : σ) : R x (c.askWallets time wallets x).2 := by
  induction wallets generalizing x with
  | nil => exact hrefl x
  | cons wallet rest ih =>
    have hanswer := hassets wallet.walletId x
    unfold askWallets
    split
    · next heq =>
      rw [heq] at hanswer
      have hpriced := WalletAssetPoint.ofAssets_keeps hrefl htrans hprices wallet time
      exact htrans (htrans hanswer (hpriced _ _)) (ih _)
    · next heq =>
      rw [heq] at hanswer
      split
      · exact hanswer
      · exact htrans hanswer (ih _)

/-- Collecting balances keeps what each answer of the services keeps. -/
theorem WalletCollector.collect_keeps {c : WalletCollector σ} (hlist : ∀ x, R x (c.api.list x).2)
    (hassets : ∀ wallet x, R x (c.api.assets wallet x).2)
    (hprices : ∀ symbol x, R x (c.prices symbol x).2) (time : Instant) (x : σ) :
    R x (c.collect time x).2 := by
  have hknown : R x (c.knownWallets x).2 := by
    unfold knownWallets
    split
    · exact hlist x
    · exact hrefl x
  unfold collect
  split
  · next heq =>
    rw [heq] at hknown
    exact hknown
  · next heq =>
    rw [heq] at hknown
    exact htrans hknown (askWallets_keeps hrefl htrans hassets hprices time _ _)

end

/-! ## What hour the points are for -/

/-- A good answer that has been worked on was good before. -/
theorem exists_of_map_eq_ok {ε β : Type} {f : α → β} {answer : Except ε α} {b : β}
    (h : answer.map f = .ok b) : ∃ a, answer = .ok a ∧ f a = b := by
  cases answer with
  | error e => cases h
  | ok a => exact ⟨a, rfl, Except.ok.inj h⟩

theorem exists_of_bind_eq_ok {ε β : Type} {f : α → Except ε β} {answer : Except ε α} {b : β}
    (h : answer.bind f = .ok b) : ∃ a, answer = .ok a ∧ f a = .ok b := by
  cases answer with
  | error e => cases h
  | ok a => exact ⟨a, rfl, h⟩

/-- Items have been collected by a collection that succeeded. -/
theorem CollectionResult.outcome_of_mem {result : CollectionResult α} {item : α}
    (h : item ∈ result.items) : result.outcome = .ok result.items := by
  unfold items at *
  cases houtcome : result.outcome with
  | error e => simp [houtcome] at h
  | ok items => rfl

theorem RateCollector.snapshotAt_of_mem {time : Instant}
    {portions : List (RateSource σ × List RatePair)} {x : σ} {p : RatePoint}
    (h : p ∈ (collectPortions time portions x).1) : p.snapshotAt = time.truncateToHour := by
  induction portions generalizing x with
  | nil => cases h
  | cons portion rest ih =>
    rcases List.mem_append.mp h with hfirst | hrest
    · obtain ⟨pair, -, rfl⟩ := List.mem_map.mp hfirst
      rfl
    · exact ih hrest

theorem PortfolioCollector.snapshotAt_of_mem_askDetails {api : PortfolioApi σ} {time : Instant}
    {summaries : List PortfolioSummary} {x : σ} {harvest : Harvest}
    (h : (askDetails api time summaries x).1 = .ok harvest) :
    ∀ p ∈ harvest.1, p.snapshotAt = time.truncateToHour := by
  induction summaries generalizing x harvest with
  | nil =>
    obtain rfl := Except.ok.inj h
    simp
  | cons summary rest ih =>
    unfold askDetails at h
    split at h
    · exact ih h
    · split at h
      · obtain ⟨harvest', hrest, rfl⟩ := exists_of_map_eq_ok h
        intro p hp
        rcases List.mem_cons.mp hp with rfl | hp
        · rfl
        · exact ih hrest p hp
      · split at h
        · cases h
        · obtain ⟨harvest', hrest, rfl⟩ := exists_of_map_eq_ok h
          have hpoints := ih hrest
          exact hpoints

/-- All points of a collection of portfolios are for its hour. -/
theorem PortfolioCollector.snapshotAt_of_mem {c : PortfolioCollector σ} {time : Instant} {x : σ}
    {p : PortfolioPoint} (h : p ∈ (c.collect time x).1.items) :
    p.snapshotAt = time.truncateToHour := by
  have houtcome := CollectionResult.outcome_of_mem h
  revert houtcome h
  generalize (c.collect time x).1.items = items
  intro h houtcome
  unfold collect at houtcome
  split at houtcome
  · cases houtcome
  · obtain ⟨harvest, hharvest, hsettled⟩ := exists_of_bind_eq_ok houtcome
    unfold settle at hsettled
    split at hsettled
    · cases hsettled
    · obtain rfl := Except.ok.inj hsettled
      exact snapshotAt_of_mem_askDetails hharvest p h

theorem WalletAssetPoint.snapshotAt_of_mem {prices : PriceOracle σ} {wallet : CustodyWallet}
    {time : Instant} {assets : List CustodyAsset} {x : σ} {p : WalletAssetPoint}
    (h : p ∈ (ofAssets prices wallet time assets x).1) : p.snapshotAt = time.truncateToHour := by
  induction assets generalizing x with
  | nil => cases h
  | cons asset rest ih =>
    rcases List.mem_cons.mp h with rfl | hrest
    · rfl
    · exact ih hrest

theorem WalletCollector.snapshotAt_of_mem_askWallets {c : WalletCollector σ} {time : Instant}
    {wallets : List CustodyWallet} {x : σ} {harvest : Harvest}
    (h : (c.askWallets time wallets x).1 = .ok harvest) :
    ∀ p ∈ harvest.points, p.snapshotAt = time.truncateToHour := by
  induction wallets generalizing x harvest with
  | nil =>
    obtain rfl := Except.ok.inj h
    simp
  | cons wallet rest ih =>
    unfold askWallets at h
    split at h
    · obtain ⟨harvest', hrest, rfl⟩ := exists_of_map_eq_ok h
      intro p hp
      rcases List.mem_append.mp hp with hfirst | hp
      · exact WalletAssetPoint.snapshotAt_of_mem hfirst
      · exact ih hrest p hp
    · split at h
      · cases h
      · obtain ⟨harvest', hrest, rfl⟩ := exists_of_map_eq_ok h
        have hpoints := ih hrest
        exact hpoints

/-- A harvest that is brought in is brought in as a whole. -/
theorem WalletCollector.points_of_settle {wallets : Nat} {harvest : Harvest}
    {items : List WalletAssetPoint} (h : settle wallets harvest = .ok items) :
    harvest.points = items := by
  unfold settle at h
  split at h
  · split at h
    · cases h
    · exact Except.ok.inj h
  · exact Except.ok.inj h

/-- All points of a collection of balances are for its hour. -/
theorem WalletCollector.snapshotAt_of_mem {c : WalletCollector σ} {time : Instant} {x : σ}
    {p : WalletAssetPoint} (h : p ∈ (c.collect time x).1.items) :
    p.snapshotAt = time.truncateToHour := by
  have houtcome := CollectionResult.outcome_of_mem h
  revert houtcome h
  generalize (c.collect time x).1.items = items
  intro h houtcome
  unfold collect at houtcome
  split at houtcome
  · cases houtcome
  · obtain ⟨harvest, hharvest, hsettled⟩ := exists_of_bind_eq_ok houtcome
    exact snapshotAt_of_mem_askWallets hharvest p (points_of_settle hsettled ▸ h)

end HourlySnapshots
