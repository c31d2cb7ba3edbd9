import HourlySnapshots.Proofs.Collection.Asking
import HourlySnapshots.Proofs.Collection.PricedBalances
import Mathlib.Data.List.TakeWhile

/-!
# Wallets and their balances

A collection of balances asks the wallets for their assets one after the other: those that are
configured, or else those that the service lists. A wallet that does not answer costs its own points
and nothing else, unless no wallet answers; rejected credentials cost them all.
-/

namespace HourlySnapshots

open Exchange (errors)

variable {σ : Type}

/-- Nothing is left of a text by trimming just when it holds nothing but blanks. -/
theorem Text.isEmpty_trimmed (s : String) : (trimmed s).isEmpty = allBlank s := by
  cases hblank : allBlank s with
  | false =>
    have hne := trim_ne_nil hblank
    simpa [trimmed] using hne
  | true =>
    have hnil : trimStart s.toList = [] :=
      List.dropWhile_eq_nil_iff.mpr (by simpa [allBlank] using hblank)
    simp [trimmed, trim, hnil, trimEnd]

/-! ## Points -/

namespace WalletAssetPoint

/-- The point of an asset by an oracle that always answers the same about a symbol. -/
def valued (answer : String → PriceAnswer) (time : Instant) (wallet : CustodyWallet)
    (asset : CustodyAsset) : WalletAssetPoint :=
  (ofAsset (fun symbol (x : Unit) => (answer symbol, x)) wallet time asset ()).1

/-- What the oracle is asked about meanwhile makes no difference to a point. -/
theorem ofAsset_eq_valued {prices : PriceOracle σ} {answer : String → PriceAnswer}
    (hprices : ∀ symbol x, (prices symbol x).1 = answer symbol) (wallet : CustodyWallet)
    (time : Instant) (asset : CustodyAsset) (x : σ) :
    (ofAsset prices wallet time asset x).1 = valued answer time wallet asset := by
  unfold valued ofAsset
  cases asset.effectiveBalance with
  | none => rfl
  | some amount => simp only [valueInUsd_fst, hprices]

/-- A part of the points that is made of wallet and asset alone is made so for all assets. -/
theorem map_ofAssets {γ : Type} {part : WalletAssetPoint → γ}
    {make : CustodyWallet → CustodyAsset → γ} {prices : PriceOracle σ} {time : Instant}
    (hpart : ∀ wallet asset x, part (ofAsset prices wallet time asset x).1 = make wallet asset)
    (wallet : CustodyWallet) (assets : List CustodyAsset) (x : σ) :
    (ofAssets prices wallet time assets x).1.map part = assets.map (make wallet) := by
  induction assets generalizing x with
  | nil => rfl
  | cons asset rest ih =>
    have hfirst := hpart wallet asset x
    have hrest := ih (ofAsset prices wallet time asset x).2
    rw [List.map_cons, ← hfirst, ← hrest]
    rfl

end WalletAssetPoint

/-! ## Wallets -/

namespace WalletCollector

/-- Asks a wallet for its assets; when they are answered, their prices are asked for at once. -/
def visit (c : WalletCollector σ) (time : Instant) (wallet : CustodyWallet) (x : σ) :
    Except ServiceError (List CustodyAsset) × σ :=
  match c.api.assets wallet.walletId x with
  | (.ok assets, y) => (.ok assets, (WalletAssetPoint.ofAssets c.prices wallet time assets y).2)
  | (.error e, y) => (.error e, y)

/-- The configured wallets: the ids that are not blank, trimmed, in order. -/
def configured (c : WalletCollector σ) : List CustodyWallet :=
  (c.configuredIds.filter fun id => !Text.allBlank id).map fun id => ⟨Text.trimmed id, none⟩

section

variable {γ : Type}

/-- What is made of each asset that a wallet has answered, in order. -/
def ofAnswers (make : CustodyWallet → CustodyAsset → γ)
    (talk : List (Exchange CustodyWallet (List CustodyAsset))) : List γ :=
  talk.flatMap fun exchange =>
    match exchange.reply with
    | .ok assets => assets.map (make exchange.entry)
    | .error _ => []

theorem ofAnswers_cons_ok (make : CustodyWallet → CustodyAsset → γ) (wallet : CustodyWallet)
    (assets : List CustodyAsset) (talk : List (Exchange CustodyWallet (List CustodyAsset))) :
    ofAnswers make (⟨wallet, .ok assets⟩ :: talk) =
      assets.map (make wallet) ++ ofAnswers make talk := rfl

/--
How asking a list of wallets goes on, and what it brings in: of the points, any part that is made of
wallet and asset alone is known from the answers.
-/
theorem exists_asks {c : WalletCollector σ} {time : Instant} {part : WalletAssetPoint → γ}
    {make : CustodyWallet → CustodyAsset → γ}
    (hpart : ∀ wallet asset x,
      part (WalletAssetPoint.ofAsset c.prices wallet time asset x).1 = make wallet asset)
    (wallets : List CustodyWallet) (x : σ) :
    ∃ talk z, Asks (c.visit time) talk x z ∧
      ((∃ points, AsksAll wallets talk ∧ points.map part = ofAnswers make talk ∧
          c.askWallets time wallets x =
            (.ok ⟨points, (errors talk).length, (errors talk).getLast?⟩, z)) ∨
        ∃ e, AsksUntil wallets talk e ∧ c.askWallets time wallets x = (.error e, z)) := by
  induction wallets generalizing x with
  | nil => exact ⟨[], x, .done, .inl ⟨[], .nil, rfl, rfl⟩⟩
  | cons wallet rest ih =>
    unfold askWallets
    rcases hanswer : c.api.assets wallet.walletId x with ⟨e | assets, y⟩
    · have hvisit : c.visit time wallet x = (.error e, y) := by simp only [visit, hanswer]
      cases hauth : e.isAuth with
      | true => exact ⟨_, y, .next hvisit .done, .inr ⟨e, .first hauth wallet _, if_pos hauth⟩⟩
      | false =>
        have haccepted := Exchange.accepted_error (β := List CustodyAsset) wallet hauth
        obtain ⟨talk, z, hasks, hends⟩ := ih y
        refine ⟨_, z, .next hvisit hasks, ?_⟩
        simp only [hauth, Bool.false_eq_true, if_false]
        rcases hends with ⟨points, hall, hpoints, hrest⟩ | ⟨last, huntil, hrest⟩
        · refine .inl ⟨points, hall.cons haccepted, hpoints, ?_⟩
          rw [hrest, Exchange.getLast?_errors_cons]
          rfl
        · refine .inr ⟨last, huntil.cons haccepted, ?_⟩
          rw [hrest]
          rfl
    · have hvisit : c.visit time wallet x =
          (.ok assets, (WalletAssetPoint.ofAssets c.prices wallet time assets y).2) := by
        simp only [visit, hanswer]
      have haccepted := Exchange.accepted_ok wallet assets
      have hfirst := WalletAssetPoint.map_ofAssets hpart wallet assets y
      obtain ⟨talk, z, hasks, hends⟩ :=
        ih (WalletAssetPoint.ofAssets c.prices wallet time assets y).2
      refine ⟨_, z, .next hvisit hasks, ?_⟩
      rcases hends with ⟨points, hall, hpoints, hrest⟩ | ⟨last, huntil, hrest⟩
      · let first := (WalletAssetPoint.ofAssets c.prices wallet time assets y).1
        refine .inl ⟨first ++ points, hall.cons haccepted, ?_, ?_⟩
        · rw [List.map_append, hfirst, hpoints, ofAnswers_cons_ok]
        · simp only [hrest]
          rfl
      · refine .inr ⟨last, huntil.cons haccepted, ?_⟩
        simp only [hrest]
        rfl

end

theorem walletIds_eq (c : WalletCollector σ) :
    c.walletIds = (c.configuredIds.filter fun id => !Text.allBlank id).map Text.trimmed := by
  unfold walletIds
  rw [List.filter_map]
  congr 1
  refine List.filter_congr fun id _ => ?_
  simp [Text.isEmpty_trimmed]

/-- Wallets that are configured are known without asking for a list. -/
theorem knownWallets_eq (c : WalletCollector σ) (x : σ) :
    c.knownWallets x = if c.configured = [] then c.api.list x else (.ok c.configured, x) := by
  have hconfigured : c.configured = c.walletIds.map fun id => ⟨id, none⟩ := by
    rw [walletIds_eq, List.map_map]
    rfl
  unfold knownWallets
  rw [hconfigured]
  cases c.walletIds with
  | nil => rfl
  | cons id rest => rfl

/-- The same collector with a service that lists other wallets. -/
def listing (c : WalletCollector σ) (list : σ → Except ServiceError (List CustodyWallet) × σ) :
    WalletCollector σ :=
  { c with api := { c.api with list := list } }

theorem askWallets_listing (c : WalletCollector σ)
    (list : σ → Except ServiceError (List CustodyWallet) × σ) (time : Instant)
    (wallets : List CustodyWallet) (x : σ) :
    (c.listing list).askWallets time wallets x = c.askWallets time wallets x := by
  induction wallets generalizing x with
  | nil => rfl
  | cons wallet rest ih =>
    unfold askWallets
    simp only [ih]
    rfl

/-- A harvest is brought in unless there are wallets and every one of them has failed. -/
theorem yields_settle {wallets : List CustodyWallet}
    {talk : List (Exchange CustodyWallet (List CustodyAsset))} (hall : AsksAll wallets talk)
    (points : List WalletAssetPoint) :
    Yields talk points (wallets ≠ [] ∧ ∀ exchange ∈ talk, ∃ e, exchange.reply = .error e)
      (settle wallets.length ⟨points, (errors talk).length, (errors talk).getLast?⟩) := by
  have hlength : talk.length = wallets.length := by rw [← hall.entries_eq, List.length_map]
  have hevery := Exchange.length_errors_eq_iff talk
  rw [hlength] at hevery
  unfold settle
  cases hlast : (errors talk).getLast? with
  | none =>
    have hnone : errors talk = [] := List.getLast?_eq_none_iff.mp hlast
    rw [hnone, List.length_nil] at hevery
    exact .of_not fun ⟨hsome, hfailed⟩ =>
      hsome (List.length_eq_zero_iff.mp (hevery.mpr hfailed).symm)
  | some e =>
    have hsome : wallets ≠ [] := by
      rintro rfl
      rw [List.length_eq_zero_iff.mp hlength] at hlast
      cases hlast
    by_cases hfailed : (errors talk).length = wallets.length
    · simp only [if_pos hfailed]
      exact .of_last ⟨hsome, hevery.mp hfailed⟩ hlast
    · simp only [if_neg hfailed]
      exact .of_not fun ⟨_, h⟩ => hfailed (hevery.mpr h)

/--
Collecting comes to what the wallets answer that are asked from a state on: it fails as soon as the
credentials are rejected. If they never are, there is a point for each asset of each wallet that has
answered, in order; and it fails, with the error met last, just when there are wallets and none of
them has answered.
-/
def Gathers (c : WalletCollector σ) (answer : String → PriceAnswer) (time : Instant) (x : σ)
    (wallets : List CustodyWallet) (start : σ) : Prop :=
  ∃ talk, Asks (c.visit time) talk start (c.collect time x).2 ∧
    ((∃ e, AsksUntil wallets talk e ∧ (c.collect time x).1.outcome = .error e) ∨
      AsksAll wallets talk ∧
        Yields talk (ofAnswers (WalletAssetPoint.valued answer time) talk)
          (wallets ≠ [] ∧ ∀ exchange ∈ talk, ∃ e, exchange.reply = .error e)
          (c.collect time x).1.outcome)

section

variable {c : WalletCollector σ} {answer : String → PriceAnswer}
  (hprices : ∀ symbol x, (c.prices symbol x).1 = answer symbol)

include hprices

theorem gathers_of_known {time : Instant} {x start : σ} {wallets : List CustodyWallet}
    (hknown : c.knownWallets x = (.ok wallets, start)) :
    c.Gathers answer time x wallets start := by
  unfold Gathers collect
  rw [hknown]
  -- all of a point is made of wallet and asset
  have hpart (wallet : CustodyWallet) (asset : CustodyAsset) (x : σ) :
      id (WalletAssetPoint.ofAsset c.prices wallet time asset x).1 =
        WalletAssetPoint.valued answer time wallet asset :=
    WalletAssetPoint.ofAsset_eq_valued hprices wallet time asset x
  obtain ⟨talk, z, hasks, hends⟩ := exists_asks hpart wallets start
  refine ⟨talk, ?_⟩
  rcases hends with ⟨points, hall, hpoints, hharvest⟩ | ⟨e, huntil, hharvest⟩
  · rw [List.map_id] at hpoints
    simp only [hharvest, hpoints]
    exact ⟨hasks, .inr ⟨hall, yields_settle hall _⟩⟩
  · simp only [hharvest]
    exact ⟨hasks, .inl ⟨e, huntil, rfl⟩⟩

/--
What a collection comes to, by an oracle whose answers depend on the symbol alone. If some
configured id is not blank, the configured wallets are asked, and the service is never asked for a
list, so that it does not matter what it would answer; otherwise the listed wallets are asked,
unless the list fails, which the collection then fails with.
-/
theorem collect_by_wallets (time : Instant) (x : σ) :
    (c.collect time x).1.collectedAt = time ∧
    ((∃ id ∈ c.configuredIds, Text.allBlank id = false) →
      c.Gathers answer time x c.configured x ∧
        ∀ list, (c.listing list).collect time x = c.collect time x) ∧
    ((∀ id ∈ c.configuredIds, Text.allBlank id = true) →
      match c.api.list x with
      | (.error e, y) => (c.collect time x).1.outcome = .error e ∧ (c.collect time x).2 = y
      | (.ok wallets, y) => c.Gathers answer time x wallets y) := by
  have hconfigured : c.configured = [] ↔ ∀ id ∈ c.configuredIds, Text.allBlank id = true := by
    simp [configured]
  refine ⟨?_, fun hsome => ?_, fun hnone => ?_⟩
  · unfold collect
    rcases c.knownWallets x with ⟨e | wallets, y⟩ <;> rfl
  · have hne : c.configured ≠ [] := by
      intro hnil
      obtain ⟨id, hid, hnamed⟩ := hsome
      rw [hconfigured.mp hnil id hid] at hnamed
      cases hnamed
    have hknown : c.knownWallets x = (.ok c.configured, x) := by rw [knownWallets_eq, if_neg hne]
    refine ⟨gathers_of_known hprices hknown, fun list => ?_⟩
    have hother : (c.listing list).knownWallets x = (.ok c.configured, x) := by
      rw [knownWallets_eq]
      exact if_neg hne
    unfold collect
    rw [hknown, hother]
    simp only [askWallets_listing]
  · have hknown : c.knownWallets x = c.api.list x := by
      rw [knownWallets_eq, if_pos (hconfigured.mpr hnone)]
    rcases hlist : c.api.list x with ⟨e | wallets, y⟩
    · unfold collect
      rw [hknown, hlist]
      exact ⟨rfl, rfl⟩
    · exact gathers_of_known hprices (hknown.trans hlist)

end

/--
Two wallets are configured next to a blank id: they are asked in the order of the configuration, the
first one fails, and the list is not asked for.
-/
theorem two_configured_wallets :
    let answer (symbol : String) : PriceAnswer :=
      if symbol = "BTC" then .ok (some (.literal 2 0)) else .ok none
    let api : CustodyApi (List String) :=
      { list := fun asked => (.ok [], asked ++ ["list"])
        assets := fun id asked =>
          (if id = "w1" then .ok [⟨"btc", none, some (.literal 3 0), none, none⟩]
            else .error (.timeout "late"), asked ++ [id]) }
    let storage : Storage (List String) :=
      ⟨fun _ asked => (.ok [], asked), fun _ asked => (.ok false, asked),
        fun asked => (default, asked)⟩
    let c : WalletCollector (List String) :=
      { name := "wallet", api, storage, sourceTag := "ceffu", configuredIds := [" w2 ", " ", "w1"]
        prices := fun symbol asked => (answer symbol, asked ++ [symbol]) }
    (∀ symbol asked, (c.prices symbol asked).1 = answer symbol) ∧
      (∃ id ∈ c.configuredIds, Text.allBlank id = false) ∧
      c.Gathers answer .epoch [] [⟨"w2", none⟩, ⟨"w1", none⟩] [] ∧
      (c.collect .epoch []).2 = ["w2", "w1", "BTC"] ∧
      (c.collect .epoch []).1.items.map WalletAssetPoint.usdValue = [some (.literal 6 0)] := by
  intro answer api storage c
  have hprices : ∀ symbol asked, (c.prices symbol asked).1 = answer symbol := fun _ _ => rfl
  have hsome : ∃ id ∈ c.configuredIds, Text.allBlank id = false := by decide
  have hwallets : c.configured = [⟨"w2", none⟩, ⟨"w1", none⟩] := by decide +kernel
  obtain ⟨-, hconfigured, -⟩ := collect_by_wallets hprices .epoch []
  exact ⟨hprices, hsome, hwallets ▸ (hconfigured hsome).1, by decide +kernel, by decide +kernel⟩

end WalletCollector

end HourlySnapshots
