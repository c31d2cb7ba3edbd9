import HourlySnapshots.Calendar.Hour
import HourlySnapshots.Collection.Collector
import HourlySnapshots.Collection.Pricing
import HourlySnapshots.Custody

/-!
# Collecting wallet balances

The wallets are those configured or else those the custody service lists; each is asked for its
assets, and each asset is valued in US dollars. An unknown price leaves the value empty and never
costs the balance.
-/

namespace HourlySnapshots

/-- The custody service as a collector reaches it. -/
structure CustodyApi (σ : Type) where
  list : σ → Except ServiceError (List CustodyWallet) × σ
  assets : String → σ → Except ServiceError (List CustodyAsset) × σ

/-- A collector of wallet balances. -/
structure WalletCollector (σ : Type) where
  name : String
  api : CustodyApi σ
  prices : PriceOracle σ
  storage : Storage σ
  sourceTag : String
  /-- The configured wallets, as they were given; when none is named, the service lists them. -/
  configuredIds : List String

namespace WalletAssetPoint

/-- What is wrong with an amount that must not be negative. -/
def nonNegative (field : String) (amount : Decimal) : Option ValidationError :=
  if amount.isNegative then some (.negative field amount) else none

/-- What is wrong with a point, if anything. -/
def validate (p : WalletAssetPoint) : Option ValidationError :=
  if Text.allBlank p.walletId then some (.missingField "wallet_id")
  else if p.symbol.isEmpty then some (.missingField "coin_symbol")
  else
    match p.effectiveBalance with
    | none => some (.missingField "amount")
    | some amount =>
      ((nonNegative "amount" amount).or
        (p.custodyBalance.bind (nonNegative "custody_amount"))).or
          (p.usdValue.bind (nonNegative "usd_value"))

/-- The record that keeps a point; none without an effective balance. -/
def toRecord? (sourceTag : String) (stamp : Stamp) (p : WalletAssetPoint) :
    Option SnapshotRecord :=
  p.effectiveBalance.map fun balance =>
    { kind := .walletAsset
      subjectKey := p.subjectKey
      value := balance
      secondaryValue := p.custodyBalance
      usdValue := p.usdValue
      sourceTag := sourceTag
      snapshotAt := p.snapshotAt.truncateToHour
      batchId := stamp.batchId
      attributes := .ofFields [
        ("wallet_id", .string p.walletId),
        ("wallet_name", .ofOption .string p.walletName),
        ("symbol", .string p.symbol),
        ("network", .ofOption .string p.network),
        ("available_amount", .ofOption .ofDecimal p.availableBalance)]
      createdAt := stamp.createdAt }

/-- The point that an asset of a wallet gives for an hour. -/
def ofAsset {σ : Type} (prices : PriceOracle σ) (wallet : CustodyWallet) (time : Instant)
    (asset : CustodyAsset) (s : σ) : WalletAssetPoint × σ :=
  let symbol := normalSymbol asset.coinSymbol
  let effective := asset.effectiveBalance
  let (usd, s) := match effective with
    | some amount => valueInUsd prices symbol amount s
    | none => (none, s)
  ({ walletId := wallet.walletId
     walletName := wallet.walletName
     symbol := symbol
     network := asset.network
     effectiveBalance := effective
     custodyBalance := asset.amount
     availableBalance := asset.availableAmount
     usdValue := usd
     snapshotAt := time.truncateToHour }, s)

/-- The points of all assets of a wallet, in order. -/
def ofAssets {σ : Type} (prices : PriceOracle σ) (wallet : CustodyWallet) (time : Instant) :
    List CustodyAsset → σ → List WalletAssetPoint × σ
  | [], s => ([], s)
  | asset :: rest, s =>
    let (point, s) := ofAsset prices wallet time asset s
    let (points, s) := ofAssets prices wallet time rest s
    (point :: points, s)

end WalletAssetPoint

namespace WalletCollector

variable {σ : Type}

/-- The name of the collector unless it is given another one. -/
def defaultName : String := "wallet"

/-- The tag of its records. -/
def defaultTag : String := "ceffu"

/-- The configured wallet ids that are not blank, trimmed. -/
def walletIds (c : WalletCollector σ) : List String :=
  (c.configuredIds.map Text.trimmed).filter fun id => !id.isEmpty

/-- The wallets to ask: those configured, or those the service lists. -/
def knownWallets (c : WalletCollector σ) (s : σ) :
    Except ServiceError (List CustodyWallet) × σ :=
  match c.walletIds with
  | [] => c.api.list s
  | ids => (.ok (ids.map fun id => ⟨id, none⟩), s)

/-- The points collected so far, how many wallets failed, and the error met last. -/
structure Harvest where
  points : List WalletAssetPoint
  failed : Nat
  last : Option ServiceError

/--
Asks every wallet for its assets, in order. Rejected credentials end the asking with their error.
-/
def askWallets (c : WalletCollector σ) (time : Instant) :
    List CustodyWallet → σ → Except ServiceError Harvest × σ
  | [], s => (.ok ⟨[], 0, none⟩, s)
  | wallet :: rest, s =>
    match c.api.assets wallet.walletId s with
    | (.ok assets, s) =>
      let (points, s) := WalletAssetPoint.ofAssets c.prices wallet time assets s
      let (harvest, s) := askWallets c time rest s
      (harvest.map fun h => { h with points := points ++ h.points }, s)
    | (.error e, s) =>
      if e.isAuth then (.error e, s)
      else
        let (harvest, s) := askWallets c time rest s
        (harvest.map fun h => { h with failed := h.failed + 1, last := h.last.or (some e) }, s)

/-- The outcome of a harvest: a failure when there are wallets and every one of them failed. -/
def settle (wallets : Nat) (h : Harvest) : Except ServiceError (List WalletAssetPoint) :=
  match h.last with
  | some e => if h.failed = wallets then .error e else .ok h.points
  | none => .ok h.points

/-- Collects one point per asset of every wallet. -/
def collect (c : WalletCollector σ) (time : Instant) (s : σ) :
    CollectionResult WalletAssetPoint × σ :=
  match c.knownWallets s with
  | (.error e, s) => (⟨.error e, time⟩, s)
  | (.ok wallets, s) =>
    let (harvest, s) := c.askWallets time wallets s
    (⟨harvest.bind (settle wallets.length), time⟩, s)

/-- Writes the points as one batch. -/
def save (c : WalletCollector σ) (result : CollectionResult WalletAssetPoint) (s : σ) :
    Except StoreError Nat × σ :=
  let (stamp, s) := c.storage.stamp s
  saveRecords c.storage (result.items.filterMap (WalletAssetPoint.toRecord? c.sourceTag stamp)) s

def toCollector (c : WalletCollector σ) : Collector σ WalletAssetPoint :=
  { info := ⟨c.name, "WalletCollector", "Custodial wallet asset balances with USD valuation"⟩
    collect := c.collect
    validate := WalletAssetPoint.validate
    save := c.save }

end WalletCollector

end HourlySnapshots
