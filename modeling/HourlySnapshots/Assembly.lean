import HourlySnapshots.Scheduler.Registry
import HourlySnapshots.Services.CoinPrices
import HourlySnapshots.Services.CustodyService
import HourlySnapshots.Services.PortfolioService
import HourlySnapshots.Settings

/-!
# Assembling the collectors

Which collectors there are follows from the settings: portfolios and wallets are collected when
there are credentials for their services, and exchange rates always.
-/

namespace HourlySnapshots

/-- What the collectors of a running service work with. -/
structure Surroundings (σ : Type) where
  /-- The network, with a limit for each request in seconds. -/
  network : Nat → Network σ
  storage : Storage σ
  /-- The present instant. -/
  clock : σ → Instant × σ
  /-- Where remembered prices are kept. -/
  cache : σ → PriceCache
  setCache : PriceCache → σ → σ
  /-- The nanoseconds of a clock that never stops. -/
  uptime : σ → Nat × σ

namespace Assembly

variable {σ : Type}

/-- The collector of portfolios. -/
def portfolioCollector (w : Surroundings σ) (s : Settings) (access : PortfolioAccess) :
    PortfolioCollector σ :=
  let service : PortfolioService σ :=
    ⟨w.network s.serviceTimeout, w.clock, access.address, access.apiKey, access.secret⟩
  ⟨PortfolioCollector.defaultName, service.api, w.storage, PortfolioCollector.defaultTag⟩

/-- The service of coin prices. -/
def coinPrices (w : Surroundings σ) (s : Settings) : CoinPrices σ :=
  ⟨w.network s.publicTimeout, s.coinAddress⟩

/-- Prices of tokens: those of the service, or else those of the settings. -/
def tokenPrices (w : Surroundings σ) (s : Settings) : PriceOracle σ :=
  let live : CoinPriceOracle σ :=
    ⟨coinPrices w s, s.tokenIds, s.priceLifetime * second, w.cache, w.setCache, w.uptime⟩
  .fallback live.price (.ofTable (.withDefaults s.tokenPrices))

/-- The collector of wallet balances. -/
def walletCollector (w : Surroundings σ) (s : Settings) (access : CustodyAccess) :
    WalletCollector σ :=
  let service : CustodyService σ :=
    ⟨w.network s.serviceTimeout, w.clock, access.address, access.apiKey, access.secret⟩
  ⟨WalletCollector.defaultName, service.api, tokenPrices w s, w.storage,
    WalletCollector.defaultTag, access.walletIds⟩

/-- The collector of exchange rates. -/
def rateCollector (w : Surroundings σ) (s : Settings) : RateCollector σ :=
  let fiat : FiatRates σ := ⟨w.network s.publicTimeout, s.fiatAddress⟩
  ((RateCollector.empty RateCollector.defaultName w.storage).withSource fiat.source
    s.fiatPairs).withSource (coinPrices w s).source s.coinPairs

/-- The collectors in the order they are registered. -/
def collectors (w : Surroundings σ) (s : Settings) : List (Registered σ) :=
  (s.portfolios.toList.map fun access =>
      Registered.ofCollector (portfolioCollector w s access).toCollector) ++
    (s.custody.toList.map fun access =>
      Registered.ofCollector (walletCollector w s access).toCollector) ++
    [.ofCollector (rateCollector w s).toCollector]

end Assembly

end HourlySnapshots
