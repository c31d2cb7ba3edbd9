import HourlySnapshots.Collection.Pricing
import HourlySnapshots.Services.FiatRates

/-!
# Prices of coins

A public service answers the prices of coins in US dollars by the ids it knows them under. It
serves as a source of rates, and as a price oracle that remembers what it was told.
-/

namespace HourlySnapshots

/-- The service of coin prices behind an address. -/
structure CoinPrices (σ : Type) where
  network : Network σ
  address : String

namespace CoinPrices

variable {σ : Type}

/-- The tag of rates from this service. -/
def tag : String := "coingecko.com"

/-- The address of the prices of some ids. -/
def addressFor (c : CoinPrices σ) (ids : List String) : String :=
  withoutTrailingSlashes c.address ++ "/simple/price?ids=" ++
    String.ofList (Text.Percent.encodeForm (",".intercalate ids).toList) ++ "&vs_currencies=usd"

/-- The price in an entry. -/
def usd? (entry : Json) : Option Decimal := (entry.field? "usd").bind Json.amount?

/-- The prices in a document, by id. -/
def quotesOf : Json → List (String × Decimal)
  | .object fields => fields.filterMap fun (id, entry) => (usd? entry).map fun price => (id, price)
  | _ => []

/-- The distinct ids of the pairs against the US dollar, in ascending order. -/
def idsOf (pairs : List RatePair) : List String :=
  FiatRates.ascending ((pairs.filter fun pair => pair.quote == "USD").filterMap RatePair.sourceId)

/-- The rates that quotes give for the pairs with an id. -/
def ratesFor (pairs : List RatePair) (quotes : List (String × Decimal)) : List (String × Decimal) :=
  pairs.filterMap fun pair =>
    (pair.sourceId.bind fun id => quotes.lookup id).map fun price => (pair.key, price)

/-- The rates known for some pairs; nothing is asked when no pair has an id and a dollar quote. -/
def fetch (c : CoinPrices σ) (pairs : List RatePair) (s : σ) : Except ServiceError RateMap × σ :=
  match idsOf pairs with
  | [] => (.ok [], s)
  | ids =>
    let (document, s) := c.network.getJson (c.addressFor ids) [] s
    (document.map fun document => RateMap.insertAll [] (ratesFor pairs (quotesOf document)), s)

/-- The service as a collector reaches it. -/
def source (c : CoinPrices σ) : RateSource σ := ⟨tag, c.fetch⟩

end CoinPrices

/-- A remembered price and when it was told, in nanoseconds of a clock that never stops. -/
structure CachedPrice where
  price : Decimal
  toldAt : Nat
deriving DecidableEq

/-- Remembered prices by symbol, each symbol once. -/
abbrev PriceCache := List (String × CachedPrice)

/-- A price oracle that asks the service and remembers its answers in the state. -/
structure CoinPriceOracle (σ : Type) where
  service : CoinPrices σ
  /-- Ids by symbol, which go before the known ones. -/
  ids : List (String × String)
  /-- How long an answer counts as fresh. -/
  lifetime : Span
  cache : σ → PriceCache
  setCache : PriceCache → σ → σ
  /-- The nanoseconds of a clock that never stops. -/
  uptime : σ → Nat × σ

namespace CoinPriceOracle

variable {σ : Type}

/-- The ids of well-known coins. -/
def knownIds : List (String × String) :=
  [("ETH", "ethereum"), ("WETH", "ethereum"), ("BTC", "bitcoin"), ("WBTC", "wrapped-bitcoin"),
    ("BNB", "binancecoin"), ("SOL", "solana"), ("USDC", "usd-coin"), ("USDT", "tether"),
    ("DAI", "dai")]

/-- The id that the service knows a symbol under. -/
def id? (o : CoinPriceOracle σ) (symbol : String) : Option String :=
  (o.ids.lookup symbol).or (knownIds.lookup symbol)

/-- The remembered price of a symbol, and whether it is still fresh. -/
def cached? (o : CoinPriceOracle σ) (symbol : String) (s : σ) : Option (Decimal × Bool) × σ :=
  match (o.cache s).lookup symbol with
  | none => (none, s)
  | some entry =>
    let (now, s) := o.uptime s
    (some (entry.price, decide (now - entry.toldAt ≤ o.lifetime)), s)

/-- Remembers the price of a symbol. -/
def remember (o : CoinPriceOracle σ) (symbol : String) (price : Decimal) (s : σ) : σ :=
  let (now, s) := o.uptime s
  let others := (o.cache s).filter fun (other, _) => other ≠ symbol
  o.setCache (others ++ [(symbol, ⟨price, now⟩)]) s

/-- Asks the service for a price; one that is not greater than zero is none. -/
def ask (o : CoinPriceOracle σ) (id : String) (s : σ) : PriceAnswer × σ :=
  let (document, s) := o.service.network.getJson (o.service.addressFor [id]) [] s
  (document.map fun document =>
    ((document.field? id).bind CoinPrices.usd?).filter Decimal.isPositive, s)

/--
The price of a symbol: a fresh one from memory, or else the answer of the service. When the service
has no answer, a remembered price serves however old it is.
-/
def price (o : CoinPriceOracle σ) : PriceOracle σ := fun symbol s =>
  let symbol := normalSymbol symbol
  match o.cached? symbol s with
  | (some (price, true), s) => (.ok (some price), s)
  | (remembered, s) =>
    let stale := remembered.map (·.1)
    match o.id? symbol with
    | none => (.ok none, s)
    | some id =>
      match o.ask id s with
      | (.ok (some price), s) => (.ok (some price), o.remember symbol price s)
      | (.ok none, s) => (.ok stale, s)
      | (.error e, s) =>
        match stale with
        | some price => (.ok (some price), s)
        | none => (.error e, s)

end CoinPriceOracle

end HourlySnapshots
