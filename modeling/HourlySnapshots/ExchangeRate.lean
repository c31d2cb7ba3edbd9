import HourlySnapshots.Json.Decode
import HourlySnapshots.Text.Uppercase

/-!
# Exchange rates

Pairs of currencies or assets whose rate is wanted, with the rate to fall back on, and the rate of
a pair at an hour.
-/

namespace HourlySnapshots

/-- A configured pair. The source id names the base asset to a price service. -/
structure RatePair where
  base : String
  quote : String
  sourceId : Option String
  fallback : Decimal
deriving DecidableEq, Inhabited

/-- The rate of a pair at an hour. -/
structure RatePoint where
  base : String
  quote : String
  rate : Decimal
  sourceTag : String
  snapshotAt : Instant
deriving DecidableEq, Inhabited

/-- The tag of rates that come from the configuration. -/
def fallbackTag : String := "fallback"

/-- The key of a pair: both names with a slash between them. -/
def pairKey (base quote : String) : String := base ++ "/" ++ quote

namespace RatePair

/-- A pair with both names trimmed and in upper case, and without a source id. -/
def of (base quote : String) (fallback : Decimal) : RatePair :=
  let normal := fun s : String => String.ofList (Text.upper (Text.trim s.toList))
  ⟨normal base, normal quote, none, fallback⟩

/-- The same pair with a trimmed source id. -/
def withSourceId (p : RatePair) (sourceId : String) : RatePair :=
  { p with sourceId := some (Text.trimmed sourceId) }

def key (p : RatePair) : String := pairKey p.base p.quote

def encode (p : RatePair) : Json :=
  .ofFields [
    ("base", .string p.base),
    ("quote", .string p.quote),
    ("source_id", .ofOption .string p.sourceId),
    ("fallback", .ofDecimal p.fallback)]

def decode (json : Json) : Decoded RatePair := do
  let r ← json.asRecord ["base", "quote", "source_id", "fallback"]
  let base ← r.required "base" Json.decodeText
  let quote ← r.required "quote" Json.decodeText
  let sourceId ← r.optional "source_id" Json.decodeText
  let fallback ← r.required "fallback" Json.decodeDecimal
  r.complete
  return ⟨base, quote, sourceId, fallback⟩

/-- The fiat pairs collected when none are configured. -/
def defaultFiat : List RatePair :=
  [of "USD" "CNY" (.literal 72 1), of "USD" "EUR" (.literal 92 2), of "USD" "JPY" (.literal 1495 1)]

/-- The crypto assets collected when none are configured. -/
def defaultCrypto : List RatePair :=
  [(of "BTC" "USD" (.literal 65000 0)).withSourceId "bitcoin",
    (of "ETH" "USD" (.literal 3500 0)).withSourceId "ethereum",
    (of "BNB" "USD" (.literal 600 0)).withSourceId "binancecoin",
    (of "USDT" "USD" (.literal 1 0)).withSourceId "tether",
    (of "USDC" "USD" (.literal 1 0)).withSourceId "usd-coin"]

end RatePair

namespace RatePoint

def key (p : RatePoint) : String := pairKey p.base p.quote

/-- Whether the rate comes from the configuration and not from a service. -/
def isFallback (p : RatePoint) : Bool := p.sourceTag == fallbackTag

def encode (p : RatePoint) : Json :=
  .ofFields [
    ("base", .string p.base),
    ("quote", .string p.quote),
    ("rate", .ofDecimal p.rate),
    ("source_tag", .string p.sourceTag),
    ("snapshot_at", .ofInstant p.snapshotAt)]

def decode (json : Json) : Decoded RatePoint := do
  let r ← json.asRecord ["base", "quote", "rate", "source_tag", "snapshot_at"]
  let base ← r.required "base" Json.decodeText
  let quote ← r.required "quote" Json.decodeText
  let rate ← r.required "rate" Json.decodeDecimal
  let sourceTag ← r.required "source_tag" Json.decodeText
  let snapshotAt ← r.required "snapshot_at" Json.decodeInstant
  r.complete
  return ⟨base, quote, rate, sourceTag, snapshotAt⟩

end RatePoint

end HourlySnapshots
