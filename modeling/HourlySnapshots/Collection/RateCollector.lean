import HourlySnapshots.Calendar.Hour
import HourlySnapshots.Collection.Collector
import HourlySnapshots.ExchangeRate

/-!
# Collecting exchange rates

Each source is asked once for the rates of its pairs. Every configured pair yields a point: the
rate of its source where that is greater than zero, and otherwise the configured fallback.
-/

namespace HourlySnapshots

/-- Rates by pair key, each key once. -/
abbrev RateMap := List (String × Decimal)

namespace RateMap

/-- Sets the rate of a key. -/
def insert (rates : RateMap) (key : String) (rate : Decimal) : RateMap :=
  rates.filter (fun (other, _) => other ≠ key) ++ [(key, rate)]

/-- Sets the rates of several keys; the last one given for a key counts. -/
def insertAll (rates : RateMap) (more : List (String × Decimal)) : RateMap :=
  more.foldl (fun rates (key, rate) => insert rates key rate) rates

end RateMap

/-- A source of exchange rates as a collector reaches it. -/
structure RateSource (σ : Type) where
  tag : String
  /-- The rates known for the given pairs; a pair without a rate is left out. -/
  fetch : List RatePair → σ → Except ServiceError RateMap × σ

/-- A collector of exchange rates: sources with the pairs each is asked for. -/
structure RateCollector (σ : Type) where
  name : String
  portions : List (RateSource σ × List RatePair)
  storage : Storage σ

namespace RatePoint

/-- The point of a pair, given the tag of its source and the rates that the source answered. -/
def ofPair (tag : String) (rates : Option RateMap) (time : Instant) (pair : RatePair) :
    RatePoint :=
  let live := (rates.bind (·.lookup pair.key)).filter Decimal.isPositive
  { base := pair.base
    quote := pair.quote
    rate := live.getD pair.fallback
    sourceTag := if live.isSome then tag else fallbackTag
    snapshotAt := time.truncateToHour }

/-- What is wrong with a point, if anything. -/
def validate (p : RatePoint) : Option ValidationError :=
  if p.base.isEmpty then some (.missingField "base")
  else if p.quote.isEmpty then some (.missingField "quote")
  else if p.rate.isPositive then none
  else some (.notPositive "rate" p.rate)

/-- The record that keeps a point. -/
def toRecord (stamp : Stamp) (p : RatePoint) : SnapshotRecord :=
  { kind := .exchangeRate
    subjectKey := p.key
    value := p.rate
    secondaryValue := none
    usdValue := none
    sourceTag := p.sourceTag
    snapshotAt := p.snapshotAt.truncateToHour
    batchId := stamp.batchId
    attributes := .ofFields [("base", .string p.base), ("quote", .string p.quote)]
    createdAt := stamp.createdAt }

end RatePoint

namespace RateCollector

variable {σ : Type}

/-- The name of the collector unless it is given another one. -/
def defaultName : String := "rate"

/-- The collector without sources. -/
def empty (name : String) (storage : Storage σ) : RateCollector σ := ⟨name, [], storage⟩

/-- Adds a source with its pairs; a source without pairs is never asked. -/
def withSource (c : RateCollector σ) (source : RateSource σ) (pairs : List RatePair) :
    RateCollector σ :=
  if pairs.isEmpty then c else { c with portions := c.portions ++ [(source, pairs)] }

/-- How many pairs are configured. -/
def pairCount (c : RateCollector σ) : Nat := (c.portions.flatMap (·.2)).length

/-- The points of one source. -/
def collectPortion (time : Instant) (source : RateSource σ) (pairs : List RatePair) (s : σ) :
    List RatePoint × σ :=
  let (answer, s) := source.fetch pairs s
  (pairs.map (.ofPair source.tag answer.toOption time), s)

/-- The points of all sources, in order. -/
def collectPortions (time : Instant) :
    List (RateSource σ × List RatePair) → σ → List RatePoint × σ
  | [], s => ([], s)
  | (source, pairs) :: rest, s =>
    let (points, s) := collectPortion time source pairs s
    let (more, s) := collectPortions time rest s
    (points ++ more, s)

/-- Collects one point per configured pair. -/
def collect (c : RateCollector σ) (time : Instant) (s : σ) : CollectionResult RatePoint × σ :=
  let (points, s) := collectPortions time c.portions s
  (⟨.ok points, time⟩, s)

/-- Writes the points as one batch. -/
def save (c : RateCollector σ) (result : CollectionResult RatePoint) (s : σ) :
    Except StoreError Nat × σ :=
  let (stamp, s) := c.storage.stamp s
  saveRecords c.storage (result.items.map (RatePoint.toRecord stamp)) s

def toCollector (c : RateCollector σ) : Collector σ RatePoint :=
  { info := ⟨c.name, "RateCollector", "Fiat and crypto exchange rates with static fallback"⟩
    collect := c.collect
    validate := RatePoint.validate
    save := c.save }

end RateCollector

end HourlySnapshots
