import HourlySnapshots.Collection.RateCollector
import HourlySnapshots.Web.Network

/-!
# Rates of currencies

A public service answers the rates of all currencies against one base currency. Each distinct base
is asked for once, in ascending order; the first error ends the asking.
-/

namespace HourlySnapshots

/-- The service of currency rates behind an address. -/
structure FiatRates (σ : Type) where
  network : Network σ
  address : String

namespace FiatRates

variable {σ : Type}

/-- The tag of rates from this service. -/
def tag : String := "exchangerate-api.com"

/-- Puts a text into an ascending list that holds each text once. -/
def insertDistinct (name : String) : List String → List String
  | [] => [name]
  | other :: rest =>
    if name < other then name :: other :: rest
    else if name = other then other :: rest
    else other :: insertDistinct name rest

/-- The distinct texts of a list in ascending order. -/
def ascending (names : List String) : List String :=
  names.foldl (fun kept name => insertDistinct name kept) []

/-- The amounts in the table of a document, by currency. -/
def tableOf (document : Json) : Except ServiceError (List (String × Decimal)) :=
  match document.field? "rates" with
  | some (.object fields) =>
    .ok (fields.filterMap fun (name, value) => value.amount?.map fun rate => (name, rate))
  | _ => .error (.malformed "rates table missing from response")

/-- The rates that a table gives for the pairs with a base. -/
def ratesFor (base : String) (pairs : List RatePair) (table : List (String × Decimal)) :
    List (String × Decimal) :=
  (pairs.filter fun pair => pair.base == base).filterMap fun pair =>
    (table.lookup pair.quote).map fun rate => (pair.key, rate)

/-- Asks for the rates of each base in turn and adds them to those known so far. -/
def fetchBases (f : FiatRates σ) (pairs : List RatePair) :
    List String → RateMap → σ → Except ServiceError RateMap × σ
  | [], known, s => (.ok known, s)
  | base :: rest, known, s =>
    let (document, s) :=
      f.network.getJson (withoutTrailingSlashes f.address ++ "/latest/" ++ base) [] s
    match document.bind tableOf with
    | .error e => (.error e, s)
    | .ok table => fetchBases f pairs rest (known.insertAll (ratesFor base pairs table)) s

/-- The rates known for some pairs. -/
def fetch (f : FiatRates σ) (pairs : List RatePair) (s : σ) : Except ServiceError RateMap × σ :=
  f.fetchBases pairs (ascending (pairs.map RatePair.base)) [] s

/-- The service as a collector reaches it. -/
def source (f : FiatRates σ) : RateSource σ := ⟨tag, f.fetch⟩

end FiatRates

end HourlySnapshots
