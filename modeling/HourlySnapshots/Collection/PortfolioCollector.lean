import HourlySnapshots.Calendar.Hour
import HourlySnapshots.Collection.Collector

/-!
# Collecting portfolios

The portfolio service lists funds; each fund's detail is asked for by name. Details come in several
spellings: the figures may be wrapped, and each has alternative names. One fund whose detail fails
does not keep the others from being collected, but rejected credentials end the collection.
-/

namespace HourlySnapshots

/-- The portfolio service as a collector reaches it. -/
structure PortfolioApi (σ : Type) where
  list : σ → Except ServiceError (List PortfolioSummary) × σ
  /-- The detail of a fund, in whatever shape the service gives it. -/
  detail : String → σ → Except ServiceError Json × σ

/-- A collector of portfolio profit and net asset value. -/
structure PortfolioCollector (σ : Type) where
  name : String
  api : PortfolioApi σ
  storage : Storage σ
  sourceTag : String

namespace PortfolioPoint

/-- The fields that may hold the accumulated profit, in order of preference. -/
def profitFields : List String := ["acc_profit", "accumulated_profit", "total_profit", "pnl"]

/-- The fields that may hold the net asset value, in order of preference. -/
def navFields : List String := ["nav", "net_asset_value", "unit_nav"]

/-- The object that holds the figures: one that the detail wraps, or else the detail itself. -/
def body (detail : Json) : Json :=
  ((["result", "data"].filterMap fun name => detail.field? name).find? Json.isObject).getD detail

/-- The trimmed text of a field; none when it is blank or no text. -/
def textField? (body : Json) (name : String) : Option String :=
  ((body.field? name).bind Json.text?).bind fun s =>
    if Text.allBlank s then none else some (Text.trimmed s)

/-- An instant given in seconds or milliseconds since 1970, or as an RFC 3339 text. -/
def inception? : Json → Option Instant
  | .number (.whole n) =>
    if Nat.pow 2 63 ≤ n then none
    else if 100000000000 < n then Instant.ofNanos? (n * millisecond)
    else Instant.ofParts? n 0
  | .string s => Rfc3339.readStrict? (Text.trim s.toList)
  | _ => none

/-- The point that a summary and a detail give for an hour. -/
def ofDetail (summary : PortfolioSummary) (detail : Json) (time : Instant) : PortfolioPoint :=
  let body := body detail
  let name := Text.trimmed summary.fundName
  { fundName := name
    otSymbol := (summary.otSymbol.or (textField? body "ot_symbol")).getD name
    accProfit := body.firstAmount? profitFields
    nav := body.firstAmount? navFields
    status := ((textField? body "status").or summary.status).getD "unknown"
    quote := textField? body "quote"
    inceptionTime := (body.field? "inception_time").bind inception?
    snapshotAt := time.truncateToHour }

/-- What is wrong with a point, if anything. -/
def validate (p : PortfolioPoint) : Option ValidationError :=
  if Text.allBlank p.fundName then some (.missingField "fund_name")
  else if p.accProfit.isNone then some (.missingField "acc_profit")
  else
    match p.nav with
    | some nav => if nav.isNegative then some (.negative "nav" nav) else none
    | none => none

/-- The record that keeps a point; none without a profit. -/
def toRecord? (sourceTag : String) (stamp : Stamp) (p : PortfolioPoint) : Option SnapshotRecord :=
  p.accProfit.map fun profit =>
    { kind := .portfolioProfit
      subjectKey := p.fundName
      value := profit
      secondaryValue := p.nav
      usdValue := none
      sourceTag := sourceTag
      snapshotAt := p.snapshotAt.truncateToHour
      batchId := stamp.batchId
      attributes := .ofFields [
        ("ot_symbol", .string p.otSymbol),
        ("status", .string p.status),
        ("quote", .ofOption .string p.quote)]
      createdAt := stamp.createdAt }

/-- The master entry that the directory keeps of a fund. -/
def toMaster (p : PortfolioPoint) : PortfolioMaster :=
  { fundName := p.fundName
    fundAlias := p.fundName
    otSymbol := p.otSymbol
    status := p.status
    inceptionTime := p.inceptionTime }

end PortfolioPoint

namespace PortfolioCollector

variable {σ : Type}

/-- The name of the collector unless it is given another one. -/
def defaultName : String := "portfolio"

/-- The tag of its records unless it is given another one. -/
def defaultTag : String := "1token"

/-- The points collected so far and the error met last. -/
abbrev Harvest := List PortfolioPoint × Option ServiceError

/--
Asks for the detail of every listed fund with a name, in order. Rejected credentials end the
asking with their error.
-/
def askDetails (api : PortfolioApi σ) (time : Instant) :
    List PortfolioSummary → σ → Except ServiceError Harvest × σ
  | [], s => (.ok ([], none), s)
  | summary :: rest, s =>
    if Text.allBlank summary.fundName then askDetails api time rest s
    else
      match api.detail summary.fundName s with
      | (.ok detail, s) =>
        let (harvest, s) := askDetails api time rest s
        (harvest.map fun (points, last) => (.ofDetail summary detail time :: points, last), s)
      | (.error e, s) =>
        if e.isAuth then (.error e, s)
        else
          let (harvest, s) := askDetails api time rest s
          (harvest.map fun (points, last) => (points, last.or (some e)), s)

/-- The outcome of a harvest: a failure when there is no point and some detail failed. -/
def settle : Harvest → Except ServiceError (List PortfolioPoint)
  | ([], some e) => .error e
  | (points, _) => .ok points

/-- Collects one point per fund. -/
def collect (c : PortfolioCollector σ) (time : Instant) (s : σ) :
    CollectionResult PortfolioPoint × σ :=
  match c.api.list s with
  | (.error e, s) => (⟨.error e, time⟩, s)
  | (.ok summaries, s) =>
    let (harvest, s) := askDetails c.api time summaries s
    (⟨harvest.bind settle, time⟩, s)

/-- Registers the funds of the points in order, until the directory fails. -/
def registerAll (storage : Storage σ) : List PortfolioPoint → σ → σ
  | [], s => s
  | point :: rest, s =>
    match storage.registerIfAbsent point.toMaster s with
    | (.ok _, s) => registerAll storage rest s
    | (.error _, s) => s

/-- Writes the points as one batch, and registers their funds once the batch is written. -/
def save (c : PortfolioCollector σ) (result : CollectionResult PortfolioPoint) (s : σ) :
    Except StoreError Nat × σ :=
  let (stamp, s) := c.storage.stamp s
  let records := result.items.filterMap (PortfolioPoint.toRecord? c.sourceTag stamp)
  if records.isEmpty then (.ok 0, s)
  else
    match c.storage.insertBatch records s with
    | (.ok ids, s) => (.ok ids.length, registerAll c.storage result.items s)
    | (.error e, s) => (.error e, s)

def toCollector (c : PortfolioCollector σ) : Collector σ PortfolioPoint :=
  { info := ⟨c.name, "PortfolioCollector", "Portfolio cumulative profit and NAV snapshots"⟩
    collect := c.collect
    validate := PortfolioPoint.validate
    save := c.save }

end PortfolioCollector

end HourlySnapshots
