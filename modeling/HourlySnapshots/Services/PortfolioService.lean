import HourlySnapshots.Collection.PortfolioCollector
import HourlySnapshots.Services.Signature
import HourlySnapshots.Web.Network

/-!
# The portfolio service

Portfolios are listed at one address and described at another by the name of the fund. Requests are
signed over the path and the query as they are sent.
-/

namespace HourlySnapshots

/-- The portfolio service behind an address, with the credentials for it. -/
structure PortfolioService (σ : Type) where
  network : Network σ
  clock : σ → Instant × σ
  address : String
  apiKey : String
  secret : String

namespace PortfolioSummary

/-- The trimmed text of a field; none when it is blank or no text. -/
def textField? (entry : Json) (name : String) : Option String :=
  (((entry.field? name).bind Json.text?).map Text.trimmed).filter fun s => !s.isEmpty

/-- The summary that an entry gives; none when its name is no text. -/
def ofRow? (entry : Json) : Option PortfolioSummary :=
  (((entry.field? "fund_name").or (entry.field? "name")).bind Json.text?).map fun name =>
    { fundName := Text.trimmed name
      otSymbol := textField? entry "ot_symbol"
      status := textField? entry "status" }

/-- Where a document may keep its list, in order of preference. -/
def listPaths : List (List String) :=
  [["result", "fund_info_list"], ["data", "fund_info_list"], ["data", "result"]]

/-- The summaries in a document. An entry without a name does not affect the others. -/
def listOf (document : Json) : Except ServiceError (List PortfolioSummary) :=
  match listPaths.findSome? fun path => document.path? path with
  | some (.array entries) => .ok (entries.filterMap ofRow?)
  | _ => .error (.malformed "portfolio list missing from response")

end PortfolioSummary

namespace PortfolioService

variable {σ : Type}

/-- The path of the list. -/
def listPath : String := "/api/v1/fundv3/openapi/portfolio/list-portfolio"

/-- The path and the query for the detail of a fund. -/
def detailPath (fund : String) : String :=
  "/api/v1/fundv3/openapi/portfolio/get-portfolio-detail?fund_name=" ++
    String.ofList (Text.Percent.encode (Text.trim fund.toList))

/-- Asks for the document at a path, with a signature. -/
def signedGet (p : PortfolioService σ) (path : String) (s : σ) : Except ServiceError Json × σ :=
  let (now, s) := p.clock s
  match Signature.forPortfolios p.secret "GET" path now.secs "" with
  | .error e => (.error e, s)
  | .ok signature =>
    p.network.getJson (withoutTrailingSlashes p.address ++ path)
      [("Api-Key", p.apiKey), ("Api-Signature", signature),
        ("Api-Timestamp", Signature.timeText now.secs)] s

/-- The portfolios that the service lists. -/
def list (p : PortfolioService σ) (s : σ) : Except ServiceError (List PortfolioSummary) × σ :=
  let (document, s) := p.signedGet listPath s
  (document.bind PortfolioSummary.listOf, s)

/-- The detail of a fund. -/
def detail (p : PortfolioService σ) (fund : String) (s : σ) : Except ServiceError Json × σ :=
  p.signedGet (detailPath fund) s

/-- The service as a collector reaches it. -/
def api (p : PortfolioService σ) : PortfolioApi σ := ⟨p.list, p.detail⟩

end PortfolioService

end HourlySnapshots
