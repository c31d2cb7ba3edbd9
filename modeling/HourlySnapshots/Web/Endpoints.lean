import HourlySnapshots.Scheduler.Status
import HourlySnapshots.Web.Network

/-!
# The web interface

What the service answers over the web: its health, the state of the scheduler, and cycles triggered
by hand. Browsers of configured origins may read the answers.
-/

namespace HourlySnapshots

/-- A request to the service. -/
structure ServedRequest where
  method : String
  /-- What is asked for: a path and a query, or a whole address. -/
  target : String
  headers : Headers

/-- The body of an answer. -/
inductive ServedBody where
  | none
  | text (s : String)
  | document (value : Json)
  /-- The figures for the monitoring system. -/
  | figures

/-- An answer of the service. -/
structure ServedAnswer where
  status : Nat
  body : ServedBody
  /-- The origin whose browsers may read the answer. -/
  allowedOrigin : Option String
  /-- The id given with the request; a fresh one is made up when there is none. -/
  requestId : Option String

/-- The database as the service queries it. -/
structure Database (σ : Type) where
  ready : σ → Bool
  /-- The records of an hour; none when they cannot be read. -/
  recordsAt : Instant → σ → Option (List SnapshotRecord)

/-- A database that cannot be reached. -/
def Database.unreachable {σ : Type} : Database σ := ⟨fun _ => false, fun _ _ => none⟩

/-- What can be asked of the service. -/
inductive Endpoint where
  | greeting
  | figures
  | health
  | readiness
  | status
  | trigger
  | collectors
  | setUp
  | snapshots
deriving DecidableEq

namespace Endpoint

/-- The path of each endpoint. -/
def path : Endpoint → String
  | greeting => "/"
  | figures => "/metrics"
  | health => "/healthz"
  | readiness => "/readyz"
  | status => "/api/data-collection/status"
  | trigger => "/api/data-collection/trigger"
  | collectors => "/api/data-collection/collectors"
  | setUp => "/api/data-collection/initialize"
  | snapshots => "/api/data-collection/snapshots"

/-- All endpoints. -/
def all : List Endpoint :=
  [greeting, figures, health, readiness, status, trigger, collectors, setUp, snapshots]

/-- The endpoint with a path. -/
def ofPath? (path : String) : Option Endpoint := all.find? fun e => e.path == path

/-- Whether asking changes something, so that it needs another method. -/
def isAction : Endpoint → Bool
  | trigger | setUp => true
  | _ => false

/-- Whether a method may be used; what can be read may also be asked for its headers alone. -/
def allows (e : Endpoint) (method : String) : Bool :=
  if e.isAction then method == "POST" else method == "GET" || method == "HEAD"

end Endpoint

namespace ServedRequest

/-- The value of a header, whose name is not case-sensitive. -/
def header? (r : ServedRequest) (name : String) : Option String :=
  (r.headers.find? fun (other, _) => other.toList.map Char.toLower == name.toList).map (·.2)

/-- The path and the query of the target; a scheme and a host may stand before them. -/
def resource (r : ServedRequest) : List Char :=
  let visible := r.target.toList.takeWhile (· ≠ '#')
  match visible.dropWhile Url.isSchemeChar with
  | ':' :: '/' :: '/' :: rest => rest.dropWhile fun c => c ≠ '/' ∧ c ≠ '?'
  | _ => visible

/-- The path, which may be left out. -/
def path (r : ServedRequest) : String :=
  match r.resource.takeWhile (· ≠ '?') with
  | [] => "/"
  | path => String.ofList path

def query (r : ServedRequest) : List Char := (r.resource.dropWhile (· ≠ '?')).drop 1

/--
The instant asked for in the query, in seconds since 1970; the inner value is none when the query
does not name one, and the outer one when it names one badly or twice.
-/
def time? (r : ServedRequest) : Option (Option Instant) :=
  match (Text.Percent.formPairs r.query).filter fun (name, _) => name == "timestamp" with
  | [] => some none
  | [(_, value)] =>
    ((Text.readSigned? (Nat.pow 2 63) value.toList).bind fun secs =>
      Instant.ofParts? secs 0).map some
  | _ => none

end ServedRequest

namespace Endpoint

variable {σ : Type}

/-- A status and a body. -/
abbrev Outcome := Nat × ServedBody

/-- The outcome of a request that is no good. -/
def badRequest : Outcome := (400, .none)

/-- The outcome of a request that the service could not fulfil. -/
def failure : Outcome := (500, .none)

/-- What is said of a cycle triggered over the web. -/
def cycleDocument (hour : Instant) (results : CycleResults) : Json :=
  .ofFields [
    ("collection_time", .ofInstant hour),
    ("results", results.encode),
    ("success", .bool (results.all (·.2)))]

/-- Triggers a cycle for an instant, or for the present one. -/
def serveTrigger (time : Option Instant) (m : Machine σ) : Outcome × Machine σ :=
  let (time, m) := match time with
    | some time => (some time, m)
    | none => m.readClock
  match time with
  | none => (failure, m)
  | some time =>
    let hour := time.truncateToHour
    match m.runCycle (some hour) with
    | (.ok results, m) => ((200, .document (cycleDocument hour results)), m)
    | (.error _, m) => (failure, m)

/-- Serves a request whose method is allowed. -/
def serve (e : Endpoint) (db : Database σ) (r : ServedRequest) (m : Machine σ) :
    Outcome × Machine σ :=
  match e with
  | greeting => ((200, .text "hourly snapshot collector"), m)
  | figures => ((200, .figures), m)
  | health => ((200, .text "ok"), m)
  | readiness => (if db.ready m.world then (200, .text "ready") else (503, .none), m)
  | status => ((200, .document m.status.encode), m)
  | collectors =>
    let infos := Registry.describe m.registry
    ((200, .document (.ofFields [
      ("total", .ofInt infos.length),
      ("collectors", .array (infos.map CollectorInfo.encode))])), m)
  | setUp =>
    match m.ensureInitialized with
    | (.ok report, m) => ((200, .document report.encode), m)
    | (.error _, m) => (failure, m)
  | trigger =>
    match r.time? with
    | none => (badRequest, m)
    | some time => serveTrigger time m
  | snapshots =>
    match r.time? with
    | some (some time) =>
      match db.recordsAt time.truncateToHour m.world with
      | some records => ((200, .document (.array (records.map SnapshotRecord.encode))), m)
      | none => (failure, m)
    | _ => (badRequest, m)

end Endpoint

namespace ServedRequest

variable {σ : Type}

/-- The outcome of a request: what browsers ask beforehand is answered for every path. -/
def outcome (r : ServedRequest) (db : Database σ) (m : Machine σ) :
    Endpoint.Outcome × Machine σ :=
  if r.method = "OPTIONS" then ((200, .text ""), m)
  else
    match Endpoint.ofPath? r.path with
    | none => ((404, .none), m)
    | some e =>
      if e.allows r.method then
        let ((status, body), m) := e.serve db r m
        (if r.method = "HEAD" && status < 400 then (status, .text "") else (status, body), m)
      else ((405, .none), m)

/-- Answers a request. -/
def answer (r : ServedRequest) (origins : List String) (db : Database σ) (m : Machine σ) :
    ServedAnswer × Machine σ :=
  let ((status, body), m) := r.outcome db m
  ({ status := status
     body := body
     allowedOrigin := (r.header? "origin").filter fun origin => origins.contains origin
     requestId := r.header? "x-request-id" }, m)

end ServedRequest

end HourlySnapshots
