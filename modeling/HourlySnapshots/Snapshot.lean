import HourlySnapshots.Json.Decode
import HourlySnapshots.Uuid

/-!
# Snapshot records

What the store keeps: one value of one subject at one whole hour, with the batch that wrote it.
Records are never changed once they are written.
-/

namespace HourlySnapshots

/-- What a snapshot is about. -/
inductive SnapshotKind where
  | portfolioProfit
  | walletAsset
  | exchangeRate
deriving DecidableEq, Inhabited

namespace SnapshotKind

/-- The name of a kind in stored records. -/
def name : SnapshotKind → String
  | portfolioProfit => "portfolio_profit"
  | walletAsset => "wallet_asset"
  | exchangeRate => "exchange_rate"

/-- The kind with a given name. -/
def ofName? (s : String) : Option SnapshotKind :=
  [portfolioProfit, walletAsset, exchangeRate].find? fun kind => kind.name = s

/-- Every kind is found by its name. -/
theorem ofName?_name (kind : SnapshotKind) : ofName? kind.name = some kind := by
  cases kind <;> decide

/-- What is said of a name that no kind has. -/
def unknownMessage (s : String) : String := "unknown snapshot kind: " ++ s

/-- A kind is a string, or an object with the name as its only field and `null` in it. -/
def decode : Json → Decoded SnapshotKind
  | .string s => match ofName? s with
    | some kind => .ok kind
    | none => .error .shape
  | .object [(name, .null)] => match ofName? name with
    | some kind => .ok kind
    | none => .error .shape
  | _ => .error .shape

def encode (kind : SnapshotKind) : Json := .string kind.name

end SnapshotKind

/-- A stored value. -/
structure SnapshotRecord where
  kind : SnapshotKind
  subjectKey : String
  value : Decimal
  secondaryValue : Option Decimal
  usdValue : Option Decimal
  sourceTag : String
  snapshotAt : Instant
  batchId : Uuid
  attributes : Json
  createdAt : Instant
deriving Inhabited

namespace SnapshotRecord

def encode (r : SnapshotRecord) : Json :=
  .ofFields [
    ("kind", r.kind.encode),
    ("subject_key", .string r.subjectKey),
    ("value", .ofDecimal r.value),
    ("secondary_value", .ofOption .ofDecimal r.secondaryValue),
    ("usd_value", .ofOption .ofDecimal r.usdValue),
    ("source_tag", .string r.sourceTag),
    ("snapshot_at", .ofInstant r.snapshotAt),
    ("batch_id", r.batchId.encode),
    ("attributes", r.attributes),
    ("created_at", .ofInstant r.createdAt)]

def decode (json : Json) : Decoded SnapshotRecord := do
  let r ← json.asRecord ["kind", "subject_key", "value", "secondary_value", "usd_value",
    "source_tag", "snapshot_at", "batch_id", "attributes", "created_at"]
  let kind ← r.required "kind" SnapshotKind.decode
  let subjectKey ← r.required "subject_key" Json.decodeText
  let value ← r.required "value" Json.decodeDecimal
  let secondaryValue ← r.optional "secondary_value" Json.decodeDecimal
  let usdValue ← r.optional "usd_value" Json.decodeDecimal
  let sourceTag ← r.required "source_tag" Json.decodeText
  let snapshotAt ← r.required "snapshot_at" Json.decodeInstant
  let batchId ← r.required "batch_id" Uuid.decode
  let attributes ← r.defaulted "attributes" .null .ok
  let createdAt ← r.required "created_at" Json.decodeInstant
  r.complete
  return ⟨kind, subjectKey, value, secondaryValue, usdValue, sourceTag, snapshotAt, batchId,
    attributes, createdAt⟩

end SnapshotRecord

end HourlySnapshots
