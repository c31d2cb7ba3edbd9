import HourlySnapshots.Collection.WalletCollector
import HourlySnapshots.Services.Signature
import HourlySnapshots.Web.Network

/-!
# The custody service

Wallets and their assets are listed in pages; the first page holds all of them. A reply carries a
code, and rows that cannot be read do not affect the others.
-/

namespace HourlySnapshots

/-- The custody service behind an address, with the credentials for it. -/
structure CustodyService (σ : Type) where
  network : Network σ
  clock : σ → Instant × σ
  address : String
  apiKey : String
  secret : String

namespace CustodyService

variable {σ : Type}

/-- The code of a successful reply. -/
def successCode : String := "000000"

/-- The error that a document reports by its code. -/
def reported? (document : Json) : Option ServiceError :=
  match (document.field? "code").bind Json.text? with
  | some code =>
    if code = successCode then none
    else
      let message := ((document.field? "message").bind Json.text?).getD "unknown error"
      some (.status 200 s!"ceffu code {code}: {message}")
  | none => none

/-- Whether a row has a field that is not `null`. -/
def hasField (name : String) (row : Json) : Bool := (row.field? name).any fun v => !v.isNull

/-- The rows in a document that have the required field and can be read. -/
def rowsOf {α : Type} (decode : Json → Decoded α) (required : String) (document : Json) :
    Except ServiceError (List α) :=
  match reported? document with
  | some e => .error e
  | none =>
    match document.path? ["data", "data"] with
    | some (.array rows) =>
      .ok ((rows.filter (hasField required)).filterMap fun row => (decode row).toOption)
    | _ => .error (.malformed "ceffu response missing data.data")

/-- The wallets in a document. -/
def walletsOf (document : Json) : Except ServiceError (List CustodyWallet) :=
  rowsOf CustodyWallet.decode "walletId" document

/-- The assets in a document. -/
def assetsOf (document : Json) : Except ServiceError (List CustodyAsset) :=
  rowsOf CustodyAsset.decode "coinSymbol" document

/-- The path and the query of the wallet list. -/
def listPath : String := "/open-api/v1/wallet/list?pageNo=1&pageLimit=500"

/-- The path and the query for the assets of a wallet. -/
def assetPath (wallet : String) : String :=
  "/open-api/v1/wallet/asset/list?walletId=" ++
    String.ofList (Text.Percent.encode (Text.trim wallet.toList)) ++ "&pageNo=1&pageLimit=500"

/-- The milliseconds from 1970 to an instant. -/
def milliseconds (t : Instant) : Int := t.secs * 1000 + t.nanos / millisecond

/-- Asks for the document at a path, with a signature. -/
def signedGet (c : CustodyService σ) (path : String) (s : σ) : Except ServiceError Json × σ :=
  let (now, s) := c.clock s
  let time := milliseconds now
  c.network.getJson (withoutTrailingSlashes c.address ++ path)
    [("X-CEFFU-APIKEY", c.apiKey), ("X-CEFFU-TIMESTAMP", Signature.timeText time),
      ("X-CEFFU-SIGNATURE", Signature.forCustody c.secret time "GET" path "")] s

/-- The wallets that the service lists. -/
def list (c : CustodyService σ) (s : σ) : Except ServiceError (List CustodyWallet) × σ :=
  let (document, s) := c.signedGet listPath s
  (document.bind walletsOf, s)

/-- The assets of a wallet. -/
def assets (c : CustodyService σ) (wallet : String) (s : σ) :
    Except ServiceError (List CustodyAsset) × σ :=
  let (document, s) := c.signedGet (assetPath wallet) s
  (document.bind assetsOf, s)

/-- The service as a collector reaches it. -/
def api (c : CustodyService σ) : CustodyApi σ := ⟨c.list, c.assets⟩

end CustodyService

end HourlySnapshots
