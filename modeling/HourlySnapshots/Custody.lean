import HourlySnapshots.Json.Decode

/-!
# Custody wallets

Wallets and assets as the custody service lists them, and the balance of one asset of one wallet
at an hour.
-/

namespace HourlySnapshots

/-- A wallet held in custody. -/
structure CustodyWallet where
  walletId : String
  walletName : Option String
deriving DecidableEq, Inhabited

/-- An asset of a wallet. -/
structure CustodyAsset where
  coinSymbol : String
  network : Option String
  amount : Option Decimal
  availableAmount : Option Decimal
  totalAmountWithMirror : Option Decimal
deriving DecidableEq, Inhabited

/-- The balance of one asset of one wallet at an hour. -/
structure WalletAssetPoint where
  walletId : String
  walletName : Option String
  symbol : String
  network : Option String
  effectiveBalance : Option Decimal
  custodyBalance : Option Decimal
  availableBalance : Option Decimal
  usdValue : Option Decimal
  snapshotAt : Instant
deriving DecidableEq, Inhabited

namespace CustodyWallet

def encode (w : CustodyWallet) : Json :=
  .ofFields [
    ("walletId", .string w.walletId),
    ("walletName", .ofOption .string w.walletName)]

/-- The wallet id may be given as a number. -/
def decode (json : Json) : Decoded CustodyWallet := do
  let r ← json.asRecord ["walletId", "walletName"]
  let walletId ← r.required "walletId" Json.decodeTextOrNumber
  let walletName ← r.defaulted "walletName" none (Json.decodeOption Json.decodeText)
  r.complete
  return ⟨walletId, walletName⟩

end CustodyWallet

namespace CustodyAsset

/-- The total with mirrored funds where it is known, and otherwise the custody amount. -/
def effectiveBalance (a : CustodyAsset) : Option Decimal :=
  a.totalAmountWithMirror.or a.amount

def encode (a : CustodyAsset) : Json :=
  .ofFields [
    ("coinSymbol", .string a.coinSymbol),
    ("network", .ofOption .string a.network),
    ("amount", .ofOption .ofDecimal a.amount),
    ("availableAmount", .ofOption .ofDecimal a.availableAmount),
    ("totalAmountWithMirror", .ofOption .ofDecimal a.totalAmountWithMirror)]

/-- Amounts that cannot be read count as absent. -/
def decode (json : Json) : Decoded CustodyAsset := do
  let r ← json.asRecord ["coinSymbol", "network", "amount", "availableAmount",
    "totalAmountWithMirror"]
  let amount := fun name => r.defaulted name none fun value => .ok value.amount?
  let coinSymbol ← r.required "coinSymbol" Json.decodeText
  let network ← r.defaulted "network" none (Json.decodeOption Json.decodeText)
  let custody ← amount "amount"
  let available ← amount "availableAmount"
  let total ← amount "totalAmountWithMirror"
  r.complete
  return ⟨coinSymbol, network, custody, available, total⟩

end CustodyAsset

namespace WalletAssetPoint

/--
The key that records of this asset are kept under. A symbol may exist on several networks, so the
network is part of the key unless it is missing or empty.
-/
def subjectKey (p : WalletAssetPoint) : String :=
  match p.network with
  | some network =>
    if network.isEmpty then p.walletId ++ ":" ++ p.symbol
    else p.walletId ++ ":" ++ p.symbol ++ ":" ++ network
  | none => p.walletId ++ ":" ++ p.symbol

def encode (p : WalletAssetPoint) : Json :=
  .ofFields [
    ("wallet_id", .string p.walletId),
    ("wallet_name", .ofOption .string p.walletName),
    ("symbol", .string p.symbol),
    ("network", .ofOption .string p.network),
    ("effective_balance", .ofOption .ofDecimal p.effectiveBalance),
    ("custody_balance", .ofOption .ofDecimal p.custodyBalance),
    ("available_balance", .ofOption .ofDecimal p.availableBalance),
    ("usd_value", .ofOption .ofDecimal p.usdValue),
    ("snapshot_at", .ofInstant p.snapshotAt)]

def decode (json : Json) : Decoded WalletAssetPoint := do
  let r ← json.asRecord ["wallet_id", "wallet_name", "symbol", "network", "effective_balance",
    "custody_balance", "available_balance", "usd_value", "snapshot_at"]
  let walletId ← r.required "wallet_id" Json.decodeText
  let walletName ← r.optional "wallet_name" Json.decodeText
  let symbol ← r.required "symbol" Json.decodeText
  let network ← r.optional "network" Json.decodeText
  let effectiveBalance ← r.optional "effective_balance" Json.decodeDecimal
  let custodyBalance ← r.optional "custody_balance" Json.decodeDecimal
  let availableBalance ← r.optional "available_balance" Json.decodeDecimal
  let usdValue ← r.optional "usd_value" Json.decodeDecimal
  let snapshotAt ← r.required "snapshot_at" Json.decodeInstant
  r.complete
  return ⟨walletId, walletName, symbol, network, effectiveBalance, custodyBalance,
    availableBalance, usdValue, snapshotAt⟩

end WalletAssetPoint

end HourlySnapshots
