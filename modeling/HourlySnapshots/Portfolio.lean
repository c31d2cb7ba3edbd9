import HourlySnapshots.Json.Decode

/-!
# Portfolios

What the portfolio service lists, what one collection learns of a portfolio, and the master entry
that the directory keeps of it.
-/

namespace HourlySnapshots

/-- The master entry of a portfolio, written when it is first seen. -/
structure PortfolioMaster where
  fundName : String
  fundAlias : String
  otSymbol : String
  status : String
  inceptionTime : Option Instant
deriving DecidableEq, Inhabited

/-- An entry of the portfolio list. -/
structure PortfolioSummary where
  fundName : String
  otSymbol : Option String
  status : Option String
deriving DecidableEq, Inhabited

/-- Profit and net asset value of a portfolio at an hour. -/
structure PortfolioPoint where
  fundName : String
  otSymbol : String
  accProfit : Option Decimal
  nav : Option Decimal
  status : String
  quote : Option String
  inceptionTime : Option Instant
  snapshotAt : Instant
deriving DecidableEq, Inhabited

namespace PortfolioMaster

/-- How an entry of the directory is written. -/
def encode (m : PortfolioMaster) : Json :=
  .ofFields [
    ("fund_name", .string m.fundName),
    ("fund_alias", .string m.fundAlias),
    ("ot_symbol", .string m.otSymbol),
    ("status", .string m.status),
    ("inception_time", .ofOption .ofInstant m.inceptionTime)]

def decode (json : Json) : Decoded PortfolioMaster := do
  let r ← json.asRecord ["fund_name", "fund_alias", "ot_symbol", "status", "inception_time"]
  let fundName ← r.required "fund_name" Json.decodeText
  let fundAlias ← r.required "fund_alias" Json.decodeText
  let otSymbol ← r.required "ot_symbol" Json.decodeText
  let status ← r.required "status" Json.decodeText
  let inceptionTime ← r.optional "inception_time" Json.decodeInstant
  r.complete
  return ⟨fundName, fundAlias, otSymbol, status, inceptionTime⟩

end PortfolioMaster

namespace PortfolioSummary

/-- How an entry of the list is written. -/
def encode (s : PortfolioSummary) : Json :=
  .ofFields [
    ("fund_name", .string s.fundName),
    ("ot_symbol", .ofOption .string s.otSymbol),
    ("status", .ofOption .string s.status)]

def decode (json : Json) : Decoded PortfolioSummary := do
  let r ← json.asRecord ["fund_name", "ot_symbol", "status"]
  let fundName ← r.required "fund_name" Json.decodeText
  let otSymbol ← r.optional "ot_symbol" Json.decodeText
  let status ← r.optional "status" Json.decodeText
  r.complete
  return ⟨fundName, otSymbol, status⟩

end PortfolioSummary

namespace PortfolioPoint

/-- How a point is written. -/
def encode (p : PortfolioPoint) : Json :=
  .ofFields [
    ("fund_name", .string p.fundName),
    ("ot_symbol", .string p.otSymbol),
    ("acc_profit", .ofOption .ofDecimal p.accProfit),
    ("nav", .ofOption .ofDecimal p.nav),
    ("status", .string p.status),
    ("quote", .ofOption .string p.quote),
    ("inception_time", .ofOption .ofInstant p.inceptionTime),
    ("snapshot_at", .ofInstant p.snapshotAt)]

def decode (json : Json) : Decoded PortfolioPoint := do
  let r ← json.asRecord ["fund_name", "ot_symbol", "acc_profit", "nav", "status", "quote",
    "inception_time", "snapshot_at"]
  let fundName ← r.required "fund_name" Json.decodeText
  let otSymbol ← r.required "ot_symbol" Json.decodeText
  let accProfit ← r.optional "acc_profit" Json.decodeDecimal
  let nav ← r.optional "nav" Json.decodeDecimal
  let status ← r.required "status" Json.decodeText
  let quote ← r.optional "quote" Json.decodeText
  let inceptionTime ← r.optional "inception_time" Json.decodeInstant
  let snapshotAt ← r.required "snapshot_at" Json.decodeInstant
  r.complete
  return ⟨fundName, otSymbol, accProfit, nav, status, quote, inceptionTime, snapshotAt⟩

end PortfolioPoint

end HourlySnapshots
