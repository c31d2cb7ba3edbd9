import HourlySnapshots.Collection.Error
import HourlySnapshots.ExchangeRate

/-!
# Prices in US dollars

A price oracle answers the price of a symbol in US dollars, that it knows none, or an error. The
value of an amount is worked out from it, except that nothing is worth nothing and that a stable
coin is worth its own amount.
-/

namespace HourlySnapshots

/-- What an oracle answers about a symbol. -/
abbrev PriceAnswer := Except ServiceError (Option Decimal)

/-- The coins whose price is one dollar by design. -/
def stablecoins : List String := ["USDT", "USDC", "USD1", "BUSD", "DAI"]

/-- Whether a symbol, trimmed and in any ASCII case, is that of a stable coin. -/
def isStablecoin (symbol : String) : Bool :=
  stablecoins.any fun coin => coin.toList = (Text.trim symbol.toList).map Char.toUpper

/-- A symbol trimmed and in upper case. -/
def normalSymbol (symbol : String) : String :=
  String.ofList (Text.upper (Text.trim symbol.toList))

/-! ## Fixed tables -/

/-- A table of prices by normal symbol, each symbol once. -/
structure PriceTable where
  entries : List (String × Decimal)
deriving Inhabited

namespace PriceTable

def empty : PriceTable := ⟨[]⟩

/-- Sets the price of a symbol. -/
def insert (t : PriceTable) (symbol : String) (price : Decimal) : PriceTable :=
  let name := normalSymbol symbol
  ⟨t.entries.filter (fun (other, _) => other ≠ name) ++ [(name, price)]⟩

/-- The table with these prices; of several prices of one symbol the last one counts. -/
def ofList (prices : List (String × Decimal)) : PriceTable :=
  prices.foldl (fun t (symbol, price) => t.insert symbol price) empty

/-- The prices known without configuration. -/
def defaults : List (String × Decimal) :=
  [("BTC", .literal 65000 0), ("ETH", .literal 3500 0), ("BNB", .literal 600 0),
    ("SOL", .literal 150 0)]

/-- The default prices, replaced and completed by the given ones. -/
def withDefaults (prices : List (String × Decimal)) : PriceTable := ofList (defaults ++ prices)

/-- The price of a symbol. -/
def price? (t : PriceTable) (symbol : String) : Option Decimal :=
  t.entries.lookup (normalSymbol symbol)

/-- The number of symbols with a price. -/
def size (t : PriceTable) : Nat := t.entries.length

end PriceTable

/-! ## Oracles -/

/-- An oracle whose answers may depend on a state `σ` and change it. -/
abbrev PriceOracle (σ : Type) := String → σ → PriceAnswer × σ

namespace PriceOracle

variable {σ : Type}

/-- The oracle that answers from a table. -/
def ofTable (t : PriceTable) : PriceOracle σ := fun symbol s => (.ok (t.price? symbol), s)

/-- The oracle that gives the same answer to every question. -/
def constant (answer : PriceAnswer) : PriceOracle σ := fun _ s => (answer, s)

/-- Asks `second` unless `first` knows a price greater than zero. -/
def fallback (first second : PriceOracle σ) : PriceOracle σ := fun symbol s =>
  match first symbol s with
  | (.ok (some price), s) => if price.isPositive then (.ok (some price), s) else second symbol s
  | (_, s) => second symbol s

end PriceOracle

/--
The value of an amount of a symbol in US dollars. A zero amount is worth zero and an amount of a
stable coin itself; an amount without a price, or whose value is out of range, has no known value.
-/
def valueInUsd {σ : Type} (oracle : PriceOracle σ) (symbol : String) (amount : Decimal) (s : σ) :
    Option Decimal × σ :=
  if amount.isZero then (some .zero, s)
  else if isStablecoin symbol then (some amount, s)
  else
    match oracle symbol s with
    | (.ok (some price), s) => (amount.mul? price, s)
    | (_, s) => (none, s)

end HourlySnapshots
