import HourlySnapshots.Collection.Pricing
import HourlySnapshots.Scheduler.Basic
import HourlySnapshots.Text.Lowercase
import HourlySnapshots.Text.Percent

/-!
# Settings

Everything that can be configured, read from the variables of an environment. Lists are read item
by item, and an item that makes no sense is passed over.
-/

namespace HourlySnapshots

/-- Variables with their values. -/
abbrev Environment := List (String × String)

/-- How to reach the portfolio service. -/
structure PortfolioAccess where
  address : String
  apiKey : String
  secret : String
deriving DecidableEq

/-- How to reach the custody service, and the wallets to ask it for. -/
structure CustodyAccess where
  address : String
  apiKey : String
  secret : String
  walletIds : List String
deriving DecidableEq

/-- The settings of the collection service. Spans are in seconds. -/
structure Settings where
  databaseUrl : String
  /-- The number that the service listens at. -/
  listenAt : Nat
  frontendOrigins : List String
  portfolios : Option PortfolioAccess
  custody : Option CustodyAccess
  fiatAddress : String
  coinAddress : String
  fiatPairs : List RatePair
  coinPairs : List RatePair
  tokenPrices : List (String × Decimal)
  tokenIds : List (String × String)
  priceLifetime : Nat
  serviceTimeout : Nat
  publicTimeout : Nat
  offset : Nat
  retryBackoff : Nat
  shutdownTimeout : Nat
  schedulerEnabled : Bool
  inParallel : Bool

/-- Why an environment gives no settings. -/
inductive SettingsError where
  | offsetTooLong
  | noDatabase
  | badNumber (fault : Text.NumberFault)

namespace SettingsError

/-- What is wrong, in short. -/
def summary : SettingsError → String
  | offsetTooLong => "COLLECTION_OFFSET_SECS must be below 3600"
  | noDatabase => "DATABASE_URL must be set for the collection service"
  | badNumber _ => "PORT must be a valid u16"

/-- What caused it, if that is known. -/
def cause? : SettingsError → Option String
  | offsetTooLong => none
  | noDatabase => some "environment variable not found"
  | badNumber fault => some fault.message

/-- The summary with the cause. -/
def message (e : SettingsError) : String :=
  match e.cause? with
  | some cause => e.summary ++ ": " ++ cause
  | none => e.summary

end SettingsError

namespace Settings

/-- The variables that settings are read from. -/
def variableNames : List String :=
  ["DATABASE_URL", "PORT", "FRONTEND_ORIGINS", "ONETOKEN_API_KEY", "ONETOKEN_SECRET",
    "ONETOKEN_BASE_URL", "CEFFU_API_KEY", "CEFFU_SECRET_KEY", "CEFFU_BASE_URL", "CEFFU_WALLET_IDS",
    "FIAT_RATE_API_BASE", "COINGECKO_API_BASE", "RATE_FIAT_PAIRS", "RATE_CRYPTO_ASSETS",
    "TOKEN_PRICES", "TOKEN_PRICE_IDS", "PRICE_CACHE_TTL_SECS", "UPSTREAM_TIMEOUT_SECS",
    "PUBLIC_API_TIMEOUT_SECS", "COLLECTION_OFFSET_SECS", "COLLECTION_RETRY_BACKOFF_SECS",
    "SCHEDULER_SHUTDOWN_TIMEOUT_SECS", "SCHEDULER_ENABLED", "COLLECTION_PARALLEL"]

/-! ## Single values -/

/-- A variable without the blanks around its value; none when nothing is left. -/
def nonBlank? (env : Environment) (name : String) : Option String :=
  ((env.lookup name).map Text.trimmed).filter fun value => !value.isEmpty

/-- A number of seconds; the standard one unless a whole number is given. -/
def seconds (env : Environment) (name : String) (standard : Nat) : Nat :=
  ((env.lookup name).bind fun value =>
    Text.readCount? (Nat.pow 2 64) value.toList).getD standard

/-- A switch: some spellings turn it on, and every other value turns it off. -/
def switch (env : Environment) (name : String) (standard : Bool) : Bool :=
  match env.lookup name with
  | some value => ["1", "true", "TRUE", "yes", "on"].contains value
  | none => standard

/-! ## Lists -/

/-- The items of a list that is written with commas. -/
def items (text : List Char) : List (List Char) := text.splitOn ','

/-- The items of a list without the blanks around them; blank ones are left out. -/
def readList (text : List Char) : List String :=
  (((items text).map Text.trim).filter fun item => !item.isEmpty).map String.ofList

/-- What stands before and after the first of some character. -/
def splitOnce? (mark : Char) (text : List Char) : Option (List Char × List Char) :=
  if text.contains mark then some (Text.Percent.splitAtFirst mark text) else none

/-- An amount greater than zero. -/
def positive? (text : List Char) : Option Decimal :=
  (Decimal.read? (Text.trim text)).filter Decimal.isPositive

/-- A pair written as `USD/CNY=7.2`. -/
def fiatPair? (item : List Char) : Option RatePair := do
  let (pair, amount) ← splitOnce? '=' (Text.trim item)
  let (base, quote) ← splitOnce? '/' pair
  let fallback ← positive? amount
  if base.all Text.isBlank || quote.all Text.isBlank then none
  else some (.of (String.ofList base) (String.ofList quote) fallback)

/-- The currency pairs in a list. -/
def readFiatPairs (text : List Char) : List RatePair := (items text).filterMap fiatPair?

/-- A coin written as `BTC:bitcoin=65000`, which is quoted in US dollars. -/
def coinPair? (item : List Char) : Option RatePair := do
  let (asset, amount) ← splitOnce? '=' (Text.trim item)
  let (symbol, id) ← splitOnce? ':' asset
  let fallback ← positive? amount
  if symbol.all Text.isBlank || id.all Text.isBlank then none
  else
    let pair := RatePair.of (String.ofList symbol) "USD" fallback
    some (pair.withSourceId (String.ofList (Text.lower (Text.trim id))))

/-- The coins in a list. -/
def readCoinPairs (text : List Char) : List RatePair := (items text).filterMap coinPair?

/-- Sets the value of a symbol in a table that holds each symbol once. -/
def setEntry {α : Type} (table : List (String × α)) (entry : String × α) : List (String × α) :=
  table.filter (fun (symbol, _) => symbol ≠ entry.1) ++ [entry]

/-- A table of the entries of a list; the last one given for a symbol counts. -/
def readTable {α : Type} (readItem : List Char → Option (String × α)) (text : List Char) :
    List (String × α) :=
  ((items text).filterMap readItem).foldl setEntry []

/-- A price written as `ETH=3500.5`. -/
def tokenPrice? (item : List Char) : Option (String × Decimal) := do
  let (symbol, value) ← splitOnce? '=' item
  let price ← Decimal.read? (Text.trim value)
  let symbol := Text.upper (Text.trim symbol)
  if symbol.isEmpty then none else some (String.ofList symbol, price)

/-- The prices in a list, by symbol. -/
def readTokenPrices (text : List Char) : List (String × Decimal) := readTable tokenPrice? text

/-- An id written as `PEPE:pepe`. -/
def tokenId? (item : List Char) : Option (String × String) := do
  let (symbol, id) ← splitOnce? ':' item
  let symbol := Text.upper (Text.trim symbol)
  let id := Text.lower (Text.trim id)
  if symbol.isEmpty || id.isEmpty then none else some (String.ofList symbol, String.ofList id)

/-- The ids in a list, by symbol. -/
def readTokenIds (text : List Char) : List (String × String) := readTable tokenId? text

/-! ## All of them -/

/-- How to reach the portfolio service, if both a key and a secret are given. -/
def portfolioAccess? (env : Environment) : Option PortfolioAccess := do
  let apiKey ← nonBlank? env "ONETOKEN_API_KEY"
  let secret ← nonBlank? env "ONETOKEN_SECRET"
  return ⟨(env.lookup "ONETOKEN_BASE_URL").getD "https://cdb.1tokentrade.cn", apiKey, secret⟩

/-- How to reach the custody service, if both a key and a secret are given. -/
def custodyAccess? (env : Environment) : Option CustodyAccess := do
  let apiKey ← nonBlank? env "CEFFU_API_KEY"
  let secret ← nonBlank? env "CEFFU_SECRET_KEY"
  return ⟨(env.lookup "CEFFU_BASE_URL").getD "https://open-api.ceffu.com", apiKey, secret,
    (env.lookup "CEFFU_WALLET_IDS").elim [] fun text => readList text.toList⟩

/-- The number that the service listens at. -/
def listenAt? (env : Environment) : Except SettingsError Nat :=
  match Text.readBounded 65536 ((env.lookup "PORT").getD "8081").toList with
  | .ok n => .ok n
  | .error fault => .error (.badNumber fault)

/-- The settings in an environment. -/
def ofEnvironment (env : Environment) : Except SettingsError Settings := do
  let offset := seconds env "COLLECTION_OFFSET_SECS" 300
  if 3600 ≤ offset then .error .offsetTooLong
  let databaseUrl ← match env.lookup "DATABASE_URL" with
    | some url => Except.ok url
    | none => .error .noDatabase
  let listenAt ← listenAt? env
  let listed := fun {α : Type} (name : String) (read : List Char → α) (standard : α) =>
    (env.lookup name).elim standard fun text => read text.toList
  return {
    databaseUrl, listenAt, offset
    frontendOrigins := listed "FRONTEND_ORIGINS" readList ["http://localhost:3000"]
    portfolios := portfolioAccess? env
    custody := custodyAccess? env
    fiatAddress := (env.lookup "FIAT_RATE_API_BASE").getD "https://api.exchangerate-api.com/v4"
    coinAddress := (env.lookup "COINGECKO_API_BASE").getD "https://api.coingecko.com/api/v3"
    fiatPairs := listed "RATE_FIAT_PAIRS" readFiatPairs RatePair.defaultFiat
    coinPairs := listed "RATE_CRYPTO_ASSETS" readCoinPairs RatePair.defaultCrypto
    tokenPrices := listed "TOKEN_PRICES" readTokenPrices []
    tokenIds := listed "TOKEN_PRICE_IDS" readTokenIds []
    priceLifetime := seconds env "PRICE_CACHE_TTL_SECS" 60
    serviceTimeout := seconds env "UPSTREAM_TIMEOUT_SECS" 30
    publicTimeout := seconds env "PUBLIC_API_TIMEOUT_SECS" 10
    retryBackoff := seconds env "COLLECTION_RETRY_BACKOFF_SECS" 300
    shutdownTimeout := seconds env "SCHEDULER_SHUTDOWN_TIMEOUT_SECS" 120
    schedulerEnabled := switch env "SCHEDULER_ENABLED" true
    inParallel := switch env "COLLECTION_PARALLEL" false }

/-- The settings of the scheduler. -/
def scheduler (s : Settings) : SchedulerConfig :=
  { SchedulerConfig.default with
    offset := s.offset * second
    retryBackoff := s.retryBackoff * second
    shutdownTimeout := s.shutdownTimeout * second }

/-- Whether collectors run side by side. -/
def fanOut (s : Settings) : FanOut := if s.inParallel then .parallel else .sequential

end Settings

end HourlySnapshots
