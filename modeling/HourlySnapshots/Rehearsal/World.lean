import HourlySnapshots.Collection.PortfolioCollector
import HourlySnapshots.Collection.RateCollector
import HourlySnapshots.Collection.WalletCollector
import HourlySnapshots.Rehearsal.Stores
import HourlySnapshots.Scheduler.Registry

/-!
# The world of a rehearsal

A rehearsal runs collectors and scheduler over recorded replies instead of live services. Its cast
is a list of parts, each a collector; next to the three kinds of collectors there are stand-ins
with a scripted outcome. The replies may be changed between the steps of a rehearsal.
-/

namespace HourlySnapshots

/-- What a service is recorded to answer. -/
abbrev Reply (α : Type) := Except ServiceError α

/-- What a price oracle is recorded to answer. -/
inductive RecordedPrices where
  | table (prices : PriceTable)
  | constant (answer : PriceAnswer)
  | fallback (first second : RecordedPrices)
deriving Inhabited

/-- The oracle that answers as recorded. -/
def RecordedPrices.oracle {σ : Type} : RecordedPrices → PriceOracle σ
  | table prices => .ofTable prices
  | constant answer => .constant answer
  | fallback first second => .fallback first.oracle second.oracle

/-- How saving ends in a scripted collector. -/
inductive SaveOutcome where
  /-- Every item becomes a row. -/
  | stored
  /-- No row is written. -/
  | nothing
  | failed (error : StoreError)
  /-- The call breaks off. -/
  | brokenOff
deriving DecidableEq

/-- Everything that the services behind one part answer. -/
inductive Replies where
  | portfolio (list : Reply (List PortfolioSummary)) (details : List (String × Reply Json))
  | custody (list : Reply (List CustodyWallet)) (assets : List (String × Reply (List CustodyAsset)))
      (prices : RecordedPrices)
  | rates (sources : List (Reply RateMap))
  /-- A stand-in that waits some milliseconds; without an outcome it breaks off. -/
  | standIn (delay : Nat) (outcome : Option Bool)
  | scripted (collected : Reply (List Int)) (save : SaveOutcome)

/-- What stand-ins and scripted collectors note. -/
inductive Noted where
  | called (time : Instant)
  | saved (items : List Int)

/-- How the factory of a rehearsal ends. -/
inductive FactoryPlan where
  /-- It builds every part. -/
  | everything
  /-- It builds the parts at these places. -/
  | chosen (places : List Nat)
  /-- It fails with a chain of causes, the outermost first. -/
  | failed (causes : List String)

/-- The state that the collectors of a rehearsal work on. -/
structure World where
  stores : Stores
  /-- The replies to each part, in the order of the cast. -/
  replies : List Replies
  /-- What the parts noted, with their places, in order. -/
  log : List (Nat × Noted)
  plan : FactoryPlan
  /-- How often the factory was asked. -/
  builds : Nat

namespace World

/-- Writes to the stores of a rehearsal. -/
def storage : Storage World :=
  Stores.storage World.stores fun stores w => { w with stores := stores }

/-- Notes something for the part at a place. -/
def note (w : World) (place : Nat) (noted : Noted) : World :=
  { w with log := w.log ++ [(place, noted)] }

/-- What the part at a place noted, in order. -/
def notedBy (w : World) (place : Nat) : List Noted :=
  (w.log.filter fun (other, _) => other == place).map (·.2)

/-- The answer to a question about something that has no recorded reply. -/
def unknownFund : ServiceError := .status 404 "missing"

/-- The portfolio service of the part at a place. -/
def portfolioApi (place : Nat) : PortfolioApi World where
  list w := (match w.replies[place]? with
    | some (.portfolio list _) => list
    | _ => .ok [], w)
  detail name w := (match w.replies[place]? with
    | some (.portfolio _ details) => (details.lookup name).getD (.error unknownFund)
    | _ => .error unknownFund, w)

/-- The custody service of the part at a place. -/
def custodyApi (place : Nat) : CustodyApi World where
  list w := (match w.replies[place]? with
    | some (.custody list _ _) => list
    | _ => .ok [], w)
  assets wallet w := (match w.replies[place]? with
    | some (.custody _ assets _) => (assets.lookup wallet).getD (.ok [])
    | _ => .ok [], w)

/-- The price oracle of the part at a place. -/
def prices (place : Nat) : PriceOracle World := fun symbol w =>
  match w.replies[place]? with
  | some (.custody _ _ recorded) => recorded.oracle symbol w
  | _ => (.ok none, w)

/-- One of the rate sources of the part at a place. -/
def rateSource (place number : Nat) (tag : String) : RateSource World where
  tag := tag
  fetch _ w := (match w.replies[place]? with
    | some (.rates sources) => sources[number]?.getD (.ok [])
    | _ => .ok [], w)

end World

/-- A part in the cast of a rehearsal. -/
inductive Part where
  | portfolio (name sourceTag : String)
  | wallet (name : String) (configuredIds : List String)
  | rate (name : String) (sources : List (String × List RatePair))
  | standIn (name : String)
  | scripted (name : String)

/-- What is wrong with a reading: none at zero, negative below. -/
def checkReading (n : Int) : Option ValidationError :=
  if n < 0 then some (.negative "reading" ((Decimal.ofInt? n).getD .zero))
  else if n = 0 then some (.missingField "reading")
  else none

namespace Part

open World

def portfolioCollector (place : Nat) (name sourceTag : String) : PortfolioCollector World :=
  ⟨name, portfolioApi place, storage, sourceTag⟩

def walletCollector (place : Nat) (name : String) (configuredIds : List String) :
    WalletCollector World :=
  ⟨name, custodyApi place, prices place, storage, WalletCollector.defaultTag, configuredIds⟩

def rateCollector (place : Nat) (name : String) (sources : List (String × List RatePair)) :
    RateCollector World :=
  sources.zipIdx.foldl
    (fun c ((tag, pairs), number) => c.withSource (rateSource place number tag) pairs)
    (.empty name storage)

/-- A scripted collector of readings; it notes the items that it is given to save. -/
def scriptedCollector (place : Nat) (name : String) : Collector World Int where
  info := ⟨name, "ScriptedCollector", "test double"⟩
  collect time w := (⟨match w.replies[place]? with
    | some (.scripted collected _) => collected
    | _ => .ok [], time⟩, w)
  validate := checkReading
  save result w := (match w.replies[place]? with
    | some (.scripted _ .stored) => .ok result.items.length
    | some (.scripted _ (.failed e)) => .error e
    | _ => .ok 0, w.note place (.saved result.items))

/-- A run of a scripted collector breaks off when it comes to a save that does. -/
def runScripted (place : Nat) (name : String) (time : Instant) (w : World) :
    Option Bool × World :=
  let (ok, after) := (scriptedCollector place name).run time w
  match w.replies[place]? with
  | some (.scripted _ .brokenOff) =>
    (if w.log.length < after.log.length then none else some ok, after)
  | _ => (some ok, after)

/-- The part at a place as the scheduler sees it. -/
def registered (place : Nat) : Part → Registered World
  | portfolio name sourceTag => .ofCollector (portfolioCollector place name sourceTag).toCollector
  | wallet name configuredIds => .ofCollector (walletCollector place name configuredIds).toCollector
  | rate name sources => .ofCollector (rateCollector place name sources).toCollector
  | standIn name =>
    { info := ⟨name, "StubCollector", "records timestamps"⟩
      delay := fun w => match w.replies[place]? with
        | some (.standIn delay _) => delay
        | _ => 0
      act := fun time w => (match w.replies[place]? with
        | some (.standIn _ outcome) => outcome
        | _ => none, w.note place (.called time)) }
  | scripted name =>
    { info := (scriptedCollector place name).info
      delay := fun _ => 0
      act := runScripted place name }

/-- How many pairs a part collects rates of. -/
def pairCount (place : Nat) : Part → Nat
  | rate name sources => (rateCollector place name sources).pairCount
  | _ => 0

/-- What one collection of a part gives. -/
structure Report where
  /-- The items as they are written down, or the error. -/
  outcome : Except ServiceError (List Json)
  collectedAt : Instant
  /-- What is wrong with each item, if anything. -/
  invalid : List (Option ValidationError)

/-- The report on what a collector collects. -/
def reportOn {α : Type} (c : Collector World α) (encode : α → Json) (time : Instant) (w : World) :
    Report × World :=
  let (result, w) := c.collect time w
  (⟨result.outcome.map fun items => items.map encode, result.collectedAt,
    result.items.map c.validate⟩, w)

/-- Lets a part collect without saving; a stand-in collects nothing. -/
def collect (place : Nat) (time : Instant) (w : World) : Part → Report × World
  | portfolio name sourceTag =>
    reportOn (portfolioCollector place name sourceTag).toCollector PortfolioPoint.encode time w
  | wallet name configuredIds =>
    reportOn (walletCollector place name configuredIds).toCollector WalletAssetPoint.encode time w
  | rate name sources =>
    reportOn (rateCollector place name sources).toCollector RatePoint.encode time w
  | standIn _ => (⟨.ok [], time, []⟩, w)
  | scripted name => reportOn (scriptedCollector place name) Json.ofInt time w

end Part

/-- The parts of a rehearsal as the scheduler sees them. -/
def castOf (parts : List Part) : List (Registered World) :=
  parts.zipIdx.map fun (part, place) => part.registered place

/-- The factory of a rehearsal: it follows the plan that holds at the moment. -/
def World.build (cast : List (Registered World)) (w : World) :
    Except (List String) (List (Registered World)) × World :=
  (match w.plan with
    | .everything => .ok cast
    | .chosen places => .ok (places.filterMap fun place => cast[place]?)
    | .failed causes => .error causes, { w with builds := w.builds + 1 })

end HourlySnapshots
