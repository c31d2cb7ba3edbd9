import HourlySnapshots.Collection.Collector

/-!
# The registry of collectors

Collectors are kept in the order they were registered, each name once.
-/

namespace HourlySnapshots

/--
A collector as the scheduler sees it: a call first waits and then acts. The act ends with success
or failure, or breaks off without a result (`none`).
-/
structure Registered (σ : Type) where
  info : CollectorInfo
  /-- How many milliseconds a call waits before it acts. -/
  delay : σ → Nat
  act : Instant → σ → Option Bool × σ

namespace Registered

variable {σ : Type}

def name (c : Registered σ) : String := c.info.name

/-- A collector that acts at once. -/
def ofCollector {α : Type} (c : Collector σ α) : Registered σ :=
  { info := c.info
    delay := fun _ => 0
    act := fun time s =>
      let (ok, s) := c.run time s
      (some ok, s) }

end Registered

/-- Why collectors cannot be registered. -/
inductive RegistryError where
  | duplicateName (name : String)
deriving DecidableEq

namespace RegistryError

def message : RegistryError → String
  | duplicateName name => s!"collector `{name}` is already registered"

end RegistryError

/-- The registered collectors in order. -/
abbrev Registry (σ : Type) := List (Registered σ)

namespace Registry

variable {σ : Type}

/-- The names of the registered collectors in order. -/
def names (r : Registry σ) : List String := r.map Registered.name

/-- The first name of a list that is taken already or comes twice. -/
def firstRepeated (taken : List String) : List String → Option String
  | [] => none
  | name :: rest =>
    if taken.contains name then some name else firstRepeated (name :: taken) rest

/-- Appends a whole batch of collectors, or none of them when a name would come twice. -/
def registerAll (r : Registry σ) (batch : List (Registered σ)) :
    Except RegistryError (Registry σ) :=
  match firstRepeated (names r) (names batch) with
  | some name => .error (.duplicateName name)
  | none => .ok (r ++ batch)

/-- Appends one collector. -/
def register (r : Registry σ) (c : Registered σ) : Except RegistryError (Registry σ) :=
  registerAll r [c]

/-- The collector with a given name. -/
def get? (r : Registry σ) (name : String) : Option (Registered σ) :=
  r.find? fun c => c.name == name

/-- How the registered collectors present themselves, in order. -/
def describe (r : Registry σ) : List CollectorInfo := r.map Registered.info

end Registry

end HourlySnapshots
