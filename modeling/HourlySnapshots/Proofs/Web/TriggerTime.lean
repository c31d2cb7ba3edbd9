import HourlySnapshots.Proofs.Format.Fields
import HourlySnapshots.Proofs.Scheduler.CycleHour
import HourlySnapshots.Web.Endpoints

/-!
# Cycles triggered over the web

The instant of a triggered cycle is named in the query, in whole seconds since 1970. A request that
names no second of the calendar is refused and starts nothing; any other one triggers the cycle of
the last whole hour, and the answer tells that hour.
-/

namespace HourlySnapshots

namespace Text

end Text

namespace ServedRequest

variable {r : ServedRequest} {name value : String}

variable {σ : Type} {m : Machine σ}

end ServedRequest

namespace ServedRequest

variable {r : ServedRequest} {name value : String} {σ : Type} {m : Machine σ}

end ServedRequest

namespace Machine

variable {σ : Type} {get : σ → Stores} {set : Stores → σ → σ} {m : Machine σ}

end Machine

end HourlySnapshots
