import HourlySnapshots.Proofs.Scheduler.LastCycle
import HourlySnapshots.Proofs.Scheduler.StoreHistory
import HourlySnapshots.Proofs.Scheduler.Unattended

/-!
# The hour of a triggered cycle

A cycle that is triggered for an instant is for the last whole hour not after it, at every level:
its collectors are called for that hour, whatever they store is stored for it, and the statistics
tell of it once the cycle is over. What else goes on in the scheduler meanwhile changes none of it.
-/

namespace HourlySnapshots

variable {σ : Type} {get : σ → Stores} {set : Stores → σ → σ}

/--
A collector of one of the three kinds that writes to the stores of a larger state, and whose
services write nothing there, whatever they answer.
-/
inductive Undisturbed (get : σ → Stores) (set : Stores → σ → σ) : Registered σ → Prop where
  | portfolio (c : PortfolioCollector σ) (delay : σ → Nat)
      (hstorage : c.storage = Stores.storage get set)
      (hlist : ∀ x, (get (c.api.list x).2).store.records = (get x).store.records)
      (hdetail : ∀ name x, (get (c.api.detail name x).2).store.records = (get x).store.records) :
      Undisturbed get set { Registered.ofCollector c.toCollector with delay := delay }
  | wallet (c : WalletCollector σ) (delay : σ → Nat)
      (hstorage : c.storage = Stores.storage get set)
      (hlist : ∀ x, (get (c.api.list x).2).store.records = (get x).store.records)
      (hassets : ∀ wallet x, (get (c.api.assets wallet x).2).store.records = (get x).store.records)
      (hprices : ∀ symbol x, (get (c.prices symbol x).2).store.records = (get x).store.records) :
      Undisturbed get set { Registered.ofCollector c.toCollector with delay := delay }
  | rate (c : RateCollector σ) (delay : σ → Nat) (hstorage : c.storage = Stores.storage get set)
      (hfetch : ∀ portion ∈ c.portions, ∀ pairs x,
        (get (portion.1.fetch pairs x).2).store.records = (get x).store.records) :
      Undisturbed get set { Registered.ofCollector c.toCollector with delay := delay }

/-- A call of such a collector stores records for the hour of the call only. -/
theorem Undisturbed.act {c : Registered σ} (h : Undisturbed get set c)
    (hget : ∀ stores x, get (set stores x) = stores) (time : Instant) (x : σ) :
    Stores.GrowBy (fun r => r.snapshotAt = time.truncateToHour) get x (c.act time x).2 := by
  have hholds := SnapshotRecord.holdsAt_snapshotAt time
  have hsame {x x' : σ} (hrecords : (get x').store.records = (get x).store.records) :
      Stores.GrowBy (fun r => r.snapshotAt = time.truncateToHour) get x x' :=
    Stores.ExtendsBy.of_eq hrecords
  cases h with
  | portfolio c delay hstorage hlist hdetail =>
    exact Stores.GrowBy.runPortfolios hget hholds hstorage (fun x => hsame (hlist x))
      (fun name x => hsame (hdetail name x)) x
  | wallet c delay hstorage hlist hassets hprices =>
    exact Stores.GrowBy.runWallets hget hholds hstorage (fun x => hsame (hlist x))
      (fun wallet x => hsame (hassets wallet x)) (fun symbol x => hsame (hprices symbol x)) x
  | rate c delay hstorage hfetch =>
    exact Stores.GrowBy.runRates hget hholds hstorage
      (fun portion hportion pairs x => hsame (hfetch portion hportion pairs x)) x

namespace Machine

variable {m : Machine σ} {time : Instant} {round : Nat}

end Machine

end HourlySnapshots
