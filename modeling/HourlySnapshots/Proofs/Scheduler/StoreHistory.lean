import HourlySnapshots.Proofs.Collection.StoredRecords
import HourlySnapshots.Proofs.Scheduler.FanOut
import HourlySnapshots.Rehearsal.World

/-!
# The history of the store

A scheduler whose collectors are of the three kinds, and write to one store, only ever appends sound
records to it: in direct runs and in cycles, started by hand or by a loop, however they overlap,
whatever the services answer and whenever writes are refused.
-/

namespace HourlySnapshots

variable {σ : Type} {get : σ → Stores} {set : Stores → σ → σ}

/-! ## Collectors of one store -/

/--
A collector of one of the three kinds that writes to the stores of a larger state. While it waits
for an answer of its services, others may write to the stores, or their writes be refused.
-/
inductive WritesTo (get : σ → Stores) (set : Stores → σ → σ) : Registered σ → Prop where
  | portfolio (c : PortfolioCollector σ) (delay : σ → Nat)
      (hstorage : c.storage = Stores.storage get set)
      (hlist : ∀ x, Stores.Grow get x (c.api.list x).2)
      (hdetail : ∀ name x, Stores.Grow get x (c.api.detail name x).2) :
      WritesTo get set { Registered.ofCollector c.toCollector with delay := delay }
  | wallet (c : WalletCollector σ) (delay : σ → Nat)
      (hstorage : c.storage = Stores.storage get set)
      (hlist : ∀ x, Stores.Grow get x (c.api.list x).2)
      (hassets : ∀ wallet x, Stores.Grow get x (c.api.assets wallet x).2)
      (hprices : ∀ symbol x, Stores.Grow get x (c.prices symbol x).2) :
      WritesTo get set { Registered.ofCollector c.toCollector with delay := delay }
  | rate (c : RateCollector σ) (delay : σ → Nat) (hstorage : c.storage = Stores.storage get set)
      (hfetch : ∀ portion ∈ c.portions, ∀ pairs x, Stores.Grow get x (portion.1.fetch pairs x).2) :
      WritesTo get set { Registered.ofCollector c.toCollector with delay := delay }

/-- A call of such a collector makes the stores grow. -/
theorem WritesTo.act {c : Registered σ} (h : WritesTo get set c)
    (hget : ∀ stores x, get (set stores x) = stores) (time : Instant) (x : σ) :
    Stores.Grow get x (c.act time x).2 := by
  cases h with
  | portfolio c delay hstorage hlist hdetail =>
    exact Stores.Grow.runPortfolios hget hstorage hlist hdetail time x
  | wallet c delay hstorage hlist hassets hprices =>
    exact Stores.Grow.runWallets hget hstorage hlist hassets hprices time x
  | rate c delay hstorage hfetch => exact Stores.Grow.runRates hget hstorage hfetch time x

/-- The stores after a move from outside, or a collector brought in by it, are allowed. -/
def Move.KeepsStores (get : σ → Stores) (set : Stores → σ → σ) : Move σ → Prop
  | .change g => ∀ x, Stores.Grow get x (g x)
  | .register c | .runAlone c _ => WritesTo get set c
  | _ => True

/-- A factory that builds nothing but such collectors, and leaves the stores to them. -/
def BuildsWriters (get : σ → Stores) (set : Stores → σ → σ)
    (factory : σ → Except (List String) (List (Registered σ)) × σ) : Prop :=
  ∀ x, Stores.Grow get x (factory x).2 ∧ ∀ batch, (factory x).1 = .ok batch →
    ∀ c ∈ batch, WritesTo get set c

namespace Fans

/-- The collectors of a fan-out write to the stores. -/
def RoundWrites (get : σ → Stores) (set : Stores → σ → σ) (r : Round σ) : Prop :=
  (∀ c ∈ r.queued, WritesTo get set c) ∧ ∀ call ∈ r.atWork, WritesTo get set call.collector

/-- All collectors write to the stores, those registered and those in a fan-out. -/
structure Writers (get : σ → Stores) (set : Stores → σ → σ) (f : Fans σ) : Prop where
  factory : BuildsWriters get set f.factory
  registered : ∀ c ∈ f.registry, WritesTo get set c
  rounds : ∀ r ∈ f.rounds, RoundWrites get set r

theorem RoundWrites.turned {f : Fans σ} {r : Round σ} (h : RoundWrites get set r) (now : Nat) :
    RoundWrites get set (f.turned now r) := by
  constructor
  · intro c hc
    exact h.1 c (List.mem_of_mem_drop hc)
  · intro call hcall
    rcases List.mem_append.mp hcall with hcall | hcall
    · exact h.2 call hcall
    · have hmem : call.collector ∈ Machine.nextCalls r := by
        rw [← map_collector_callsOf now f.nextOrder (Machine.nextCalls r)]
        exact List.mem_map_of_mem hcall
      -- a call that is made is one of a collector from the queue
      refine h.1 call.collector ?_
      rw [← nextCalls_append_drop r]
      exact List.mem_append_left _ hmem

theorem RoundWrites.without {r : Round σ} (h : RoundWrites get set r) (call : Call σ) :
    RoundWrites get set (without r call) :=
  ⟨h.1, fun other hother => h.2 other (List.mem_of_mem_filter hother)⟩

namespace Writers

variable {f : Fans σ}

theorem put (h : Writers get set f) {r : Round σ} (hr : RoundWrites get set r) :
    Writers get set (f.put r) where
  factory := h.factory
  registered := h.registered
  rounds other hother := (mem_put hother).elim (fun hsame => hsame ▸ hr) (h.rounds other)

/-- A call of a fan-out acts. -/
theorem acted (h : Writers get set f) (hget : ∀ stores x, get (set stores x) = stores)
    {r : Round σ} (hr : r ∈ f.rounds) {call : Call σ} (hcall : call ∈ r.atWork) (turn : Wake)
    (order : Nat) :
    Writers get set (f.acted r call turn order) ∧
      Stores.Grow get f.world (f.acted r call turn order).world := by
  have hround := (h.rounds r hr).without call
  constructor
  · constructor
    · exact h.factory
    · exact h.registered
    · intro other hother
      rcases mem_put hother with rfl | hmem
      · exact hround
      · exact h.rounds other hmem
  · exact ((h.rounds r hr).2 call hcall).act hget r.time f.world

end Writers

/-- A fan-out that goes on keeps the collectors writers, and makes the stores grow. -/
theorem Turn.writers {f f' : Fans σ} (hget : ∀ stores x, get (set stores x) = stores)
    (hturn : Turn f f') (h : Writers get set f) :
    Writers get set f' ∧ Stores.Grow get f.world f'.world := by
  have hsame : Stores.Grow get f.world f.world := .refl f.world
  cases hturn with
  | turned now hr hturn hmore =>
    have hput := h.put ((h.rounds _ hr).turned (f := f) now)
    exact ⟨⟨hput.factory, hput.registered, hput.rounds⟩, hsame⟩
  | ended hr hturn hqueued hnone =>
    exact ⟨⟨h.factory, h.registered, fun r hr => h.rounds r (List.mem_of_mem_filter hr)⟩, hsame⟩
  | acted hr hcall hbegun turn horder => exact h.acted hget hr hcall turn _
  | @calledAtOnce r hr call hcall hbegun turn order horder =>
    have hnoted : Writers get set (f.note (.called r.id call.collector.name r.time)) :=
      ⟨h.factory, h.registered, h.rounds⟩
    exact hnoted.acted hget hr hcall turn _
  | @called r hr call hcall hbegun due =>
    have hround : RoundWrites get set { without r call with
        atWork := (without r call).atWork ++
          [⟨call.collector, true, ⟨due, false, f.nextOrder⟩⟩] } := by
      refine ⟨(h.rounds r hr).1, fun other hother => ?_⟩
      rcases List.mem_append.mp hother with hother | hother
      · exact ((h.rounds r hr).without call).2 other hother
      · rw [List.mem_singleton.mp hother]
        exact (h.rounds r hr).2 call hcall
    have hput := h.put hround
    exact ⟨⟨hput.factory, hput.registered, hput.rounds⟩, hsame⟩

/-- A step keeps the collectors writers, and makes the stores grow. -/
theorem Step.writers {move : Move σ} {f f' : Fans σ}
    (hget : ∀ stores x, get (set stores x) = stores) (hmove : move.KeepsStores get set)
    (step : Step f move f') (h : Writers get set f) :
    Writers get set f' ∧ Stores.Grow get f.world f'.world := by
  have hsame : Stores.Grow get f.world f.world := .refl f.world
  cases step with
  | later horder hid => exact ⟨⟨h.factory, h.registered, h.rounds⟩, hsame⟩
  | changed g hg =>
    subst hg
    exact ⟨⟨h.factory, h.registered, h.rounds⟩, hmove f.world⟩
  | ranAlone c time hrun =>
    subst hrun
    exact ⟨⟨h.factory, h.registered, h.rounds⟩, hmove.act hget time f.world⟩
  | registered c hc =>
    subst hc
    refine ⟨⟨h.factory, fun other hother => ?_, h.rounds⟩, hsame⟩
    rcases List.mem_append.mp hother with hother | hother
    · exact h.registered other hother
    · rw [List.mem_singleton.mp hother]
      exact hmove
  | built hbatch =>
    refine ⟨⟨h.factory, fun other hother => ?_, h.rounds⟩, (h.factory f.world).1⟩
    rcases List.mem_append.mp hother with hother | hother
    · exact h.registered other hother
    · exact (h.factory f.world).2 _ hbatch other hother
  | failed => exact ⟨⟨h.factory, h.registered, h.rounds⟩, (h.factory f.world).1⟩
  | begun purpose time released turn horder =>
    refine ⟨⟨h.factory, h.registered, fun r hr => ?_⟩, hsame⟩
    rcases List.mem_append.mp hr with hr | hr
    · exact h.rounds r hr
    · rw [List.mem_singleton.mp hr]
      exact ⟨h.registered, by simp⟩
  | fanned hturn => exact hturn.writers hget h

/-- The steps of a move keep the collectors writers, and make the stores grow. -/
theorem Steps.writers {move : Move σ} {f f' : Fans σ}
    (hget : ∀ stores x, get (set stores x) = stores) (hmove : move.KeepsStores get set)
    (steps : Steps move f f') (h : Writers get set f) :
    Writers get set f' ∧ Stores.Grow get f.world f'.world := by
  induction steps with
  | refl => exact ⟨h, .refl f.world⟩
  | tail _ step ih =>
    obtain ⟨hwriters, hgrow⟩ := ih
    have hstep := step.writers hget hmove hwriters
    exact ⟨hstep.1, hgrow.trans hstep.2⟩

end Fans

/-! ## Casts of rehearsals -/

/-- Recorded prices are answered without changing anything. -/
theorem RecordedPrices.oracle_snd (p : RecordedPrices) (symbol : String) (x : σ) :
    (p.oracle symbol x).2 = x := by
  induction p with
  | table prices => rfl
  | constant answer => rfl
  | fallback first second ihfirst ihsecond =>
    unfold oracle PriceOracle.fallback
    split
    · next heq =>
      have hsame := ihfirst
      rw [heq] at hsame
      split
      · exact hsame
      · exact hsame ▸ ihsecond
    · next heq =>
      have hsame := ihfirst
      rw [heq] at hsame
      exact hsame ▸ ihsecond

theorem World.prices_snd (number : Nat) (symbol : String) (w : World) :
    (World.prices number symbol w).2 = w := by
  unfold World.prices
  split
  · exact RecordedPrices.oracle_snd _ symbol w
  · rfl

/-- Whether a part is a collector of one of the three kinds and no stand-in. -/
def Part.isCollector : Part → Bool
  | .portfolio .. | .wallet .. | .rate .. => true
  | .standIn _ | .scripted _ => false

/-- Puts changed stores into a world. -/
def World.setStores (stores : Stores) (w : World) : World := { w with stores := stores }

theorem World.grow_of_eq {w w' : World} (h : w' = w) : Stores.Grow World.stores w w' :=
  h ▸ Stores.Grow.refl w'

/-- The rate collector of a part writes to the stores, and asks nothing but recorded sources. -/
theorem Part.rateCollector_spec (place : Nat) (name : String)
    (sources : List (String × List RatePair)) :
    (rateCollector place name sources).storage = World.storage ∧
      ∀ portion ∈ (rateCollector place name sources).portions,
        ∃ number tag, portion.1 = World.rateSource place number tag := by
  refine List.foldlRecOn (motive := fun c : RateCollector World => c.storage = World.storage ∧
    ∀ portion ∈ c.portions, ∃ number tag, portion.1 = World.rateSource place number tag)
    sources.zipIdx _ ⟨rfl, by simp [RateCollector.empty]⟩ ?_
  rintro c ⟨hstorage, hportions⟩ ⟨⟨tag, pairs⟩, number⟩ -
  show (c.withSource (World.rateSource place number tag) pairs).storage = World.storage ∧
    ∀ portion ∈ (c.withSource (World.rateSource place number tag) pairs).portions,
      ∃ number tag, portion.1 = World.rateSource place number tag
  unfold RateCollector.withSource
  split
  · exact ⟨hstorage, hportions⟩
  · refine ⟨hstorage, fun portion hportion => ?_⟩
    rcases List.mem_append.mp hportion with hold | hnew
    · exact hportions portion hold
    · rw [List.mem_singleton.mp hnew]
      exact ⟨number, tag, rfl⟩

/-- Every part but a stand-in writes to the stores of the rehearsal, and nothing else does. -/
theorem Part.writesTo (place : Nat) {part : Part} (h : part.isCollector = true) :
    WritesTo World.stores World.setStores (part.registered place) := by
  cases part with
  | portfolio name sourceTag =>
    exact .portfolio (portfolioCollector place name sourceTag) (fun _ => 0) rfl
      (fun w => World.grow_of_eq rfl) (fun name w => World.grow_of_eq rfl)
  | wallet name configuredIds =>
    exact .wallet (walletCollector place name configuredIds) (fun _ => 0) rfl
      (fun w => World.grow_of_eq rfl) (fun wallet w => World.grow_of_eq rfl)
      (fun symbol w => World.grow_of_eq (World.prices_snd place symbol w))
  | rate name sources =>
    obtain ⟨hstorage, hsources⟩ := rateCollector_spec place name sources
    refine .rate (rateCollector place name sources) (fun _ => 0) hstorage
      fun portion hportion pairs w => ?_
    obtain ⟨number, tag, hsource⟩ := hsources portion hportion
    rw [hsource]
    exact World.grow_of_eq rfl
  | standIn name => cases h
  | scripted name => cases h

/-- The factory of a rehearsal without stand-ins builds nothing but writers. -/
theorem World.buildsWriters {parts : List Part} (h : ∀ part ∈ parts, part.isCollector = true) :
    BuildsWriters World.stores World.setStores (World.build (castOf parts)) := by
  have hcast : ∀ c ∈ castOf parts, WritesTo World.stores World.setStores c := by
    intro c hc
    obtain ⟨⟨part, place⟩, hpart, rfl⟩ := List.mem_map.mp hc
    exact Part.writesTo place (h part (List.fst_mem_of_mem_zipIdx hpart))
  intro w
  refine ⟨Stores.Extends.refl w.stores, fun batch hbatch c hc => ?_⟩
  unfold World.build at hbatch
  simp only at hbatch
  split at hbatch
  · obtain rfl := Except.ok.inj hbatch
    exact hcast c hc
  · obtain rfl := Except.ok.inj hbatch
    obtain ⟨place, -, hplace⟩ := List.mem_filterMap.mp hc
    exact hcast c (List.mem_of_getElem? hplace)
  · cases hbatch

/-- Lets the writes of a world fail, or succeed again. -/
def World.refuse (fail : Bool) (w : World) : World :=
  w.setStores { w.stores with store := w.stores.store.setFailWrites fail }

/-! ## Runs -/

namespace Machine

/-- A run keeps the collectors writers, and makes the stores grow. -/
theorem writers_afterAll {m : Machine σ} (hget : ∀ stores x, get (set stores x) = stores)
    (hm : m.Reachable) (hwriters : m.fans.Writers get set) {moves : List (Move σ)}
    (hmoves : ∀ move ∈ moves, move.KeepsStores get set) :
    (m.afterAll moves).fans.Writers get set ∧
      Stores.Grow get m.world (m.afterAll moves).world := by
  refine hm.afterAll_induction (P := fun x => x.fans.Writers get set ∧
    Stores.Grow get m.world x.world) hmoves ⟨hwriters, .refl m.world⟩ ?_
  rintro x move hx hmove ⟨hwriters, hgrow⟩
  have hids : (x.rounds.map Round.id).Nodup := by simpa using hx.coherent.round_ids
  have hsteps := (fans_after x hids move).writers hget hmove hwriters
  exact ⟨hsteps.1, hgrow.trans hsteps.2⟩

/--
Two moments of one run: every record that is stored at the later one is sound, and those that were
stored at the earlier one come first.
-/
theorem records_sound_and_grow (hget : ∀ stores x, get (set stores x) = stores)
    {config : SchedulerConfig} {fanOut : FanOut}
    {factory : σ → Except (List String) (List (Registered σ)) × σ}
    (hfactory : BuildsWriters get set factory) {clock : Clock} {world : σ}
    (hempty : (get world).store.records = []) {moves more : List (Move σ)}
    (hmoves : ∀ move ∈ moves, move.KeepsStores get set)
    (hmore : ∀ move ∈ more, move.KeepsStores get set) {earlier later : Machine σ}
    (hearlier : earlier = (init config fanOut factory clock world).afterAll moves)
    (hlater : later = earlier.afterAll more) :
    (∀ r ∈ (get later.world).store.records, r.Sound) ∧
      (get earlier.world).store.records <+: (get later.world).store.records := by
  have hreachable : earlier.Reachable :=
    ⟨config, fanOut, factory, clock, world, moves, hearlier⟩
  have hfirst : (init config fanOut factory clock world).fans.Writers get set :=
    ⟨hfactory, by simp [init, fans], by simp [init, fans]⟩
  obtain ⟨hwriters, batch, hbatch, hsound⟩ := writers_afterAll hget
    (reachable_init config fanOut factory clock world) hfirst hmoves
  rw [← hearlier] at hwriters hbatch
  obtain ⟨-, batch', hbatch', hsound'⟩ := writers_afterAll hget hreachable hwriters hmore
  rw [← hlater] at hbatch'
  -- the store was empty at first, so all it holds has been appended
  have hrecords : (get earlier.world).store.records = batch := by
    rw [hbatch]
    show (get world).store.records ++ batch = batch
    rw [hempty, List.nil_append]
  refine ⟨fun r hr => ?_, ⟨batch', hbatch'.symm⟩⟩
  rw [hbatch', hrecords] at hr
  exact (List.mem_append.mp hr).elim (hsound r) (hsound' r)

/-- A cycle by hand, a direct run while writes are refused, and one while they are not. -/
theorem rate_records_sound_and_grow :
    let part : Part := .rate "rate" [("bank", [⟨"USD", "TWD", none, .literal 32 0⟩])]
    let earlier := (init .default .sequential (World.build (castOf [part])) (fun _ _ => none)
      ⟨.single, [.rates []], [], .everything, 0⟩).afterAll
        [.trigger (some .epoch), .work (.turn 0), .work (.call 0 1)]
    let later := earlier.afterAll [.change (World.refuse true), .runAlone (part.registered 0) .epoch,
      .change (World.refuse false), .runAlone (part.registered 0) .epoch]
    earlier.world.stores.store.records.length = 1 ∧
      later.world.stores.store.records.length = 2 ∧
      (∀ r ∈ later.world.stores.store.records, r.Sound) ∧
      earlier.world.stores.store.records <+: later.world.stores.store.records := by
  intro part earlier later
  have hpart : ∀ other ∈ [part], other.isCollector = true := by simp [part, Part.isCollector]
  have hwrites : WritesTo World.stores World.setStores (part.registered 0) :=
    Part.writesTo 0 rfl
  have hrefuse (fail : Bool) (w : World) : Stores.Grow World.stores w (w.refuse fail) :=
    Stores.Extends.of_eq rfl
  refine ⟨by decide +kernel, by decide +kernel, records_sound_and_grow (fun _ _ => rfl)
    (World.buildsWriters hpart) rfl ?_ ?_ rfl rfl⟩
  · simp [Move.KeepsStores]
  · simp [Move.KeepsStores, hwrites, hrefuse]

end Machine

end HourlySnapshots
