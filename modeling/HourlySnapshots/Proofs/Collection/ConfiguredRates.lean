import HourlySnapshots.Assembly
import HourlySnapshots.Proofs.Collection.StoredRecords
import HourlySnapshots.Proofs.Format.Trimming
import HourlySnapshots.Rehearsal.Site
import HourlySnapshots.Rehearsal.World
import Mathlib.Data.List.Forall2

/-!
# A record for every configured pair

What the settings say of a pair is checked when they are read: both names are left with something
once they are trimmed and put in upper case, and the fallback is greater than zero. The check before
storing therefore drops no pair, whatever its source answers, and a run over an open store keeps one
record for each pair in the order of the configuration, over the two public services as over any
other sources.
-/

namespace HourlySnapshots

/-! ## Names keep something -/

namespace Text

theorem upperChar_ne_nil (c : Char) : upperChar c ≠ [] := by
  -- characters with an expansion of their own are not dropped either
  have hexpansions : ∀ codes ∈ upperExpansions.map (·.2), codes ≠ [] := by decide
  unfold upperChar
  split
  · simp
  · split
    · next codes hcodes =>
      obtain ⟨before, after, hsplit, -⟩ := List.lookup_eq_some_iff.mp hcodes
      simpa using hexpansions codes (by simp [hsplit])
    · split <;> simp

theorem upper_ne_nil {cs : List Char} (h : cs ≠ []) : upper cs ≠ [] := by
  obtain ⟨c, rest, rfl⟩ := List.exists_cons_of_ne_nil h
  simp [upper, upperChar_ne_nil c]

end Text

/-! ## Sound pairs -/

/-- Both names of a pair are there, and its fallback is greater than zero. -/
structure RatePair.Sound (p : RatePair) : Prop where
  base_ne : p.base ≠ ""
  quote_ne : p.quote ≠ ""
  fallback_pos : p.fallback.isPositive = true

namespace RatePair

theorem sound_of {base quote : String} {fallback : Decimal}
    (hbase : base.toList.all Text.isBlank = false) (hquote : quote.toList.all Text.isBlank = false)
    (hfallback : fallback.isPositive = true) : (of base quote fallback).Sound := by
  have hname (name : String) (h : name.toList.all Text.isBlank = false) :
      String.ofList (Text.upper (Text.trim name.toList)) ≠ "" := by
    simpa using Text.upper_ne_nil (Text.trim_ne_nil h)
  exact ⟨hname base hbase, hname quote hquote, hfallback⟩

theorem Sound.withSourceId {p : RatePair} (h : p.Sound) (sourceId : String) :
    (p.withSourceId sourceId).Sound :=
  ⟨h.base_ne, h.quote_ne, h.fallback_pos⟩

theorem sound_of_mem_defaultFiat {p : RatePair} (h : p ∈ defaultFiat) : p.Sound := by
  simp only [defaultFiat, List.mem_cons, List.not_mem_nil, or_false] at h
  rcases h with rfl | rfl | rfl <;> exact sound_of (by decide) (by decide) (by decide)

theorem sound_of_mem_defaultCrypto {p : RatePair} (h : p ∈ defaultCrypto) : p.Sound := by
  simp only [defaultCrypto, List.mem_cons, List.not_mem_nil, or_false] at h
  rcases h with rfl | rfl | rfl | rfl | rfl <;>
    exact (sound_of (by decide) (by decide) (by decide)).withSourceId _

end RatePair

namespace Settings

theorem isPositive_of_positive? {text : List Char} {amount : Decimal}
    (h : positive? text = some amount) : amount.isPositive = true :=
  (Option.filter_eq_some_iff.mp h).2

theorem sound_of_fiatPair? {item : List Char} {p : RatePair} (h : fiatPair? item = some p) :
    p.Sound := by
  simp only [fiatPair?, Option.bind_eq_bind, Option.bind_eq_some_iff] at h
  obtain ⟨⟨pair, amount⟩, -, ⟨base, quote⟩, -, fallback, hfallback, h⟩ := h
  -- an item that leaves one of the names blank makes no pair
  split at h
  · cases h
  · next hnames =>
    obtain rfl := Option.some.inj h
    rw [Bool.or_eq_true, not_or, Bool.not_eq_true, Bool.not_eq_true] at hnames
    exact RatePair.sound_of (by simpa using hnames.1) (by simpa using hnames.2)
      (isPositive_of_positive? hfallback)

theorem sound_of_coinPair? {item : List Char} {p : RatePair} (h : coinPair? item = some p) :
    p.Sound := by
  simp only [coinPair?, Option.bind_eq_bind, Option.bind_eq_some_iff] at h
  obtain ⟨⟨asset, amount⟩, -, ⟨symbol, id⟩, -, fallback, hfallback, h⟩ := h
  split at h
  · cases h
  · next hnames =>
    obtain rfl := Option.some.inj h
    rw [Bool.or_eq_true, not_or, Bool.not_eq_true, Bool.not_eq_true] at hnames
    exact (RatePair.sound_of (by simpa using hnames.1) (by decide)
      (isPositive_of_positive? hfallback)).withSourceId _

/-- What holds of the pairs that stand in for a list, and of each that is read, holds of all. -/
theorem of_mem_listed {P : RatePair → Prop} {env : Environment} {name : String}
    {readItem : List Char → Option RatePair} (hread : ∀ item p, readItem item = some p → P p)
    {standard : List RatePair} (hstandard : ∀ p ∈ standard, P p) {p : RatePair}
    (h : p ∈ (env.lookup name).elim standard fun text => (items text.toList).filterMap readItem) :
    P p := by
  cases hvalue : env.lookup name with
  | none =>
    rw [hvalue] at h
    exact hstandard p h
  | some text =>
    rw [hvalue] at h
    obtain ⟨item, -, hitem⟩ := List.mem_filterMap.mp h
    exact hread item p hitem

/-- The pairs of the settings are read from two variables, each with a list to stand in for it. -/
theorem pairs_of_ofEnvironment {env : Environment} {s : Settings} (h : ofEnvironment env = .ok s) :
    s.fiatPairs = (env.lookup "RATE_FIAT_PAIRS").elim RatePair.defaultFiat
        (fun text => readFiatPairs text.toList) ∧
      s.coinPairs = (env.lookup "RATE_CRYPTO_ASSETS").elim RatePair.defaultCrypto
        (fun text => readCoinPairs text.toList) := by
  -- the other settings may be turned down, but no pair depends on them
  unfold ofEnvironment at h
  simp only [bind, Except.bind, pure, Except.pure] at h
  split at h
  · cases h
  · split at h
    · cases hlisten : listenAt? env with
      | error fault =>
        rw [hlisten] at h
        cases h
      | ok n =>
        rw [hlisten] at h
        obtain rfl := Except.ok.inj h
        exact ⟨rfl, rfl⟩
    · cases h

/-- Every pair of the settings of an environment is sound. -/
theorem sound_of_ofEnvironment {env : Environment} {s : Settings} (h : ofEnvironment env = .ok s) :
    (∀ p ∈ s.fiatPairs, p.Sound) ∧ ∀ p ∈ s.coinPairs, p.Sound := by
  obtain ⟨hfiat, hcoin⟩ := pairs_of_ofEnvironment h
  rw [hfiat, hcoin]
  exact ⟨fun p hp => of_mem_listed (fun item p => sound_of_fiatPair?)
      (fun p => RatePair.sound_of_mem_defaultFiat) hp,
    fun p hp => of_mem_listed (fun item p => sound_of_coinPair?)
      (fun p => RatePair.sound_of_mem_defaultCrypto) hp⟩

end Settings

/-! ## Records of pairs -/

/--
A record of a pair for the hour of an instant. The rate that the source of the pair answered counts
if there is one and it is greater than zero, and the fallback counts otherwise.
-/
structure RatePair.RecordedAs (time : Instant) (tag : String) (rates : Option RateMap)
    (p : RatePair) (r : SnapshotRecord) : Prop where
  kind : r.kind = .exchangeRate
  subject : r.subjectKey = p.key
  hour : r.snapshotAt = time.truncateToHour
  names : r.attributes = .ofFields [("base", .string p.base), ("quote", .string p.quote)]
  positive : r.value.isPositive = true
  live : ∀ rate, rates.bind (·.lookup p.key) = some rate → rate.isPositive = true →
    r.value = rate ∧ r.sourceTag = tag
  fallback : (∀ rate, rates.bind (·.lookup p.key) = some rate → rate.isPositive = false) →
    r.value = p.fallback ∧ r.sourceTag = fallbackTag

namespace RatePoint

variable {p : RatePair} {tag : String} {rates : Option RateMap} {time : Instant}

/-- The rate of a point is the answer that counts, or else the fallback. -/
theorem rate_ofPair_cases (tag : String) (rates : Option RateMap) (time : Instant) (p : RatePair) :
    (∃ rate, rates.bind (·.lookup p.key) = some rate ∧ rate.isPositive = true ∧
        (ofPair tag rates time p).rate = rate ∧ (ofPair tag rates time p).sourceTag = tag) ∨
      ((∀ rate, rates.bind (·.lookup p.key) = some rate → rate.isPositive = false) ∧
        (ofPair tag rates time p).rate = p.fallback ∧
        (ofPair tag rates time p).sourceTag = fallbackTag) := by
  -- an answer that is not greater than zero is taken for none
  cases hlive : (rates.bind (·.lookup p.key)).filter Decimal.isPositive with
  | some rate =>
    obtain ⟨hanswer, hpositive⟩ := Option.filter_eq_some_iff.mp hlive
    exact .inl ⟨rate, hanswer, hpositive, by simp [ofPair, hlive], by simp [ofPair, hlive]⟩
  | none =>
    refine .inr ⟨fun rate hanswer => ?_, by simp [ofPair, hlive], by simp [ofPair, hlive]⟩
    simpa [hanswer] using hlive

theorem isPositive_ofPair (tag : String) (rates : Option RateMap) (time : Instant) (h : p.Sound) :
    (ofPair tag rates time p).rate.isPositive = true := by
  rcases rate_ofPair_cases tag rates time p with ⟨rate, -, hpositive, hrate, -⟩ | ⟨-, hrate, -⟩
  · rw [hrate]
    exact hpositive
  · rw [hrate]
    exact h.fallback_pos

/-- The check before storing lets every point of a sound pair through. -/
theorem validate_ofPair (tag : String) (rates : Option RateMap) (time : Instant) (h : p.Sound) :
    (ofPair tag rates time p).validate = none := by
  have hbase : p.base.isEmpty = false := by simpa using h.base_ne
  have hquote : p.quote.isEmpty = false := by simpa using h.quote_ne
  have hrate : (ofPair tag rates time p).rate.isPositive = true :=
    isPositive_ofPair tag rates time h
  simp only [validate, hrate]
  simp [ofPair, hbase, hquote]

theorem recordedAs_ofPair (h : p.Sound) (stamp : Stamp) :
    p.RecordedAs time tag rates ((ofPair tag rates time p).toRecord stamp) where
  kind := rfl
  subject := rfl
  hour := time.truncateToHour_truncateToHour
  names := rfl
  positive := isPositive_ofPair tag rates time h
  live rate hanswer hpositive := by
    rcases rate_ofPair_cases tag rates time p with ⟨other, hother, -, hvalue⟩ | ⟨hnone, -⟩
    · obtain rfl := Option.some.inj (hanswer.symm.trans hother)
      exact hvalue
    · rw [hnone rate hanswer] at hpositive
      cases hpositive
  fallback hnone := by
    rcases rate_ofPair_cases tag rates time p with ⟨rate, hrate, hpositive, -⟩ | ⟨-, hvalue⟩
    · rw [hnone rate hrate] at hpositive
      cases hpositive
    · exact hvalue

end RatePoint

/-! ## Runs -/

/-- A collection whose items are all valid is stored as it is. -/
theorem CollectionResult.filterValid_of_valid {α : Type} {items : List α}
    {check : α → Option ValidationError} (time : Instant) (h : ∀ item ∈ items, check item = none) :
    ((⟨.ok items, time⟩ : CollectionResult α).filterValid check).1 = ⟨.ok items, time⟩ := by
  have hall : items.filter (fun item => (check item).isNone) = items :=
    List.filter_eq_self.mpr fun item hitem => by simp [h item hitem]
  simp [filterValid, Except.map, hall]

/--
What a source answers for its pairs, and the state after it was asked; without pairs it is not
asked, and an error is no answer.
-/
def RateSource.ask {σ : Type} (source : RateSource σ) (pairs : List RatePair) (x : σ) :
    Option RateMap × σ :=
  if pairs.isEmpty then (none, x)
  else ((source.fetch pairs x).1.toOption, (source.fetch pairs x).2)

namespace RateCollector

variable {σ : Type} {get : σ → Stores} {set : Stores → σ → σ}

@[simp] theorem storage_withSource (c : RateCollector σ) (source : RateSource σ)
    (pairs : List RatePair) : (c.withSource source pairs).storage = c.storage := by
  unfold withSource
  split <;> rfl

theorem collectPortions_append (time : Instant) (first second : List (RateSource σ × List RatePair))
    (x : σ) :
    collectPortions time (first ++ second) x =
      ((collectPortions time first x).1 ++
          (collectPortions time second (collectPortions time first x).2).1,
        (collectPortions time second (collectPortions time first x).2).2) := by
  induction first generalizing x with
  | nil => rfl
  | cons portion rest ih => simp [collectPortions, ih]

/-- A source that is added gives the points of its pairs after all the others. -/
theorem collect_withSource (c : RateCollector σ) (source : RateSource σ) (pairs : List RatePair)
    (time : Instant) (x : σ) :
    collectPortions time (c.withSource source pairs).portions x =
      let asked := source.ask pairs (collectPortions time c.portions x).2
      ((collectPortions time c.portions x).1 ++ pairs.map (.ofPair source.tag asked.1 time),
        asked.2) := by
  cases hpairs : pairs.isEmpty with
  | true =>
    obtain rfl := List.isEmpty_iff.mp hpairs
    simp [withSource, RateSource.ask]
  | false =>
    simp [withSource, RateSource.ask, hpairs, collectPortions_append, collectPortions,
      collectPortion]

/-- Saving to an open store writes a record for each point. -/
theorem save_open (hget : ∀ stores x, get (set stores x) = stores) {c : RateCollector σ}
    (hstorage : c.storage = Stores.storage get set) {x : σ}
    (hopen : (get x).store.failWrites = false) (points : List RatePoint) (time : Instant) :
    ∃ stamp, (c.save ⟨.ok points, time⟩ x).1 = .ok points.length ∧
      (get (c.save ⟨.ok points, time⟩ x).2).store.records =
        (get x).store.records ++ points.map (RatePoint.toRecord stamp) := by
  refine ⟨(get x).stamp.1, ?_⟩
  have hopen' : (get (set (get x).stamp.2 x)).store.failWrites = false := by
    rw [hget]
    exact hopen
  obtain ⟨hrows, hrecords⟩ := saveRecords_open hget hopen'
    (points.map (RatePoint.toRecord (get x).stamp.1))
  rw [hget] at hrecords
  rw [List.length_map] at hrows
  unfold save
  rw [hstorage]
  exact ⟨hrows, hrecords⟩

/-- A run that collects nothing but valid points keeps a record for each of them. -/
theorem run_open (hget : ∀ stores x, get (set stores x) = stores) {c : RateCollector σ}
    (hstorage : c.storage = Stores.storage get set) {time : Instant} {x y : σ}
    {points : List RatePoint} (hcollect : collectPortions time c.portions x = (points, y))
    (hvalid : ∀ point ∈ points, point.validate = none) (hopen : (get y).store.failWrites = false) :
    ∃ stamp, (c.toCollector.run time x).1 = true ∧
      (get (c.toCollector.run time x).2).store.records =
        (get y).store.records ++ points.map (RatePoint.toRecord stamp) := by
  obtain ⟨stamp, hrows, hrecords⟩ := save_open hget hstorage hopen points time
  refine ⟨stamp, ?_⟩
  have hkept := CollectionResult.filterValid_of_valid time hvalid
  have hcollected : c.toCollector.collect time x = (⟨.ok points, time⟩, y) := by
    simp [toCollector, collect, hcollect]
  rcases hsave : c.save ⟨.ok points, time⟩ y with ⟨answer, z⟩
  rw [hsave] at hrows hrecords
  simp only [Collector.run, hcollected]
  cases points with
  | nil => exact ⟨rfl, by simp⟩
  | cons point rest =>
    have hsaved : c.toCollector.save ⟨.ok (point :: rest), time⟩ y = (answer, z) := hsave
    have hvalidate : c.toCollector.validate = RatePoint.validate := rfl
    simp only [hvalidate, hkept, CollectionResult.items, List.isEmpty_cons, hsaved]
    simp only at hrows hrecords
    subst hrows
    exact ⟨by simp, by simpa using hrecords⟩

end RateCollector

/-! ## The collector of the settings -/

section

variable {σ : Type} {get : σ → Stores} {set : Stores → σ → σ}

/-- The collector of the rates that are configured, over any source of fiat and of coin rates. -/
def Settings.rateCollector (s : Settings) (storage : Storage σ) (fiat coin : RateSource σ) :
    RateCollector σ :=
  ((RateCollector.empty RateCollector.defaultName storage).withSource fiat
    s.fiatPairs).withSource coin s.coinPairs

/-- The collector of a running service is that collector over the two public services. -/
theorem Assembly.rateCollector_eq (w : Surroundings σ) (s : Settings) :
    Assembly.rateCollector w s = s.rateCollector w.storage
      (FiatRates.source ⟨w.network s.publicTimeout, s.fiatAddress⟩)
      (CoinPrices.source ⟨w.network s.publicTimeout, s.coinAddress⟩) :=
  rfl

theorem RateSource.ask_keeps {β : Type} {view : σ → β} {source : RateSource σ}
    (h : ∀ pairs x, view (source.fetch pairs x).2 = view x) (pairs : List RatePair) (x : σ) :
    view (source.ask pairs x).2 = view x := by
  unfold ask
  split
  · rfl
  · exact h pairs x

/--
A run over an open store succeeds and keeps one record for each of the configured pairs, the fiat
pairs before the coins, if all pairs are sound and the sources leave the stores alone.
-/
theorem Settings.run_rateCollector (hget : ∀ stores x, get (set stores x) = stores) {s : Settings}
    (hsound : (∀ p ∈ s.fiatPairs, p.Sound) ∧ ∀ p ∈ s.coinPairs, p.Sound) {fiat coin : RateSource σ}
    (hfiat : ∀ pairs x, get (fiat.fetch pairs x).2 = get x)
    (hcoin : ∀ pairs x, get (coin.fetch pairs x).2 = get x) (time : Instant) {x : σ}
    (hopen : (get x).store.failWrites = false) :
    let run := (s.rateCollector (Stores.storage get set) fiat coin).toCollector.run time x
    let fiatAsked := fiat.ask s.fiatPairs x
    let coinAsked := coin.ask s.coinPairs fiatAsked.2
    run.1 = true ∧ ∃ fiatBatch coinBatch,
      (get run.2).store.records = (get x).store.records ++ (fiatBatch ++ coinBatch) ∧
      List.Forall₂ (RatePair.RecordedAs time fiat.tag fiatAsked.1) s.fiatPairs fiatBatch ∧
      List.Forall₂ (RatePair.RecordedAs time coin.tag coinAsked.1) s.coinPairs coinBatch := by
  intro run fiatAsked coinAsked
  let fiatPoints := s.fiatPairs.map (RatePoint.ofPair fiat.tag fiatAsked.1 time)
  let coinPoints := s.coinPairs.map (RatePoint.ofPair coin.tag coinAsked.1 time)
  have hcollect : RateCollector.collectPortions time
      (s.rateCollector (Stores.storage get set) fiat coin).portions x =
        (fiatPoints ++ coinPoints, coinAsked.2) := by
    simp [rateCollector, RateCollector.collect_withSource, RateCollector.empty,
      RateCollector.collectPortions, fiatAsked, coinAsked, fiatPoints, coinPoints]
  -- the sources leave the stores as they are, so what is saved comes after what was there
  have hstores : get coinAsked.2 = get x :=
    (RateSource.ask_keeps hcoin _ _).trans (RateSource.ask_keeps hfiat _ _)
  have hvalid : ∀ point ∈ fiatPoints ++ coinPoints, point.validate = none := by
    intro point hpoint
    rcases List.mem_append.mp hpoint with hpoint | hpoint
    · obtain ⟨p, hp, rfl⟩ := List.mem_map.mp hpoint
      exact RatePoint.validate_ofPair _ _ _ (hsound.1 p hp)
    · obtain ⟨p, hp, rfl⟩ := List.mem_map.mp hpoint
      exact RatePoint.validate_ofPair _ _ _ (hsound.2 p hp)
  obtain ⟨stamp, hsuccess, hrecords⟩ := RateCollector.run_open hget
    (by simp [rateCollector, RateCollector.empty]) hcollect hvalid (by rwa [hstores])
  have hrecorded (tag : String) (rates : Option RateMap) (pairs : List RatePair)
      (hpairs : ∀ p ∈ pairs, p.Sound) : List.Forall₂ (RatePair.RecordedAs time tag rates) pairs
        ((pairs.map (.ofPair tag rates time)).map (RatePoint.toRecord stamp)) := by
    rw [List.map_map, List.forall₂_map_right_iff, List.forall₂_same]
    exact fun p hp => RatePoint.recordedAs_ofPair (hpairs p hp) stamp
  refine ⟨hsuccess, _, _, ?_, hrecorded _ _ _ hsound.1, hrecorded _ _ _ hsound.2⟩
  rw [← List.map_append, ← hstores]
  exact hrecords

/-! ## Over the two public services -/

section Keeps

variable {β : Type} {view : σ → β}

/-- Asking for a document does to the state no more than the network does. -/
theorem Network.getJson_keeps {n : Network σ}
    (h : ∀ url headers x, view (n.get url headers x).2 = view x) (address : String)
    (headers : Headers) (x : σ) : view (n.getJson address headers x).2 = view x := by
  unfold getJson
  split
  · rfl
  · split
    · exact h _ _ x
    · rfl

/-- Asking for rates does to the state no more than the network does. -/
theorem FiatRates.fetch_keeps (f : FiatRates σ)
    (h : ∀ url headers x, view (f.network.get url headers x).2 = view x) (pairs : List RatePair)
    (x : σ) : view (f.source.fetch pairs x).2 = view x := by
  have hbases (bases : List String) (known : RateMap) (x : σ) :
      view (f.fetchBases pairs bases known x).2 = view x := by
    induction bases generalizing known x with
    | nil => rfl
    | cons base rest ih =>
      have hasked :=
        Network.getJson_keeps h (withoutTrailingSlashes f.address ++ "/latest/" ++ base)
        [] x
      simp only [fetchBases]
      generalize f.network.getJson _ [] x = reply at hasked ⊢
      cases reply.1.bind tableOf with
      | error e => exact hasked
      | ok table => exact (ih _ _).trans hasked
  exact hbases _ _ x

/-- Asking for prices of coins does to the state no more than the network does. -/
theorem CoinPrices.fetch_keeps (c : CoinPrices σ)
    (h : ∀ url headers x, view (c.network.get url headers x).2 = view x) (pairs : List RatePair)
    (x : σ) : view (c.source.fetch pairs x).2 = view x := by
  show view (c.fetch pairs x).2 = view x
  unfold fetch
  split
  · rfl
  · have hasked := Network.getJson_keeps h (c.addressFor (idsOf pairs)) [] x
    generalize c.network.getJson _ [] x = reply at hasked ⊢
    exact hasked

end Keeps

section Batch

variable {time : Instant} {tag : String} {rates : Option RateMap} {pairs : List RatePair}
  {batch : List SnapshotRecord}

/-- The records are of the pairs in their order. -/
theorem RatePair.RecordedAs.map_subjectKey
    (h : List.Forall₂ (RatePair.RecordedAs time tag rates) pairs batch) :
    batch.map SnapshotRecord.subjectKey = pairs.map RatePair.key := by
  induction h with
  | nil => rfl
  | cons hfirst _ ih => simp [hfirst.subject, ih]

/-- The records are of exchange rates, all of which are greater than zero. -/
theorem RatePair.RecordedAs.kind_and_value
    (h : List.Forall₂ (RatePair.RecordedAs time tag rates) pairs batch) :
    ∀ r ∈ batch, r.kind = .exchangeRate ∧ r.value.isPositive = true := by
  induction h with
  | nil => simp
  | cons hfirst _ ih => simpa using ⟨⟨hfirst.kind, hfirst.positive⟩, ih⟩

end Batch

/-- Over the two public services: one record for each pair in order, each with a rate above zero. -/
theorem Assembly.run_rateCollector (hget : ∀ stores x, get (set stores x) = stores)
    {w : Surroundings σ} (hstorage : w.storage = Stores.storage get set)
    (hnetwork : ∀ limit url headers x, get ((w.network limit).get url headers x).2 = get x)
    {env : Environment} {s : Settings} (henv : Settings.ofEnvironment env = .ok s) (time : Instant)
    {x : σ} (hopen : (get x).store.failWrites = false) :
    let run := (rateCollector w s).toCollector.run time x
    run.1 = true ∧ ∃ batch, (get run.2).store.records = (get x).store.records ++ batch ∧
      batch.map SnapshotRecord.subjectKey = (s.fiatPairs ++ s.coinPairs).map RatePair.key ∧
      ∀ r ∈ batch, r.kind = .exchangeRate ∧ r.value.isPositive = true := by
  let fiat : FiatRates σ := ⟨w.network s.publicTimeout, s.fiatAddress⟩
  have hfiatKept : ∀ pairs x, get (fiat.source.fetch pairs x).2 = get x :=
    fiat.fetch_keeps (hnetwork _)
  have hcoinKept : ∀ pairs x, get ((coinPrices w s).source.fetch pairs x).2 = get x :=
    (coinPrices w s).fetch_keeps (hnetwork _)
  obtain ⟨hsuccess, fiatBatch, coinBatch, hrecords, hfiat, hcoin⟩ :=
    Settings.run_rateCollector hget (Settings.sound_of_ofEnvironment henv) hfiatKept hcoinKept
      time hopen
  have hcollector : rateCollector w s =
      s.rateCollector (Stores.storage get set) fiat.source (coinPrices w s).source := by
    rw [← hstorage]
    exact rateCollector_eq w s
  rw [hcollector]
  refine ⟨hsuccess, _, hrecords, ?_, fun r hr => ?_⟩
  · rw [List.map_append, List.map_append, RatePair.RecordedAs.map_subjectKey hfiat,
      RatePair.RecordedAs.map_subjectKey hcoin]
  · rcases List.mem_append.mp hr with hr | hr
    · exact RatePair.RecordedAs.kind_and_value hfiat r hr
    · exact RatePair.RecordedAs.kind_and_value hcoin r hr

/-! ## All that is accepted -/

/--
For every environment that gives settings, a run of the collector of its pairs over an open store
succeeds, whatever the two sources answer, and keeps exactly one record for each pair in the order
of the configuration, the fiat pairs before the coins. So does the collector of a running service,
whatever the network answers it.
-/
theorem Settings.one_record_per_pair (hget : ∀ stores x, get (set stores x) = stores)
    {env : Environment} {s : Settings} (henv : ofEnvironment env = .ok s) (time : Instant) {x : σ}
    (hopen : (get x).store.failWrites = false) :
    (∀ fiat coin : RateSource σ, (∀ pairs x, get (fiat.fetch pairs x).2 = get x) →
      (∀ pairs x, get (coin.fetch pairs x).2 = get x) →
      let run := (s.rateCollector (Stores.storage get set) fiat coin).toCollector.run time x
      let fiatAsked := fiat.ask s.fiatPairs x
      let coinAsked := coin.ask s.coinPairs fiatAsked.2
      run.1 = true ∧ ∃ fiatBatch coinBatch,
        (get run.2).store.records = (get x).store.records ++ (fiatBatch ++ coinBatch) ∧
        List.Forall₂ (RatePair.RecordedAs time fiat.tag fiatAsked.1) s.fiatPairs fiatBatch ∧
        List.Forall₂ (RatePair.RecordedAs time coin.tag coinAsked.1) s.coinPairs coinBatch) ∧
    ∀ w : Surroundings σ, w.storage = Stores.storage get set →
      (∀ limit url headers x, get ((w.network limit).get url headers x).2 = get x) →
      let run := (Assembly.rateCollector w s).toCollector.run time x
      run.1 = true ∧ ∃ batch, (get run.2).store.records = (get x).store.records ++ batch ∧
        batch.map SnapshotRecord.subjectKey = (s.fiatPairs ++ s.coinPairs).map RatePair.key ∧
        ∀ r ∈ batch, r.kind = .exchangeRate ∧ r.value.isPositive = true :=
  ⟨fun _ _ hfiat hcoin =>
      run_rateCollector hget (sound_of_ofEnvironment henv) hfiat hcoin time hopen,
    fun _ hstorage hnetwork => Assembly.run_rateCollector hget hstorage hnetwork henv time hopen⟩

/--
A fiat pair answered with zero, two items that make no pair, and a coin's silent source; then the
same pairs over a site that cannot be reached.
-/
theorem Settings.one_record_per_pair_of_two :
    let env : Environment := [("DATABASE_URL", "postgres://localhost/snapshots"),
      ("RATE_FIAT_PAIRS", " usd/twd =32, /EUR=1, USD/JPY=0"),
      ("RATE_CRYPTO_ASSETS", "btc:Bitcoin=65000")]
    let fiat := World.rateSource 0 0 "bank"
    let coin := World.rateSource 0 1 "exchange"
    let world : World := ⟨.single, [.rates [.ok [("USD/TWD", .zero)], .error (.timeout "slow")]],
      [], .everything, 0⟩
    ∃ s, ofEnvironment env = .ok s ∧
      (s.fiatPairs ++ s.coinPairs).map RatePair.key = ["USD/TWD", "BTC/USD"] ∧
      (let run := (s.rateCollector World.storage fiat coin).toCollector.run .epoch world
      run.1 = true ∧ ∃ fiatBatch coinBatch,
        run.2.stores.store.records = [] ++ (fiatBatch ++ coinBatch) ∧
        List.Forall₂ (RatePair.RecordedAs .epoch "bank" (some [("USD/TWD", .zero)])) s.fiatPairs
          fiatBatch ∧
        List.Forall₂ (RatePair.RecordedAs .epoch "exchange" none) s.coinPairs coinBatch) ∧
      let live := (Assembly.rateCollector LocalWorld.surroundings s).toCollector.run .epoch
        (LocalWorld.begin ⟨none, [], []⟩ .epoch)
      live.1 = true ∧
        live.2.stores.store.records.map SnapshotRecord.subjectKey = ["USD/TWD", "BTC/USD"] := by
  intro env fiat coin world
  have hkeys : (ofEnvironment env).toOption.map
      (fun s => (s.fiatPairs.map RatePair.key, s.coinPairs.map RatePair.key)) =
        some (["USD/TWD"], ["BTC/USD"]) := by decide +kernel
  cases henv : ofEnvironment env with
  | error e =>
    rw [henv] at hkeys
    cases hkeys
  | ok s =>
    simp only [henv, Except.toOption, Option.map_some, Option.some.injEq, Prod.mk.injEq] at hkeys
    have hfiat : s.fiatPairs.isEmpty = false := by
      cases hpairs : s.fiatPairs <;> simp_all
    have hcoin : s.coinPairs.isEmpty = false := by
      cases hpairs : s.coinPairs <;> simp_all
    have hboth : (s.fiatPairs ++ s.coinPairs).map RatePair.key = ["USD/TWD", "BTC/USD"] := by
      simp [hkeys.1, hkeys.2]
    refine ⟨s, rfl, hboth, ?_, ?_⟩
    · have hget : ∀ stores (w : World), World.stores { w with stores := stores } = stores :=
        fun _ _ => rfl
      have hopen : (World.stores world).store.failWrites = false := rfl
      have hrun := (one_record_per_pair hget henv .epoch hopen).1 fiat coin (fun _ _ => rfl)
        fun _ _ => rfl
      simp only [RateSource.ask, hfiat, hcoin] at hrun
      exact hrun
    · have hget : ∀ stores (w : LocalWorld),
          LocalWorld.stores { w with stores := stores } = stores := fun _ _ => rfl
      have hopen : (LocalWorld.begin ⟨none, [], []⟩ .epoch).stores.store.failWrites = false := rfl
      obtain ⟨hsuccess, batch, hrecords, hnames, -⟩ :=
        (one_record_per_pair hget henv .epoch hopen).2 LocalWorld.surroundings rfl
          fun _ _ _ _ => rfl
      have hnone : (LocalWorld.begin ⟨none, [], []⟩ .epoch).stores.store.records = [] := rfl
      rw [hnone, List.nil_append] at hrecords
      rw [← hboth, ← hnames, ← hrecords]
      exact ⟨hsuccess, rfl⟩

end

end HourlySnapshots
