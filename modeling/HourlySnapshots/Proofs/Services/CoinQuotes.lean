import HourlySnapshots.Proofs.Services.RateTables
import HourlySnapshots.Services.CoinPrices

/-!
# Prices of coins by their ids

The service of coin prices is asked once for the ids of all pairs against the US dollar. What it
answers is then given to every pair whose id has a price, whatever the pair is quoted in. The prices
stay with the pairs against the US dollar just when no other pair shares its key with a priced one,
as is the case for the pairs of all settings.
-/

namespace HourlySnapshots

/-- The price in US dollars that a document has for the id of a pair. -/
def RatePair.priceIn (document : Json) (p : RatePair) : Option Decimal :=
  p.sourceId.bind fun id => (document.path? [id, "usd"]).bind Json.amount?

namespace Settings

theorem quote_coinPair? {item : List Char} {p : RatePair} (h : coinPair? item = some p) :
    p.quote = "USD" := by
  simp only [coinPair?, Option.bind_eq_bind, Option.bind_eq_some_iff] at h
  obtain ⟨_, -, _, -, fallback, -, h⟩ := h
  split at h
  · cases h
  · obtain rfl := Option.some.inj h
    show String.ofList (Text.upper (Text.trim "USD".toList)) = "USD"
    decide

/-- Every configured coin is quoted in US dollars. -/
theorem quote_of_ofEnvironment {env : Environment} {s : Settings} (h : ofEnvironment env = .ok s)
    {p : RatePair} (hp : p ∈ s.coinPairs) : p.quote = "USD" := by
  have hstandard : ∀ p ∈ RatePair.defaultCrypto, p.quote = "USD" := by decide
  rw [(pairs_of_ofEnvironment h).2] at hp
  exact of_mem_listed (fun _ _ => quote_coinPair?) hstandard hp

end Settings

namespace CoinPrices

variable {σ : Type} {pairs : List RatePair} {document : Json}

/-! ## Prices in a document -/

theorem lookup_quotesOf (h : document.Ordered) (id : String) :
    (quotesOf document).lookup id = (document.path? [id, "usd"]).bind Json.amount? := by
  cases h with
  | @object fields hnames _ =>
    have hpath : (Json.object fields).path? [id, "usd"] =
        (fields.lookup id).bind fun entry => entry.field? "usd" := by
      simp [Json.path?, Json.field?]
    rw [hpath, Option.bind_assoc]
    exact Json.lookup_filterMap hnames usd? id
  | _ => rfl

/-- The rates are the prices that the pairs have in the document; of one key, the last. -/
structure LastPrices (document : Json) (pairs : List RatePair) (rates : RateMap) : Prop where
  nodup : (rates.map Prod.fst).Nodup
  keys : ∀ key, key ∈ rates.map Prod.fst ↔
    ∃ p ∈ pairs, p.key = key ∧ ∃ price, p.priceIn document = some price
  lookup_iff : ∀ key price, rates.lookup key = some price ↔
    ∃ before p after, pairs = before ++ p :: after ∧ p.key = key ∧
      p.priceIn document = some price ∧ ∀ q ∈ after, q.key = key → q.priceIn document = none

/-- Every rate is the price of a pair against the US dollar, and no other pair has one. -/
structure DollarsOnly (document : Json) (pairs : List RatePair) (rates : RateMap) : Prop where
  entries : ∀ key price, rates.lookup key = some price →
    ∃ p ∈ pairs, p.quote = "USD" ∧ p.key = key ∧ p.priceIn document = some price
  others : ∀ p ∈ pairs, p.quote ≠ "USD" → rates.lookup p.key = none

theorem lastPrices_insertAll (h : document.Ordered) (pairs : List RatePair) :
    LastPrices document pairs (RateMap.insertAll [] (ratesFor pairs (quotesOf document))) := by
  have hrates : ratesFor pairs (quotesOf document) =
      pairs.filterMap fun p => (p.priceIn document).map fun price => (p.key, price) := by
    simp only [ratesFor, RatePair.priceIn, lookup_quotesOf h]
  have hgiven (p : RatePair) (key : String) (price : Decimal) :
      (p.priceIn document).map (fun price => (p.key, price)) = some (key, price) ↔
        p.key = key ∧ p.priceIn document = some price := by
    cases p.priceIn document <;> simp [and_comm]
  have hlater (key : String) (after : List RatePair) :
      (∀ q ∈ after, ∀ entry, (q.priceIn document).map (fun price => (q.key, price)) = some entry →
        entry.1 ≠ key) ↔ ∀ q ∈ after, q.key = key → q.priceIn document = none := by
    refine forall₂_congr fun q _ => ?_
    cases q.priceIn document <;> simp
  rw [hrates]
  refine ⟨RateMap.nodup_insertAll (by simp) _, fun key => ?_, fun key price => ?_⟩
  · rw [RateMap.mem_keys_insertAll]
    simp only [List.mem_map, List.mem_filterMap, Prod.exists, hgiven]
    constructor
    · rintro ⟨_, price, ⟨p, hp, hkey, hprice⟩, rfl⟩
      exact ⟨p, hp, hkey, price, hprice⟩
    · rintro ⟨p, hp, hkey, price, hprice⟩
      exact ⟨key, price, ⟨p, hp, hkey, hprice⟩, rfl⟩
  · rw [RateMap.lookup_insertAll_filterMap]
    exact exists₃_congr fun before p after => by rw [hgiven, hlater, and_assoc]

namespace LastPrices

variable {rates : RateMap} (h : LastPrices document pairs rates)

include h

theorem dollarsOnly_iff : DollarsOnly document pairs rates ↔
    ∀ p ∈ pairs, p.quote ≠ "USD" → ∀ q ∈ pairs, q.key = p.key → q.priceIn document = none := by
  constructor
  · intro hdollars p hp hquote q hq hkey
    by_contra hsome
    obtain ⟨price, hprice⟩ := Option.ne_none_iff_exists'.mp hsome
    -- the key of both pairs has a rate, which the first one must not have
    have hheld := (h.keys p.key).mpr ⟨q, hq, hkey, price, hprice⟩
    obtain ⟨other, hother⟩ := RateMap.mem_keys_iff.mp hheld
    rw [hdollars.others p hp hquote] at hother
    cases hother
  · intro hfree
    have hpriced {key : String} {price : Decimal} (hlookup : rates.lookup key = some price) :
        ∃ q ∈ pairs, q.key = key ∧ q.priceIn document = some price := by
      obtain ⟨before, q, after, rfl, hkey, hprice, -⟩ := (h.lookup_iff key price).mp hlookup
      exact ⟨q, by simp, hkey, hprice⟩
    refine ⟨fun key price hlookup => ?_, fun p hp hquote => ?_⟩
    · obtain ⟨q, hq, hkey, hprice⟩ := hpriced hlookup
      by_cases hquote : q.quote = "USD"
      · exact ⟨q, hq, hquote, hkey, hprice⟩
      · rw [hfree q hq hquote q hq rfl] at hprice
        cases hprice
    · cases hlookup : rates.lookup p.key with
      | none => rfl
      | some price =>
        obtain ⟨q, hq, hkey, hprice⟩ := hpriced hlookup
        rw [hfree p hp hquote q hq hkey] at hprice
        cases hprice

end LastPrices

/-! ## Asking for prices -/

theorem mem_idsOf {id : String} :
    id ∈ idsOf pairs ↔ ∃ p ∈ pairs, p.quote = "USD" ∧ p.sourceId = some id := by
  unfold idsOf
  rw [(FiatRates.ascending_spec _).2]
  simp only [List.mem_filterMap, List.mem_filter, beq_iff_eq, and_assoc]

/--
Nothing is asked when no pair against the US dollar has an id. Otherwise the ids of these pairs are
asked for once, in ascending order; an error is passed on, and a document gives each key the price
of the last pair that has both. The rates stay with the pairs against the US dollar just when no
pair against another currency shares its key with a priced one. Configured coins are all quoted in
US dollars.
-/
theorem prices_by_id (c : CoinPrices σ) :
    (∀ env s, Settings.ofEnvironment env = .ok s → ∀ p ∈ s.coinPairs, p.quote = "USD") ∧
      ∀ pairs x, ∃ ids : List String, ids.Pairwise (· < ·) ∧
        (∀ id, id ∈ ids ↔ ∃ p ∈ pairs, p.quote = "USD" ∧ p.sourceId = some id) ∧
        (ids = [] ∧ c.fetch pairs x = (.ok [], x) ∨
          ids ≠ [] ∧ ∃ reply y, c.network.getJson (c.addressFor ids) [] x = (reply, y) ∧
            ((∃ e, reply = .error e ∧ c.fetch pairs x = (.error e, y)) ∨
              ∃ document rates, reply = .ok document ∧ c.fetch pairs x = (.ok rates, y) ∧
                LastPrices document pairs rates ∧
                (DollarsOnly document pairs rates ↔ ∀ p ∈ pairs, p.quote ≠ "USD" →
                  ∀ q ∈ pairs, q.key = p.key → q.priceIn document = none))) := by
  refine ⟨fun env s h p hp => Settings.quote_of_ofEnvironment h hp, fun pairs x => ?_⟩
  refine ⟨idsOf pairs, (FiatRates.ascending_spec _).1, fun id => mem_idsOf, ?_⟩
  rcases hids : idsOf pairs with _ | ⟨id, rest⟩
  · exact .inl ⟨rfl, by simp only [fetch, hids]⟩
  · rcases hasked : c.network.getJson (c.addressFor (id :: rest)) [] x with ⟨reply, y⟩
    have hfetch : c.fetch pairs x = (reply.map fun document =>
        RateMap.insertAll [] (ratesFor pairs (quotesOf document)), y) := by
      simp only [fetch, hids, hasked]
    refine .inr ⟨by simp, reply, y, rfl, ?_⟩
    cases reply with
    | error e => exact .inl ⟨e, rfl, hfetch⟩
    | ok document =>
      have hordered : document.Ordered :=
        c.network.ordered_getJson (c.addressFor (id :: rest)) [] x (by rw [hasked])
      have hlast := lastPrices_insertAll hordered pairs
      exact .inr ⟨document, _, rfl, hfetch, hlast, hlast.dollarsOnly_iff⟩

/-- The coin of some settings has the price for its id, and no other price is kept. -/
theorem prices_of_configured_coin :
    let env : Environment := [("DATABASE_URL", "postgres://localhost/snapshots"),
      ("RATE_CRYPTO_ASSETS", "btc:Bitcoin=65000")]
    let site := RecordedSite.telling [("/simple/price?ids=bitcoin&vs_currencies=usd",
      "\x7b\"bitcoin\": \x7b\"usd\": 64000\x7d, \"dai\": \x7b\"usd\": 1\x7d\x7d")]
    let c : CoinPrices LocalWorld := ⟨LocalWorld.surroundings.network 10, "http://[::1]/"⟩
    let rates : RateMap := [("BTC/USD", .literal 64000 0)]
    ∃ s, Settings.ofEnvironment env = .ok s ∧ (∀ p ∈ s.coinPairs, p.quote = "USD") ∧
      ∃ document, (c.fetch s.coinPairs (.begin site .epoch)).1 = .ok rates ∧
        LastPrices document s.coinPairs rates ∧ DollarsOnly document s.coinPairs rates := by
  intro env site c rates
  have hpairs : (Settings.ofEnvironment env).toOption.map Settings.coinPairs =
      some [(RatePair.of "btc" "usd" (.literal 65000 0)).withSourceId "bitcoin"] := by
    decide +kernel
  have hrates : (c.fetch [(RatePair.of "btc" "usd" (.literal 65000 0)).withSourceId "bitcoin"]
      (.begin site .epoch)).1.toOption = some rates := by decide +kernel
  cases henv : Settings.ofEnvironment env with
  | error e =>
    rw [henv] at hpairs
    cases hpairs
  | ok s =>
    rw [henv] at hpairs
    rw [← Option.some.inj hpairs] at hrates
    obtain ⟨hquotes, hfetch⟩ := prices_by_id c
    have hquote := hquotes env s henv
    obtain ⟨ids, -, -, hend⟩ := hfetch s.coinPairs (.begin site .epoch)
    rcases hend with ⟨-, hnone⟩ | ⟨-, reply, y, -, ⟨e, -, herror⟩ | hpriced⟩
    · rw [hnone] at hrates
      exact absurd (Option.some.inj hrates).symm (List.cons_ne_nil _ _)
    · rw [herror] at hrates
      cases hrates
    · obtain ⟨document, found, -, hfound, hlast, hiff⟩ := hpriced
      rw [hfound] at hrates
      obtain rfl := Option.some.inj hrates
      exact ⟨s, rfl, hquote, document, by rw [hfound], hlast,
        hiff.mpr fun p hp hother => absurd (hquote p hp) hother⟩

/-- A pair in euros with the id of a pair in dollars has the price in dollars as its rate. -/
theorem euros_priced_in_dollars :
    let pairs := [(RatePair.of "btc" "usd" (.literal 1 0)).withSourceId "bitcoin",
      (RatePair.of "btc" "eur" (.literal 1 0)).withSourceId "bitcoin"]
    let site := RecordedSite.telling [("/simple/price?ids=bitcoin&vs_currencies=usd",
      "\x7b\"bitcoin\": \x7b\"usd\": 65000\x7d\x7d")]
    let c : CoinPrices LocalWorld := ⟨LocalWorld.surroundings.network 10, "http://[::1]/"⟩
    let rates := [("BTC/USD", .literal 65000 0), ("BTC/EUR", .literal 65000 0)]
    (c.fetch pairs (.begin site .epoch)).1.toOption = some rates ∧
      ∀ document, ¬ DollarsOnly document pairs rates := by
  intro pairs site c rates
  refine ⟨by decide +kernel, fun document hdollars => ?_⟩
  have hnone := hdollars.others (pairs[1]) (by simp [pairs]) (by decide +kernel)
  have hsome : rates.lookup pairs[1].key = some (.literal 65000 0) := by decide +kernel
  rw [hsome] at hnone
  cases hnone

end CoinPrices

end HourlySnapshots
