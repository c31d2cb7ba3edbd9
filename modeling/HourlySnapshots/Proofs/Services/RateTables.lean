import HourlySnapshots.Proofs.Collection.Asking
import HourlySnapshots.Proofs.Collection.ConfiguredRates
import HourlySnapshots.Proofs.Services.RateMaps
import HourlySnapshots.Rehearsal.Site

/-!
# Tables of rates by their base

The service of currency rates is asked for the table of one base after the other. The first base
without a table ends the asking and costs all rates. Otherwise every pair has the rate that the
table of its own base gives it, and no other one.
-/

namespace HourlySnapshots

/-! ## Bases without a slash -/

namespace Text

theorem ofNat_ne_slash {n : Nat} (h : 47 < n) : Char.ofNat n ≠ '/' := by
  intro heq
  by_cases hvalid : n.isValidChar
  · rw [Char.ofNat, dif_pos hvalid] at heq
    have hcode : n = 47 := congrArg (fun c : Char => c.val.toNat) heq
    omega
  · rw [Char.ofNat, dif_neg hvalid] at heq
    cases heq

theorem toUpper_ne_slash {c : Char} (h : c ≠ '/') : c.toUpper ≠ '/' := by
  unfold Char.toUpper
  split
  · next hlower =>
    intro heq
    have hcode := congrArg (fun c : Char => c.val.toNat) heq
    simp only [UInt32.le_iff_toNat_le] at hlower
    simp at hlower hcode
    omega
  · exact h

/-- No character but the slash itself has a slash in its upper case. -/
theorem slash_not_mem_upperChar {c : Char} (h : c ≠ '/') : '/' ∉ upperChar c := by
  -- beyond the first characters, all codes of an upper case lie behind that of the slash
  have hexpansions : ∀ codes ∈ upperExpansions.map (·.2), ∀ code ∈ codes, 47 < code := by decide
  have hruns : ∀ run ∈ upperRuns, 47 < (run.1 : Int) + run.2.2.2 := by decide +kernel
  unfold upperChar
  split
  · simpa using (toUpper_ne_slash h).symm
  · split
    · next codes hcodes =>
      obtain ⟨before, after, hsplit, -⟩ := List.lookup_eq_some_iff.mp hcodes
      intro hmem
      obtain ⟨code, hcode, heq⟩ := List.mem_map.mp hmem
      exact ofNat_ne_slash (hexpansions codes (by simp [hsplit]) code hcode) heq
    · split
      · next n hn =>
        obtain ⟨run, hrun, rfl⟩ := Option.map_eq_some_iff.mp hn
        have hbehind := hruns run (List.mem_of_find?_eq_some hrun)
        have hin := List.find?_some hrun
        simp only [Bool.and_eq_true, decide_eq_true_eq] at hin
        have hless : 47 < ((c.toNat : Int) + run.2.2.2).toNat := by omega
        simpa using (ofNat_ne_slash hless).symm
      · simpa using h.symm

theorem slash_not_mem_upper {cs : List Char} (h : '/' ∉ cs) : '/' ∉ upper cs := by
  intro hmem
  obtain ⟨c, hc, hslash⟩ := List.mem_flatMap.mp hmem
  exact slash_not_mem_upperChar (fun heq => h (heq ▸ hc)) hslash

end Text

namespace RatePair

/-- The key of a pair is the base up to the first slash, and behind it the quote. -/
theorem eq_of_key_eq {p q : RatePair} (hp : '/' ∉ p.base.toList) (hq : '/' ∉ q.base.toList)
    (h : p.key = q.key) : p.base = q.base ∧ p.quote = q.quote := by
  have hkey (r : RatePair) : r.key.toList = r.base.toList ++ '/' :: r.quote.toList := by
    simp [key, pairKey]
  have hbase (r : RatePair) (hr : '/' ∉ r.base.toList) :
      r.key.toList.takeWhile (· ≠ '/') = r.base.toList := by
    have hpassed : ∀ c ∈ r.base.toList, decide (c ≠ '/') = true := fun c hc =>
      decide_eq_true (ne_of_mem_of_not_mem hc hr)
    rw [hkey, List.takeWhile_append_of_pos hpassed]
    simp
  have hbases : p.base = q.base := by
    rw [← String.toList_inj, ← hbase p hp, ← hbase q hq, h]
  have hrest : p.base.toList ++ '/' :: p.quote.toList = p.base.toList ++ '/' :: q.quote.toList := by
    rw [← hkey p, h, hkey q, hbases]
  exact ⟨hbases, String.toList_inj.mp (List.cons.inj (List.append_cancel_left hrest)).2⟩

theorem slash_not_mem_of {base quote : String} {fallback : Decimal} (h : '/' ∉ base.toList) :
    '/' ∉ (of base quote fallback).base.toList := by
  have htrimmed : '/' ∉ Text.trim base.toList := fun hmem => h (Text.mem_of_mem_trim hmem)
  simpa [of] using Text.slash_not_mem_upper htrimmed

theorem slash_not_mem_defaultFiat {p : RatePair} (h : p ∈ defaultFiat) :
    '/' ∉ p.base.toList := by
  simp only [defaultFiat, List.mem_cons, List.not_mem_nil, or_false] at h
  rcases h with rfl | rfl | rfl <;> exact slash_not_mem_of (by decide)

end RatePair

namespace Settings

theorem slash_not_mem_fiatPair? {item : List Char} {p : RatePair} (h : fiatPair? item = some p) :
    '/' ∉ p.base.toList := by
  simp only [fiatPair?, Option.bind_eq_bind, Option.bind_eq_some_iff] at h
  obtain ⟨⟨pair, amount⟩, -, ⟨base, quote⟩, hbase, fallback, -, h⟩ := h
  split at h
  · cases h
  · obtain rfl := Option.some.inj h
    refine RatePair.slash_not_mem_of ?_
    -- the base is what stands before the first slash of the item
    unfold splitOnce? at hbase
    split at hbase
    · obtain ⟨rfl, -⟩ := Prod.mk.inj (Option.some.inj hbase)
      intro hmem
      have hpassed := List.all_eq_true.mp List.all_takeWhile _ (by simpa using hmem)
      simp at hpassed
    · cases hbase

/-- The base of a configured currency pair holds no slash. -/
theorem slash_not_mem_of_ofEnvironment {env : Environment} {s : Settings}
    (h : ofEnvironment env = .ok s) {p : RatePair} (hp : p ∈ s.fiatPairs) :
    '/' ∉ p.base.toList := by
  rw [(pairs_of_ofEnvironment h).1] at hp
  exact of_mem_listed (fun _ _ => slash_not_mem_fiatPair?)
    (fun _ => RatePair.slash_not_mem_defaultFiat) hp

end Settings

/-! ## Tables -/

/-- What a service answers over the web holds each name once. -/
theorem Network.ordered_getJson {σ : Type} (n : Network σ) (address : String) (headers : Headers)
    (x : σ) {document : Json} (h : (n.getJson address headers x).1 = .ok document) :
    document.Ordered := by
  unfold getJson at h
  split at h
  · cases h
  · split at h
    · next url hurl =>
      simp only at h
      unfold WebReply.document at h
      split at h
      · split at h
        · split at h
          · next hread =>
            obtain rfl := Except.ok.inj h
            obtain ⟨text, -, htext⟩ := Option.bind_eq_some_iff.mp hread
            exact Json.ordered_of_read? htext
          · cases h
        · cases h
      · cases h
      · cases h
    · cases h

/-- A site that tells a document under each of some targets. -/
def RecordedSite.telling (documents : List (String × String)) : RecordedSite :=
  ⟨some "[::1]", documents.map fun told => (told.1, [.answers 200 (Text.utf8 told.2)]), []⟩

namespace FiatRates

variable {σ : Type} {pairs : List RatePair} {bases : List String}
  {talk : List (Exchange String Json)} {e : ServiceError}

/-- A reply has no table of rates: it is an error, or a document without one. -/
inductive NoTable : Except ServiceError Json → ServiceError → Prop where
  | failed (e : ServiceError) : NoTable (.error e) e
  | missing {document : Json} (h : ∀ fields, document.field? "rates" ≠ some (.object fields)) :
      NoTable (.ok document) (.malformed "rates table missing from response")

/-- The rate of a currency in a document. -/
def rateIn (document : Json) (quote : String) : Option Decimal :=
  (document.path? ["rates", quote]).bind Json.amount?

theorem noTable_of_bind_tableOf {reply : Except ServiceError Json}
    (h : reply.bind tableOf = .error e) : NoTable reply e := by
  cases reply with
  | error other =>
    obtain rfl := Except.error.inj h
    exact .failed other
  | ok document =>
    change tableOf document = .error e at h
    unfold tableOf at h
    split at h
    · cases h
    · next hmissing =>
      obtain rfl := Except.error.inj h
      exact .missing hmissing

theorem not_noTable_of_bind_tableOf {reply : Except ServiceError Json}
    {table : List (String × Decimal)} (h : reply.bind tableOf = .ok table) (e : ServiceError) :
    ¬ NoTable reply e := by
  rintro (_ | ⟨hmissing⟩)
  · cases h
  · next document =>
    change tableOf document = .ok table at h
    unfold tableOf at h
    split at h
    · next fields hfields => exact hmissing fields hfields
    · cases h

/-- A table says of a currency what the document says under its name. -/
theorem lookup_tableOf {document : Json} (hordered : document.Ordered)
    {table : List (String × Decimal)} (h : tableOf document = .ok table) (quote : String) :
    table.lookup quote = rateIn document quote := by
  unfold tableOf at h
  split at h
  · next fields hfields =>
    obtain rfl := Except.ok.inj h
    have hrate : rateIn document quote = (fields.lookup quote).bind Json.amount? := by
      simp only [rateIn, Json.path?, hfields, Option.bind_some]
      cases hquote : fields.lookup quote <;> simp [Json.field?, hquote]
    rw [hrate]
    exact Json.lookup_filterMap (hordered.pairwise_of_field? hfields) Json.amount? quote
  · cases h

/-! ## Asking for tables -/

/-- Asks for the table of a base. -/
def ask (f : FiatRates σ) (base : String) (x : σ) : Except ServiceError Json × σ :=
  f.network.getJson (withoutTrailingSlashes f.address ++ "/latest/" ++ base) [] x

/-- The bases were asked for in order, and every one has a table. -/
structure AllTables (bases : List String) (talk : List (Exchange String Json)) : Prop where
  entries_eq : talk.map Exchange.entry = bases
  tables : ∀ exchange ∈ talk, ∀ e, ¬ NoTable exchange.reply e

/-- The bases were asked for in order up to the first one without a table, and none behind it. -/
structure NoTableAfter (bases : List String) (talk : List (Exchange String Json))
    (e : ServiceError) : Prop where
  entries_prefix : talk.map Exchange.entry <+: bases
  missing : ∃ before base reply, talk = before ++ [⟨base, reply⟩] ∧ NoTable reply e ∧
    ∀ exchange ∈ before, ∀ e, ¬ NoTable exchange.reply e

/-- The rates that an exchange yields for the pairs with its base. -/
def ratesOf (pairs : List RatePair) (exchange : Exchange String Json) : List (String × Decimal) :=
  match exchange.reply.bind tableOf with
  | .ok table => ratesFor exchange.entry pairs table
  | .error _ => []

/--
The bases that are left are asked for in turn. Either one of them has no table and its error is the
outcome, or all have one and the rates of each are added in order.
-/
theorem fetchBases_asks (f : FiatRates σ) (pairs : List RatePair) (bases : List String)
    (known : RateMap) (x : σ) :
    ∃ talk, Asks f.ask talk x (f.fetchBases pairs bases known x).2 ∧
      ((∃ e, NoTableAfter bases talk e ∧ (f.fetchBases pairs bases known x).1 = .error e) ∨
        AllTables bases talk ∧ (f.fetchBases pairs bases known x).1 =
          .ok (known.insertAll (talk.flatMap (ratesOf pairs)))) := by
  induction bases generalizing known x with
  | nil => exact ⟨[], .done, .inr ⟨⟨rfl, by simp⟩, rfl⟩⟩
  | cons base rest ih =>
    rcases hask : f.ask base x with ⟨reply, y⟩
    have hjson : f.network.getJson (withoutTrailingSlashes f.address ++ "/latest/" ++ base) [] x =
        (reply, y) := hask
    simp only [fetchBases, hjson]
    cases htable : reply.bind tableOf with
    | error e =>
      refine ⟨[⟨base, reply⟩], .next hask .done, .inl ⟨e, ⟨by simp, [], base, reply, rfl, ?_⟩, rfl⟩⟩
      exact ⟨noTable_of_bind_tableOf htable, by simp⟩
    | ok table =>
      have hfirst := not_noTable_of_bind_tableOf htable
      obtain ⟨talk, htalk, hend⟩ := ih (known.insertAll (ratesFor base pairs table)) y
      refine ⟨⟨base, reply⟩ :: talk, .next hask htalk, ?_⟩
      rcases hend with ⟨e, hstopped, hresult⟩ | ⟨hall, hresult⟩
      · obtain ⟨before, last, final, rfl, hfinal, hbefore⟩ := hstopped.missing
        refine .inl ⟨e, ⟨List.cons_prefix_cons.mpr ⟨rfl, hstopped.entries_prefix⟩, ?_⟩, hresult⟩
        exact ⟨⟨base, reply⟩ :: before, last, final, rfl, hfinal,
          List.forall_mem_cons.mpr ⟨hfirst, hbefore⟩⟩
      · have hentries : base :: talk.map Exchange.entry = base :: rest := by rw [hall.entries_eq]
        refine .inr ⟨⟨hentries, List.forall_mem_cons.mpr ⟨hfirst, hall.tables⟩⟩, ?_⟩
        rw [hresult, List.flatMap_cons, RateMap.insertAll_append]
        simp only [ratesOf, htable]

/-! ## Rates from tables -/

/-- The document that was answered for the base of a pair has a rate for its quote. -/
def Rated (talk : List (Exchange String Json)) (p : RatePair) (rate : Decimal) : Prop :=
  ∃ document, ⟨p.base, .ok document⟩ ∈ talk ∧ rateIn document p.quote = some rate

/-- A map holds the rates of the pairs in the documents of their own bases, and no others. -/
structure OwnRates (talk : List (Exchange String Json)) (pairs : List RatePair)
    (rates : RateMap) : Prop where
  nodup : (rates.map Prod.fst).Nodup
  keys : ∀ key, key ∈ rates.map Prod.fst ↔ ∃ p ∈ pairs, p.key = key ∧ ∃ rate, Rated talk p rate
  lookup_eq : ∀ p ∈ pairs, ∃ document, ⟨p.base, .ok document⟩ ∈ talk ∧
    rates.lookup p.key = rateIn document p.quote

theorem mem_ratesOf_iff {exchange : Exchange String Json}
    (htable : ∀ e, ¬ NoTable exchange.reply e)
    (hordered : ∀ document, exchange.reply = .ok document → document.Ordered)
    {key : String} {rate : Decimal} :
    (key, rate) ∈ ratesOf pairs exchange ↔ ∃ p ∈ pairs, p.key = key ∧
      ∃ document, exchange = ⟨p.base, .ok document⟩ ∧ rateIn document p.quote = some rate := by
  obtain ⟨base, reply⟩ := exchange
  cases reply with
  | error e => exact absurd (.failed e) (htable e)
  | ok document =>
    cases hfound : (Except.ok document : Except ServiceError Json).bind tableOf with
    | error e => exact absurd (noTable_of_bind_tableOf hfound) (htable e)
    | ok table =>
      have hlookup := lookup_tableOf (hordered document rfl) hfound
      have hrates : ratesOf pairs ⟨base, .ok document⟩ = ratesFor base pairs table := by
        simp only [ratesOf, hfound]
      simp only [hrates, ratesFor, List.mem_filterMap, List.mem_filter, beq_iff_eq, hlookup,
        Option.map_eq_some_iff, Prod.mk.injEq]
      constructor
      · rintro ⟨p, ⟨hp, rfl⟩, rate, hrate, rfl, rfl⟩
        exact ⟨p, hp, rfl, document, rfl, hrate⟩
      · rintro ⟨p, hp, rfl, other, heq, hrate⟩
        obtain ⟨rfl, hreply⟩ := Exchange.mk.inj heq
        obtain rfl := Except.ok.inj hreply
        exact ⟨p, ⟨hp, rfl⟩, rate, hrate, rfl, rfl⟩

/-- Pairs with one key have one rate: they have one base, and a base is asked for once. -/
theorem rateIn_eq_of_key_eq (hnodup : (talk.map Exchange.entry).Nodup) {p q : RatePair}
    (hp : '/' ∉ p.base.toList) (hq : '/' ∉ q.base.toList) (hkey : p.key = q.key)
    {document other : Json} (hdocument : ⟨p.base, .ok document⟩ ∈ talk)
    (hother : ⟨q.base, .ok other⟩ ∈ talk) : rateIn document p.quote = rateIn other q.quote := by
  obtain ⟨hbase, hquote⟩ := RatePair.eq_of_key_eq hp hq hkey
  have hsame := List.inj_on_of_nodup_map hnodup hdocument hother hbase
  obtain rfl := Except.ok.inj (Exchange.mk.inj hsame).2
  rw [hquote]

section

variable (hpairs : ∀ p ∈ pairs, '/' ∉ p.base.toList) (hnodup : bases.Nodup)
  (hmem : ∀ base, base ∈ bases ↔ ∃ p ∈ pairs, p.base = base) (hall : AllTables bases talk)
  (hordered : ∀ exchange ∈ talk, ∀ document, exchange.reply = .ok document → document.Ordered)

include hall hordered

theorem mem_flatMap_ratesOf_iff {key : String} {rate : Decimal} :
    (key, rate) ∈ talk.flatMap (ratesOf pairs) ↔ ∃ p ∈ pairs, p.key = key ∧ Rated talk p rate := by
  rw [List.mem_flatMap]
  constructor
  · rintro ⟨exchange, hexchange, hrate⟩
    obtain ⟨p, hp, hkey, document, rfl, hrated⟩ :=
      (mem_ratesOf_iff (hall.tables exchange hexchange) (hordered exchange hexchange)).mp hrate
    exact ⟨p, hp, hkey, document, hexchange, hrated⟩
  · rintro ⟨p, hp, hkey, document, hexchange, hrated⟩
    exact ⟨_, hexchange, (mem_ratesOf_iff (hall.tables _ hexchange) (hordered _ hexchange)).mpr
      ⟨p, hp, hkey, document, rfl, hrated⟩⟩

include hpairs hnodup hmem

theorem ownRates_insertAll :
    OwnRates talk pairs (RateMap.insertAll [] (talk.flatMap (ratesOf pairs))) := by
  have hsame {p q : RatePair} (hp : p ∈ pairs) (hq : q ∈ pairs) (hkey : p.key = q.key)
      {document other : Json} (hdocument : ⟨p.base, .ok document⟩ ∈ talk)
      (hother : ⟨q.base, .ok other⟩ ∈ talk) : rateIn document p.quote = rateIn other q.quote :=
    rateIn_eq_of_key_eq (hall.entries_eq ▸ hnodup) (hpairs p hp) (hpairs q hq) hkey hdocument hother
  have hlookup (key : String) (rate : Decimal) :
      List.lookup key (RateMap.insertAll [] (talk.flatMap (ratesOf pairs))) = some rate ↔
        ∃ p ∈ pairs, p.key = key ∧ Rated talk p rate := by
    rw [← mem_flatMap_ratesOf_iff hall hordered]
    refine RateMap.lookup_insertAll_of_same fun rate other hrate hother => ?_
    obtain ⟨p, hp, hkey, document, hdocument, hrate⟩ :=
      (mem_flatMap_ratesOf_iff hall hordered).mp hrate
    obtain ⟨q, hq, hkey', document', hdocument', hother⟩ :=
      (mem_flatMap_ratesOf_iff hall hordered).mp hother
    rw [hsame hp hq (hkey.trans hkey'.symm) hdocument hdocument', hother] at hrate
    exact (Option.some.inj hrate).symm
  refine ⟨RateMap.nodup_insertAll (by simp) _, fun key => ?_, fun p hp => ?_⟩
  · rw [RateMap.mem_keys_iff]
    simp only [hlookup]
    exact ⟨fun ⟨rate, p, hp, hkey, hrate⟩ => ⟨p, hp, hkey, rate, hrate⟩,
      fun ⟨p, hp, hkey, rate, hrate⟩ => ⟨rate, p, hp, hkey, hrate⟩⟩
  · -- the base of the pair was asked for, and its reply is a document
    have hasked : p.base ∈ talk.map Exchange.entry :=
      hall.entries_eq ▸ (hmem p.base).mpr ⟨p, hp, rfl⟩
    obtain ⟨⟨base, reply⟩, hexchange, rfl⟩ := List.mem_map.mp hasked
    cases reply with
    | error e => exact absurd (.failed e) (hall.tables _ hexchange e)
    | ok document =>
      refine ⟨document, hexchange, Option.ext fun rate => (hlookup p.key rate).trans ⟨?_, ?_⟩⟩
      · rintro ⟨q, hq, hkey, other, hother, hrate⟩
        rw [← hrate, hsame hq hp hkey hother hexchange]
      · exact fun hrate => ⟨p, hp, rfl, document, hexchange, hrate⟩

end

/--
For pairs whose bases hold no slash, as those of all settings do, each base is asked for once and in
ascending order, up to the first one whose reply is an error or has no table. That error is then the
outcome. When every base has a table, the rates are those that the pairs have in the documents of
their own bases.
-/
theorem rates_by_base (f : FiatRates σ) :
    (∀ env s, Settings.ofEnvironment env = .ok s → ∀ p ∈ s.fiatPairs, '/' ∉ p.base.toList) ∧
      ∀ pairs : List RatePair, (∀ p ∈ pairs, '/' ∉ p.base.toList) → ∀ x, ∃ bases talk,
        bases.Pairwise (· < ·) ∧ (∀ base, base ∈ bases ↔ ∃ p ∈ pairs, p.base = base) ∧
          Asks f.ask talk x (f.fetch pairs x).2 ∧
            ((∃ e, NoTableAfter bases talk e ∧ (f.fetch pairs x).1 = .error e) ∨
              AllTables bases talk ∧
                ∃ rates, (f.fetch pairs x).1 = .ok rates ∧ OwnRates talk pairs rates) := by
  refine ⟨fun env s h p hp => Settings.slash_not_mem_of_ofEnvironment h hp,
    fun pairs hpairs x => ?_⟩
  obtain ⟨hascending, hascended⟩ := ascending_spec (pairs.map RatePair.base)
  have hmem (base : String) :
      base ∈ ascending (pairs.map RatePair.base) ↔ ∃ p ∈ pairs, p.base = base :=
    (hascended base).trans List.mem_map
  obtain ⟨talk, htalk, hend⟩ := f.fetchBases_asks pairs (ascending (pairs.map RatePair.base)) [] x
  refine ⟨_, talk, hascending, hmem, htalk, hend.imp_right fun ⟨hall, hresult⟩ => ?_⟩
  have hordered := htalk.reply_of_mem
    (P := fun reply => ∀ document, reply = .ok document → document.Ordered)
    fun base x document h => f.network.ordered_getJson _ _ x h
  exact ⟨hall, _, hresult, ownRates_insertAll hpairs
    (hascending.imp fun hless => hless.ne) hmem hall hordered⟩

/-- Two bases in ascending order: one table tells more than was asked, one is without an amount. -/
theorem rates_of_two_bases :
    let pairs : List RatePair := [.of "usd" "cny" (.literal 72 1), .of "eur" "usd" (.literal 1 0),
      .of "usd" "eur" (.literal 92 2)]
    let site := RecordedSite.telling [
      ("/latest/USD", "\x7b\"rates\": \x7b\"CNY\": 7, \"EUR\": null\x7d\x7d"),
      ("/latest/EUR", "\x7b\"rates\": \x7b\"CNY\": 8, \"USD\": \"1.08\"\x7d\x7d")]
    let f : FiatRates LocalWorld := ⟨LocalWorld.surroundings.network 10, "http://[::1]/"⟩
    let fetched := f.fetch pairs (.begin site .epoch)
    (∀ p ∈ pairs, '/' ∉ p.base.toList) ∧
      (∃ bases talk rates, Asks f.ask talk (.begin site .epoch) fetched.2 ∧
        AllTables bases talk ∧ fetched.1 = .ok rates ∧ OwnRates talk pairs rates ∧
        ∃ document, ⟨"USD", .ok document⟩ ∈ talk ∧ rateIn document "EUR" = none) ∧
      fetched.2.site.seen.map SeenRequest.target = ["/latest/EUR", "/latest/USD"] ∧
      fetched.1.toOption = some [("EUR/USD", .literal 108 2), ("USD/CNY", .literal 7 0)] := by
  intro pairs site f fetched
  have hpairs : ∀ p ∈ pairs, '/' ∉ p.base.toList := by decide +kernel
  have hfetched : fetched.1.toOption =
      some [("EUR/USD", .literal 108 2), ("USD/CNY", .literal 7 0)] := by decide +kernel
  obtain ⟨bases, talk, -, -, htalk, hend⟩ := (rates_by_base f).2 pairs hpairs (.begin site .epoch)
  refine ⟨hpairs, ?_, by decide +kernel, hfetched⟩
  rcases hend with ⟨e, -, hresult⟩ | ⟨hall, rates, hresult, hrates⟩
  · rw [show fetched.1 = .error e from hresult] at hfetched
    cases hfetched
  · -- the one table that has no rate for its pair is that of the dollar
    have hrated : rates = [("EUR/USD", .literal 108 2), ("USD/CNY", .literal 7 0)] := by
      rw [show fetched.1 = .ok rates from hresult] at hfetched
      exact Option.some.inj hfetched
    have hpair : RatePair.of "usd" "eur" (.literal 92 2) ∈ pairs := by simp [pairs]
    obtain ⟨document, hdocument, hlookup⟩ := hrates.lookup_eq _ hpair
    have hnone : rates.lookup (RatePair.of "usd" "eur" (.literal 92 2)).key = none := by
      rw [hrated]
      decide +kernel
    exact ⟨bases, talk, rates, htalk, hall, hresult, hrates, document, hdocument,
      hlookup.symm.trans hnone⟩

end FiatRates

end HourlySnapshots
