import HourlySnapshots.Proofs.Collection.ConfiguredRates
import HourlySnapshots.Proofs.Scheduler.StoreHistory

/-!
# Balances and their prices

An unknown price, an error of an oracle and a value out of range leave the value of a balance empty.
What costs a balance is a price below zero: an oracle that is asked first may not give one, but the
table that the settings make of a text may. The check before storing drops the balance with its
value.
-/

namespace HourlySnapshots

/-! ## Signs -/

namespace Decimal

variable {d : Decimal}

theorem isNegative_iff : d.isNegative = true ↔ d.negative = true ∧ d.isZero = false := by
  unfold isNegative coefficient isZero
  cases d.negative <;> simp
  omega

theorem isPositive_iff : d.isPositive = true ↔ d.negative = false ∧ d.isZero = false := by
  unfold isPositive coefficient isZero
  cases d.negative <;> simp
  omega

theorem isNegative_of_isPositive (h : d.isPositive = true) : d.isNegative = false := by
  by_contra hnegative
  have hsign := (isNegative_iff.mp (by simpa using hnegative)).1
  rw [(isPositive_iff.mp h).1] at hsign
  cases hsign

theorem isPositive_of_isNegative_eq_false (h : d.isNegative = false) (hzero : d.isZero = false) :
    d.isPositive = true := by
  refine isPositive_iff.mpr ⟨?_, hzero⟩
  by_contra hsign
  have hnegative := isNegative_iff.mpr ⟨by simpa using hsign, hzero⟩
  rw [h] at hnegative
  cases hnegative

/-- A product with a positive amount has the sign of the other factor, unless it is rounded away. -/
theorem isNegative_mul? {a b v : Decimal} (ha : a.isPositive = true) (h : a.mul? b = some v) :
    v.isNegative = true ↔ b.isNegative = true ∧ v.isZero = false := by
  have hsign := (isPositive_iff.mp ha).1
  simp only [mul?] at h
  split at h
  · obtain rfl := Option.some.inj h
    simp [isNegative_iff, isZero, zero]
  · next hfactors =>
    have hzero : b.isZero = false := by
      unfold isZero
      simp only [not_or, Nat.mul_eq_zero] at hfactors
      simpa using hfactors.1.2
    obtain ⟨⟨n, s⟩, -, hv⟩ := Option.bind_eq_some_iff.mp h
    unfold ofSigned? at hv
    split at hv
    · obtain rfl := Option.some.inj hv
      -- a product that is not zero keeps its sign, short or not
      have hsigned : (n == 0) = false →
          (a.negative != b.negative && !(a.isShort && b.isShort && n == 0)) = b.negative := by
        intro hn
        simp [hn, hsign]
      simp only [isNegative_iff, hzero, and_true]
      exact and_congr_left fun hn => by rw [hsigned hn]
    · cases hv

end Decimal

/-! ## Tables -/

namespace PriceTable

variable {symbol : String} {price : Decimal}

/-- A table comes to hold nothing but prices that are put into it, under the normal names. -/
theorem exists_of_mem_foldl {prices : List (String × Decimal)} {t : PriceTable} {name : String}
    (h : (name, price) ∈
      (prices.foldl (fun t (symbol, price) => t.insert symbol price) t).entries) :
    (name, price) ∈ t.entries ∨ ∃ given, (given, price) ∈ prices ∧ normalSymbol given = name := by
  induction prices generalizing t with
  | nil => exact .inl h
  | cons entry rest ih =>
    rcases ih h with hfirst | ⟨given, hgiven, hname⟩
    · rcases List.mem_append.mp hfirst with hold | hnew
      · exact .inl (List.mem_filter.mp hold).1
      · obtain ⟨rfl, rfl⟩ := Prod.mk.inj (List.mem_singleton.mp hnew)
        exact .inr ⟨entry.1, List.mem_cons_self, rfl⟩
    · exact .inr ⟨given, List.mem_cons_of_mem _ hgiven, hname⟩

theorem exists_of_price?_ofList {prices : List (String × Decimal)}
    (h : (ofList prices).price? symbol = some price) :
    ∃ given, (given, price) ∈ prices ∧ normalSymbol given = normalSymbol symbol := by
  obtain ⟨before, after, hentries, -⟩ := List.lookup_eq_some_iff.mp h
  have hmem : (normalSymbol symbol, price) ∈ (ofList prices).entries := by
    rw [hentries]
    exact List.mem_append_right _ List.mem_cons_self
  rcases exists_of_mem_foldl hmem with hnone | hgiven
  · cases hnone
  · exact hgiven

/-- Only a price that was given can be below zero. -/
theorem exists_of_negative_price? {prices : List (String × Decimal)}
    (h : (withDefaults prices).price? symbol = some price) (hnegative : price.isNegative = true) :
    ∃ given, (given, price) ∈ prices ∧ normalSymbol given = normalSymbol symbol := by
  obtain ⟨given, hmem, hname⟩ := exists_of_price?_ofList h
  rcases List.mem_append.mp hmem with hdefault | hgiven
  · have hpositive : ∀ entry ∈ defaults, entry.2.isNegative = false := by decide
    have hfalse : price.isNegative = false := hpositive _ hdefault
    rw [hfalse] at hnegative
    cases hnegative
  · exact ⟨given, hgiven, hname⟩

end PriceTable

/-! ## Oracles -/

section

variable {σ : Type} {text : List Char} {primary : Option (PriceOracle σ)} {symbol : String}
  {amount : Decimal} {x : σ}

/-- The table that the settings make of a text. -/
def PriceTable.ofText (text : List Char) : PriceTable := .withDefaults (Settings.readTokenPrices text)

/-- That table as an oracle, alone or asked after another one. -/
def PriceOracle.ofText (text : List Char) (primary : Option (PriceOracle σ)) : PriceOracle σ :=
  primary.elim (.ofTable (.ofText text)) fun first => .fallback first (.ofTable (.ofText text))

/-- What the oracle that is asked first, if there is one, has not answered with a price. -/
def PriceOracle.Unpriced (primary : Option (PriceOracle σ)) (symbol : String) (x : σ) : Prop :=
  ∀ first ∈ primary, ∀ price, (first symbol x).1 = .ok (some price) → price.isPositive = false

theorem PriceOracle.answer_ofText (text : List Char) (primary : Option (PriceOracle σ))
    (symbol : String) (x : σ) :
    (∃ price, price.isPositive = true ∧ (ofText text primary symbol x).1 = .ok (some price) ∧
      ¬ Unpriced primary symbol x) ∨
    (ofText text primary symbol x).1 = .ok ((PriceTable.ofText text).price? symbol) ∧
      Unpriced primary symbol x := by
  cases primary with
  | none => exact .inr ⟨rfl, fun _ h => by cases h⟩
  | some first =>
    have hunpriced : Unpriced (some first) symbol x ↔
        ∀ price, (first symbol x).1 = .ok (some price) → price.isPositive = false := by
      simp [Unpriced]
    rw [hunpriced]
    unfold ofText
    simp only [Option.elim_some, fallback]
    rcases first symbol x with ⟨e | (_ | price), y⟩
    · exact .inr ⟨rfl, fun _ h => by cases h⟩
    · exact .inr ⟨rfl, fun _ h => by cases h⟩
    · simp only
      split
      · next hpositive =>
        refine .inl ⟨price, hpositive, rfl, fun h => ?_⟩
        rw [h price rfl] at hpositive
        cases hpositive
      · next hpositive =>
        refine .inr ⟨rfl, fun other hother => ?_⟩
        obtain rfl := Option.some.inj (Except.ok.inj hother)
        simpa using hpositive

theorem valueInUsd_fst (oracle : PriceOracle σ) (symbol : String) (amount : Decimal) (x : σ) :
    (valueInUsd oracle symbol amount x).1 =
      if amount.isZero then some .zero
      else if isStablecoin symbol then some amount
      else match (oracle symbol x).1 with
        | .ok (some price) => amount.mul? price
        | _ => none := by
  unfold valueInUsd
  split
  · rfl
  · split
    · rfl
    · rcases oracle symbol x with ⟨e | (_ | price), y⟩ <;> rfl

/-- A price below zero is known of a symbol, and it is what an amount of the symbol is priced at. -/
structure PricedBelowZero (text : List Char) (primary : Option (PriceOracle σ)) (symbol : String)
    (amount : Decimal) (x : σ) : Prop where
  nonzero : amount.isZero = false
  unstable : isStablecoin symbol = false
  unpriced : PriceOracle.Unpriced primary symbol x
  below : ∃ price value, (PriceTable.ofText text).price? symbol = some price ∧
    price.isNegative = true ∧ amount.mul? price = some value ∧ value.isZero = false

/-- The price is one that the text gives. -/
theorem PricedBelowZero.given (h : PricedBelowZero text primary symbol amount x) :
    ∃ name price, (name, price) ∈ Settings.readTokenPrices text ∧
      normalSymbol name = normalSymbol symbol ∧ price.isNegative = true := by
  obtain ⟨price, value, hprice, hnegative, -⟩ := h.below
  obtain ⟨name, hgiven, hname⟩ := PriceTable.exists_of_negative_price? hprice hnegative
  exact ⟨name, price, hgiven, hname, hnegative⟩

/-- An amount is worth less than nothing just when it is priced below zero. -/
theorem negative_valueInUsd_iff (hamount : amount.isNegative = false) :
    (∃ usd ∈ (valueInUsd (.ofText text primary) symbol amount x).1, usd.isNegative = true) ↔
      PricedBelowZero text primary symbol amount x := by
  rw [valueInUsd_fst]
  -- a value that is known and not negative, or unknown, is not below zero
  have hfalse {value : Option Decimal} (h : ∀ usd ∈ value, usd.isNegative = false) :
      ¬ ∃ usd ∈ value, usd.isNegative = true := by
    rintro ⟨usd, husd, hnegative⟩
    rw [h usd husd] at hnegative
    cases hnegative
  cases hzero : amount.isZero with
  | true =>
    refine iff_of_false (hfalse fun usd husd => ?_) fun h => ?_
    · obtain rfl := Option.some.inj husd
      rfl
    · exact absurd h.nonzero (by simp [hzero])
  | false =>
    have hpositive := Decimal.isPositive_of_isNegative_eq_false hamount hzero
    cases hstable : isStablecoin symbol with
    | true =>
      refine iff_of_false (hfalse fun usd husd => ?_) fun h => ?_
      · obtain rfl := Option.some.inj husd
        exact hamount
      · exact absurd h.unstable (by simp [hstable])
    | false =>
      rcases PriceOracle.answer_ofText text primary symbol x with
        ⟨price, hprice, hanswer, hpriced⟩ | ⟨hanswer, hunpriced⟩
      · refine iff_of_false (hfalse fun usd husd => ?_) fun h => hpriced h.unpriced
        rw [hanswer] at husd
        by_contra hnegative
        have hbelow := (Decimal.isNegative_mul? hpositive husd).mp (by simpa using hnegative)
        rw [Decimal.isNegative_of_isPositive hprice] at hbelow
        exact absurd hbelow.1 (by decide)
      · rw [hanswer]
        constructor
        · rintro ⟨usd, husd, hnegative⟩
          cases hprice : (PriceTable.ofText text).price? symbol with
          | none =>
            rw [hprice] at husd
            cases husd
          | some price =>
            rw [hprice] at husd
            obtain ⟨hbelow, hvalue⟩ := (Decimal.isNegative_mul? hpositive husd).mp hnegative
            exact ⟨hzero, hstable, hunpriced, price, usd, hprice, hbelow, husd, hvalue⟩
        · intro h
          obtain ⟨price, value, hprice, hbelow, hvalue, hkept⟩ := h.below
          rw [hprice]
          exact ⟨value, hvalue, (Decimal.isNegative_mul? hpositive hvalue).mpr ⟨hbelow, hkept⟩⟩

end

/-! ## Points -/

/-- A balance that is to be kept: the names are there, and no amount of it is below zero. -/
structure CustodyAsset.Owned (wallet : CustodyWallet) (asset : CustodyAsset) (amount : Decimal) :
    Prop where
  wallet : Text.allBlank wallet.walletId = false
  symbol : Text.allBlank asset.coinSymbol = false
  effective : asset.effectiveBalance = some amount
  nonNegative : amount.isNegative = false
  custody : ∀ balance ∈ asset.amount, balance.isNegative = false

namespace WalletAssetPoint

variable {σ : Type} {prices : PriceOracle σ} {wallet : CustodyWallet} {asset : CustodyAsset}
  {amount : Decimal} {time : Instant} {x : σ}

theorem usdValue_ofAsset (h : asset.Owned wallet amount) :
    (ofAsset prices wallet time asset x).1.usdValue =
      (valueInUsd prices (normalSymbol asset.coinSymbol) amount x).1 := by
  simp only [ofAsset, h.effective]

theorem effectiveBalance_ofAsset :
    (ofAsset prices wallet time asset x).1.effectiveBalance = asset.effectiveBalance := by
  simp only [ofAsset]

/-- Nothing can be wrong with the point of such a balance but its value. -/
theorem validate_ofAsset (h : asset.Owned wallet amount) :
    (ofAsset prices wallet time asset x).1.validate =
      (valueInUsd prices (normalSymbol asset.coinSymbol) amount x).1.bind
        (nonNegative "usd_value") := by
  have hsymbol : (normalSymbol asset.coinSymbol).isEmpty = false := by
    have hname := Text.upper_ne_nil (Text.trim_ne_nil h.symbol)
    simpa [normalSymbol] using hname
  have hcustody : asset.amount.bind (nonNegative "custody_amount") = none :=
    Option.bind_eq_none_iff.mpr fun balance hbalance =>
      nonNegative_eq_none.mpr (h.custody balance hbalance)
  have hamount : nonNegative "amount" amount = none := nonNegative_eq_none.mpr h.nonNegative
  unfold validate
  simp only [ofAsset, h.wallet, hsymbol, h.effective, hamount, hcustody, Bool.false_eq_true,
    if_false, Option.none_or]

/-- The value is below zero, and the point dropped, just when the balance is priced below zero. -/
theorem priced_ofText {text : List Char} {primary : Option (PriceOracle σ)}
    (h : asset.Owned wallet amount) :
    ((∃ usd ∈ (ofAsset (.ofText text primary) wallet time asset x).1.usdValue,
        usd.isNegative = true) ↔
      PricedBelowZero text primary (normalSymbol asset.coinSymbol) amount x) ∧
    ((ofAsset (.ofText text primary) wallet time asset x).1.validate = none ↔
      ¬ PricedBelowZero text primary (normalSymbol asset.coinSymbol) amount x) := by
  rw [validate_ofAsset h, usdValue_ofAsset h, ← negative_valueInUsd_iff h.nonNegative,
    Option.bind_eq_none_iff]
  exact ⟨Iff.rfl, by simp [nonNegative_eq_none]⟩

/-- A valid point makes a record. -/
theorem exists_toRecord? {p : WalletAssetPoint} (h : p.validate = none) (sourceTag : String)
    (stamp : Stamp) : ∃ r, p.toRecord? sourceTag stamp = some r := by
  cases hbalance : p.effectiveBalance with
  | some balance => exact ⟨_, by rw [toRecord?, hbalance, Option.map_some]⟩
  | none =>
    unfold validate at h
    rw [hbalance] at h
    split at h
    · cases h
    · split at h <;> cases h

/-- Every asset makes a point, valued in one state or another. -/
theorem exists_mem_ofAssets {assets : List CustodyAsset} (h : asset ∈ assets) (x : σ) :
    ∃ y, (ofAsset prices wallet time asset y).1 ∈
      (ofAssets prices wallet time assets x).1 := by
  induction assets generalizing x with
  | nil => cases h
  | cons first rest ih =>
    rcases List.mem_cons.mp h with rfl | hrest
    · exact ⟨x, List.mem_cons_self⟩
    · obtain ⟨y, hy⟩ := ih hrest (ofAsset prices wallet time first x).2
      exact ⟨y, List.mem_cons_of_mem _ hy⟩

theorem value_of_toRecord? {p : WalletAssetPoint} {sourceTag : String} {stamp : Stamp}
    {r : SnapshotRecord} (h : p.toRecord? sourceTag stamp = some r) :
    p.effectiveBalance = some r.value := by
  obtain ⟨balance, hbalance, rfl⟩ := Option.map_eq_some_iff.mp h
  exact hbalance

end WalletAssetPoint

/-! ## Runs -/

namespace WalletCollector

variable {σ : Type} {get : σ → Stores} {set : Stores → σ → σ} {c : WalletCollector σ}
  {time : Instant} {x : σ}

/-- The collector writes to the stores of a larger state, and its services leave them alone. -/
structure Over (get : σ → Stores) (set : Stores → σ → σ) (c : WalletCollector σ) : Prop where
  storage : c.storage = Stores.storage get set
  list : ∀ x, get (c.api.list x).2 = get x
  assets : ∀ wallet x, get (c.api.assets wallet x).2 = get x
  prices : ∀ symbol x, get (c.prices symbol x).2 = get x

theorem Over.collect (hc : c.Over get set) (time : Instant) (x : σ) :
    get (c.collect time x).2 = get x := by
  have hkept : get x = get (c.collect time x).2 :=
    collect_keeps (R := fun x y => get x = get y) (fun _ => rfl) Eq.trans
      (fun x => (hc.list x).symm) (fun wallet x => (hc.assets wallet x).symm)
      (fun symbol x => (hc.prices symbol x).symm) time x
  exact hkept.symm

/-- Saving to an open store writes the records of the points as one batch. -/
theorem save_open (hget : ∀ stores x, get (set stores x) = stores)
    (hstorage : c.storage = Stores.storage get set) (hopen : (get x).store.failWrites = false)
    (result : CollectionResult WalletAssetPoint) :
    ∃ stamp, (c.save result x).1 = .ok
          (result.items.filterMap (WalletAssetPoint.toRecord? c.sourceTag stamp)).length ∧
      (get (c.save result x).2).store.records = (get x).store.records ++
        result.items.filterMap (WalletAssetPoint.toRecord? c.sourceTag stamp) := by
  refine ⟨(get x).stamp.1, ?_⟩
  have hopen' : (get (set (get x).stamp.2 x)).store.failWrites = false := by
    rw [hget]
    exact hopen
  obtain ⟨hrows, hrecords⟩ := saveRecords_open hget hopen'
    (result.items.filterMap (WalletAssetPoint.toRecord? c.sourceTag (get x).stamp.1))
  rw [hget] at hrecords
  unfold save
  rw [hstorage]
  exact ⟨hrows, hrecords⟩

/-- A run over an open store appends a record of every valid point, and of no other. -/
theorem Over.run (hget : ∀ stores x, get (set stores x) = stores) (hc : c.Over get set)
    (hopen : (get x).store.failWrites = false) {items : List WalletAssetPoint}
    (hitems : (c.collect time x).1.outcome = .ok items) :
    ∃ stamp, (get (c.toCollector.run time x).2).store.records = (get x).store.records ++
        (items.filter fun p => p.validate.isNone).filterMap
          (WalletAssetPoint.toRecord? c.sourceTag stamp) ∧
      ((∃ p ∈ items, p.validate = none) → (c.toCollector.run time x).1 = true) := by
  have hcollected := hc.collect time x
  have hgathered : (c.toCollector.gathered time x).items =
      items.filter fun p => p.validate.isNone := by
    have hall : (c.toCollector.collect time x).1.items = items := by
      show (c.collect time x).1.items = items
      rw [CollectionResult.items, hitems]
    rw [Collector.items_gathered, hall]
    rfl
  have hmem {p : WalletAssetPoint} (hp : p ∈ items) (hvalid : p.validate = none) :
      p ∈ (c.toCollector.gathered time x).items :=
    hgathered ▸ List.mem_filter.mpr ⟨hp, by simp [hvalid]⟩
  rw [← hgathered]
  obtain ⟨stamp, hrows, hrecords⟩ := save_open hget hc.storage (hcollected ▸ hopen)
    (c.toCollector.gathered time x)
  rw [hcollected] at hrecords
  refine ⟨stamp, ?_⟩
  -- without a valid point, the state is that after collecting
  have hnothing (h : (c.toCollector.gathered time x).items = []) :
      (get (c.collect time x).2).store.records = (get x).store.records ++
          (c.toCollector.gathered time x).items.filterMap
            (WalletAssetPoint.toRecord? c.sourceTag stamp) ∧
        ¬ ∃ p ∈ items, p.validate = none := by
    refine ⟨by rw [hcollected, h]; simp, ?_⟩
    rintro ⟨p, hp, hvalid⟩
    have hp' := hmem hp hvalid
    rw [h] at hp'
    cases hp'
  have hran := c.toCollector.ran time x
  generalize c.toCollector.run time x = answer at hran ⊢
  cases hran with
  | failed h => cases hitems.symm.trans h
  | nothing h =>
    obtain rfl : items = [] := Except.ok.inj (hitems.symm.trans h)
    obtain ⟨hkept, hnone⟩ := hnothing hgathered
    exact ⟨hkept, fun hsome => absurd hsome hnone⟩
  | invalid _ h =>
    obtain ⟨hkept, hnone⟩ := hnothing h
    exact ⟨hkept, fun hsome => absurd hsome hnone⟩
  | saved _ hsaved =>
    have hsaved' : c.save (c.toCollector.gathered time x) (c.collect time x).2 = _ := hsaved
    rw [hsaved'] at hrows hrecords
    refine ⟨hrecords, ?_⟩
    rintro ⟨p, hp, hvalid⟩
    obtain ⟨r, hr⟩ := WalletAssetPoint.exists_toRecord? hvalid c.sourceTag stamp
    obtain rfl := Except.ok.inj hrows
    exact decide_eq_true
      (List.length_pos_of_mem (List.mem_filterMap.mpr ⟨p, hmem hp hvalid, hr⟩))
  | unsaved _ hsaved =>
    have hsaved' : c.save (c.toCollector.gathered time x) (c.collect time x).2 = _ := hsaved
    rw [hsaved'] at hrows
    cases hrows

/--
Asking the wallets in order from a state, the service answers the assets of one of them, and is in
another state then.
-/
inductive Answers (c : WalletCollector σ) (time : Instant) :
    List CustodyWallet → σ → CustodyWallet → List CustodyAsset → σ → Prop where
  | here {wallet : CustodyWallet} {rest : List CustodyWallet} {x y : σ} {assets : List CustodyAsset}
      (h : c.api.assets wallet.walletId x = (.ok assets, y)) :
      Answers c time (wallet :: rest) x wallet assets y
  | later {wallet other : CustodyWallet} {rest : List CustodyWallet} {x y z : σ}
      {assets before : List CustodyAsset} (h : c.api.assets other.walletId x = (.ok before, y))
      (hlater : Answers c time rest (WalletAssetPoint.ofAssets c.prices other time before y).2
        wallet assets z) :
      Answers c time (other :: rest) x wallet assets z
  | skipped {wallet other : CustodyWallet} {rest : List CustodyWallet} {x y z : σ}
      {assets : List CustodyAsset} {e : ServiceError}
      (h : c.api.assets other.walletId x = (.error e, y))
      (hlater : Answers c time rest y wallet assets z) :
      Answers c time (other :: rest) x wallet assets z

/-- What a harvest holds, if it is brought in at all. -/
theorem Answers.mem_points {wallets : List CustodyWallet} {wallet : CustodyWallet}
    {assets : List CustodyAsset} {y : σ} (h : c.Answers time wallets x wallet assets y)
    {harvest : Harvest} (hharvest : (c.askWallets time wallets x).1 = .ok harvest) :
    ∀ p ∈ (WalletAssetPoint.ofAssets c.prices wallet time assets y).1, p ∈ harvest.points := by
  induction h generalizing harvest with
  | here h =>
    unfold askWallets at hharvest
    rw [h] at hharvest
    obtain ⟨rest, -, rfl⟩ := exists_of_map_eq_ok hharvest
    exact fun p hp => List.mem_append_left _ hp
  | later h _ ih =>
    unfold askWallets at hharvest
    rw [h] at hharvest
    obtain ⟨rest, hrest, rfl⟩ := exists_of_map_eq_ok hharvest
    exact fun p hp => List.mem_append_right _ (ih hrest p hp)
  | skipped h _ ih =>
    unfold askWallets at hharvest
    rw [h] at hharvest
    simp only at hharvest
    split at hharvest
    · cases hharvest
    · obtain ⟨rest, hrest, rfl⟩ := exists_of_map_eq_ok hharvest
      have hpoints := ih hrest
      exact hpoints

theorem Answers.mem_items {wallets : List CustodyWallet} {start y : σ}
    (hknown : c.knownWallets x = (.ok wallets, start)) {wallet : CustodyWallet}
    {assets : List CustodyAsset} (h : c.Answers time wallets start wallet assets y)
    {items : List WalletAssetPoint} (hitems : (c.collect time x).1.outcome = .ok items) :
    ∀ p ∈ (WalletAssetPoint.ofAssets c.prices wallet time assets y).1, p ∈ items := by
  unfold collect at hitems
  rw [hknown] at hitems
  obtain ⟨harvest, hharvest, hsettled⟩ := exists_of_bind_eq_ok hitems
  exact points_of_settle hsettled ▸ h.mem_points hharvest

/--
A balance that is to be kept, and a table that the settings make of a text, alone or behind another
oracle. The balance is worth less than nothing, and its point is dropped, just when it is priced
below zero, which only a price that the text gives can bring about. If it is not, and the collection
succeeds, a run over an open store keeps a record of the balance.
-/
theorem kept_unless_priced_below_zero (hget : ∀ stores x, get (set stores x) = stores)
    (hc : c.Over get set) {text : List Char} {primary : Option (PriceOracle σ)}
    (hprices : c.prices = .ofText text primary) {wallet : CustodyWallet} {asset : CustodyAsset}
    {amount : Decimal} (howned : asset.Owned wallet amount) (time : Instant) :
    let point (y : σ) := (WalletAssetPoint.ofAsset c.prices wallet time asset y).1
    let below (y : σ) := PricedBelowZero text primary (normalSymbol asset.coinSymbol) amount y
    (∀ y, ((∃ usd ∈ (point y).usdValue, usd.isNegative = true) ↔ below y) ∧
      ((point y).validate = none ↔ ¬ below y) ∧
      (below y → ∃ name price, (name, price) ∈ Settings.readTokenPrices text ∧
        normalSymbol name = normalSymbol (normalSymbol asset.coinSymbol) ∧
        price.isNegative = true)) ∧
    ∀ (x start z : σ) (wallets : List CustodyWallet) (assets : List CustodyAsset)
      (items : List WalletAssetPoint), (get x).store.failWrites = false →
      c.knownWallets x = (.ok wallets, start) → c.Answers time wallets start wallet assets z →
      asset ∈ assets → (c.collect time x).1.outcome = .ok items →
      let run := c.toCollector.run time x
      ∃ y stamp, point y ∈ items ∧
        (get run.2).store.records = (get x).store.records ++
          (items.filter fun p => p.validate.isNone).filterMap
            (WalletAssetPoint.toRecord? c.sourceTag stamp) ∧
        (¬ below y → run.1 = true ∧ ∃ r, (point y).toRecord? c.sourceTag stamp = some r ∧
          r ∈ (get run.2).store.records) := by
  intro point below
  have hpoint (y : σ) : point y =
      (WalletAssetPoint.ofAsset (.ofText text primary) wallet time asset y).1 := by
    rw [← hprices]
  have hpriced (y : σ) : ((∃ usd ∈ (point y).usdValue, usd.isNegative = true) ↔ below y) ∧
      ((point y).validate = none ↔ ¬ below y) := by
    rw [hpoint]
    exact WalletAssetPoint.priced_ofText howned
  refine ⟨fun y => ⟨(hpriced y).1, (hpriced y).2, fun h => h.given⟩, ?_⟩
  intro x start z wallets assets items hopen hknown hanswer hasset hitems run
  obtain ⟨y, hy⟩ := WalletAssetPoint.exists_mem_ofAssets hasset z
  have hmem : point y ∈ items := hanswer.mem_items hknown hitems _ hy
  obtain ⟨stamp, hrecords, hok⟩ := hc.run hget hopen hitems
  refine ⟨y, stamp, hmem, hrecords, fun hnot => ?_⟩
  have hvalid := (hpriced y).2.mpr hnot
  obtain ⟨r, hr⟩ := WalletAssetPoint.exists_toRecord? hvalid c.sourceTag stamp
  have hkept : point y ∈ items.filter fun p => p.validate.isNone :=
    List.mem_filter.mpr ⟨hmem, by simp [hvalid]⟩
  refine ⟨hok ⟨_, hmem, hvalid⟩, r, hr, ?_⟩
  rw [hrecords]
  exact List.mem_append_right _ (List.mem_filterMap.mpr ⟨_, hkept, hr⟩)

/-- Of two balances in one wallet, that with a price is kept and that priced below zero is lost. -/
theorem kept_beside_lost :
    let c : WalletCollector World :=
      { Part.walletCollector 0 "wallet" [] with prices := .ofText "FOO=-1,BAR=2".toList none }
    let wallet : CustodyWallet := ⟨"w1", none⟩
    let bar : CustodyAsset := ⟨"BAR", none, some (.literal 3 0), none, none⟩
    let foo : CustodyAsset := ⟨"FOO", none, some (.literal 5 0), none, none⟩
    let start : World :=
      { stores := .single
        replies := [.custody (.ok [wallet]) [("w1", .ok [foo, bar])] (.table .empty)]
        log := [], plan := .everything, builds := 0 }
    let run := c.toCollector.run .epoch start
    run.1 = true ∧ (∃ r ∈ run.2.stores.store.records, r.value = .literal 3 0) ∧
      run.2.stores.store.records.map SnapshotRecord.subjectKey = ["w1:BAR"] := by
  intro c wallet bar foo start
  have hget (stores : Stores) (w : World) : World.stores (World.setStores stores w) = stores := rfl
  have hc : c.Over World.stores World.setStores :=
    ⟨rfl, fun _ => rfl, fun _ _ => rfl, fun _ _ => rfl⟩
  have howned : bar.Owned wallet (.literal 3 0) :=
    ⟨by decide, by decide, rfl, by decide, by decide⟩
  have hprices : c.prices = .ofText "FOO=-1,BAR=2".toList none := rfl
  obtain ⟨-, hrun⟩ := kept_unless_priced_below_zero hget hc hprices howned .epoch
  have hprice : (PriceTable.ofText "FOO=-1,BAR=2".toList).price? (normalSymbol "BAR") =
      some (.literal 2 0) := by decide +kernel
  have hbar (y : World) :
      ¬ PricedBelowZero "FOO=-1,BAR=2".toList none (normalSymbol "BAR") (.literal 3 0) y := by
    intro h
    obtain ⟨price, -, hgiven, hnegative, -⟩ := h.below
    obtain rfl := Option.some.inj (hprice.symm.trans hgiven)
    exact absurd hnegative (by decide)
  have hsuccess : (c.collect .epoch start).1.success = true := by decide +kernel
  obtain ⟨items, hitems⟩ : ∃ items, (c.collect .epoch start).1.outcome = .ok items := by
    cases houtcome : (c.collect .epoch start).1.outcome with
    | ok items => exact ⟨items, rfl⟩
    | error e => simp [CollectionResult.success, houtcome] at hsuccess
  obtain ⟨y, stamp, -, -, hkept⟩ := hrun start start start [wallet] [foo, bar] items rfl rfl
    (.here rfl) (by simp) hitems
  obtain ⟨hok, r, hr, hstored⟩ := hkept (hbar y)
  have hvalue := WalletAssetPoint.value_of_toRecord? hr
  rw [WalletAssetPoint.effectiveBalance_ofAsset, howned.effective] at hvalue
  exact ⟨hok, ⟨r, hstored, (Option.some.inj hvalue).symm⟩, by decide +kernel⟩

/-- A price below zero costs a balance: the store is open, but nothing is stored. -/
theorem lost_to_negative_price :
    let c : WalletCollector World :=
      { Part.walletCollector 0 "wallet" [] with prices := .ofText "FOO=-1".toList none }
    let wallet : CustodyWallet := ⟨"w1", none⟩
    let foo : CustodyAsset := ⟨"FOO", none, some (.literal 5 0), none, none⟩
    let start : World :=
      { stores := .single
        replies := [.custody (.ok [wallet]) [("w1", .ok [foo])] (.table .empty)]
        log := [], plan := .everything, builds := 0 }
    let run := c.toCollector.run .epoch start
    foo.Owned wallet (.literal 5 0) ∧ start.stores.store.failWrites = false ∧
      (c.collect .epoch start).1.items.map WalletAssetPoint.usdValue = [some (.literal (-5) 0)] ∧
      (c.collect .epoch start).1.items.map WalletAssetPoint.validate =
        [some (.negative "usd_value" (.literal (-5) 0))] ∧
      run.1 = false ∧ run.2.stores.store.records = [] := by
  intro c wallet foo start run
  have howned : foo.Owned wallet (.literal 5 0) :=
    ⟨by decide, by decide, rfl, by decide, by decide⟩
  exact ⟨howned, rfl, by decide +kernel, by decide +kernel, by decide +kernel, by decide +kernel⟩

end WalletCollector

end HourlySnapshots
