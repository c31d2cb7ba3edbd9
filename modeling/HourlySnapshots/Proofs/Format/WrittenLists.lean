import HourlySnapshots.Proofs.Format.Decimals
import HourlySnapshots.Proofs.Format.Escapes
import HourlySnapshots.Proofs.Format.Trimming
import HourlySnapshots.Proofs.Services.RateMaps
import HourlySnapshots.Settings

/-!
# Lists of the settings

Lists are written with commas and read item by item, so that an item that makes no sense costs no
other one, and two lists that are put together are read as the one and then the other. Of the prices
of a symbol the last one counts. Names, prices and pairs that are written as the settings have them
are read as they were, with all the places of their amounts.
-/

namespace HourlySnapshots

namespace Settings

/-! ## Items -/

theorem items_append (a b : List Char) : items (a ++ ',' :: b) = items a ++ items b :=
  List.splitOnP_append_cons a b (by simp)

/-- Texts in a list, with commas between them. -/
def writeItems (texts : List (List Char)) : List Char := [','].intercalate texts

/-- What is written item by item is split into the same items again. -/
theorem items_writeItems {α : Type} {writeItem : α → List Char} {entries : List α}
    (hne : entries ≠ []) (hcomma : ∀ entry ∈ entries, ',' ∉ writeItem entry) :
    items (writeItems (entries.map writeItem)) = entries.map writeItem :=
  List.splitOn_intercalate ',' (List.forall_mem_map.mpr hcomma) (by simpa using hne)

/-- What is written item by item is read item by item. -/
theorem filterMap_items_writeItems {α β : Type} {readItem : List Char → Option β}
    {writeItem : α → List Char} {kept : α → β} {entries : List α}
    (hread : ∀ entry ∈ entries, readItem (writeItem entry) = some (kept entry))
    (hcomma : ∀ entry ∈ entries, ',' ∉ writeItem entry) (hblank : readItem [] = none) :
    (items (writeItems (entries.map writeItem))).filterMap readItem = entries.map kept := by
  by_cases hnil : entries = []
  · subst hnil
    simp [writeItems, items, hblank, List.intercalate]
  · rw [items_writeItems hnil hcomma, List.filterMap_map]
    exact (List.filterMap_congr hread).trans (congrFun List.filterMap_eq_map entries)

theorem splitOnce?_append {mark : Char} {before : List Char} (h : mark ∉ before)
    (after : List Char) : splitOnce? mark (before ++ mark :: after) = some (before, after) := by
  rw [splitOnce?, if_pos (by simp), Text.Percent.splitAtFirst_append h]

theorem trim_toText (d : Decimal) : Text.trim d.toText = d.toText :=
  Text.trim_eq_self fun _ hc => (Decimal.not_skipped_of_mem_toText hc).1

/-- A positive amount is read as what was written, with all its places. -/
theorem positive?_toText {d : Decimal} (h : d.isPositive = true) : positive? d.toText = some d := by
  have hcanonical : d.canonical = d := by
    rw [Decimal.canonical_eq_iff]
    rintro ⟨-, hzero⟩
    have hmagnitude : d.magnitude = 0 := by simpa [Decimal.isZero] using hzero
    simp [Decimal.isPositive, Decimal.coefficient, hmagnitude] at h
  rw [positive?, trim_toText, Decimal.read?_toText, hcanonical, Option.filter_some, if_pos h]

theorem comma_not_mem_toText (d : Decimal) : ',' ∉ d.toText :=
  fun h => (Decimal.not_skipped_of_mem_toText h).2 rfl

/-! ## Names -/

/-- A name that can be written in a list. -/
structure NameWritable (name : String) : Prop where
  ne_empty : name ≠ ""
  trimmed : Text.trimmed name = name
  no_comma : ',' ∉ name.toList

/-- Names that are written in a list are read as they were. -/
theorem readList_writeItems {names : List String} (h : ∀ name ∈ names, NameWritable name) :
    readList (writeItems (names.map String.toList)) = names := by
  by_cases hnil : names = []
  · subst hnil
    rfl
  · have hitems : items (writeItems (names.map String.toList)) = names.map String.toList :=
      items_writeItems hnil fun name hname => (h name hname).no_comma
    have htrim : (names.map String.toList).map Text.trim = names.map String.toList := by
      rw [List.map_map]
      apply List.map_congr_left
      intro name hname
      simpa [Text.trimmed] using congrArg String.toList (h name hname).trimmed
    have hkept : (names.map String.toList).filter (fun item => !item.isEmpty) =
        names.map String.toList := by
      apply List.filter_eq_self.mpr
      intro item hitem
      obtain ⟨name, hname, rfl⟩ := List.mem_map.mp hitem
      simpa using (h name hname).ne_empty
    rw [readList, hitems, htrim, hkept, List.map_map]
    exact (List.map_congr_left fun name _ => String.ofList_toList).trans (List.map_id names)

/-! ## Tables -/

/-- A table of prices holds each symbol once, with the last price that is given for it. -/
theorem readTokenPrices_eq (text : List Char) :
    readTokenPrices text = RateMap.insertAll [] ((items text).filterMap tokenPrice?) :=
  rfl

theorem lookup_readTokenPrices_append (a b : List Char) (symbol : String) :
    (readTokenPrices (a ++ ',' :: b)).lookup symbol =
      ((readTokenPrices b).lookup symbol).or ((readTokenPrices a).lookup symbol) := by
  simp only [readTokenPrices_eq, items_append, List.filterMap_append, RateMap.insertAll_append,
    RateMap.lookup_insertAll, List.lookup_nil, Option.or_none]

/-- How a price is written in a list. -/
def tokenText (entry : String × Decimal) : List Char :=
  entry.1.toList ++ '=' :: entry.2.toText

/-- A symbol that can be written in a list. -/
structure SymbolWritable (symbol : String) : Prop where
  ne_empty : symbol ≠ ""
  normal : normalSymbol symbol = symbol
  plain : ∀ mark ∈ [',', '='], mark ∉ symbol.toList

/-- A price is read under its symbol as what was written. -/
theorem tokenPrice?_tokenText {entry : String × Decimal} (h : SymbolWritable entry.1) :
    tokenPrice? (tokenText entry) = some (entry.1, entry.2.canonical) := by
  have hsplit : splitOnce? '=' (tokenText entry) = some (entry.1.toList, entry.2.toText) :=
    splitOnce?_append (h.plain '=' (by simp)) entry.2.toText
  have hnormal : Text.upper (Text.trim entry.1.toList) = entry.1.toList := by
    simpa [normalSymbol] using congrArg String.toList h.normal
  have hsome : entry.1.toList.isEmpty = false := by
    simpa using h.ne_empty
  simp only [tokenPrice?, Option.bind_eq_bind, Option.bind_some, hsplit, trim_toText,
    Decimal.read?_toText, hnormal, hsome, Bool.false_eq_true, if_false, String.ofList_toList]

theorem comma_not_mem_tokenText {entry : String × Decimal} (h : SymbolWritable entry.1) :
    ',' ∉ tokenText entry := by
  simp [tokenText, h.plain ',', comma_not_mem_toText]

/-- Of the prices that are written for a symbol, the last one is found. -/
theorem lookup_readTokenPrices_writeItems {entries : List (String × Decimal)}
    (h : ∀ entry ∈ entries, SymbolWritable entry.1) (symbol : String) :
    (readTokenPrices (writeItems (entries.map tokenText))).lookup symbol =
      (entries.reverse.lookup symbol).map Decimal.canonical := by
  have hread : (items (writeItems (entries.map tokenText))).filterMap tokenPrice? =
      entries.map fun entry => (entry.1, entry.2.canonical) :=
    filterMap_items_writeItems (fun entry hentry => tokenPrice?_tokenText (h entry hentry))
      (fun entry hentry => comma_not_mem_tokenText (h entry hentry)) rfl
  rw [readTokenPrices_eq, hread, RateMap.lookup_insertAll, List.lookup_nil, Option.or_none,
    ← List.map_reverse]
  exact lookup_map_value (fun _ price => price.canonical) symbol entries.reverse

end Settings

/-! ## Names of pairs -/

namespace Text

/-- A name that is left as it is when it is trimmed and put in upper case is not all blank. -/
theorem not_blank_of_normal {name : List Char} (hne : name ≠ [])
    (h : upper (trim name) = name) : name.all isBlank = false := by
  refine Bool.eq_false_iff.mpr fun hblank => hne ?_
  rw [← h, trim_eq_nil hblank]
  rfl

end Text

namespace RatePair

/-- How a currency pair is written in a list. -/
def fiatText (p : RatePair) : List Char :=
  p.base.toList ++ '/' :: (p.quote.toList ++ '=' :: p.fallback.toText)

/-- How a coin is written in a list. -/
def coinText (p : RatePair) : List Char :=
  p.base.toList ++ ':' :: (p.sourceId.elim [] String.toList ++ '=' :: p.fallback.toText)

/-- A pair has normal names, which are there, and a positive fallback. -/
structure Normal (p : RatePair) : Prop where
  names : of p.base p.quote p.fallback = { p with sourceId := none }
  base_ne : p.base ≠ ""
  quote_ne : p.quote ≠ ""
  positive : p.fallback.isPositive = true

namespace Normal

variable {p : RatePair}

theorem trimStart_not_blank (h : p.Normal) :
    (Text.trimStart p.base.toList).all Text.isBlank = false := by
  rw [Text.trimStart, Text.all_dropWhile_isBlank]
  refine Text.not_blank_of_normal (by simpa using h.base_ne) ?_
  simpa [of] using congrArg (·.base.toList) h.names

theorem quote_not_blank (h : p.Normal) : p.quote.toList.all Text.isBlank = false := by
  refine Text.not_blank_of_normal (by simpa using h.quote_ne) ?_
  simpa [of] using congrArg (·.quote.toList) h.names

/-- The pair is the same when blanks at the start of its first name are taken away before. -/
theorem of_trimStart (h : p.Normal) :
    of (String.ofList (Text.trimStart p.base.toList)) p.quote p.fallback =
      { p with sourceId := none } := by
  simp only [← h.names, of, String.toList_ofList, Text.trim_trimStart]

end Normal

/-- A currency pair that can be written in a list. -/
structure FiatWritable (p : RatePair) : Prop extends p.Normal where
  sourceId : p.sourceId = none
  base_plain : ∀ mark ∈ [',', '=', '/'], mark ∉ p.base.toList
  quote_plain : ∀ mark ∈ [',', '=', '/'], mark ∉ p.quote.toList

/-- A coin that can be written in a list. -/
structure CoinWritable (p : RatePair) (id : String) : Prop extends p.Normal where
  sourceId : p.sourceId = some id
  quote : p.quote = "USD"
  base_plain : ∀ mark ∈ [',', '=', ':'], mark ∉ p.base.toList
  id_ne : id ≠ ""
  id_plain : ∀ mark ∈ [',', '='], mark ∉ id.toList
  id_trimmed : Text.trimmed id = id
  id_lower : Text.lowercased id = id

end RatePair

namespace Settings

/-- Two names and an amount that are written with marks between them, as they are split. -/
theorem split_written (mark : Char) (hmark : Text.isBlank mark = false) (hne : mark ≠ '=')
    {first second : List Char} (hfirst : ∀ m ∈ ['=', mark], m ∉ first) (hsecond : '=' ∉ second)
    (d : Decimal) :
    splitOnce? '=' (Text.trim (first ++ mark :: (second ++ '=' :: d.toText))) =
        some (Text.trimStart first ++ mark :: second, d.toText) ∧
      splitOnce? mark (Text.trimStart first ++ mark :: second) =
        some (Text.trimStart first, second) := by
  -- an item begins with its first name and ends with its amount, which ends with no blank
  have hstart : ∀ m ∈ ['=', mark], m ∉ Text.trimStart first := fun m hm hin =>
    hfirst m hm ((List.dropWhile_sublist _).subset hin)
  have htrim : Text.trim (first ++ mark :: (second ++ '=' :: d.toText)) =
      (Text.trimStart first ++ mark :: second) ++ '=' :: d.toText := by
    rw [Text.trim, Text.trimStart_append_cons hmark]
    have hend := Text.trimEnd_append d.toText_ne_nil
      (fun c hc => (Decimal.not_skipped_of_mem_toText hc).1)
      (Text.trimStart first ++ mark :: (second ++ ['=']))
    simpa using hend
  have hequals : '=' ∉ Text.trimStart first ++ mark :: second := by
    simp [hstart '=' (by simp), hsecond, Ne.symm hne]
  constructor
  · rw [htrim, splitOnce?_append hequals]
  · exact splitOnce?_append (hstart mark (by simp)) second

theorem fiatPair?_fiatText {p : RatePair} (h : p.FiatWritable) : fiatPair? p.fiatText = some p := by
  obtain ⟨hequals, hmark⟩ := split_written '/' (by decide) (by decide)
    (fun m hm => h.base_plain m (by simp at hm ⊢; tauto)) (h.quote_plain '=' (by simp)) p.fallback
  have hpair : ({ p with sourceId := none } : RatePair) = p := by
    rw [← h.sourceId]
  simp only [fiatPair?, RatePair.fiatText, Option.bind_eq_bind, Option.bind_some, hequals, hmark,
    positive?_toText h.positive, h.trimStart_not_blank, h.quote_not_blank, Bool.or_self,
    Bool.false_eq_true, if_false, String.ofList_toList, h.of_trimStart, hpair]

theorem coinPair?_coinText {p : RatePair} {id : String} (h : p.CoinWritable id) :
    coinPair? p.coinText = some p := by
  obtain ⟨hequals, hmark⟩ := split_written ':' (by decide) (by decide)
    (fun m hm => h.base_plain m (by simp at hm ⊢; tauto)) (h.id_plain '=' (by simp)) p.fallback
  have htrim : Text.trim id.toList = id.toList := by
    simpa [Text.trimmed] using congrArg String.toList h.id_trimmed
  have hid : id.toList.all Text.isBlank = false := by
    refine Bool.eq_false_iff.mpr fun hblank => h.id_ne ?_
    rw [← h.id_trimmed, Text.trimmed, Text.trim_eq_nil hblank]
  have hlower : String.ofList (Text.lower id.toList) = id := h.id_lower
  have hpair : ({ p with quote := "USD", sourceId := some id } : RatePair) = p := by
    rw [← h.sourceId, ← h.quote]
  have hquote := h.of_trimStart
  rw [h.quote] at hquote
  simp only [coinPair?, RatePair.coinText, h.sourceId, Option.elim_some, Option.bind_eq_bind,
    Option.bind_some, hequals, hmark, positive?_toText h.positive, h.trimStart_not_blank, hid,
    Bool.or_self, Bool.false_eq_true, if_false, htrim, hlower, hquote, RatePair.withSourceId,
    h.id_trimmed, hpair]

theorem comma_not_mem_fiatText {p : RatePair} (h : p.FiatWritable) : ',' ∉ p.fiatText := by
  simp [RatePair.fiatText, h.base_plain ',', h.quote_plain ',', comma_not_mem_toText]

theorem comma_not_mem_coinText {p : RatePair} {id : String} (h : p.CoinWritable id) :
    ',' ∉ p.coinText := by
  simp [RatePair.coinText, h.sourceId, h.base_plain ',', h.id_plain ',', comma_not_mem_toText]

/-! ## Lists -/

/--
Of two lists that are put together with a comma, whatever is in them, pairs, coins and names are
those of the one and then those of the other, and the prices are those of the first where the second
has none; a table holds each symbol once. Pairs and coins that are written as they are kept are read
as they were, so that a fallback keeps its places. Names are read as they were too, and of the
prices that are written for a symbol the last one is found.
-/
theorem lists_read_item_by_item :
    (∀ a b, readFiatPairs (a ++ ',' :: b) = readFiatPairs a ++ readFiatPairs b) ∧
      (∀ a b, readCoinPairs (a ++ ',' :: b) = readCoinPairs a ++ readCoinPairs b) ∧
      (∀ a b, readList (a ++ ',' :: b) = readList a ++ readList b) ∧
      (∀ a b symbol, (readTokenPrices (a ++ ',' :: b)).lookup symbol =
        ((readTokenPrices b).lookup symbol).or ((readTokenPrices a).lookup symbol)) ∧
      (∀ text, ((readTokenPrices text).map Prod.fst).Nodup) ∧
      (∀ pairs : List RatePair, (∀ p ∈ pairs, p.FiatWritable) →
        readFiatPairs (writeItems (pairs.map RatePair.fiatText)) = pairs) ∧
      (∀ pairs : List RatePair, (∀ p ∈ pairs, ∃ id, p.CoinWritable id) →
        readCoinPairs (writeItems (pairs.map RatePair.coinText)) = pairs) ∧
      (∀ names : List String, (∀ name ∈ names, NameWritable name) →
        readList (writeItems (names.map String.toList)) = names) ∧
      (∀ entries : List (String × Decimal), (∀ entry ∈ entries, SymbolWritable entry.1) →
        ∀ symbol, (readTokenPrices (writeItems (entries.map tokenText))).lookup symbol =
          (entries.reverse.lookup symbol).map Decimal.canonical) := by
  refine ⟨?_, ?_, ?_, lookup_readTokenPrices_append, ?_, ?_, ?_,
    fun _ => readList_writeItems, fun _ => lookup_readTokenPrices_writeItems⟩
  · intro a b
    rw [readFiatPairs, items_append, List.filterMap_append, readFiatPairs, readFiatPairs]
  · intro a b
    rw [readCoinPairs, items_append, List.filterMap_append, readCoinPairs, readCoinPairs]
  · intro a b
    simp only [readList, items_append, List.map_append, List.filter_append]
  · intro text
    have hempty : (([] : RateMap).map Prod.fst).Nodup := List.nodup_nil
    exact RateMap.nodup_insertAll hempty _
  · intro pairs hpairs
    refine Eq.trans (filterMap_items_writeItems (fun p hp => ?_) (fun p hp => ?_) rfl)
      (List.map_id pairs)
    · exact fiatPair?_fiatText (hpairs p hp)
    · exact comma_not_mem_fiatText (hpairs p hp)
  · intro pairs hpairs
    refine Eq.trans (filterMap_items_writeItems (fun p hp => ?_) (fun p hp => ?_) rfl)
      (List.map_id pairs)
    · obtain ⟨id, hid⟩ := hpairs p hp
      exact coinPair?_coinText hid
    · obtain ⟨id, hid⟩ := hpairs p hp
      exact comma_not_mem_coinText hid

/--
Two currency pairs, of which one keeps a place that is zero, a coin and a name with a blank inside,
and a symbol that is given two prices.
-/
theorem lists_read_item_by_item_of_three :
    readFiatPairs "USD/CNY=7.20,ÅÉ/EUR=0.92".toList =
        [⟨"USD", "CNY", none, .literal 720 2⟩, ⟨"ÅÉ", "EUR", none, .literal 92 2⟩] ∧
      readCoinPairs "B T/C:bit:coin ß=65000.0".toList =
        [⟨"B T/C", "USD", some "bit:coin ß", .literal 650000 1⟩] ∧
      readList "w 1,w2,w2".toList = ["w 1", "w2", "w2"] ∧
      (readTokenPrices "ETH=3500.50,B T=-600,ETH=3400.0".toList).lookup "ETH" =
        some (.literal 34000 1) := by
  obtain ⟨-, -, -, -, -, hfiat, hcoin, hnames, hprices⟩ := lists_read_item_by_item
  refine ⟨?_, ?_, ?_, ?_⟩
  · refine hfiat [⟨"USD", "CNY", none, .literal 720 2⟩, ⟨"ÅÉ", "EUR", none, .literal 92 2⟩] ?_
    intro p hp
    simp only [List.mem_cons, List.not_mem_nil, or_false] at hp
    rcases hp with rfl | rfl
    · exact ⟨⟨by decide +kernel, by decide, by decide, by decide⟩, rfl, by simp, by simp⟩
    · exact ⟨⟨by decide +kernel, by decide, by decide, by decide⟩, rfl, by simp, by simp⟩
  · refine hcoin [⟨"B T/C", "USD", some "bit:coin ß", .literal 650000 1⟩] ?_
    intro p hp
    rw [List.mem_singleton] at hp
    subst hp
    exact ⟨"bit:coin ß", ⟨by decide +kernel, by decide, by decide, by decide⟩, rfl, rfl, by simp,
      by decide, by simp, by decide +kernel, by decide +kernel⟩
  · refine hnames ["w 1", "w2", "w2"] fun name hname => ?_
    have hlisted : name = "w 1" ∨ name = "w2" := by simpa using hname
    rcases hlisted with rfl | rfl <;> exact ⟨by decide, by decide +kernel, by simp⟩
  · have hfound := hprices
      [("ETH", .literal 350050 2), ("B T", ⟨true, 600, 0, by decide, by decide⟩),
        ("ETH", .literal 34000 1)] (fun entry hentry => ?_) "ETH"
    · exact hfound
    · have hlisted : entry.1 = "ETH" ∨ entry.1 = "B T" := by
        simp only [List.mem_cons, List.not_mem_nil, or_false] at hentry
        rcases hentry with rfl | rfl | rfl <;> simp
      rcases hlisted with h | h <;> rw [h] <;> exact ⟨by decide, by decide +kernel, by simp⟩

end Settings

end HourlySnapshots
