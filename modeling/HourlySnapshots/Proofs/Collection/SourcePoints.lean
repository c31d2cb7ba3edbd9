import HourlySnapshots.Proofs.Collection.ConfiguredRates
import Mathlib.Data.List.Induction

/-!
# Points of rate sources

A collection of rates never fails: there is a point for each pair of each source, whatever the
sources answer. The points of a source stand at its place among the others, and nothing but its own
answer decides them.
-/

namespace HourlySnapshots

variable {σ : Type}

/-! ## Pairs and their points -/

namespace RatePair

variable {time : Instant} {tag : String} {answer : Except ServiceError RateMap} {p : RatePair}

/-- An answer gives a pair a rate above zero, under its key. -/
def LiveIn (p : RatePair) (answer : Except ServiceError RateMap) (rate : Decimal) : Prop :=
  ∃ rates, answer = .ok rates ∧ rates.lookup p.key = some rate ∧ rate.isPositive = true

/--
The point of a pair for the hour of an instant. It has the rate and the tag of the source if the
source has answered with a rate above zero, and the fallback otherwise.
-/
structure PointBy (time : Instant) (tag : String) (answer : Except ServiceError RateMap)
    (p : RatePair) (point : RatePoint) : Prop where
  base : point.base = p.base
  quote : point.quote = p.quote
  hour : point.snapshotAt = time.truncateToHour
  live : ∀ rate, p.LiveIn answer rate → point.rate = rate ∧ point.sourceTag = tag
  fallback : (∀ rate, ¬ p.LiveIn answer rate) →
    point.rate = p.fallback ∧ point.sourceTag = fallbackTag

theorem liveIn_iff {rate : Decimal} : p.LiveIn answer rate ↔
    answer.toOption.bind (·.lookup p.key) = some rate ∧ rate.isPositive = true := by
  unfold LiveIn
  cases answer <;> simp [Except.toOption]

theorem pointBy_ofPair :
    p.PointBy time tag answer (.ofPair tag answer.toOption time p) := by
  rcases RatePoint.rate_ofPair_cases tag answer.toOption time p with
    ⟨rate, hanswer, hpositive, hrate, htag⟩ | ⟨hnone, hrate, htag⟩
  · refine ⟨rfl, rfl, rfl, fun other hother => ?_, fun hfallback => ?_⟩
    · obtain rfl := Option.some.inj (hanswer.symm.trans (liveIn_iff.mp hother).1)
      exact ⟨hrate, htag⟩
    · exact absurd (liveIn_iff.mpr ⟨hanswer, hpositive⟩) (hfallback rate)
  · refine ⟨rfl, rfl, rfl, fun other hother => ?_, fun _ => ⟨hrate, htag⟩⟩
    obtain ⟨hother, hpositive⟩ := liveIn_iff.mp hother
    rw [hnone other hother] at hpositive
    cases hpositive

end RatePair

/-! ## Sources in order -/

namespace RateCollector

variable (name : String) (storage : Storage σ) (time : Instant)

/-- The collector that some sources with their pairs are added to, one after the other. -/
def ofSources (sources : List (RateSource σ × List RatePair)) : RateCollector σ :=
  sources.foldl (fun c (source, pairs) => c.withSource source pairs) (.empty name storage)

/-- The points that a collection has for the pairs of the source behind some others. -/
def pointsBehind (before : List (RateSource σ × List RatePair)) (pairs : List RatePair)
    (points : List RatePoint) : List RatePoint :=
  (points.drop (before.flatMap Prod.snd).length).take pairs.length

/-- What a source answers about its pairs when the sources before it have been asked. -/
def answerBehind (before : List (RateSource σ × List RatePair)) (source : RateSource σ)
    (pairs : List RatePair) (x : σ) : Except ServiceError RateMap :=
  (source.fetch pairs ((ofSources name storage before).collect time x).2).1

theorem ofSources_concat (before : List (RateSource σ × List RatePair)) (source : RateSource σ)
    (pairs : List RatePair) :
    ofSources name storage (before ++ [(source, pairs)]) =
      (ofSources name storage before).withSource source pairs := by
  simp [ofSources]

variable {name storage time}

/-- The points of a source follow those of the sources before it. -/
theorem items_concat (before : List (RateSource σ × List RatePair)) (source : RateSource σ)
    (pairs : List RatePair) (x : σ) :
    ((ofSources name storage (before ++ [(source, pairs)])).collect time x).1.items =
      ((ofSources name storage before).collect time x).1.items ++
        pairs.map (.ofPair source.tag
          (answerBehind name storage time before source pairs x).toOption time) := by
  rw [ofSources_concat]
  show (collectPortions time _ x).1 = _
  rw [collect_withSource]
  -- a source without pairs has no points, whatever it would answer
  cases pairs with
  | nil => rfl
  | cons pair rest => rfl

/-- Sources that are added later leave the points as they are that there were. -/
theorem items_prefix (before after : List (RateSource σ × List RatePair)) (x : σ) :
    ((ofSources name storage before).collect time x).1.items <+:
      ((ofSources name storage (before ++ after)).collect time x).1.items := by
  induction after using List.reverseRecOn with
  | nil => simp
  | append_singleton after portion ih =>
    rw [← List.append_assoc, items_concat]
    exact ih.trans (List.prefix_append _ _)

/-- Each pair has its point. -/
theorem map_names_items (sources : List (RateSource σ × List RatePair)) (x : σ) :
    ((ofSources name storage sources).collect time x).1.items.map (fun p => (p.base, p.quote)) =
      (sources.flatMap Prod.snd).map fun p => (p.base, p.quote) := by
  induction sources using List.reverseRecOn with
  | nil => rfl
  | append_singleton before portion ih =>
    rw [items_concat, List.map_append, ih, List.map_map, List.flatMap_append, List.map_append]
    simp [Function.comp_def, RatePoint.ofPair]

theorem length_items (sources : List (RateSource σ × List RatePair)) (x : σ) :
    ((ofSources name storage sources).collect time x).1.items.length =
      (sources.flatMap Prod.snd).length := by
  simpa using congrArg List.length (map_names_items sources x)

theorem pairCount_ofSources (sources : List (RateSource σ × List RatePair)) :
    (ofSources name storage sources).pairCount = (sources.flatMap Prod.snd).length := by
  induction sources using List.reverseRecOn with
  | nil => rfl
  | append_singleton before portion ih =>
    have hadded : ((ofSources name storage before).withSource portion.1 portion.2).pairCount =
        (ofSources name storage before).pairCount + portion.2.length := by
      unfold pairCount withSource
      cases portion.2 <;> simp
    rw [ofSources_concat, hadded, ih]
    simp

/-- The points at the place of a source are made of the answer of the source. -/
theorem pointsBehind_collect (before after : List (RateSource σ × List RatePair))
    (source : RateSource σ) (pairs : List RatePair) (x : σ) :
    pointsBehind before pairs
        ((ofSources name storage (before ++ (source, pairs) :: after)).collect time x).1.items =
      pairs.map (.ofPair source.tag
        (answerBehind name storage time before source pairs x).toOption time) := by
  have hprefix : ((ofSources name storage (before ++ [(source, pairs)])).collect time x).1.items <+:
      ((ofSources name storage (before ++ [(source, pairs)] ++ after)).collect time x).1.items :=
    items_prefix _ _ x
  obtain ⟨later, hlater⟩ := hprefix
  rw [List.append_assoc, List.singleton_append] at hlater
  rw [pointsBehind, ← hlater, items_concat, List.append_assoc,
    List.drop_left' (length_items before x), List.take_left' (by simp)]

/--
For any sources and any answers, a collection succeeds with one point for each pair, in the order of
the sources and of their pairs. The points at the place of a source are those of its pairs by its
own answer; what the other sources are, and what they answer, makes no difference to them.
-/
theorem points_by_source (name : String) (storage : Storage σ) (time : Instant) :
    (∀ sources x,
      let c := ofSources name storage sources
      let points := (c.collect time x).1.items
      (c.collect time x).1 = ⟨.ok points, time⟩ ∧ points.length = c.pairCount ∧
      points.map (fun p => (p.base, p.quote)) =
        (sources.flatMap Prod.snd).map (fun p => (p.base, p.quote)) ∧
      ∀ before source pairs after, sources = before ++ (source, pairs) :: after →
        List.Forall₂
          (RatePair.PointBy time source.tag (answerBehind name storage time before source pairs x))
          pairs (pointsBehind before pairs points)) ∧
    ∀ before source pairs after x before' source' after' x',
      source'.tag = source.tag →
      answerBehind name storage time before' source' pairs x' =
        answerBehind name storage time before source pairs x →
      pointsBehind before' pairs
          ((ofSources name storage
            (before' ++ (source', pairs) :: after')).collect time x').1.items =
        pointsBehind before pairs
          ((ofSources name storage
            (before ++ (source, pairs) :: after)).collect time x).1.items := by
  refine ⟨fun sources x => ⟨rfl, ?_, map_names_items sources x, ?_⟩, ?_⟩
  · rw [length_items, pairCount_ofSources]
  · rintro before source pairs after rfl
    rw [pointsBehind_collect, List.forall₂_map_right_iff, List.forall₂_same]
    exact fun p _ => RatePair.pointBy_ofPair
  · intro before source pairs after x before' source' after' x' htag hanswer
    rw [pointsBehind_collect, pointsBehind_collect, htag, hanswer]

/--
A rate that counts, one that is zero, one that is missing, and a source that fails. The points of
the first source are the same where it comes last.
-/
theorem points_of_two_sources :
    let pairs : List RatePair := [.of "usd" "cny" (.literal 72 1), .of "usd" "eur" (.literal 92 2),
      .of "usd" "jpy" (.literal 1495 1)]
    let coins : List RatePair := [.of "btc" "usd" (.literal 65 0)]
    let bank : RateSource Unit :=
      ⟨"bank", fun _ x => (.ok [("USD/CNY", .literal 7 0), ("USD/EUR", .zero)], x)⟩
    let market : RateSource Unit := ⟨"market", fun _ x => (.error (.timeout "slow"), x)⟩
    let storage : Storage Unit :=
      ⟨fun _ x => (.ok [], x), fun _ x => (.ok false, x), fun x => (default, x)⟩
    let nobody : List (RateSource Unit × List RatePair) := []
    let collected (sources : List (RateSource Unit × List RatePair)) :=
      ((ofSources "rate" storage sources).collect .epoch ()).1.items
    let points := collected [(bank, pairs), (market, coins)]
    points.map (fun p => (p.key, p.rate, p.sourceTag)) =
        [("USD/CNY", .literal 7 0, "bank"), ("USD/EUR", .literal 92 2, "fallback"),
          ("USD/JPY", .literal 1495 1, "fallback"), ("BTC/USD", .literal 65 0, "fallback")] ∧
      List.Forall₂
        (RatePair.PointBy .epoch "bank" (answerBehind "rate" storage .epoch nobody bank pairs ()))
        pairs (pointsBehind nobody pairs points) ∧
      pointsBehind [(market, coins)] pairs (collected [(market, coins), (bank, pairs)]) =
        pointsBehind nobody pairs points := by
  intro pairs coins bank market storage nobody collected points
  have hanswer : answerBehind "rate" storage .epoch [(market, coins)] bank pairs () =
      answerBehind "rate" storage .epoch nobody bank pairs () := rfl
  obtain ⟨hsources, hothers⟩ := points_by_source "rate" storage .epoch
  obtain ⟨-, -, -, hplaces⟩ := hsources [(bank, pairs), (market, coins)] ()
  exact ⟨by decide +kernel, hplaces nobody bank pairs [(market, coins)] rfl,
    hothers nobody bank pairs [(market, coins)] () [(market, coins)] bank [] () rfl hanswer⟩

end RateCollector

end HourlySnapshots
