import HourlySnapshots.Proofs.Services.RateMaps
import HourlySnapshots.Proofs.Services.RateTables
import HourlySnapshots.Rehearsal.Site

/-!
# Prices that are remembered

An oracle that remembers prices answers, in every history of calls, the price that the service has
told last in a call for the same symbol, be it in the same call or long ago, and no price where it
has told none. As long as that price is fresh the service is not asked at all. Calls for other
symbols have no part in it, whatever ids the symbols have.
-/

namespace HourlySnapshots

/-! ## Requests for documents -/

/-- Where a request for the document at an address goes to, or why it cannot be sent. -/
def Url.ofRequest (address : String) : Except ServiceError Url :=
  match Url.read address with
  | .error fault => .error (.connection fault.message)
  | .ok url =>
    if url.scheme = "http" ∨ url.scheme = "https" then .ok url
    else .error (.connection WebReply.unsent)

theorem Network.getJson_eq {σ : Type} (n : Network σ) (address : String) (x : σ) :
    n.getJson address [] x =
      match Url.ofRequest address with
      | .error e => (.error e, x)
      | .ok url => ((n.get url [] x).1.document, (n.get url [] x).2) := by
  unfold getJson Url.ofRequest
  cases Url.read address with
  | error fault => rfl
  | ok url => by_cases hscheme : url.scheme = "http" ∨ url.scheme = "https" <;> simp [hscheme]

namespace CoinPriceOracle

variable {σ : Type}

/-! ## Calls as they are seen -/

/-- What is seen of a call: readings of the clock that never stops, and requests with replies. -/
inductive Event where
  | read (time : Nat)
  | asked (url : Url) (reply : WebReply)

/-- The request of an event. -/
def Event.url? : Event → Option Url
  | .read _ => none
  | .asked url _ => some url

/-- The same oracle over a state in which these are noted. -/
def noting (o : CoinPriceOracle σ) : CoinPriceOracle (σ × List Event) where
  service :=
    { network := ⟨fun url headers x =>
        let answer := o.service.network.get url headers x.1
        (answer.1, answer.2, x.2 ++ [.asked url answer.1])⟩
      address := o.service.address }
  ids := o.ids
  lifetime := o.lifetime
  cache x := o.cache x.1
  setCache cache x := (o.setCache cache x.1, x.2)
  uptime x := ((o.uptime x.1).1, (o.uptime x.1).2, x.2 ++ [.read (o.uptime x.1).1])

/-- A call for a price: the time as it begins, what is seen of it in order, and its answer. -/
structure Call where
  symbol : String
  begun : Nat
  events : List Event
  answer : PriceAnswer

namespace Call

/-- The symbol that the price is remembered under. -/
def name (c : Call) : String := normalSymbol c.symbol

/-- The requests of a call. -/
def urls (c : Call) : List Url := c.events.filterMap Event.url?

/-- The answer of a call is a price. -/
def Priced (c : Call) : Prop := ∃ price, c.answer = .ok (some price)

end Call

/-- The call that is made for a symbol in a state. -/
def call (o : CoinPriceOracle σ) (symbol : String) (x : σ) : Call where
  symbol := symbol
  begun := (o.uptime x).1
  events := (o.noting.price symbol (x, [])).2.2
  answer := (o.price symbol x).1

/-- The price greater than zero that a reply tells for an id. -/
def priceIn (id : String) (reply : WebReply) : Option Decimal :=
  ((reply.document.toOption.bind fun document => document.path? [id, "usd"]).bind
    Json.amount?).filter Decimal.isPositive

/-- The time that is read first in some events, or else zero. -/
def timeIn : List Event → Nat
  | .read time :: _ => time
  | .asked _ _ :: rest => timeIn rest
  | [] => 0

/-- The price that is told last for an id in some events, and the time that is read next. -/
def toldIn (id : String) : List Event → Option CachedPrice
  | .asked _ reply :: rest => (toldIn id rest).or ((priceIn id reply).map (⟨·, timeIn rest⟩))
  | .read _ :: rest => toldIn id rest
  | [] => none

variable (o : CoinPriceOracle σ)

/-- The price that the service tells for a normal symbol in some events. -/
def told? (name : String) (events : List Event) : Option CachedPrice :=
  (o.id? name).bind fun id => toldIn id events

/-- Where the service is asked for the price of a normal symbol, if it can be. -/
def target? (name : String) : Option Url :=
  (o.id? name).bind fun id => (Url.ofRequest (o.service.addressFor [id])).toOption

/-- The cache is the oracle's own: neither its clock nor its network touches it. -/
structure OwnsCache : Prop where
  set : ∀ cache x, o.cache (o.setCache cache x) = cache
  uptime : ∀ x, o.cache (o.uptime x).2 = o.cache x
  get : ∀ url headers x, o.cache (o.service.network.get url headers x).2 = o.cache x

/-! ## Looking up a price -/

/-- What is left of a call for a normal symbol when no fresh price of it is remembered. -/
def lookUp (name : String) (stale : Option Decimal) (x : σ) : PriceAnswer × σ :=
  match o.id? name with
  | none => (.ok none, x)
  | some id =>
    match o.ask id x with
    | (.ok (some price), y) => (.ok (some price), o.remember name price y)
    | (.ok none, y) => (.ok stale, y)
    | (.error e, y) =>
      match stale with
      | some price => (.ok (some price), y)
      | none => (.error e, y)

theorem price_of_cached {symbol : String} {x y : σ} {remembered : Option (Decimal × Bool)}
    (h : o.cached? (normalSymbol symbol) x = (remembered, y))
    (hstale : ∀ price, remembered ≠ some (price, true)) :
    o.price symbol x = o.lookUp (normalSymbol symbol) (remembered.map (·.1)) y := by
  rcases remembered with _ | ⟨price, _ | _⟩
  case some.true => exact absurd rfl (hstale price)
  all_goals
    cases hid : o.id? (normalSymbol symbol) with
    | none => simp [CoinPriceOracle.price, lookUp, h, hid]
    | some id =>
      rcases hask : o.ask id y with ⟨_ | _ | _, _⟩ <;>
        simp [CoinPriceOracle.price, lookUp, h, hid, hask]

/-- What a reply to a request for an id comes to. -/
def answerIn (id : String) (reply : WebReply) : PriceAnswer :=
  reply.document.map fun _ => priceIn id reply

theorem answerIn_eq_ok_iff {id : String} {reply : WebReply} {price : Decimal} :
    answerIn id reply = .ok (some price) ↔ priceIn id reply = some price := by
  unfold answerIn
  cases hdoc : reply.document with
  | error e => simp [priceIn, hdoc, Except.map, Except.toOption]
  | ok document => simp [Except.map]

theorem ask_eq (id : String) (x : σ) :
    o.ask id x =
      match Url.ofRequest (o.service.addressFor [id]) with
      | .error e => (.error e, x)
      | .ok url =>
        (answerIn id (o.service.network.get url [] x).1, (o.service.network.get url [] x).2) := by
  have husd : CoinPrices.usd? = fun entry => (entry.field? "usd").bind Json.amount? := rfl
  unfold ask
  rw [Network.getJson_eq]
  cases Url.ofRequest (o.service.addressFor [id]) with
  | error e => rfl
  | ok url =>
    dsimp only
    unfold answerIn priceIn
    cases (o.service.network.get url [] x).1.document with
    | error e => rfl
    | ok document => simp [Except.map, Except.toOption, Json.path?, husd, Option.bind_assoc]

theorem remember_noting (name : String) (price : Decimal) (x : σ) (noted : List Event) :
    o.noting.remember name price (x, noted) =
      (o.remember name price x, noted ++ [.read (o.uptime x).1]) :=
  rfl

/-- The events of asking for an id, and what they tell once the time is read. -/
theorem exists_ask_noting (id : String) (x : σ) :
    ∃ events, (∀ noted, o.noting.ask id (x, noted) =
        ((o.ask id x).1, (o.ask id x).2, noted ++ events)) ∧
      events.filterMap Event.url? = (Url.ofRequest (o.service.addressFor [id])).toOption.toList ∧
      (∀ price, (o.ask id x).1 = .ok (some price) →
        ∀ time, toldIn id (events ++ [.read time]) = some ⟨price, time⟩) ∧
      ((∀ price, (o.ask id x).1 ≠ .ok (some price)) → toldIn id events = none) := by
  have haddress : o.noting.service.addressFor [id] = o.service.addressFor [id] := rfl
  simp only [ask_eq, haddress]
  cases Url.ofRequest (o.service.addressFor [id]) with
  | error e => exact ⟨[], by simp, rfl, by simp, fun _ => rfl⟩
  | ok url =>
    refine ⟨[.asked url (o.service.network.get url [] x).1], fun noted => rfl, rfl, ?_⟩
    dsimp only
    generalize (o.service.network.get url [] x).1 = reply
    have htold (after : List Event) (hafter : toldIn id after = none) :
        toldIn id (.asked url reply :: after) = (priceIn id reply).map (⟨·, timeIn after⟩) := by
      rw [toldIn, hafter, Option.none_or]
    refine ⟨fun price h time => ?_, fun hnone => ?_⟩
    · rw [List.singleton_append, htold [.read time] rfl, answerIn_eq_ok_iff.mp h]
      rfl
    · have hprice : priceIn id reply = none := Option.eq_none_iff_forall_ne_some.mpr fun price h =>
        hnone price (answerIn_eq_ok_iff.mpr h)
      rw [htold [] rfl, hprice]
      rfl

/-- What comes of looking up a price, with the events that are seen. -/
structure LookedUp (o : CoinPriceOracle σ) (name : String) (stale : Option Decimal) (x : σ)
    (events : List Event) : Prop where
  noting : ∀ noted, o.noting.lookUp name stale (x, noted) =
    ((o.lookUp name stale x).1, (o.lookUp name stale x).2, noted ++ events)
  urls : events.filterMap Event.url? = (o.target? name).toList
  answer_iff : (stale.isSome → (o.id? name).isSome) →
    ∀ price, (o.lookUp name stale x).1 = .ok (some price) ↔
      ((o.told? name events).map (·.price)).or stale = some price
  cache : o.cache (o.lookUp name stale x).2 =
    match o.told? name events with
    | none => o.cache x
    | some entry => (o.cache x).filter (fun held => held.1 ≠ name) ++ [(name, entry)]

theorem cache_ask {o : CoinPriceOracle σ} (ho : o.OwnsCache) (id : String) (x : σ) :
    o.cache (o.ask id x).2 = o.cache x := by
  rw [ask_eq]
  cases Url.ofRequest (o.service.addressFor [id]) with
  | error e => rfl
  | ok url => exact ho.get url [] x

theorem cache_remember {o : CoinPriceOracle σ} (ho : o.OwnsCache) (name : String)
    (price : Decimal) (x : σ) :
    o.cache (o.remember name price x) =
      (o.cache x).filter (fun held => held.1 ≠ name) ++ [(name, ⟨price, (o.uptime x).1⟩)] := by
  unfold remember
  rw [ho.set, ho.uptime]

theorem exists_lookedUp {o : CoinPriceOracle σ} (ho : o.OwnsCache) (name : String)
    (stale : Option Decimal) (x : σ) : ∃ events, LookedUp o name stale x events := by
  have hids : o.noting.id? name = o.id? name := rfl
  cases hid : o.id? name with
  | none =>
    -- a stale price is not even looked at here, so its symbol must have an id
    refine ⟨[], by simp [lookUp, hids, hid], by simp [target?, hid], fun hstale price => ?_,
      by simp [lookUp, told?, hid]⟩
    have hnone : stale = none := by simpa [hid] using hstale
    simp [lookUp, told?, hid, hnone]
  | some id =>
    obtain ⟨events, hnoting, hurls, htold, huntold⟩ := o.exists_ask_noting id x
    have hcache := cache_ask ho id x
    have htarget : o.target? name = (Url.ofRequest (o.service.addressFor [id])).toOption := by
      simp [target?, hid]
    rcases hask : o.ask id x with ⟨answer, y⟩
    rw [hask] at hnoting htold huntold hcache
    -- the clock is read once more only after a price, which is then remembered
    rcases answer with e | _ | price
    · have huntold := huntold (by simp)
      refine ⟨events, fun noted => ?_, by rw [hurls, htarget], fun _ price => ?_, ?_⟩
      · cases stale <;> simp [lookUp, hids, hid, hask, hnoting]
      · cases stale <;> simp [lookUp, told?, hid, hask, huntold]
      · cases stale <;> simp [lookUp, told?, hid, hask, huntold, hcache]
    · have huntold := huntold (by simp)
      refine ⟨events, fun noted => ?_, by rw [hurls, htarget], fun _ price => ?_, ?_⟩
      · simp [lookUp, hids, hid, hask, hnoting]
      · simp [lookUp, told?, hid, hask, huntold]
      · simp [lookUp, told?, hid, hask, huntold, hcache]
    · have hread := htold price rfl (o.uptime y).1
      refine ⟨events ++ [.read (o.uptime y).1], fun noted => ?_, ?_, fun _ price => ?_, ?_⟩
      · simp [lookUp, hids, hid, hask, hnoting, remember_noting]
      · simp [hurls, htarget, Event.url?]
      · simp [lookUp, told?, hid, hask, hread]
      · simp [lookUp, told?, hid, hask, hread, cache_remember ho, hcache]

theorem LookedUp.lookup {name : String} {stale : Option Decimal} {x : σ} {events : List Event}
    (h : LookedUp o name stale x events) (other : String) :
    (o.cache (o.lookUp name stale x).2).lookup other =
      if other = name then (o.told? name events).or ((o.cache x).lookup name)
      else (o.cache x).lookup other := by
  rw [h.cache]
  cases o.told? name events with
  | none => by_cases hother : other = name <;> simp [hother]
  | some entry => rw [lookup_replace, Option.some_or]

/-! ## Single calls -/

/-- A remembered price counts as fresh at a time. -/
def Fresh (entry : CachedPrice) (time : Nat) : Prop := time - entry.toldAt ≤ o.lifetime

theorem price_of_fresh {symbol : String} {x : σ} {entry : CachedPrice}
    (hheld : (o.cache x).lookup (normalSymbol symbol) = some entry)
    (hfresh : o.Fresh entry (o.uptime x).1) :
    o.price symbol x = (.ok (some entry.price), (o.uptime x).2) := by
  have hcached : o.cached? (normalSymbol symbol) x =
      (some (entry.price, true), (o.uptime x).2) := by
    simp [cached?, hheld, show (o.uptime x).1 - entry.toldAt ≤ o.lifetime from hfresh]
  simp [price, hcached]

theorem price_of_stale {symbol : String} {x : σ} {entry : CachedPrice}
    (hheld : (o.cache x).lookup (normalSymbol symbol) = some entry)
    (hstale : ¬ o.Fresh entry (o.uptime x).1) :
    o.price symbol x = o.lookUp (normalSymbol symbol) (some entry.price) (o.uptime x).2 := by
  have hcached : o.cached? (normalSymbol symbol) x =
      (some (entry.price, false), (o.uptime x).2) := by
    simp [cached?, hheld, show ¬ (o.uptime x).1 - entry.toldAt ≤ o.lifetime from hstale]
  rw [o.price_of_cached hcached (by simp)]
  rfl

theorem price_of_unknown {symbol : String} {x : σ}
    (hheld : (o.cache x).lookup (normalSymbol symbol) = none) :
    o.price symbol x = o.lookUp (normalSymbol symbol) none x := by
  have hcached : o.cached? (normalSymbol symbol) x = (none, x) := by simp [cached?, hheld]
  rw [o.price_of_cached hcached (by simp)]
  rfl

/-- A call without a fresh price is a look-up, before which at most the clock is read. -/
theorem exists_lookUp {o : CoinPriceOracle σ} (ho : o.OwnsCache) {symbol : String} {x : σ}
    {held : Option CachedPrice} (hheld : (o.cache x).lookup (normalSymbol symbol) = held)
    (hstale : ∀ entry, held = some entry → ¬ o.Fresh entry (o.uptime x).1) :
    ∃ y events, LookedUp o (normalSymbol symbol) (held.map (·.price)) y events ∧
      o.cache y = o.cache x ∧
      o.price symbol x = o.lookUp (normalSymbol symbol) (held.map (·.price)) y ∧
      ∃ before, (before = [] ∨ before = [.read (o.uptime x).1]) ∧
        o.noting.price symbol (x, []) =
          ((o.price symbol x).1, (o.price symbol x).2, before ++ events) := by
  cases held with
  | none =>
    obtain ⟨events, h⟩ := exists_lookedUp ho (normalSymbol symbol) none x
    refine ⟨x, events, h, rfl, o.price_of_unknown hheld, [], .inl rfl, ?_⟩
    rw [o.noting.price_of_unknown hheld, o.price_of_unknown hheld]
    exact h.noting []
  | some entry =>
    have hentry := hstale entry rfl
    obtain ⟨events, h⟩ :=
      exists_lookedUp ho (normalSymbol symbol) (some entry.price) (o.uptime x).2
    refine ⟨_, events, h, ho.uptime x, o.price_of_stale hheld hentry, [.read (o.uptime x).1],
      .inr rfl, ?_⟩
    rw [o.noting.price_of_stale (x := (x, [])) hheld hentry, o.price_of_stale hheld hentry]
    exact h.noting [.read (o.uptime x).1]

/-- What comes of a call, by the price that is remembered for its symbol as it begins. -/
structure Made (held : Option CachedPrice) (c : Call) : Prop where
  urls_of_fresh : ∀ entry, held = some entry → o.Fresh entry c.begun → c.urls = []
  urls_of_stale : (∀ entry, held = some entry → ¬ o.Fresh entry c.begun) →
    c.urls = (o.target? c.name).toList
  answer_iff : (held.isSome → (o.id? c.name).isSome) →
    ∀ price, c.answer = .ok (some price) ↔
      ((o.told? c.name c.events).or held).map (·.price) = some price

theorem made_call {o : CoinPriceOracle σ} (ho : o.OwnsCache) (symbol : String) (x : σ) :
    o.Made ((o.cache x).lookup (normalSymbol symbol)) (o.call symbol x) ∧
      (∀ name, (o.cache (o.price symbol x).2).lookup name =
        if name = normalSymbol symbol then
          (o.told? (normalSymbol symbol) (o.call symbol x).events).or
            ((o.cache x).lookup (normalSymbol symbol))
        else (o.cache x).lookup name) ∧
      o.noting.price symbol (x, []) =
        ((o.price symbol x).1, (o.price symbol x).2, (o.call symbol x).events) := by
  by_cases hfresh : ∃ entry, (o.cache x).lookup (normalSymbol symbol) = some entry ∧
      o.Fresh entry (o.uptime x).1
  · obtain ⟨entry, hheld, hentry⟩ := hfresh
    have hprice := o.price_of_fresh hheld hentry
    have hnoting := o.noting.price_of_fresh (x := (x, [])) hheld hentry
    have hevents : (o.call symbol x).events = [.read (o.uptime x).1] := congrArg (·.2.2) hnoting
    have hanswer : (o.call symbol x).answer = .ok (some entry.price) := congrArg Prod.fst hprice
    have htold (name : String) : o.told? name [.read (o.uptime x).1] = none := by
      simp [told?, toldIn]
    refine ⟨⟨fun _ _ _ => ?_, fun hstale => ?_, fun _ price => ?_⟩, fun name => ?_, ?_⟩
    · rw [Call.urls, hevents]
      rfl
    · exact absurd hentry (hstale entry hheld)
    · simp [hanswer, hevents, htold, hheld]
    · rw [hprice, ho.uptime, hevents, htold, Option.none_or]
      split
      · next hname => rw [hname]
      · rfl
    · rw [hnoting, hprice, hevents]
      rfl
  · have hstale (entry : CachedPrice)
        (hheld : (o.cache x).lookup (normalSymbol symbol) = some entry) :
        ¬ o.Fresh entry (o.uptime x).1 := fun hentry => hfresh ⟨entry, hheld, hentry⟩
    obtain ⟨y, events, h, hcache, hprice, read, hread, hnoting⟩ := exists_lookUp ho rfl hstale
    have hevents : (o.call symbol x).events = read ++ events := congrArg (·.2.2) hnoting
    have hurls : (o.call symbol x).urls = events.filterMap Event.url? := by
      rw [Call.urls, hevents]
      rcases hread with rfl | rfl <;> rfl
    have htold (name : String) : o.told? name (o.call symbol x).events = o.told? name events := by
      rw [hevents]
      rcases hread with rfl | rfl <;> rfl
    have hanswer : (o.call symbol x).answer =
        (o.lookUp (normalSymbol symbol)
          (((o.cache x).lookup (normalSymbol symbol)).map (·.price)) y).1 :=
      congrArg Prod.fst hprice
    refine ⟨⟨fun entry hheld hentry => absurd hentry (hstale entry hheld),
      fun _ => hurls.trans h.urls, fun hid price => ?_⟩, fun name => ?_, by rw [hnoting, hevents]⟩
    · rw [hanswer, h.answer_iff fun hsome => hid (by rwa [Option.isSome_map] at hsome), htold,
        Option.map_or]
      rfl
    · rw [hprice, h.lookup, hcache, htold]

/-! ## Histories of calls -/

/-- The calls so far, from a start without remembered prices up to a state. -/
inductive History : List Call → σ → Prop where
  | start {x : σ} (h : o.cache x = []) : History [] x
  /-- Between calls time passes, and all but the cache may change. -/
  | pass {calls : List Call} {x y : σ} (h : History calls x) (hcache : o.cache y = o.cache x) :
      History calls y
  | call {calls : List Call} {x : σ} (h : History calls x) (symbol : String) :
      History (calls ++ [o.call symbol x]) (o.price symbol x).2

/-- The prices that are told in the calls for a normal symbol, in order. -/
def toldFor (name : String) (calls : List Call) : List CachedPrice :=
  (calls.filter fun c => c.name = name).filterMap fun c => o.told? name c.events

section

variable {o}

theorem getLast?_toldFor_concat (name : String) (calls : List Call) (c : Call) :
    (o.toldFor name (calls ++ [c])).getLast? =
      if name = c.name then (o.told? name c.events).or (o.toldFor name calls).getLast?
      else (o.toldFor name calls).getLast? := by
  unfold toldFor
  rw [List.filter_append, List.filterMap_append, List.getLast?_append]
  by_cases hname : name = c.name
  · cases htold : o.told? name c.events <;> simp [← hname, htold]
  · simp [hname, Ne.symm hname]

theorem isPositive_of_toldIn {id : String} {events : List Event} {entry : CachedPrice}
    (h : toldIn id events = some entry) : entry.price.isPositive = true := by
  induction events with
  | nil => cases h
  | cons event rest ih =>
    cases event with
    | read time => exact ih h
    | asked url reply =>
      rcases Option.or_eq_some_iff.mp h with h | ⟨-, h⟩
      · exact ih h
      · obtain ⟨price, hprice, rfl⟩ := Option.map_eq_some_iff.mp h
        exact (Option.filter_eq_some_iff.mp hprice).2

theorem mem_toldFor {name : String} {calls : List Call} {entry : CachedPrice} :
    entry ∈ o.toldFor name calls ↔
      ∃ c ∈ calls, c.name = name ∧ o.told? name c.events = some entry := by
  simp [toldFor, and_assoc]

theorem of_mem_toldFor {name : String} {calls : List Call} {entry : CachedPrice}
    (h : entry ∈ o.toldFor name calls) :
    entry.price.isPositive = true ∧ (o.id? name).isSome := by
  obtain ⟨c, -, -, htold⟩ := mem_toldFor.mp h
  obtain ⟨id, hid, htold⟩ := Option.bind_eq_some_iff.mp htold
  exact ⟨isPositive_of_toldIn htold, by rw [hid]; rfl⟩

namespace History

variable {calls : List Call} {x : σ}

/-- What is remembered for a symbol is what was told last in the calls for it. -/
theorem lookup_eq (ho : o.OwnsCache) (h : o.History calls x) (name : String) :
    (o.cache x).lookup name = (o.toldFor name calls).getLast? := by
  induction h with
  | start hempty => rw [hempty]; rfl
  | pass _ hcache ih => rw [hcache, ih]
  | @call calls x _ symbol ih =>
    have hcall : (o.call symbol x).name = normalSymbol symbol := rfl
    rw [(made_call ho symbol x).2.1, getLast?_toldFor_concat, hcall, ih]
    by_cases hname : name = normalSymbol symbol
    · rw [if_pos hname, if_pos hname, ← hname, ih]
    · rw [if_neg hname, if_neg hname]

/-- Each call of a history is made in the state that the calls before it lead to. -/
theorem exists_before (h : o.History calls x) {before after : List Call} {c : Call}
    (hcalls : calls = before ++ c :: after) :
    ∃ y, o.History before y ∧ c = o.call c.symbol y := by
  induction h generalizing after with
  | start => simp at hcalls
  | pass _ _ ih => exact ih hcalls
  | @call calls x h symbol ih =>
    rcases List.eq_nil_or_concat after with rfl | ⟨between, last, rfl⟩
    · obtain ⟨rfl, hlast⟩ := List.append_inj' hcalls rfl
      obtain rfl := List.singleton_inj.mp hlast
      exact ⟨x, h, rfl⟩
    · rw [List.concat_eq_append, ← List.cons_append, ← List.append_assoc] at hcalls
      exact ih (List.append_inj' hcalls rfl).1

end History

namespace History

variable {before : List Call} {x : σ}

theorem answer_iff (ho : o.OwnsCache) (h : o.History before x) (symbol : String)
    (price : Decimal) :
    (o.call symbol x).answer = .ok (some price) ↔
      ∃ entry, (o.toldFor (normalSymbol symbol) (before ++ [o.call symbol x])).getLast? =
        some entry ∧ entry.price = price := by
  have hheld := h.lookup_eq ho (normalSymbol symbol)
  have hknown : ((o.cache x).lookup (normalSymbol symbol)).isSome →
      (o.id? (normalSymbol symbol)).isSome := by
    intro hsome
    obtain ⟨entry, hentry⟩ := Option.isSome_iff_exists.mp hsome
    rw [hheld] at hentry
    exact (of_mem_toldFor (List.mem_of_getLast? hentry)).2
  have hcall : (o.call symbol x).name = normalSymbol symbol := rfl
  rw [(made_call ho symbol x).1.answer_iff hknown, getLast?_toldFor_concat, hcall, if_pos rfl,
    hheld, Option.map_eq_some_iff]

/-- A call for a symbol that had a price before has one again. -/
theorem priced_again (ho : o.OwnsCache) (h : o.History before x) {symbol : String} {earlier : Call}
    (hearlier : earlier ∈ before) (hname : earlier.name = normalSymbol symbol)
    (hpriced : earlier.Priced) : (o.call symbol x).Priced := by
  obtain ⟨early, between, hbefore⟩ := List.append_of_mem hearlier
  obtain ⟨y, hy, hcall⟩ := h.exists_before hbefore
  obtain ⟨price, hprice⟩ := hpriced
  rw [hcall, hy.answer_iff ho, ← hcall] at hprice
  obtain ⟨entry, hentry, -⟩ := hprice
  -- what was told then is still among what is told for the symbol
  obtain ⟨c, hc, hcname, htold⟩ := mem_toldFor.mp (List.mem_of_getLast? hentry)
  have hstill : entry ∈ o.toldFor (normalSymbol symbol) (before ++ [o.call symbol x]) := by
    have hsame : normalSymbol earlier.symbol = normalSymbol symbol := hname
    refine mem_toldFor.mpr ⟨c, ?_, hcname.trans hsame, hsame ▸ htold⟩
    rw [hbefore]
    rcases List.mem_append.mp hc with hc | hc
    · exact List.mem_append_left _ (List.mem_append_left _ hc)
    · rw [List.mem_singleton.mp hc]
      exact List.mem_append_left _ (List.mem_append_right _ List.mem_cons_self)
  obtain ⟨last, hlast⟩ := Option.isSome_iff_exists.mp
    (List.getLast?_isSome.mpr (List.ne_nil_of_mem hstill))
  exact ⟨last.price, (h.answer_iff ho symbol last.price).mpr ⟨last, hlast, rfl⟩⟩

end History

/-- What holds of a call after others in a history. -/
structure Latest (o : CoinPriceOracle σ) (before : List Call) (c : Call) : Prop where
  /-- The answer is the price told last for the symbol, this call included. -/
  answer_iff : ∀ price, c.answer = .ok (some price) ↔
    ∃ entry, (o.toldFor c.name (before ++ [c])).getLast? = some entry ∧ entry.price = price
  positive : ∀ price, c.answer = .ok (some price) → price.isPositive = true
  /-- Once a call for the symbol has obtained a price, this one does. -/
  again : ∀ earlier ∈ before, earlier.name = c.name → earlier.Priced → c.Priced
  /-- While the price told last is fresh, nothing is asked. -/
  urls_of_fresh : ∀ entry, (o.toldFor c.name before).getLast? = some entry →
    o.Fresh entry c.begun → c.urls = []
  urls_of_stale : (∀ entry, (o.toldFor c.name before).getLast? = some entry →
    ¬ o.Fresh entry c.begun) → c.urls = (o.target? c.name).toList

theorem latest_call (ho : o.OwnsCache) {before : List Call} {x : σ} (h : o.History before x)
    (symbol : String) : o.Latest before (o.call symbol x) := by
  have hmade := (made_call ho symbol x).1
  rw [h.lookup_eq ho] at hmade
  refine ⟨h.answer_iff ho symbol, fun price hprice => ?_,
    fun earlier hearlier hname hpriced => h.priced_again ho hearlier hname hpriced,
    hmade.urls_of_fresh, hmade.urls_of_stale⟩
  obtain ⟨entry, hentry, rfl⟩ := (h.answer_iff ho symbol price).mp hprice
  exact (of_mem_toldFor (List.mem_of_getLast? hentry)).1

/--
In every history of calls, each call answers the price that was told last for its symbol, asks for
nothing while that price is fresh, and answers a price whenever one was answered before. A call
leaves what is remembered for other symbols as it is, and noting what is seen of it changes nothing.
-/
theorem answers_latest_price (ho : o.OwnsCache) {calls : List Call} {x : σ}
    (h : o.History calls x) :
    (∀ before c after, calls = before ++ c :: after → o.Latest before c) ∧
      ∀ symbol y,
        (∀ name, name ≠ normalSymbol symbol →
          (o.cache (o.price symbol y).2).lookup name = (o.cache y).lookup name) ∧
        o.noting.price symbol (y, []) =
          ((o.price symbol y).1, (o.price symbol y).2, (o.call symbol y).events) := by
  refine ⟨fun before c after hcalls => ?_, fun symbol y => ?_⟩
  · obtain ⟨y, hy, hcall⟩ := h.exists_before hcalls
    rw [hcall]
    exact latest_call ho hy c.symbol
  · obtain ⟨-, hcache, hnoting⟩ := made_call ho symbol y
    exact ⟨fun name hname => by rw [hcache, if_neg hname], hnoting⟩

/--
Ether is asked for once and then remembered, wrapped ether has a price of its own under the same
id, and when the service fails long after, the old price of ether is still answered.
-/
theorem answers_remembered_ether :
    let o : CoinPriceOracle LocalWorld :=
      ⟨⟨LocalWorld.surroundings.network 10, "http://[::1]/"⟩, [], 60, LocalWorld.prices,
        LocalWorld.surroundings.setCache, LocalWorld.surroundings.uptime⟩
    ∃ calls x, o.OwnsCache ∧ o.History calls x ∧
      calls.map (fun c => (c.symbol, c.answer.toOption, c.urls.length)) =
        [("eth", some (some (.literal 3400 0)), 1), (" ETH ", some (some (.literal 3400 0)), 0),
          ("weth", some (some (.literal 3500 0)), 1), ("Eth", some (some (.literal 3400 0)), 1)] ∧
      (∀ before c after, calls = before ++ c :: after → o.Latest before c) ∧
      ∃ entry, (o.toldFor "ETH" calls).getLast? = some entry ∧ entry.price = .literal 3400 0 := by
  intro o
  let told (price : String) : RecordedReply :=
    .answers 200 (Text.utf8 ("\x7b\"ethereum\": \x7b\"usd\": " ++ price ++ "\x7d\x7d"))
  let site : RecordedSite :=
    { host := some "[::1]"
      replies := [("/simple/price?ids=ethereum&vs_currencies=usd",
        [told "3400", told "3500", .answers 503 []])]
      seen := [] }
  have ho : o.OwnsCache := ⟨fun _ _ => rfl, fun _ => rfl, fun _ _ _ => rfl⟩
  have hlater (w : LocalWorld) : o.cache { w with ticks := 1000 } = o.cache w := rfl
  have hstart : o.History [] (LocalWorld.begin site .epoch) := .start rfl
  have h := (((hstart.call "eth").call " ETH ").call "weth").pass (hlater _) |>.call "Eth"
  have hlatest := (answers_latest_price ho h).1
  -- the fourth call asks in vain, so what it answers was told to the first one
  have hname : normalSymbol "Eth" = "ETH" := by decide +kernel
  have hlast := ((hlatest _ _ [] rfl).answer_iff (.literal 3400 0)).mp (by decide +kernel)
  rw [Call.name, show (o.call "Eth" _).symbol = "Eth" from rfl, hname] at hlast
  exact ⟨_, _, ho, h, by decide +kernel, hlatest, hlast⟩

end

end CoinPriceOracle

end HourlySnapshots
