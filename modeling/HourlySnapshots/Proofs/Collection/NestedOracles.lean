import HourlySnapshots.Collection.Pricing
import HourlySnapshots.Proofs.Collection.Asking

/-!
# Oracles that fall back on each other

Oracles may be nested in any way: each one that is asked after another may itself be made of two.
Falling back is associative, so that only the order of the oracles at the leaves counts. They are
asked one after the other, up to the first that gives a price greater than zero or else to the last,
whose answer then stands whatever it is.
-/

namespace HourlySnapshots

/-- Whether an answer is a price greater than zero. -/
def givesPrice : PriceAnswer → Bool
  | .ok (some price) => price.isPositive
  | _ => false

namespace PriceOracle

variable {σ : Type}

theorem fallback_eq (first second : PriceOracle σ) (symbol : String) (x : σ) :
    fallback first second symbol x =
      if givesPrice (first symbol x).1 then first symbol x
      else second symbol (first symbol x).2 := by
  unfold fallback
  rcases first symbol x with ⟨e | (_ | price), y⟩
  · rfl
  · rfl
  · rfl

/-- It does not matter how three oracles are put together. -/
theorem fallback_assoc (first second third : PriceOracle σ) :
    fallback (fallback first second) third = fallback first (fallback second third) := by
  funext symbol x
  rw [fallback_eq, fallback_eq first second, fallback_eq first]
  by_cases hfirst : givesPrice (first symbol x).1 = true
  · rw [if_pos hfirst, if_pos hfirst, if_pos hfirst]
  · rw [if_neg hfirst, if_neg hfirst, fallback_eq second third]

/-- The oracle that asks the given ones in turn. -/
def inTurn (first : PriceOracle σ) : List (PriceOracle σ) → PriceOracle σ
  | [] => first
  | next :: rest => fallback first (inTurn next rest)

theorem inTurn_append (first next : PriceOracle σ) (before after : List (PriceOracle σ)) :
    inTurn first (before ++ next :: after) = fallback (inTurn first before) (inTurn next after) := by
  induction before generalizing first with
  | nil => rfl
  | cons second rest ih =>
    show fallback first (inTurn second (rest ++ next :: after)) = _
    rw [ih, ← fallback_assoc]
    rfl

/-- Asks an oracle about a symbol. -/
def about (symbol : String) (oracle : PriceOracle σ) (x : σ) : PriceAnswer × σ := oracle symbol x

/--
One of some oracles answers in the end: all before it were asked in order and gave no price greater
than zero, and it gives one itself or is the last.
-/
structure Answers (oracles : List (PriceOracle σ)) (symbol : String) (x : σ)
    (outcome : PriceAnswer × σ) (talk : List (Exchange (PriceOracle σ) (Option Decimal)))
    (oracle : PriceOracle σ) (after : List (PriceOracle σ)) (y : σ) : Prop where
  oracles_eq : oracles = talk.map Exchange.entry ++ oracle :: after
  asks : Asks (about symbol) talk x y
  unpriced : ∀ exchange ∈ talk, givesPrice exchange.reply = false
  outcome_eq : outcome = oracle symbol y
  settled : givesPrice outcome.1 = true ∨ after = []

theorem exists_answers (first : PriceOracle σ) (rest : List (PriceOracle σ)) (symbol : String)
    (x : σ) : ∃ talk oracle after y,
      Answers (first :: rest) symbol x (inTurn first rest symbol x) talk oracle after y := by
  induction rest generalizing first x with
  | nil => exact ⟨[], first, [], x, rfl, .done, by simp, rfl, .inr rfl⟩
  | cons next rest ih =>
    rw [inTurn, fallback_eq]
    cases hgives : givesPrice (first symbol x).1 with
    | true =>
      rw [if_pos rfl]
      exact ⟨[], first, next :: rest, x, rfl, .done, by simp, rfl, .inl hgives⟩
    | false =>
      rw [if_neg (by decide)]
      obtain ⟨talk, oracle, after, y, h⟩ := ih next (first symbol x).2
      refine ⟨⟨first, (first symbol x).1⟩ :: talk, oracle, after, y, ?_, .next rfl h.asks, ?_,
        h.outcome_eq, h.settled⟩
      · rw [h.oracles_eq]
        rfl
      · exact List.forall_mem_cons.mpr ⟨hgives, h.unpriced⟩

end PriceOracle

/-- Oracles of any kind, put together so that one is asked after another. -/
inductive OracleTree (σ : Type) where
  | leaf (oracle : PriceOracle σ)
  | fallback (first second : OracleTree σ)

namespace OracleTree

open PriceOracle (inTurn)

variable {σ : Type}

/-- The oracle that a tree stands for. -/
def oracle : OracleTree σ → PriceOracle σ
  | leaf oracle => oracle
  | fallback first second => .fallback first.oracle second.oracle

/-- The leaves of a tree, from left to right. -/
def leaves : OracleTree σ → List (PriceOracle σ)
  | leaf oracle => [oracle]
  | fallback first second => first.leaves ++ second.leaves

/-- A tree asks its leaves in turn. -/
theorem exists_inTurn (t : OracleTree σ) :
    ∃ first rest, t.leaves = first :: rest ∧ t.oracle = inTurn first rest := by
  induction t with
  | leaf oracle => exact ⟨oracle, [], rfl, rfl⟩
  | fallback left right ihleft ihright =>
    obtain ⟨first, before, hleft, hfirst⟩ := ihleft
    obtain ⟨next, after, hright, hnext⟩ := ihright
    refine ⟨first, before ++ next :: after, ?_, ?_⟩
    · rw [leaves, hleft, hright, List.cons_append]
    · rw [PriceOracle.inTurn_append, ← hfirst, ← hnext]
      rfl

/--
The answer of a tree, and the state behind it, are those of the first leaf from the left that gives
a price greater than zero when it is asked after all those before it, and of the last leaf if there
is none. The leaves alone decide it, in whatever way they are put together.
-/
theorem answered_by_leaf (t : OracleTree σ) :
    (∀ symbol x, ∃ talk leaf after y,
      PriceOracle.Answers t.leaves symbol x (t.oracle symbol x) talk leaf after y) ∧
    ∀ u : OracleTree σ, u.leaves = t.leaves → u.oracle = t.oracle := by
  obtain ⟨first, rest, hleaves, horacle⟩ := t.exists_inTurn
  refine ⟨fun symbol x => ?_, fun u h => ?_⟩
  · rw [hleaves, horacle]
    exact PriceOracle.exists_answers first rest symbol x
  · obtain ⟨other, others, hothers, hother⟩ := u.exists_inTurn
    rw [hothers, hleaves] at h
    obtain ⟨rfl, rfl⟩ := List.cons.inj h
    rw [hother, horacle]

/--
Four leaves in two groupings: an error, a price of zero, a price that is taken, and a leaf that is
never asked.
-/
theorem answered_by_third_leaf :
    let telling (name : String) (answer : PriceAnswer) : OracleTree (List String) :=
      .leaf fun _ asked => (answer, asked ++ [name])
    let broken := telling "broken" (.error (.timeout "late"))
    let free := telling "free" (.ok (some .zero))
    let live := telling "live" (.ok (some (.literal 3500 0)))
    let spare := telling "spare" (.ok none)
    let paired := fallback (fallback broken free) (fallback live spare)
    let nested := fallback broken (fallback (fallback free live) spare)
    paired.leaves = nested.leaves ∧ paired.oracle = nested.oracle ∧
      nested.oracle "ETH" [] = (.ok (some (.literal 3500 0)), ["broken", "free", "live"]) := by
  intro telling broken free live spare paired nested
  exact ⟨rfl, (answered_by_leaf nested).2 paired rfl, rfl⟩

end OracleTree

end HourlySnapshots
