import HourlySnapshots.Proofs.Amounts.Products
import HourlySnapshots.Proofs.Collection.PricedBalances

/-!
# What an amount is worth

A zero amount is worth zero and an amount of a stable coin itself, and no oracle is asked about
either. All other amounts are worth their product with the price that the oracle gives, rounded as
products of amounts are. There is no value just when there is no price or the product is out of
range.
-/

namespace HourlySnapshots

/-! ## Names with blanks around them -/

namespace Text

/-- No blank is a lower-case letter. -/
theorem toUpper_of_isBlank {c : Char} (h : isBlank c = true) : c.toUpper = c := by
  unfold Char.toUpper
  split
  · next hlower =>
    have hcode : c.toNat = c.val.toNat := rfl
    simp only [UInt32.le_iff_toNat_le] at hlower
    simp only [isBlank, hcode, Bool.or_eq_true, Bool.and_eq_true, decide_eq_true_eq,
      beq_iff_eq] at h
    simp at hlower
    omega
  · rfl

end Text

/-- A symbol is the name of a stable coin in any ASCII case, possibly with blanks around it. -/
def NamesStablecoin (symbol : String) : Prop :=
  ∃ coin ∈ stablecoins, ∃ before name after, symbol.toList = before ++ name ++ after ∧
    (∀ c ∈ before, Text.isBlank c = true) ∧ name.map Char.toUpper = coin.toList ∧
      ∀ c ∈ after, Text.isBlank c = true

theorem isStablecoin_iff {symbol : String} :
    isStablecoin symbol = true ↔ NamesStablecoin symbol := by
  unfold isStablecoin NamesStablecoin
  rw [List.any_eq_true]
  refine exists_congr fun coin => and_congr_right fun hcoin => ?_
  rw [decide_eq_true_eq]
  constructor
  · intro h
    obtain ⟨before, after, hsymbol, hbefore, hafter⟩ := Text.exists_trim_between symbol.toList
    exact ⟨before, _, after, hsymbol, hbefore, h.symm, hafter⟩
  · rintro ⟨before, name, after, hsymbol, hbefore, hname, hafter⟩
    have hletters : ∀ coin ∈ stablecoins,
        coin.toList ≠ [] ∧ coin.toList.any Text.isBlank = false := by decide
    obtain ⟨hsome, hsolid⟩ := hletters coin hcoin
    have hne : name ≠ [] := by
      rintro rfl
      exact hsome hname.symm
    have hnone : ∀ c ∈ name, Text.isBlank c = false := by
      intro c hc
      by_contra hblank
      rw [Bool.not_eq_false] at hblank
      have hupper : c.toUpper ∈ coin.toList := hname ▸ List.mem_map_of_mem hc
      rw [Text.toUpper_of_isBlank hblank] at hupper
      rw [List.any_eq_true.mpr ⟨c, hupper, hblank⟩] at hsolid
      cases hsolid
    rw [hsymbol, Text.trim_between hbefore hnone hne hafter, hname]

/-! ## Values -/

section

variable {σ : Type} (oracle : PriceOracle σ) (symbol : String) (amount : Decimal) (x : σ)

/-- An amount of zero is worth zero, and nothing is asked. -/
theorem valueInUsd_of_zero (h : amount.isZero = true) :
    valueInUsd oracle symbol amount x = (some .zero, x) := by
  unfold valueInUsd
  rw [if_pos h]

/-- A stablecoin is worth its amount, and nothing is asked. -/
theorem valueInUsd_of_stablecoin (hamount : amount.isZero = false)
    (h : isStablecoin symbol = true) : valueInUsd oracle symbol amount x = (some amount, x) := by
  unfold valueInUsd
  rw [if_neg (by simp [hamount]), if_pos h]

theorem valueInUsd_of_price (hamount : amount.isZero = false) (h : isStablecoin symbol = false) :
    valueInUsd oracle symbol amount x =
      ((oracle symbol x).1.toOption.join.bind amount.mul?, (oracle symbol x).2) := by
  unfold valueInUsd
  rw [if_neg (by simp [hamount]), if_neg (by simp [h])]
  rcases oracle symbol x with ⟨e | (_ | price), y⟩ <;> rfl

/--
An amount has no value just when it is not zero, its symbol is not that of a stable coin, and the
oracle gives no price of it or one whose product with it is out of range. A zero amount is worth
zero and an amount of a stable coin itself, and the oracle is not asked. Every other value is the
product with the price that the oracle gives, rounded to the nearest in its last place, and exact
whenever the product is an amount.
-/
theorem valued_by_product :
    ((valueInUsd oracle symbol amount x).1 = none ↔
      amount.toRat ≠ 0 ∧ ¬ NamesStablecoin symbol ∧
        ∀ price, (oracle symbol x).1 = .ok (some price) →
          Decimal.limit ≤ |amount.toRat * price.toRat|) ∧
    (amount.toRat = 0 → valueInUsd oracle symbol amount x = (some .zero, x)) ∧
    (amount.toRat ≠ 0 → NamesStablecoin symbol →
      valueInUsd oracle symbol amount x = (some amount, x)) ∧
    (amount.toRat ≠ 0 → ¬ NamesStablecoin symbol →
      ∀ usd, (valueInUsd oracle symbol amount x).1 = some usd →
        ∃ price, (oracle symbol x).1 = .ok (some price) ∧
          usd.Rounds (amount.toRat * price.toRat)) := by
  simp only [ne_eq, ← Decimal.isZero_iff, ← isStablecoin_iff, Bool.not_eq_true]
  have hpriced {answer : PriceAnswer} {price : Decimal} :
      answer.toOption.join = some price ↔ answer = .ok (some price) := by
    rcases answer with e | (_ | other) <;> simp [Except.toOption]
  refine ⟨?_, valueInUsd_of_zero oracle symbol amount x,
    valueInUsd_of_stablecoin oracle symbol amount x, fun hamount hstable usd husd => ?_⟩
  · cases hamount : amount.isZero with
    | true => simp [valueInUsd_of_zero oracle symbol amount x hamount]
    | false =>
      cases hstable : isStablecoin symbol with
      | true => simp [valueInUsd_of_stablecoin oracle symbol amount x hamount hstable]
      | false =>
        rw [valueInUsd_of_price oracle symbol amount x hamount hstable, Option.bind_eq_none_iff]
        simp only [true_and, hpriced, Decimal.mul?_eq_none_iff]
  · rw [valueInUsd_of_price oracle symbol amount x hamount hstable] at husd
    obtain ⟨price, hprice, hproduct⟩ := Option.bind_eq_some_iff.mp husd
    exact ⟨price, hpriced.mp hprice, Decimal.rounds_of_mul? hproduct⟩

end

/--
The largest amount at half a dollar: no amount is the product, whose last digit is cut from the
middle. At two dollars it has no value.
-/
theorem valued_at_half_a_dollar :
    let amount := Decimal.literal 79228162514264337593543950335 0
    let priced (price : Decimal) : PriceOracle Unit := .constant (.ok (some price))
    let half := Decimal.literal 39614081257132168796771975168 0
    amount.toRat ≠ 0 ∧ ¬ NamesStablecoin " btc " ∧
      (valueInUsd (priced (.literal 5 1)) " btc " amount ()).1 = some half ∧
      half.Rounds (amount.toRat * (Decimal.literal 5 1).toRat) ∧
      Decimal.limit ≤ |amount.toRat * (Decimal.literal 2 0).toRat| := by
  intro amount priced half
  have hamount : amount.toRat ≠ 0 := mt Decimal.isZero_iff.mpr (by decide)
  have hsymbol : ¬ NamesStablecoin " btc " := mt isStablecoin_iff.mpr (by decide)
  have hhalf : (valueInUsd (priced (.literal 5 1)) " btc " amount ()).1 = some half := by
    decide +kernel
  obtain ⟨-, -, -, hvalued⟩ := valued_by_product (priced (.literal 5 1)) " btc " amount ()
  obtain ⟨price, hprice, hrounds⟩ := hvalued hamount hsymbol half hhalf
  obtain rfl := Option.some.inj (Except.ok.inj hprice)
  obtain ⟨hnone, -⟩ := valued_by_product (priced (.literal 2 0)) " btc " amount ()
  have hover : (valueInUsd (priced (.literal 2 0)) " btc " amount ()).1 = none := by decide +kernel
  exact ⟨hamount, hsymbol, hhalf, hrounds, (hnone.mp hover).2.2 _ rfl⟩

end HourlySnapshots
