import HourlySnapshots.Decimal
import Mathlib.Algebra.Order.Field.Rat
import Mathlib.Data.Rat.Cast.Order
import Mathlib.Tactic.FieldSimp
import Mathlib.Tactic.Linarith
import Mathlib.Tactic.Positivity
import Mathlib.Tactic.Ring

/-!
# Products of amounts

What a product comes to is told by the rational numbers that amounts stand for. It has no value just
when its whole part, rounded to the nearest, does not fit into 96 bits. Every other product is
rounded to the nearest in its last place, of which there are as many as fit, and it is exact whenever
some amount is.
-/

namespace HourlySnapshots

/-! ## Rounding to the nearest -/

/-- An even number is reached from half a unit below it on. -/
theorem le_roundHalfEven_iff {n num den : Nat} (heven : n % 2 = 0) (hpos : 0 < n)
    (hden : 0 < den) : n ≤ roundHalfEven num den ↔ (2 * n - 1) * den ≤ 2 * num := by
  have parts := Nat.div_add_mod num den
  have small := Nat.mod_lt num hden
  unfold roundHalfEven
  simp only
  generalize num / den = quotient at *
  generalize num % den = remainder at *
  rcases Nat.lt_trichotomy n (quotient + 1) with hbelow | rfl | habove
  · -- at most the quotient: both sides hold
    have hwhole : (2 * n - 1) * den ≤ 2 * (den * quotient) := by
      calc (2 * n - 1) * den ≤ (2 * quotient) * den := Nat.mul_le_mul_right den (by omega)
        _ = 2 * (den * quotient) := by ring
    refine iff_of_true ?_ (by omega)
    split
    · omega
    · split
      · omega
      · split <;> omega
  · -- the quotient is odd, so that the middle goes up
    have hwhole : (2 * (quotient + 1) - 1) * den = 2 * (den * quotient) + den := by
      have hodd : 2 * (quotient + 1) - 1 = 2 * quotient + 1 := by omega
      rw [hodd]
      ring
    rw [hwhole]
    split
    · omega
    · split
      · omega
      · split <;> omega
  · have hwhole : 2 * (den * quotient) + 3 * den ≤ (2 * n - 1) * den := by
      calc 2 * (den * quotient) + 3 * den = (2 * quotient + 3) * den := by ring
        _ ≤ (2 * n - 1) * den := Nat.mul_le_mul_right den (by omega)
    refine iff_of_false ?_ (by omega)
    split
    · omega
    · split
      · omega
      · split <;> omega

namespace Decimal

/-! ## Places that fit -/

section

variable {coefficient scale places n s : Nat}

/-- What is left of a number of units of `10 ^ -scale` at some places. -/
def roundedAt (coefficient scale places : Nat) : Nat :=
  roundHalfEven coefficient (10 ^ (scale - places))

theorem fit_eq_some (h : fit coefficient scale places = some (n, s)) :
    s ≤ places ∧ n = roundedAt coefficient scale s ∧ n < bound ∧
      ∀ more, s < more → more ≤ places → bound ≤ roundedAt coefficient scale more := by
  induction places with
  | zero =>
    rw [fit] at h
    split at h
    · next hlt =>
      obtain ⟨rfl, rfl⟩ := Prod.mk.inj (Option.some.inj h)
      exact ⟨le_rfl, rfl, hlt, by omega⟩
    · cases h
  | succ fewer ih =>
    rw [fit] at h
    split at h
    · next hlt =>
      obtain ⟨rfl, rfl⟩ := Prod.mk.inj (Option.some.inj h)
      exact ⟨le_rfl, rfl, hlt, by omega⟩
    · next hlt =>
      obtain ⟨hs, hn, hfits, hmore⟩ := ih h
      refine ⟨by omega, hn, hfits, fun more hless hle => ?_⟩
      rcases Nat.lt_or_ge fewer more with hlast | hbefore
      · obtain rfl : more = fewer + 1 := by omega
        exact Nat.le_of_not_lt hlt
      · exact hmore more hless hbefore

theorem bound_le_of_fit (h : fit coefficient scale places = none) :
    bound ≤ roundedAt coefficient scale 0 := by
  induction places with
  | zero =>
    rw [fit] at h
    split at h
    · cases h
    · next hlt => exact Nat.le_of_not_lt hlt
  | succ fewer ih =>
    rw [fit] at h
    split at h
    · cases h
    · exact ih h

end

/-! ## The numbers that amounts stand for -/

/-- The number that an amount stands for. -/
def toRat (d : Decimal) : ℚ := d.coefficient / 10 ^ d.scale

/-- The same number without its sign. -/
def size (d : Decimal) : ℚ := d.magnitude / 10 ^ d.scale

theorem size_nonneg (d : Decimal) : 0 ≤ d.size := by
  unfold size
  positivity

theorem toRat_eq (d : Decimal) : d.toRat = if d.negative then -d.size else d.size := by
  unfold toRat coefficient size
  cases d.negative with
  | false => simp
  | true => simp [neg_div]

theorem abs_toRat (d : Decimal) : |d.toRat| = d.size := by
  rw [toRat_eq]
  split
  · rw [abs_neg, abs_of_nonneg d.size_nonneg]
  · rw [abs_of_nonneg d.size_nonneg]

theorem isZero_iff {d : Decimal} : d.isZero = true ↔ d.toRat = 0 := by
  have hpos : (0 : ℚ) < 10 ^ d.scale := by positivity
  rw [← abs_eq_zero, abs_toRat, size, div_eq_zero_iff, or_iff_left hpos.ne', Nat.cast_eq_zero]
  simp [isZero]

/-- The product of two sizes counts the product of the magnitudes. -/
theorem size_mul (a b : Decimal) :
    a.size * b.size = ((a.magnitude * b.magnitude : Nat) : ℚ) / 10 ^ (a.scale + b.scale) := by
  unfold size
  rw [div_mul_div_comm, ← pow_add, Nat.cast_mul]

/-! ## Rounded numbers -/

/-- From here on a number that is rounded to a whole one has more than 96 bits. -/
def limit : ℚ := 2 ^ 96 - 1 / 2

section

variable {coefficient scale places : Nat}

theorem limit_le_iff (h : places ≤ scale) :
    bound ≤ roundedAt coefficient scale places ↔
      limit ≤ (coefficient : ℚ) / 10 ^ scale * 10 ^ places := by
  have hsplit : (10 : ℚ) ^ scale = 10 ^ (scale - places) * 10 ^ places :=
    (pow_sub_mul_pow 10 h).symm
  have hunit : (0 : ℚ) < 10 ^ (scale - places) := by positivity
  have hvalue : (coefficient : ℚ) / 10 ^ scale * 10 ^ places =
      coefficient / 10 ^ (scale - places) := by
    rw [hsplit]
    field_simp
  rw [roundedAt, le_roundHalfEven_iff (by decide) (by decide) (by positivity), hvalue,
    le_div_iff₀ hunit, ← Nat.cast_le (α := ℚ)]
  have hbound : ((2 * bound - 1 : Nat) : ℚ) = 2 * limit := by
    have hodd : 2 * bound - 1 = 2 ^ 97 - 1 := by decide
    rw [hodd, limit]
    norm_num
  rw [Nat.cast_mul, hbound, Nat.cast_mul, Nat.cast_pow]
  push_cast
  constructor
  · intro hle
    linarith
  · intro hle
    linarith

/-- Rounded to some places, a number moves by half a unit in the last of them at most. -/
theorem roundedAt_near (h : places ≤ scale) :
    |(roundedAt coefficient scale places : ℚ) / 10 ^ places - coefficient / 10 ^ scale| ≤
      1 / 2 * (1 / 10 ^ places) := by
  have hsplit : (10 : ℚ) ^ scale = 10 ^ (scale - places) * 10 ^ places :=
    (pow_sub_mul_pow 10 h).symm
  have hunit : (0 : ℚ) < 10 ^ (scale - places) := by positivity
  have hplaces : (0 : ℚ) < 10 ^ places := by positivity
  obtain ⟨hbelow, habove⟩ := roundHalfEven_near coefficient
    (show 0 < 10 ^ (scale - places) by positivity)
  rw [← roundedAt] at hbelow habove
  have hbelow' : 2 * ((roundedAt coefficient scale places : ℚ) * 10 ^ (scale - places)) ≤
      2 * coefficient + 10 ^ (scale - places) := by exact_mod_cast hbelow
  have habove' : 2 * (coefficient : ℚ) ≤
      2 * (roundedAt coefficient scale places * 10 ^ (scale - places)) + 10 ^ (scale - places) := by
    exact_mod_cast habove
  have hdifference : (roundedAt coefficient scale places : ℚ) / 10 ^ places -
      coefficient / 10 ^ scale =
        (roundedAt coefficient scale places * 10 ^ (scale - places) - coefficient) /
          10 ^ scale := by
    rw [hsplit]
    field_simp
  have hhalf : 1 / 2 * (1 / (10 : ℚ) ^ places) = (10 ^ (scale - places) / 2) / 10 ^ scale := by
    rw [hsplit]
    field_simp
  rw [hdifference, hhalf, abs_div, abs_of_pos (show (0 : ℚ) < 10 ^ scale by positivity)]
  refine div_le_div_of_nonneg_right ?_ (by positivity)
  rw [abs_le]
  constructor
  · linarith
  · linarith

end

/--
An amount stands for a number as well as it can: it is off by half a unit in its last place at most;
off by more than half a unit in the 28th place only if one place more would not fit; and not at all
if any amount is exact.
-/
structure Rounds (d : Decimal) (q : ℚ) : Prop where
  near : |d.toRat - q| ≤ 1 / 2 * (1 / 10 ^ d.scale)
  places : |d.toRat - q| ≤ 1 / 2 * (1 / 10 ^ 28) ∨ limit ≤ |q| * 10 ^ (d.scale + 1)
  exact : ∀ e : Decimal, e.toRat = q → d.toRat = q

/-! ## Products -/

section

variable {a b v : Decimal}

/-- No amount but zero is smaller than one unit in the last place that there is. -/
theorem toRat_eq_zero_of_size_lt (h : v.size < 1 / 10 ^ 28) : v.toRat = 0 := by
  rw [← isZero_iff]
  by_contra hzero
  have hone : (1 : ℚ) ≤ v.magnitude := by
    have hmagnitude : v.magnitude ≠ 0 := by simpa [isZero] using hzero
    exact_mod_cast Nat.one_le_iff_ne_zero.mpr hmagnitude
  have hscale : (10 : ℚ) ^ v.scale ≤ 10 ^ 28 := pow_le_pow_right₀ (by norm_num) v.scale_le
  have hsize : 1 / (10 : ℚ) ^ 28 ≤ v.size := by
    calc 1 / (10 : ℚ) ^ 28 ≤ 1 / 10 ^ v.scale := one_div_le_one_div_of_le (by positivity) hscale
      _ ≤ v.size := div_le_div_of_nonneg_right hone (by positivity)
  exact absurd h (not_lt.mpr hsize)

/-- An amount that has the sign of a product, or is zero, is as far from it as the sizes are. -/
theorem abs_toRat_sub_mul (h : v.negative = (a.negative != b.negative) ∨ v.size = 0) :
    |v.toRat - a.toRat * b.toRat| = |v.size - a.size * b.size| := by
  have hproduct : a.toRat * b.toRat =
      if (a.negative != b.negative) = true then -(a.size * b.size) else a.size * b.size := by
    rw [toRat_eq, toRat_eq]
    cases a.negative <;> cases b.negative <;> simp
  rw [hproduct, toRat_eq]
  rcases h with hsign | hzero
  · rw [hsign]
    split
    · rw [neg_sub_neg, abs_sub_comm]
    · rfl
  · have hvalue : (if v.negative = true then -v.size else v.size) = 0 := by
      rw [hzero, neg_zero, ite_self]
    rw [hvalue, hzero, zero_sub, zero_sub, abs_neg, abs_neg]
    split
    · rw [abs_neg]
    · rfl

/--
What a product comes to: it vanishes where it is next to nothing, or else it is rounded to as many
places as fit, of those that it has itself and of 28.
-/
theorem mul?_cases (a b : Decimal) :
    (a.size * b.size ≤ 1 / 2 * (1 / 10 ^ 28) ∧ a.mul? b = some zero) ∨
    (fit (a.magnitude * b.magnitude) (a.scale + b.scale) (min (a.scale + b.scale) 28) = none ∧
      a.mul? b = none) ∨
    ∃ n s v, fit (a.magnitude * b.magnitude) (a.scale + b.scale) (min (a.scale + b.scale) 28) =
        some (n, s) ∧
      a.mul? b = some v ∧ v.magnitude = n ∧ v.scale = s ∧
        (v.negative = (a.negative != b.negative) ∨ v.size = 0) := by
  by_cases hvanishes : a.magnitude * b.magnitude = 0 ∨
      ((a.isShort && b.isShort) = true ∧ 47 < a.scale + b.scale)
  · refine .inl ⟨?_, if_pos hvanishes⟩
    rw [size_mul]
    rcases hvanishes with hzero | ⟨hshort, hscale⟩
    · rw [hzero, Nat.cast_zero, zero_div]
      positivity
    · have hmagnitude : a.magnitude * b.magnitude < 2 ^ 64 := by
        rw [Bool.and_eq_true, isShort, isShort, decide_eq_true_eq, decide_eq_true_eq] at hshort
        calc a.magnitude * b.magnitude < 2 ^ 32 * 2 ^ 32 :=
              Nat.mul_lt_mul'' hshort.1 hshort.2
          _ = 2 ^ 64 := by norm_num
      have hunits : ((a.magnitude * b.magnitude : Nat) : ℚ) ≤ 2 ^ 64 := by exact_mod_cast hmagnitude.le
      have hplaces : (10 : ℚ) ^ 48 ≤ 10 ^ (a.scale + b.scale) :=
        pow_le_pow_right₀ (by norm_num) hscale
      calc ((a.magnitude * b.magnitude : Nat) : ℚ) / 10 ^ (a.scale + b.scale)
          ≤ 2 ^ 64 / 10 ^ 48 := div_le_div₀ (by positivity) hunits (by positivity) hplaces
        _ ≤ 1 / 2 * (1 / 10 ^ 28) := by norm_num
  · have hmul : a.mul? b =
        (fit (a.magnitude * b.magnitude) (a.scale + b.scale) (min (a.scale + b.scale) 28)).bind
          fun rounded => ofSigned?
            (a.negative != b.negative && !(a.isShort && b.isShort && rounded.1 == 0))
            rounded.1 rounded.2 := if_neg hvanishes
    cases hfit : fit (a.magnitude * b.magnitude) (a.scale + b.scale)
        (min (a.scale + b.scale) 28) with
    | none => exact .inr (.inl ⟨rfl, by rw [hmul, hfit, Option.bind_none]⟩)
    | some rounded =>
      obtain ⟨n, s⟩ := rounded
      obtain ⟨hs, -, hn, -⟩ := fit_eq_some hfit
      have hplaces : s ≤ 28 := by omega
      let sign := a.negative != b.negative && !(a.isShort && b.isShort && n == 0)
      refine .inr (.inr ⟨n, s, ⟨sign, n, s, hn, hplaces⟩, rfl, ?_, rfl, rfl, ?_⟩)
      · rw [hmul, hfit, Option.bind_some, ofSigned?, dif_pos ⟨hn, hplaces⟩]
      · cases n with
        | zero => exact .inr (by simp [size])
        | succ n => exact .inl (by simp [sign])

/-- A product has no value just when its whole part does not fit. -/
theorem mul?_eq_none_iff : a.mul? b = none ↔ limit ≤ |a.toRat * b.toRat| := by
  rw [abs_mul, abs_toRat, abs_toRat]
  rcases mul?_cases a b with ⟨hsmall, hmul⟩ | ⟨hfit, hmul⟩ | ⟨n, s, v, hfit, hmul, -⟩
  · refine iff_of_false (by rw [hmul]; simp) (not_le.mpr ?_)
    calc a.size * b.size ≤ 1 / 2 * (1 / 10 ^ 28) := hsmall
      _ < limit := by rw [limit]; norm_num
  · refine iff_of_true hmul ?_
    have hlimit := (limit_le_iff (Nat.zero_le _)).mp (bound_le_of_fit hfit)
    rwa [pow_zero, mul_one, ← size_mul] at hlimit
  · refine iff_of_false (by rw [hmul]; simp) fun hlimit => ?_
    obtain ⟨hs, hn, hlt, -⟩ := fit_eq_some hfit
    have hmore : a.size * b.size ≤ a.size * b.size * 10 ^ s :=
      le_mul_of_one_le_right (mul_nonneg a.size_nonneg b.size_nonneg) (one_le_pow₀ (by norm_num))
    rw [size_mul a b] at hmore hlimit
    have hbound := (limit_le_iff (show s ≤ a.scale + b.scale by omega)).mpr (hlimit.trans hmore)
    rw [← hn] at hbound
    omega

/-- At as many places as fit, a number that is an amount is met exactly. -/
theorem roundedAt_exact {coefficient scale s : Nat} {e : Decimal} (hs : s ≤ scale)
    (hfits : ∀ more, s < more → more ≤ min scale 28 → bound ≤ roundedAt coefficient scale more)
    (he : e.size = (coefficient : ℚ) / 10 ^ scale) :
    (roundedAt coefficient scale s : ℚ) / 10 ^ s = coefficient / 10 ^ scale := by
  -- the places of the amount, or those that there are, do fit
  have henough : min e.scale scale ≤ s := by
    by_contra hless
    have hplaces : min e.scale scale ≤ min scale 28 := by
      have := e.scale_le
      omega
    have hlimit := (limit_le_iff (min_le_right _ _)).mp (hfits _ (by omega) hplaces)
    have hmagnitude : e.size * 10 ^ min e.scale scale ≤ e.magnitude := by
      calc e.size * 10 ^ min e.scale scale ≤ e.size * 10 ^ e.scale :=
            mul_le_mul_of_nonneg_left (pow_le_pow_right₀ (by norm_num) (min_le_left _ _))
              e.size_nonneg
        _ = e.magnitude := div_mul_cancel₀ _ (by positivity)
    have hlt : (e.magnitude : ℚ) ≤ 2 ^ 96 - 1 := by
      have hle : e.magnitude + 1 ≤ 2 ^ 96 := e.magnitude_lt
      have hcast : (e.magnitude : ℚ) + 1 ≤ 2 ^ 96 := by exact_mod_cast hle
      linarith
    rw [← he, limit] at hlimit
    linarith
  rcases Nat.le_total scale e.scale with hlong | hshort
  · obtain rfl : s = scale := by omega
    rw [roundedAt, Nat.sub_self, pow_zero, roundHalfEven_one]
  · have hwhole : coefficient = e.magnitude * 10 ^ (s - e.scale) * 10 ^ (scale - s) := by
      have hsplit : (10 : ℚ) ^ scale = 10 ^ e.scale * (10 ^ (s - e.scale) * 10 ^ (scale - s)) := by
        rw [← pow_add, ← pow_add]
        congr 1
        omega
      rw [size, hsplit, eq_div_iff (by positivity)] at he
      have hcast : (coefficient : ℚ) =
          ((e.magnitude * 10 ^ (s - e.scale) * 10 ^ (scale - s) : Nat) : ℚ) := by
        rw [← he]
        push_cast
        field_simp
      exact_mod_cast hcast
    have hsplit : (10 : ℚ) ^ scale = 10 ^ s * 10 ^ (scale - s) := by
      rw [← pow_add]
      congr 1
      omega
    rw [roundedAt, hwhole, roundHalfEven_mul _ (by positivity), hsplit]
    push_cast
    field_simp

/-- Zero stands for a product that is next to nothing as well as it can. -/
theorem rounds_zero (hsmall : a.size * b.size ≤ 1 / 2 * (1 / 10 ^ 28)) :
    zero.Rounds (a.toRat * b.toRat) := by
  have hzero : zero.toRat = 0 := isZero_iff.mp rfl
  have hproduct : |a.toRat * b.toRat| = a.size * b.size := by
    rw [abs_mul, abs_toRat, abs_toRat]
  have hdistance : |zero.toRat - a.toRat * b.toRat| ≤ 1 / 2 * (1 / 10 ^ 28) := by
    rw [hzero, zero_sub, abs_neg, hproduct]
    exact hsmall
  refine ⟨hdistance.trans ?_, .inl hdistance, fun e he => ?_⟩
  · have hscale : (10 : ℚ) ^ zero.scale = 1 := pow_zero _
    rw [hscale]
    norm_num
  · rw [hzero, ← he]
    refine (toRat_eq_zero_of_size_lt ?_).symm
    rw [← abs_toRat, he, hproduct]
    exact lt_of_le_of_lt hsmall (by norm_num)

/-- The value of a product stands for it as well as it can. -/
theorem rounds_of_mul? (h : a.mul? b = some v) : v.Rounds (a.toRat * b.toRat) := by
  rcases mul?_cases a b with ⟨hsmall, hmul⟩ | ⟨-, hmul⟩ | ⟨n, s, w, hfit, hmul, hn, hs, hsign⟩
  · obtain rfl := Option.some.inj (h.symm.trans hmul)
    exact rounds_zero hsmall
  · rw [h] at hmul
    cases hmul
  · obtain rfl := Option.some.inj (h.symm.trans hmul)
    subst hn hs
    obtain ⟨hs, hn, -, hmore⟩ := fit_eq_some hfit
    have hle : v.scale ≤ a.scale + b.scale := by omega
    have hdistance : |v.toRat - a.toRat * b.toRat| =
        |(roundedAt (a.magnitude * b.magnitude) (a.scale + b.scale) v.scale : ℚ) / 10 ^ v.scale -
          (a.magnitude * b.magnitude : Nat) / 10 ^ (a.scale + b.scale)| := by
      rw [abs_toRat_sub_mul hsign, size_mul, size, hn]
    have hnear := hdistance.le.trans (roundedAt_near hle)
    refine ⟨hnear, ?_, fun e he => ?_⟩
    · rcases Nat.lt_or_ge v.scale (min (a.scale + b.scale) 28) with hless | hall
      · right
        rw [abs_mul, abs_toRat, abs_toRat, size_mul]
        exact (limit_le_iff (by omega)).mp (hmore _ (by omega) (by omega))
      · left
        rcases Nat.le_total (a.scale + b.scale) 28 with hshort | hlong
        · -- all places of the product are there
          obtain hscale : v.scale = a.scale + b.scale := by omega
          rw [hdistance, hscale, roundedAt, Nat.sub_self, pow_zero, roundHalfEven_one, sub_self,
            abs_zero]
          positivity
        · obtain hscale : v.scale = 28 := by omega
          rwa [hscale] at hnear
    · have hsize : e.size = ((a.magnitude * b.magnitude : Nat) : ℚ) / 10 ^ (a.scale + b.scale) := by
        rw [← size_mul, ← abs_toRat, he, abs_mul, abs_toRat, abs_toRat]
      rw [← sub_eq_zero, ← abs_eq_zero, hdistance, roundedAt_exact hle hmore hsize, sub_self,
        abs_zero]

end

end Decimal

end HourlySnapshots
